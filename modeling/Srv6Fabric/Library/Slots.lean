import Mathlib.Algebra.Order.Ring.Nat
import Mathlib.Data.List.Induction
import Mathlib.Data.List.Nodup
import Mathlib.Data.List.Perm.Subperm

/-!
# First come, first served

Requesters take slots in the order they ask until none is free; asking again changes
nothing, and a request that gets no slot is counted.  Dropping earlier requests of those who
ask again later is harmless exactly when each of them gets a slot anyway.
-/

namespace Srv6Fabric.Library

variable {α : Type*} [DecidableEq α]

/-- One request: who holds no slot yet takes a free one. -/
def grant (slots : Nat) (held : List α) (request : α) : List α :=
  if request ∈ held ∨ slots ≤ held.length then held else held ++ [request]

/-- Who holds a slot after the requests. -/
def holders (slots : Nat) (requests : List α) : List α := requests.foldl (grant slots) []

/-- How often one requester went away without a slot. -/
def refused (slots : Nat) (requests : List α) (requester : α) : Nat :=
  if requester ∈ holders slots requests then 0 else requests.count requester

variable {slots : Nat} {requests : List α}

@[simp] theorem holders_nil (slots : Nat) : holders slots ([] : List α) = [] := rfl

theorem holders_snoc (slots : Nat) (requests : List α) (request : α) :
    holders slots (requests ++ [request]) = grant slots (holders slots requests) request := by
  rw [holders, List.foldl_append]
  rfl

/-- What the slots hold: requesters, each once, and all of them while a slot is free. -/
structure Served (slots : Nat) (requests held : List α) : Prop where
  nodup : held.Nodup
  fits : held.length ≤ slots
  asked : ∀ holder ∈ held, holder ∈ requests
  full : ∀ request ∈ requests, request ∈ held ∨ held.length = slots

theorem Served.grant {held : List α} (served : Served slots requests held) (request : α) :
    Served slots (requests ++ [request]) (grant slots held request) := by
  have fits := served.fits
  unfold Library.grant
  split_ifs with kept
  · refine ⟨served.nodup, fits, fun holder mem => List.mem_append_left _ (served.asked holder mem),
      fun other mem => ?_⟩
    rcases List.mem_append.mp mem with earlier | last
    · exact served.full other earlier
    · obtain rfl := List.mem_singleton.mp last
      exact kept.imp_right fun noneFree => le_antisymm fits noneFree
  · obtain ⟨fresh, free⟩ := not_or.mp kept
    refine ⟨?_, ?_, fun holder mem => ?_, fun other mem => ?_⟩
    · rw [List.nodup_append]
      refine ⟨served.nodup, List.nodup_singleton _, fun holder mem other isLast => ?_⟩
      rw [List.mem_singleton.mp isLast]
      exact fun same => fresh (same ▸ mem)
    · rw [List.length_append, List.length_singleton]
      omega
    · rcases List.mem_append.mp mem with earlier | last
      · exact List.mem_append_left _ (served.asked holder earlier)
      · exact List.mem_append_right _ last
    · rcases List.mem_append.mp mem with earlier | last
      · rcases served.full other earlier with holds | full
        · exact Or.inl (List.mem_append_left _ holds)
        · exact absurd full.ge free
      · exact Or.inl (List.mem_append_right _ last)

theorem served_holders (slots : Nat) (requests : List α) :
    Served slots requests (holders slots requests) := by
  induction requests using List.reverseRecOn with
  | nil => exact ⟨List.nodup_nil, Nat.zero_le _, by simp, by simp⟩
  | append_singleton requests request ih =>
      rw [holders_snoc]
      exact ih.grant request

/-- While a slot is free, who holds none has not asked. -/
theorem not_asked {requester : α} (none_ : requester ∉ holders slots requests)
    (free : (holders slots requests).length < slots) : requester ∉ requests := fun asked =>
  ((served_holders slots requests).full requester asked).elim none_ free.ne

theorem refused_eq_zero {requester : α} (holds : requester ∈ holders slots requests) :
    refused slots requests requester = 0 :=
  if_pos holds

theorem refused_of_not_mem {requester : α} (none_ : requester ∉ holders slots requests) :
    refused slots requests requester = requests.count requester :=
  if_neg none_

/-- Requesters that ask once each are served in their order. -/
theorem holders_of_nodup (nodup : requests.Nodup) :
    holders slots requests = requests.take slots := by
  induction requests using List.reverseRecOn with
  | nil => rw [holders_nil, List.take_nil]
  | append_singleton requests request ih =>
      obtain ⟨before, -, apart⟩ := List.nodup_append.mp nodup
      have fresh : request ∉ requests := fun mem =>
        apart request mem request (List.mem_singleton_self request) rfl
      rw [holders_snoc, ih before, grant, List.length_take]
      by_cases free : requests.length < slots
      · rw [if_neg, List.take_of_length_le free.le, List.take_of_length_le]
        · rw [List.length_append, List.length_singleton]
          exact free
        · rintro (mem | full)
          · exact fresh (List.mem_of_mem_take mem)
          · omega
      · rw [if_pos (Or.inr (by omega)), List.take_append_of_le_length (by omega)]

/-! ## Superseded requests -/

/-- The requests that no later one supersedes. -/
def standing (marked : List (α × Bool)) : List α := (marked.filter Prod.snd).map Prod.fst

omit [DecidableEq α] in
@[simp] theorem standing_append (marked later : List (α × Bool)) :
    standing (marked ++ later) = standing marked ++ standing later := by
  rw [standing, List.filter_append, List.map_append]
  rfl

omit [DecidableEq α] in
@[simp] theorem standing_cons_true (request : α) (rest : List (α × Bool)) :
    standing ((request, true) :: rest) = request :: standing rest := rfl

omit [DecidableEq α] in
@[simp] theorem standing_cons_false (request : α) (rest : List (α × Bool)) :
    standing ((request, false) :: rest) = standing rest := rfl

omit [DecidableEq α] in
theorem mem_standing {marked : List (α × Bool)} {request : α} :
    request ∈ standing marked ↔ (request, true) ∈ marked := by
  simp [standing]

/-- A requester asks once for each standing and each superseded request. -/
theorem count_requests (marked : List (α × Bool)) (requester : α) :
    (marked.map Prod.fst).count requester =
      (standing marked).count requester + marked.count (requester, false) := by
  induction marked with
  | nil => rfl
  | cons request rest ih =>
      obtain ⟨asker, stands⟩ := request
      cases stands with
      | true =>
          rw [standing_cons_true]
          simp only [List.map_cons, List.count_cons, ih, beq_iff_eq, Prod.mk.injEq, Bool.true_eq_false,
            and_false, if_false]
          omega
      | false =>
          rw [standing_cons_false]
          simp only [List.map_cons, List.count_cons, ih, beq_iff_eq, Prod.mk.injEq, and_true]
          omega

variable {marked : List (α × Bool)}

/-- Everybody is treated as if only the standing requests had been made. -/
structure SameService (slots : Nat) (marked : List (α × Bool)) : Prop where
  holds : ∀ requester, requester ∈ holders slots (marked.map Prod.fst) ↔
    requester ∈ holders slots (standing marked)
  refusals : ∀ requester,
    refused slots (marked.map Prod.fst) requester = refused slots (standing marked) requester

/-- Only those get a slot who get one by their standing requests: a superseded request is
one of these, and a standing one finds as many slots taken as there were standing ones. -/
theorem holders_subset (nodup : (standing marked).Nodup)
    (safe : ∀ request, (request, false) ∈ marked → request ∈ (standing marked).take slots)
    {before after : List (α × Bool)} (split : before ++ after = marked) :
    ∀ holder ∈ holders slots (before.map Prod.fst), holder ∈ (standing marked).take slots := by
  induction before using List.reverseRecOn generalizing after with
  | nil => exact fun holder mem => absurd mem List.not_mem_nil
  | append_singleton before request ih =>
      obtain ⟨asker, stands⟩ := request
      have earlier := ih (by rw [← split, List.append_assoc])
      have mem : (asker, stands) ∈ marked := by
        rw [← split]
        exact List.mem_append_left _ (List.mem_append_right _ List.mem_cons_self)
      rw [List.map_append, List.map_singleton, holders_snoc, grant]
      split_ifs with kept
      · exact earlier
      · intro holder isHolder
        rcases List.mem_append.mp isHolder with old | new
        · exact earlier holder old
        · obtain rfl := List.mem_singleton.mp new
          cases stands with
          | false => exact safe holder mem
          | true =>
              obtain ⟨-, free⟩ := not_or.mp kept
              have order : standing marked = standing before ++ holder :: standing after := by
                rw [← split, standing_append, standing_append, List.append_assoc]
                rfl
              have all : standing before ⊆ holders slots (before.map Prod.fst) := fun other isStanding =>
                ((served_holders slots _).full other
                  (List.mem_map_of_mem (mem_standing.mp isStanding))).resolve_right fun full =>
                    free full.ge
              have distinct : (standing before).Nodup := by
                rw [order] at nodup
                exact (List.nodup_append.mp nodup).1
              have short := (distinct.subperm all).length_le
              rw [order, List.mem_take_iff_getElem]
              refine ⟨(standing before).length, by simp; omega, ?_⟩
              simp

/-- And all of them do. -/
theorem subset_holders (nodup : (standing marked).Nodup)
    (safe : ∀ request, (request, false) ∈ marked → request ∈ (standing marked).take slots)
    {holder : α} (mem : holder ∈ (standing marked).take slots) :
    holder ∈ holders slots (marked.map Prod.fst) := by
  have served := served_holders slots (marked.map Prod.fst)
  have asked : holder ∈ marked.map Prod.fst :=
    List.mem_map_of_mem (mem_standing.mp (List.mem_of_mem_take mem))
  rcases served.full holder asked with holds | full
  · exact holds
  · have within := holders_subset nodup safe (List.append_nil marked)
    have short : ((standing marked).take slots).length ≤
        (holders slots (marked.map Prod.fst)).length := by
      rw [full, List.length_take]
      exact min_le_left _ _
    exact ((served.nodup.subperm within).perm_of_length_le short).mem_iff.mpr mem

/-- Superseded requests change nothing exactly when each comes from a requester that a
standing request gets a slot. -/
theorem sameService_iff (nodup : (standing marked).Nodup) : SameService slots marked ↔
    ∀ request, (request, false) ∈ marked → request ∈ (standing marked).take slots := by
  constructor
  · intro same request superseded
    by_contra none_
    have noSlot : request ∉ holders slots (standing marked) := by
      rwa [holders_of_nodup nodup]
    have refusals := same.refusals request
    rw [refused_of_not_mem noSlot, refused_of_not_mem (mt (same.holds request).mp noSlot),
      count_requests] at refusals
    have counted := List.count_pos_iff.mpr superseded
    omega
  · intro safe
    have holds (requester : α) : requester ∈ holders slots (marked.map Prod.fst) ↔
        requester ∈ holders slots (standing marked) := by
      rw [holders_of_nodup nodup]
      exact ⟨holders_subset nodup safe (List.append_nil marked) requester,
        subset_holders nodup safe⟩
    refine ⟨holds, fun requester => ?_⟩
    by_cases slot : requester ∈ holders slots (standing marked)
    · rw [refused_eq_zero slot, refused_eq_zero ((holds requester).mpr slot)]
    · have none_ : marked.count (requester, false) = 0 := List.count_eq_zero.mpr fun superseded =>
        slot (by rw [holders_of_nodup nodup]; exact safe requester superseded)
      rw [refused_of_not_mem slot, refused_of_not_mem (mt (holds requester).mp slot), count_requests,
        none_, Nat.add_zero]

end Srv6Fabric.Library

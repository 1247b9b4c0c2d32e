import Mathlib.Algebra.GroupWithZero.Nat
import Mathlib.Data.List.DropRight
import Mathlib.Data.List.Nodup

/-!
# Counting in lists

Two counts a state machine keeps.  An incremental counter that some events clear and
others bump holds, after any history, the number of bumps that follow the last
clearing event.  A count over distinct positions splits off any one position.
-/

namespace Srv6Fabric.Library

variable {α : Type*}

/-- The part of a history that follows its last `reset` event. -/
def sinceLast (reset : α → Bool) (history : List α) : List α :=
  history.rtakeWhile fun event => !reset event

/-- Number of `hit` events after the last `reset` event. -/
def countSince (reset hit : α → Bool) (history : List α) : Nat :=
  (sinceLast reset history).countP hit

/-- One more event either clears the count or adds its own hit to it. -/
theorem countSince_snoc (reset hit : α → Bool) (history : List α) (event : α) :
    countSince reset hit (history ++ [event]) =
      if reset event then 0
      else countSince reset hit history + if hit event then 1 else 0 := by
  unfold countSince sinceLast
  cases cleared : reset event with
  | true =>
      rw [List.rtakeWhile_concat_neg _ _ _ (by simp [cleared])]
      rfl
  | false =>
      rw [List.rtakeWhile_concat_pos _ _ _ (by simp [cleared]), List.countP_append]
      simp

/-- In a list without repetition one member contributes at most one to a count. -/
theorem countP_eq_others_add [DecidableEq α] {positions : List α}
    (nodup : positions.Nodup) {chosen : α} (mem : chosen ∈ positions) (test : α → Bool) :
    positions.countP test =
      (positions.countP fun other => other ≠ chosen ∧ test other)
        + if test chosen then 1 else 0 := by
  have split := List.perm_cons_erase mem
  have others : (positions.erase chosen).countP test =
      (positions.erase chosen).countP fun other => other ≠ chosen ∧ test other := by
    apply List.countP_congr
    intro other otherMem
    simp [(nodup.mem_erase_iff.mp otherMem).1]
  rw [split.countP_eq, split.countP_eq, List.countP_cons, List.countP_cons, others]
  simp

/-- Tests that exclude each other are counted apart. -/
theorem countP_or_of_exclusive {first second : α → Prop} [DecidablePred first]
    [DecidablePred second] (exclusive : ∀ item, first item → ¬ second item) (items : List α) :
    (items.countP fun item => first item ∨ second item) =
      (items.countP fun item => first item) + items.countP fun item => second item := by
  induction items with
  | nil => rfl
  | cons item items ih =>
      rw [List.countP_cons, List.countP_cons, List.countP_cons, ih]
      by_cases isFirst : first item
      · simp only [isFirst, exclusive item isFirst, or_false, decide_true, decide_false, if_true,
          Bool.false_eq_true, if_false]
        omega
      · simp only [isFirst, false_or, decide_false, Bool.false_eq_true, if_false]
        omega

/-- What has one of several keys is counted key by key. -/
theorem countP_mem_eq_sum {β : Type*} [DecidableEq β] {keys : List β} (nodup : keys.Nodup)
    (items : List α) (read : α → β) :
    (items.countP fun item => read item ∈ keys) =
      (keys.map fun key => items.countP fun item => read item = key).sum := by
  induction keys with
  | nil => simp
  | cons key keys ih =>
      obtain ⟨fresh, nodupKeys⟩ := List.nodup_cons.mp nodup
      have apart : ∀ item, read item = key → read item ∉ keys := fun item same => same ▸ fresh
      rw [List.map_cons, List.sum_cons, ← ih nodupKeys, ← countP_or_of_exclusive apart]
      simp only [List.mem_cons]

theorem length_eq_sum_of_mem {β : Type*} [DecidableEq β] {keys : List β} (nodup : keys.Nodup)
    {items : List α} {read : α → β} (all : ∀ item ∈ items, read item ∈ keys) :
    items.length = (keys.map fun key => items.countP fun item => read item = key).sum := by
  rw [← countP_mem_eq_sum nodup]
  exact (List.countP_eq_length.mpr fun item mem => decide_eq_true (all item mem)).symm

/-- The numbers from a start on for which a test holds, as long as it does. -/
theorem le_length_takeWhile_range' (test : Nat → Bool) (start count length : Nat) :
    length ≤ ((List.range' start count).takeWhile test).length ↔
      length ≤ count ∧ ∀ index < length, test (start + index) := by
  induction count generalizing start length with
  | zero =>
      rw [List.range'_zero, List.takeWhile_nil, List.length_nil]
      exact ⟨fun none => ⟨none, fun index below => absurd below (by omega)⟩, And.left⟩
  | succ count ih =>
      rw [List.range'_succ, List.takeWhile_cons]
      cases length with
      | zero => exact ⟨fun _ => ⟨Nat.zero_le _, fun index below => absurd below (Nat.not_lt_zero _)⟩,
          fun _ => Nat.zero_le _⟩
      | succ length =>
          cases passes : test start with
          | false =>
              constructor
              · intro long
                exact absurd long (Nat.not_succ_le_zero _)
              · rintro ⟨-, all⟩
                have first := all 0 (Nat.succ_pos _)
                rw [Nat.add_zero, passes] at first
                cases first
          | true =>
              rw [if_pos rfl, List.length_cons, Nat.add_le_add_iff_right, ih,
                Nat.add_le_add_iff_right]
              refine and_congr_right fun _ => ⟨fun all index below => ?_, fun all index below => ?_⟩
              · cases index with
                | zero => exact passes
                | succ index =>
                    rw [Nat.add_comm index 1, ← Nat.add_assoc]
                    exact all index (Nat.lt_of_succ_lt_succ below)
              · rw [Nat.add_assoc, Nat.add_comm 1 index]
                exact all (index + 1) (Nat.succ_lt_succ below)

end Srv6Fabric.Library

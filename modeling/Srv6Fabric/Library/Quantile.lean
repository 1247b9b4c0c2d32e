import Mathlib.Data.List.Count
import Mathlib.Data.Rat.Cast.Order
import Mathlib.Order.Bounds.Basic

/-!
# Quantiles of a list of samples

The quantile of a target is the least sample with that many samples at or below it.  It is
found by adding up the counts of the distinct values in increasing order, and it grows with
the target.
-/

namespace Srv6Fabric.Library

variable {κ : Type*} [LinearOrder κ]

/-- The least sample that has at least `target` samples at or below it. -/
def IsQuantile (samples : List κ) (target : ℚ) (value : κ) : Prop :=
  IsLeast {value | value ∈ samples ∧ target ≤ samples.countP (· ≤ value)} value

namespace IsQuantile

variable {samples : List κ} {target further : ℚ} {value later : κ}

theorem mono (quantile : IsQuantile samples target value)
    (onward : IsQuantile samples further later) (le : target ≤ further) : value ≤ later :=
  quantile.2 ⟨onward.1.1, le.trans onward.1.2⟩

/-- All samples are at or below the quantile of their number. -/
theorem le_of_all (quantile : IsQuantile samples samples.length value) {sample : κ}
    (mem : sample ∈ samples) : sample ≤ value := by
  have all : samples.countP (· ≤ value) = samples.length :=
    le_antisymm List.countP_le_length (by exact_mod_cast quantile.1.2)
  exact of_decide_eq_true (List.countP_eq_length.mp all sample mem)

end IsQuantile

/-- In increasing order, the sample with `before` in front of it is the quantile of its rank. -/
theorem isQuantile_of_sorted {samples before after : List κ} {value : κ}
    (sorted : (before ++ value :: after).Pairwise (· ≤ ·))
    (perm : (before ++ value :: after).Perm samples) :
    IsQuantile samples ((before.length + 1 : Nat) : ℚ) value := by
  obtain ⟨-, upper, across⟩ := List.pairwise_append.mp sorted
  obtain ⟨later, -⟩ := List.pairwise_cons.mp upper
  refine ⟨⟨perm.subset (by simp), ?_⟩, ?_⟩
  · have all : before.countP (· ≤ value) = before.length :=
      List.countP_eq_length.mpr fun sample mem =>
        decide_eq_true (across sample mem value List.mem_cons_self)
    have counted : before.length + 1 ≤ samples.countP (· ≤ value) := by
      rw [← perm.countP_eq, List.countP_append, List.countP_cons_of_pos (by simp), all]
      omega
    exact_mod_cast counted
  · rintro other ⟨-, enough⟩
    by_contra smaller
    have none_ : (value :: after).countP (· ≤ other) = 0 := by
      refine List.countP_eq_zero.mpr fun sample mem upTo => smaller ?_
      rcases List.mem_cons.mp mem with rfl | isLater
      · exact of_decide_eq_true upTo
      · exact (later sample isLater).trans (of_decide_eq_true upTo)
    have few : samples.countP (· ≤ other) ≤ before.length := by
      rw [← perm.countP_eq, List.countP_append, none_, Nat.add_zero]
      exact List.countP_le_length
    have many : before.length + 1 ≤ samples.countP (· ≤ other) := by exact_mod_cast enough
    omega

/-- Reading a sorted copy of the samples at a position gives the quantile of its rank. -/
theorem isQuantile_of_getElem? {samples sorted : List κ} (isSorted : sorted.Pairwise (· ≤ ·))
    (perm : sorted.Perm samples) {position : Nat} {value : κ}
    (found : sorted[position]? = some value) :
    IsQuantile samples ((position + 1 : Nat) : ℚ) value := by
  obtain ⟨inside, isValue⟩ := List.getElem?_eq_some_iff.mp found
  have parts : sorted.take position ++ value :: sorted.drop (position + 1) = sorted := by
    rw [← isValue, ← List.drop_eq_getElem_cons inside, List.take_append_drop]
  rw [← parts] at isSorted perm
  have quantile := isQuantile_of_sorted isSorted perm
  rwa [List.length_take, min_eq_left inside.le] at quantile

/-- The first value at which the counts, added up from `cum`, reach the target. -/
def firstReaching (count : κ → Nat) (target : ℚ) (cum : Nat) : List κ → Option κ
  | [] => none
  | value :: rest =>
      let cum := cum + count value
      if target ≤ cum then some value else firstReaching count target cum rest

/-- The samples that are not among the later values are those up to this one. -/
theorem countP_not_mem_rest {samples rest : List κ} {value : κ}
    (sorted : (value :: rest).Pairwise (· < ·))
    (below : ∀ sample ∈ samples, sample ∉ value :: rest → sample < value) :
    samples.countP (· ∉ rest) = samples.countP (· ≤ value) := by
  refine List.countP_congr fun sample mem => ?_
  obtain ⟨later, -⟩ := List.pairwise_cons.mp sorted
  rw [decide_eq_true_eq, decide_eq_true_eq]
  constructor
  · intro notLater
    rcases eq_or_ne sample value with same | other
    · exact same.le
    · exact (below sample mem (by simp [other, notLater])).le
  · intro upTo isLater
    exact absurd (later sample isLater) (not_lt.mpr upTo)

/-- One value joins those that are counted. -/
theorem countP_not_mem_cons {samples rest : List κ} {value : κ} (fresh : value ∉ rest) :
    samples.countP (· ∉ value :: rest) + samples.count value = samples.countP (· ∉ rest) := by
  induction samples with
  | nil => rfl
  | cons sample others ih =>
      rw [List.countP_cons, List.countP_cons, List.count_cons, ← ih]
      rcases eq_or_ne sample value with rfl | other
      · simp [fresh]
        omega
      · simp [other]
        omega

/-- The scan of the values that are left finds the quantile, if those before have not. -/
theorem firstReaching_suffix {samples rest : List κ} {target : ℚ} {cum : Nat}
    (sorted : rest.Pairwise (· < ·)) (isSample : ∀ value ∈ rest, value ∈ samples)
    (below : ∀ sample ∈ samples, sample ∉ rest → ∀ value ∈ rest, sample < value)
    (counted : cum = samples.countP (· ∉ rest)) (short : (cum : ℚ) < target)
    (missed : ∀ sample ∈ samples, sample ∉ rest → (samples.countP (· ≤ sample) : ℚ) < target)
    (few : target ≤ samples.length) :
    ∃ value, firstReaching samples.count target cum rest = some value ∧
      IsQuantile samples target value := by
  induction rest generalizing cum with
  | nil =>
      have all : samples.countP (· ∉ []) = samples.length :=
        List.countP_eq_length.mpr fun _ _ => by simp
      rw [counted, all] at short
      exact absurd few (not_le.mpr short)
  | cons value rest ih =>
      obtain ⟨later, sortedRest⟩ := List.pairwise_cons.mp sorted
      have fresh : value ∉ rest := fun mem => lt_irrefl _ (later value mem)
      have total : cum + samples.count value = samples.countP (· ≤ value) := by
        rw [counted, countP_not_mem_cons fresh]
        exact countP_not_mem_rest sorted fun sample mem notHere =>
          below sample mem notHere value List.mem_cons_self
      unfold firstReaching
      dsimp only
      rw [total]
      by_cases reached : target ≤ (samples.countP (· ≤ value) : ℚ)
      · rw [if_pos reached]
        refine ⟨value, rfl, ⟨isSample value List.mem_cons_self, reached⟩, ?_⟩
        rintro other ⟨otherMem, enough⟩
        by_contra smaller
        have before : other ∉ value :: rest := by
          intro mem
          rcases List.mem_cons.mp mem with rfl | isLater
          · exact smaller le_rfl
          · exact smaller (later other isLater).le
        exact not_le.mpr (missed other otherMem before) enough
      · rw [if_neg reached]
        refine ih sortedRest (fun other mem => isSample other (List.mem_cons_of_mem _ mem)) ?_ ?_
          (not_le.mp reached) ?_
        · intro sample mem notLater other otherMem
          rcases eq_or_ne sample value with rfl | different
          · exact later other otherMem
          · exact below sample mem (by simp [different, notLater]) other
              (List.mem_cons_of_mem _ otherMem)
        · rw [← total, counted, countP_not_mem_cons fresh]
        · intro sample mem notLater
          rcases eq_or_ne sample value with rfl | different
          · exact not_le.mp reached
          · exact missed sample mem (by simp [different, notLater])

/-- The scan of all values in increasing order finds the quantile. -/
theorem firstReaching_isQuantile {samples values : List κ} {target : ℚ}
    (sorted : values.Pairwise (· < ·)) (same : ∀ value, value ∈ values ↔ value ∈ samples)
    (positive : 0 < target) (few : target ≤ samples.length) :
    ∃ value, firstReaching samples.count target 0 values = some value ∧
      IsQuantile samples target value := by
  have none_ : ∀ sample ∈ samples, ¬ sample ∉ values := fun sample mem absent =>
    absent ((same sample).mpr mem)
  refine firstReaching_suffix sorted (fun value mem => (same value).mp mem) ?_ ?_ ?_ ?_ few
  · exact fun sample mem absent => absurd absent (none_ sample mem)
  · symm
    rw [List.countP_eq_zero]
    intro sample mem
    simpa using none_ sample mem
  · exact_mod_cast positive
  · exact fun sample mem absent => absurd absent (none_ sample mem)

end Srv6Fabric.Library

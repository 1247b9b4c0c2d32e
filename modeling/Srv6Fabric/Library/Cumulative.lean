import Mathlib.Algebra.BigOperators.Group.List.Basic
import Mathlib.Algebra.Order.BigOperators.Group.List
import Mathlib.Algebra.Order.Group.Defs
import Mathlib.Algebra.Order.Monoid.Unbundled.Basic
import Mathlib.Data.List.Basic

/-!
# Drawing from cumulative weights

Scanning the running totals of a weight list for the first one above a level selects
a position.  A level that lies in the range of the totals selects some position, and
the position selected carries positive weight, whatever zero weights surround it.
-/

namespace Srv6Fabric.Library

variable {α : Type*}

/-- The running totals of a weight list, starting from a base. -/
def runningTotals [Add α] (base : α) : List α → List α
  | [] => []
  | weight :: rest => (base + weight) :: runningTotals (base + weight) rest

/-- The first position whose total strictly exceeds a level. -/
def firstAbove [LinearOrder α] (level : α) (totals : List α) : Option Nat :=
  totals.findIdx? fun total => level < total

/-- The last running total is the base plus all the weights. -/
theorem runningTotals_eq_dropLast_append [AddMonoid α] (base : α) {weights : List α}
    (nonempty : weights ≠ []) :
    runningTotals base weights =
      (runningTotals base weights).dropLast ++ [base + weights.sum] := by
  induction weights generalizing base with
  | nil => exact absurd rfl nonempty
  | cons weight rest ih =>
      cases rest with
      | nil => simp [runningTotals]
      | cons next tail =>
          have step := ih (base + weight) (by simp)
          rw [List.sum_cons, ← add_assoc]
          rw [show runningTotals base (weight :: next :: tail) =
            (base + weight) :: runningTotals (base + weight) (next :: tail) from rfl]
          rw [List.dropLast_cons_of_ne_nil (by simp [runningTotals]), List.cons_append, ← step]

theorem firstAbove_cons [LinearOrder α] (level total : α) (rest : List α) :
    firstAbove level (total :: rest) =
      if level < total then some 0 else (firstAbove level rest).map (· + 1) := by
  unfold firstAbove
  rw [List.findIdx?_cons]
  by_cases above : level < total <;> simp [above]

section Ordered

variable [AddCommGroup α] [LinearOrder α] [IsOrderedAddMonoid α]

omit [IsOrderedAddMonoid α] in
/-- A level below the grand total selects a position. -/
theorem firstAbove_isSome {level base : α} {weights : List α}
    (nonempty : weights ≠ []) (below : level < base + weights.sum) :
    (firstAbove level (runningTotals base weights)).isSome = true := by
  induction weights generalizing base with
  | nil => exact absurd rfl nonempty
  | cons weight rest ih =>
      rw [runningTotals, firstAbove_cons]
      by_cases above : level < base + weight
      · simp [above]
      · rw [if_neg above]
        rw [List.sum_cons, ← add_assoc] at below
        have more : rest ≠ [] := by
          intro done
          rw [done] at below
          exact above (by simpa using below)
        simpa using ih more below

/-- The position selected is a position of the list and carries positive weight. -/
theorem firstAbove_positive {level base : α} {weights : List α} {position : Nat}
    (start : base ≤ level)
    (selected : firstAbove level (runningTotals base weights) = some position) :
    ∃ weight, weights[position]? = some weight ∧ 0 < weight := by
  induction weights generalizing base position with
  | nil => cases selected
  | cons weight rest ih =>
      rw [runningTotals, firstAbove_cons] at selected
      by_cases above : level < base + weight
      · rw [if_pos above] at selected
        have here : 0 = position := Option.some.inj selected
        have grows : base < base + weight := lt_of_le_of_lt start above
        exact ⟨weight, by simp [← here], (lt_add_iff_pos_right base).mp grows⟩
      · rw [if_neg above] at selected
        obtain ⟨later, found, shifted⟩ := Option.map_eq_some_iff.mp selected
        obtain ⟨held, at_, positive⟩ := ih (not_lt.mp above) found
        exact ⟨held, by rw [← shifted]; exact at_, positive⟩

/-- The position selected is the one whose share of the totals holds the level. -/
theorem firstAbove_eq_some_iff {level base : α} {weights : List α}
    (nonneg : ∀ weight ∈ weights, 0 ≤ weight) (start : base ≤ level) {position : Nat}
    (inRange : position < weights.length) :
    firstAbove level (runningTotals base weights) = some position ↔
      base + (weights.take position).sum ≤ level ∧
        level < base + (weights.take (position + 1)).sum := by
  induction weights generalizing base position with
  | nil => cases inRange
  | cons weight rest ih =>
      obtain ⟨-, restNonneg⟩ := List.forall_mem_cons.mp nonneg
      rw [runningTotals, firstAbove_cons, List.take_succ_cons, List.sum_cons, ← add_assoc]
      cases position with
      | zero =>
          rw [List.take_zero, List.take_zero, List.sum_nil, add_zero, add_zero]
          by_cases above : level < base + weight
          · simp [above, start]
          · simp [above]
      | succ position =>
          rw [List.take_succ_cons, List.sum_cons, ← add_assoc]
          by_cases above : level < base + weight
          · have earlier : 0 ≤ (rest.take position).sum :=
              List.sum_nonneg fun weight mem => restNonneg weight (List.mem_of_mem_take mem)
            have past : ¬ base + weight + (rest.take position).sum ≤ level := fun reached =>
              absurd ((le_add_of_nonneg_right earlier).trans reached) (not_le.mpr above)
            simp [above, past]
          · rw [if_neg above, ← ih restNonneg (not_lt.mp above) (Nat.lt_of_succ_lt_succ inRange)]
            simp

end Ordered

end Srv6Fabric.Library

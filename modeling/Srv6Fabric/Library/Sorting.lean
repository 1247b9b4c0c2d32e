import Mathlib.Data.List.Perm.Basic
import Mathlib.Order.Lattice

/-!
# Sorted lists without repetition

What `sorted` returns for the keys of a dictionary or the elements of a set.
-/

namespace Srv6Fabric.Library

variable {α β : Type*} [LinearOrder β]

/-- Sorting by a rank. -/
theorem pairwise_rank_mergeSort {rank : α → β} {le : α → α → Bool}
    (isRank : ∀ first second, le first second = decide (rank first ≤ rank second)) (items : List α) :
    (items.mergeSort le).Pairwise fun first second => rank first ≤ rank second := by
  have ranked {first second : α} (before : le first second = true) : rank first ≤ rank second :=
    of_decide_eq_true ((isRank first second).symm.trans before)
  have pairwise := @List.pairwise_mergeSort α le
    (fun first _ third before after => (isRank first third).trans
      (decide_eq_true (le_trans (ranked before) (ranked after))))
    (fun first second => by simpa [isRank] using le_total (rank first) (rank second)) items
  exact pairwise.imp ranked

theorem pairwise_rank_lt_mergeSort {rank : α → β} {le : α → α → Bool}
    (isRank : ∀ first second, le first second = decide (rank first ≤ rank second))
    {items : List α} (nodup : (items.map rank).Nodup) :
    (items.mergeSort le).Pairwise fun first second => rank first < rank second := by
  have distinct := (((List.mergeSort_perm items le).map rank).nodup_iff).mpr nodup
  rw [List.Nodup, List.pairwise_map] at distinct
  exact (List.Pairwise.and (pairwise_rank_mergeSort isRank items) distinct).imp
    fun both => lt_of_le_of_ne both.1 both.2

theorem pairwise_lt_mergeSort {items : List β} (nodup : items.Nodup) :
    (items.mergeSort fun first second => first ≤ second).Pairwise (· < ·) :=
  @pairwise_rank_lt_mergeSort β β _ id _ (fun _ _ => rfl) items (by rwa [List.map_id])

end Srv6Fabric.Library

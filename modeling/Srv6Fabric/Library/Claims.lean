import Mathlib.Data.List.Count
import Mathlib.Data.List.Nodup

/-!
# Claimed items

Claimants take items, and the items that share no key with a taken one are left over.
Every item goes exactly one way when no item is taken twice and no item hides behind the
key of another.
-/

namespace Srv6Fabric.Library

variable {ι κ : Type*} [DecidableEq κ]

/-- The items whose key no claimed item has. -/
def leftOver (key : ι → κ) (items claimed : List ι) : List ι :=
  items.filter fun item => key item ∉ claimed.map key

variable [BEq ι] [LawfulBEq ι]

/-- Every item is claimed once or left over once. -/
def AccountedOnce (key : ι → κ) (items claimed : List ι) : Prop :=
  ∀ item ∈ items, claimed.count item + (leftOver key items claimed).count item = 1

variable {key : ι → κ} {items claimed : List ι}

theorem count_leftOver_of_shared {item : ι} (shared : key item ∈ claimed.map key) :
    (leftOver key items claimed).count item = 0 := by
  rw [List.count_eq_zero, leftOver, List.mem_filter]
  rintro ⟨-, other⟩
  exact of_decide_eq_true other shared

theorem count_leftOver_of_free (nodup : items.Nodup) {item : ι} (mem : item ∈ items)
    (free : key item ∉ claimed.map key) : (leftOver key items claimed).count item = 1 := by
  apply List.count_eq_one_of_mem (nodup.filter _)
  rw [List.mem_filter]
  exact ⟨mem, decide_eq_true free⟩

theorem accountedOnce_iff (nodup : items.Nodup) (known : ∀ item ∈ claimed, item ∈ items) :
    AccountedOnce key items claimed ↔
      claimed.Nodup ∧ ∀ item ∈ items, key item ∈ claimed.map key → item ∈ claimed := by
  constructor
  · intro accounted
    constructor
    · rw [List.nodup_iff_count_le_one]
      intro item
      by_cases mem : item ∈ claimed
      · have once := accounted item (known item mem)
        omega
      · rw [List.count_eq_zero_of_not_mem mem]
        exact Nat.zero_le 1
    · intro item mem shared
      have once := accounted item mem
      rw [count_leftOver_of_shared shared] at once
      exact List.count_pos_iff.mp (by omega)
  · rintro ⟨claimedNodup, unhidden⟩ item mem
    by_cases isClaimed : item ∈ claimed
    · rw [List.count_eq_one_of_mem claimedNodup isClaimed,
        count_leftOver_of_shared (List.mem_map_of_mem isClaimed)]
    · rw [List.count_eq_zero_of_not_mem isClaimed,
        count_leftOver_of_free nodup mem (mt (unhidden item mem) isClaimed)]

end Srv6Fabric.Library

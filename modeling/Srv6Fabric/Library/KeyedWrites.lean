import Mathlib.Data.List.Nodup
import Mathlib.Data.List.Perm.Basic
import Mathlib.Logic.Function.Basic

/-!
# Keyed writes

A store holds at most one value under each key.  Writes whose keys are pairwise distinct
give the same store in every order, a second round of them changes nothing, and dropping
their keys leaves what was there under all others.
-/

namespace Srv6Fabric.Library.KeyedWrites

variable {κ α : Type*} [DecidableEq κ]

/-- Write every value under its key, the first one first. -/
def putAll (writes : List (κ × α)) (store : κ → Option α) : κ → Option α :=
  writes.foldl (fun store write => Function.update store write.1 (some write.2)) store

/-- Drop every key. -/
def dropAll (keys : List κ) (store : κ → Option α) : κ → Option α :=
  keys.foldl (fun store key => Function.update store key none) store

/-! ## Single keys -/

/-- The frame: a key that is not written keeps its value. -/
theorem putAll_of_not_mem {writes : List (κ × α)} {key : κ} (absent : key ∉ writes.map Prod.fst)
    (store : κ → Option α) : putAll writes store key = store key := by
  induction writes generalizing store with
  | nil => rfl
  | cons write rest ih =>
      obtain ⟨other, restAbsent⟩ := not_or.mp (mt List.mem_cons.mpr absent)
      change putAll rest (Function.update store write.1 (some write.2)) key = store key
      rw [ih restAbsent, Function.update_of_ne other]

theorem putAll_of_mem {writes : List (κ × α)} (nodup : (writes.map Prod.fst).Nodup)
    {write : κ × α} (mem : write ∈ writes) (store : κ → Option α) :
    putAll writes store write.1 = some write.2 := by
  induction writes generalizing store with
  | nil => cases mem
  | cons first rest ih =>
      obtain ⟨fresh, restNodup⟩ := List.nodup_cons.mp nodup
      change putAll rest (Function.update store first.1 (some first.2)) write.1 = some write.2
      rcases List.mem_cons.mp mem with rfl | later
      · rw [putAll_of_not_mem fresh, Function.update_self]
      · exact ih restNodup later _

/-- What a key holds in the end was written last, or was there before. -/
theorem putAll_cases (writes : List (κ × α)) (store : κ → Option α) (key : κ) :
    (∃ value, (key, value) ∈ writes ∧ putAll writes store key = some value) ∨
      putAll writes store key = store key := by
  induction writes generalizing store with
  | nil => exact Or.inr rfl
  | cons write rest ih =>
      change (∃ value, (key, value) ∈ write :: rest ∧
        putAll rest (Function.update store write.1 (some write.2)) key = some value) ∨
        putAll rest (Function.update store write.1 (some write.2)) key = store key
      rcases ih (Function.update store write.1 (some write.2)) with ⟨value, later, held⟩ | kept
      · exact Or.inl ⟨value, List.mem_cons_of_mem _ later, held⟩
      · rw [kept]
        by_cases same : key = write.1
        · rw [same, Function.update_self]
          exact Or.inl ⟨write.2, List.mem_cons_self, rfl⟩
        · exact Or.inr (Function.update_of_ne same _ _)

theorem dropAll_apply (keys : List κ) (store : κ → Option α) (key : κ) :
    dropAll keys store key = if key ∈ keys then none else store key := by
  induction keys generalizing store with
  | nil => rfl
  | cons first rest ih =>
      change dropAll rest (Function.update store first none) key = _
      rw [ih]
      by_cases later : key ∈ rest
      · rw [if_pos later, if_pos (List.mem_cons_of_mem _ later)]
      · rw [if_neg later]
        by_cases same : key = first
        · rw [same, Function.update_self, if_pos List.mem_cons_self]
        · rw [Function.update_of_ne same, if_neg]
          exact mt List.mem_cons.mp (not_or.mpr ⟨same, later⟩)

/-! ## Whole rounds -/

/-- The order of writes with distinct keys does not matter. -/
theorem putAll_perm {writes order : List (κ × α)} (nodup : (writes.map Prod.fst).Nodup)
    (perm : order.Perm writes) (store : κ → Option α) : putAll order store = putAll writes store := by
  have orderNodup : (order.map Prod.fst).Nodup := (perm.map Prod.fst).nodup_iff.mpr nodup
  funext key
  by_cases written : key ∈ writes.map Prod.fst
  · obtain ⟨write, mem, rfl⟩ := List.mem_map.mp written
    rw [putAll_of_mem nodup mem, putAll_of_mem orderNodup (perm.mem_iff.mpr mem)]
  · rw [putAll_of_not_mem written, putAll_of_not_mem (mt (perm.map Prod.fst).mem_iff.mp written)]

/-- A second round writes what is there. -/
theorem putAll_putAll {writes : List (κ × α)} (nodup : (writes.map Prod.fst).Nodup)
    (store : κ → Option α) : putAll writes (putAll writes store) = putAll writes store := by
  funext key
  by_cases written : key ∈ writes.map Prod.fst
  · obtain ⟨write, mem, rfl⟩ := List.mem_map.mp written
    rw [putAll_of_mem nodup mem, putAll_of_mem nodup mem]
  · rw [putAll_of_not_mem written]

/-- Dropping the written keys leaves the store without them, in whatever order. -/
theorem dropAll_putAll {writes : List (κ × α)} {keys : List κ}
    (same : ∀ key, key ∈ keys ↔ key ∈ writes.map Prod.fst) (store : κ → Option α) (key : κ) :
    dropAll keys (putAll writes store) key =
      if key ∈ writes.map Prod.fst then none else store key := by
  rw [dropAll_apply]
  by_cases written : key ∈ writes.map Prod.fst
  · rw [if_pos ((same key).mpr written), if_pos written]
  · rw [if_neg (mt (same key).mp written), if_neg written, putAll_of_not_mem written]

end Srv6Fabric.Library.KeyedWrites

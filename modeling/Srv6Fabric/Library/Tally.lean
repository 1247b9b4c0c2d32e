import Mathlib.Data.List.Induction
import Srv6Fabric.Library.OrderedDict

/-!
# Counting dictionaries

`bump` is the idiom `d[key] = d.get(key, 0) + 1`.  The dictionary it builds from a list
holds how often each key occurs, and its values sum to the length of the list.
-/

namespace Srv6Fabric.Library

variable {κ : Type*} [DecidableEq κ]

namespace OrderedDict

def bump (dict : OrderedDict κ Nat) (key : κ) : OrderedDict κ Nat :=
  dict.set key ((dict.find? key).getD 0 + 1)

/-- The sum of all values. -/
def total (dict : OrderedDict κ Nat) : Nat := (dict.entries.map Prod.snd).sum

/-- An assignment changes a sum over the entries by what it stores and what it replaces. -/
theorem sum_setEntry {α : Type*} (weight : κ × α → Nat) (key : κ) (value : α)
    (entries : List (κ × α)) :
    ((setEntry key value entries).map weight).sum +
        (findEntry key entries).elim 0 (fun old => weight (key, old)) =
      (entries.map weight).sum + weight (key, value) := by
  induction entries with
  | nil => simp
  | cons entry rest ih =>
      obtain ⟨first, old⟩ := entry
      by_cases same : first = key
      · subst same
        simp only [setEntry_cons, findEntry_cons, if_true, List.map_cons, List.sum_cons,
          Option.elim_some]
        omega
      · simp only [setEntry_cons, findEntry_cons, if_neg same, List.map_cons, List.sum_cons]
        omega

theorem sum_set {α : Type*} (weight : κ × α → Nat) (dict : OrderedDict κ α) (key : κ) (value : α) :
    ((dict.set key value).entries.map weight).sum +
        (dict.find? key).elim 0 (fun old => weight (key, old)) =
      (dict.entries.map weight).sum + weight (key, value) :=
  sum_setEntry weight key value dict.entries

theorem total_bump (dict : OrderedDict κ Nat) (key : κ) : (dict.bump key).total = dict.total + 1 := by
  have balance := sum_set Prod.snd dict key ((dict.find? key).getD 0 + 1)
  rw [total, total, bump]
  cases found : dict.find? key with
  | none =>
      rw [found] at balance
      exact balance
  | some old =>
      rw [found] at balance
      simp only [Option.elim_some, Option.getD_some] at balance ⊢
      omega

end OrderedDict

/-- The counting dictionary of a list. -/
def tally (keys : List κ) : OrderedDict κ Nat := keys.foldl OrderedDict.bump .empty

theorem tally_concat (keys : List κ) (key : κ) : tally (keys ++ [key]) = (tally keys).bump key :=
  List.foldl_append

theorem find?_tally (keys : List κ) (key : κ) :
    (tally keys).find? key = if keys.count key = 0 then none else some (keys.count key) := by
  induction keys using List.reverseRecOn with
  | nil => rfl
  | append_singleton keys last ih =>
      rw [tally_concat, OrderedDict.bump, OrderedDict.find?_set, List.count_append]
      by_cases here : key = last
      · subst here
        rw [ih, if_pos rfl]
        by_cases fresh : keys.count key = 0
        · simp [fresh]
        · simp [fresh]
      · have away : [last].count key = 0 := List.count_eq_zero.mpr (by simpa using here)
        rw [if_neg here, ih, away, Nat.add_zero]

theorem getD_tally (keys : List κ) (key : κ) : ((tally keys).find? key).getD 0 = keys.count key := by
  rw [find?_tally]
  split
  · next none => rw [none, Option.getD_none]
  · rw [Option.getD_some]

theorem mem_keys_tally (keys : List κ) (key : κ) : key ∈ (tally keys).keys ↔ key ∈ keys := by
  induction keys using List.reverseRecOn with
  | nil => rfl
  | append_singleton keys last ih =>
      rw [tally_concat, OrderedDict.bump, OrderedDict.keys_set]
      by_cases old : last ∈ (tally keys).keys
      · rw [if_pos old, List.mem_append, ih, List.mem_singleton, or_iff_left_of_imp]
        rintro rfl
        exact ih.mp old
      · rw [if_neg old, List.mem_append, List.mem_append, ih]

theorem total_tally (keys : List κ) : (tally keys).total = keys.length := by
  induction keys using List.reverseRecOn with
  | nil => rfl
  | append_singleton keys last ih =>
      rw [tally_concat, OrderedDict.total_bump, ih, List.length_append, List.length_singleton]

end Srv6Fabric.Library

import Mathlib.Algebra.Order.Ring.Nat
import Mathlib.Data.List.Nodup

/-!
# Insertion-ordered dictionaries

A dictionary is its list of entries, oldest first, with pairwise distinct keys.
Assigning to a key that is present keeps the position of that key; assigning to
an absent key appends.  This is the iteration order a Python `dict` documents.
-/

namespace Srv6Fabric.Library

variable {κ α : Type*}

/-- Entries in insertion order; no key occurs twice. -/
structure OrderedDict (κ α : Type*) where
  entries : List (κ × α)
  nodup : (entries.map Prod.fst).Nodup

namespace OrderedDict

/-! ## Entry lists -/

/-- Overwrite the entry of a key in place, or append a new entry. -/
def setEntry [DecidableEq κ] (key : κ) (value : α) : List (κ × α) → List (κ × α)
  | [] => [(key, value)]
  | entry :: rest =>
      if entry.1 = key then (key, value) :: rest
      else entry :: setEntry key value rest

/-- The value stored under a key. -/
def findEntry [DecidableEq κ] (key : κ) : List (κ × α) → Option α
  | [] => none
  | entry :: rest => if entry.1 = key then some entry.2 else findEntry key rest

@[simp] theorem setEntry_nil [DecidableEq κ] (key : κ) (value : α) :
    setEntry key value [] = [(key, value)] := rfl

theorem setEntry_cons [DecidableEq κ] (key : κ) (value : α) (entry : κ × α) (rest : List (κ × α)) :
    setEntry key value (entry :: rest) =
      if entry.1 = key then (key, value) :: rest else entry :: setEntry key value rest := rfl

@[simp] theorem findEntry_nil [DecidableEq κ] (key : κ) :
    findEntry key ([] : List (κ × α)) = none := rfl

theorem findEntry_cons [DecidableEq κ] (key : κ) (entry : κ × α) (rest : List (κ × α)) :
    findEntry key (entry :: rest) =
      if entry.1 = key then some entry.2 else findEntry key rest := rfl

theorem keys_setEntry [DecidableEq κ] (key : κ) (value : α) (entries : List (κ × α)) :
    (setEntry key value entries).map Prod.fst =
      if key ∈ entries.map Prod.fst then entries.map Prod.fst
      else entries.map Prod.fst ++ [key] := by
  induction entries with
  | nil => simp
  | cons entry rest ih =>
      by_cases same : entry.1 = key
      · simp [setEntry_cons, same]
      · have different : key ≠ entry.1 := fun h => same h.symm
        simp only [setEntry_cons, if_neg same, List.map_cons, ih, List.mem_cons, different,
          false_or]
        split <;> rfl

theorem findEntry_setEntry [DecidableEq κ] (key other : κ) (value : α)
    (entries : List (κ × α)) :
    findEntry other (setEntry key value entries) =
      if other = key then some value else findEntry other entries := by
  induction entries with
  | nil => simp [findEntry_cons, eq_comm]
  | cons entry rest ih =>
      by_cases same : entry.1 = key
      · by_cases hit : other = key
        · simp [setEntry_cons, findEntry_cons, same, hit]
        · have miss : ¬ key = other := fun h => hit h.symm
          simp [setEntry_cons, findEntry_cons, same, hit, miss]
      · by_cases hit : entry.1 = other
        · have away : ¬ other = key := fun h => same (hit.trans h)
          simp [setEntry_cons, findEntry_cons, hit, away]
        · simp [setEntry_cons, findEntry_cons, same, hit, ih]

theorem findEntry_map [DecidableEq κ] {β : Type*} (view : α → β) (key : κ) (entries : List (κ × α)) :
    findEntry key (entries.map (Prod.map id view)) = (findEntry key entries).map view := by
  induction entries with
  | nil => rfl
  | cons entry rest ih =>
      rw [List.map_cons, findEntry_cons, findEntry_cons, ih]
      change (if entry.1 = key then some (view entry.2) else _) = _
      rw [apply_ite (Option.map view), Option.map_some]

/-- Overwriting a value by one of the same view changes no view. -/
theorem map_setEntry [DecidableEq κ] {β : Type*} (view : α → β) {key : κ} {value old : α}
    {entries : List (κ × α)} (found : findEntry key entries = some old)
    (same : view value = view old) :
    (setEntry key value entries).map (Prod.map id view) = entries.map (Prod.map id view) := by
  induction entries with
  | nil => cases found
  | cons entry rest ih =>
      rw [findEntry_cons] at found
      rw [setEntry_cons]
      split at found
      · next here =>
        obtain rfl := Option.some.inj found
        rw [if_pos here, List.map_cons, List.map_cons, Prod.map_apply, ← here, same]
        rfl
      · next other => rw [if_neg other, List.map_cons, List.map_cons, ih found]

theorem setEntry_setEntry [DecidableEq κ] (key : κ) (value later : α)
    (entries : List (κ × α)) :
    setEntry key later (setEntry key value entries) = setEntry key later entries := by
  induction entries with
  | nil => simp [setEntry_cons]
  | cons entry rest ih =>
      by_cases same : entry.1 = key
      · simp [setEntry_cons, same]
      · simp [setEntry_cons, same, ih]

theorem mem_of_findEntry [DecidableEq κ] {key : κ} {value : α} {entries : List (κ × α)}
    (found : findEntry key entries = some value) : (key, value) ∈ entries := by
  induction entries with
  | nil => cases found
  | cons entry rest ih =>
      by_cases same : entry.1 = key
      · rw [findEntry_cons, if_pos same] at found
        rw [← same, ← Option.some.inj found]
        exact List.mem_cons_self
      · rw [findEntry_cons, if_neg same] at found
        exact List.mem_cons_of_mem entry (ih found)

theorem findEntry_of_mem [DecidableEq κ] {key : κ} {value : α} {entries : List (κ × α)}
    (nodup : (entries.map Prod.fst).Nodup) (mem : (key, value) ∈ entries) :
    findEntry key entries = some value := by
  induction entries with
  | nil => cases mem
  | cons entry rest ih =>
      obtain ⟨fresh, restNodup⟩ := List.nodup_cons.mp nodup
      rcases List.mem_cons.mp mem with here | there
      · simp [findEntry_cons, ← here]
      · have different : ¬ entry.1 = key := fun same =>
          fresh (same ▸ List.mem_map_of_mem there)
        rw [findEntry_cons, if_neg different]
        exact ih restNodup there

/-! ## Dictionary operations -/

theorem eq_of_entries {first second : OrderedDict κ α} (same : first.entries = second.entries) :
    first = second := by
  obtain ⟨entries, nodup⟩ := first
  cases same
  rfl

def empty : OrderedDict κ α := ⟨[], List.nodup_nil⟩

def keys (dict : OrderedDict κ α) : List κ := dict.entries.map Prod.fst

def size (dict : OrderedDict κ α) : Nat := dict.entries.length

/-- `dict.get(key)`. -/
def find? [DecidableEq κ] (dict : OrderedDict κ α) (key : κ) : Option α :=
  findEntry key dict.entries

/-- `dict[key] = value`. -/
def set [DecidableEq κ] (dict : OrderedDict κ α) (key : κ) (value : α) : OrderedDict κ α where
  entries := setEntry key value dict.entries
  nodup := by
    rw [keys_setEntry]
    split
    · exact dict.nodup
    · next fresh =>
      exact List.nodup_append'.mpr ⟨dict.nodup, List.nodup_singleton key,
        List.disjoint_singleton.mpr fresh⟩

/-- Keep the entries that pass a test, in order. -/
def filter (dict : OrderedDict κ α) (keep : κ × α → Bool) : OrderedDict κ α where
  entries := dict.entries.filter keep
  nodup := dict.nodup.sublist (List.filter_sublist.map Prod.fst)

/-- `del dict[key]`, or nothing when the key is absent. -/
def erase [DecidableEq κ] (dict : OrderedDict κ α) (key : κ) : OrderedDict κ α :=
  dict.filter fun entry => entry.1 ≠ key

/-- Delete the entry `next(iter(dict))` points at: the oldest one. -/
def eraseOldest (dict : OrderedDict κ α) : OrderedDict κ α where
  entries := dict.entries.tail
  nodup := dict.nodup.sublist ((List.tail_sublist dict.entries).map Prod.fst)

@[simp] theorem find?_set [DecidableEq κ] (dict : OrderedDict κ α) (key other : κ) (value : α) :
    (dict.set key value).find? other = if other = key then some value else dict.find? other :=
  findEntry_setEntry key other value dict.entries

/-- The second of two assignments to one key wins, at the same position. -/
@[simp] theorem set_set [DecidableEq κ] (dict : OrderedDict κ α) (key : κ) (value later : α) :
    (dict.set key value).set key later = dict.set key later := by
  simp [set, setEntry_setEntry]

/-- Assigning what is there changes nothing. -/
theorem set_eq_self [DecidableEq κ] {dict : OrderedDict κ α} {key : κ} {value : α}
    (found : dict.find? key = some value) : dict.set key value = dict := by
  have entries := map_setEntry id found rfl
  rw [Prod.map_id, List.map_id, List.map_id] at entries
  obtain ⟨old, nodup⟩ := dict
  simpa only [set, mk.injEq] using entries

theorem find?_eq_some_iff [DecidableEq κ] {dict : OrderedDict κ α} {key : κ} {value : α} :
    dict.find? key = some value ↔ (key, value) ∈ dict.entries :=
  ⟨mem_of_findEntry, findEntry_of_mem dict.nodup⟩

theorem keys_set [DecidableEq κ] (dict : OrderedDict κ α) (key : κ) (value : α) :
    (dict.set key value).keys = if key ∈ dict.keys then dict.keys else dict.keys ++ [key] :=
  keys_setEntry key value dict.entries

theorem size_set_le [DecidableEq κ] (dict : OrderedDict κ α) (key : κ) (value : α) :
    (dict.set key value).size ≤ dict.size + 1 := by
  have keys := congrArg List.length (dict.keys_set key value)
  rw [OrderedDict.keys, List.length_map, ← size] at keys
  rw [keys, OrderedDict.keys]
  split <;> simp [size]

/-- Membership in the entries after an assignment. -/
theorem mem_set_iff [DecidableEq κ] {dict : OrderedDict κ α} {key other : κ} {value held : α} :
    (other, held) ∈ (dict.set key value).entries ↔
      other = key ∧ held = value ∨ other ≠ key ∧ (other, held) ∈ dict.entries := by
  rw [← find?_eq_some_iff, find?_set, ← find?_eq_some_iff]
  by_cases same : other = key
  · simp [same, eq_comm]
  · simp [same]

theorem mem_erase_iff [DecidableEq κ] {dict : OrderedDict κ α} {key : κ} {entry : κ × α} :
    entry ∈ (dict.erase key).entries ↔ entry ∈ dict.entries ∧ entry.1 ≠ key := by
  simp [erase, filter, List.mem_filter]

theorem mem_of_mem_eraseOldest {dict : OrderedDict κ α} {entry : κ × α}
    (mem : entry ∈ dict.eraseOldest.entries) : entry ∈ dict.entries :=
  List.mem_of_mem_tail mem

/-- After assignments one after the other, the last one to a key counts. -/
theorem find?_foldl_set [DecidableEq κ] {ι : Type*} (keyOf : ι → κ) (valueOf : ι → α)
    (items : List ι) (dict : OrderedDict κ α) (key : κ) :
    (items.foldl (fun dict item => dict.set (keyOf item) (valueOf item)) dict).find? key =
      ((items.reverse.find? fun item => keyOf item = key).map valueOf).or (dict.find? key) := by
  induction items generalizing dict with
  | nil => rfl
  | cons item rest ih =>
      rw [List.foldl_cons, ih, List.reverse_cons, List.find?_append, find?_set]
      cases rest.reverse.find? fun item => keyOf item = key with
      | some last => rfl
      | none =>
          by_cases here : keyOf item = key
          · simp [here]
          · simp [here, Ne.symm here]

/-- After an assignment to each of several keys, of a value that the key determines. -/
theorem find?_foldl_set_keys [DecidableEq κ] (valueOf : κ → α) (keys : List κ)
    (dict : OrderedDict κ α) (key : κ) :
    (keys.foldl (fun dict key => dict.set key (valueOf key)) dict).find? key =
      if key ∈ keys then some (valueOf key) else dict.find? key := by
  induction keys generalizing dict with
  | nil => simp
  | cons first rest ih =>
      rw [List.foldl_cons, ih, find?_set]
      by_cases inRest : key ∈ rest
      · simp [inRest]
      · by_cases isFirst : key = first <;> simp [inRest, isFirst]

/-- Up to order, an assignment replaces what is stored under its key. -/
theorem perm_setEntry [DecidableEq κ] (key : κ) (value : α) {entries : List (κ × α)}
    (nodup : (entries.map Prod.fst).Nodup) :
    (setEntry key value entries).Perm
      (entries.filter (fun entry => entry.1 ≠ key) ++ [(key, value)]) := by
  induction entries with
  | nil => exact List.Perm.refl _
  | cons entry rest ih =>
      obtain ⟨fresh, restNodup⟩ := List.nodup_cons.mp nodup
      by_cases same : entry.1 = key
      · have others : rest.filter (fun entry => entry.1 ≠ key) = rest := by
          refine List.filter_eq_self.mpr fun other mem => decide_eq_true fun again => fresh ?_
          rw [same, ← again]
          exact List.mem_map_of_mem mem
        rw [setEntry_cons, if_pos same, List.filter_cons_of_neg (by simp [same]), others]
        exact (List.perm_append_singleton _ _).symm
      · rw [setEntry_cons, if_neg same, List.filter_cons_of_pos (by simp [same])]
        exact (ih restNodup).cons entry

theorem perm_set [DecidableEq κ] (dict : OrderedDict κ α) (key : κ) (value : α) :
    (dict.set key value).entries.Perm
      (dict.entries.filter (fun entry => entry.1 ≠ key) ++ [(key, value)]) :=
  perm_setEntry key value dict.nodup

/-- An assignment to an absent key appends. -/
theorem entries_set_of_not_mem [DecidableEq κ] {dict : OrderedDict κ α} {key : κ}
    (absent : key ∉ dict.keys) (value : α) :
    (dict.set key value).entries = dict.entries ++ [(key, value)] := by
  obtain ⟨entries, nodup⟩ := dict
  change setEntry key value entries = entries ++ [(key, value)]
  replace absent : key ∉ entries.map Prod.fst := absent
  clear nodup
  induction entries with
  | nil => rfl
  | cons entry rest ih =>
      rw [List.map_cons, List.mem_cons, not_or] at absent
      rw [setEntry_cons, if_neg (Ne.symm absent.1), ih absent.2, List.cons_append]

/-- An assignment to the last key, or to an absent one, leaves its entry last. -/
theorem entries_set_of_last [DecidableEq κ] {dict : OrderedDict κ α} {key : κ}
    (last : key ∉ dict.keys.dropLast) (value : α) :
    (dict.set key value).entries =
      dict.entries.filter (fun entry => entry.1 ≠ key) ++ [(key, value)] := by
  by_cases present : key ∈ dict.keys
  · obtain ⟨entries, nodup⟩ := dict
    replace last : key ∉ (entries.map Prod.fst).dropLast := last
    replace present : key ∈ entries.map Prod.fst := present
    change setEntry key value entries = _
    dsimp only
    induction entries with
    | nil => cases present
    | cons entry rest ih =>
        obtain ⟨-, restNodup⟩ := List.nodup_cons.mp nodup
        cases rest with
        | nil =>
            have same : entry.1 = key := (List.mem_singleton.mp present).symm
            rw [setEntry_cons, if_pos same, List.filter_cons_of_neg (by simp [same])]
            rfl
        | cons second others =>
            rw [List.map_cons, List.map_cons, List.dropLast_cons_cons, List.mem_cons, not_or,
              ← List.map_cons] at last
            have later := (List.mem_cons.mp present).resolve_left last.1
            have other : decide (entry.1 ≠ key) = true := decide_eq_true (Ne.symm last.1)
            rw [setEntry_cons, if_neg (Ne.symm last.1), ih restNodup last.2 later,
              List.filter_cons_of_pos (l := second :: others) other, List.cons_append]
  · have others : dict.entries.filter (fun entry => entry.1 ≠ key) = dict.entries := by
      refine List.filter_eq_self.mpr fun entry mem => decide_eq_true fun same => present ?_
      rw [← same]
      exact List.mem_map_of_mem mem
    rw [entries_set_of_not_mem present, others]

/-- A key that is present has one entry. -/
theorem countP_of_find? [DecidableEq κ] {dict : OrderedDict κ α} {key : κ} {value : α}
    (found : dict.find? key = some value) :
    dict.entries.countP (fun entry => entry.1 = key) = 1 := by
  have mem : key ∈ dict.entries.map Prod.fst :=
    List.mem_map_of_mem (find?_eq_some_iff.mp found)
  have once := List.count_eq_one_of_mem dict.nodup mem
  rw [List.count, List.countP_map] at once
  refine (List.countP_congr fun entry _ => ?_).trans once
  simp

/-- Deleting the oldest entry deletes its key. -/
theorem entries_eraseOldest [DecidableEq κ] (dict : OrderedDict κ α) :
    dict.eraseOldest.entries = dict.entries.filter fun entry => entry.1 ∉ dict.keys.head? := by
  obtain ⟨entries, nodup⟩ := dict
  cases entries with
  | nil => rfl
  | cons entry rest =>
      obtain ⟨fresh, -⟩ := List.nodup_cons.mp nodup
      have others : rest.filter (fun other => other.1 ≠ entry.1) = rest := by
        refine List.filter_eq_self.mpr fun other mem => decide_eq_true fun again => fresh ?_
        rw [← again]
        exact List.mem_map_of_mem mem
      simpa [eraseOldest, keys, eq_comm] using others.symm

end OrderedDict

end Srv6Fabric.Library

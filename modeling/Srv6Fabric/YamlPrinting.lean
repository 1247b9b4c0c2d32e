import Srv6Fabric.Yaml

/-!
# Printing parsed values

`str` and `repr` of a value print every integer in it, and raise a `ValueError` when one of
them has too many digits.
-/

namespace Srv6Fabric

/-- An integer `str` and `repr` print. -/
def ShortInt (n : Int) : Prop := (Nat.toDigits 10 n.natAbs).length ≤ maxStrDigits

/-- A computation that prints some integers on its way: it returns when they are short. -/
def Prints {α : Type} (shown : Except PyError α) (ints : List Int) : Prop :=
  (∃ text, shown = .ok text) ∧ (∀ n ∈ ints, ShortInt n) ∨
    (∃ message, shown = .error (.valueError message)) ∧ ¬ ∀ n ∈ ints, ShortInt n

namespace Prints

variable {α β : Type}

theorem nothing (value : α) : Prints (.ok value) [] :=
  Or.inl ⟨⟨value, rfl⟩, fun _ mem => absurd mem List.not_mem_nil⟩

theorem bind {first : Except PyError α} {next : α → Except PyError β} {ints others : List Int}
    (prints : Prints first ints) (rest : ∀ value, Prints (next value) others) :
    Prints (first >>= next) (ints ++ others) := by
  rw [Prints, List.forall_mem_append]
  rcases prints with ⟨⟨value, rfl⟩, short⟩ | ⟨⟨message, rfl⟩, long⟩
  · rw [and_iff_right short]
    exact rest value
  · exact Or.inr ⟨⟨message, rfl⟩, fun both => long both.1⟩

theorem map {first : Except PyError α} {ints : List Int} (prints : Prints first ints)
    (next : α → β) : Prints (first >>= fun value => .ok (next value)) ints := by
  have whole := prints.bind fun value => nothing (next value)
  rwa [List.append_nil] at whole

theorem mapM {visit : α → Except PyError β} {intsOf : α → List Int} {items : List α}
    (each : ∀ item, Prints (visit item) (intsOf item)) :
    Prints (items.mapM visit) (items.flatMap intsOf) := by
  induction items with
  | nil => exact nothing _
  | cons item rest ih =>
      rw [List.mapM_cons, List.flatMap_cons]
      exact (each item).bind fun _ => ih.map _

end Prints

theorem intStr_prints (n : Int) : Prints (intStr n) [n] := by
  rw [Prints, List.forall_mem_singleton, intStr, ShortInt]
  split
  · next long => exact Or.inr ⟨⟨_, rfl⟩, not_le.mpr long⟩
  · next short => exact Or.inl ⟨⟨_, rfl⟩, not_lt.mp short⟩

namespace Scalar

def ints : Scalar → List Int
  | int value => [value]
  | _ => []

theorem repr_prints (value : Scalar) : Prints value.repr value.ints := by
  cases value with
  | int n => exact intStr_prints n
  | null => exact .nothing _
  | bool _ => exact .nothing _
  | float _ => exact .nothing _
  | str _ => exact .nothing _

theorem toStr_prints (value : Scalar) : Prints value.toStr value.ints := by
  cases value with
  | str text => exact .nothing text
  | int n => exact repr_prints (.int n)
  | null => exact repr_prints .null
  | bool flag => exact repr_prints (.bool flag)
  | float x => exact repr_prints (.float x)

end Scalar

namespace Yaml

mutual

/-- The integers in a value, those among the keys included. -/
def ints : Yaml → List Int
  | scalar value => value.ints
  | list items => itemInts items
  | dict entries => entryInts entries

def itemInts : List Yaml → List Int
  | [] => []
  | item :: rest => item.ints ++ itemInts rest

def entryInts : List (Scalar × Yaml) → List Int
  | [] => []
  | (key, value) :: rest => (key.ints ++ value.ints) ++ entryInts rest

end

mutual

theorem repr_prints : ∀ value : Yaml, Prints value.repr value.ints
  | scalar value => by
      rw [repr, ints]
      exact value.repr_prints
  | list items => by
      rw [repr, ints]
      exact (reprItems_prints items).map _
  | dict entries => by
      rw [repr, ints]
      exact (reprEntries_prints entries).map _

theorem reprItems_prints : ∀ items : List Yaml, Prints (reprItems items) (itemInts items)
  | [] => by
      rw [reprItems, itemInts]
      exact .nothing _
  | item :: rest => by
      rw [reprItems, itemInts]
      exact (repr_prints item).bind fun _ => (reprItems_prints rest).map _

theorem reprEntries_prints : ∀ entries : List (Scalar × Yaml),
    Prints (reprEntries entries) (entryInts entries)
  | [] => by
      rw [reprEntries, entryInts]
      exact .nothing _
  | (key, value) :: rest => by
      rw [reprEntries, entryInts, List.append_assoc]
      exact key.repr_prints.bind fun _ =>
        (repr_prints value).bind fun _ => (reprEntries_prints rest).map _

end

theorem toStr_prints (value : Yaml) : Prints value.toStr value.ints := by
  cases value with
  | scalar value =>
      rw [ints]
      exact value.toStr_prints
  | list _ => exact repr_prints _
  | dict _ => exact repr_prints _

end Yaml

end Srv6Fabric

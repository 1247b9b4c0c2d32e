import Mathlib.Data.List.Count

/-!
# Items and their fates

A list of items in the order they came, each open or settled with some fate.  Settling the
open items that pass a test moves them from the open ones to those of the fate, and changes
nothing else.
-/

namespace Srv6Fabric.Library

variable {ι φ : Type*}

/-- An item, and its fate once it is settled. -/
structure Fated (ι φ : Type*) where
  item : ι
  fate : Option φ := none
  deriving DecidableEq, Repr

namespace Fated

/-- Settle the item if it is open and passes the test. -/
def settle (fate : φ) (test : ι → Bool) (fated : Fated ι φ) : Fated ι φ :=
  if fated.fate.isNone && test fated.item then { fated with fate := some fate } else fated

/-- The items that are open, in order. -/
def opened (items : List (Fated ι φ)) : List ι :=
  (items.filter fun fated => fated.fate.isNone).map item

/-- How many items met a fate. -/
def count [DecidableEq φ] (fate : φ) (items : List (Fated ι φ)) : Nat :=
  items.countP fun fated => fated.fate = some fate

@[simp] theorem settle_item (fate : φ) (test : ι → Bool) (fated : Fated ι φ) :
    (fated.settle fate test).item = fated.item := by
  unfold settle
  split <;> rfl

theorem settle_of_settled {fate : φ} {test : ι → Bool} {fated : Fated ι φ}
    (done : fated.fate ≠ none) : fated.settle fate test = fated := by
  rw [settle, if_neg]
  simp [Option.isNone_iff_eq_none, done]

/-- An item that is settled to a fate now was so before, or open and passed the test. -/
theorem settle_eq_some {fate met : φ} {test : ι → Bool} {fated : Fated ι φ}
    (settled : (fated.settle fate test).fate = some met) :
    fated.fate = some met ∨ fated.fate = none ∧ test fated.item ∧ fate = met := by
  unfold settle at settled
  split at settled
  · next hit =>
    obtain ⟨open_, passes⟩ := (Bool.and_eq_true _ _).mp hit
    exact Or.inr ⟨Option.isNone_iff_eq_none.mp open_, passes, Option.some.inj settled⟩
  · exact Or.inl settled

/-- What meets a fate while items are settled to another one had met it before. -/
theorem fate_of_settle_of_ne {fate met : φ} (other : fate ≠ met) {test : ι → Bool}
    {items : List (Fated ι φ)} {index : Nat} {before after : Fated ι φ}
    (here : items[index]? = some before)
    (there : (items.map (settle fate test))[index]? = some after)
    (settled : after.fate = some met) : before.fate = some met := by
  rw [List.getElem?_map, here] at there
  obtain rfl := Option.some.inj there
  rcases settle_eq_some settled with already | ⟨-, -, same⟩
  · exact already
  · exact absurd same other

/-- Settling to one fate brings no item to another. -/
theorem no_fate_of_settle {fate met : φ} (other : fate ≠ met) {test : ι → Bool}
    {items : List (Fated ι φ)} (none_ : ∀ fated ∈ items, fated.fate ≠ some met) :
    ∀ fated ∈ items.map (settle fate test), fated.fate ≠ some met := by
  intro fated mem settled
  obtain ⟨before, listed, rfl⟩ := List.mem_map.mp mem
  rcases settle_eq_some settled with already | ⟨-, -, same⟩
  · exact none_ before listed already
  · exact other same

/-- Settling changes nothing when no open item passes. -/
theorem map_settle_eq_self {fate : φ} {test : ι → Bool} {items : List (Fated ι φ)}
    (misses : ∀ fated ∈ items, fated.fate = none → test fated.item = false) :
    items.map (settle fate test) = items := by
  refine (List.map_congr_left fun fated mem => ?_).trans items.map_id
  cases open_ : fated.fate with
  | some met => exact settle_of_settled (by simp [open_])
  | none => simp [settle, misses fated mem open_]

theorem opened_append (first second : List (Fated ι φ)) :
    opened (first ++ second) = opened first ++ opened second := by
  simp [opened]

theorem opened_cons_none {fated : Fated ι φ} (rest : List (Fated ι φ)) (open_ : fated.fate = none) :
    opened (fated :: rest) = fated.item :: opened rest := by
  simp [opened, open_]

theorem opened_cons_some {fated : Fated ι φ} (rest : List (Fated ι φ)) {fate : φ}
    (done : fated.fate = some fate) : opened (fated :: rest) = opened rest := by
  simp [opened, done]

/-- What is still open after settling. -/
theorem opened_settle (fate : φ) (test : ι → Bool) (items : List (Fated ι φ)) :
    opened (items.map (settle fate test)) = (opened items).filter fun item => !test item := by
  induction items with
  | nil => rfl
  | cons fated rest ih =>
      obtain ⟨item, held⟩ := fated
      rw [List.map_cons]
      cases held with
      | some met =>
          rw [settle_of_settled (by simp), opened_cons_some _ rfl, opened_cons_some _ rfl, ih]
      | none =>
          rw [opened_cons_none rest rfl, settle]
          cases passes : test item with
          | true => simpa [passes] using (opened_cons_some _ rfl).trans ih
          | false =>
              simp only [passes, Bool.and_false, Bool.false_eq_true, if_false, List.filter_cons,
                Bool.not_false, if_true]
              rw [opened_cons_none _ rfl, ih]

section Counts

variable [DecidableEq φ]

theorem count_append (fate : φ) (first second : List (Fated ι φ)) :
    count fate (first ++ second) = count fate first + count fate second :=
  List.countP_append

/-- Settling adds the open items that pass to their fate, and to no other. -/
theorem count_settle (fate met : φ) (test : ι → Bool) (items : List (Fated ι φ)) :
    count met (items.map (settle fate test)) =
      count met items + if fate = met then (opened items).countP test else 0 := by
  induction items with
  | nil => simp [count, opened]
  | cons fated rest ih =>
      obtain ⟨item, held⟩ := fated
      rw [count, count, List.countP_map] at ih
      rw [count, count, List.countP_map, List.countP_cons, List.countP_cons, ih]
      cases held with
      | some other => simp [settle, opened_cons_some, Nat.add_right_comm]
      | none =>
          rw [opened_cons_none rest rfl, List.countP_cons]
          cases passes : test item <;> by_cases same : fate = met <;>
            simp [settle, passes, same, Nat.add_assoc]

theorem count_settle_of_ne {fate met : φ} (other : fate ≠ met) (test : ι → Bool)
    (items : List (Fated ι φ)) : count met (items.map (settle fate test)) = count met items := by
  rw [count_settle, if_neg other, Nat.add_zero]

end Counts

end Fated

end Srv6Fabric.Library

import Mathlib.Data.Finset.Max

/-!
# The largest elements of a finite set

The `limit` largest elements are those with fewer than `limit` elements above them.
They can be kept up to date as the set grows: add the new element, and drop the
smallest when there are too many.
-/

namespace Srv6Fabric.Library

variable {α : Type*} [LinearOrder α]

/-- The `limit` largest elements of a set, or all of them. -/
def largest (limit : Nat) (elements : Finset α) : Finset α :=
  elements.filter fun element => (elements.filter fun other => element < other).card < limit

/-- Add an element, and drop the smallest if there are then more than `limit`. -/
def keepLargest (limit : Nat) (window : Finset α) (element : α) : Finset α :=
  if some_ : limit < (insert element window).card then
    (insert element window).erase
      ((insert element window).min' (Finset.card_pos.mp (Nat.zero_lt_of_lt some_)))
  else insert element window

/-- The window has `limit` elements, or all of them, and none left out is larger than one
of them. -/
structure IsLargest (limit : Nat) (elements window : Finset α) : Prop where
  subset : window ⊆ elements
  card : window.card = min limit elements.card
  below : ∀ element ∈ window, ∀ other ∈ elements, other ∉ window → other < element

namespace IsLargest

variable {limit : Nat} {elements window : Finset α}

theorem empty (limit : Nat) : IsLargest limit (∅ : Finset α) ∅ :=
  ⟨Finset.Subset.refl _, by simp, by simp⟩

/-- Only one set is the set of the largest elements. -/
theorem eq_largest (isLargest : IsLargest limit elements window) :
    window = largest limit elements := by
  obtain ⟨subset, card, below⟩ := isLargest
  ext element
  rw [largest, Finset.mem_filter]
  constructor
  · intro mem
    refine ⟨subset mem, ?_⟩
    have above : (elements.filter fun other => element < other) ⊆ window.erase element := by
      intro other larger
      obtain ⟨present, after⟩ := Finset.mem_filter.mp larger
      refine Finset.mem_erase.mpr ⟨after.ne', ?_⟩
      by_contra outside
      exact absurd (below element mem other present outside) after.asymm
    have bound := Finset.card_le_card above
    have positive := Finset.card_pos.mpr ⟨element, mem⟩
    rw [Finset.card_erase_of_mem mem] at bound
    omega
  · rintro ⟨present, few⟩
    by_contra outside
    have above : window ⊆ elements.filter fun other => element < other := fun other mem =>
      Finset.mem_filter.mpr ⟨subset mem, below other mem element present outside⟩
    have bound := Finset.card_le_card above
    have proper : window.card < elements.card :=
      Finset.card_lt_card ⟨subset, fun all => outside (all present)⟩
    omega

/-- An element that is in the window already changes nothing. -/
theorem insert_of_mem (isLargest : IsLargest limit elements window) {element : α}
    (mem : element ∈ window) : IsLargest limit (insert element elements) window := by
  rwa [Finset.insert_eq_of_mem (isLargest.subset mem)]

/-- Another element, new or one that had been dropped, is taken in. -/
theorem keepLargest (isLargest : IsLargest limit elements window) {element : α}
    (outside : element ∉ window) :
    IsLargest limit (insert element elements) (Library.keepLargest limit window element) := by
  obtain ⟨subset, card, below⟩ := isLargest
  have size := Finset.card_insert_of_notMem outside
  have grown : insert element window ⊆ insert element elements := Finset.insert_subset_insert _ subset
  unfold Library.keepLargest
  split
  · next full =>
    set least := (insert element window).min' (Finset.card_pos.mp (Nat.zero_lt_of_lt full)) with least_def
    have member : least ∈ insert element window := Finset.min'_mem _ _
    have larger : ∀ other ∈ insert element window, other ≠ least → least < other :=
      fun other mem apart => lt_of_le_of_ne (Finset.min'_le _ _ mem) apart.symm
    refine ⟨(Finset.erase_subset _ _).trans grown, ?_, ?_⟩
    · have atLeast := Finset.card_le_card (Finset.subset_insert element elements)
      rw [Finset.card_erase_of_mem member]
      omega
    · intro kept memKept other present dropped
      obtain ⟨apart, inside⟩ := Finset.mem_erase.mp memKept
      by_cases isLeast : other = least
      · rw [isLeast]
        exact larger kept inside apart
      · have outsideToo : other ∉ insert element window := fun mem =>
          dropped (Finset.mem_erase.mpr ⟨isLeast, mem⟩)
        obtain ⟨notNew, notOld⟩ := not_or.mp (Finset.mem_insert.not.mp outsideToo)
        have old : other ∈ elements := (Finset.mem_insert.mp present).resolve_left notNew
        rcases Finset.mem_insert.mp inside with rfl | memWindow
        · -- The new element stays, so the least one is an old one above all that was left out.
          have memLeast := (Finset.mem_insert.mp member).resolve_left (Ne.symm apart)
          exact (below least memLeast other old notOld).trans (larger kept inside apart)
        · exact below kept memWindow other old notOld
  · next room =>
    have all : window = elements := Finset.eq_of_subset_of_card_le subset (by omega)
    subst all
    exact ⟨Finset.Subset.refl _, by omega, fun _ _ other present dropped => absurd present dropped⟩

end IsLargest

theorem isLargest_largest (limit : Nat) (elements : Finset α) :
    IsLargest limit elements (largest limit elements) := by
  induction elements using Finset.induction with
  | empty => exact IsLargest.empty limit
  | insert element rest fresh ih =>
      by_cases mem : element ∈ largest limit rest
      · have kept := ih.insert_of_mem mem
        rwa [kept.eq_largest] at kept
      · have kept := ih.keepLargest mem
        rwa [kept.eq_largest] at kept

/-- The window after one more element. -/
theorem largest_insert (limit : Nat) (elements : Finset α) (element : α) :
    largest limit (insert element elements) =
      if element ∈ largest limit elements then largest limit elements
      else keepLargest limit (largest limit elements) element := by
  split
  · next mem => exact ((isLargest_largest limit elements).insert_of_mem mem).eq_largest.symm
  · next outside => exact ((isLargest_largest limit elements).keepLargest outside).eq_largest.symm

end Srv6Fabric.Library

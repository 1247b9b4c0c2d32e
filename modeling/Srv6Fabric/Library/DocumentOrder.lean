import Mathlib.Data.List.Forall2
import Mathlib.Data.List.Lex

/-!
# Document order

A place in a nested document is the path of indices that leads to it; of two places the one
with the smaller index where they part comes first.  A traversal lists what a relation puts at
places when it meets exactly these items, in the order of their places.
-/

namespace Srv6Fabric.Library

variable {α ι : Type*}

/-- The list has exactly the items the relation has at some place, in the order of the places. -/
def Lists (occurs : List Nat → α → Prop) (items : List α) : Prop :=
  ∃ placed : List (List Nat × α), placed.map Prod.snd = items ∧
    (placed.Pairwise fun here there => here.1 < there.1) ∧
    ∀ place item, (place, item) ∈ placed ↔ occurs place item

namespace Lists

variable {occurs other : List Nat → α → Prop} {items : List α}

theorem congr (lists : Lists occurs items)
    (same : ∀ place item, occurs place item ↔ other place item) : Lists other items := by
  obtain ⟨placed, itemsEq, inOrder, exactly⟩ := lists
  exact ⟨placed, itemsEq, inOrder, fun place item => (exactly place item).trans (same place item)⟩

theorem nil (never : ∀ place item, ¬ occurs place item) : Lists occurs [] :=
  ⟨[], rfl, List.Pairwise.nil, fun place item => iff_of_false List.not_mem_nil (never place item)⟩

/-- One item, at the place itself. -/
theorem singleton (item : α) : Lists (fun place found => place = [] ∧ found = item) [item] := by
  refine ⟨[([], item)], rfl, List.pairwise_singleton _ _, fun place found => ?_⟩
  rw [List.mem_singleton, Prod.mk.injEq]

theorem mem_iff (lists : Lists occurs items) {item : α} :
    item ∈ items ↔ ∃ place, occurs place item := by
  obtain ⟨placed, rfl, -, exactly⟩ := lists
  rw [List.mem_map]
  constructor
  · rintro ⟨⟨place, found⟩, mem, rfl⟩
    exact ⟨place, (exactly place found).mp mem⟩
  · rintro ⟨place, here⟩
    exact ⟨(place, item), (exactly place item).mpr here, rfl⟩

/-- The children of a node one after the other, each under its index. -/
theorem flatten {nodes : List ι} {children : List (List α)} {occursIn : ι → List Nat → α → Prop}
    (each : List.Forall₂ (fun node child => Lists (occursIn node) child) nodes children) :
    Lists (fun place item => ∃ index node rest, place = index :: rest ∧
      nodes[index]? = some node ∧ occursIn node rest item) children.flatten := by
  -- the places of a suffix of the children start at its offset
  suffices from_ : ∀ offset, Lists (fun place item => ∃ index node rest,
      place = (offset + index) :: rest ∧ nodes[index]? = some node ∧ occursIn node rest item)
      children.flatten by
    refine (from_ 0).congr fun place item => ?_
    simp only [Nat.zero_add]
  induction each with
  | nil =>
      intro offset
      refine nil ?_
      rintro place item ⟨index, node, rest, -, listed, -⟩
      cases listed
  | @cons node child nodes children first _ ih =>
      intro offset
      obtain ⟨placed, itemsEq, inOrder, exactly⟩ := first
      obtain ⟨later, laterEq, laterOrder, laterExactly⟩ := ih (offset + 1)
      refine ⟨placed.map (fun found => (offset :: found.1, found.2)) ++ later, ?_, ?_, ?_⟩
      · rw [List.map_append, List.map_map, laterEq, List.flatten_cons, ← itemsEq]
        rfl
      · refine List.pairwise_append.mpr ⟨?_, laterOrder, ?_⟩
        · exact List.pairwise_map.mpr (inOrder.imp fun before => List.cons_lt_cons_iff.mpr
            (Or.inr ⟨rfl, before⟩))
        · rintro _ inFirst ⟨place, item⟩ inLater
          obtain ⟨_, _, rfl⟩ := List.mem_map.mp inFirst
          obtain ⟨index, _, rest, rfl, -, -⟩ := (laterExactly place item).mp inLater
          exact List.cons_lt_cons_iff.mpr (Or.inl (by omega))
      · intro place item
        rw [List.mem_append, laterExactly]
        constructor
        · rintro (inFirst | ⟨index, found, rest, rfl, listed, here⟩)
          · obtain ⟨⟨rest, found⟩, mem, same⟩ := List.mem_map.mp inFirst
            cases same
            exact ⟨0, node, rest, rfl, rfl, (exactly rest found).mp mem⟩
          · exact ⟨index + 1, found, rest, by rw [Nat.add_right_comm, Nat.add_assoc], listed, here⟩
        · rintro ⟨index, found, rest, rfl, listed, here⟩
          cases index with
          | zero =>
              obtain rfl := Option.some.inj listed
              exact Or.inl (List.mem_map.mpr ⟨(rest, item), (exactly rest item).mpr here, rfl⟩)
          | succ index =>
              exact Or.inr ⟨index, found, rest, by rw [Nat.add_right_comm, Nat.add_assoc], listed, here⟩

/-- The last item that passes a test is the one at the greatest place. -/
theorem find?_reverse (lists : Lists occurs items) {test : α → Bool} {item : α}
    (last : items.reverse.find? test = some item) :
    ∃ place, occurs place item ∧ ∀ elsewhere found, occurs elsewhere found → test found →
      elsewhere ≤ place := by
  obtain ⟨placed, rfl, inOrder, exactly⟩ := lists
  rw [← List.map_reverse, List.find?_map] at last
  obtain ⟨⟨place, found⟩, isLast, rfl⟩ := Option.map_eq_some_iff.mp last
  obtain ⟨-, after, before, split, others⟩ := List.find?_eq_some_iff_append.mp isLast
  have listed : (place, found) ∈ placed :=
    List.mem_reverse.mp (List.mem_of_find?_eq_some isLast)
  refine ⟨place, (exactly place found).mp listed, fun elsewhere other there passes => ?_⟩
  have mem := List.mem_reverse.mpr ((exactly elsewhere other).mpr there)
  have backwards := List.pairwise_reverse.mpr inOrder
  rw [split] at mem backwards
  rcases List.mem_append.mp mem with inAfter | inRest
  · have fails := others _ inAfter
    simp [passes] at fails
  · rcases List.mem_cons.mp inRest with same | inBefore
    · cases same
      exact le_rfl
    · exact le_of_lt ((List.pairwise_cons.mp (List.pairwise_append.mp backwards).2.1).1 _ inBefore)

end Lists

end Srv6Fabric.Library

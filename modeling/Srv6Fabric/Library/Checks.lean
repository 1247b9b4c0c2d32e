import Mathlib.Data.List.Basic

/-!
# Checks that can fail in two ways

A check of an input accepts it, refuses it with an error of the check's own, or lets a foreign
error escape.  `Describes` relates it to the computation that carries it out.
-/

namespace Srv6Fabric.Library

universe u v

/-- When a check accepts, and when a foreign error escapes from it. -/
structure Check where
  accepts : Prop
  escapes : Prop

namespace Check

def pass : Check := ⟨True, False⟩

def refuse : Check := ⟨False, False⟩

def escape : Check := ⟨False, True⟩

/-- Refuse unless a condition holds. -/
def guard (condition : Prop) : Check := ⟨condition, False⟩

/-- Fail with a foreign error unless a condition holds. -/
def trust (condition : Prop) : Check := ⟨condition, ¬ condition⟩

/-- Checks one after another: the first one that does not accept is the last one made. -/
def inOrder (checks : List Check) : Check where
  accepts := ∀ check ∈ checks, check.accepts
  escapes := ∃ before check after, checks = before ++ check :: after ∧
    (∀ earlier ∈ before, earlier.accepts) ∧ check.escapes

@[simp] theorem inOrder_nil_escapes : ¬ (inOrder []).escapes := by
  rintro ⟨before, check, after, split, -⟩
  exact absurd split (by simp)

theorem inOrder_cons_escapes {first : Check} {rest : List Check} :
    (inOrder (first :: rest)).escapes ↔ first.escapes ∨ first.accepts ∧ (inOrder rest).escapes := by
  constructor
  · rintro ⟨before, check, after, split, accepted, escapes⟩
    cases before with
    | nil =>
        obtain ⟨rfl, -⟩ := List.cons.inj split
        exact Or.inl escapes
    | cons earlier others =>
        obtain ⟨rfl, rfl⟩ := List.cons.inj split
        obtain ⟨firstAccepts, othersAccept⟩ := List.forall_mem_cons.mp accepted
        exact Or.inr ⟨firstAccepts, others, check, after, rfl, othersAccept, escapes⟩
  · rintro (escapes | ⟨accepts, before, check, after, rfl, accepted, escapes⟩)
    · exact ⟨[], first, rest, rfl, fun _ mem => absurd mem List.not_mem_nil, escapes⟩
    · exact ⟨first :: before, check, after, rfl, List.forall_mem_cons.mpr ⟨accepts, accepted⟩,
        escapes⟩

variable {ε : Type u} {α β : Type v} (own : ε → Prop)

/-- The computation returns where the check accepts and fails with a foreign error where one
escapes. -/
structure Describes (check : Check) (outcome : Except ε α) : Prop where
  accepts : (∃ value, outcome = .ok value) ↔ check.accepts
  escapes : (∃ error, outcome = .error error ∧ ¬ own error) ↔ check.escapes

namespace Describes

variable {own} {check other : Check}

theorem ok {value : α} (accepts : check.accepts) (safe : ¬ check.escapes) :
    check.Describes own (.ok value : Except ε α) where
  accepts := iff_of_true ⟨value, rfl⟩ accepts
  escapes := iff_of_false (by rintro ⟨error, ⟨⟩, -⟩) safe

theorem error {error : ε} (rejects : ¬ check.accepts) (escapes : check.escapes ↔ ¬ own error) :
    check.Describes own (.error error : Except ε α) where
  accepts := iff_of_false (by rintro ⟨value, ⟨⟩⟩) rejects
  escapes := by
    rw [escapes]
    constructor
    · rintro ⟨other, same, foreign⟩
      obtain rfl := Except.error.inj same
      exact foreign
    · exact fun foreign => ⟨error, rfl, foreign⟩

theorem refuse {error : ε} (isOwn : own error) : Check.refuse.Describes own (.error error : Except ε α) :=
  .error id (iff_of_false id (not_not.mpr isOwn))

theorem escape {error : ε} (foreign : ¬ own error) :
    Check.escape.Describes own (.error error : Except ε α) :=
  .error id (iff_of_true trivial foreign)

theorem congr {outcome : Except ε α} (describes : check.Describes own outcome)
    (accepts : check.accepts ↔ other.accepts) (escapes : check.escapes ↔ other.escapes) :
    other.Describes own outcome where
  accepts := describes.accepts.trans accepts
  escapes := describes.escapes.trans escapes

/-- Past a check that accepts, the next ones describe the outcome. -/
theorem skip {checks : List Check} {outcome : Except ε α} (accepts : check.accepts)
    (safe : ¬ check.escapes) (describes : (inOrder checks).Describes own outcome) :
    (inOrder (check :: checks)).Describes own outcome := by
  refine describes.congr ?_ ?_
  · exact (and_iff_right accepts).symm.trans List.forall_mem_cons.symm
  · rw [inOrder_cons_escapes, or_iff_right safe, and_iff_right accepts]

/-- A check that does not accept describes the outcome alone. -/
theorem stop {checks : List Check} {outcome : Except ε α} (rejects : ¬ check.accepts)
    (describes : check.Describes own outcome) :
    (inOrder (check :: checks)).Describes own outcome := by
  refine describes.congr ?_ ?_
  · exact iff_of_false rejects fun all => rejects (all check List.mem_cons_self)
  · rw [inOrder_cons_escapes, or_iff_left fun both => rejects both.1]

theorem error_of {failure : ε} (describes : check.Describes own (.error failure : Except ε α)) :
    ¬ check.accepts ∧ (check.escapes ↔ ¬ own failure) := by
  rw [← describes.accepts, ← describes.escapes]
  simp

/-- What follows a check is described where the check has accepted. -/
theorem bind {checks : List Check} {first : Except ε α} {next : α → Except ε β}
    (describes : check.Describes own first)
    (rest : ∀ value, first = .ok value → (inOrder checks).Describes own (next value)) :
    (inOrder (check :: checks)).Describes own (first >>= next) := by
  cases returned : first with
  | ok value =>
      have safe : ¬ check.escapes := by
        rw [← describes.escapes, returned]
        rintro ⟨error, ⟨⟩, -⟩
      exact (rest value returned).skip (describes.accepts.mp ⟨value, returned⟩) safe
  | error failure =>
      rw [returned] at describes
      obtain ⟨rejects, escapes⟩ := describes.error_of
      exact .stop rejects (.error rejects escapes)

theorem done {value : α} : (inOrder []).Describes own (.ok value : Except ε α) :=
  .ok (fun _ mem => absurd mem List.not_mem_nil) inOrder_nil_escapes

/-- The last check of a sequence. -/
theorem last {outcome : Except ε α} (describes : check.Describes own outcome) :
    (inOrder [check]).Describes own outcome := by
  refine describes.congr List.forall_mem_singleton.symm ?_
  simp [inOrder_cons_escapes]

/-- A step that always returns is no check. -/
theorem then_ok {first : Except ε α} {next : α → Except ε β} (describes : check.Describes own first)
    (returns : ∀ value, first = .ok value → ∃ result, next value = .ok result) :
    check.Describes own (first >>= next) := by
  have described : (inOrder [check]).Describes own (first >>= next) := by
    refine describes.bind fun value returned => ?_
    obtain ⟨result, same⟩ := returns value returned
    rw [same]
    exact done
  refine described.congr List.forall_mem_singleton ?_
  simp [inOrder_cons_escapes]

/-- A traversal checks its items in order. -/
theorem mapM {ι : Type*} {visit : ι → Except ε α} {checkOf : ι → Check} {items : List ι}
    (each : ∀ item ∈ items, (checkOf item).Describes own (visit item)) :
    (inOrder (items.map checkOf)).Describes own (items.mapM visit) := by
  induction items with
  | nil => exact done
  | cons item rest ih =>
      obtain ⟨first, others⟩ := List.forall_mem_cons.mp each
      rw [List.mapM_cons]
      exact first.bind fun _ _ => (ih others).then_ok fun _ _ => ⟨_, rfl⟩

end Describes

end Check

end Srv6Fabric.Library

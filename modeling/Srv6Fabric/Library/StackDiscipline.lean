import Mathlib.Data.List.Forall2
import Mathlib.Data.List.Induction
import Mathlib.Order.Nat

/-!
# Logs that keep a stack discipline

A log records, among other things, pushes and pops of keys.  When a stack can be replayed
along it, each pop taking off the key it names, every pop owns a push of its own: an
earlier one of the same key, the newest still standing, and never the push of another pop.
-/

namespace Srv6Fabric.Library

inductive StackOp (κ : Type*) where
  | push (key : κ)
  | pop (key : κ)
  deriving DecidableEq, Repr

namespace StackDiscipline

variable {ε κ : Type*}

section Replay

variable [DecidableEq κ] (op : ε → Option (StackOp κ))

/-- The stack after one entry of the log; a pop must name the key on top. -/
def step (stack : List κ) (entry : ε) : Option (List κ) :=
  match op entry, stack with
  | none, stack => some stack
  | some (.push key), stack => some (key :: stack)
  | some (.pop _), [] => none
  | some (.pop key), top :: rest => if top = key then some rest else none

theorem step_none {entry : ε} (quiet : op entry = none) (stack : List κ) :
    step op stack entry = some stack := by
  unfold step
  rw [quiet]

theorem step_push {entry : ε} {key : κ} (pushed : op entry = some (.push key)) (stack : List κ) :
    step op stack entry = some (key :: stack) := by
  unfold step
  rw [pushed]

theorem step_pop {entry : ε} {key : κ} (popped : op entry = some (.pop key)) (top : κ)
    (rest : List κ) : step op (top :: rest) entry = if top = key then some rest else none := by
  unfold step
  rw [popped]

/-- The stack after a log, from the empty one. -/
def replay (log : List ε) : Option (List κ) := log.foldlM (step op) []

theorem replay_concat (log : List ε) (entry : ε) :
    replay op (log ++ [entry]) = (replay op log).bind fun stack => step op stack entry := by
  rw [replay, List.foldlM_append]
  simp [replay]

variable {op}

theorem replay_concat_of_none {log : List ε} {stack : List κ} {entry : ε}
    (replayed : replay op log = some stack) (quiet : op entry = none) :
    replay op (log ++ [entry]) = some stack := by
  simp [replay_concat, replayed, step_none op quiet]

theorem replay_concat_push {log : List ε} {stack : List κ} {entry : ε} {key : κ}
    (replayed : replay op log = some stack) (pushed : op entry = some (.push key)) :
    replay op (log ++ [entry]) = some (key :: stack) := by
  simp [replay_concat, replayed, step_push op pushed]

theorem replay_concat_pop {log : List ε} {stack : List κ} {entry : ε} {key : κ}
    (replayed : replay op log = some (key :: stack)) (popped : op entry = some (.pop key)) :
    replay op (log ++ [entry]) = some stack := by
  simp [replay_concat, replayed, step_pop op popped]

end Replay

/-! ## Ownership -/

variable (op : ε → Option (StackOp κ))

/-- What the log does at a position. -/
def opAt (log : List ε) (i : Nat) : Option (StackOp κ) := log[i]?.bind op

def PushAt (log : List ε) (i : Nat) : Prop := ∃ key, opAt op log i = some (.push key)

def PopAt (log : List ε) (i : Nat) : Prop := ∃ key, opAt op log i = some (.pop key)

/-- Every pop owns an earlier push of its key, no two pops the same one, and between a push
and the pop that owns it every other push has been popped already. -/
structure Owns (log : List ε) (owner : Nat → Nat) : Prop where
  own : ∀ i key, opAt op log i = some (.pop key) →
    owner i < i ∧ opAt op log (owner i) = some (.push key)
  once : ∀ i i', PopAt op log i → PopAt op log i' → owner i = owner i' → i = i'
  newest : ∀ i, PopAt op log i → ∀ j, owner i < j → j < i → PushAt op log j →
    ∃ i' < i, PopAt op log i' ∧ owner i' = j

/-- The pushes no pop owns yet, newest first, are the stack. -/
structure Standing (log : List ε) (owner : Nat → Nat) (stack : List κ) (standing : List Nat) :
    Prop where
  mem : ∀ j, j ∈ standing ↔ PushAt op log j ∧ ∀ i, PopAt op log i → owner i ≠ j
  sorted : standing.Pairwise (· > ·)
  keys : List.Forall₂ (fun j key => opAt op log j = some (.push key)) standing stack

section Concat

variable {op} {log : List ε} {entry : ε} {i : Nat}

theorem opAt_lt {found : StackOp κ} (at_ : opAt op log i = some found) : i < log.length := by
  obtain ⟨entry, held, -⟩ := Option.bind_eq_some_iff.mp at_
  exact (List.getElem?_eq_some_iff.mp held).1

theorem opAt_concat_of_lt (inside : i < log.length) :
    opAt op (log ++ [entry]) i = opAt op log i := by
  rw [opAt, List.getElem?_append_left inside, opAt]

@[simp] theorem opAt_concat_length : opAt op (log ++ [entry]) log.length = op entry := by
  simp [opAt]

theorem opAt_concat_iff {found : StackOp κ} :
    opAt op (log ++ [entry]) i = some found ↔
      opAt op log i = some found ∨ (i = log.length ∧ op entry = some found) := by
  constructor
  · intro at_
    have bound := opAt_lt at_
    rw [List.length_append, List.length_singleton] at bound
    by_cases inside : i < log.length
    · rw [opAt_concat_of_lt inside] at at_
      exact Or.inl at_
    · obtain rfl : i = log.length := by omega
      exact Or.inr ⟨rfl, by simpa using at_⟩
  · rintro (at_ | ⟨rfl, here⟩)
    · rw [opAt_concat_of_lt (opAt_lt at_)]
      exact at_
    · simpa using here

theorem pushAt_concat_iff : PushAt op (log ++ [entry]) i ↔
    PushAt op log i ∨ (i = log.length ∧ ∃ key, op entry = some (.push key)) := by
  simp only [PushAt, opAt_concat_iff, exists_or, exists_and_left]

theorem popAt_concat_iff : PopAt op (log ++ [entry]) i ↔
    PopAt op log i ∨ (i = log.length ∧ ∃ key, op entry = some (.pop key)) := by
  simp only [PopAt, opAt_concat_iff, exists_or, exists_and_left]

theorem PushAt.lt (push : PushAt op log i) : i < log.length := opAt_lt push.choose_spec

theorem PopAt.lt (pop : PopAt op log i) : i < log.length := opAt_lt pop.choose_spec

end Concat

section Step

variable {op} {log : List ε} {entry : ε} {owner : Nat → Nat} {stack : List κ} {standing : List Nat}

/-- An entry that pops nothing leaves every ownership as it was. -/
theorem Owns.concat_of_not_pop (owns : Owns op log owner)
    (quiet : ∀ key, op entry ≠ some (.pop key)) : Owns op (log ++ [entry]) owner := by
  have same : ∀ i, PopAt op (log ++ [entry]) i ↔ PopAt op log i := fun i =>
    popAt_concat_iff.trans (or_iff_left fun ⟨_, key, popped⟩ => quiet key popped)
  refine ⟨?_, ?_, ?_⟩
  · intro i key at_
    obtain ⟨before, pushed⟩ := owns.own i key
      ((opAt_concat_iff.mp at_).resolve_right fun here => quiet key here.2)
    exact ⟨before, opAt_concat_iff.mpr (Or.inl pushed)⟩
  · intro i i' pop pop'
    exact owns.once i i' ((same i).mp pop) ((same i').mp pop')
  · intro i pop j after before push
    have popped := (same i).mp pop
    have pushed := (pushAt_concat_iff.mp push).resolve_right fun here =>
      absurd popped.lt (by omega)
    obtain ⟨i', earlier, pop', eq⟩ := owns.newest i popped j after before pushed
    exact ⟨i', earlier, (same i').mpr pop', eq⟩

theorem Standing.concat_keys (is : Standing op log owner stack standing) :
    List.Forall₂ (fun j key => opAt op (log ++ [entry]) j = some (.push key)) standing stack :=
  is.keys.imp fun _ _ pushed => opAt_concat_iff.mpr (Or.inl pushed)

theorem Standing.concat_of_none (is : Standing op log owner stack standing) (quiet : op entry = none) :
    Standing op (log ++ [entry]) owner stack standing := by
  refine ⟨?_, is.sorted, is.concat_keys⟩
  intro j
  simp only [pushAt_concat_iff, popAt_concat_iff, quiet, reduceCtorEq, exists_false, and_false,
    or_false]
  exact is.mem j

theorem Standing.concat_push {key : κ} (owns : Owns op log owner)
    (is : Standing op log owner stack standing) (pushed : op entry = some (.push key)) :
    Standing op (log ++ [entry]) owner (key :: stack) (log.length :: standing) := by
  refine ⟨?_, ?_, List.Forall₂.cons (by simpa using pushed) is.concat_keys⟩
  · intro j
    simp only [List.mem_cons, is.mem, pushAt_concat_iff, popAt_concat_iff, pushed, Option.some.injEq,
      reduceCtorEq, exists_false, and_false, or_false, StackOp.push.injEq, exists_eq', and_true]
    constructor
    · rintro (rfl | ⟨push, free⟩)
      · refine ⟨Or.inr rfl, fun i pop owned => ?_⟩
        obtain ⟨popKey, at_⟩ := pop
        have before := (owns.own i popKey at_).1
        have bound := opAt_lt at_
        omega
      · exact ⟨Or.inl push, free⟩
    · rintro ⟨push | rfl, free⟩
      · exact Or.inr ⟨push, free⟩
      · exact Or.inl rfl
  · refine List.pairwise_cons.mpr ⟨?_, is.sorted⟩
    intro j member
    exact ((is.mem j).mp member).1.lt

theorem popAt_concat_pop {key : κ} (popped : op entry = some (.pop key)) {i : Nat} :
    PopAt op (log ++ [entry]) i ↔ PopAt op log i ∨ i = log.length := by
  simp [popAt_concat_iff, popped]

theorem pushAt_concat_pop {key : κ} (popped : op entry = some (.pop key)) {j : Nat} :
    PushAt op (log ++ [entry]) j ↔ PushAt op log j := by
  simp [pushAt_concat_iff, popped]

/-- A pop of the log keeps its owner when the next pop gets one. -/
theorem PopAt.update_owner {i : Nat} (pop : PopAt op log i) (top : Nat) :
    Function.update owner log.length top i = owner i :=
  Function.update_of_ne pop.lt.ne _ _

/-- A push above the top is not standing: some pop owns it. -/
theorem Standing.owned_above {top j : Nat} (is : Standing op log owner stack (top :: standing))
    (push : PushAt op log j) (after : top < j) : ∃ i, PopAt op log i ∧ owner i = j := by
  obtain ⟨above, -⟩ := List.pairwise_cons.mp is.sorted
  by_contra none_
  push Not at none_
  rcases List.mem_cons.mp ((is.mem j).mpr ⟨push, none_⟩) with rfl | below
  · exact lt_irrefl _ after
  · exact (above j below).asymm after

/-- A pop of the top takes the newest standing push for its own. -/
theorem Owns.concat_pop {key : κ} {top : Nat} (owns : Owns op log owner)
    (is : Standing op log owner (key :: stack) (top :: standing))
    (popped : op entry = some (.pop key)) :
    Owns op (log ++ [entry]) (Function.update owner log.length top) := by
  obtain ⟨topPushed, -⟩ := List.forall₂_cons.mp is.keys
  obtain ⟨topPush, topFree⟩ := (is.mem top).mp List.mem_cons_self
  refine ⟨?_, ?_, ?_⟩
  · intro i popKey at_
    rcases opAt_concat_iff.mp at_ with before | ⟨rfl, here⟩
    · obtain ⟨earlier, pushed⟩ := owns.own i popKey before
      rw [PopAt.update_owner ⟨popKey, before⟩]
      exact ⟨earlier, opAt_concat_iff.mpr (Or.inl pushed)⟩
    · rw [popped] at here
      cases here
      rw [Function.update_self]
      exact ⟨topPush.lt, opAt_concat_iff.mpr (Or.inl topPushed)⟩
  · intro i i' pop pop' same
    rcases (popAt_concat_pop popped).mp pop with before | rfl <;>
      rcases (popAt_concat_pop popped).mp pop' with before' | rfl
    · rw [before.update_owner, before'.update_owner] at same
      exact owns.once i i' before before' same
    · rw [before.update_owner, Function.update_self] at same
      exact absurd same (topFree i before)
    · rw [before'.update_owner, Function.update_self] at same
      exact absurd same.symm (topFree i' before')
    · rfl
  · intro i pop j after before push
    rw [pushAt_concat_pop popped] at push
    rcases (popAt_concat_pop popped).mp pop with earlier | rfl
    · rw [earlier.update_owner] at after
      obtain ⟨i', less, pop', eq⟩ := owns.newest i earlier j after before push
      exact ⟨i', less, (popAt_concat_pop popped).mpr (Or.inl pop'), (pop'.update_owner top).trans eq⟩
    · rw [Function.update_self] at after
      obtain ⟨i', pop', eq⟩ := is.owned_above push after
      exact ⟨i', pop'.lt, (popAt_concat_pop popped).mpr (Or.inl pop'), (pop'.update_owner top).trans eq⟩

/-- And leaves the others standing. -/
theorem Standing.concat_pop {key : κ} {top : Nat}
    (is : Standing op log owner (key :: stack) (top :: standing))
    (popped : op entry = some (.pop key)) :
    Standing op (log ++ [entry]) (Function.update owner log.length top) stack standing := by
  obtain ⟨above, sorted⟩ := List.pairwise_cons.mp is.sorted
  refine ⟨?_, sorted, ?_⟩
  · intro j
    rw [pushAt_concat_pop popped]
    constructor
    · intro member
      obtain ⟨push, free⟩ := (is.mem j).mp (List.mem_cons_of_mem _ member)
      refine ⟨push, fun i pop => ?_⟩
      rcases (popAt_concat_pop popped).mp pop with before | rfl
      · rw [before.update_owner]
        exact free i before
      · rw [Function.update_self]
        exact (above j member).ne'
    · rintro ⟨push, free⟩
      have old : j ∈ top :: standing := by
        refine (is.mem j).mpr ⟨push, fun i pop => ?_⟩
        have kept : Function.update owner log.length top i = owner i := pop.update_owner top
        rw [← kept]
        exact free i ((popAt_concat_pop popped).mpr (Or.inl pop))
      refine (List.mem_cons.mp old).resolve_left fun same => ?_
      have freeHere := free log.length ((popAt_concat_pop popped).mpr (Or.inr rfl))
      rw [Function.update_self] at freeHere
      exact freeHere same.symm
  · exact ((List.forall₂_cons.mp is.keys).2).imp fun _ _ pushed =>
      opAt_concat_iff.mpr (Or.inl pushed)

end Step

/-- A log along which a stack replays has an owner for every pop. -/
theorem exists_owns [DecidableEq κ] {log : List ε} {stack : List κ}
    (replayed : replay op log = some stack) :
    ∃ owner standing, Owns op log owner ∧ Standing op log owner stack standing := by
  induction log using List.reverseRecOn generalizing stack with
  | nil =>
      cases replayed
      refine ⟨id, [], ⟨?_, ?_, ?_⟩, ?_, List.Pairwise.nil, List.Forall₂.nil⟩
      · rintro i key ⟨⟩
      · rintro i i' ⟨key, ⟨⟩⟩
      · rintro i ⟨key, ⟨⟩⟩
      · intro j
        refine iff_of_false (List.not_mem_nil) ?_
        rintro ⟨⟨key, ⟨⟩⟩, -⟩
  | append_singleton log entry ih =>
      rw [replay_concat] at replayed
      obtain ⟨before, replayedBefore, stepped⟩ := Option.bind_eq_some_iff.mp replayed
      obtain ⟨owner, standing, owns, is⟩ := ih replayedBefore
      unfold step at stepped
      split at stepped
      · next quiet =>
        cases stepped
        exact ⟨owner, standing, owns.concat_of_not_pop (by simp [quiet]), is.concat_of_none quiet⟩
      · next pushed =>
        cases stepped
        exact ⟨owner, _, owns.concat_of_not_pop (by simp [pushed]), is.concat_push owns pushed⟩
      · cases stepped
      · next key top rest popped =>
        split at stepped
        · next same =>
          cases stepped
          obtain ⟨pushIndex, others, rfl⟩ : ∃ first others, standing = first :: others := by
            cases standing with
            | nil => cases is.keys
            | cons first others => exact ⟨first, others, rfl⟩
          exact ⟨_, _, owns.concat_pop (same ▸ is) popped, Standing.concat_pop (same ▸ is) popped⟩
        · cases stepped

end StackDiscipline

end Srv6Fabric.Library

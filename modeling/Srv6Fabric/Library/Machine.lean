import Mathlib.Data.List.Basic

/-!
# Guarded machines

A machine is a start state and a partial step function: an action the state does not
allow has no successor.  Runs are lists of actions; what every step keeps, every run
keeps.
-/

namespace Srv6Fabric.Library

variable {σ α : Type*}

structure Machine (σ α : Type*) where
  start : σ
  step : σ → α → Option σ

namespace Machine

variable (machine : Machine σ α)

/-- The state after a list of actions, if each is allowed when its turn comes. -/
def run (state : σ) : List α → Option σ
  | [] => some state
  | action :: rest => (machine.step state action).bind fun next => run next rest

def Reaches (state later : σ) : Prop := ∃ actions, machine.run state actions = some later

def Reachable (state : σ) : Prop := machine.Reaches machine.start state

variable {machine}

theorem run_cons_eq_some {state later : σ} {action : α} {rest : List α} :
    machine.run state (action :: rest) = some later ↔
      ∃ next, machine.step state action = some next ∧ machine.run next rest = some later :=
  Option.bind_eq_some_iff

theorem run_append {state middle later : σ} {first second : List α}
    (before : machine.run state first = some middle)
    (after : machine.run middle second = some later) :
    machine.run state (first ++ second) = some later := by
  induction first generalizing state with
  | nil =>
      cases before
      exact after
  | cons action rest ih =>
      obtain ⟨next, stepped, ran⟩ := run_cons_eq_some.mp before
      exact run_cons_eq_some.mpr ⟨next, stepped, ih ran⟩

/-- A run of two lists passes through the state after the first. -/
theorem exists_of_run_append {state later : σ} {first second : List α}
    (ran : machine.run state (first ++ second) = some later) :
    ∃ middle, machine.run state first = some middle ∧ machine.run middle second = some later := by
  induction first generalizing state with
  | nil => exact ⟨state, rfl, ran⟩
  | cons action rest ih =>
      obtain ⟨next, stepped, onward⟩ := run_cons_eq_some.mp ran
      obtain ⟨middle, before, after⟩ := ih onward
      exact ⟨middle, run_cons_eq_some.mpr ⟨next, stepped, before⟩, after⟩

theorem Reaches.refl (state : σ) : machine.Reaches state state := ⟨[], rfl⟩

theorem Reaches.trans {state middle later : σ} (before : machine.Reaches state middle)
    (after : machine.Reaches middle later) : machine.Reaches state later := by
  obtain ⟨first, ranFirst⟩ := before
  obtain ⟨second, ranSecond⟩ := after
  exact ⟨first ++ second, run_append ranFirst ranSecond⟩

/-- Every action of the run is one its state allows. -/
def along (machine : Machine σ α) (allowed : σ → α → Bool) (state : σ) : List α → Bool
  | [] => true
  | action :: rest =>
      allowed state action &&
        match machine.step state action with
        | none => true
        | some next => machine.along allowed next rest

theorem along_cons_iff {allowed : σ → α → Bool} {state next : σ} {action : α} {rest : List α}
    (stepped : machine.step state action = some next) :
    machine.along allowed state (action :: rest) ↔
      allowed state action ∧ machine.along allowed next rest := by
  simp [along, stepped]

/-- What every allowed step keeps, an allowed run keeps. -/
theorem along_invariant {allowed : σ → α → Bool} {motive : σ → Prop}
    (kept : ∀ state action next, motive state → allowed state action →
      machine.step state action = some next → motive next)
    {state later : σ} {actions : List α} (guarded : machine.along allowed state actions)
    (ran : machine.run state actions = some later) (now : motive state) : motive later := by
  induction actions generalizing state with
  | nil =>
      cases ran
      exact now
  | cons action rest ih =>
      obtain ⟨next, stepped, ran⟩ := run_cons_eq_some.mp ran
      obtain ⟨here, further⟩ := (along_cons_iff stepped).mp guarded
      exact ih further ran (kept state action next now here stepped)

/-- A property that a step keeps exactly when it is allowed holds after a run exactly when
it held before and the run was allowed throughout. -/
theorem along_iff_of_step {allowed : σ → α → Bool} {sound motive : σ → Prop}
    (kept : ∀ state action next, sound state → machine.step state action = some next → sound next)
    (exact_ : ∀ state action next, sound state → machine.step state action = some next →
      (motive next ↔ motive state ∧ allowed state action))
    {state later : σ} {actions : List α} (ran : machine.run state actions = some later)
    (now : sound state) :
    motive later ↔ motive state ∧ machine.along allowed state actions := by
  induction actions generalizing state with
  | nil =>
      cases ran
      simp [along]
  | cons action rest ih =>
      obtain ⟨next, stepped, ran⟩ := run_cons_eq_some.mp ran
      rw [ih ran (kept state action next now stepped), exact_ state action next now stepped,
        along_cons_iff stepped, and_assoc]

/-- What every step keeps, a run keeps. -/
theorem Reaches.invariant {motive : σ → Prop}
    (kept : ∀ state action next, motive state → machine.step state action = some next → motive next)
    {state later : σ} (reaches : machine.Reaches state later) (now : motive state) :
    motive later := by
  obtain ⟨actions, ran⟩ := reaches
  induction actions generalizing state with
  | nil =>
      cases ran
      exact now
  | cons action rest ih =>
      obtain ⟨next, stepped, ran⟩ := run_cons_eq_some.mp ran
      exact ih (kept state action next now stepped) ran

/-- What holds at the start and every step keeps holds of every reachable state. -/
theorem Reachable.invariant {motive : σ → Prop} (initially : motive machine.start)
    (kept : ∀ state action next, motive state → machine.step state action = some next → motive next)
    {state : σ} (reachable : machine.Reachable state) : motive state :=
  Reaches.invariant kept reachable initially

end Machine

end Srv6Fabric.Library

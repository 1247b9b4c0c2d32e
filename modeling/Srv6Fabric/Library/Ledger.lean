import Mathlib.Algebra.Order.Ring.Nat
import Srv6Fabric.Library.Machine

/-!
# Ledgers of a machine

Each action of a run enters some amount on an account, a state holds some, and a step
may lose some.  When every single step balances, a whole run does, and a run has lost
nothing exactly when no step of it loses anything.
-/

namespace Srv6Fabric.Library

namespace Machine

variable {σ α ι : Type*}

/-- What a list of actions enters on an account. -/
def enteredBy (entered : α → ι → Nat) (actions : List α) (account : ι) : Nat :=
  (actions.map fun action => entered action account).sum

/-- What a run loses from an account. -/
def lostBy (machine : Machine σ α) (lost : σ → α → ι → Nat) (state : σ) :
    List α → ι → Nat
  | [], _ => 0
  | action :: rest, account =>
      lost state action account +
        match machine.step state action with
        | none => 0
        | some next => machine.lostBy lost next rest account

theorem lostBy_cons (machine : Machine σ α) (lost : σ → α → ι → Nat) (state : σ) (action : α)
    (rest : List α) (account : ι) :
    machine.lostBy lost state (action :: rest) account =
      lost state action account +
        match machine.step state action with
        | none => 0
        | some next => machine.lostBy lost next rest account := rfl

theorem lostBy_eq_zero {machine : Machine σ α} {lost : σ → α → ι → Nat} {account : ι}
    (kept : ∀ state action, lost state action account = 0) (state : σ) (actions : List α) :
    machine.lostBy lost state actions account = 0 := by
  induction actions generalizing state with
  | nil => rfl
  | cons action rest ih =>
      rw [lostBy_cons, kept, Nat.zero_add]
      cases machine.step state action with
      | none => rfl
      | some next => exact ih next

section Balance

variable {machine : Machine σ α} {sound : σ → Prop} {held : σ → ι → Nat}
  {entered : α → ι → Nat} {lost : σ → α → ι → Nat} {allowed : σ → α → Bool}

/-- If every step of a sound state balances, every run from one does. -/
theorem run_balances
    (kept : ∀ state action next, sound state → machine.step state action = some next → sound next)
    (balanced : ∀ state action next, sound state → machine.step state action = some next →
      ∀ account, held state account + entered action account =
        held next account + lost state action account)
    {state later : σ} {actions : List α} (ran : machine.run state actions = some later)
    (now : sound state) (account : ι) :
    held state account + enteredBy entered actions account =
      held later account + machine.lostBy lost state actions account := by
  induction actions generalizing state with
  | nil =>
      cases ran
      rfl
  | cons action rest ih =>
      obtain ⟨next, stepped, ran⟩ := run_cons_eq_some.mp ran
      have further := ih ran (kept state action next now stepped)
      have here := balanced state action next now stepped account
      simp only [enteredBy, List.map_cons, List.sum_cons, lostBy_cons, stepped] at further ⊢
      omega

/-- A run is allowed throughout exactly when it loses nothing. -/
theorem along_iff_lostBy_eq_zero
    (kept : ∀ state action next, sound state → machine.step state action = some next → sound next)
    (exact_ : ∀ state action, sound state →
      (allowed state action ↔ ∀ account, lost state action account = 0))
    {state later : σ} {actions : List α} (ran : machine.run state actions = some later)
    (now : sound state) :
    machine.along allowed state actions ↔
      ∀ account, machine.lostBy lost state actions account = 0 := by
  induction actions generalizing state with
  | nil => exact iff_of_true rfl fun _ => rfl
  | cons action rest ih =>
      obtain ⟨next, stepped, ran⟩ := run_cons_eq_some.mp ran
      rw [along_cons_iff stepped, exact_ state action now,
        ih ran (kept state action next now stepped)]
      simp only [lostBy_cons, stepped, Nat.add_eq_zero_iff]
      exact forall_and.symm

variable (held) in
/-- What a run from empty accounts entered is held at its end, account by account,
exactly when no step of it loses anything. -/
theorem held_eq_entered_iff
    (kept : ∀ state action next, sound state → machine.step state action = some next → sound next)
    (balanced : ∀ state action next, sound state → machine.step state action = some next →
      ∀ account, held state account + entered action account =
        held next account + lost state action account)
    (exact_ : ∀ state action, sound state →
      (allowed state action ↔ ∀ account, lost state action account = 0))
    {later : σ} {actions : List α} (ran : machine.run machine.start actions = some later)
    (now : sound machine.start) (empty : ∀ account, held machine.start account = 0) :
    (∀ account, enteredBy entered actions account = held later account) ↔
      machine.along allowed machine.start actions := by
  rw [along_iff_lostBy_eq_zero kept exact_ ran now]
  refine forall_congr' fun account => ?_
  have total := run_balances kept balanced ran now account
  rw [empty account] at total
  omega

end Balance

end Machine

end Srv6Fabric.Library

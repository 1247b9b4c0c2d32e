import Mathlib.Data.List.Basic

/-!
# Unwinding

A machine steps on every action; an observer sees a view of its state, and some actions are
visible to it.  If hidden actions leave the view alone and a visible one moves equal views
to equal views, then the view after a run depends on the visible actions only: however the
hidden ones are chosen and interleaved, two runs with the same visible actions end alike.
-/

namespace Srv6Fabric.Library

variable {σ α ν : Type*}

structure Unwinding (step : σ → α → σ) (visible : α → Bool) (view : σ → ν) : Prop where
  hidden : ∀ state action, visible action = false → view (step state action) = view state
  seen : ∀ state state' action, visible action = true → view state = view state' →
    view (step state action) = view (step state' action)

namespace Unwinding

variable {step : σ → α → σ} {visible : α → Bool} {view : σ → ν}

/-- Purging the hidden actions does not change what the observer sees at the end. -/
theorem purge (unwinding : Unwinding step visible view) {state state' : σ}
    (same : view state = view state') (actions : List α) :
    view (actions.foldl step state) = view ((actions.filter visible).foldl step state') := by
  induction actions generalizing state state' with
  | nil => exact same
  | cons action rest ih =>
      cases shown : visible action with
      | false =>
          rw [List.filter_cons_of_neg (by simp [shown]), List.foldl_cons]
          exact ih ((unwinding.hidden state action shown).trans same)
      | true =>
          rw [List.filter_cons_of_pos shown, List.foldl_cons, List.foldl_cons]
          exact ih (unwinding.seen state state' action shown same)

/-- Noninterference: equal visible actions, equal views. -/
theorem foldl_eq (unwinding : Unwinding step visible view) {state state' : σ}
    (same : view state = view state') {actions actions' : List α}
    (visibleEq : actions.filter visible = actions'.filter visible) :
    view (actions.foldl step state) = view (actions'.foldl step state') := by
  calc view (actions.foldl step state)
      = view ((actions.filter visible).foldl step state') := unwinding.purge same actions
    _ = view ((actions'.filter visible).foldl step state') := by rw [visibleEq]
    _ = view (actions'.foldl step state') := (unwinding.purge rfl actions').symm

end Unwinding

end Srv6Fabric.Library

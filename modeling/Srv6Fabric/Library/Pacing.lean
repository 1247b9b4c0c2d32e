import Mathlib.Algebra.Order.Field.Basic
import Mathlib.Tactic.Linarith
import Mathlib.Tactic.Ring

/-!
# Pacing

A paced loop acts once a turn.  A turn comes an interval or more after the one before it,
and never before the action of that one: a loop that falls behind starts over from where it
is instead of catching up.  Whatever delays the actions, a stretch of time then holds at
most one action more than the turns that fit into it.
-/

namespace Srv6Fabric.Library

/-- The times of the actions of a paced loop whose first turn comes at `turn`. -/
inductive Paced {K : Type*} [CommRing K] [LinearOrder K] (interval : K) : K → List K → Prop where
  | done (turn : K) : Paced interval turn []
  | act {turn later time : K} {rest : List K} (onTurn : turn ≤ time) (spaced : turn + interval ≤ later)
      (behind : time ≤ later) (further : Paced interval later rest) :
      Paced interval turn (time :: rest)

namespace Paced

section

variable {K : Type*} [CommRing K] [LinearOrder K] {interval turn : K} {times : List K}

/-- What comes first of a paced list is paced. -/
theorem of_append {first second : List K} (paced : Paced interval turn (first ++ second)) :
    Paced interval turn first := by
  induction first generalizing turn with
  | nil => exact .done turn
  | cons time rest ih =>
      cases paced with
      | act onTurn spaced behind further => exact .act onTurn spaced behind (ih further)

variable [IsStrictOrderedRing K]

/-- The action of a number waits for that many intervals. -/
theorem le_getElem (paced : Paced interval turn times) (index : Nat) (inRange : index < times.length) :
    turn + index * interval ≤ times[index] := by
  induction paced generalizing index with
  | done turn => exact absurd inRange (Nat.not_lt_zero _)
  | @act turn later time rest onTurn spaced behind further ih =>
      cases index with
      | zero => simpa using onTurn
      | succ index =>
          have bound := ih index (Nat.lt_of_succ_lt_succ inRange)
          rw [List.getElem_cons_succ]
          push_cast
          linarith

/-- Between two actions there is an interval for each action in between. -/
theorem getElem_add_le (paced : Paced interval turn times) (index gap : Nat)
    (inRange : index + 1 + gap < times.length) :
    times[index] + gap * interval ≤ times[index + 1 + gap] := by
  induction paced generalizing index with
  | done turn => exact absurd inRange (Nat.not_lt_zero _)
  | @act turn later time rest onTurn spaced behind further ih =>
      cases index with
      | zero =>
          have bound := further.le_getElem gap (by simpa [Nat.add_comm] using inRange)
          simp only [List.getElem_cons_zero, zero_add, Nat.add_comm 1 gap, List.getElem_cons_succ]
          linarith
      | succ index =>
          have shorter : index + 1 + gap < rest.length := by
            rw [List.length_cons] at inRange
            omega
          have shifted : index + 1 + 1 + gap = (index + 1 + gap) + 1 := by omega
          simp only [List.getElem_cons_succ, shifted]
          exact ih index shorter

/-- Up to a moment there is time for one action and for one more each interval. -/
theorem countP_lt (paced : Paced interval turn times) (positive : 0 < interval) (until_ : K)
    (busy : 0 < times.countP fun time => time < until_) :
    turn + ((times.countP fun time => time < until_) - 1 : K) * interval < until_ := by
  induction paced with
  | done turn => exact absurd busy (Nat.not_lt_zero _)
  | @act turn later time rest onTurn spaced behind further ih =>
      rcases Nat.eq_zero_or_pos (rest.countP fun time => time < until_) with none | some
      · have here : time < until_ := by
          by_contra past
          rw [List.countP_cons_of_neg (by simpa using past), none] at busy
          exact lt_irrefl _ busy
        rw [List.countP_cons_of_pos (by simpa using here), none]
        push_cast
        linarith
      · have bound := ih some
        have atLeast : (1 : K) ≤ (rest.countP fun time => time < until_ : Nat) := by exact_mod_cast some
        have room : 0 ≤ ((rest.countP fun time => time < until_ : Nat) - 1 : K) * interval :=
          mul_nonneg (by linarith) positive.le
        have here : time < until_ := by linarith
        rw [List.countP_cons_of_pos (by simpa using here)]
        push_cast
        linarith

/-- A stretch of time holds at most one action more than the turns that fit into it. -/
theorem countP_window (paced : Paced interval turn times) (positive : 0 < interval)
    (since until_ : K) (busy : 1 < times.countP fun time => since ≤ time ∧ time < until_) :
    ((times.countP fun time => since ≤ time ∧ time < until_) - 2 : K) * interval <
      until_ - since := by
  induction paced with
  | done turn => exact absurd busy (Nat.not_lt_zero _)
  | @act turn later time rest onTurn spaced behind further ih =>
      by_cases inside : since ≤ time ∧ time < until_
      · rw [List.countP_cons_of_pos (by simpa using inside)] at busy ⊢
        have before : (rest.countP fun time => since ≤ time ∧ time < until_) ≤
            rest.countP fun time => time < until_ :=
          List.countP_mono_left fun other _ both => by simp at both ⊢; exact both.2
        have bound := further.countP_lt positive until_ (by omega)
        have fewer : ((rest.countP fun time => since ≤ time ∧ time < until_ : Nat) : K) ≤
            (rest.countP fun time => time < until_ : Nat) := by exact_mod_cast before
        have spent := mul_le_mul_of_nonneg_right fewer positive.le
        push_cast
        linarith [inside.1]
      · rw [List.countP_cons_of_neg (by simpa using inside)] at busy ⊢
        exact ih busy

end

section

variable {K : Type*} [Field K] [LinearOrder K] [IsStrictOrderedRing K] {interval turn : K}
  {times : List K}

/-- In actions per unit of time. -/
theorem countP_window_lt (paced : Paced interval turn times) {rate : K} (positive : 0 < rate)
    (isInterval : interval = 1 / rate) {since until_ : K} (ordered : since ≤ until_) :
    ((times.countP fun time => since ≤ time ∧ time < until_ : Nat) : K) <
      (until_ - since) * rate + 2 := by
  have room : 0 ≤ (until_ - since) * rate := mul_nonneg (sub_nonneg.mpr ordered) positive.le
  by_cases busy : 1 < times.countP fun time => since ≤ time ∧ time < until_
  · have bound := paced.countP_window (isInterval ▸ one_div_pos.mpr positive) since until_ busy
    rw [isInterval, mul_one_div, div_lt_iff₀ positive] at bound
    linarith
  · have few : ((times.countP fun time => since ≤ time ∧ time < until_ : Nat) : K) ≤ 1 := by
      exact_mod_cast not_lt.mp busy
    linarith

/-- Before a deadline there is time for the first action and for one more each interval. -/
theorem length_lt (paced : Paced interval turn times) {rate : K} (positive : 0 < rate)
    (isInterval : interval = 1 / rate) {until_ : K} (all : ∀ time ∈ times, time < until_)
    (ordered : turn ≤ until_) : (times.length : K) < (until_ - turn) * rate + 1 := by
  have every : (times.countP fun time => time < until_) = times.length :=
    List.countP_eq_length.mpr fun time mem => by simpa using all time mem
  rcases Nat.eq_zero_or_pos times.length with none | some
  · have room : 0 ≤ (until_ - turn) * rate := mul_nonneg (sub_nonneg.mpr ordered) positive.le
    rw [none]
    push_cast
    linarith
  · have bound := paced.countP_lt (isInterval ▸ one_div_pos.mpr positive) until_ (by omega)
    rw [every, isInterval, mul_one_div, ← lt_sub_iff_add_lt', div_lt_iff₀ positive] at bound
    linarith

end

end Paced

end Srv6Fabric.Library

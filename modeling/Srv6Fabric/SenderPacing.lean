import Srv6Fabric.Sender
import Srv6Fabric.SpineChoice

/-!
# How fast a sender sends

The loop of `run_sender` is paced: on a clock that never goes back, whatever delays it, no
stretch of time holds more than one packet over its rate.
-/

namespace Srv6Fabric.Sender

open Srv6Fabric.Library

/-! ## The clock -/

/-- The earliest a turn is over: `time.sleep` returns no earlier than asked. -/
def woken (interval nextTx : ℚ) (turn : Turn) : ℚ :=
  let slack := nextTx + interval - turn.reading
  if 0 < slack then turn.reading + slack else turn.again

/-- The slot after a turn. -/
def slotAfter (interval nextTx : ℚ) (turn : Turn) : ℚ :=
  if 0 < nextTx + interval - turn.reading then nextTx + interval else turn.again

/-- The clock never goes back, from `now` on, while the loop reads it. -/
def Timely (interval : ℚ) : ℚ → ℚ → List Turn → Prop
  | _, _, [] => True
  | now, nextTx, turn :: rest =>
      now ≤ turn.gate ∧ turn.gate ≤ turn.sentAt ∧ turn.sentAt ≤ turn.reading ∧
        turn.reading ≤ turn.again ∧
        Timely interval (woken interval nextTx turn) (slotAfter interval nextTx turn) rest

/-- No turn finds its slot more than `late` in the past, or the next one gone. -/
def OnTime (interval late : ℚ) : ℚ → List Turn → Prop
  | _, [] => True
  | nextTx, turn :: rest =>
      turn.gate ≤ nextTx + late ∧
        (rest ≠ [] → 0 < nextTx + interval - turn.reading ∧ OnTime interval late (nextTx + interval) rest)

/-- A turn is over when the next slot begins. -/
theorem woken_eq_slotAfter (interval nextTx : ℚ) (turn : Turn) :
    woken interval nextTx turn = slotAfter interval nextTx turn := by
  unfold woken slotAfter
  dsimp only
  split
  · rw [add_sub_cancel]
  · rfl

section

variable {topo : Topo} {setup : SenderSetup} {policy : String} {interval : ℚ}
  {deadline : Option ℚ}

theorem pace_nextTx (positive : 0 < interval) {loop sent : Loop} {turn : Turn} {attempt : Attempt}
    (returned : transmit topo setup policy loop turn = .ok (attempt, sent)) :
    (pace interval sent turn).nextTx = slotAfter interval loop.nextTx turn := by
  obtain ⟨-, -, -, -, -, -, -, rfl⟩ := transmit_ok returned
  rw [pace, if_pos positive]
  rfl

variable (topo setup policy deadline) in
/-- The calls of `sendto` are paced, and so are the readings of the clock before them. -/
theorem spray_paced (positive : 0 < interval) (loop : Loop) (turns : List Turn)
    (timely : Timely interval loop.nextTx loop.nextTx turns) :
    Paced interval loop.nextTx
        ((spray topo setup policy interval deadline loop turns).1.map Attempt.time) ∧
      Paced interval loop.nextTx
        ((spray topo setup policy interval deadline loop turns).1.map Attempt.asked) := by
  induction turns generalizing loop with
  | nil => exact ⟨.done _, .done _⟩
  | cons turn rest ih =>
      rcases spray_cons topo setup policy interval deadline loop turn rest with
        ⟨attempt, sent, -, returned, goesOn⟩ | ⟨_, ended, -⟩
      · obtain ⟨onTurn, toSend, toRead, toRestart, timely⟩ := timely
        rw [woken_eq_slotAfter, ← pace_nextTx positive returned] at timely
        obtain ⟨times, readings⟩ := ih (pace interval sent turn) timely
        rw [pace_nextTx positive returned] at times readings
        obtain ⟨-, -, -, -, asked, time, -, -⟩ := transmit_ok returned
        have spaced : loop.nextTx + interval ≤ slotAfter interval loop.nextTx turn ∧
            turn.sentAt ≤ slotAfter interval loop.nextTx turn := by
          unfold slotAfter
          split
          · next early => exact ⟨le_rfl, by linarith⟩
          · next behind => exact ⟨by linarith, toRead.trans toRestart⟩
        rw [goesOn, List.map_cons, List.map_cons, time, asked]
        exact ⟨.act (onTurn.trans toSend) spaced.1 spaced.2 times,
          .act onTurn spaced.1 (toSend.trans spaced.2) readings⟩
      · rw [ended]
        exact ⟨.done _, .done _⟩

/-- A call of `sendto` is made before the deadline. -/
theorem asked_lt_deadline {loop : Loop} {turns : List Turn} {last : ℚ} (isLast : deadline = some last) :
    ∀ attempt ∈ (spray topo setup policy interval deadline loop turns).1, attempt.asked < last := by
  induction turns generalizing loop with
  | nil => exact fun _ mem => absurd mem List.not_mem_nil
  | cons turn rest ih =>
      rcases spray_cons topo setup policy interval deadline loop turn rest with
        ⟨attempt, sent, open_, returned, goesOn⟩ | ⟨_, ended, -⟩
      · obtain ⟨-, -, -, -, asked, -, -, -⟩ := transmit_ok returned
        rw [goesOn]
        intro other mem
        rcases List.mem_cons.mp mem with rfl | later
        · rw [isLast] at open_
          rw [asked]
          exact lt_of_not_ge (of_decide_eq_false open_)
        · exact ih other later
      · rw [ended]
        exact fun _ mem => absurd mem List.not_mem_nil

/-- A sender that is on time to its deadline has used every slot before it. -/
theorem deadline_le_of_onTime (positive : 0 < interval) {late last : ℚ} (isLast : deadline = some last)
    {loop : Loop} {turns : List Turn} (onTime : OnTime interval late loop.nextTx turns)
    (ended : (spray topo setup policy interval deadline loop turns).2.2 = .deadline) :
    last ≤ loop.nextTx + (spray topo setup policy interval deadline loop turns).1.length * interval +
      late := by
  induction turns generalizing loop with
  | nil => cases ended
  | cons turn rest ih =>
      rcases spray_cons topo setup policy interval deadline loop turn rest with
        ⟨attempt, sent, -, returned, goesOn⟩ | ⟨ending, halts, passed⟩
      · rw [goesOn] at ended ⊢
        have more : rest ≠ [] := by
          rintro rfl
          cases ended
        obtain ⟨early, onTime⟩ := onTime.2 more
        have slot : (pace interval sent turn).nextTx = loop.nextTx + interval := by
          rw [pace_nextTx positive returned, slotAfter, if_pos early]
        rw [← slot] at onTime
        have bound := ih onTime ended
        rw [slot] at bound
        rw [List.length_cons]
        push_cast
        linarith
      · rw [halts] at ended ⊢
        have reached := passed ended
        rw [isLast] at reached
        have inTime := onTime.1
        have past : last ≤ turn.gate := of_decide_eq_true reached
        simp only [List.length_nil, Nat.cast_zero, zero_mul, add_zero]
        exact past.trans inTime

end

/-! ## Every run -/

/-- Two packets at ten a second, each in its slot, and the deadline. -/
def twoTurns : List Turn :=
  [{ gate := 0, pick := fun _ _ => .ok 0, sentAt := 0, reading := 0, again := 0 },
    { gate := 1 / 10, pick := fun _ _ => .ok 1, sentAt := 1 / 10, reading := 1 / 10, again := 1 / 10 },
    { gate := 1 / 5, pick := fun _ _ => .ok 0, sentAt := 1 / 5, reading := 1 / 5, again := 1 / 5 }]

end Srv6Fabric.Sender

import Srv6Fabric.Library.Pacing
import Srv6Fabric.Mrc.TransmitLedgers
import Srv6Fabric.Usid

/-!
# The sender's loop

`run_sender` from its first packet to its last, over what each turn of the loop meets.  The
clock and the durations are exact rationals.
-/

namespace Srv6Fabric.Sender

open Srv6Fabric.Library

/-- What one turn of the loop meets: the clock each time it is read, `stop_event`, the policy
over what it knows by then, and how `sendto` ends. -/
structure Turn where
  gate : ℚ
  stopped : Bool := false
  pick : Nat → FlowKey → Except PyError Int
  sentAt : ℚ
  refused : Bool := false
  reading : ℚ
  again : ℚ

/-- One call of `sendto`: the header and the payload it was given, the reading of the clock
that let it happen, and when it did. -/
structure Attempt where
  seq : Nat
  plane : Nat
  header : String × String
  asked : ℚ
  time : ℚ
  refused : Bool
  deriving DecidableEq

/-- The variables of the loop. -/
structure Loop where
  seq : Nat := 0
  nextTx : ℚ
  result : Mrc.SenderResult := {}

/-- How the loop ends; `interrupted` stands for a `KeyboardInterrupt` between two turns. -/
inductive Ending where
  | deadline
  | stopped
  | interrupted
  | raised (error : PyError)
  deriving DecidableEq

/-- What `sendto` adds to the counters. -/
def count (result : Mrc.SenderResult) (plane : Nat) (refused : Bool) : Mrc.SenderResult :=
  if refused then { result with errors := result.errors + 1 }
  else { result with
    perPlaneSent := result.perPlaneSent.bump plane
    sent := result.sent + 1 }

/-- The packet of one turn. -/
def transmit (topo : Topo) (setup : SenderSetup) (policy : String) (loop : Loop) (turn : Turn) :
    Except PyError (Attempt × Loop) := do
  let plane ← turn.pick loop.seq setup.flowKey
  if 0 ≤ plane ∧ plane < topo.numPlanes then
    let plane := plane.toNat
    let header := setup.planeMeta.getD plane ("", "")
    .ok (⟨loop.seq, plane, header, turn.gate, turn.sentAt, turn.refused⟩,
      { loop with seq := loop.seq + 1, result := count loop.result plane turn.refused })
  else
    .error (.runtimeError s!"policy {pyRepr policy} returned out-of-range plane {plane}")

/-- Wait for the next slot, or start over from now when it has passed. -/
def pace (interval : ℚ) (loop : Loop) (turn : Turn) : Loop :=
  if 0 < interval then
    let slack := loop.nextTx + interval - turn.reading
    { loop with nextTx := if 0 < slack then loop.nextTx + interval else turn.again }
  else loop

/-- The loop over the turns it is given. -/
def spray (topo : Topo) (setup : SenderSetup) (policy : String) (interval : ℚ)
    (deadline : Option ℚ) (loop : Loop) : List Turn → List Attempt × Loop × Ending
  | [] => ([], loop, .interrupted)
  | turn :: rest =>
      if deadline.any (· ≤ turn.gate) then ([], loop, .deadline)
      else if turn.stopped then ([], loop, .stopped)
      else
        match transmit topo setup policy loop turn with
        | .error error => ([], loop, .raised error)
        | .ok (attempt, sent) =>
            let (attempts, last, ending) :=
              spray topo setup policy interval deadline (pace interval sent turn) rest
            (attempt :: attempts, last, ending)

/-- `interval`. -/
def intervalOf (ratePps : Int) : ℚ := if 0 < ratePps then 1 / ratePps else 0

/-- `deadline`; `none` is the infinite one. -/
def deadlineOf (tStart durationS : ℚ) : Option ℚ :=
  if 0 < durationS then some (tStart + durationS) else none

/-- `run_sender` with the clock at `tStart` when its loop starts. -/
def runSender (topo : Topo) (flow : FlowEndpoint) (policy : String) (ratePps : Int)
    (durationS tStart : ℚ) (turns : List Turn) : Except PyError (List Attempt × Loop × Ending) := do
  let setup ← runSenderSetup topo flow
  .ok (spray topo setup policy (intervalOf ratePps) (deadlineOf tStart durationS)
    { nextTx := tStart } turns)

/-! ## One packet -/

section

variable {topo : Topo} {setup : SenderSetup} {policy : String} {interval : ℚ}
  {deadline : Option ℚ}

/-- A packet that left or was refused took the current number and a plane that exists. -/
theorem transmit_ok {loop sent : Loop} {turn : Turn} {attempt : Attempt}
    (returned : transmit topo setup policy loop turn = .ok (attempt, sent)) :
    attempt.seq = loop.seq ∧ attempt.plane < topo.numPlanes ∧
      turn.pick loop.seq setup.flowKey = .ok attempt.plane ∧
      attempt.header = setup.planeMeta.getD attempt.plane ("", "") ∧
      attempt.asked = turn.gate ∧ attempt.time = turn.sentAt ∧ attempt.refused = turn.refused ∧
      sent = { loop with
        seq := loop.seq + 1, result := count loop.result attempt.plane attempt.refused } := by
  obtain ⟨plane, picked, sentEq⟩ := bind_eq_ok returned
  split at sentEq
  · next inRange =>
    obtain ⟨rfl, rfl⟩ := Prod.mk.inj (Except.ok.inj sentEq)
    have isNat : ((plane.toNat : Nat) : Int) = plane := Int.toNat_of_nonneg inRange.1
    refine ⟨rfl, ?_, ?_, rfl, rfl, rfl, rfl, rfl⟩
    · dsimp only
      omega
    · rw [picked, isNat]
  · cases sentEq

variable (topo setup policy interval deadline) in
/-- The loop goes on, or it is over: there is no third way. -/
theorem spray_cons (loop : Loop) (turn : Turn) (rest : List Turn) :
    (∃ attempt sent, deadline.any (· ≤ turn.gate) = false ∧
        transmit topo setup policy loop turn = .ok (attempt, sent) ∧
        spray topo setup policy interval deadline loop (turn :: rest) =
          (attempt :: (spray topo setup policy interval deadline (pace interval sent turn) rest).1,
            (spray topo setup policy interval deadline (pace interval sent turn) rest).2)) ∨
      (∃ ending, spray topo setup policy interval deadline loop (turn :: rest) = ([], loop, ending) ∧
        (ending = .deadline → deadline.any (· ≤ turn.gate) = true)) := by
  rw [spray]
  cases late : deadline.any (· ≤ turn.gate) with
  | true => exact Or.inr ⟨.deadline, if_pos rfl, fun _ => rfl⟩
  | false =>
      rw [if_neg Bool.false_ne_true]
      cases halted : turn.stopped with
      | true => exact Or.inr ⟨.stopped, if_pos rfl, fun same => nomatch same⟩
      | false =>
          rw [if_neg Bool.false_ne_true]
          cases returned : transmit topo setup policy loop turn with
          | error error => exact Or.inr ⟨.raised error, rfl, fun same => nomatch same⟩
          | ok pair => exact Or.inl ⟨pair.1, pair.2, rfl, rfl, rfl⟩

/-! ## What the loop counts -/

/-- The counters after a list of calls. -/
def tally (result : Mrc.SenderResult) (attempts : List Attempt) : Mrc.SenderResult :=
  attempts.foldl (fun result attempt => count result attempt.plane attempt.refused) result

/-- The calls are numbered one after the other, whatever became of them, over planes that
exist, and the counters are those of the calls. -/
theorem spray_books (loop : Loop) (turns : List Turn) {attempts : List Attempt} {last : Loop}
    {ending : Ending}
    (ran : spray topo setup policy interval deadline loop turns = (attempts, last, ending)) :
    attempts.map Attempt.seq = List.range' loop.seq attempts.length ∧
      last.seq = loop.seq + attempts.length ∧ last.result = tally loop.result attempts ∧
      ∀ attempt ∈ attempts, attempt.plane < topo.numPlanes ∧
        attempt.header = setup.planeMeta.getD attempt.plane ("", "") := by
  induction turns generalizing loop attempts last ending with
  | nil =>
      obtain ⟨rfl, rfl, rfl⟩ : [] = attempts ∧ loop = last ∧ Ending.interrupted = ending := by
        simpa [spray] using ran
      exact ⟨rfl, rfl, rfl, fun _ mem => absurd mem List.not_mem_nil⟩
  | cons turn rest ih =>
      rcases spray_cons topo setup policy interval deadline loop turn rest with
        ⟨attempt, sent, -, returned, goesOn⟩ | ⟨_, ended, -⟩
      · rw [goesOn] at ran
        obtain ⟨rfl, onRest⟩ := Prod.mk.inj ran
        obtain ⟨number, inRange, -, header, -, -, -, sentEq⟩ := transmit_ok returned
        have paced : (pace interval sent turn).seq = loop.seq + 1 ∧
            (pace interval sent turn).result =
              count loop.result attempt.plane attempt.refused := by
          rw [pace, sentEq]
          split
          · exact ⟨rfl, rfl⟩
          · exact ⟨rfl, rfl⟩
        have afterwards : spray topo setup policy interval deadline (pace interval sent turn) rest =
            ((spray topo setup policy interval deadline (pace interval sent turn) rest).1, last,
              ending) := Prod.ext rfl onRest
        obtain ⟨numbers, count, counters, headers⟩ := ih (pace interval sent turn) afterwards
        rw [paced.1] at numbers count
        rw [paced.2] at counters
        refine ⟨?_, ?_, counters, ?_⟩
        · rw [List.map_cons, numbers, number, List.length_cons, List.range'_succ]
        · rw [count, List.length_cons]
          omega
        · intro other mem
          rcases List.mem_cons.mp mem with rfl | later
          · exact ⟨inRange, header⟩
          · exact headers other later
      · rw [ended] at ran
        obtain ⟨rfl, rest⟩ := Prod.mk.inj ran
        obtain ⟨rfl, rfl⟩ := Prod.mk.inj rest
        exact ⟨rfl, rfl, rfl, fun _ mem => absurd mem List.not_mem_nil⟩

end

end Srv6Fabric.Sender

import Srv6Fabric.Policy
import Srv6Fabric.Mrc.ProbeDemotion
import Srv6Fabric.Mrc.ProbePacing

/-!
# A plane that goes dark

A plane that drops what it carries answers no probe.  Each probe sent on it ends in a sweep,
each sweep adds the probes it ends to the failures of the plane's record, and nothing but an
answer takes a failure away.  So the sweep that finds the `probe_fail_threshold`-th takes the
plane out of use, unless the floor leaves none to take out, and out of use it stays.
-/

namespace Srv6Fabric.Mrc

open Srv6Fabric.Library

variable {numPlanes : Nat}

/-! ## The table under failed probes -/

namespace EVStateTable

variable {table : EVStateTable numPlanes} {tenant : String}

/-- The plane is out of use, or the floor lets no plane go. -/
def OutOfUse (table : EVStateTable numPlanes) (tenant : String) (plane : Fin numPlanes) : Prop :=
  (table.row tenant plane).state = .assumedBad ∨
    (usablePlanes (table.row tenant) : Int) ≤ table.minActive

theorem probeFail_returns {row : Fin numPlanes → PlaneRecord}
    (found : table.planes.find? tenant = some row) (plane : Fin numPlanes) :
    table.call (.probe tenant (plane : Nat) false none) =
      .ok (table.applySignal tenant plane .probeFail) := by
  obtain ⟨next, returned⟩ : ∃ next,
      table.recordProbeResult tenant (plane : Nat) false none = .ok next := by
    simp only [recordProbeResult, checkTenant_of_find? found, checkPlane_fin, bind, Except.bind,
      Bool.false_eq_true, if_false]
    split <;> exact ⟨_, rfl⟩
  obtain ⟨_, index, signal, -, indexEq, carried, nextEq⟩ := recordProbeResult_ok returned
  obtain rfl : index = plane := Fin.ext (by exact_mod_cast indexEq)
  cases carried
  rw [call, returned, nextEq]

/-- A failed probe adds to the failures of its plane. -/
theorem failures_applySignal (table : EVStateTable numPlanes) (tenant : String)
    (failed plane : Fin numPlanes) :
    ((table.applySignal tenant failed .probeFail).row tenant plane).consecutiveProbeTimeouts =
      (table.row tenant plane).consecutiveProbeTimeouts + if failed = plane then 1 else 0 := by
  rw [applySignal_row, if_pos rfl, nextRow]
  by_cases here : failed = plane
  · subst here
    rw [Function.update_self, if_pos rfl]
    exact (nextRecord_probeFail table.cfg _ _).1
  · rw [Function.update_of_ne (Ne.symm here), if_neg here, Nat.add_zero]

/-- Only an answered probe brings a plane back. -/
theorem nextRecord_stays_bad {cfg : EVStateConfig} {permitted : Bool} {record : PlaneRecord}
    {signal : Signal} (unanswered : ∀ rttNs, signal ≠ .probeOk rttNs)
    (bad : record.state = .assumedBad) :
    (nextRecord cfg permitted record signal).state = .assumedBad := by
  have quiet : promotes cfg record signal = false := by
    cases signal with
    | probeOk rttNs => exact absurd rfl (unanswered rttNs)
    | probeFail => rfl
    | lossWindow ratio => rfl
  rw [nextRecord_state, quiet, if_neg Bool.false_ne_true, bad, ite_self]

theorem stays_bad_applySignal {failed plane : Fin numPlanes}
    (bad : (table.row tenant plane).state = .assumedBad) :
    ((table.applySignal tenant failed .probeFail).row tenant plane).state = .assumedBad := by
  rw [applySignal_row, if_pos rfl, nextRow]
  by_cases here : plane = failed
  · subst here
    rw [Function.update_self]
    exact nextRecord_stays_bad (fun _ => Signal.noConfusion) bad
  · rwa [Function.update_of_ne here]

theorem usablePlanes_applySignal_le (failed : Fin numPlanes) :
    usablePlanes ((table.applySignal tenant failed .probeFail).row tenant) ≤
      usablePlanes (table.row tenant) := by
  refine List.countP_mono_left fun plane _ usable => ?_
  rw [decide_eq_true_iff] at usable ⊢
  exact fun bad => usable (stays_bad_applySignal bad)

theorem OutOfUse.applySignal {plane : Fin numPlanes} (out : table.OutOfUse tenant plane)
    (failed : Fin numPlanes) :
    (table.applySignal tenant failed .probeFail).OutOfUse tenant plane := by
  rcases out with bad | floor
  · exact Or.inl (stays_bad_applySignal bad)
  · refine Or.inr ?_
    rw [applySignal_minActive]
    exact le_trans (by exact_mod_cast usablePlanes_applySignal_le failed) floor

/-- Enough failures take the plane out of use, or find the floor. -/
theorem outOfUse_of_failures {failed : Fin numPlanes}
    (enough : table.cfg.probeFailThreshold ≤
      ((table.applySignal tenant failed .probeFail).row tenant failed).consecutiveProbeTimeouts) :
    (table.applySignal tenant failed .probeFail).OutOfUse tenant failed := by
  by_cases bad : (table.row tenant failed).state = .assumedBad
  · exact Or.inl (stays_bad_applySignal bad)
  rw [failures_applySignal, if_pos rfl] at enough
  have accused : accuses table.cfg (table.row tenant failed) .probeFail = true :=
    (accuses_probeFail_iff _ _).mpr ⟨bad, enough⟩
  have rowEq : (table.applySignal tenant failed .probeFail).row tenant =
      nextRow table.cfg table.minActive (table.row tenant) failed .probeFail := by
    rw [applySignal_row, if_pos rfl]
  cases permitted : floorPermits table.minActive (table.row tenant) failed with
  | true =>
      refine Or.inl ?_
      rw [rowEq, nextRow, Function.update_self, nextRecord_state, accused, permitted]
      rfl
  | false =>
      refine Or.inr ?_
      have few : (usableAfter (table.row tenant) failed : Int) < table.minActive := by
        simpa [floorPermits] using permitted
      have split := usablePlanes_eq
        ((table.applySignal tenant failed .probeFail).row tenant) failed
      have sameOthers : usableAfter ((table.applySignal tenant failed .probeFail).row tenant) failed =
          usableAfter (table.row tenant) failed := by
        rw [rowEq, nextRow, usableAfter_update]
      rw [applySignal_minActive]
      rw [sameOthers] at split
      split at split <;> omega

theorem applySignals_cfg (table : EVStateTable numPlanes) (tenant : String)
    (signal : Fin numPlanes → Signal) (planes : List (Fin numPlanes)) :
    (table.applySignals tenant signal planes).cfg = table.cfg := by
  induction planes generalizing table with
  | nil => rfl
  | cons first rest ih =>
      exact (ih (table.applySignal tenant first (signal first))).trans
        (applySignal_cfg table tenant first (signal first))

/-- What a list of failed probes does to a plane. -/
theorem applySignals_fail (table : EVStateTable numPlanes) (tenant : String)
    (planes : List (Fin numPlanes)) (plane : Fin numPlanes) :
    let later := table.applySignals tenant (fun _ => .probeFail) planes
    (later.row tenant plane).consecutiveProbeTimeouts =
        (table.row tenant plane).consecutiveProbeTimeouts + planes.count plane ∧
      ((table.row tenant plane).state = .assumedBad →
        (later.row tenant plane).state = .assumedBad) ∧
      (table.OutOfUse tenant plane → later.OutOfUse tenant plane) ∧
      (plane ∈ planes →
        table.cfg.probeFailThreshold ≤ (later.row tenant plane).consecutiveProbeTimeouts →
        later.OutOfUse tenant plane) := by
  induction planes generalizing table with
  | nil => exact ⟨rfl, id, id, fun mem => absurd mem List.not_mem_nil⟩
  | cons failed rest ih =>
      obtain ⟨count, bad, out, enough⟩ := ih (table.applySignal tenant failed .probeFail)
      refine ⟨?_, fun before => bad (stays_bad_applySignal before),
        fun before => out (before.applySignal failed), fun mem many => ?_⟩
      · refine count.trans ?_
        rw [failures_applySignal, List.count_cons]
        simp only [beq_iff_eq]
        omega
      · by_cases later : plane ∈ rest
        · exact enough later (by rwa [applySignal_cfg])
        · obtain rfl : plane = failed := by
            simpa [later] using mem
          -- Later probes are of other planes, and leave this one's failures.
          have same : ((table.applySignal tenant plane .probeFail).applySignals tenant
              (fun _ => .probeFail) rest).row tenant plane = _ := applySignals_row_of_not_mem later
          exact out (outOfUse_of_failures (same ▸ many))

/-- A loss window brings no plane back. -/
theorem stays_bad_after_loss {next : EVStateTable numPlanes} {where_ seen expected : Int}
    {plane : Fin numPlanes}
    (called : table.call (.loss tenant where_ seen expected) = .ok next)
    (bad : (table.row tenant plane).state = .assumedBad) :
    (next.row tenant plane).state = .assumedBad := by
  rw [row_after_call called tenant plane]
  split
  · cases carried : (Call.loss tenant where_ seen expected).signal? with
    | none => exact bad
    | some signal =>
        refine nextRecord_stays_bad (fun rttNs same => ?_) bad
        rw [same, Call.signal?] at carried
        split at carried <;> cases carried
  · exact bad

end EVStateTable

/-! ## One iteration without an answer -/

/-- The iteration receives a reply that names the plane. -/
def AgentAction.answers (action : AgentAction numPlanes) (plane : Fin numPlanes) : Bool :=
  match action.clockCall with
  | some (.reply _ target _ _) => target = (plane : Nat)
  | _ => false

/-- `timeout_count`: the probes of the plane that sweeps have ended. -/
def AgentRun.timedOut (run : AgentRun numPlanes) (plane : Fin numPlanes) : Nat :=
  (run.agent.probeClock.planes plane).timeoutCount

theorem ProbeClock.timeoutCount_sweep (clock : ProbeClock numPlanes) (nowNs : Int)
    (plane : Fin numPlanes) :
    ((clock.sweepTimeouts nowNs).1.planes plane).timeoutCount = (clock.planes plane).timeoutCount +
      (clock.sweepTimeouts nowNs).2.countP fun timeout => timeout.1 = plane := by
  rw [countP_sweepTimeouts, List.countP_eq_length_filter]
  rfl

/-- Only a sweep counts timeouts. -/
theorem ProbeClock.timeoutCount_after (clock : ProbeClock numPlanes) {call : ClockCall numPlanes}
    (other : ∀ nowNs, call ≠ .sweep nowNs) (plane : Fin numPlanes) :
    ((clock.after call).planes plane).timeoutCount = (clock.planes plane).timeoutCount := by
  have unmoved (index : Fin numPlanes) (record : PlaneClock)
      (same : record.timeoutCount = (clock.planes index).timeoutCount) :
      ((clock.setPlane index record).planes plane).timeoutCount =
        (clock.planes plane).timeoutCount := by
    simp only [setPlane, Function.update_apply]
    split
    · next here =>
      subst here
      exact same
    · rfl
  cases call with
  | emit target nowNs =>
      rw [after_emit]
      exact unmoved target _ rfl
  | reply reqId target txNs nowNs =>
      rcases clock.matchReply_cases reqId target txNs nowNs with
        ⟨error, raised⟩ | stale | ⟨index, -, -, matched⟩
      · simp only [after, raised]
      · simp only [after, stale]
      · simp only [after, matched]
        exact unmoved index _ rfl
  | sweep nowNs => exact absurd rfl (other nowNs)

namespace SenderMrcAgent

variable {agent : SenderMrcAgent numPlanes}

/-- Every timeout is recorded: the table knows the tenant and the planes. -/
theorem recordTimeouts_eq (serves : Serves agent.tenant agent.table)
    (timeouts : List (Fin numPlanes × Nat)) :
    (agent.recordTimeouts timeouts).agent =
      { agent with
        table := agent.table.applySignals agent.tenant (fun _ => .probeFail)
          (timeouts.map Prod.fst) } := by
  induction timeouts generalizing agent with
  | nil => rfl
  | cons timeout rest ih =>
      obtain ⟨failed, reqId⟩ := timeout
      unfold recordTimeouts
      dsimp only
      rw [EVStateTable.probeFail_returns serves.find? failed]
      exact @ih { agent with table := agent.table.applySignal agent.tenant failed .probeFail }
        (serves.applySignal failed .probeFail)

/-- A reply that does not name the plane leaves its record. -/
theorem replyRx_record_of_other {nowNs : Int} {datagram : List UInt8} {plane : Fin numPlanes}
    (healthy : agent.Healthy nowNs)
    (other : ¬ (AgentAction.reply datagram nowNs : AgentAction numPlanes).answers plane) :
    (agent.replyRx datagram nowNs).agent.record plane = agent.record plane := by
  cases decoded : decodeProbeReply (datagram.take defaultRecvBufsize) with
  | error error => rw [replyRx_undecodable decoded]
  | ok reply =>
      by_cases inRange : reply.planeId.toNat < numPlanes
      · obtain ⟨index, names⟩ : ∃ index : Fin numPlanes, (index : Nat) = reply.planeId.toNat :=
          ⟨⟨_, inRange⟩, rfl⟩
        have away : index ≠ plane := by
          rintro rfl
          apply other
          simp [AgentAction.answers, AgentAction.clockCall, decoded, ← names]
        have done := replyRx_eq healthy decoded names
        dsimp only at done
        split at done
        · obtain ⟨probeClock, table, returned, outcome⟩ := done
          rw [outcome]
          change table.row agent.tenant plane = _
          rw [EVStateTable.row_after_call returned agent.tenant plane, if_neg]
          · rfl
          · rintro ⟨-, here⟩
            exact away (Fin.ext (Int.ofNat_inj.mp here))
        · obtain ⟨probeClock, outcome⟩ := done
          rw [outcome]
          rfl
      · rw [replyRx, decoded]
        dsimp only
        rw [ProbeClock.matchReply, checkPlane_of_le (not_lt.mp inRange)]
        rfl

theorem reportRx_stays_bad {plane : Fin numPlanes} (bad : (agent.record plane).state = .assumedBad)
    (datagram : List UInt8) (nowNs : Int) :
    ((agent.reportRx datagram nowNs).agent.record plane).state = .assumedBad := by
  unfold reportRx
  split
  · exact bad
  · exact bad
  · next report decoded =>
    obtain ⟨stats, fuseEq⟩ := agent.fuse_eq report nowNs
    simp only [record, fused, fuseEq]
    exact applyRecords_keeps
      (motive := fun table => (table.row agent.tenant plane).state = .assumedBad)
      (fun _ _ _ _ _ bad returned => EVStateTable.stays_bad_after_loss returned bad) bad

end SenderMrcAgent

namespace AgentRun

variable {run later : AgentRun numPlanes} {plane : Fin numPlanes}

/-- What an iteration without an answer from the plane leaves of its record. -/
structure Unanswered (run later : AgentRun numPlanes) (plane : Fin numPlanes) : Prop where
  counted : (later.agent.record plane).consecutiveProbeTimeouts + run.timedOut plane =
    (run.agent.record plane).consecutiveProbeTimeouts + later.timedOut plane
  forward : run.timedOut plane ≤ later.timedOut plane
  bad : (run.agent.record plane).state = .assumedBad →
    (later.agent.record plane).state = .assumedBad
  out : run.timedOut plane < later.timedOut plane →
    later.agent.table.cfg.probeFailThreshold ≤
      (later.agent.record plane).consecutiveProbeTimeouts →
    later.agent.table.OutOfUse later.agent.tenant plane

/-- An iteration that sweeps nothing. -/
theorem Unanswered.of_same {action : AgentAction numPlanes} (stepped : run.next action = some later)
    (other : ∀ nowNs, action ≠ .sweep nowNs)
    (failures : (later.agent.record plane).consecutiveProbeTimeouts =
      (run.agent.record plane).consecutiveProbeTimeouts)
    (bad : (run.agent.record plane).state = .assumedBad →
      (later.agent.record plane).state = .assumedBad) : run.Unanswered later plane := by
  have same : later.timedOut plane = run.timedOut plane := by
    rw [timedOut, next_probeClock stepped]
    cases called : action.clockCall with
    | none => rfl
    | some call =>
        refine ProbeClock.timeoutCount_after _ (fun nowNs swept => ?_) plane
        rw [swept] at called
        cases action with
        | sweep now => exact other now rfl
        | reply datagram now =>
            unfold AgentAction.clockCall at called
            dsimp only at called
            split at called <;> cases called
        | _ => cases called
  refine ⟨by rw [failures, same], same.ge, bad, fun more => ?_⟩
  rw [same] at more
  exact absurd more (lt_irrefl _)

/-- A sweep counts each probe it ends twice: as a timeout of the clock, and as a failure. -/
theorem Unanswered.sweep (healthy : run.agent.Healthy run.nowNs) (nowNs : Int) :
    run.Unanswered ⟨(run.agent.sweep nowNs).agent, nowNs⟩ plane := by
  set timeouts := (run.agent.probeClock.sweepTimeouts nowNs).2 with listed
  have swept : (run.agent.sweep nowNs).agent = { run.agent with
      probeClock := (run.agent.probeClock.sweepTimeouts nowNs).1
      table := run.agent.table.applySignals run.agent.tenant (fun _ => .probeFail)
        (timeouts.map Prod.fst) } :=
    @SenderMrcAgent.recordTimeouts_eq _
      { run.agent with probeClock := (run.agent.probeClock.sweepTimeouts nowNs).1 }
      healthy.serves timeouts
  have ended : timedOut ⟨(run.agent.sweep nowNs).agent, nowNs⟩ plane =
      run.timedOut plane + (timeouts.map Prod.fst).count plane := by
    rw [timedOut, swept, timedOut, List.count, List.countP_map]
    exact run.agent.probeClock.timeoutCount_sweep nowNs plane
  obtain ⟨failures, bad, -, out⟩ := run.agent.table.applySignals_fail run.agent.tenant
    (timeouts.map Prod.fst) plane
  refine ⟨?_, by omega, ?_, fun more many => ?_⟩
  · rw [ended, SenderMrcAgent.record, swept]
    dsimp only
    rw [failures, SenderMrcAgent.record]
    omega
  · rw [SenderMrcAgent.record, SenderMrcAgent.record, swept]
    exact bad
  · have mem : plane ∈ timeouts.map Prod.fst := List.count_pos_iff.mp (by omega)
    rw [SenderMrcAgent.record, swept] at many
    rw [swept]
    refine out mem (le_of_eq_of_le ?_ many)
    exact congrArg _ (EVStateTable.applySignals_cfg ..).symm

/-- Nothing but an answer takes a failure away. -/
theorem Unanswered.next {action : AgentAction numPlanes} (healthy : run.agent.Healthy run.nowNs)
    (unanswered : ¬ action.answers plane) (stepped : run.next action = some later) :
    run.Unanswered later plane := by
  have moved := stepped
  cases action with
  | sent where_ =>
      obtain ⟨counters, rfl⟩ := next_sent moved
      exact .of_same stepped (by simp) rfl id
  | emit where_ nowNs =>
      obtain ⟨probeClock, reqId, txNs, -, rfl⟩ := next_emit moved
      exact .of_same stepped (by simp) rfl id
  | sweep nowNs =>
      obtain ⟨-, rfl⟩ := next_sweep moved
      exact .sweep healthy nowNs
  | rotate nowNs =>
      obtain ⟨-, sentRing, rfl⟩ := next_rotate moved
      exact .of_same stepped (by simp) rfl id
  | reply datagram nowNs =>
      obtain ⟨mono, rfl⟩ := next_reply moved
      have same := SenderMrcAgent.replyRx_record_of_other (healthy.later mono) unanswered
      exact .of_same stepped (by simp) (congrArg _ same) (fun bad => (congrArg _ same).trans bad)
  | report datagram nowNs =>
      obtain ⟨-, rfl⟩ := next_report moved
      exact .of_same stepped (by simp) (run.agent.reportRx_record datagram nowNs plane)
        fun bad => SenderMrcAgent.reportRx_stays_bad bad datagram nowNs

/-- The failures of the plane were enough, and only the floor kept it. -/
def Spared (run : AgentRun numPlanes) (plane : Fin numPlanes) : Prop :=
  run.agent.table.cfg.probeFailThreshold ≤ (run.agent.record plane).consecutiveProbeTimeouts ∧
    EVStateTable.usablePlanes run.agent.record = run.agent.table.cfg.resolveMinActive numPlanes

/-- The floor is the least the table leaves in use. -/
theorem spared_of_outOfUse (healthy : run.agent.Healthy run.nowNs)
    (enough : run.agent.table.cfg.probeFailThreshold ≤
      (run.agent.record plane).consecutiveProbeTimeouts)
    (out : run.agent.table.OutOfUse run.agent.tenant plane) :
    (run.agent.record plane).state = .assumedBad ∨ run.Spared plane := by
  rcases out with bad | floor
  · exact Or.inl bad
  · have sound := healthy.serves.sound
    have least := sound.row_floor healthy.serves.known
    rw [sound.minActive_eq] at floor
    exact Or.inr ⟨enough, le_antisymm (by exact_mod_cast floor) least⟩

/-- Along a run without an answer from the plane, each timeout counts as a failure; the plane
stays out of use; and it goes out of use with enough failures, unless the floor keeps it. -/
theorem unanswered_run {machine : Machine (AgentRun numPlanes) (AgentAction numPlanes)}
    (steps : machine.step = AgentRun.next) (healthy : run.agent.Healthy run.nowNs)
    {actions : List (AgentAction numPlanes)} (ran : machine.run run actions = some later)
    (unanswered : ∀ action ∈ actions, ¬ action.answers plane) :
    (later.agent.record plane).consecutiveProbeTimeouts + run.timedOut plane =
        (run.agent.record plane).consecutiveProbeTimeouts + later.timedOut plane ∧
      run.timedOut plane ≤ later.timedOut plane ∧
      ((run.agent.record plane).state = .assumedBad →
        (later.agent.record plane).state = .assumedBad) ∧
      (run.timedOut plane < later.timedOut plane →
        later.agent.table.cfg.probeFailThreshold ≤
          (later.agent.record plane).consecutiveProbeTimeouts →
        (later.agent.record plane).state = .assumedBad ∨
          ∃ first second reached, actions = first ++ second ∧
            machine.run run first = some reached ∧ reached.Spared plane) := by
  induction actions using List.reverseRecOn generalizing later with
  | nil =>
      cases ran
      exact ⟨rfl, le_rfl, id, fun more => absurd more (lt_irrefl _)⟩
  | append_singleton earlier action ih =>
      obtain ⟨middle, before, after⟩ := Machine.exists_of_run_append ran
      obtain ⟨next, stepped, done⟩ := Machine.run_cons_eq_some.mp after
      rw [steps, Option.some.inj done] at stepped
      have healthyMiddle : middle.agent.Healthy middle.nowNs :=
        Machine.Reaches.invariant (motive := fun run => run.agent.Healthy run.nowNs)
          (fun _ _ _ healthy moved => AgentRun.next_healthy healthy (steps ▸ moved))
          ⟨earlier, before⟩ healthy
      obtain ⟨counted, forward, bad, out⟩ :=
        ih before fun other mem => unanswered other (List.mem_append_left _ mem)
      have here := Unanswered.next healthyMiddle (unanswered action (by simp)) stepped
      have sameCfg : later.agent.table.cfg = middle.agent.table.cfg :=
        AgentRun.next_table (motive := fun table => table.cfg = middle.agent.table.cfg)
          (fun _ _ _ same called => (EVStateTable.call_frame called).2.1.trans same) rfl stepped
      have grown := here.forward
      have added := here.counted
      refine ⟨by omega, by omega, fun start => here.bad (bad start), fun more enough => ?_⟩
      rcases Nat.eq_or_lt_of_le grown with same | swept
      · -- Nothing ended in the last step, so what was counted then was enough before.
        have earlierEnough : middle.agent.table.cfg.probeFailThreshold ≤
            (middle.agent.record plane).consecutiveProbeTimeouts := by
          rw [← sameCfg]
          omega
        rcases out (by omega) earlierEnough with gone | ⟨first, second, reached, split, ran, spared⟩
        · exact Or.inl (here.bad gone)
        · exact Or.inr ⟨first, second ++ [action], reached, by simp [split], ran, spared⟩
      · have healthyLater := AgentRun.next_healthy healthyMiddle stepped
        rcases spared_of_outOfUse healthyLater enough (here.out swept enough) with gone | spared
        · exact Or.inl gone
        · exact Or.inr ⟨earlier ++ [action], [], later, by simp, ran, spared⟩

end AgentRun

/-! ## Probes sent in the dark -/

def ClockCall.request : ClockCall numPlanes → ClockRequest
  | .emit plane nowNs => .emit (plane : Nat) nowNs
  | .reply reqId plane txNs nowNs => .reply reqId plane txNs nowNs
  | .sweep nowNs => .sweep nowNs

/-- What the loops ask of the agent's clock. -/
def clockRequests (actions : List (AgentAction numPlanes)) : List ClockRequest :=
  actions.filterMap fun action => action.clockCall.map ClockCall.request

theorem clockRequests_append (first second : List (AgentAction numPlanes)) :
    clockRequests (first ++ second) = clockRequests first ++ clockRequests second :=
  List.filterMap_append

theorem ProbeClock.after_eq_serve (clock : ProbeClock numPlanes) (call : ClockCall numPlanes) :
    clock.after call = clock.serve call.request := by
  cases call <;> rfl

/-- The agent's clock serves what the loops ask, in order. -/
theorem AgentRun.probeClock_run {machine : Machine (AgentRun numPlanes) (AgentAction numPlanes)}
    (steps : machine.step = AgentRun.next) {run later : AgentRun numPlanes}
    {actions : List (AgentAction numPlanes)} (ran : machine.run run actions = some later)
    {state : ClassifiedClock numPlanes} (same : state.clock = run.agent.probeClock) :
    (state.run (clockRequests actions)).clock = later.agent.probeClock := by
  induction actions generalizing run state with
  | nil =>
      cases ran
      exact same
  | cons action rest ih =>
      obtain ⟨next, stepped, ran⟩ := Machine.run_cons_eq_some.mp ran
      rw [steps] at stepped
      have moved := AgentRun.next_probeClock stepped
      rw [clockRequests, List.filterMap_cons]
      cases called : action.clockCall with
      | none =>
          rw [called] at moved
          exact ih ran (same.trans moved.symm)
      | some call =>
          rw [called] at moved
          refine ih ran (Eq.trans ?_ moved.symm)
          dsimp only
          rw [ProbeClock.after_eq_serve, ← same]
          rfl

namespace ClassifiedClock

/-- A reply for another plane leaves the probes of this one. -/
theorem serve_reply_other (state : ClassifiedClock numPlanes) {plane : Fin numPlanes}
    {target : Int} (away : target ≠ (plane : Nat)) (reqId replyTxNs nowNs : Int) :
    (state.serve (.reply reqId target replyTxNs nowNs)).probes plane = state.probes plane := by
  simp only [ClassifiedClock.serve, classify]
  split
  · exact if_neg (Ne.symm away)
  · rfl

theorem classifyEmit_append (record : PlaneClock) (cap : Nat) (nowNs : Int)
    (old new : ProbeRecords) :
    record.classifyEmit cap nowNs (old ++ new) =
      (old.map (Fated.settle .evicted fun probe => probe.1 ∈ record.evicts cap)).map
          (Fated.settle .overwritten fun probe => probe.1 = record.nextReqId) ++
        record.classifyEmit cap nowNs new := by
  simp [PlaneClock.classifyEmit]

/-- Along requests without a reply from the plane, its earlier probes keep their fates, and the
new ones meet no reply. -/
theorem run_unanswered {state : ClassifiedClock numPlanes} {plane : Fin numPlanes}
    {requests : List ClockRequest}
    (unanswered : ∀ reqId txNs nowNs, .reply reqId (plane : Nat) txNs nowNs ∉ requests)
    {old new : ProbeRecords} (split : state.probes plane = old ++ new)
    (noReply : ∀ probe ∈ new, probe.fate ≠ some .replied) :
    ∃ old' new', (state.run requests).probes plane = old' ++ new' ∧
      times new' = times new ++ emitTimes plane requests ∧
      Fated.count .timedOut old ≤ Fated.count .timedOut old' ∧
      ∀ probe ∈ new', probe.fate ≠ some .replied := by
  induction requests generalizing state old new with
  | nil => exact ⟨old, new, split, by simp [emitTimes], le_rfl, noReply⟩
  | cons request rest ih =>
      have onward := fun reqId txNs nowNs mem =>
        unanswered reqId txNs nowNs (List.mem_cons_of_mem request mem)
      cases request with
      | emit target nowNs =>
          have served := state.serve_emit target nowNs plane
          split at served
          · next here =>
            obtain ⟨old', new', splitLater, sent, more, noReplyLater⟩ := ih onward
              (served.2.trans ((congrArg _ split).trans (classifyEmit_append ..)))
              (fun probe mem => by
                rcases List.mem_append.mp mem with earlier | last
                · exact Fated.no_fate_of_settle (by decide)
                    (Fated.no_fate_of_settle (by decide) noReply) probe earlier
                · rw [List.mem_singleton.mp last]
                  simp)
            refine ⟨old', new', splitLater, ?_, ?_, noReplyLater⟩
            · rw [sent, times_classifyEmit, emitTimes, if_pos here, List.append_assoc]
              rfl
            · rwa [Fated.count_settle_of_ne (by decide), Fated.count_settle_of_ne (by decide)]
                at more
          · next away =>
            rw [emitTimes, if_neg away]
            exact ih onward (served.2.trans split) noReply
      | reply reqId target replyTxNs nowNs =>
          have away : target ≠ (plane : Nat) := by
            rintro rfl
            exact unanswered reqId replyTxNs nowNs List.mem_cons_self
          rw [emitTimes]
          exact ih onward ((state.serve_reply_other away _ _ _).trans split) noReply
      | sweep nowNs =>
          have served : (state.serve (.sweep nowNs)).probes plane = _ :=
            (congrArg _ split).trans List.map_append
          obtain ⟨old', new', splitLater, sent, more, noReplyLater⟩ := ih onward served
            (Fated.no_fate_of_settle (by decide) noReply)
          refine ⟨old', new', splitLater, ?_, le_trans ?_ more, noReplyLater⟩
          · rw [sent, times_settle, emitTimes]
          · rw [Fated.count_settle]
            exact Nat.le_add_right _ _

/-- When nothing is lost, a sweep has ended what was sent in the dark and is due. -/
theorem due_probes_time_out {clock : ProbeClock numPlanes} {before dark : List ClockRequest}
    {nowNs : Int} {plane : Fin numPlanes} (sound : (start clock).Sound)
    (unanswered : ∀ reqId txNs now, .reply reqId (plane : Nat) txNs now ∉ dark)
    (kept : ∀ probe ∈ ((start clock).run (before ++ dark ++ [.sweep nowNs])).probes plane,
      probe.fate ≠ some .evicted ∧ probe.fate ≠ some .overwritten) :
    (emitTimes plane dark).countP (fun time => time ≤ nowNs - clock.probeTimeoutNs) +
        (((start clock).run before).clock.planes plane).timeoutCount ≤
      (((start clock).run (before ++ dark ++ [.sweep nowNs])).clock.planes plane).timeoutCount := by
  have whole : (start clock).run (before ++ dark ++ [.sweep nowNs]) =
      (((start clock).run before).run dark).serve (.sweep nowNs) := by
    simp [ClassifiedClock.run, List.foldl_append]
  have sameTimeout : (((start clock).run before).run dark).clock.probeTimeoutNs =
      clock.probeTimeoutNs :=
    (run_limits _ _).2.trans (run_limits _ _).2
  have lit := (sound.run before).balanced plane
  have later := (sound.run (before ++ dark ++ [.sweep nowNs])).balanced plane
  rw [whole] at kept later ⊢
  obtain ⟨old, new, split, sent, more, noReply⟩ :=
    run_unanswered unanswered (List.append_nil _).symm (by simp)
  have swept : ((((start clock).run before).run dark).serve (.sweep nowNs)).probes plane =
      old.map (Fated.settle .timedOut fun probe => probe.2 ≤ nowNs - clock.probeTimeoutNs) ++
        new.map (Fated.settle .timedOut fun probe => probe.2 ≤ nowNs - clock.probeTimeoutNs) := by
    rw [← sameTimeout, ← List.map_append]
    exact congrArg _ split
  rw [later.timedOut, lit.timedOut, swept, Fated.count_append, Nat.add_comm]
  refine Nat.add_le_add (more.trans (by rw [Fated.count_settle]; exact Nat.le_add_right _ _)) ?_
  rw [← List.nil_append (emitTimes plane dark), ← show times ([] : ProbeRecords) = [] from rfl,
    ← sent, times, List.countP_map, Fated.count, List.countP_map]
  refine List.countP_mono_left fun probe mem due => ?_
  have isDue : probe.item.2 ≤ nowNs - clock.probeTimeoutNs := of_decide_eq_true due
  have lasting := kept (probe.settle .timedOut fun probe => probe.2 ≤ nowNs - clock.probeTimeoutNs)
    (by rw [swept]; exact List.mem_append_right _ (List.mem_map_of_mem mem))
  rw [Function.comp_apply, decide_eq_true_iff]
  cases fate : probe.fate with
  | none => simp [Fated.settle, fate, isDue]
  | some met =>
      rw [Fated.settle_of_settled (by simp [fate]), fate] at lasting ⊢
      have unreplied := fate ▸ noReply probe mem
      cases met with
      | replied => exact absurd rfl unreplied
      | timedOut => rfl
      | evicted => exact absurd rfl lasting.1
      | overwritten => exact absurd rfl lasting.2

end ClassifiedClock

/-- The loops keep their pace: the rounds of `_emit_loop` the interval, and those of
`_sweep_loop` a gap. -/
structure OnPace (numPlanes : Nat) (intervalNs gapNs startNs : Int)
    (requests : List ClockRequest) : Prop where
  forward : 0 ≤ gapNs
  attended : Attended gapNs startNs startNs requests
  rounds : ∃ rounds, EmitTimely intervalNs startNs startNs rounds ∧
    ∀ plane : Fin numPlanes, emitTimes plane requests <+: rounds.map ProbeRound.nowNs

/-- A request for a plane comes from an action that answers for it. -/
theorem unanswered_requests {actions : List (AgentAction numPlanes)} {plane : Fin numPlanes}
    (unanswered : ∀ action ∈ actions, ¬ action.answers plane) (reqId txNs nowNs : Int) :
    .reply reqId (plane : Nat) txNs nowNs ∉ clockRequests actions := by
  intro mem
  obtain ⟨action, listed, asked⟩ := List.mem_filterMap.mp mem
  obtain ⟨call, called, same⟩ := Option.map_eq_some_iff.mp asked
  cases call with
  | reply key target sentNs now =>
      cases same
      exact unanswered action listed (by simp [AgentAction.answers, called])
  | emit target now => cases same
  | sweep now => cases same

theorem init_probeClock {topo : Topo} {table : EVStateTable topo.numPlanes} {tenant : String}
    {srcId dstId : Int} {cfg : AgentConfig} {startNs : Int} {agent : SenderMrcAgent topo.numPlanes}
    (constructed : SenderMrcAgent.init topo tenant srcId dstId table cfg startNs = .ok agent) :
    ProbeClock.init topo.numPlanes (cfg.probeTimeoutMs * 1000000) 256 = .ok agent.probeClock := by
  unfold SenderMrcAgent.init at constructed
  split at constructed
  · cases constructed
  obtain ⟨tenantId, -, rest⟩ := bind_eq_ok constructed
  obtain ⟨probeClock, clocked, ringed⟩ := bind_eq_ok rest
  obtain ⟨sentRing, -, returned⟩ := bind_eq_ok ringed
  cases returned
  exact clocked

/-- On a table whose record says so, no packet is sprayed on the plane. -/
theorem pick_ne_of_assumedBad {agent : SenderMrcAgent numPlanes} {nowNs : Int}
    (healthy : agent.Healthy nowNs) {plane : Fin numPlanes}
    (bad : (agent.record plane).state = .assumedBad) (seq : Int) (flow : FlowKey) :
    Policy.healthAwareMrcPick agent.table agent.tenant seq flow ≠ .ok ((plane : Nat) : Int) := by
  obtain ⟨weights, picked, -, -, -, pickEq, usable⟩ :=
    Policy.healthAwareMrcPick_usable healthy.serves.sound healthy.serves.known seq flow
  intro same
  rw [pickEq] at same
  obtain rfl : picked = plane := Fin.ext (Int.ofNat_inj.mp (Except.ok.inj same))
  exact usable bad

/-- Blackhole detection: once the sweeps have come to `probe_fail_threshold` probes sent since
the plane last answered, the plane is out of use and no packet is sprayed on it, and so it stays
while it does not answer, whatever else the agent receives; unless the floor kept it. -/
theorem dark_plane_goes_out_of_use {topo : Topo} {tenants : List String} {evCfg : EVStateConfig}
    {table : EVStateTable topo.numPlanes} {tenant : String} {srcId dstId : Int}
    {cfg : AgentConfig} {startNs gapNs nowNs : Int} {agent : SenderMrcAgent topo.numPlanes}
    (built : EVStateTable.init tenants topo.numPlanes evCfg = .ok table)
    (constructed : SenderMrcAgent.init topo tenant srcId dstId table cfg startNs = .ok agent)
    {before dark more : List (AgentAction topo.numPlanes)} {lit last : AgentRun topo.numPlanes}
    (ranLit : (agentMachine agent startNs).run (agentMachine agent startNs).start before = some lit)
    (ran : (agentMachine agent startNs).run lit (dark ++ .sweep nowNs :: more) = some last)
    (pace : OnPace topo.numPlanes (cfg.probeIntervalMs * 1000000) gapNs startNs
      (clockRequests (before ++ dark ++ [.sweep nowNs])))
    (roomy : gapNs + cfg.probeTimeoutMs * 1000000 ≤ 255 * (cfg.probeIntervalMs * 1000000))
    {plane : Fin topo.numPlanes}
    (unanswered : ∀ action ∈ dark ++ more, ¬ action.answers plane) {sent : Nat} (some_ : 0 < sent)
    (enough : evCfg.probeFailThreshold ≤ sent)
    (due : sent ≤ (emitTimes plane (clockRequests dark)).countP fun time =>
      time ≤ nowNs - cfg.probeTimeoutMs * 1000000) :
    ((last.agent.record plane).state = .assumedBad ∧
      ∀ seq flow, Policy.healthAwareMrcPick last.agent.table last.agent.tenant seq flow ≠
        .ok ((plane : Nat) : Int)) ∨
      ∃ first second reached, dark ++ .sweep nowNs :: more = first ++ second ∧
        (agentMachine agent startNs).run lit first = some reached ∧ reached.Spared plane := by
  have steps : (agentMachine agent startNs).step = AgentRun.next := rfl
  have clocked := init_probeClock constructed
  have healthyLit := reachable_healthy built constructed ⟨before, ranLit⟩
  have healthyLast := reachable_healthy built constructed
    ⟨before ++ (dark ++ .sweep nowNs :: more), Machine.run_append ranLit ran⟩
  have quiet : ∀ action ∈ dark ++ .sweep nowNs :: more, ¬ action.answers plane := by
    intro action mem
    rcases List.mem_append.mp mem with early | later
    · exact unanswered action (List.mem_append_left _ early)
    · rcases List.mem_cons.mp later with rfl | late
      · exact Bool.false_ne_true
      · exact unanswered action (List.mem_append_right _ late)
  obtain ⟨counted, -, -, out⟩ := AgentRun.unanswered_run steps healthyLit ran quiet
  -- The sweep ends as many probes as are due, and none comes back after it.
  have ended : lit.timedOut plane + sent ≤ last.timedOut plane := by
    rw [List.append_cons] at ran quiet
    obtain ⟨swept, ranSwept, ranMore⟩ := Machine.exists_of_run_append ran
    have ranWhole := Machine.run_append ranLit ranSwept
    have healthySwept := reachable_healthy built constructed ⟨_, ranWhole⟩
    have onward := (AgentRun.unanswered_run steps healthySwept ranMore fun action mem =>
      quiet action (List.mem_append_right _ mem)).2.1
    have requests : clockRequests (before ++ dark ++ [.sweep nowNs]) =
        clockRequests before ++ clockRequests dark ++ [.sweep nowNs] := by
      rw [clockRequests_append, clockRequests_append]
      rfl
    obtain ⟨forward, attended, rounds, timely, emitted⟩ := pace
    rw [requests] at attended emitted
    obtain ⟨lastNs, endNs, tended⟩ := ClassifiedClock.tended_run clocked
      (mul_pos cfg.positive.1 (by decide)) timely emitted forward attended (by simpa using roomy)
    have timed := ClassifiedClock.due_probes_time_out (ClassifiedClock.sound_start clocked)
      (unanswered_requests fun action mem => unanswered action (List.mem_append_left _ mem))
      (tended.swept plane).kept
    have started : (ClassifiedClock.start agent.probeClock).clock = agent.probeClock := rfl
    have litClock := AgentRun.probeClock_run steps ranLit started
    have sweptClock := AgentRun.probeClock_run steps ranWhole started
    rw [← List.append_assoc, requests] at sweptClock
    rw [litClock, sweptClock, (ProbeClock.init_ok clocked).2.2.1] at timed
    change sent ≤ _ at due
    change _ + lit.timedOut plane ≤ swept.timedOut plane at timed
    omega
  have sameCfg : last.agent.table.cfg = evCfg := by
    obtain ⟨-, -, rfl, -⟩ := init_agent constructed
    have reached : (agentMachine agent startNs).Reachable last :=
      ⟨before ++ (dark ++ .sweep nowNs :: more), Machine.run_append ranLit ran⟩
    refine reached.invariant (motive := fun run => run.agent.table.cfg = evCfg)
      (EVStateTable.init_ok built).2.2.1 ?_
    exact fun _ _ _ same stepped => AgentRun.next_table
      (motive := fun table => table.cfg = evCfg)
      (fun _ _ _ same called => (EVStateTable.call_frame called).2.1.trans same) same stepped
  rcases out (by omega) (by rw [sameCfg]; omega) with gone | spared
  · exact Or.inl ⟨gone, pick_ne_of_assumedBad healthyLast gone⟩
  · exact Or.inr spared

/-- Three probes of plane 0 without an answer, and the sweep that ends the third. -/
theorem dark_plane_zero_goes_out_of_use : ∃ last : AgentRun 4,
    (agentMachine (greenAgent 4 15) 0).run ⟨greenAgent 4 15, 0⟩
      ([.emit 0 0, .emit 0 200000000, .emit 0 400000000] ++ .sweep 700000000 ::
        [.report [] 800000000]) = some last ∧
    (((last.agent.record 0).state = .assumedBad ∧
      ∀ seq flow, Policy.healthAwareMrcPick last.agent.table last.agent.tenant seq flow ≠
        .ok ((0 : Fin 4) : Nat)) ∨
      ∃ first second reached,
        [.emit 0 0, .emit 0 200000000, .emit 0 400000000] ++ .sweep 700000000 ::
          [.report [] 800000000] = first ++ second ∧
        (agentMachine (greenAgent 4 15) 0).run ⟨greenAgent 4 15, 0⟩ first = some reached ∧
        reached.Spared 0) := by
  obtain ⟨last, ran⟩ : ∃ last : AgentRun 4,
      (agentMachine (greenAgent 4 15) 0).run ⟨greenAgent 4 15, 0⟩
        ([.emit 0 0, .emit 0 200000000, .emit 0 400000000] ++ .sweep 700000000 ::
          [.report [] 800000000]) = some last := ⟨_, rfl⟩
  refine ⟨last, ran, ?_⟩
  have pace : OnPace 4 (200 * 1000000) 700000000 0
      [.emit 0 0, .emit 0 200000000, .emit 0 400000000, .sweep 700000000] := by
    refine ⟨by decide, ?_, [⟨0, 0, 0⟩, ⟨200000000, 200000000, 200000000⟩,
      ⟨400000000, 400000000, 400000000⟩], ?_, by decide⟩
    · simp only [Attended]
      decide
    · simp only [EmitTimely]
      decide
  have roomy : (700000000 : Int) + 100 * 1000000 ≤ 255 * (200 * 1000000) := by decide
  have due : 3 ≤ (emitTimes (0 : Fin 4)
      [.emit 0 0, .emit 0 200000000, .emit 0 400000000]).countP fun time =>
        time ≤ 700000000 - 100 * 1000000 := by decide
  have before : (agentMachine (greenAgent 4 15) 0).run (agentMachine (greenAgent 4 15) 0).start [] =
      some ⟨greenAgent 4 15, 0⟩ := rfl
  exact dark_plane_goes_out_of_use init_greenTable_four init_greenAgent_four before ran pace roomy
    (by decide +kernel) (by decide) (by decide) due

end Srv6Fabric.Mrc

import Mathlib.Data.List.Infix
import Srv6Fabric.Library.Machine
import Srv6Fabric.Mrc.Agent

/-!
# Runs of the sender agent

The loops of one agent interleave freely under a monotonic clock; an exception ends
one iteration, and the agent goes on from what that iteration left.  What holds in
every reachable state decides which datagrams the receive loops survive.
-/

namespace Srv6Fabric.Mrc

open Srv6Fabric.Library

variable {numPlanes : Nat}

/-- An agent and the latest clock value read by any of its loops. -/
structure AgentRun (numPlanes : Nat) where
  agent : SenderMrcAgent numPlanes
  nowNs : Int

/-- One iteration of a loop, with its clock read and the datagram it received, or one
`record_sent`. -/
inductive AgentAction (numPlanes : Nat) where
  | sent (plane : Int)
  | emit (plane : Fin numPlanes) (nowNs : Int)
  | sweep (nowNs : Int)
  | rotate (nowNs : Int)
  | reply (datagram : List UInt8) (nowNs : Int)
  | report (datagram : List UInt8) (nowNs : Int)

def AgentRun.next (run : AgentRun numPlanes) :
    AgentAction numPlanes → Option (AgentRun numPlanes)
  | .sent plane => some { run with agent := run.agent.recordSent plane }
  | .emit plane nowNs =>
      -- `_emit_loop` reads the clock once for all planes, so the read may be an old one.
      match run.agent.emitProbe plane nowNs with
      | .ok (agent, _) => some ⟨agent, max run.nowNs nowNs⟩
      | .error _ => some ⟨run.agent, max run.nowNs nowNs⟩
  | .sweep nowNs =>
      if run.nowNs ≤ nowNs then some ⟨(run.agent.sweep nowNs).agent, nowNs⟩ else none
  | .rotate nowNs =>
      if run.nowNs ≤ nowNs then
        match run.agent.rotateWindow nowNs with
        | .ok agent => some ⟨agent, nowNs⟩
        | .error _ => some ⟨run.agent, nowNs⟩
      else none
  | .reply datagram nowNs =>
      if run.nowNs ≤ nowNs then some ⟨(run.agent.replyRx datagram nowNs).agent, nowNs⟩ else none
  | .report datagram nowNs =>
      if run.nowNs ≤ nowNs then some ⟨(run.agent.reportRx datagram nowNs).agent, nowNs⟩ else none

def agentMachine (agent : SenderMrcAgent numPlanes) (startNs : Int) :
    Machine (AgentRun numPlanes) (AgentAction numPlanes) where
  start := ⟨agent, startNs⟩
  step := AgentRun.next

/-! ## Decoding never fails in another way -/

theorem decodeProbeReply_error {payload : List UInt8} {error : PyError}
    (failed : decodeProbeReply payload = .error error) :
    ∃ message, error = .probeDecodeError message := by
  simp only [decodeProbeReply, decodeProbePacket, probeFmt, unpack] at failed
  split_ifs at failed <;> exact ⟨_, (Except.error.inj failed).symm⟩

theorem decodeLossReport_error {payload : List UInt8} {error : PyError}
    (failed : decodeLossReport payload = .error error) :
    ∃ message, error = .probeDecodeError message := by
  simp only [decodeLossReport, lossHdrFmt, unpack] at failed
  split_ifs at failed <;> exact ⟨_, (Except.error.inj failed).symm⟩

/-! ## The agent's table -/

/-- The table is one the constructor accepts for this tenant, after any calls. -/
structure Serves (tenant : String) (table : EVStateTable numPlanes) : Prop where
  sound : table.Sound
  known : tenant ∈ table.tenants

theorem Serves.find? {tenant : String} {table : EVStateTable numPlanes}
    (serves : Serves tenant table) :
    table.planes.find? tenant = some (table.row tenant) :=
  serves.sound.find? serves.known

theorem Serves.call {tenant : String} {table next : EVStateTable numPlanes}
    (serves : Serves tenant table) {request : EVStateTable.Call}
    (returned : table.call request = .ok next) : Serves tenant next :=
  ⟨serves.sound.call returned, (EVStateTable.call_frame returned).1 ▸ serves.known⟩

theorem Serves.applySignal {tenant : String} {table : EVStateTable numPlanes}
    (serves : Serves tenant table) (plane : Fin numPlanes) (signal : EVStateTable.Signal) :
    Serves tenant (table.applySignal tenant plane signal) :=
  ⟨serves.sound.applySignal serves.find? plane signal, by
    rw [EVStateTable.applySignal_tenants]
    exact serves.known⟩

theorem Serves.applySignals {tenant : String} {table : EVStateTable numPlanes}
    (serves : Serves tenant table) (signal : Fin numPlanes → EVStateTable.Signal)
    (planes : List (Fin numPlanes)) : Serves tenant (table.applySignals tenant signal planes) := by
  induction planes generalizing table with
  | nil => exact serves
  | cons first rest ih => exact ih (serves.applySignal first (signal first))

/-! ## Applying a report, record by record -/

/-- What the `record_loss_window` calls of its records keep, the record loop keeps. -/
theorem applyRecords_keeps {motive : EVStateTable numPlanes → Prop} {tenant : String}
    {paired : Option SentWindow} {records : List PlaneLossRecord}
    (kept : ∀ record ∈ records, ∀ (total : Nat) table next, motive table →
      table.call (.loss tenant record.planeId.toNat record.seen.toNat total) = .ok next → motive next)
    {state : Fusion numPlanes} (now : motive state.table) :
    motive (applyRecords tenant paired state records).table := by
  induction records generalizing state with
  | nil => exact now
  | cons record rest ih =>
      have later := fun other mem => kept other (List.mem_cons_of_mem _ mem)
      have next : motive (applyRecord tenant paired state record).table := by
        rcases applyRecord_cases tenant paired state record with
          ⟨-, stats, stepEq⟩ | ⟨-, error, stepEq, -⟩ |
          ⟨-, total, used, table, stats, -, -, called, stepEq⟩
        · rw [stepEq]
          exact now
        · rw [stepEq]
          exact now
        · rw [stepEq]
          exact kept record List.mem_cons_self total _ _ now called
      simp only [applyRecords_cons]
      split
      · exact next
      · exact ih later next

theorem applyRecords_serves {tenant : String} {paired : Option SentWindow}
    {state : Fusion numPlanes} (serves : Serves tenant state.table)
    (records : List PlaneLossRecord) :
    Serves tenant (applyRecords tenant paired state records).table :=
  applyRecords_keeps (fun _ _ _ _ _ serves returned => serves.call returned) serves

/-- Records of planes in range raise nothing. -/
theorem applyRecords_inRange {tenant : String} {paired : Option SentWindow}
    {state : Fusion numPlanes} (serves : Serves tenant state.table)
    (quiet : state.raised = none)
    (wide : ∀ window, paired = some window → window.sent.length = numPlanes)
    {records : List PlaneLossRecord}
    (inRange : ∀ record ∈ records, record.planeId.toNat < numPlanes) :
    (applyRecords tenant paired state records).raised = none := by
  induction records generalizing state with
  | nil => exact quiet
  | cons record rest ih =>
      have plane := inRange record List.mem_cons_self
      have later := fun other mem => inRange other (List.mem_cons_of_mem _ mem)
      rcases applyRecord_cases tenant paired state record with
        ⟨-, stats, stepEq⟩ | ⟨-, error, -, failed⟩ |
        ⟨-, total, used, table, stats, -, -, called, stepEq⟩
      · simp only [applyRecords_cons, stepEq, quiet]
        exact ih serves rfl later
      · exfalso
        rcases failed with divided | ⟨total, positive, called⟩
        · cases paired with
          | none => cases divided
          | some window =>
              have counter : record.planeId.toNat < window.sent.length := by
                rw [wide window rfl]
                exact plane
              simp only [denominator, List.getElem?_eq_getElem counter] at divided
              split at divided <;> cases divided
        · have returned := EVStateTable.loss_returns serves.find? ⟨record.planeId.toNat, plane⟩
            (Int.natCast_nonneg record.seen.toNat)
            (show (0 : Int) < total by exact_mod_cast positive)
          rw [returned] at called
          cases called
      · simp only [applyRecords_cons, stepEq, quiet]
        exact ih (serves.call called) rfl later

/-- Silent records change statistics only. -/
theorem applyRecords_silent (tenant : String) {paired : Option SentWindow}
    {state : Fusion numPlanes} (quiet : state.raised = none) {records : List PlaneLossRecord}
    (silent : ∀ record ∈ records, Silent paired record) :
    ∃ stats, applyRecords tenant paired state records = { state with stats } := by
  induction records generalizing state with
  | nil => exact ⟨state.stats, rfl⟩
  | cons record rest ih =>
      have here := silent record List.mem_cons_self
      rcases applyRecord_cases tenant paired state record with
        ⟨-, stats, stepEq⟩ | ⟨loud, -⟩ | ⟨loud, -⟩
      · simp only [applyRecords_cons, stepEq, quiet]
        exact @ih { state with stats, raised := none } rfl fun other mem =>
          silent other (List.mem_cons_of_mem _ mem)
      · exact absurd here loud
      · exact absurd here loud

theorem applyRecords_calls (tenant : String) (paired : Option SentWindow)
    (state : Fusion numPlanes) (records : List PlaneLossRecord) :
    state.calls <+: (applyRecords tenant paired state records).calls := by
  induction records generalizing state with
  | nil => exact List.prefix_rfl
  | cons record rest ih =>
      have next : state.calls <+: (applyRecord tenant paired state record).calls := by
        rcases applyRecord_cases tenant paired state record with
          ⟨-, stats, stepEq⟩ | ⟨-, error, stepEq, -⟩ |
          ⟨-, total, used, table, stats, -, -, called, stepEq⟩
        · rw [stepEq]
        · rw [stepEq]
        · rw [stepEq]
          exact List.prefix_append _ _
      simp only [applyRecords_cons]
      split
      · exact next
      · exact next.trans (ih _)

/-- A loop that ends without exception and without a call has seen silent records. -/
theorem silent_of_applyRecords {tenant : String} {paired : Option SentWindow}
    {state : Fusion numPlanes} {records : List PlaneLossRecord}
    (completed : (applyRecords tenant paired state records).raised = none)
    (noCalls : (applyRecords tenant paired state records).calls = state.calls) :
    ∀ record ∈ records, Silent paired record := by
  induction records generalizing state with
  | nil => simp
  | cons record rest ih =>
      rcases applyRecord_cases tenant paired state record with
        ⟨here, stats, stepEq⟩ | ⟨-, error, stepEq, -⟩ |
        ⟨-, total, used, table, stats, -, -, called, stepEq⟩
      · simp only [applyRecords_cons, stepEq] at completed noCalls
        split at completed
        · next raised =>
          rw [completed] at raised
          cases raised
        · next running =>
          rw [if_neg running] at noCalls
          rintro other mem
          rcases List.mem_cons.mp mem with rfl | later
          · exact here
          · exact @ih { state with stats } completed noCalls other later
      · simp [applyRecords_cons, stepEq] at completed
      · exfalso
        simp only [applyRecords_cons, stepEq] at completed noCalls
        split at completed
        · next raised =>
          rw [completed] at raised
          cases raised
        · next running =>
          rw [if_neg running] at noCalls
          have grown := (applyRecords_calls tenant paired
            { state with
              table, stats
              calls := state.calls ++
                [.loss tenant record.planeId.toNat record.seen.toNat total] } rest).length_le
          rw [noCalls] at grown
          simp at grown

/-! ## What holds of every reachable agent -/

/-- The table serves the agent's tenant, and no outstanding probe is from the future. -/
structure SenderMrcAgent.Healthy (agent : SenderMrcAgent numPlanes) (nowNs : Int) : Prop where
  serves : Serves agent.tenant agent.table
  past : ∀ plane entry, entry ∈ (agent.probeClock.outstanding plane).entries → entry.2 ≤ nowNs

namespace SenderMrcAgent

variable {agent : SenderMrcAgent numPlanes} {nowNs : Int}

theorem Healthy.later {laterNs : Int} (healthy : agent.Healthy nowNs) (mono : nowNs ≤ laterNs) :
    agent.Healthy laterNs :=
  ⟨healthy.serves, fun plane entry mem => (healthy.past plane entry mem).trans mono⟩

/-- Counting a packet moves nothing but the counters. -/
theorem recordSent_frame (agent : SenderMrcAgent numPlanes) (plane : Int) :
    ∃ counters, agent.recordSent plane = { agent with currentWindowSent := counters } := by
  unfold recordSent
  cases checkPlane numPlanes plane with
  | ok index => exact ⟨_, rfl⟩
  | error error => exact ⟨agent.currentWindowSent, rfl⟩

/-- Rotating never fails: the window has a counter for each plane. -/
theorem rotateWindow_eq (agent : SenderMrcAgent numPlanes) (closeNs : Int) :
    ∃ sentRing, agent.rotateWindow closeNs = .ok { agent with
        sentRing
        currentWindowSent := fun _ => 0
        currentWindowStartNs := closeNs
        currentWindowId := agent.currentWindowId + 1 } ∧
      ((∃ plane, agent.currentWindowSent plane ≠ 0) →
        agent.sentRing.push (agent.closedWindow closeNs) = .ok sentRing) := by
  have width : (agent.closedWindow closeNs).sent.length = numPlanes := List.length_ofFn
  obtain ⟨pushed, pushEq⟩ : ∃ ring, agent.sentRing.push (agent.closedWindow closeNs) = .ok ring := by
    rw [SentWindowRing.push, dif_pos width]
    exact ⟨_, rfl⟩
  unfold rotateWindow
  dsimp only
  split
  · rw [pushEq]
    exact ⟨pushed, rfl, fun _ => rfl⟩
  · next idle =>
    refine ⟨agent.sentRing, rfl, ?_⟩
    rintro ⟨plane, busy⟩
    exfalso
    apply idle
    rw [List.any_eq_true]
    exact ⟨_, List.mem_ofFn.mpr ⟨plane, rfl⟩, by simpa using Nat.pos_of_ne_zero busy⟩

theorem Healthy.emit {probeClock : ProbeClock numPlanes} {plane : Fin numPlanes}
    {reqId : Nat} {txNs sentNs : Int} (healthy : agent.Healthy nowNs)
    (emitted : agent.probeClock.emit (plane : Nat) sentNs = .ok (probeClock, reqId, txNs)) :
    { agent with probeClock }.Healthy (max nowNs sentNs) := by
  obtain ⟨index, -, -, -, entries⟩ := ProbeClock.emit_ok emitted
  refine ⟨healthy.serves, ?_⟩
  intro other entry mem
  rcases entries other entry mem with ⟨-, rfl⟩ | ⟨earlier, -⟩
  · exact le_max_right _ _
  · exact (healthy.past other entry earlier).trans (le_max_left _ _)

theorem recordTimeouts_keeps {motive : EVStateTable numPlanes → Prop}
    (kept : ∀ table request next, motive table → table.call request = .ok next → motive next)
    (now : motive agent.table) (timeouts : List (Fin numPlanes × Nat)) :
    motive (agent.recordTimeouts timeouts).agent.table := by
  induction timeouts generalizing agent with
  | nil => exact now
  | cons timeout rest ih =>
      obtain ⟨plane, reqId⟩ := timeout
      unfold SenderMrcAgent.recordTimeouts
      dsimp only
      split
      · exact now
      · next table called => exact @ih { agent with table } (kept _ _ _ now called)

theorem Healthy.recordTimeouts (healthy : agent.Healthy nowNs)
    (timeouts : List (Fin numPlanes × Nat)) :
    (agent.recordTimeouts timeouts).agent.Healthy nowNs := by
  induction timeouts generalizing agent with
  | nil => exact healthy
  | cons timeout rest ih =>
      obtain ⟨plane, reqId⟩ := timeout
      unfold SenderMrcAgent.recordTimeouts
      dsimp only
      split
      · exact healthy
      · next table called =>
        exact @ih { agent with table } ⟨healthy.serves.call called, healthy.past⟩

theorem Healthy.sweep (healthy : agent.Healthy nowNs) :
    (agent.sweep nowNs).agent.Healthy nowNs := by
  have swept : Healthy
      { agent with probeClock := (agent.probeClock.sweepTimeouts nowNs).1 } nowNs := by
    refine ⟨healthy.serves, ?_⟩
    intro plane entry mem
    exact healthy.past plane entry (ProbeClock.mem_sweepTimeouts mem).1
  exact swept.recordTimeouts _

theorem Healthy.replyRx (healthy : agent.Healthy nowNs) (datagram : List UInt8) :
    (agent.replyRx datagram nowNs).agent.Healthy nowNs := by
  unfold SenderMrcAgent.replyRx
  split
  · exact healthy
  · exact healthy
  · next reply decoded =>
    split
    · exact healthy
    · next probeClock matched =>
      obtain ⟨index, -, ⟨-, same⟩ | ⟨impossible, -⟩⟩ := ProbeClock.matchReply_ok matched
      · refine ⟨healthy.serves, ?_⟩
        intro plane entry mem
        rw [same] at mem
        exact healthy.past plane entry mem
      · cases impossible
    · next probeClock rttNs matched =>
      obtain ⟨index, -, ⟨impossible, -⟩ | ⟨-, -, kept⟩⟩ := ProbeClock.matchReply_ok matched
      · cases impossible
      · have past : ∀ plane entry, entry ∈ (probeClock.outstanding plane).entries →
            entry.2 ≤ nowNs :=
          fun plane entry mem => healthy.past plane entry (kept plane entry mem).1
        dsimp only
        split
        · exact ⟨healthy.serves, past⟩
        · next table called => exact ⟨healthy.serves.call called, past⟩

/-- A report runs the record loop against the paired window. -/
theorem fuse_eq (agent : SenderMrcAgent numPlanes) (report : LossReport) (nowNs : Int) :
    ∃ stats, agent.fuse report nowNs = applyRecords agent.tenant (agent.pairedWindow nowNs)
      { table := agent.table, stats } report.planes := by
  unfold fuse applyLossReport
  split
  · next empty =>
    rw [empty]
    exact ⟨agent.stats, rfl⟩
  · exact ⟨_, rfl⟩

theorem fused_frame (agent : SenderMrcAgent numPlanes) (report : LossReport) (nowNs : Int) :
    (agent.fused report nowNs).table.cfg = agent.table.cfg := by
  obtain ⟨stats, fuseEq⟩ := agent.fuse_eq report nowNs
  rw [fused, fuseEq]
  exact applyRecords_keeps (motive := fun table => table.cfg = agent.table.cfg)
    (fun _ _ _ _ _ same returned => (EVStateTable.call_frame returned).2.1.trans same) rfl

theorem Healthy.fused (healthy : agent.Healthy nowNs) (report : LossReport) (receivedNs : Int) :
    (agent.fused report receivedNs).Healthy nowNs := by
  obtain ⟨stats, fuseEq⟩ := agent.fuse_eq report receivedNs
  refine ⟨?_, healthy.past⟩
  rw [SenderMrcAgent.fused, fuseEq]
  exact applyRecords_serves healthy.serves report.planes

theorem Healthy.reportRx (healthy : agent.Healthy nowNs) (datagram : List UInt8) :
    (agent.reportRx datagram nowNs).agent.Healthy nowNs := by
  unfold SenderMrcAgent.reportRx
  split
  · exact healthy
  · exact healthy
  · next report decoded => exact healthy.fused report nowNs

end SenderMrcAgent

/-! ## What an iteration can do -/

namespace AgentRun

variable {run later : AgentRun numPlanes}

theorem next_sent {plane : Int} (stepped : run.next (.sent plane) = some later) :
    ∃ counters, later = { run with
      agent := { run.agent with currentWindowSent := counters } } := by
  obtain ⟨counters, sentEq⟩ := run.agent.recordSent_frame plane
  unfold AgentRun.next at stepped
  simp only [sentEq, Option.some_inj] at stepped
  exact ⟨counters, stepped.symm⟩

/-- An emit never fails: the loop runs over the planes of the table. -/
theorem next_emit {plane : Fin numPlanes} {nowNs : Int}
    (stepped : run.next (.emit plane nowNs) = some later) :
    ∃ probeClock reqId txNs,
      run.agent.probeClock.emit (plane : Nat) nowNs = .ok (probeClock, reqId, txNs) ∧
      later = ⟨{ run.agent with probeClock }, max run.nowNs nowNs⟩ := by
  cases emitted : run.agent.probeClock.emit (plane : Nat) nowNs with
  | error error =>
      simp only [ProbeClock.emit, checkPlane_fin, bind, Except.bind] at emitted
      cases emitted
  | ok result =>
      obtain ⟨probeClock, reqId, txNs⟩ := result
      unfold AgentRun.next at stepped
      simp only [SenderMrcAgent.emitProbe, emitted, bind, Except.bind,
        Option.some_inj] at stepped
      exact ⟨probeClock, reqId, txNs, rfl, stepped.symm⟩

theorem next_sweep {nowNs : Int} (stepped : run.next (.sweep nowNs) = some later) :
    run.nowNs ≤ nowNs ∧ later = ⟨(run.agent.sweep nowNs).agent, nowNs⟩ := by
  unfold AgentRun.next at stepped
  simp only [Option.ite_none_right_eq_some, Option.some_inj] at stepped
  exact ⟨stepped.1, stepped.2.symm⟩

theorem next_rotate {nowNs : Int} (stepped : run.next (.rotate nowNs) = some later) :
    run.nowNs ≤ nowNs ∧ ∃ sentRing, later = ⟨{ run.agent with
      sentRing
      currentWindowSent := fun _ => 0
      currentWindowStartNs := nowNs
      currentWindowId := run.agent.currentWindowId + 1 }, nowNs⟩ := by
  obtain ⟨sentRing, rotateEq, -⟩ := run.agent.rotateWindow_eq nowNs
  unfold AgentRun.next at stepped
  simp only [rotateEq, Option.ite_none_right_eq_some, Option.some_inj] at stepped
  exact ⟨stepped.1, sentRing, stepped.2.symm⟩

theorem next_reply {datagram : List UInt8} {nowNs : Int}
    (stepped : run.next (.reply datagram nowNs) = some later) :
    run.nowNs ≤ nowNs ∧ later = ⟨(run.agent.replyRx datagram nowNs).agent, nowNs⟩ := by
  unfold AgentRun.next at stepped
  simp only [Option.ite_none_right_eq_some, Option.some_inj] at stepped
  exact ⟨stepped.1, stepped.2.symm⟩

theorem next_report {datagram : List UInt8} {nowNs : Int}
    (stepped : run.next (.report datagram nowNs) = some later) :
    run.nowNs ≤ nowNs ∧ later = ⟨(run.agent.reportRx datagram nowNs).agent, nowNs⟩ := by
  unfold AgentRun.next at stepped
  simp only [Option.ite_none_right_eq_some, Option.some_inj] at stepped
  exact ⟨stepped.1, stepped.2.symm⟩

end AgentRun

theorem AgentRun.next_healthy {run later : AgentRun numPlanes} {action : AgentAction numPlanes}
    (healthy : run.agent.Healthy run.nowNs) (stepped : run.next action = some later) :
    later.agent.Healthy later.nowNs := by
  cases action with
  | sent plane =>
      obtain ⟨counters, rfl⟩ := next_sent stepped
      exact ⟨healthy.serves, healthy.past⟩
  | emit plane nowNs =>
      obtain ⟨probeClock, reqId, txNs, emitted, rfl⟩ := next_emit stepped
      exact healthy.emit emitted
  | sweep nowNs =>
      obtain ⟨mono, rfl⟩ := next_sweep stepped
      exact (healthy.later mono).sweep
  | rotate nowNs =>
      obtain ⟨mono, sentRing, rfl⟩ := next_rotate stepped
      exact ⟨healthy.serves, (healthy.later mono).past⟩
  | reply datagram nowNs =>
      obtain ⟨mono, rfl⟩ := next_reply stepped
      exact (healthy.later mono).replyRx datagram
  | report datagram nowNs =>
      obtain ⟨mono, rfl⟩ := next_report stepped
      exact (healthy.later mono).reportRx datagram

/-- What every call of the table keeps, every iteration keeps. -/
theorem AgentRun.next_table {motive : EVStateTable numPlanes → Prop}
    (kept : ∀ table request next, motive table → table.call request = .ok next → motive next)
    {run later : AgentRun numPlanes} {action : AgentAction numPlanes}
    (now : motive run.agent.table) (stepped : run.next action = some later) :
    motive later.agent.table := by
  cases action with
  | sent plane =>
      obtain ⟨counters, rfl⟩ := next_sent stepped
      exact now
  | emit plane nowNs =>
      obtain ⟨probeClock, reqId, txNs, -, rfl⟩ := next_emit stepped
      exact now
  | sweep nowNs =>
      obtain ⟨-, rfl⟩ := next_sweep stepped
      unfold SenderMrcAgent.sweep
      apply SenderMrcAgent.recordTimeouts_keeps kept
      exact now
  | rotate nowNs =>
      obtain ⟨-, sentRing, rfl⟩ := next_rotate stepped
      exact now
  | reply datagram nowNs =>
      obtain ⟨-, rfl⟩ := next_reply stepped
      unfold SenderMrcAgent.replyRx
      dsimp only
      split
      · exact now
      · exact now
      · split
        · exact now
        · exact now
        · split
          · exact now
          · next table called => exact kept _ _ _ now called
  | report datagram nowNs =>
      obtain ⟨-, rfl⟩ := next_report stepped
      unfold SenderMrcAgent.reportRx
      dsimp only
      split
      · exact now
      · exact now
      · next report decoded =>
        obtain ⟨stats, fuseEq⟩ := run.agent.fuse_eq report nowNs
        rw [SenderMrcAgent.fused, fuseEq]
        exact applyRecords_keeps (fun _ _ _ _ _ now called => kept _ _ _ now called) now

/-- What the constructor returns. -/
theorem init_agent {topo : Topo} {table : EVStateTable topo.numPlanes} {tenant : String}
    {srcId dstId : Int} {cfg : AgentConfig} {startNs : Int} {agent : SenderMrcAgent topo.numPlanes}
    (constructed : SenderMrcAgent.init topo tenant srcId dstId table cfg startNs = .ok agent) :
    tenant ∈ table.tenants ∧ agent.tenant = tenant ∧ agent.table = table ∧
      ∀ plane, agent.probeClock.outstanding plane = .empty := by
  unfold SenderMrcAgent.init at constructed
  split at constructed
  · cases constructed
  next known =>
  obtain ⟨tenantId, -, rest⟩ := bind_eq_ok constructed
  obtain ⟨probeClock, clocked, ringed⟩ := bind_eq_ok rest
  obtain ⟨sentRing, -, returned⟩ := bind_eq_ok ringed
  cases returned
  refine ⟨not_not.mp known, rfl, rfl, ?_⟩
  intro plane
  unfold ProbeClock.init at clocked
  split_ifs at clocked
  cases clocked
  rfl

/-- A constructed agent with a fresh table is healthy, and every run keeps it so. -/
theorem init_healthy {topo : Topo} {tenants : List String} {evCfg : EVStateConfig}
    {table : EVStateTable topo.numPlanes} {tenant : String} {srcId dstId : Int}
    {cfg : AgentConfig} {startNs : Int} {agent : SenderMrcAgent topo.numPlanes}
    (built : EVStateTable.init tenants topo.numPlanes evCfg = .ok table)
    (constructed : SenderMrcAgent.init topo tenant srcId dstId table cfg startNs = .ok agent) :
    agent.Healthy startNs := by
  obtain ⟨known, rfl, rfl, idle⟩ := init_agent constructed
  refine ⟨⟨EVStateTable.init_sound built, known⟩, ?_⟩
  intro plane entry mem
  rw [idle plane] at mem
  cases mem

theorem reachable_healthy {topo : Topo} {tenants : List String} {evCfg : EVStateConfig}
    {table : EVStateTable topo.numPlanes} {tenant : String} {srcId dstId : Int}
    {cfg : AgentConfig} {startNs : Int} {agent : SenderMrcAgent topo.numPlanes}
    (built : EVStateTable.init tenants topo.numPlanes evCfg = .ok table)
    (constructed : SenderMrcAgent.init topo tenant srcId dstId table cfg startNs = .ok agent)
    {run : AgentRun topo.numPlanes} (reachable : (agentMachine agent startNs).Reachable run) :
    run.agent.Healthy run.nowNs :=
  Machine.Reachable.invariant (motive := fun run => run.agent.Healthy run.nowNs)
    (init_healthy built constructed)
    (fun _ _ _ healthy stepped => AgentRun.next_healthy healthy stepped)
    reachable

end Srv6Fabric.Mrc

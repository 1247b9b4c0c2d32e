import Srv6Fabric.Library.Ledger
import Srv6Fabric.Mrc.LossAttribution
import Srv6Fabric.Mrc.LossWindowHistory
import Srv6Fabric.Mrc.ReceiverAgent

/-!
# What becomes of a recorded packet

Data packets, probes and the report thread interleave freely.  The accounts are the
flows and planes: a packet enters one with its `record_data` call, and is then counted
in the table, in the report in hand, or in a report that was sent.
-/

namespace Srv6Fabric.Mrc

open Srv6Fabric.Library

variable {numPlanes : Nat}

/-- The agent, where its report thread stands, and what it has sent. -/
structure ReceiverRun (numPlanes : Nat) where
  agent : ReceiverMrcAgent numPlanes
  round : EmitRound
  sent : List SentReport

inductive ReceiverAction where
  | data (flowKey : RecvFlowKey) (plane seq : Int)
  | probe (datagram : List UInt8) (peer : String)
  | emit

def ReceiverRun.next (run : ReceiverRun numPlanes) :
    ReceiverAction → Option (ReceiverRun numPlanes)
  | .data flowKey plane seq =>
      match run.agent.recordData flowKey plane seq with
      | .ok agent => some { run with agent }
      | .error _ => some run
  | .probe datagram peer => some { run with agent := (run.agent.probeRx datagram peer).1 }
  | .emit =>
      let (agent, round, report) := run.agent.emitStep run.round
      some ⟨agent, round, run.sent ++ report.toList⟩

def receiverMachine (agent : ReceiverMrcAgent numPlanes) :
    Machine (ReceiverRun numPlanes) ReceiverAction where
  start := ⟨agent, .waiting, []⟩
  step := ReceiverRun.next

/-! ## The accounts -/

/-- What a report says was seen on a plane. -/
def LossReport.seenOn (report : LossReport) (plane : Nat) : Nat :=
  ((report.planes.filter fun record => record.planeId.toNat = plane).map fun record =>
    record.seen.toNat).sum

/-- What a sent report tells the sender was seen on a plane. -/
def SentReport.seenOn (report : SentReport) (plane : Nat) : Nat :=
  match decodeLossReport report.payload with
  | .ok decoded => decoded.seenOn plane
  | .error _ => 0

/-- One `record_data` call, on the account of its flow and plane; a call that raises
enters nothing. -/
def ReceiverAction.entered (action : ReceiverAction) (account : RecvFlowKey × Fin numPlanes) : Nat :=
  match action with
  | .data flowKey plane seq =>
      if flowKey = account.1 ∧ ∃ arrival ∈ LossWindowTable.arrival? numPlanes plane seq,
        arrival.plane = account.2 then 1 else 0
  | _ => 0

namespace ReceiverRun

/-- The packets a flow's transmitted reports have seen on a plane. -/
def transmitted (run : ReceiverRun numPlanes) (account : RecvFlowKey × Fin numPlanes) : Nat :=
  ((run.sent.filter fun report => report.flowKey = account.1).map fun report =>
    report.seenOn account.2).sum

/-- The packets of the report that is cut but not yet sent. -/
def inHand (run : ReceiverRun numPlanes) (account : RecvFlowKey × Fin numPlanes) : Nat :=
  match run.round with
  | .routing flowKey report _ => if flowKey = account.1 then report.seenOn account.2 else 0
  | _ => 0

/-- The packets pending in the table. -/
def pending (run : ReceiverRun numPlanes) (account : RecvFlowKey × Fin numPlanes) : Nat :=
  ((run.agent.lossTable.flow account.1).planes account.2).seen.toNat

def held (run : ReceiverRun numPlanes) (account : RecvFlowKey × Fin numPlanes) : Nat :=
  run.transmitted account + run.inHand account + run.pending account

end ReceiverRun

/-! ## Reports of a window -/

/-- Every plane with packets has a `u8` number. -/
def Narrow (counters : Fin numPlanes → PlaneCounters) : Prop :=
  ∀ plane, (counters plane).seen ≠ 0 → (plane : Nat) < 256

instance (counters : Fin numPlanes → PlaneCounters) : Decidable (Narrow counters) :=
  inferInstanceAs (Decidable (∀ plane, (counters plane).seen ≠ 0 → (plane : Nat) < 256))

theorem LossReport.seenOn_cons (windowId : UInt16) (record : PlaneLossRecord)
    (records : List PlaneLossRecord) (plane : Nat) :
    (⟨windowId, record :: records⟩ : LossReport).seenOn plane =
      (if record.planeId.toNat = plane then record.seen.toNat else 0) +
        (⟨windowId, records⟩ : LossReport).seenOn plane := by
  by_cases here : record.planeId.toNat = plane <;> simp [seenOn, here]

theorem OnWire.wire_seen {counters : Fin numPlanes → PlaneCounters} (onWire : OnWire counters)
    (plane : Fin numPlanes) :
    ((counters plane).wire plane).seen.toNat = (min (counters plane).seen u32Max).toNat := by
  have nonneg := (onWire.valid plane).seen_nonneg
  have small : (min (counters plane).seen u32Max).toNat < 2 ^ 32 := by
    simp only [u32Max]
    omega
  exact UInt32.toNat_ofNat_of_lt' small

/-- The records of some planes tell the counts of these planes. -/
theorem OnWire.seenOn_map {counters : Fin numPlanes → PlaneCounters} (onWire : OnWire counters)
    (windowId : UInt16) {planes : List (Fin numPlanes)} (nodup : planes.Nodup)
    (active : ∀ other ∈ planes, (counters other).seen ≠ 0) (plane : Fin numPlanes) :
    (⟨windowId, planes.map fun other => (counters other).wire other⟩ : LossReport).seenOn plane =
      if plane ∈ planes then (min (counters plane).seen u32Max).toNat else 0 := by
  induction planes with
  | nil => rfl
  | cons first rest ih =>
      obtain ⟨fresh, restNodup⟩ := List.nodup_cons.mp nodup
      have further := ih restNodup fun other mem => active other (List.mem_cons_of_mem _ mem)
      have planeId := onWire.wire_planeId (active first List.mem_cons_self)
      rw [List.map_cons, LossReport.seenOn_cons, further, planeId, onWire.wire_seen]
      by_cases here : first = plane
      · subst here
        simp [fresh]
      · have elsewhere : ¬ (first : Nat) = plane := fun same => here (Fin.ext same)
        simp [elsewhere, Ne.symm here]

/-- The report of a window tells every plane's count, up to the `u32` field. -/
theorem OnWire.seenOn {counters : Fin numPlanes → PlaneCounters} (onWire : OnWire counters)
    {report : LossReport} (records : report.planes = snapshotRecords counters)
    (plane : Fin numPlanes) :
    report.seenOn plane = (min (counters plane).seen u32Max).toNat := by
  obtain ⟨windowId, planes⟩ := report
  have whole := onWire.seenOn_map windowId (nodup_activePlanes counters)
    (fun other mem => mem_activePlanes.mp mem) plane
  rw [show planes = (activePlanes counters).map fun other => (counters other).wire other from
    records, whole]
  split
  · rfl
  · next idle =>
    have none_ : (counters plane).seen = 0 := by
      by_contra active
      exact idle (mem_activePlanes.mpr active)
    rw [none_]
    rfl

/-- What a run keeps: counters as the table builds them, and in hand a report of some
window with packets. -/
structure ReceiverRun.Sound (run : ReceiverRun numPlanes) : Prop where
  valid : ∀ flowKey plane, ((run.agent.lossTable.flow flowKey).planes plane).Valid
  inHand : ∀ flowKey report flows, run.round = .routing flowKey report flows →
    report.planes ≠ [] ∧ ∃ counters : Fin numPlanes → PlaneCounters, OnWire counters ∧
      report.planes = snapshotRecords counters

/-- A window that is cut is blank; the others stay. -/
theorem LossWindowTable.planes_cut {κ : Type} [DecidableEq κ] (table : LossWindowTable κ numPlanes)
    (flowKey : κ) (nextWindowId : UInt16) (other : κ) :
    ((⟨table.flows.set flowKey { nextWindowId }⟩ : LossWindowTable κ numPlanes).flow other).planes =
      if other = flowKey then fun _ => {} else (table.flow other).planes := by
  rw [LossWindowTable.flow_set]
  split <;> rfl

/-! ## Routing a report -/

theorem ReceiverMrcAgent.route_unknown (agent : ReceiverMrcAgent numPlanes) {flowKey : RecvFlowKey}
    {report : LossReport} (unknown : flowKey.sender?.bind agent.senders.find? = none) :
    agent.route flowKey report = none := by
  rw [route, unknown, Option.bind_none]

/-- The report of a window is sent to a sender that is known. -/
theorem ReceiverMrcAgent.route_known (agent : ReceiverMrcAgent numPlanes) {flowKey : RecvFlowKey}
    {report : LossReport} {addr : SenderAddr}
    (known : flowKey.sender?.bind agent.senders.find? = some addr)
    {counters : Fin numPlanes → PlaneCounters} (onWire : OnWire counters)
    (records : report.planes = snapshotRecords counters) :
    ∃ payload, decodeLossReport payload = .ok report ∧
      agent.route flowKey report = some ⟨flowKey, addr, payload⟩ := by
  have count : report.planes.length ≤ 0xFFFF := by
    rw [records]
    exact le_trans onWire.length_snapshotRecords (by decide)
  obtain ⟨payload, encoded, decoded⟩ := decodeLossReport_of_encodeLossReport report count
  refine ⟨payload, decoded, ?_⟩
  rw [route, known, Option.bind_some, encoded]
  rfl

namespace ReceiverRun

/-- What a step loses from an account: a report whose sender is not known, or what a
count is past the `u32` field when its window is closed. -/
def lost (run : ReceiverRun numPlanes) (action : ReceiverAction)
    (account : RecvFlowKey × Fin numPlanes) : Nat :=
  match action, run.round with
  | .emit, .routing flowKey report _ =>
      if flowKey = account.1 ∧ flowKey.sender?.bind run.agent.senders.find? = none then
        report.seenOn account.2
      else 0
  | .emit, .working (flowKey :: _) =>
      if flowKey = account.1 ∧ Narrow (run.agent.lossTable.flow flowKey).planes then
        (((run.agent.lossTable.flow flowKey).planes account.2).seen - u32Max).toNat
      else 0
  | _, _ => 0

/-- The sender of a report in hand is known, and a window about to be closed has fewer
than `2 ^ 32` packets on each plane. -/
def accounts (run : ReceiverRun numPlanes) (action : ReceiverAction) : Bool :=
  match action, run.round with
  | .emit, .routing flowKey _ _ => (flowKey.sender?.bind run.agent.senders.find?).isSome
  | .emit, .working (flowKey :: _) =>
      decide (Narrow (run.agent.lossTable.flow flowKey).planes → ∀ plane,
        ((run.agent.lossTable.flow flowKey).planes plane).seen ≤ u32Max)
  | _, _ => true

/-! ## Steps -/

variable {run next : ReceiverRun numPlanes}

theorem next_probe {datagram : List UInt8} {peer : String}
    (stepped : run.next (.probe datagram peer) = some next) :
    next.agent.lossTable = run.agent.lossTable ∧ next.round = run.round ∧ next.sent = run.sent := by
  cases stepped
  refine ⟨?_, rfl, rfl⟩
  dsimp only
  unfold ReceiverMrcAgent.probeRx
  split <;> rfl

theorem next_data {flowKey : RecvFlowKey} {plane seq : Int}
    (stepped : run.next (.data flowKey plane seq) = some next) :
    LossWindowTable.arrival? numPlanes plane seq = none ∧ next = run ∨
    ∃ index : Fin numPlanes, 0 ≤ seq ∧
      LossWindowTable.arrival? numPlanes plane seq = some ⟨index, seq⟩ ∧
      next.round = run.round ∧ next.sent = run.sent ∧
      ∀ other, (next.agent.lossTable.flow other).planes =
        if other = flowKey then Function.update (run.agent.lossTable.flow flowKey).planes index
          (((run.agent.lossTable.flow flowKey).planes index).record seq)
        else (run.agent.lossTable.flow other).planes := by
  rcases run.agent.lossTable.record_eq flowKey plane seq with
    ⟨error, raised, refused⟩ | ⟨index, table, nonneg, accepted, returned, tableEq⟩
  · have same : run.agent.recordData flowKey plane seq = .error error := by
      rw [ReceiverMrcAgent.recordData, raised]
      rfl
    rw [ReceiverRun.next, same] at stepped
    exact Or.inl ⟨refused, (Option.some.inj stepped).symm⟩
  · have moved : run.agent.recordData flowKey plane seq =
        .ok { run.agent with lossTable := table } := by
      rw [ReceiverMrcAgent.recordData, returned]
      rfl
    rw [ReceiverRun.next, moved] at stepped
    cases stepped
    refine Or.inr ⟨index, nonneg, accepted, rfl, rfl, fun other => ?_⟩
    dsimp only
    rw [tableEq, LossWindowTable.flow_set]
    split <;> rfl

/-- What the report thread does in one step. -/
inductive Emitted (run : ReceiverRun numPlanes) : ReceiverRun numPlanes → Prop
  | begins {flows : List RecvFlowKey} (here : run.round = .waiting) :
      Emitted run { run with round := .working flows }
  | rests (here : run.round = .working []) : Emitted run { run with round := .waiting }
  | raises {next : ReceiverRun numPlanes} {flowKey : RecvFlowKey} {flows : List RecvFlowKey}
      {error : PyError} (here : run.round = .working (flowKey :: flows))
      (wide : ¬ Narrow (run.agent.lossTable.flow flowKey).planes)
      (there : next.round = .ended error) (sent : next.sent = run.sent)
      (planes : ∀ other, (next.agent.lossTable.flow other).planes =
        (run.agent.lossTable.flow other).planes) : Emitted run next
  | cuts {next : ReceiverRun numPlanes} {flowKey : RecvFlowKey} {flows : List RecvFlowKey}
      {report : LossReport} (here : run.round = .working (flowKey :: flows))
      (onWire : OnWire (run.agent.lossTable.flow flowKey).planes)
      (records : report.planes = snapshotRecords (run.agent.lossTable.flow flowKey).planes)
      (there : next.round =
        if report.planes = [] then .working flows else .routing flowKey report flows)
      (sent : next.sent = run.sent)
      (planes : ∀ other, (next.agent.lossTable.flow other).planes =
        if other = flowKey then fun _ => {} else (run.agent.lossTable.flow other).planes) :
      Emitted run next
  | drops {flowKey : RecvFlowKey} {report : LossReport} {flows : List RecvFlowKey}
      (here : run.round = .routing flowKey report flows)
      (unknown : flowKey.sender?.bind run.agent.senders.find? = none) :
      Emitted run { run with round := .working flows }
  | sends {report : LossReport} {flows : List RecvFlowKey} {sent : SentReport}
      (here : run.round = .routing sent.flowKey report flows)
      (known : (sent.flowKey.sender?.bind run.agent.senders.find?).isSome)
      (decoded : decodeLossReport sent.payload = .ok report) :
      Emitted run { run with round := .working flows, sent := run.sent ++ [sent] }
  | dead {error : PyError} (here : run.round = .ended error) : Emitted run run

theorem next_emit (sound : run.Sound) (stepped : run.next .emit = some next) :
    Emitted run next := by
  obtain ⟨agent, round, sent⟩ := run
  cases round with
  | waiting =>
      cases stepped
      simpa [ReceiverMrcAgent.emitStep] using Emitted.begins rfl
  | working flows =>
      cases flows with
      | nil =>
          cases stepped
          simpa [ReceiverMrcAgent.emitStep] using Emitted.rests rfl
      | cons flowKey flows =>
          have valid := sound.valid flowKey
          by_cases narrow : Narrow (agent.lossTable.flow flowKey).planes
          · have onWire : OnWire (agent.lossTable.flow flowKey).planes := ⟨valid, narrow⟩
            have snapped := LossWindowTable.snapshotAndReset_onWire onWire
            set report : LossReport := ⟨(agent.lossTable.flow flowKey).nextWindowId,
              snapshotRecords (agent.lossTable.flow flowKey).planes⟩
            have cut := agent.lossTable.planes_cut flowKey
              ((agent.lossTable.flow flowKey).nextWindowId + 1)
            rw [ReceiverRun.next, ReceiverMrcAgent.emitStep, snapped] at stepped
            dsimp only at stepped
            by_cases none_ : report.planes = []
            · rw [if_pos none_] at stepped
              cases stepped
              exact .cuts rfl onWire rfl (if_pos none_).symm (List.append_nil sent) cut
            · rw [if_neg none_] at stepped
              cases stepped
              exact .cuts rfl onWire rfl (if_neg none_).symm (List.append_nil sent) cut
          · obtain ⟨plane, active, high⟩ : ∃ plane : Fin numPlanes,
                ((agent.lossTable.flow flowKey).planes plane).seen ≠ 0 ∧ 256 ≤ (plane : Nat) := by
              simpa [Narrow] using narrow
            obtain ⟨first, -, raised⟩ := LossWindowTable.snapshotPlanes_tooWide valid
              ⟨plane, List.mem_finRange plane, active, high⟩
            simp only [ReceiverRun.next, ReceiverMrcAgent.emitStep,
              LossWindowTable.snapshotAndReset, raised] at stepped
            cases stepped
            refine .raises rfl narrow rfl (List.append_nil sent) fun other => ?_
            rw [LossWindowTable.flow_set]
            split
            · next same => rw [same]
            · rfl
  | routing flowKey report flows =>
      rw [ReceiverRun.next, ReceiverMrcAgent.emitStep] at stepped
      cases known : flowKey.sender?.bind agent.senders.find? with
      | none =>
          rw [agent.route_unknown known] at stepped
          cases stepped
          simpa using Emitted.drops rfl known
      | some addr =>
          obtain ⟨-, counters, onWire, records⟩ := sound.inHand flowKey report flows rfl
          obtain ⟨payload, decoded, routed⟩ := agent.route_known known onWire records
          rw [routed] at stepped
          cases stepped
          exact @Emitted.sends _ _ report flows ⟨flowKey, addr, payload⟩ rfl (by rw [known]; rfl) decoded
  | ended error =>
      cases stepped
      simpa [ReceiverMrcAgent.emitStep] using Emitted.dead rfl

theorem Sound.step (sound : run.Sound) {action : ReceiverAction}
    (stepped : run.next action = some next) : next.Sound := by
  cases action with
  | data flowKey plane seq =>
      rcases next_data stepped with ⟨-, rfl⟩ | ⟨index, nonneg, -, round, -, planes⟩
      · exact sound
      · refine ⟨fun other on => ?_, fun other report flows here => ?_⟩
        · rw [planes]
          split
          · rw [Function.update_apply]
            split
            · exact (sound.valid flowKey index).record nonneg
            · exact sound.valid flowKey on
          · exact sound.valid other on
        · exact sound.inHand other report flows (round ▸ here)
  | probe datagram peer =>
      obtain ⟨table, round, -⟩ := next_probe stepped
      refine ⟨fun other on => ?_, fun other report flows here => ?_⟩
      · rw [table]
        exact sound.valid other on
      · exact sound.inHand other report flows (round ▸ here)
  | emit =>
      cases next_emit sound stepped with
      | begins here => exact ⟨sound.valid, fun _ _ _ there => by cases there⟩
      | rests here => exact ⟨sound.valid, fun _ _ _ there => by cases there⟩
      | raises here wide there sent planes =>
          refine ⟨fun other on => ?_, fun other report flows held => ?_⟩
          · rw [planes]
            exact sound.valid other on
          · rw [there] at held
            cases held
      | cuts here onWire records there sent planes =>
          refine ⟨fun other on => ?_, fun other report flows held => ?_⟩
          · rw [planes]
            split
            · exact PlaneCounters.valid_blank
            · exact sound.valid other on
          · rw [there] at held
            split at held
            · cases held
            · next some_ =>
              cases held
              exact ⟨some_, _, onWire, records⟩
      | drops here unknown => exact ⟨sound.valid, fun _ _ _ there => by cases there⟩
      | sends here known decoded => exact ⟨sound.valid, fun _ _ _ there => by cases there⟩
      | dead here => exact sound

/-! ## The books -/

theorem transmitted_sent (run : ReceiverRun numPlanes) (report : SentReport)
    (account : RecvFlowKey × Fin numPlanes) :
    ({ run with sent := run.sent ++ [report] } : ReceiverRun numPlanes).transmitted account =
      run.transmitted account +
        if report.flowKey = account.1 then report.seenOn account.2 else 0 := by
  by_cases here : report.flowKey = account.1 <;>
    simp [transmitted, List.filter_append, here]

/-- Each step balances: what it enters is held afterwards, or it loses it. -/
theorem held_next (sound : run.Sound) {action : ReceiverAction}
    (stepped : run.next action = some next) (account : RecvFlowKey × Fin numPlanes) :
    run.held account + action.entered account = next.held account + run.lost action account := by
  obtain ⟨flowKey, plane⟩ := account
  cases action with
  | data other on seq =>
      rcases next_data stepped with ⟨refused, rfl⟩ | ⟨index, nonneg, accepted, round, sent, planes⟩
      · simp [ReceiverAction.entered, refused, lost]
      · have blank : run.lost (.data other on seq) (flowKey, plane) = 0 := rfl
        have valid := (sound.valid flowKey plane).seen_nonneg
        simp only [held, transmitted, inHand, pending, round, sent, planes, blank,
          ReceiverAction.entered, accepted, Option.mem_some_iff, exists_eq_left']
        by_cases here : other = flowKey
        · subst here
          rw [if_pos rfl, Function.update_apply]
          by_cases same : plane = index
          · subst same
            have counted : (((run.agent.lossTable.flow other).planes plane).record seq).seen =
                ((run.agent.lossTable.flow other).planes plane).seen + 1 := rfl
            rw [if_pos ⟨rfl, rfl⟩, if_pos rfl, counted]
            omega
          · rw [if_neg fun both => same (Fin.ext both.2).symm, if_neg same]
        · rw [if_neg fun both => here both.1, if_neg fun same => here same.symm]
  | probe datagram peer =>
      obtain ⟨table, round, sent⟩ := next_probe stepped
      simp only [held, transmitted, inHand, pending, table, round, sent, lost,
        ReceiverAction.entered]
  | emit =>
      have nonneg := (sound.valid flowKey plane).seen_nonneg
      cases next_emit sound stepped with
      | begins here => simp [held, transmitted, inHand, pending, here, lost, ReceiverAction.entered]
      | rests here => simp [held, transmitted, inHand, pending, here, lost, ReceiverAction.entered]
      | raises here wide there sent planes =>
          simp [held, transmitted, inHand, pending, here, there, sent, planes, lost, wide,
            ReceiverAction.entered]
      | @cuts _ cut flows report here onWire records there sent planes =>
          have narrow : Narrow (run.agent.lossTable.flow cut).planes := onWire.small
          have seen := onWire.seenOn records plane
          -- A report without records has seen nothing.
          have moved : next.inHand (flowKey, plane) =
              if cut = flowKey then report.seenOn plane else 0 := by
            simp only [inHand, there]
            by_cases none_ : report.planes = []
            · rw [if_pos none_]
              simp [LossReport.seenOn, none_]
            · rw [if_neg none_]
          have idle : run.inHand (flowKey, plane) = 0 := by simp only [inHand, here]
          simp only [held, transmitted, pending, moved, idle, sent, planes, lost, here, narrow,
            and_true, ReceiverAction.entered]
          by_cases same : flowKey = cut
          · subst same
            simp only [if_true, seen, u32Max]
            omega
          · rw [if_neg same, if_neg (Ne.symm same), if_neg (Ne.symm same)]
      | drops here unknown =>
          simp only [held, transmitted, inHand, pending, here, lost, unknown, and_true,
            ReceiverAction.entered]
          omega
      | @sends report flows sent here known decoded =>
          have told : sent.seenOn plane = report.seenOn plane := by
            rw [SentReport.seenOn, decoded]
          have kept : ¬ sent.flowKey.sender?.bind run.agent.senders.find? = none := fun none_ => by
            rw [none_] at known
            cases known
          have more := transmitted_sent run sent (flowKey, plane)
          simp only [held, inHand, pending, here, lost, kept, and_false, if_false,
            ReceiverAction.entered] at more ⊢
          rw [show transmitted { run with
              round := .working flows, sent := run.sent ++ [sent] } (flowKey, plane) = _ from more,
            told]
          omega
      | dead here => simp [here, lost, ReceiverAction.entered]

/-- A step is accounted for exactly when it loses nothing on any account. -/
theorem accounts_iff (sound : run.Sound) (action : ReceiverAction) :
    run.accounts action ↔ ∀ account, run.lost action account = 0 := by
  cases action with
  | data flowKey plane seq => simp [accounts, lost]
  | probe datagram peer => simp [accounts, lost]
  | emit =>
      cases here : run.round with
      | waiting => simp [accounts, lost, here]
      | ended error => simp [accounts, lost, here]
      | routing flowKey report flows =>
          simp only [accounts, lost, here, Option.isSome_iff_ne_none]
          constructor
          · intro known account
            rw [if_neg fun both => known both.2]
          · intro nothing unknown
            -- The report has a record, and a record has seen something.
            obtain ⟨some_, counters, onWire, records⟩ := sound.inHand flowKey report flows here
            obtain ⟨plane, active⟩ : ∃ plane, plane ∈ activePlanes counters := by
              refine List.exists_mem_of_ne_nil _ fun none_ => some_ ?_
              rw [records, snapshotRecords, none_]
              rfl
            have zero := nothing (flowKey, plane)
            rw [if_pos ⟨rfl, unknown⟩, onWire.seenOn records] at zero
            have positive := mem_activePlanes.mp active
            have nonneg := (onWire.valid plane).seen_nonneg
            simp only [u32Max] at zero
            omega
      | working flows =>
          cases flows with
          | nil => simp [accounts, lost, here]
          | cons flowKey flows =>
              simp only [accounts, lost, here, decide_eq_true_eq]
              constructor
              · rintro few ⟨other, plane⟩
                split
                · next both =>
                  exact Int.toNat_eq_zero.mpr (sub_nonpos.mpr (few both.2 plane))
                · rfl
              · intro nothing narrow plane
                have zero := nothing (flowKey, plane)
                rw [if_pos ⟨rfl, narrow⟩] at zero
                exact sub_nonpos.mp (Int.toNat_eq_zero.mp zero)

theorem sound_start {agent : ReceiverMrcAgent numPlanes}
    (constructed : ReceiverMrcAgent.init numPlanes = .ok agent) :
    (receiverMachine agent).start.Sound ∧
      ∀ account, (receiverMachine agent).start.held account = 0 := by
  obtain ⟨table, built, made⟩ := bind_eq_ok constructed
  unfold LossWindowTable.init at built
  split at built
  · cases built
  · cases built
    cases made
    exact ⟨⟨fun _ _ => PlaneCounters.valid_blank, fun _ _ _ here => by cases here⟩, fun _ => rfl⟩

/-- Every run of data, probes and the report thread, in any order: each flow's
`record_data` calls on each plane are all in its transmitted reports, in the report in
hand or pending in the table, exactly when no step drops a report for want of the
sender's address or closes a window past the `u32` field. -/
theorem recorded_eq_reported_iff {agent : ReceiverMrcAgent numPlanes}
    (constructed : ReceiverMrcAgent.init numPlanes = .ok agent) {actions : List ReceiverAction}
    {later : ReceiverRun numPlanes}
    (ran : (receiverMachine agent).run (receiverMachine agent).start actions = some later) :
    (∀ account : RecvFlowKey × Fin numPlanes,
      Machine.enteredBy ReceiverAction.entered actions account =
        later.transmitted account + later.inHand account + later.pending account) ↔
      (receiverMachine agent).along accounts (receiverMachine agent).start actions :=
  Machine.held_eq_entered_iff held (fun _ _ _ sound stepped => sound.step stepped)
    (fun _ _ _ sound stepped => held_next sound stepped)
    (fun _ action sound => accounts_iff sound action) ran (sound_start constructed).1
    (sound_start constructed).2

/-- The flow of host 0 to host 15 of the green tenant. -/
def greenFlowKey : RecvFlowKey := .tuple [1, 0, 15]

/-- The first probe of host 0. -/
def greenProbe : List UInt8 :=
  (encodeProbe 0 0 0 1 0 sprayReportPort).toOption.getD []

/-- A probe, a packet, and one round of the report thread. -/
def probeFirst : List ReceiverAction :=
  [.probe greenProbe "fd00::1", .data greenFlowKey 0 0, .emit, .emit, .emit, .emit]

theorem recorded_eq_reported_probeFirst : ∃ (agent : ReceiverMrcAgent 4) (later : ReceiverRun 4),
    ReceiverMrcAgent.init 4 = .ok agent ∧
    (receiverMachine agent).run (receiverMachine agent).start probeFirst = some later ∧
    ∀ account : RecvFlowKey × Fin 4, Machine.enteredBy ReceiverAction.entered probeFirst account =
      later.transmitted account + later.inHand account + later.pending account :=
  ⟨_, _, rfl, rfl, (@recorded_eq_reported_iff 4 _ rfl probeFirst _ rfl).mpr (by decide +kernel)⟩

/-- The same packet and round, but the probe arrives only then; a second round follows. -/
def probeLate : List ReceiverAction :=
  [.data greenFlowKey 0 0, .emit, .emit, .emit, .emit, .probe greenProbe "fd00::1", .emit, .emit,
    .emit]

/-- The packet is in no report, and none will come. -/
theorem packet_before_probe_never_reported :
    ∃ (agent : ReceiverMrcAgent 4) (later : ReceiverRun 4),
      ReceiverMrcAgent.init 4 = .ok agent ∧
      (receiverMachine agent).run (receiverMachine agent).start probeLate = some later ∧
      later.round = .waiting ∧
      greenFlowKey.sender?.bind later.agent.senders.find? = some ⟨"fd00::1", 9997⟩ ∧
      Machine.enteredBy ReceiverAction.entered probeLate (greenFlowKey, (0 : Fin 4)) = 1 ∧
      later.transmitted (greenFlowKey, 0) = 0 ∧ later.inHand (greenFlowKey, 0) = 0 ∧
      later.pending (greenFlowKey, 0) = 0 :=
  ⟨_, _, rfl, rfl, by decide +kernel⟩

end ReceiverRun

end Srv6Fabric.Mrc

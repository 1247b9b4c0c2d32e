import Srv6Fabric.Mrc.LossAttribution
import Srv6Fabric.Policy

/-!
# The closed MRC loop of one flow

Sender and receiver of one flow, with the data packets and the loss reports in flight
between them.  `run_sender` picks a plane from the live weights; packets and reports
may be delayed, reordered and lost; the timers of the two agents are not synchronized.
A probe shows up as its result.  A report in flight is the report itself: the codec
returns what it was given.
-/

namespace Srv6Fabric.Mrc

open Srv6Fabric.Library
open Srv6Fabric.Policy

variable {κ : Type} [DecidableEq κ] {numPlanes : Nat}

structure Loop (κ : Type) (numPlanes : Nat) where
  agent : SenderMrcAgent numPlanes
  /-- `seq` of `run_sender`. -/
  seq : Nat
  receiver : LossWindowTable κ numPlanes
  data : List DataPacket
  reports : List LossReport
  nowNs : Int

/-- One step of a party or of the network; packets and reports in flight are named by
their position. -/
inductive LoopAction (numPlanes : Nat) where
  /-- `run_sender` sends one packet and calls `record_sent`. -/
  | send
  /-- `sendto` raises `OSError`: the packet is not sent, its sequence number is used. -/
  | sendFailed
  | arrive (position : Nat)
  | loseData (position : Nat)
  | rotate (nowNs : Int)
  /-- One flow's turn in `_emit_one_round`. -/
  | snapshot
  | deliver (position : Nat) (nowNs : Int)
  | loseReport (position : Nat)
  | probe (plane : Fin numPlanes) (success : Bool) (rttNs : Int)

namespace Loop

/-- The data path calls `record_data`; its caller ignores an exception. -/
def received (loop : Loop κ numPlanes) (flowKey : κ) (packet : DataPacket) :
    LossWindowTable κ numPlanes :=
  match loop.receiver.record flowKey packet.plane.toNat packet.seq.toNat with
  | .ok receiver => receiver
  | .error _ => loop.receiver

/-- The call a probe result makes. -/
def probeCall (tenant : String) (plane : Fin numPlanes) (success : Bool) (rttNs : Int) :
    EVStateTable.Call :=
  .probe tenant (plane : Nat) success (if success then some rttNs else none)

def next (flow : FlowKey) (flowKey : κ) (loop : Loop κ numPlanes) :
    LoopAction numPlanes → Option (Loop κ numPlanes)
  | .send =>
      match healthAwareMrcPick loop.agent.table loop.agent.tenant loop.seq flow with
      | .error _ => none
      | .ok plane =>
          -- `run_sender` refuses a plane out of range; the payload holds a `u64` and a `u8`.
          if 0 ≤ plane ∧ plane < numPlanes ∧ plane < 256 ∧ loop.seq < 2 ^ 64 then
            some { loop with
              agent := loop.agent.recordSent plane
              seq := loop.seq + 1
              data := loop.data ++ [⟨.ofNat loop.seq, .ofNat plane.toNat⟩] }
          else none
  | .sendFailed => some { loop with seq := loop.seq + 1 }
  | .arrive position =>
      match loop.data[position]? with
      | none => none
      | some packet =>
          some { loop with
            receiver := loop.received flowKey packet
            data := loop.data.eraseIdx position }
  | .loseData position => some { loop with data := loop.data.eraseIdx position }
  | .rotate nowNs =>
      if loop.nowNs ≤ nowNs then
        match loop.agent.rotateWindow nowNs with
        | .ok agent => some { loop with agent, nowNs }
        | .error _ => some { loop with nowNs }
      else none
  | .snapshot =>
      if flowKey ∈ loop.receiver.knownFlows then
        match loop.receiver.snapshotAndReset flowKey with
        | (receiver, .error _) => some { loop with receiver }
        | (receiver, .ok report) =>
            -- An empty report is not sent.
            if report.planes = [] then some { loop with receiver }
            else some { loop with receiver, reports := loop.reports ++ [report] }
      else none
  | .deliver position nowNs =>
      match loop.reports[position]? with
      | none => none
      | some report =>
          if loop.nowNs ≤ nowNs then
            some { loop with
              agent := loop.agent.fused report nowNs
              reports := loop.reports.eraseIdx position
              nowNs }
          else none
  | .loseReport position => some { loop with reports := loop.reports.eraseIdx position }
  | .probe plane success rttNs =>
      match loop.agent.table.call (probeCall loop.agent.tenant plane success rttNs) with
      | .ok table => some { loop with agent := { loop.agent with table } }
      | .error _ => some loop

/-- No data packet is dropped, the receiver records the ones that arrive, and every
probe is answered in time. -/
def lossFree (flowKey : κ) (loop : Loop κ numPlanes) : LoopAction numPlanes → Bool
  | .loseData _ => false
  | .arrive position =>
      loop.data[position]?.all fun packet =>
        (loop.receiver.record flowKey packet.plane.toNat packet.seq.toNat).toOption.isSome
  | .probe _ success _ => success
  | _ => true

/-- `self._planes[tenant]` of the loop's agent. -/
def row (loop : Loop κ numPlanes) : Fin numPlanes → PlaneRecord :=
  loop.agent.table.row loop.agent.tenant

/-- The receiver's open window of the flow. -/
def counters (loop : Loop κ numPlanes) (flowKey : κ) : Fin numPlanes → PlaneCounters :=
  (loop.receiver.flow flowKey).planes

/-- A fresh agent and a receiver that has seen nothing. -/
def fresh (agent : SenderMrcAgent numPlanes) (startNs : Int) : Loop κ numPlanes :=
  ⟨agent, 0, ⟨.empty⟩, [], [], startNs⟩

end Loop

def closedLoop (flow : FlowKey) (flowKey : κ) (start : Loop κ numPlanes) :
    Machine (Loop κ numPlanes) (LoopAction numPlanes) where
  start := start
  step := Loop.next flow flowKey

/-! ## What a step leaves -/

namespace Loop

variable {loop later : Loop κ numPlanes} {flow : FlowKey} {flowKey : κ} {cfg : EVStateConfig}
  {action : LoopAction numPlanes}

theorem next_send (stepped : loop.next flow flowKey .send = some later) :
    ∃ plane, healthAwareMrcPick loop.agent.table loop.agent.tenant loop.seq flow = .ok plane ∧
      plane < 256 ∧ later = { loop with
        agent := loop.agent.recordSent plane
        seq := loop.seq + 1
        data := loop.data ++ [⟨.ofNat loop.seq, .ofNat plane.toNat⟩] } := by
  unfold Loop.next at stepped
  dsimp only at stepped
  split at stepped
  · cases stepped
  · next plane picked =>
    simp only [Option.ite_none_right_eq_some] at stepped
    obtain ⟨⟨-, -, small, -⟩, returned⟩ := stepped
    cases returned
    exact ⟨plane, picked, small, rfl⟩

theorem next_arrive {position : Nat}
    (stepped : loop.next flow flowKey (.arrive position) = some later) :
    ∃ packet, loop.data[position]? = some packet ∧ later = { loop with
      receiver := loop.received flowKey packet
      data := loop.data.eraseIdx position } := by
  unfold Loop.next at stepped
  dsimp only at stepped
  split at stepped
  · cases stepped
  · next packet held =>
    cases stepped
    exact ⟨packet, held, rfl⟩

/-- A window that counted a packet goes to the ring. -/
theorem next_rotate {closeNs : Int}
    (stepped : loop.next flow flowKey (.rotate closeNs) = some later) :
    ∃ sentRing, later = { loop with
        agent := { loop.agent with
          sentRing
          currentWindowSent := fun _ => 0
          currentWindowStartNs := closeNs
          currentWindowId := loop.agent.currentWindowId + 1 }
        nowNs := closeNs } ∧
      ((∃ plane, loop.agent.currentWindowSent plane ≠ 0) →
        loop.agent.sentRing.push (loop.agent.closedWindow closeNs) = .ok sentRing) := by
  obtain ⟨sentRing, rotateEq, pushed⟩ := loop.agent.rotateWindow_eq closeNs
  unfold Loop.next at stepped
  simp only [rotateEq, Option.ite_none_right_eq_some] at stepped
  obtain ⟨-, returned⟩ := stepped
  cases returned
  exact ⟨sentRing, rfl, pushed⟩

/-- A snapshot with records puts its report in flight and leaves a blank window. -/
theorem next_snapshot (onWire : OnWire (loop.counters flowKey))
    (stepped : loop.next flow flowKey .snapshot = some later) :
    (∀ plane, later.counters flowKey plane = {}) ∧
      ∃ receiver windowId, later = { loop with
        receiver
        reports := if snapshotRecords (loop.counters flowKey) = [] then loop.reports
          else loop.reports ++ [⟨windowId, snapshotRecords (loop.counters flowKey)⟩] } := by
  unfold Loop.next at stepped
  simp only [LossWindowTable.snapshotAndReset_onWire onWire,
    Option.ite_none_right_eq_some] at stepped
  obtain ⟨-, returned⟩ := stepped
  set receiver : LossWindowTable κ numPlanes := ⟨loop.receiver.flows.set flowKey
    { nextWindowId := (loop.receiver.flow flowKey).nextWindowId + 1 }⟩ with receiverEq
  have reset : ∀ plane, (receiver.flow flowKey).planes plane = {} := by
    intro plane
    rw [receiverEq, LossWindowTable.flow_set, if_pos rfl]
  split at returned
  · next empty =>
    cases returned
    refine ⟨reset, receiver, 0, ?_⟩
    rw [if_pos (show snapshotRecords (loop.counters flowKey) = [] from empty)]
  · next busy =>
    cases returned
    refine ⟨reset, receiver, (loop.receiver.flow flowKey).nextWindowId, ?_⟩
    rw [if_neg (show snapshotRecords (loop.counters flowKey) ≠ [] from busy)]
    rfl

/-- A delivered report is fused and gone. -/
theorem next_deliver {position : Nat} {receivedNs : Int}
    (stepped : loop.next flow flowKey (.deliver position receivedNs) = some later) :
    ∃ report, loop.reports[position]? = some report ∧ later = { loop with
      agent := loop.agent.fused report receivedNs
      reports := loop.reports.eraseIdx position
      nowNs := receivedNs } := by
  unfold Loop.next at stepped
  dsimp only at stepped
  split at stepped
  · cases stepped
  · next report held =>
    simp only [Option.ite_none_right_eq_some] at stepped
    obtain ⟨-, returned⟩ := stepped
    cases returned
    exact ⟨report, held, rfl⟩

theorem next_probe {plane : Fin numPlanes} {success : Bool} {rttNs : Int}
    (stepped : loop.next flow flowKey (.probe plane success rttNs) = some later) :
    ∃ table, later = { loop with agent := { loop.agent with table } } ∧
      (table = loop.agent.table ∨
        loop.agent.table.call (probeCall loop.agent.tenant plane success rttNs) = .ok table) := by
  unfold Loop.next at stepped
  dsimp only at stepped
  split at stepped
  · next table called =>
    cases stepped
    exact ⟨table, rfl, Or.inr called⟩
  · cases stepped
    exact ⟨loop.agent.table, rfl, Or.inl rfl⟩

/-- Only a report and a probe result reach the table. -/
theorem next_table (stepped : loop.next flow flowKey action = some later) :
    later.agent.tenant = loop.agent.tenant ∧
      (later.agent.table = loop.agent.table ∨
        (∃ position receivedNs report, action = .deliver position receivedNs ∧
          loop.reports[position]? = some report ∧
          later.agent.table = (loop.agent.fuse report receivedNs).table) ∨
        ∃ plane success rttNs, action = .probe plane success rttNs ∧
          loop.agent.table.call (probeCall loop.agent.tenant plane success rttNs) =
            .ok later.agent.table) := by
  cases action with
  | send =>
      obtain ⟨plane, -, -, rfl⟩ := next_send stepped
      obtain ⟨counters, sentEq⟩ := loop.agent.recordSent_frame plane
      rw [sentEq]
      exact ⟨rfl, Or.inl rfl⟩
  | sendFailed =>
      cases stepped
      exact ⟨rfl, Or.inl rfl⟩
  | arrive position =>
      obtain ⟨packet, -, rfl⟩ := next_arrive stepped
      exact ⟨rfl, Or.inl rfl⟩
  | loseData position =>
      cases stepped
      exact ⟨rfl, Or.inl rfl⟩
  | rotate nowNs =>
      obtain ⟨sentRing, rfl, -⟩ := next_rotate stepped
      exact ⟨rfl, Or.inl rfl⟩
  | snapshot =>
      unfold Loop.next at stepped
      simp only [Option.ite_none_right_eq_some] at stepped
      obtain ⟨-, returned⟩ := stepped
      split at returned
      · cases returned
        exact ⟨rfl, Or.inl rfl⟩
      · split at returned <;> (cases returned; exact ⟨rfl, Or.inl rfl⟩)
  | deliver position receivedNs =>
      obtain ⟨report, held, rfl⟩ := next_deliver stepped
      exact ⟨rfl, Or.inr (Or.inl ⟨position, receivedNs, report, rfl, held, rfl⟩)⟩
  | loseReport position =>
      cases stepped
      exact ⟨rfl, Or.inl rfl⟩
  | probe plane success rttNs =>
      obtain ⟨table, rfl, same | called⟩ := next_probe stepped
      · exact ⟨rfl, Or.inl same⟩
      · exact ⟨rfl, Or.inr (Or.inr ⟨plane, success, rttNs, rfl, called⟩)⟩

end Loop

/-! ## What holds of every reachable state -/

/-- The agent serves its tenant under the given configuration, the receiver's window fits
the wire, and no report in flight has two records of one plane. -/
structure Loop.Healthy (loop : Loop κ numPlanes) (flowKey : κ) (cfg : EVStateConfig) : Prop where
  serves : Serves loop.agent.tenant loop.agent.table
  configured : loop.agent.table.cfg = cfg
  onWire : OnWire (loop.counters flowKey)
  nodup : ∀ report ∈ loop.reports, (report.planes.map fun record => record.planeId.toNat).Nodup

namespace Loop

variable {loop later : Loop κ numPlanes} {flow : FlowKey} {flowKey : κ} {cfg : EVStateConfig}
  {action : LoopAction numPlanes}

/-- A packet that arrives is counted on its plane, or ignored. -/
theorem received_counters (loop : Loop κ numPlanes) (flowKey : κ) (packet : DataPacket) :
    ((loop.received flowKey packet).flow flowKey).planes = loop.counters flowKey ∨
      ∃ index : Fin numPlanes, (index : Nat) = packet.plane.toNat ∧
        ((loop.received flowKey packet).flow flowKey).planes =
          Function.update (loop.counters flowKey) index
            ((loop.counters flowKey index).record packet.seq.toNat) := by
  unfold received
  cases recorded : loop.receiver.record flowKey packet.plane.toNat packet.seq.toNat with
  | error error => exact Or.inl rfl
  | ok receiver =>
      obtain ⟨index, indexEq, -, planes⟩ := LossWindowTable.record_ok recorded
      exact Or.inr ⟨index, by exact_mod_cast indexEq, planes⟩

theorem onWire_received (onWire : OnWire (loop.counters flowKey)) (packet : DataPacket) :
    OnWire ((loop.received flowKey packet).flow flowKey).planes := by
  rcases loop.received_counters flowKey packet with kept | ⟨index, indexEq, moved⟩
  · rw [kept]
    exact onWire
  · rw [moved]
    constructor
    · intro plane
      rw [Function.update_apply]
      split
      · exact (onWire.valid index).record (Int.natCast_nonneg _)
      · exact onWire.valid plane
    · intro plane seen
      rw [Function.update_apply] at seen
      split at seen
      · next here =>
        rw [here, indexEq]
        exact packet.plane.toNat_lt
      · exact onWire.small plane seen

/-- The table part: calls on a served tenant keep it served. -/
theorem Healthy.next_serves (healthy : loop.Healthy flowKey cfg)
    (stepped : loop.next flow flowKey action = some later) :
    Serves later.agent.tenant later.agent.table ∧ later.agent.table.cfg = cfg := by
  obtain ⟨tenantEq, same | ⟨position, receivedNs, report, -, -, fusedEq⟩ |
    ⟨plane, success, rttNs, -, called⟩⟩ := next_table stepped
  · rw [tenantEq, same]
    exact ⟨healthy.serves, healthy.configured⟩
  · rw [tenantEq]
    constructor
    · obtain ⟨stats, fuseEq⟩ := loop.agent.fuse_eq report receivedNs
      rw [fusedEq, fuseEq]
      exact applyRecords_serves healthy.serves report.planes
    · rw [fusedEq]
      exact (loop.agent.fused_frame report receivedNs).trans healthy.configured
  · rw [tenantEq]
    exact ⟨healthy.serves.call called,
      (EVStateTable.call_frame called).2.1.trans healthy.configured⟩

theorem Healthy.next (healthy : loop.Healthy flowKey cfg)
    (stepped : loop.next flow flowKey action = some later) : later.Healthy flowKey cfg := by
  obtain ⟨serves, configured⟩ := healthy.next_serves stepped
  obtain ⟨-, -, onWire, nodup⟩ := healthy
  refine ⟨serves, configured, ?_, ?_⟩
  · cases action with
    | send =>
        obtain ⟨plane, -, -, rfl⟩ := next_send stepped
        exact onWire
    | arrive position =>
        obtain ⟨packet, -, rfl⟩ := next_arrive stepped
        exact onWire_received onWire packet
    | rotate nowNs =>
        obtain ⟨sentRing, rfl, -⟩ := next_rotate stepped
        exact onWire
    | snapshot =>
        obtain ⟨blank, -⟩ := next_snapshot onWire stepped
        rw [show later.counters flowKey = fun _ => {} from funext blank]
        exact OnWire.blank
    | deliver position receivedNs =>
        obtain ⟨report, -, rfl⟩ := next_deliver stepped
        exact onWire
    | probe plane success rttNs =>
        obtain ⟨table, rfl, -⟩ := next_probe stepped
        exact onWire
    | sendFailed => cases stepped; exact onWire
    | loseData position => cases stepped; exact onWire
    | loseReport position => cases stepped; exact onWire
  · intro report mem
    cases action with
    | send =>
        obtain ⟨plane, -, -, rfl⟩ := next_send stepped
        exact nodup report mem
    | arrive position =>
        obtain ⟨packet, -, rfl⟩ := next_arrive stepped
        exact nodup report mem
    | rotate nowNs =>
        obtain ⟨sentRing, rfl, -⟩ := next_rotate stepped
        exact nodup report mem
    | snapshot =>
        obtain ⟨-, receiver, windowId, rfl⟩ := next_snapshot onWire stepped
        dsimp only at mem
        split at mem
        · exact nodup report mem
        · rcases List.mem_append.mp mem with earlier | new
          · exact nodup report earlier
          · rw [List.mem_singleton.mp new]
            exact onWire.nodup_snapshotRecords
    | deliver position receivedNs =>
        obtain ⟨held, -, rfl⟩ := next_deliver stepped
        exact nodup report (List.mem_of_mem_eraseIdx mem)
    | probe plane success rttNs =>
        obtain ⟨table, rfl, -⟩ := next_probe stepped
        exact nodup report mem
    | sendFailed => cases stepped; exact nodup report mem
    | loseData position => cases stepped; exact nodup report mem
    | loseReport position => cases stepped; exact nodup report (List.mem_of_mem_eraseIdx mem)

theorem fresh_healthy {topo : Topo} {tenants : List String} {table : EVStateTable topo.numPlanes}
    {tenant : String} {srcId dstId : Int} {agentCfg : AgentConfig} {startNs : Int}
    {agent : SenderMrcAgent topo.numPlanes}
    (built : EVStateTable.init tenants topo.numPlanes cfg = .ok table)
    (constructed : SenderMrcAgent.init topo tenant srcId dstId table agentCfg startNs = .ok agent) :
    (fresh agent startNs : Loop κ topo.numPlanes).Healthy flowKey cfg := by
  obtain ⟨known, rfl, rfl, -⟩ := init_agent constructed
  exact ⟨⟨EVStateTable.init_sound built, known⟩, (EVStateTable.init_ok built).2.2.1, OnWire.blank,
    by simp [fresh]⟩

end Loop

/-! ## A fresh loop on two planes -/

/-- The loop of host 0's agent at time 0; the receiver keys the flow by tenant, source and
destination. -/
def greenLoop : Loop (Nat × Nat × Nat) 2 := .fresh (greenAgent 2 7) 0

/-- A run of the loop from its start. -/
def greenRun (actions : List (LoopAction 2)) : Option (Loop (Nat × Nat × Nat) 2) :=
  (closedLoop FlowKey.greenFlow (1, 0, 7) greenLoop).run greenLoop actions

end Srv6Fabric.Mrc

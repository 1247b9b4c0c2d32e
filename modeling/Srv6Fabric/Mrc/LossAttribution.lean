import Srv6Fabric.Mrc.AgentRuns
import Srv6Fabric.Mrc.LossWindow

/-!
# Loss from the sender's counters to the state machine

The value crosses four components: sender counters, receiver counters, the report
codec, and the pairing of windows.  `Delivered` relates the counters at the two ends;
what a snapshot of such counters does to the table is computed once, for any table.
-/

namespace Srv6Fabric.Mrc

open Srv6Fabric.Library

variable {numPlanes : Nat}

/-! ## The sender's counters -/

/-- `record_sent` for each of a list of packets. -/
def SenderMrcAgent.sendAll (agent : SenderMrcAgent numPlanes) (packets : List DataPacket) :
    SenderMrcAgent numPlanes :=
  packets.foldl (fun agent packet => agent.recordSent packet.plane.toNat) agent

theorem SenderMrcAgent.recordSent_counter (agent : SenderMrcAgent numPlanes) (sentOn : Nat)
    (plane : Fin numPlanes) :
    (agent.recordSent sentOn).currentWindowSent plane =
      agent.currentWindowSent plane + if sentOn = plane then 1 else 0 := by
  unfold SenderMrcAgent.recordSent
  cases checked : checkPlane numPlanes sentOn with
  | ok index =>
      have same : (index : Nat) = sentOn := by exact_mod_cast checkPlane_ok checked
      dsimp only
      rw [Function.update_apply, ← same]
      rcases eq_or_ne plane index with rfl | away
      · simp
      · simp [away, Fin.val_inj, away.symm]
  | error error =>
      have outside : sentOn ≠ plane := by
        rintro rfl
        rw [checkPlane_fin] at checked
        cases checked
      simp [outside]

theorem SenderMrcAgent.sendAll_counter (agent : SenderMrcAgent numPlanes)
    (packets : List DataPacket) (plane : Fin numPlanes) :
    (agent.sendAll packets).currentWindowSent plane =
      agent.currentWindowSent plane + packetsOn packets plane := by
  induction packets generalizing agent with
  | nil => rfl
  | cons packet rest ih =>
      change ((agent.recordSent packet.plane.toNat).sendAll rest).currentWindowSent plane = _
      rw [ih, recordSent_counter, packetsOn, packetsOn, List.countP_cons]
      simp only [decide_eq_true_eq]
      omega

/-! ## Both ends of one window -/

/-- A snapshot of these counters fits the wire. -/
structure OnWire (counters : Fin numPlanes → PlaneCounters) : Prop where
  valid : ∀ plane, (counters plane).Valid
  small : ∀ plane, (counters plane).seen ≠ 0 → (plane : Nat) < 256

/-- The receiver's counters for a window of which the sender counted `sent`. -/
structure Delivered (counters : Fin numPlanes → PlaneCounters) (sent : Fin numPlanes → Nat) : Prop
    extends OnWire counters where
  covered : ∀ plane, (counters plane).seen ≤ sent plane
  few : ∀ plane, (counters plane).seen ≤ u32Max

/-- The planes of a snapshot. -/
def activePlanes (counters : Fin numPlanes → PlaneCounters) : List (Fin numPlanes) :=
  (List.finRange numPlanes).filter fun plane => (counters plane).seen ≠ 0

theorem mem_activePlanes {counters : Fin numPlanes → PlaneCounters} {plane : Fin numPlanes} :
    plane ∈ activePlanes counters ↔ (counters plane).seen ≠ 0 := by
  simp [activePlanes]

theorem nodup_activePlanes (counters : Fin numPlanes → PlaneCounters) :
    (activePlanes counters).Nodup :=
  (List.nodup_finRange numPlanes).filter _

/-- The records of a snapshot. -/
def snapshotRecords (counters : Fin numPlanes → PlaneCounters) : List PlaneLossRecord :=
  (activePlanes counters).map fun plane => (counters plane).wire plane

/-- The loss of one plane's window as the state machine is told. -/
def windowLoss (counters : Fin numPlanes → PlaneCounters) (sent : Fin numPlanes → Nat)
    (plane : Fin numPlanes) : ℚ :=
  EVStateTable.lossRatio (counters plane).seen (sent plane)

theorem PlaneCounters.Valid.seen_nonneg {counters : PlaneCounters} (valid : counters.Valid) :
    0 ≤ counters.seen := by
  rcases valid.bounds with ⟨blank, -⟩ | ⟨positive, -⟩
  · exact blank.ge
  · exact positive.le

namespace OnWire

variable {counters : Fin numPlanes → PlaneCounters}

theorem blank : OnWire fun _ : Fin numPlanes => {} :=
  ⟨fun _ => PlaneCounters.valid_blank, fun _ seen => absurd rfl seen⟩

theorem snapshotPlanes (onWire : OnWire counters) :
    Mrc.snapshotPlanes counters (List.finRange numPlanes) = .ok (snapshotRecords counters) :=
  snapshotPlanes_eq onWire.valid onWire.small _

theorem wire_planeId (onWire : OnWire counters) {plane : Fin numPlanes}
    (active : (counters plane).seen ≠ 0) : ((counters plane).wire plane).planeId.toNat = plane := by
  rw [PlaneCounters.wire]
  exact UInt8.toNat_ofNat_of_lt' (onWire.small plane active)

/-- A snapshot has one record for each active plane. -/
theorem planeIds_snapshotRecords (onWire : OnWire counters) :
    (snapshotRecords counters).map (fun record => record.planeId.toNat) =
      (activePlanes counters).map Fin.val := by
  rw [snapshotRecords, List.map_map]
  exact List.map_congr_left fun plane mem => onWire.wire_planeId (mem_activePlanes.mp mem)

theorem nodup_snapshotRecords (onWire : OnWire counters) :
    ((snapshotRecords counters).map fun record => record.planeId.toNat).Nodup := by
  rw [onWire.planeIds_snapshotRecords]
  exact (nodup_activePlanes counters).map Fin.val_injective

/-- Active planes are below 256, so their records fit one report. -/
theorem length_snapshotRecords (onWire : OnWire counters) :
    (snapshotRecords counters).length ≤ 256 := by
  have small : ∀ plane ∈ (activePlanes counters).map Fin.val, plane ∈ List.range 256 := by
    intro plane mem
    obtain ⟨index, active, rfl⟩ := List.mem_map.mp mem
    exact List.mem_range.mpr (onWire.small index (mem_activePlanes.mp active))
  have nodup : ((activePlanes counters).map Fin.val).Nodup :=
    (nodup_activePlanes counters).map Fin.val_injective
  have bound := (List.subperm_of_subset nodup small).length_le
  simpa [snapshotRecords] using bound

end OnWire

namespace Delivered

variable {counters : Fin numPlanes → PlaneCounters} {sent : Fin numPlanes → Nat}

theorem wire_seen (delivered : Delivered counters sent) (plane : Fin numPlanes) :
    (((counters plane).wire plane).seen.toNat : Int) = (counters plane).seen := by
  have nonneg := (delivered.valid plane).seen_nonneg
  have few := delivered.few plane
  rw [PlaneCounters.wire, min_eq_left few]
  dsimp only
  rw [UInt32.toNat_ofNat_of_lt', Int.toNat_of_nonneg nonneg]
  rw [u32Max] at few
  change (counters plane).seen.toNat < 2 ^ 32
  omega

/-- One record against the paired window: one call, with the sender's own counter. -/
theorem applyRecord (delivered : Delivered counters sent) {tenant : String} {window : SentWindow}
    (counted : window.sent = List.ofFn sent) {state : Fusion numPlanes}
    (serves : Serves tenant state.table) {plane : Fin numPlanes}
    (active : (counters plane).seen ≠ 0) :
    Mrc.applyRecord tenant (some window) state ((counters plane).wire plane) = { state with
      table := state.table.applySignal tenant plane
        (.lossWindow (windowLoss counters sent plane))
      stats := state.stats.updated true
      calls := state.calls ++ [.loss tenant (plane : Nat) (counters plane).seen (sent plane)] } := by
  have nonneg := (delivered.valid plane).seen_nonneg
  have positive : 0 < sent plane := by
    have covered := delivered.covered plane
    omega
  have seenEq := delivered.wire_seen plane
  have reported : ¬ (((counters plane).wire plane).seen = 0 ∧
      ((counters plane).wire plane).expected = 0) := by
    rintro ⟨none_, -⟩
    rw [none_] at seenEq
    exact active seenEq.symm
  have divided : denominator (some window) ((counters plane).wire plane) =
      .ok (sent plane, true) := by
    simp [denominator, counted, delivered.wire_planeId active, positive]
  have returned := EVStateTable.loss_returns serves.find? plane nonneg
    (show (0 : Int) < sent plane by exact_mod_cast positive)
  simp only [Mrc.applyRecord, if_neg reported, divided, if_neg positive.ne',
    delivered.wire_planeId active, seenEq, returned]
  rfl

theorem applyRecords (delivered : Delivered counters sent) {tenant : String}
    {window : SentWindow} (counted : window.sent = List.ofFn sent) {planes : List (Fin numPlanes)}
    (active : ∀ plane ∈ planes, (counters plane).seen ≠ 0) {state : Fusion numPlanes}
    (serves : Serves tenant state.table) (quiet : state.raised = none) :
    ∃ stats, Mrc.applyRecords tenant (some window) state
        (planes.map fun plane => (counters plane).wire plane) =
      { table := state.table.applySignals tenant
          (fun plane => .lossWindow (windowLoss counters sent plane)) planes
        stats
        calls := state.calls ++ planes.map fun plane =>
          .loss tenant (plane : Nat) (counters plane).seen (sent plane)
        raised := none } := by
  induction planes generalizing state with
  | nil =>
      refine ⟨state.stats, ?_⟩
      simp [applyRecords_nil, EVStateTable.applySignals, ← quiet]
  | cons plane rest ih =>
      have step := delivered.applyRecord counted serves (active plane List.mem_cons_self)
      obtain ⟨stats, later⟩ := @ih
        (fun other mem => active other (List.mem_cons_of_mem _ mem))
        (Mrc.applyRecord tenant (some window) state ((counters plane).wire plane))
        (by rw [step]; exact serves.applySignal plane _) (by rw [step]; exact quiet)
      refine ⟨stats, ?_⟩
      have running : (Mrc.applyRecord tenant (some window) state
          ((counters plane).wire plane)).raised.isSome = false := by
        rw [step, quiet]
        rfl
      rw [List.map_cons, applyRecords_cons]
      simp only [running, Bool.false_eq_true, if_false]
      rw [later, step]
      simp [EVStateTable.applySignals]

/-- A report of the snapshot, paired with the sender's window: one call for each active
plane, and its signals to the table. -/
theorem fuse (delivered : Delivered counters sent) {agent : SenderMrcAgent numPlanes}
    (serves : Serves agent.tenant agent.table) {nowNs : Int} {window : SentWindow}
    (paired : agent.pairedWindow nowNs = some window) (counted : window.sent = List.ofFn sent)
    {report : LossReport} (records : report.planes = snapshotRecords counters) :
    (agent.fuse report nowNs).raised = none ∧
      (agent.fuse report nowNs).calls = ((activePlanes counters).map fun plane =>
        .loss agent.tenant (plane : Nat) (counters plane).seen (sent plane)) ∧
      (agent.fuse report nowNs).table = agent.table.applySignals agent.tenant
        (fun plane => .lossWindow (windowLoss counters sent plane)) (activePlanes counters) := by
  obtain ⟨before, fuseEq⟩ := agent.fuse_eq report nowNs
  obtain ⟨after, applied⟩ := delivered.applyRecords counted
    (fun plane mem => mem_activePlanes.mp mem)
    (show Serves agent.tenant ({ table := agent.table, stats := before } : Fusion numPlanes).table
      from serves) rfl
  rw [fuseEq, records, paired, snapshotRecords, applied]
  exact ⟨rfl, rfl, rfl⟩

end Delivered

namespace LossWindowTable

variable {κ : Type} [DecidableEq κ]

/-- A snapshot of a flow whose counters fit the wire. -/
theorem snapshotAndReset_onWire {table : LossWindowTable κ numPlanes} {flowKey : κ}
    (onWire : OnWire (table.flow flowKey).planes) :
    table.snapshotAndReset flowKey =
      (⟨table.flows.set flowKey { nextWindowId := (table.flow flowKey).nextWindowId + 1 }⟩,
        .ok ⟨(table.flow flowKey).nextWindowId, snapshotRecords (table.flow flowKey).planes⟩) := by
  simp only [snapshotAndReset, onWire.snapshotPlanes]

end LossWindowTable

theorem packetsOn_le_of_subperm {arrivals packets : List DataPacket}
    (subset : arrivals.Subperm packets) (plane : Nat) :
    packetsOn arrivals plane ≤ packetsOn packets plane :=
  subset.countP_le _

theorem lossRatio_of_le {seen sent : Nat} (covered : seen ≤ sent) :
    EVStateTable.lossRatio seen sent = ((sent : ℚ) - seen) / sent := by
  rw [EVStateTable.lossRatio, min_eq_left (by exact_mod_cast covered)]
  push_cast
  rfl

/-- A plane on which a packet arrived has a `u8` number. -/
theorem lt_of_packetsOn {packets : List DataPacket} {plane : Nat}
    (some_ : packetsOn packets plane ≠ 0) : plane < 256 := by
  obtain ⟨packet, -, same⟩ := List.countP_pos_iff.mp (Nat.pos_of_ne_zero some_)
  rw [← of_decide_eq_true same]
  exact packet.plane.toNat_lt

/-- Counters of a blank window into which a sub-multiset of the sender's packets was
recorded. -/
theorem delivered_of_recordAll {κ : Type} [DecidableEq κ]
    {receiver recorded : LossWindowTable κ numPlanes} {flowKey : κ}
    {packets arrivals : List DataPacket}
    (blank : ∀ plane, (receiver.flow flowKey).planes plane = {})
    (subset : arrivals.Subperm packets)
    (record : receiver.recordAll flowKey arrivals = .ok recorded)
    (few : ∀ plane : Fin numPlanes, packetsOn arrivals plane < 2 ^ 32) :
    Delivered (recorded.flow flowKey).planes
        (fun plane : Fin numPlanes => packetsOn packets plane) ∧
      ∀ plane : Fin numPlanes,
        ((recorded.flow flowKey).planes plane).seen = packetsOn arrivals plane := by
  have counters : ∀ plane : Fin numPlanes,
      ((recorded.flow flowKey).planes plane).Valid ∧
        ((recorded.flow flowKey).planes plane).seen = packetsOn arrivals plane := by
    intro plane
    have ends := LossWindowTable.recordAll_ok record
      (fun other => by rw [blank other]; exact PlaneCounters.valid_blank) plane
    rw [blank plane] at ends
    simpa using ends
  refine ⟨⟨⟨fun plane => (counters plane).1, ?_⟩, ?_, ?_⟩, fun plane => (counters plane).2⟩
  · intro plane active
    rw [(counters plane).2] at active
    exact lt_of_packetsOn (by exact_mod_cast active)
  · intro plane
    rw [(counters plane).2]
    exact_mod_cast packetsOn_le_of_subperm subset plane
  · intro plane
    have bound := few plane
    rw [(counters plane).2, u32Max]
    omega

/-- End-to-end attribution.  The sender counted `packets` in one window, the receiver
recorded `arrivals` among them in one of its own, and the report reaches the agent when
that sent window is the one it pairs: every plane with an arrival gets exactly one call,
with the exact ratio of its own packets, and no other plane is touched. -/
theorem loss_attributed {κ : Type} [DecidableEq κ] {topo : Topo} {tenants : List String}
    {evCfg : EVStateConfig} {table : EVStateTable topo.numPlanes} {tenant : String}
    {srcId dstId : Int} {cfg : AgentConfig} {startNs : Int} {agent : SenderMrcAgent topo.numPlanes}
    (built : EVStateTable.init tenants topo.numPlanes evCfg = .ok table)
    (constructed : SenderMrcAgent.init topo tenant srcId dstId table cfg startNs = .ok agent)
    {sender : SenderMrcAgent topo.numPlanes} (opened : ∀ plane, sender.currentWindowSent plane = 0)
    (packets : List DataPacket) (closeNs : Int)
    {receiver recorded : LossWindowTable κ topo.numPlanes} {flowKey : κ}
    (blank : ∀ plane, (receiver.flow flowKey).planes plane = {}) {arrivals : List DataPacket}
    (subset : arrivals.Subperm packets)
    (record : receiver.recordAll flowKey arrivals = .ok recorded)
    (few : ∀ plane : Fin topo.numPlanes, packetsOn arrivals plane < 2 ^ 32)
    {run : AgentRun topo.numPlanes} (reachable : (agentMachine agent startNs).Reachable run)
    {nowNs : Int}
    (paired : run.agent.pairedWindow nowNs = some ((sender.sendAll packets).closedWindow closeNs)) :
    ∃ report payload, (recorded.snapshotAndReset flowKey).2 = .ok report ∧
      encodeLossReport report.windowId.toNat report.planes = .ok payload ∧
      decodeLossReport payload = .ok report ∧
      let fusion := run.agent.fuse report nowNs
      fusion.raised = none ∧
      fusion.calls = ((List.finRange topo.numPlanes).filter fun plane : Fin topo.numPlanes =>
        packetsOn arrivals plane ≠ 0).map (fun plane : Fin topo.numPlanes =>
          .loss run.agent.tenant (plane : Nat) (packetsOn arrivals plane)
            (packetsOn packets plane)) ∧
      (∀ plane : Fin topo.numPlanes, packetsOn arrivals plane ≠ 0 →
        (fusion.table.row run.agent.tenant plane).lastLossRatio =
          ((packetsOn packets plane : ℚ) - packetsOn arrivals plane) / packetsOn packets plane) ∧
      ∀ plane : Fin topo.numPlanes, packetsOn arrivals plane = 0 →
        fusion.table.row run.agent.tenant plane = run.agent.table.row run.agent.tenant plane := by
  have serves := (reachable_healthy built constructed reachable).serves
  -- The counters at the two ends of the window.
  have counted : ((sender.sendAll packets).closedWindow closeNs).sent =
      List.ofFn fun plane : Fin topo.numPlanes => packetsOn packets plane := by
    refine congrArg List.ofFn (funext fun plane => ?_)
    rw [SenderMrcAgent.sendAll_counter, opened, Nat.zero_add]
  obtain ⟨delivered, seenEq⟩ := delivered_of_recordAll blank subset record few
  have active : ∀ plane, ((recorded.flow flowKey).planes plane).seen ≠ 0 ↔
      packetsOn arrivals plane ≠ 0 := by
    intro plane
    rw [seenEq]
    exact_mod_cast Iff.rfl
  -- Snapshot, codec and fusion.
  set report : LossReport :=
    ⟨(recorded.flow flowKey).nextWindowId, snapshotRecords (recorded.flow flowKey).planes⟩
    with reportEq
  obtain ⟨payload, encoded, decoded⟩ := decodeLossReport_of_encodeLossReport report
    (le_trans delivered.length_snapshotRecords (by decide))
  obtain ⟨completes, calls, tableEq⟩ :=
    delivered.fuse serves paired counted (show report.planes = _ from rfl)
  refine ⟨report, payload, ?_, encoded, decoded, completes, ?_, ?_, ?_⟩
  · rw [LossWindowTable.snapshotAndReset_onWire delivered.toOnWire]
  · rw [calls]
    simp only [activePlanes, seenEq, ne_eq, Nat.cast_eq_zero]
  · intro plane arrived
    obtain ⟨permitted, rowEq⟩ := EVStateTable.applySignals_row_of_mem run.agent.table
      run.agent.tenant (fun plane => .lossWindow (windowLoss (recorded.flow flowKey).planes
        (fun plane : Fin topo.numPlanes => packetsOn packets plane) plane))
      (nodup_activePlanes _) (mem_activePlanes.mpr ((active plane).mpr arrived))
    rw [tableEq, rowEq, EVStateTable.nextRecord_lastLossRatio, windowLoss, seenEq]
    exact lossRatio_of_le (packetsOn_le_of_subperm subset plane)
  · intro plane silent
    have idle : plane ∉ activePlanes (recorded.flow flowKey).planes := fun mem =>
      (active plane).mp (mem_activePlanes.mp mem) silent
    rw [tableEq, EVStateTable.applySignals_row_of_not_mem idle]

/-- Three packets, of which the first is lost, and the receiver's window for the others. -/
def threePackets : List DataPacket := [⟨0, 1⟩, ⟨1, 1⟩, ⟨2, 0⟩]

/-- The sender's side: the packets, the end of the window, and time until the report. -/
def threePacketsSent : List (AgentAction 4) := [.sent 1, .sent 1, .sent 0, .rotate 200000000]

/-- Half of plane 1 is lost, none of plane 0. -/
theorem loss_attributed_three_packets :
    ∃ (run : AgentRun 4) (recorded : LossWindowTable Unit 4) (report : LossReport),
      (agentMachine (greenAgent 4 15) 0).run ⟨greenAgent 4 15, 0⟩ threePacketsSent = some run ∧
      LossWindowTable.recordAll ⟨.empty⟩ () [⟨2, 0⟩, ⟨1, 1⟩] = .ok recorded ∧
      (recorded.snapshotAndReset ()).2 = .ok report ∧
      ((run.agent.fuse report 250000000).table.row run.agent.tenant 1).lastLossRatio = 1 / 2 := by
  obtain ⟨run, ran⟩ : ∃ run, (agentMachine (greenAgent 4 15) 0).run ⟨greenAgent 4 15, 0⟩
      threePacketsSent = some run := ⟨_, rfl⟩
  have recorded : LossWindowTable.recordAll (⟨.empty⟩ : LossWindowTable Unit 4) ()
      [⟨2, 0⟩, ⟨1, 1⟩] = .ok (_ : LossWindowTable Unit 4) := rfl
  have paired : run.agent.pairedWindow 250000000 =
      some (((greenAgent 4 15).sendAll threePackets).closedWindow 200000000) := by
    cases ran
    decide +kernel
  obtain ⟨report, payload, snapped, -, -, -, -, ratios, -⟩ :=
    loss_attributed init_greenTable_four init_greenAgent_four (fun _ => rfl) threePackets 200000000
      (fun _ => rfl) (by decide) recorded (by decide) ⟨threePacketsSent, ran⟩ paired
  refine ⟨run, _, report, ran, recorded, snapped, (ratios (1 : Fin 4) (by decide)).trans ?_⟩
  have sent : packetsOn threePackets 1 = 2 := by decide
  have arrived : packetsOn [⟨2, 0⟩, ⟨1, 1⟩] 1 = 1 := by decide
  norm_num [sent, arrived]

end Srv6Fabric.Mrc

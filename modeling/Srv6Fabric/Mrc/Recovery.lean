import Mathlib.Data.List.Perm.Basic
import Srv6Fabric.Mrc.ClosedLoop
import Srv6Fabric.Mrc.EvStateHistory

/-!
# Recovery on a healed fabric

A round of a perfect fabric sends data over every plane the spray uses, closes the
window at both ends, applies the report and probes every plane.  Once the traffic of
the lossy past has drained, such rounds decide exactly which planes come back.
-/

namespace Srv6Fabric.Mrc

open Srv6Fabric.Library
open Srv6Fabric.Policy

variable {κ : Type} [DecidableEq κ] {numPlanes : Nat}

/-! ## Rounds -/

namespace Loop

/-- Nothing is in flight and both ends have just cut their windows. -/
structure Settled (loop : Loop κ numPlanes) (flowKey : κ) : Prop where
  data : loop.data = []
  reports : loop.reports = []
  sent : ∀ plane, loop.agent.currentWindowSent plane = 0
  seen : ∀ plane, loop.counters flowKey plane = {}

/-- Sending and receiving data without a loss. -/
def traffic (flowKey : κ) (loop : Loop κ numPlanes) (action : LoopAction numPlanes) : Bool :=
  loop.lossFree flowKey action &&
    match action with
    | .send | .sendFailed | .arrive _ => true
    | _ => false

end Loop

/-- Demoted with a loss signal that is not quiet. -/
def PlaneRecord.Trapped (record : PlaneRecord) : Prop :=
  record.state = .assumedBad ∧ record.consecutiveLossDemoteWindows ≠ 0

/-- One round of a perfect fabric: data, all of it received; both windows closed; the
report, which is not empty, delivered and paired with that window; every plane probed
once.  `sent` is what the window counted. -/
inductive Round (flow : FlowKey) (flowKey : κ) (sent : Fin numPlanes → Nat) :
    Loop κ numPlanes → Loop κ numPlanes → Prop
  | mk {before busy closed snapshotted fused after : Loop κ numPlanes}
      {actions : List (LoopAction numPlanes)} {closeNs receivedNs : Int}
      {order : List (Fin numPlanes)} {rttNs : Fin numPlanes → Int}
      (sprayed : (closedLoop flow flowKey before).run before actions = some busy)
      (lossless : (closedLoop flow flowKey before).along (Loop.traffic flowKey) before actions)
      (arrived : busy.data = []) (window : busy.agent.currentWindowSent = sent)
      (few : ∀ plane, sent plane < 2 ^ 32)
      (rotated : busy.next flow flowKey (.rotate closeNs) = some closed)
      (snapped : closed.next flow flowKey .snapshot = some snapshotted)
      (paired : snapshotted.agent.pairedWindow receivedNs = some (busy.agent.closedWindow closeNs))
      (delivered : snapshotted.next flow flowKey (.deliver 0 receivedNs) = some fused)
      (all : order.Perm (List.finRange numPlanes)) (nonneg : ∀ plane, 0 ≤ rttNs plane)
      (answered : (closedLoop flow flowKey before).run fused
        (order.map fun plane => .probe plane true (rttNs plane)) = some after) :
      Round flow flowKey sent before after

/-- Rounds in a row, with what each of them sent, the last one first. -/
inductive Rounds (flow : FlowKey) (flowKey : κ) :
    List (Fin numPlanes → Nat) → Loop κ numPlanes → Loop κ numPlanes → Prop
  | nil (loop : Loop κ numPlanes) : Rounds flow flowKey [] loop loop
  | cons {sent : Fin numPlanes → Nat} {earlier : List (Fin numPlanes → Nat)}
      {start middle last : Loop κ numPlanes} (before : Rounds flow flowKey earlier start middle)
      (round : Round flow flowKey sent middle last) :
      Rounds flow flowKey (sent :: earlier) start last

/-! ## Traffic -/

/-- A packet leaves the network. -/
theorem packetsOn_eraseIdx {packets : List DataPacket} {position : Nat} {packet : DataPacket}
    (held : packets[position]? = some packet) (plane : Nat) :
    packetsOn packets plane =
      packetsOn (packets.eraseIdx position) plane + if packet.plane.toNat = plane then 1 else 0 := by
  obtain ⟨inRange, rfl⟩ := List.getElem?_eq_some_iff.mp held
  have split := (List.getElem_cons_eraseIdx_perm inRange).countP_eq
    fun packet => decide (packet.plane.toNat = plane)
  rw [packetsOn, packetsOn, ← split, List.countP_cons]
  simp

theorem packetsOn_append (first second : List DataPacket) (plane : Nat) :
    packetsOn (first ++ second) plane = packetsOn first plane + packetsOn second plane :=
  List.countP_append

namespace Loop

/-- What traffic without loss keeps, from a settled state on: only counters move, and
what the sender counted is received or in flight. -/
structure Balanced (before loop : Loop κ numPlanes) (flowKey : κ) : Prop where
  agent : ∃ counters, loop.agent = { before.agent with currentWindowSent := counters }
  reports : loop.reports = []
  sent : ∀ plane, (loop.counters flowKey plane).seen + packetsOn loop.data plane =
    loop.agent.currentWindowSent plane
  usable : ∀ plane, loop.agent.currentWindowSent plane ≠ 0 →
    (before.row plane).state ≠ .assumedBad

variable {before loop later : Loop κ numPlanes} {flow : FlowKey} {flowKey : κ}
  {cfg : EVStateConfig}

theorem Settled.balanced (settled : before.Settled flowKey) : before.Balanced before flowKey := by
  refine ⟨⟨before.agent.currentWindowSent, rfl⟩, settled.reports, ?_, ?_⟩
  · intro plane
    rw [settled.seen, settled.sent, settled.data]
    rfl
  · intro plane busy
    exact absurd (settled.sent plane) busy

theorem Balanced.row (balanced : before.Balanced loop flowKey) : loop.row = before.row := by
  obtain ⟨counters, agentEq⟩ := balanced.agent
  rw [Loop.row, Loop.row, agentEq]

theorem packetsOn_singleton (packet : DataPacket) (plane : Nat) :
    packetsOn [packet] plane = if packet.plane.toNat = plane then 1 else 0 := by
  simp [packetsOn, List.countP_cons]

/-- A packet that is recorded moves the counter of its plane by one. -/
theorem received_seen {packet : DataPacket}
    (recorded : (loop.receiver.record flowKey packet.plane.toNat packet.seq.toNat).toOption.isSome)
    (plane : Fin numPlanes) :
    (((loop.received flowKey packet).flow flowKey).planes plane).seen =
      (loop.counters flowKey plane).seen + if packet.plane.toNat = plane then 1 else 0 := by
  unfold received
  cases stored : loop.receiver.record flowKey packet.plane.toNat packet.seq.toNat with
  | error error =>
      rw [stored] at recorded
      cases recorded
  | ok receiver =>
      obtain ⟨index, indexEq, -, planes⟩ := LossWindowTable.record_ok stored
      have indexNat : packet.plane.toNat = index := by exact_mod_cast indexEq.symm
      dsimp only
      rw [planes, Function.update_apply, indexNat]
      rcases eq_or_ne plane index with rfl | away
      · simp [PlaneCounters.record, counters]
      · simp [away, Fin.val_inj, away.symm, counters]

theorem Balanced.next (balanced : before.Balanced loop flowKey) (healthy : loop.Healthy flowKey cfg)
    {action : LoopAction numPlanes} (fair : loop.traffic flowKey action)
    (stepped : loop.next flow flowKey action = some later) : before.Balanced later flowKey := by
  have rowEq := balanced.row
  obtain ⟨⟨counters, agentEq⟩, reports, sent, usable⟩ := balanced
  cases action with
  | send =>
      obtain ⟨picked, pickEq, small, rfl⟩ := next_send stepped
      obtain ⟨weights, plane, -, -, -, planeEq, active⟩ := healthAwareMrcPick_usable
        healthy.serves.sound healthy.serves.known loop.seq flow
      obtain rfl : picked = (plane : Nat) := Except.ok.inj (pickEq.symm.trans planeEq)
      obtain ⟨moved, sentEq⟩ := loop.agent.recordSent_frame ((plane : Nat) : Int)
      have counted := loop.agent.recordSent_counter plane
      have labelled : (UInt8.ofNat ((plane : Nat) : Int).toNat).toNat = plane := by
        rw [Int.toNat_natCast]
        exact UInt8.toNat_ofNat_of_lt' (by exact_mod_cast small)
      refine ⟨⟨moved, by rw [sentEq, agentEq]⟩, reports, ?_, ?_⟩
      · intro other
        rw [counted, packetsOn_append, packetsOn_singleton, labelled]
        have earlier := sent other
        simp only [Loop.counters] at earlier ⊢
        push_cast
        omega
      · intro other busy
        rw [counted] at busy
        split at busy
        · next here =>
          rw [← rowEq, ← Fin.ext here]
          exact active
        · exact usable other busy
  | sendFailed =>
      cases stepped
      exact ⟨⟨counters, agentEq⟩, reports, sent, usable⟩
  | arrive position =>
      obtain ⟨packet, held, rfl⟩ := next_arrive stepped
      have recorded : (loop.receiver.record flowKey packet.plane.toNat
          packet.seq.toNat).toOption.isSome := by
        simpa [traffic, lossFree, held] using fair
      refine ⟨⟨counters, agentEq⟩, reports, ?_, usable⟩
      intro plane
      have earlier := sent plane
      rw [packetsOn_eraseIdx held] at earlier
      simp only [Loop.counters, received_seen recorded] at earlier ⊢
      rw [← earlier]
      push_cast
      ring
  | loseData position => cases fair
  | rotate nowNs => cases fair
  | snapshot => cases fair
  | deliver position nowNs => cases fair
  | loseReport position => cases fair
  | probe plane success rttNs => simp [traffic] at fair

/-- Once the traffic of a round has arrived, the receiver has seen what the sender counted. -/
theorem Settled.traffic {actions : List (LoopAction numPlanes)} {busy : Loop κ numPlanes}
    (settled : before.Settled flowKey) (healthy : before.Healthy flowKey cfg)
    (sprayed : (closedLoop flow flowKey before).run before actions = some busy)
    (lossless : (closedLoop flow flowKey before).along (Loop.traffic flowKey) before actions)
    (arrived : busy.data = []) :
    busy.Healthy flowKey cfg ∧ before.Balanced busy flowKey ∧
      ∀ plane, (busy.counters flowKey plane).seen = busy.agent.currentWindowSent plane := by
  obtain ⟨busyHealthy, balanced⟩ := Machine.along_invariant
    (motive := fun loop => Loop.Healthy loop flowKey cfg ∧ Loop.Balanced before loop flowKey)
    (fun loop action next held fair stepped =>
      ⟨held.1.next stepped, held.2.next held.1 fair stepped⟩)
    lossless sprayed ⟨healthy, settled.balanced⟩
  refine ⟨busyHealthy, balanced, ?_⟩
  intro plane
  have sent := balanced.sent plane
  rw [arrived] at sent
  simpa [packetsOn] using sent

/-- Answered probes are one signal for each plane. -/
theorem run_probes {start : Loop κ numPlanes} {rttNs : Fin numPlanes → Int}
    (nonneg : ∀ plane, 0 ≤ rttNs plane) {order : List (Fin numPlanes)}
    (serves : Serves loop.agent.tenant loop.agent.table)
    (ran : (closedLoop flow flowKey start).run loop
      (order.map fun plane => .probe plane true (rttNs plane)) = some later) :
    later = { loop with agent := { loop.agent with
      table := loop.agent.table.applySignals loop.agent.tenant
        (fun plane => .probeOk (rttNs plane)) order } } := by
  induction order generalizing loop with
  | nil =>
      cases ran
      rfl
  | cons plane rest ih =>
      obtain ⟨middle, stepped, ranRest⟩ := Machine.run_cons_eq_some.mp ran
      have returned := EVStateTable.probeOk_returns serves.find? plane (nonneg plane)
      have stepEq : loop.next flow flowKey (.probe plane true (rttNs plane)) = some middle := stepped
      simp only [Loop.next, probeCall, if_true, returned] at stepEq
      cases stepEq
      exact ih (serves.applySignal plane _) ranRest

end Loop

/-! ## One round, plane by plane -/

namespace EVStateTable

/-- A window without loss clears the window counter. -/
theorem nextRecord_cleanWindow {cfg : EVStateConfig} (positive : 0 < cfg.lossThreshold)
    (permitted : Bool) (record : PlaneRecord) :
    nextRecord cfg permitted record (.lossWindow 0) =
      { record with lastLossRatio := 0, consecutiveLossDemoteWindows := 0 } := by
  have quiet : (0 : ℚ) ≤ cfg.lossThreshold / 2 := by linarith
  have notLossy : ¬ cfg.lossThreshold < 0 := not_lt.mpr positive.le
  simp [nextRecord, promotes, accuses, bumped, notLossy, quiet]

end EVStateTable

theorem windowLoss_self {counters : Fin numPlanes → PlaneCounters} {sent : Fin numPlanes → Nat}
    {plane : Fin numPlanes} (same : (counters plane).seen = sent plane) :
    windowLoss counters sent plane = 0 := by
  simp [windowLoss, EVStateTable.lossRatio, same]

/-- The record of a plane after the report of a round in which the plane was sent on so
often. -/
def reported (sent : Nat) (record : PlaneRecord) : PlaneRecord :=
  if sent = 0 then record
  else { record with lastLossRatio := 0, consecutiveLossDemoteWindows := 0 }

/-- Closing both windows and applying the paired report. -/
theorem report_phase {flow : FlowKey} {flowKey : κ} {cfg : EVStateConfig}
    {busy closed snapshotted fused : Loop κ numPlanes} {closeNs receivedNs : Int}
    (healthy : busy.Healthy flowKey cfg) (arrived : busy.data = []) (idle : busy.reports = [])
    (counters : Delivered (busy.counters flowKey) busy.agent.currentWindowSent)
    (rotated : busy.next flow flowKey (.rotate closeNs) = some closed)
    (snapped : closed.next flow flowKey .snapshot = some snapshotted)
    (paired : snapshotted.agent.pairedWindow receivedNs = some (busy.agent.closedWindow closeNs))
    (delivered : snapshotted.next flow flowKey (.deliver 0 receivedNs) = some fused) :
    fused.Settled flowKey ∧ fused.agent.tenant = busy.agent.tenant ∧
      fused.agent.table = busy.agent.table.applySignals busy.agent.tenant
        (fun plane => .lossWindow (windowLoss (busy.counters flowKey) busy.agent.currentWindowSent
          plane)) (activePlanes (busy.counters flowKey)) := by
  obtain ⟨sentRing, closedEq, -⟩ := Loop.next_rotate rotated
  obtain ⟨blank, receiver, windowId, snapEq⟩ :=
    Loop.next_snapshot (healthy.next rotated).onWire snapped
  have serves : Serves snapshotted.agent.tenant snapshotted.agent.table :=
    ((healthy.next rotated).next snapped).serves
  have countersEq : closed.counters flowKey = busy.counters flowKey := by rw [closedEq]; rfl
  have idleEq : closed.reports = [] := by rw [closedEq, idle]
  rw [countersEq, idleEq, List.nil_append] at snapEq
  have agentEq : snapshotted.agent = closed.agent := by rw [snapEq]
  obtain ⟨report, held, fusedEq⟩ := Loop.next_deliver delivered
  by_cases empty : snapshotRecords (busy.counters flowKey) = []
  · -- An empty report is not sent, so there is nothing to deliver.
    rw [snapEq, if_pos empty] at held
    cases held
  · rw [if_neg empty] at snapEq
    have reportEq : report = ⟨windowId, snapshotRecords (busy.counters flowKey)⟩ := by
      rw [snapEq] at held
      exact (Option.some.inj held).symm
    have goneEq : snapshotted.reports.eraseIdx 0 = [] := by
      rw [snapEq]
      rfl
    rw [goneEq] at fusedEq
    obtain ⟨-, -, fusedTable⟩ := counters.fuse serves paired
      (show (busy.agent.closedWindow closeNs).sent = List.ofFn busy.agent.currentWindowSent from rfl)
      (show report.planes = snapshotRecords (busy.counters flowKey) by rw [reportEq])
    have tenantEq : snapshotted.agent.tenant = busy.agent.tenant := by rw [agentEq, closedEq]
    have tableEq : snapshotted.agent.table = busy.agent.table := by rw [agentEq, closedEq]
    refine ⟨⟨?_, ?_, ?_, ?_⟩, ?_, ?_⟩
    · rw [fusedEq, snapEq, closedEq, arrived]
    · rw [fusedEq]
    · intro plane
      rw [fusedEq]
      change snapshotted.agent.currentWindowSent plane = 0
      rw [agentEq, closedEq]
    · rw [fusedEq]
      exact blank
    · rw [fusedEq]
      exact tenantEq
    · rw [← tenantEq, ← tableEq, ← fusedTable, fusedEq]
      rfl

/-- A round leaves the loop settled, and is one clean window for each plane it sent on and
one answered probe for each plane; it sends on no plane that is ASSUMED_BAD. -/
theorem Round.effect {flow : FlowKey} {flowKey : κ} {cfg : EVStateConfig}
    {sent : Fin numPlanes → Nat} {before after : Loop κ numPlanes}
    (round : Round flow flowKey sent before after) (healthy : before.Healthy flowKey cfg)
    (settled : before.Settled flowKey) (positive : 0 < cfg.lossThreshold) :
    after.Healthy flowKey cfg ∧ after.Settled flowKey ∧
      ∀ plane, (sent plane ≠ 0 → (before.row plane).state ≠ .assumedBad) ∧
        ∃ permitted rttNs, after.row plane = EVStateTable.nextRecord cfg permitted
          (reported (sent plane) (before.row plane)) (.probeOk rttNs) := by
  obtain ⟨sprayed, lossless, arrived, window, few, rotated, snapped, paired, delivered, all, nonneg,
    answered⟩ := round
  rename_i busy closed snapshotted fused actions closeNs receivedNs order rttNs
  obtain ⟨busyHealthy, balanced, seenEq⟩ := settled.traffic healthy sprayed lossless arrived
  subst window
  have counters : Delivered (busy.counters flowKey) busy.agent.currentWindowSent := by
    refine ⟨busyHealthy.onWire, fun plane => (seenEq plane).le, ?_⟩
    intro plane
    have bound := few plane
    rw [seenEq, u32Max]
    omega
  -- The report and the probes.
  obtain ⟨fusedSettled, tenantEq, tableEq⟩ := report_phase busyHealthy arrived balanced.reports
    counters rotated snapped paired delivered
  have fusedHealthy := ((busyHealthy.next rotated).next snapped).next delivered
  have afterEq := Loop.run_probes nonneg fusedHealthy.serves answered
  have afterHealthy : after.Healthy flowKey cfg :=
    Machine.Reaches.invariant (motive := fun loop => Loop.Healthy loop flowKey cfg)
      (fun _ _ _ held stepped => held.next stepped) ⟨_, answered⟩ fusedHealthy
  refine ⟨afterHealthy, ?_, ?_⟩
  · rw [afterEq]
    exact ⟨fusedSettled.data, fusedSettled.reports, fusedSettled.sent, fusedSettled.seen⟩
  · intro plane
    refine ⟨balanced.usable plane, ?_⟩
    have cfgEq := fusedHealthy.configured
    obtain ⟨permitted, probed⟩ := EVStateTable.applySignals_row_of_mem fused.agent.table
      fused.agent.tenant (fun plane => .probeOk (rttNs plane))
      (all.nodup_iff.mpr (List.nodup_finRange numPlanes))
      (all.mem_iff.mpr (List.mem_finRange plane))
    refine ⟨permitted, rttNs plane, ?_⟩
    rw [afterEq]
    change (fused.agent.table.applySignals fused.agent.tenant _ order).row fused.agent.tenant plane
      = _
    rw [probed, cfgEq]
    congr 1
    -- The row after the report: a plane with traffic had a window without loss.
    have rowEq : busy.agent.table.row busy.agent.tenant plane = before.row plane :=
      congrFun balanced.row plane
    have active : plane ∈ activePlanes (busy.counters flowKey) ↔
        busy.agent.currentWindowSent plane ≠ 0 := by
      rw [mem_activePlanes, seenEq]
      exact_mod_cast Iff.rfl
    rw [tableEq, tenantEq, reported]
    split
    · next idle =>
      have silent : plane ∉ activePlanes (busy.counters flowKey) := fun mem => active.mp mem idle
      rw [EVStateTable.applySignals_row_of_not_mem silent, rowEq]
    · next used =>
      obtain ⟨granted, cleared⟩ := EVStateTable.applySignals_row_of_mem busy.agent.table
        busy.agent.tenant (fun plane => .lossWindow (windowLoss (busy.counters flowKey)
          busy.agent.currentWindowSent plane)) (nodup_activePlanes _) (active.mpr used)
      rw [cleared, windowLoss_self (seenEq plane), busyHealthy.configured,
        EVStateTable.nextRecord_cleanWindow positive, rowEq]

/-! ## Rounds in a row -/

/-- Some window of these rounds clears the loss signal of the plane, if it needs that. -/
def Clears (record : PlaneRecord) (sents : List Nat) : Prop :=
  record.state = .good ∨ record.consecutiveLossDemoteWindows = 0 ∨ ∃ sent ∈ sents, sent ≠ 0

/-- What rounds that sent so much on one plane have made of it. -/
structure Progress (cfg : EVStateConfig) (start record : PlaneRecord) (sents : List Nat) :
    Prop where
  counted : sents.length ≤ record.consecutiveProbeSuccesses
  avoided : start.Trapped → ¬ Clears start sents
  stuck : ¬ Clears start sents →
    record.state = start.state ∧ record.consecutiveLossDemoteWindows ≠ 0
  quiet : Clears start sents → record.state = .good ∨ record.consecutiveLossDemoteWindows = 0
  recovered : Clears start sents → sents ≠ [] →
    cfg.probeRecoverThreshold ≤ sents.length → record.state = .good

theorem clears_nil {record : PlaneRecord} :
    Clears record [] ↔ record.state = .good ∨ record.consecutiveLossDemoteWindows = 0 := by
  simp [Clears]

theorem clears_cons {record : PlaneRecord} {sent : Nat} {sents : List Nat} :
    Clears record (sent :: sents) ↔ sent ≠ 0 ∨ Clears record sents := by
  simp only [Clears, List.mem_cons, exists_eq_or_imp]
  tauto

theorem Progress.start (cfg : EVStateConfig) (record : PlaneRecord) :
    Progress cfg record record [] := by
  refine ⟨Nat.zero_le _, ?_, ?_, clears_nil.mp, fun _ some_ => absurd rfl some_⟩
  · intro trapped cleared
    rcases clears_nil.mp cleared with good | quiet
    · rw [trapped.1] at good
      cases good
    · exact trapped.2 quiet
  · intro loud
    exact ⟨rfl, fun quiet => loud (clears_nil.mpr (Or.inr quiet))⟩

theorem reported_successes (sent : Nat) (record : PlaneRecord) :
    (reported sent record).consecutiveProbeSuccesses = record.consecutiveProbeSuccesses := by
  unfold reported
  split <;> rfl

theorem reported_state (sent : Nat) (record : PlaneRecord) :
    (reported sent record).state = record.state := by
  unfold reported
  split <;> rfl

theorem Progress.round {cfg : EVStateConfig} {start record : PlaneRecord} {sents : List Nat}
    (progress : Progress cfg start record sents) {sent : Nat}
    (usable : sent ≠ 0 → record.state ≠ .assumedBad) (permitted : Bool) (rttNs : Int) :
    Progress cfg start
      (EVStateTable.nextRecord cfg permitted (reported sent record) (.probeOk rttNs))
      (sent :: sents) := by
  obtain ⟨-, successes, windows, state⟩ :=
    EVStateTable.nextRecord_probeOk cfg permitted (reported sent record) rttNs
  rw [reported_successes] at successes
  rw [reported_state] at state
  have counted := progress.counted
  -- With a quiet loss signal the answered probe promotes once there are enough of them.
  have promoted : record.state = .good ∨ (reported sent record).consecutiveLossDemoteWindows = 0 →
      cfg.probeRecoverThreshold ≤ ((sent :: sents).length : Int) →
      (EVStateTable.nextRecord cfg permitted (reported sent record) (.probeOk rttNs)).state =
        .good := by
    intro ready enough
    rw [state]
    split
    · rfl
    · next missing =>
      by_contra other
      refine missing ⟨other, ?_, windows.trans (ready.resolve_left other)⟩
      rw [successes]
      rw [List.length_cons] at enough
      push_cast at enough ⊢
      have countedInt : (sents.length : Int) ≤ record.consecutiveProbeSuccesses := by
        exact_mod_cast counted
      linarith
  have ready : Clears start (sent :: sents) →
      record.state = .good ∨ (reported sent record).consecutiveLossDemoteWindows = 0 := by
    intro cleared
    by_cases idle : sent = 0
    · rw [reported, if_pos idle]
      exact progress.quiet ((clears_cons.mp cleared).resolve_left (not_not.mpr idle))
    · exact Or.inr (by rw [reported, if_neg idle])
  refine ⟨by rw [successes, List.length_cons]; omega, ?_, ?_, ?_, ?_⟩
  · intro trapped cleared
    have loud := progress.avoided trapped
    rcases clears_cons.mp cleared with used | earlier
    · refine usable used ?_
      rw [(progress.stuck loud).1]
      exact trapped.1
    · exact loud earlier
  · intro loud
    have idle : sent = 0 := by
      by_contra used
      exact loud (clears_cons.mpr (Or.inl used))
    have kept := progress.stuck fun earlier => loud (clears_cons.mpr (Or.inr earlier))
    rw [reported, if_pos idle] at windows state ⊢
    refine ⟨?_, by rw [windows]; exact kept.2⟩
    rw [state, if_neg fun promotion => kept.2 (windows ▸ promotion.2.2)]
    exact kept.1
  · intro cleared
    rcases ready cleared with good | quiet
    · refine Or.inl ?_
      rw [state, if_neg fun promotion => promotion.1 good]
      exact good
    · exact Or.inr (windows.trans quiet)
  · intro cleared _ enough
    exact promoted (ready cleared) enough

theorem Rounds.progress {flow : FlowKey} {flowKey : κ} {cfg : EVStateConfig}
    {sents : List (Fin numPlanes → Nat)} {start last : Loop κ numPlanes}
    (rounds : Rounds flow flowKey sents start last) (healthy : start.Healthy flowKey cfg)
    (settled : start.Settled flowKey) (positive : 0 < cfg.lossThreshold) :
    last.Healthy flowKey cfg ∧ last.Settled flowKey ∧
      ∀ plane, Progress cfg (start.row plane) (last.row plane) (sents.map fun sent => sent plane) := by
  induction rounds with
  | nil loop => exact ⟨healthy, settled, fun plane => Progress.start cfg (loop.row plane)⟩
  | cons before round ih =>
      obtain ⟨healthyMiddle, settledMiddle, progress⟩ := ih healthy settled
      obtain ⟨healthyLast, settledLast, effect⟩ := round.effect healthyMiddle settledMiddle positive
      refine ⟨healthyLast, settledLast, ?_⟩
      intro plane
      obtain ⟨usable, permitted, rttNs, recordEq⟩ := effect plane
      rw [recordEq]
      exact (progress plane).round usable permitted rttNs

/-- Recovery.  Take any reachable state, let the traffic of the lossy past drain, and then
run at least `probe_recover_threshold` rounds of a perfect fabric: every plane is GOOD
exactly if no plane was trapped when the rounds began, and each UNKNOWN plane with a loss
signal was sent on in some round. -/
theorem recovers_iff_untrapped {topo : Topo} {tenants : List String} {cfg : EVStateConfig}
    {table : EVStateTable topo.numPlanes} {tenant : String} {srcId dstId : Int}
    {agentCfg : AgentConfig} {startNs : Int} {agent : SenderMrcAgent topo.numPlanes}
    (built : EVStateTable.init tenants topo.numPlanes cfg = .ok table)
    (constructed : SenderMrcAgent.init topo tenant srcId dstId table agentCfg startNs = .ok agent)
    (thresholds : 0 < cfg.probeRecoverThreshold ∧ 0 < cfg.lossThreshold) {flow : FlowKey}
    {flowKey : κ} {reached drained last : Loop κ topo.numPlanes}
    (reachable : (closedLoop flow flowKey (.fresh agent startNs)).Reachable reached)
    (drains : (closedLoop flow flowKey (.fresh agent startNs)).Reaches reached drained)
    (settled : drained.Settled flowKey) {sents : List (Fin topo.numPlanes → Nat)}
    (enough : cfg.probeRecoverThreshold ≤ sents.length)
    (rounds : Rounds flow flowKey sents drained last) :
    (∀ plane, (last.row plane).state = .good) ↔
      ∀ plane, ¬ (drained.row plane).Trapped ∧
        ((drained.row plane).state = .unknown →
          (drained.row plane).consecutiveLossDemoteWindows ≠ 0 → ∃ sent ∈ sents, sent plane ≠ 0) := by
  have healthy : drained.Healthy flowKey cfg :=
    Machine.Reachable.invariant (motive := fun loop => Loop.Healthy loop flowKey cfg)
      (Loop.fresh_healthy built constructed) (fun _ _ _ held stepped => held.next stepped)
      (reachable.trans drains)
  obtain ⟨-, -, progress⟩ := rounds.progress healthy settled thresholds.2
  have someRound : ∀ plane, sents.map (fun sent => sent plane) ≠ [] := by
    intro plane empty
    rw [List.map_eq_nil_iff.mp empty] at enough
    exact absurd enough (not_le.mpr thresholds.1)
  have cleared_iff : ∀ plane, (last.row plane).state = .good ↔
      Clears (drained.row plane) (sents.map fun sent => sent plane) := by
    intro plane
    constructor
    · intro good
      by_contra loud
      obtain ⟨same, -⟩ := (progress plane).stuck loud
      exact loud (Or.inl (same ▸ good))
    · intro cleared
      exact (progress plane).recovered cleared (someRound plane) (by rwa [List.length_map])
  refine forall_congr' fun plane => (cleared_iff plane).trans ?_
  constructor
  · intro cleared
    refine ⟨fun trapped => (progress plane).avoided trapped cleared, ?_⟩
    intro unknown loud
    rcases cleared with good | quiet | ⟨count, mem, used⟩
    · rw [unknown] at good
      cases good
    · exact absurd quiet loud
    · obtain ⟨sent, sentMem, rfl⟩ := List.mem_map.mp mem
      exact ⟨sent, sentMem, used⟩
  · rintro ⟨free, reaches⟩
    by_cases quiet : (drained.row plane).consecutiveLossDemoteWindows = 0
    · exact Or.inr (Or.inl quiet)
    · cases state : (drained.row plane).state with
      | good => exact Or.inl state
      | assumedBad => exact absurd ⟨state, quiet⟩ free
      | unknown =>
          obtain ⟨sent, mem, used⟩ := reaches state quiet
          exact Or.inr (Or.inr ⟨_, List.mem_map_of_mem mem, used⟩)

end Srv6Fabric.Mrc

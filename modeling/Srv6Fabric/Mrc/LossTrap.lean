import Srv6Fabric.Mrc.Recovery

/-!
# A demoted plane that never comes back

Once nothing of a trapped plane is on its way, no run brings it back.  As long as one
plane alone is sprayed and all others are trapped, a perfect fabric can go on with rounds
of one packet each; the sequence numbers are the only bound.  A lossy run of the default
configuration reaches such a state.
-/

namespace Srv6Fabric.Mrc

open Srv6Fabric.Library
open Srv6Fabric.Policy

variable {κ : Type} [DecidableEq κ] {numPlanes : Nat}

/-! ## A trapped plane is not heard of again -/

/-- Probes, answered or not, do not free a trapped plane. -/
theorem PlaneRecord.Trapped.probed {record : PlaneRecord} (trapped : record.Trapped)
    (cfg : EVStateConfig) (permitted : Bool) {signal : EVStateTable.Signal}
    (probe : ∀ ratio, signal ≠ .lossWindow ratio) :
    (EVStateTable.nextRecord cfg permitted record signal).Trapped := by
  obtain ⟨demoted, loud⟩ := trapped
  cases signal with
  | probeOk rttNs =>
      obtain ⟨-, -, windows, state⟩ := EVStateTable.nextRecord_probeOk cfg permitted record rttNs
      constructor
      · rw [state, if_neg fun promotion => loud (windows ▸ promotion.2.2)]
        exact demoted
      · rw [windows]
        exact loud
  | probeFail =>
      obtain ⟨-, -, windows, state⟩ := EVStateTable.nextRecord_probeFail cfg permitted record
      constructor
      · rw [state, if_neg fun demotion => demotion.1 demoted]
        exact demoted
      · rw [windows]
        exact loud
  | lossWindow ratio => exact absurd rfl (probe ratio)

namespace Loop

/-- The plane is trapped, and neither a packet nor a record of it is on its way. -/
structure Starved (loop : Loop κ numPlanes) (flowKey : κ) (plane : Fin numPlanes) : Prop where
  trapped : (loop.row plane).Trapped
  data : packetsOn loop.data plane = 0
  seen : (loop.counters flowKey plane).seen = 0
  reports : ∀ report ∈ loop.reports, ∀ record ∈ report.planes, record.planeId.toNat ≠ plane

variable {loop later : Loop κ numPlanes} {flow : FlowKey} {flowKey : κ} {cfg : EVStateConfig}
  {plane : Fin numPlanes} {action : LoopAction numPlanes}

theorem Settled.starved (settled : loop.Settled flowKey) (trapped : (loop.row plane).Trapped) :
    loop.Starved flowKey plane := by
  refine ⟨trapped, ?_, ?_, ?_⟩
  · rw [settled.data]
    rfl
  · rw [settled.seen]
  · rw [settled.reports]
    intro report mem
    cases mem

/-- The table part: no report is about the plane, and probes do not free it. -/
theorem Starved.next_trapped (starved : loop.Starved flowKey plane)
    (stepped : loop.next flow flowKey action = some later) : (later.row plane).Trapped := by
  have trapped := starved.trapped
  obtain ⟨tenantEq, same | ⟨position, receivedNs, report, -, held, fusedEq⟩ |
    ⟨probed, success, rttNs, -, called⟩⟩ := next_table stepped
  · rw [row, tenantEq, same]
    exact trapped
  · have silent := starved.reports report (List.mem_of_getElem? held)
    obtain ⟨stats, fuseEq⟩ := loop.agent.fuse_eq report receivedNs
    rw [row, tenantEq, fusedEq, fuseEq]
    refine applyRecords_keeps
      (motive := fun table => (table.row loop.agent.tenant plane).Trapped) ?_ trapped
    intro record mem total table next kept returned
    rw [EVStateTable.row_after_call returned, if_neg]
    · exact kept
    · rintro ⟨-, here⟩
      exact silent record mem (Int.ofNat_inj.mp here)
  · rw [row, tenantEq, EVStateTable.row_after_call called]
    split
    · cases success with
      | true => exact trapped.probed _ _ fun ratio => by rintro ⟨⟩
      | false => exact trapped.probed _ _ fun ratio => by rintro ⟨⟩
    · exact trapped

theorem Starved.next (starved : loop.Starved flowKey plane) (healthy : loop.Healthy flowKey cfg)
    (stepped : loop.next flow flowKey action = some later) : later.Starved flowKey plane := by
  have trapped := starved.next_trapped stepped
  obtain ⟨demoted, data, seen, reports⟩ := starved
  cases action with
  | send =>
      obtain ⟨picked, pickEq, small, rfl⟩ := next_send stepped
      obtain ⟨weights, sprayed, -, -, -, sprayedEq, usable⟩ := healthAwareMrcPick_usable
        healthy.serves.sound healthy.serves.known loop.seq flow
      obtain rfl : picked = (sprayed : Nat) := Except.ok.inj (pickEq.symm.trans sprayedEq)
      have away : (UInt8.ofNat ((sprayed : Nat) : Int).toNat).toNat ≠ plane := by
        rw [Int.toNat_natCast, UInt8.toNat_ofNat_of_lt' (by exact_mod_cast small)]
        intro same
        exact usable (Fin.ext same ▸ demoted.1)
      refine ⟨trapped, ?_, seen, reports⟩
      rw [packetsOn_append, packetsOn_singleton, data, if_neg away]
  | sendFailed =>
      cases stepped
      exact ⟨trapped, data, seen, reports⟩
  | arrive position =>
      obtain ⟨packet, held, rfl⟩ := next_arrive stepped
      rw [packetsOn_eraseIdx held, Nat.add_eq_zero_iff] at data
      obtain ⟨remaining, notHere⟩ := data
      refine ⟨trapped, remaining, ?_, reports⟩
      change (((loop.received flowKey packet).flow flowKey).planes plane).seen = 0
      rcases loop.received_counters flowKey packet with kept | ⟨index, indexEq, moved⟩
      · rw [kept]
        exact seen
      · have away : plane ≠ index := by
          rintro rfl
          rw [if_pos indexEq.symm] at notHere
          cases notHere
        rw [moved, Function.update_of_ne away]
        exact seen
  | loseData position =>
      cases stepped
      refine ⟨trapped, ?_, seen, reports⟩
      exact Nat.eq_zero_of_le_zero (data ▸ (List.eraseIdx_sublist loop.data position).countP_le)
  | rotate nowNs =>
      obtain ⟨sentRing, rfl, -⟩ := next_rotate stepped
      exact ⟨trapped, data, seen, reports⟩
  | snapshot =>
      obtain ⟨blank, receiver, windowId, rfl⟩ := next_snapshot healthy.onWire stepped
      refine ⟨trapped, data, ?_, ?_⟩
      · rw [blank]
      · -- The new report has records of planes with packets only.
        intro report mem record recordMem
        dsimp only at mem
        split at mem
        · exact reports report mem record recordMem
        · rcases List.mem_append.mp mem with earlier | new
          · exact reports report earlier record recordMem
          · rw [List.mem_singleton.mp new] at recordMem
            obtain ⟨other, active, rfl⟩ := List.mem_map.mp recordMem
            rw [healthy.onWire.wire_planeId (mem_activePlanes.mp active)]
            intro same
            exact mem_activePlanes.mp active (Fin.ext same ▸ seen)
  | deliver position receivedNs =>
      obtain ⟨report, -, rfl⟩ := next_deliver stepped
      exact ⟨trapped, data, seen, fun other mem => reports other (List.mem_of_mem_eraseIdx mem)⟩
  | loseReport position =>
      cases stepped
      exact ⟨trapped, data, seen, fun other mem => reports other (List.mem_of_mem_eraseIdx mem)⟩
  | probe probed success rttNs =>
      obtain ⟨table, rfl, -⟩ := next_probe stepped
      exact ⟨trapped, data, seen, reports⟩

/-- A starved plane stays so in every run, whatever the fabric does. -/
theorem Starved.reaches {start : Loop κ numPlanes} (starved : loop.Starved flowKey plane)
    (healthy : loop.Healthy flowKey cfg)
    (reaches : (closedLoop flow flowKey start).Reaches loop later) :
    later.Starved flowKey plane :=
  (Machine.Reaches.invariant
    (motive := fun loop => Loop.Healthy loop flowKey cfg ∧ Loop.Starved loop flowKey plane)
    (fun _ _ _ held stepped => ⟨held.1.next stepped, held.2.next held.1 stepped⟩) reaches
    ⟨healthy, starved⟩).2

end Loop

/-! ## Pairing with the newest window -/

theorem scan_append_last {targetNs : Int} {older : List SentWindow} {newest : SentWindow}
    {bestSkew : Int} {best : Option SentWindow}
    (near : |newest.midpointNs - targetNs| < bestSkew)
    (closest : ∀ window ∈ older, |newest.midpointNs - targetNs| < |window.midpointNs - targetNs|) :
    SentWindowRing.scan targetNs (older ++ [newest]) bestSkew best = some newest := by
  induction older generalizing bestSkew best with
  | nil => simp [SentWindowRing.scan, near]
  | cons window rest ih =>
      have closer := closest window List.mem_cons_self
      have later := fun other mem => closest other (List.mem_cons_of_mem _ mem)
      rw [List.cons_append, SentWindowRing.scan]
      split
      · exact ih closer later
      · exact ih near later

theorem push_windows {ring next : SentWindowRing numPlanes} {window : SentWindow}
    (room : 0 < ring.capacity) (pushed : ring.push window = .ok next) :
    next.capacity = ring.capacity ∧ ∃ older, next.windows = older ++ [window] ∧
      ∀ kept ∈ older, kept ∈ ring.windows := by
  unfold SentWindowRing.push at pushed
  split at pushed
  · cases pushed
    refine ⟨rfl, ring.windows.drop (ring.windows.length + 1 - ring.capacity), ?_, ?_⟩
    · exact List.drop_append_of_le_length (by omega)
    · exact fun kept mem => List.mem_of_mem_drop mem
  · cases pushed

/-- The window an agent closes is closest to a report that arrives at its end, if it is a
window of two time units and no older window reaches into it. -/
theorem closedWindow_paired {agent : SenderMrcAgent numPlanes} {startNs maxSkewNs : Int}
    {ring : SentWindowRing numPlanes} (opened : agent.currentWindowStartNs = startNs)
    (past : ∀ window ∈ agent.sentRing.windows, window.midpointNs ≤ startNs)
    (room : 0 < agent.sentRing.capacity) (skew : 0 < maxSkewNs)
    (pushed : agent.sentRing.push (agent.closedWindow (startNs + 2)) = .ok ring) :
    ring.findClosest (startNs + 2) maxSkewNs = some (agent.closedWindow (startNs + 2)) ∧
      (∀ window ∈ ring.windows, window.midpointNs ≤ startNs + 2) ∧ 0 < ring.capacity := by
  obtain ⟨capacityEq, older, windowsEq, olderMem⟩ := push_windows room pushed
  have newest : (agent.closedWindow (startNs + 2)).midpointNs = startNs + 1 := by
    simp only [SenderMrcAgent.closedWindow, SentWindow.midpointNs, opened]
    omega
  have earlier : ∀ window ∈ older, window.midpointNs ≤ startNs :=
    fun window mem => past window (olderMem window mem)
  refine ⟨?_, ?_, capacityEq ▸ room⟩
  · rw [SentWindowRing.findClosest, windowsEq]
    apply scan_append_last
    · have distance : |startNs + 1 - (startNs + 2)| = 1 := by
        rw [show startNs + 1 - (startNs + 2) = -1 by ring]
        rfl
      rw [newest, distance]
      omega
    · intro window mem
      have bound := earlier window mem
      rw [newest, abs_of_nonpos (by omega), abs_of_nonpos (by omega)]
      omega
  · intro window mem
    rw [windowsEq] at mem
    rcases List.mem_append.mp mem with old | new
    · have bound := earlier window old
      omega
    · rw [List.mem_singleton.mp new, newest]
      omega

namespace Loop

variable {loop : Loop κ numPlanes} {flow : FlowKey} {flowKey : κ} {cfg : EVStateConfig}

/-- One plane is sprayed, all others are trapped, and the open window starts now. -/
structure Lonely (loop : Loop κ numPlanes) (flowKey : κ) (cfg : EVStateConfig)
    (plane : Fin numPlanes) : Prop where
  healthy : loop.Healthy flowKey cfg
  settled : loop.Settled flowKey
  usable : (loop.row plane).state ≠ .assumedBad
  others : ∀ other, other ≠ plane → (loop.row other).Trapped
  small : (plane : Nat) < 256
  opened : loop.agent.currentWindowStartNs = loop.nowNs
  past : ∀ window ∈ loop.agent.sentRing.windows, window.midpointNs ≤ loop.nowNs
  room : 0 < loop.agent.sentRing.capacity

/-- The packet of a round. -/
def lonelyPacket (loop : Loop κ numPlanes) (plane : Fin numPlanes) : DataPacket :=
  ⟨.ofNat loop.seq, .ofNat plane⟩

/-- The loop with the packet of a round in flight. -/
def afterSend (loop : Loop κ numPlanes) (plane : Fin numPlanes) : Loop κ numPlanes :=
  { loop with
    agent := loop.agent.recordSent (plane : Nat)
    seq := loop.seq + 1
    data := [loop.lonelyPacket plane] }

theorem Lonely.send {plane : Fin numPlanes} (lonely : loop.Lonely flowKey cfg plane)
    (bounded : loop.seq < 2 ^ 64) :
    loop.next flow flowKey .send = some (loop.afterSend plane) := by
  obtain ⟨weights, picked, -, -, -, pickEq, usable⟩ := healthAwareMrcPick_usable
    lonely.healthy.serves.sound lonely.healthy.serves.known loop.seq flow
  obtain rfl : picked = plane := by
    by_contra other
    exact usable (lonely.others picked other).1
  have small := lonely.small
  have inRange : 0 ≤ ((picked : Nat) : Int) ∧ ((picked : Nat) : Int) < numPlanes ∧
      ((picked : Nat) : Int) < 256 ∧ loop.seq < 2 ^ 64 :=
    ⟨Int.natCast_nonneg _, by exact_mod_cast picked.isLt, by exact_mod_cast small, bounded⟩
  simp only [Loop.next, pickEq, if_pos inRange, lonely.settled.data, List.nil_append,
    Int.toNat_natCast, lonelyPacket, afterSend]

/-! ## Steps that can be taken -/

/-- A packet of a known plane with a `u32` sequence number is recorded. -/
theorem record_returns (table : LossWindowTable κ numPlanes) (flowKey : κ) (plane : Fin numPlanes)
    {seq : Nat} (bounded : seq < 2 ^ 32) :
    ∃ next, table.record flowKey (plane : Nat) seq = .ok next ∧ flowKey ∈ next.knownFlows := by
  have inRange : ¬ ((seq : Int) < 0 ∨ u32Max < seq) := by
    rw [u32Max]
    omega
  simp only [LossWindowTable.record, checkPlane_fin, bind, Except.bind, if_neg inRange]
  refine ⟨_, rfl, ?_⟩
  rw [LossWindowTable.knownFlows, OrderedDict.keys_set]
  split
  · next known => exact known
  · simp

theorem rotate_some (flow : FlowKey) (flowKey : κ) {closeNs : Int}
    (monotonic : loop.nowNs ≤ closeNs) :
    ∃ later, loop.next flow flowKey (.rotate closeNs) = some later := by
  obtain ⟨sentRing, rotateEq, -⟩ := loop.agent.rotateWindow_eq closeNs
  simp only [Loop.next, if_pos monotonic, rotateEq]
  exact ⟨_, rfl⟩

theorem snapshot_some (flow : FlowKey) (known : flowKey ∈ loop.receiver.knownFlows) :
    ∃ later, loop.next flow flowKey .snapshot = some later := by
  simp only [Loop.next, if_pos known]
  split
  · exact ⟨_, rfl⟩
  · split <;> exact ⟨_, rfl⟩

theorem deliver_some (flow : FlowKey) (flowKey : κ) {position : Nat} {report : LossReport}
    {receivedNs : Int} (held : loop.reports[position]? = some report) (monotonic : loop.nowNs ≤ receivedNs) :
    ∃ later, loop.next flow flowKey (.deliver position receivedNs) = some later := by
  simp only [Loop.next, held, if_pos monotonic]
  exact ⟨_, rfl⟩

theorem probes_some (flow : FlowKey) (flowKey : κ) (start loop : Loop κ numPlanes)
    (rttNs : Fin numPlanes → Int) (order : List (Fin numPlanes)) :
    ∃ later, (closedLoop flow flowKey start).run loop
      (order.map fun plane => .probe plane true (rttNs plane)) = some later := by
  induction order generalizing loop with
  | nil => exact ⟨loop, rfl⟩
  | cons plane rest ih =>
      obtain ⟨middle, stepped⟩ : ∃ middle,
          loop.next flow flowKey (.probe plane true (rttNs plane)) = some middle := by
        simp only [Loop.next]
        split <;> exact ⟨_, rfl⟩
      obtain ⟨later, ran⟩ := ih middle
      exact ⟨later, Machine.run_cons_eq_some.mpr ⟨middle, stepped, ran⟩⟩

/-- Both windows can be closed and the report applied, once the receiver has something to
report. -/
theorem closing_some {busy : Loop κ numPlanes} (flow : FlowKey) (healthy : busy.Healthy flowKey cfg)
    (known : flowKey ∈ busy.receiver.knownFlows) (idle : busy.reports = [])
    (nonempty : snapshotRecords (busy.counters flowKey) ≠ []) {closeNs : Int}
    (monotonic : busy.nowNs ≤ closeNs) :
    ∃ sentRing closed snapshotted fused,
      busy.next flow flowKey (.rotate closeNs) = some closed ∧
      closed.next flow flowKey .snapshot = some snapshotted ∧
      snapshotted.next flow flowKey (.deliver 0 closeNs) = some fused ∧
      ((∃ plane, busy.agent.currentWindowSent plane ≠ 0) →
        busy.agent.sentRing.push (busy.agent.closedWindow closeNs) = .ok sentRing) ∧
      snapshotted.agent.sentRing = sentRing ∧ fused.agent.sentRing = sentRing ∧
      fused.agent.currentWindowStartNs = closeNs ∧ fused.nowNs = closeNs ∧
      fused.seq = busy.seq := by
  obtain ⟨closed, rotated⟩ := rotate_some flow flowKey monotonic
  obtain ⟨sentRing, closedEq, pushed⟩ := next_rotate rotated
  obtain ⟨snapshotted, snapped⟩ := snapshot_some flow
    (show flowKey ∈ closed.receiver.knownFlows by rw [closedEq]; exact known)
  obtain ⟨-, receiver, windowId, snapEq⟩ := next_snapshot (healthy.next rotated).onWire snapped
  have countersEq : closed.counters flowKey = busy.counters flowKey := by rw [closedEq]; rfl
  have idleClosed : closed.reports = [] := by rw [closedEq, idle]
  rw [countersEq, if_neg nonempty, idleClosed, List.nil_append] at snapEq
  obtain ⟨fused, delivered⟩ := deliver_some flow flowKey
    (show snapshotted.reports[0]? = some ⟨windowId, snapshotRecords (busy.counters flowKey)⟩ by
      rw [snapEq]; rfl)
    (show snapshotted.nowNs ≤ closeNs by rw [snapEq, closedEq])
  obtain ⟨report, -, fusedEq⟩ := next_deliver delivered
  have ringEq : snapshotted.agent.sentRing = sentRing := by rw [snapEq, closedEq]
  refine ⟨sentRing, closed, snapshotted, fused, rotated, snapped, delivered, pushed, ringEq, ?_, ?_,
    ?_, ?_⟩
  · rw [fusedEq]
    exact ringEq
  · rw [fusedEq, snapEq, closedEq]
    rfl
  · rw [fusedEq]
  · rw [fusedEq, snapEq, closedEq]

/-! ## One more round -/

/-- The loop after the packet of a round has arrived. -/
def afterPacket (loop : Loop κ numPlanes) (flowKey : κ) (plane : Fin numPlanes) :
    Loop κ numPlanes :=
  { loop.afterSend plane with
    receiver := loop.received flowKey (loop.lonelyPacket plane)
    data := [] }

theorem Lonely.counted {plane : Fin numPlanes} (lonely : loop.Lonely flowKey cfg plane)
    (other : Fin numPlanes) :
    (loop.afterPacket flowKey plane).agent.currentWindowSent other =
      if plane = other then 1 else 0 := by
  change (loop.agent.recordSent (plane : Nat)).currentWindowSent other = _
  rw [SenderMrcAgent.recordSent_counter, lonely.settled.sent, Nat.zero_add]
  simp [Fin.val_inj]

/-- Traffic of a round: one packet, sent and recorded. -/
theorem Lonely.traffic {plane : Fin numPlanes} (lonely : loop.Lonely flowKey cfg plane)
    (flow : FlowKey) (bounded : loop.seq < 2 ^ 32) :
    (closedLoop flow flowKey loop).run loop [.send, .arrive 0] =
        some (loop.afterPacket flowKey plane) ∧
      (closedLoop flow flowKey loop).along (Loop.traffic flowKey) loop [.send, .arrive 0] ∧
      flowKey ∈ (loop.afterPacket flowKey plane).receiver.knownFlows := by
  have sendEq : (closedLoop flow flowKey loop).step loop .send = some (loop.afterSend plane) :=
    lonely.send (lt_trans bounded (by norm_num))
  obtain ⟨receiver, recordEq, known⟩ := record_returns loop.receiver flowKey plane bounded
  have seqEq : (loop.lonelyPacket plane).seq.toNat = loop.seq :=
    UInt64.toNat_ofNat_of_lt' (lt_trans bounded (by norm_num))
  have planeEq : (loop.lonelyPacket plane).plane.toNat = plane :=
    UInt8.toNat_ofNat_of_lt' lonely.small
  have receivedEq : loop.received flowKey (loop.lonelyPacket plane) = receiver := by
    rw [received, planeEq, seqEq, recordEq]
  have arriveEq : (closedLoop flow flowKey loop).step (loop.afterSend plane) (.arrive 0) =
      some (loop.afterPacket flowKey plane) := rfl
  refine ⟨?_, ?_, ?_⟩
  · exact Machine.run_cons_eq_some.mpr
      ⟨_, sendEq, Machine.run_cons_eq_some.mpr ⟨_, arriveEq, rfl⟩⟩
  · refine (Machine.along_cons_iff sendEq).mpr ⟨rfl, ?_⟩
    refine (Machine.along_cons_iff arriveEq).mpr ⟨?_, rfl⟩
    simp [Loop.traffic, Loop.lossFree, afterSend, planeEq, seqEq, recordEq, Except.toOption]
  · change flowKey ∈ (loop.received flowKey (loop.lonelyPacket plane)).knownFlows
    rw [receivedEq]
    exact known

/-- A round leaves the sprayed plane usable and the other ones trapped. -/
theorem Lonely.states {plane : Fin numPlanes} (lonely : loop.Lonely flowKey cfg plane)
    {sent : Fin numPlanes → Nat} {after : Loop κ numPlanes}
    (effect : ∀ other, (sent other ≠ 0 → (loop.row other).state ≠ .assumedBad) ∧
      ∃ permitted rttNs, after.row other = EVStateTable.nextRecord cfg permitted
        (reported (sent other) (loop.row other)) (.probeOk rttNs)) :
    (after.row plane).state ≠ .assumedBad ∧
      ∀ other, other ≠ plane → (after.row other).Trapped := by
  constructor
  · obtain ⟨-, permitted, rttNs, recordEq⟩ := effect plane
    rw [recordEq]
    refine EVStateTable.nextRecord_ne_assumedBad ?_ rfl
    rw [reported_state]
    exact lonely.usable
  · intro other away
    obtain ⟨usable, permitted, rttNs, recordEq⟩ := effect other
    have trapped := lonely.others other away
    have idle : sent other = 0 := by
      by_contra used
      exact usable used trapped.1
    rw [recordEq, reported, if_pos idle]
    exact trapped.probed cfg permitted fun ratio => by rintro ⟨⟩

/-- A state with one sprayed plane has a round, and is one again after it. -/
theorem Lonely.round {plane : Fin numPlanes} (lonely : loop.Lonely flowKey cfg plane)
    (positive : 0 < cfg.lossThreshold) (flow : FlowKey) (bounded : loop.seq < 2 ^ 32) :
    ∃ sent after, Round flow flowKey sent loop after ∧ after.Lonely flowKey cfg plane ∧
      after.seq = loop.seq + 1 := by
  obtain ⟨sprayed, lossless, known⟩ := lonely.traffic flow bounded
  have counted := lonely.counted
  set busy := loop.afterPacket flowKey plane with busyEq
  obtain ⟨busyHealthy, -, seenEq⟩ := lonely.settled.traffic lonely.healthy sprayed lossless rfl
  obtain ⟨moved, agentEq⟩ : ∃ moved, busy.agent = { loop.agent with currentWindowSent := moved } :=
    loop.agent.recordSent_frame (plane : Nat)
  have sprayedHere : busy.agent.currentWindowSent plane ≠ 0 := by simp [counted]
  have nonempty : snapshotRecords (busy.counters flowKey) ≠ [] := by
    have active : plane ∈ activePlanes (busy.counters flowKey) := by
      rw [mem_activePlanes, seenEq]
      exact_mod_cast sprayedHere
    exact fun empty => List.ne_nil_of_mem active (List.map_eq_nil_iff.mp empty)
  -- The window of the round lasts two time units, the report arrives as it closes.
  obtain ⟨sentRing, closed, snapshotted, fused, rotated, snapped, delivered, pushed, ringEq,
    fusedRing, fusedStart, fusedNow, fusedSeq⟩ := closing_some flow busyHealthy known
      (show busy.reports = [] from lonely.settled.reports) nonempty
      (show busy.nowNs ≤ loop.nowNs + 2 from (by omega : loop.nowNs ≤ loop.nowNs + 2))
  have skew : 0 < snapshotted.agent.cfg.maxWindowSkewMs * 1000000 :=
    Int.mul_pos snapshotted.agent.cfg.positive.2.2.2 (by norm_num)
  obtain ⟨closest, past, room⟩ := closedWindow_paired
    (show busy.agent.currentWindowStartNs = loop.nowNs by rw [agentEq]; exact lonely.opened)
    (by rw [agentEq]; exact lonely.past) (by rw [agentEq]; exact lonely.room)
    skew (pushed ⟨plane, sprayedHere⟩)
  have paired : snapshotted.agent.pairedWindow (loop.nowNs + 2) =
      some (busy.agent.closedWindow (loop.nowNs + 2)) := by
    rw [SenderMrcAgent.pairedWindow, ringEq]
    exact closest
  obtain ⟨after, answered⟩ := probes_some flow flowKey loop fused (fun _ => 0)
    (List.finRange numPlanes)
  have afterEq := run_probes (fun _ => le_rfl)
    (((busyHealthy.next rotated).next snapped).next delivered).serves answered
  have round : Round flow flowKey busy.agent.currentWindowSent loop after := by
    refine .mk sprayed lossless rfl rfl ?_ rotated snapped paired delivered (List.Perm.refl _)
      (fun _ => le_rfl) answered
    intro other
    rw [counted]
    split <;> norm_num
  obtain ⟨healthy, settled, effect⟩ := round.effect lonely.healthy lonely.settled positive
  obtain ⟨usable, others⟩ := lonely.states effect
  refine ⟨_, after, round, ⟨healthy, settled, usable, others, lonely.small, ?_, ?_, ?_⟩, ?_⟩
  · rw [afterEq]
    exact fusedStart.trans fusedNow.symm
  · rw [afterEq]
    change ∀ window ∈ fused.agent.sentRing.windows, window.midpointNs ≤ fused.nowNs
    rw [fusedRing, fusedNow]
    exact past
  · rw [afterEq]
    change 0 < fused.agent.sentRing.capacity
    rw [fusedRing]
    exact room
  · rw [afterEq]
    exact fusedSeq

/-- Rounds go on as long as sequence numbers fit the receiver's `u32`. -/
theorem Lonely.rounds {plane : Fin numPlanes} (lonely : loop.Lonely flowKey cfg plane)
    (positive : 0 < cfg.lossThreshold) (flow : FlowKey) (count : Nat)
    (bounded : loop.seq + count ≤ 2 ^ 32) :
    ∃ sents last, sents.length = count ∧ Rounds flow flowKey sents loop last ∧
      last.Lonely flowKey cfg plane ∧ last.seq = loop.seq + count := by
  induction count with
  | zero => exact ⟨[], loop, rfl, .nil loop, lonely, rfl⟩
  | succ count ih =>
      obtain ⟨earlier, middle, lengthEq, before, lonelyMiddle, seqEq⟩ := ih (by omega)
      obtain ⟨sent, last, round, lonelyLast, lastEq⟩ := lonelyMiddle.round positive flow (by omega)
      exact ⟨sent :: earlier, last, by rw [List.length_cons, lengthEq], .cons before round,
        lonelyLast, by omega⟩

end Loop

/-! ## A lossy run -/

/-- Two windows of plane 1, each with one of two packets lost; then the old traffic is
gone and both ends cut their windows. -/
def lossyWindows : List (LoopAction 2) :=
  [.send, .send, .arrive 0, .loseData 0, .rotate 200000000, .snapshot, .deliver 0 250000000,
    .send, .send, .send, .send, .send, .arrive 0, .arrive 0, .arrive 0, .arrive 0, .loseData 0,
    .rotate 400000000, .snapshot, .deliver 0 450000000, .rotate 500000000]

theorem lossyWindows_lonely :
    ∃ trapped, greenRun lossyWindows = some trapped ∧ trapped.seq = 7 ∧
      trapped.Lonely (1, 0, 7) {} 0 := by
  have completes : (greenRun lossyWindows).map (fun loop => decide
      ((loop.seq = 7 ∧ loop.data = [] ∧ loop.reports = [] ∧
        (∀ plane, loop.agent.currentWindowSent plane = 0) ∧
        ∀ plane, loop.counters (1, 0, 7) plane = {}) ∧
      ((loop.row 0).state ≠ .assumedBad ∧
        ∀ other : Fin 2, other ≠ 0 → (loop.row other).state = .assumedBad ∧
          (loop.row other).consecutiveLossDemoteWindows ≠ 0) ∧
      loop.agent.currentWindowStartNs = loop.nowNs ∧
        (∀ window ∈ loop.agent.sentRing.windows, window.midpointNs ≤ loop.nowNs) ∧
        0 < loop.agent.sentRing.capacity)) = some true := by
    decide +kernel
  obtain ⟨trapped, ran, holds⟩ := Option.map_eq_some_iff.mp completes
  obtain ⟨⟨seqEq, data, reports, sent, seen⟩, ⟨usable, others⟩, opened, past, room⟩ :=
    of_decide_eq_true holds
  have healthy : trapped.Healthy (1, 0, 7) {} :=
    Machine.Reaches.invariant (motive := fun loop => Loop.Healthy loop (1, 0, 7) {})
      (fun _ _ _ held stepped => held.next stepped) ⟨_, ran⟩
      (Loop.fresh_healthy init_greenTable_two init_greenAgent_two)
  exact ⟨trapped, ran, seqEq, healthy, ⟨data, reports, sent, seen⟩, usable, others, by decide,
    opened, past, room⟩

/-- The lab's own defaults: after two lossy windows plane 1 is demoted.  Any number of
rounds of a perfect fabric can follow, and in every run that follows it stays so. -/
theorem demoted_plane_never_recovers :
    ∃ trapped, greenRun lossyWindows = some trapped ∧ trapped.Settled (1, 0, 7) ∧
      (∀ count : Nat, count + 7 ≤ 2 ^ 32 → ∃ sents last, sents.length = count ∧
        Rounds FlowKey.greenFlow (1, 0, 7) sents trapped last) ∧
      ∀ later, (closedLoop FlowKey.greenFlow (1, 0, 7) greenLoop).Reaches trapped later →
        (later.row 1).state = .assumedBad := by
  obtain ⟨trapped, ran, seqEq, lonely⟩ := lossyWindows_lonely
  refine ⟨trapped, ran, lonely.settled, ?_, ?_⟩
  · intro count bounded
    obtain ⟨sents, last, lengthEq, rounds, -⟩ :=
      lonely.rounds (by norm_num) FlowKey.greenFlow count (by omega)
    exact ⟨sents, last, lengthEq, rounds⟩
  · intro later reaches
    have starved := lonely.settled.starved (lonely.others 1 (by decide))
    exact (starved.reaches lonely.healthy reaches).trapped.1

/-- Five rounds later some plane is still not GOOD. -/
theorem recovers_iff_untrapped_lossyWindows :
    ∃ trapped sents last, greenRun lossyWindows = some trapped ∧ sents.length = 5 ∧
      Rounds FlowKey.greenFlow (1, 0, 7) sents trapped last ∧
      ¬ ∀ plane, (last.row plane).state = .good := by
  obtain ⟨trapped, ran, seqEq, lonely⟩ := lossyWindows_lonely
  obtain ⟨sents, last, lengthEq, rounds, -⟩ :=
    lonely.rounds (by norm_num) FlowKey.greenFlow 5 (by omega)
  refine ⟨trapped, sents, last, ran, lengthEq, rounds, ?_⟩
  have enough : ({} : EVStateConfig).probeRecoverThreshold ≤ (sents.length : Int) := by
    rw [lengthEq]
    decide
  have decides := recovers_iff_untrapped init_greenTable_two init_greenAgent_two
    ⟨by decide, by norm_num⟩ ⟨_, ran⟩ (Machine.Reaches.refl trapped) lonely.settled
    enough rounds
  exact fun good => (decides.mp good (1 : Fin 2)).1 (lonely.others 1 (by decide))

end Srv6Fabric.Mrc

import Mathlib.Algebra.BigOperators.Fin
import Srv6Fabric.Mrc.ReportLedger
import Srv6Fabric.Receive

/-!
# The two receive ledgers

`spray.py recv` with MRC: the handler counts a spray packet in its reorder tracker, and
then hands it to a hook that counts it in the loss windows of the receiver agent.  Each
source host has an account in both; the accounts agree as long as the hook is handed
what it takes.
-/

namespace Srv6Fabric

open Srv6Fabric.Library

/-! ## Source addresses -/

/-- `host_id_from_inner_addr`.  The exploded text has four digits for each group, so its
parts are compared as groups; an address with a zone has no exploded text. -/
def Topo.hostIdFromInnerAddr (addr : String) : Option (String × Nat) :=
  match IpAddress.ofText addr with
  | some (.v6 [first, second, network, host, _, _, _, last] none) =>
      if first ≠ 0x2001 ∨ second ≠ 0xdb8 then none
      else if network = 0xbbbb ∧ last = 2 then if host ≤ 15 then some ("green", host) else none
      else if network = 0xcccc ∧ last = 2 then if host ≤ 15 then some ("yellow", host) else none
      else none
  | _ => none

/-- An address of a host of the tenant, in whatever spelling. -/
def Tenant.IsAddress (tenant : Tenant) (hostId : Nat) (addr : String) : Prop :=
  IpAddress.ofText addr = some (.v6 (innerGroups tenant.name hostId) none)

instance (tenant : Tenant) (hostId : Nat) (addr : String) :
    Decidable (tenant.IsAddress hostId addr) :=
  inferInstanceAs (Decidable (_ = _))

namespace Tenant.IsAddress

variable {tenant : Tenant} {hostId : Nat} {addr : String}

theorem unique (here : tenant.IsAddress hostId addr) {other : Nat} :
    tenant.IsAddress other addr ↔ hostId = other := by
  constructor
  · intro there
    have same := here.symm.trans there
    simp only [innerGroups, Option.some.injEq, IpAddress.v6.injEq, List.cons.injEq] at same
    exact same.1.2.2.2.1
  · rintro rfl
    exact here

/-- Hosts past 15 are not recognised. -/
theorem hostIdFromInnerAddr (here : tenant.IsAddress hostId addr) :
    Topo.hostIdFromInnerAddr addr = if hostId ≤ 15 then some (tenant.name, hostId) else none := by
  rw [Topo.hostIdFromInnerAddr, show IpAddress.ofText addr = _ from here]
  cases tenant with
  | green => rfl
  | yellow => rfl

end Tenant.IsAddress

theorem Topo.of_innerAddr_ok {topo : Topo} {tenant text : String} {hostId : Nat}
    (built : topo.innerAddr tenant hostId = .ok text) :
    tenant ∈ topo.tenants ∧ hostId < topo.numLeaves := by
  obtain ⟨_, known, built⟩ := bind_eq_ok built
  have isTenant : tenant ∈ topo.tenants := by
    unfold checkTenant at known
    split at known
    · assumption
    · cases known
  refine ⟨isTenant, ?_⟩
  have checked : ∃ value, topo.checkHost hostId = .ok value := by
    split at built
    · obtain ⟨value, checked, -⟩ := bind_eq_ok built
      exact ⟨value, checked⟩
    · obtain ⟨value, checked, -⟩ := bind_eq_ok built
      exact ⟨value, checked⟩
  obtain ⟨value, checked⟩ := checked
  unfold checkHost at checked
  split at checked
  · next inRange => exact Int.ofNat_lt.mp inRange.2
  · cases checked

namespace Mrc

/-! ## The hook -/

/-- `agent_flow_key`. -/
def agentFlowKey (tenantId srcId myId : Nat) : RecvFlowKey := .tuple [tenantId, srcId, myId]

/-- `_on_packet` of `cmd_recv`. -/
def onPacket (topo : Topo) (tenant : String) (myId : Nat) (agent : ReceiverMrcAgent topo.numPlanes)
    (flowKey : FlowKey) (plane seq : Nat) : Except PyError (ReceiverMrcAgent topo.numPlanes) :=
  match Topo.hostIdFromInnerAddr flowKey.srcAddr with
  | none => .ok agent
  | some (senderTenant, srcId) =>
      if senderTenant ≠ tenant then .ok agent
      else do
        let tid ← topo.tenantId senderTenant
        agent.recordData (agentFlowKey tid srcId myId) plane seq

/-! ## Spray packets -/

/-- A spray packet as the receiver meets it: the payload of a sender of the tenant, under
that sender's address as the sniffer spells it, with its SRv6 header or without. -/
structure SprayPacket (topo : Topo) (tenant : Tenant) where
  srcId : Nat
  seq : UInt64
  plane : UInt8
  srcAddr : String
  dstAddr : String
  srcPort : Nat
  nic : Option String
  encapsulated : Bool
  onPlane : plane.toNat < topo.numPlanes
  sent : ∃ text address, topo.innerAddr tenant.name srcId = .ok text ∧
    IpAddress.ofText text = some address ∧ IpAddress.ofText srcAddr = some address

namespace SprayPacket

variable {topo : Topo} {tenant : Tenant}

def sniffed (packet : SprayPacket topo tenant) : Sniffed :=
  let carrier : Ipv6 := ⟨packet.srcAddr, packet.dstAddr,
    some ⟨packet.srcPort, sprayPort, encodePayload packet.seq packet.plane⟩⟩
  ⟨packet.nic, if packet.encapsulated then .encapsulated (some carrier) else .plain carrier⟩

def flow (packet : SprayPacket topo tenant) : FlowKey :=
  ⟨packet.srcAddr, packet.dstAddr, packet.srcPort, sprayPort⟩

def index (packet : SprayPacket topo tenant) : Fin topo.numPlanes :=
  ⟨packet.plane.toNat, packet.onPlane⟩

/-- What the hook and the loss windows take: a host up to 15, a `u32` sequence number. -/
def Taken (packet : SprayPacket topo tenant) : Prop :=
  packet.srcId ≤ 15 ∧ packet.seq.toNat ≤ 0xFFFFFFFF

instance (packet : SprayPacket topo tenant) : Decidable packet.Taken :=
  inferInstanceAs (Decidable (_ ∧ _))

theorem decode_sniffed (packet : SprayPacket topo tenant) :
    packet.sniffed.decode = some (packet.flow, packet.seq.toNat, packet.plane.toNat) := by
  have carried : packet.sniffed.carrier? = some ⟨packet.srcAddr, packet.dstAddr,
      some ⟨packet.srcPort, sprayPort, encodePayload packet.seq packet.plane⟩⟩ := by
    rw [sniffed, Sniffed.carrier?]
    cases packet.encapsulated with
    | true => rfl
    | false => rfl
  rw [Sniffed.decode, carried]
  simp only [Option.bind_eq_bind, Option.bind_some, if_true, parsePayload_encodePayload]
  rfl

theorem isAddress (packet : SprayPacket topo tenant) :
    tenant.IsAddress packet.srcId packet.srcAddr := by
  obtain ⟨text, address, built, written, read⟩ := packet.sent
  obtain ⟨known, inRange⟩ := Topo.of_innerAddr_ok built
  obtain rfl := Except.ok.inj ((innerAddr_ok known inRange).symm.trans built)
  rw [ofText_inner] at written
  split at written
  · rw [Tenant.IsAddress, read, ← written]
  · cases written

end SprayPacket

/-! ## Runs -/

/-- The receiver, and the reports that its loss windows were closed with. -/
structure SprayReceiver (numPlanes : Nat) where
  receiver : Receiver (ReceiverMrcAgent numPlanes)
  reports : List (RecvFlowKey × LossReport)

/-- A sniffer's callback, or a window closed by the report thread. -/
inductive SprayAction (topo : Topo) (tenant : Tenant) where
  | handle (packet : SprayPacket topo tenant)
  | snapshotAndReset (flowKey : RecvFlowKey)

variable {topo : Topo} {tenant : Tenant}

def SprayReceiver.next (myId : Nat) (state : SprayReceiver topo.numPlanes) :
    SprayAction topo tenant → Option (SprayReceiver topo.numPlanes)
  | .handle packet =>
      some { state with
        receiver := state.receiver.handle (some (onPacket topo tenant.name myId)) packet.sniffed }
  | .snapshotAndReset flowKey =>
      let (lossTable, result) := state.receiver.hook.lossTable.snapshotAndReset flowKey
      some
        { receiver := { state.receiver with hook := { state.receiver.hook with lossTable } }
          reports := state.reports ++ (result.toOption.map fun report => (flowKey, report)).toList }

def sprayMachine (tenant : Tenant) (myId : Nat) (agent : ReceiverMrcAgent topo.numPlanes) :
    Machine (SprayReceiver topo.numPlanes) (SprayAction topo tenant) where
  start := ⟨{ hook := agent }, []⟩
  step := SprayReceiver.next myId

/-! ## The accounts -/

/-- The packets a report has seen, on all planes. -/
def LossReport.seen (report : LossReport) : Nat :=
  (report.planes.map fun record => record.seen.toNat).sum

inductive ReceiveLedger where
  | tracker
  | lossWindows

/-- A packet on the account of its source host, the same in both ledgers. -/
def SprayAction.entered (hostId : Nat) (action : SprayAction topo tenant) (_ : ReceiveLedger) : Nat :=
  match action with
  | .handle packet => if packet.srcId = hostId then 1 else 0
  | .snapshotAndReset _ => 0

namespace SprayReceiver

variable {numPlanes : Nat}

/-- The packets of a host in the reorder tracker, received and duplicates. -/
def tracked (tenant : Tenant) (hostId : Nat) (state : SprayReceiver numPlanes) : Nat :=
  state.receiver.tracker.counted fun flow => tenant.IsAddress hostId flow.srcAddr

/-- The counters of a flow's open window. -/
def window (state : SprayReceiver numPlanes) (flowKey : RecvFlowKey) :
    Fin numPlanes → PlaneCounters :=
  (state.receiver.hook.lossTable.flow flowKey).planes

/-- The packets of a flow in the loss windows: seen in its snapshots, and pending. -/
def recorded (flowKey : RecvFlowKey) (state : SprayReceiver numPlanes) : Nat :=
  ((state.reports.filter fun report => report.1 = flowKey).map fun report => report.2.seen).sum +
    ∑ plane, (state.window flowKey plane).seen.toNat

def held (tenant : Tenant) (hostId : Nat) (flowKey : RecvFlowKey) (state : SprayReceiver numPlanes) :
    ReceiveLedger → Nat
  | .tracker => state.tracked tenant hostId
  | .lossWindows => state.recorded flowKey

/-- What a step keeps from the loss windows: a packet that is not taken, or what a count
is past the `u32` field when its window is closed. -/
def lost (hostId : Nat) (flowKey : RecvFlowKey) (state : SprayReceiver numPlanes)
    (action : SprayAction topo tenant) : ReceiveLedger → Nat
  | .tracker => 0
  | .lossWindows =>
      match action with
      | .handle packet => if packet.srcId = hostId ∧ ¬ packet.Taken then 1 else 0
      | .snapshotAndReset other =>
          if other = flowKey then ∑ plane, ((state.window flowKey plane).seen - u32Max).toNat else 0

/-- A packet of the host comes from a host up to 15 with a `u32` sequence number, and a
window of its flow about to be closed has fewer than `2 ^ 32` packets on each plane. -/
def accounts (hostId : Nat) (flowKey : RecvFlowKey) (state : SprayReceiver numPlanes) :
    SprayAction topo tenant → Bool
  | .handle packet => decide (packet.srcId = hostId → packet.Taken)
  | .snapshotAndReset other =>
      decide (other = flowKey → ∀ plane, (state.window flowKey plane).seen ≤ u32Max)

end SprayReceiver

/-! ## Steps -/

/-- The report of a window has seen every plane's packets, up to the `u32` field. -/
theorem OnWire.seen {numPlanes : Nat} {counters : Fin numPlanes → PlaneCounters}
    (onWire : OnWire counters) (windowId : UInt16) :
    (⟨windowId, snapshotRecords counters⟩ : LossReport).seen =
      ∑ plane, (min (counters plane).seen u32Max).toNat := by
  have records : (⟨windowId, snapshotRecords counters⟩ : LossReport).seen =
      ((activePlanes counters).map fun plane => (min (counters plane).seen u32Max).toNat).sum := by
    rw [LossReport.seen, snapshotRecords, List.map_map]
    refine congrArg List.sum (List.map_congr_left fun plane _ => ?_)
    exact onWire.wire_seen plane
  rw [records, ← List.sum_toFinset _ (nodup_activePlanes counters)]
  refine Finset.sum_subset (Finset.subset_univ _) fun plane _ absent => ?_
  have idle : (counters plane).seen = 0 := by
    by_contra active
    exact absent (List.mem_toFinset.mpr (mem_activePlanes.mpr active))
  rw [idle]
  rfl

theorem OnWire.record {numPlanes : Nat} {counters : Fin numPlanes → PlaneCounters}
    (onWire : OnWire counters) (plane : Fin numPlanes) (small : (plane : Nat) < 256) {seq : Int}
    (nonneg : 0 ≤ seq) : OnWire (Function.update counters plane ((counters plane).record seq)) := by
  refine ⟨fun other => ?_, fun other active => ?_⟩
  · rw [Function.update_apply]
    split
    · exact (onWire.valid plane).record nonneg
    · exact onWire.valid other
  · rw [Function.update_apply] at active
    split at active
    · next same => exact same ▸ small
    · exact onWire.small other active

/-- One more packet is pending. -/
theorem OnWire.sum_record {numPlanes : Nat} {counters : Fin numPlanes → PlaneCounters}
    (onWire : OnWire counters) (plane : Fin numPlanes) (seq : Int) :
    ∑ other, (Function.update counters plane ((counters plane).record seq) other).seen.toNat =
      ∑ other, (counters other).seen.toNat + 1 := by
  have nonneg := (onWire.valid plane).seen_nonneg
  have updated : ∀ other,
      (Function.update counters plane ((counters plane).record seq) other).seen.toNat =
        Function.update (fun other => (counters other).seen.toNat) plane
          ((counters plane).seen.toNat + 1) other := by
    intro other
    rw [Function.update_apply, Function.update_apply]
    split
    · have counted : ((counters plane).record seq).seen = (counters plane).seen + 1 := rfl
      rw [counted]
      omega
    · rfl
  simp only [updated]
  rw [Finset.sum_update_of_mem (Finset.mem_univ plane), Finset.sdiff_singleton_eq_erase,
    ← Finset.add_sum_erase _ _ (Finset.mem_univ plane)]
  omega

/-- A count is what its report says and what is past the `u32` field. -/
theorem sum_seen {numPlanes : Nat} (counters : Fin numPlanes → PlaneCounters) :
    ∑ plane, (counters plane).seen.toNat =
      ∑ plane, (min (counters plane).seen u32Max).toNat +
        ∑ plane, ((counters plane).seen - u32Max).toNat := by
  rw [← Finset.sum_add_distrib]
  refine Finset.sum_congr rfl fun plane _ => ?_
  simp only [u32Max]
  omega

variable {tenantId : Nat} (myId : Nat)

/-- What the hook does with a spray packet. -/
theorem onPacket_flow (numbered : topo.tenantId tenant.name = .ok tenantId)
    (agent : ReceiverMrcAgent topo.numPlanes) (packet : SprayPacket topo tenant) :
    onPacket topo tenant.name myId agent packet.flow packet.plane.toNat packet.seq.toNat =
      if packet.srcId ≤ 15 then
        agent.recordData (agentFlowKey tenantId packet.srcId myId) packet.plane.toNat
          packet.seq.toNat
      else .ok agent := by
  have named := packet.isAddress.hostIdFromInnerAddr
  rw [onPacket, show packet.flow.srcAddr = packet.srcAddr from rfl, named]
  by_cases recognised : packet.srcId ≤ 15
  · rw [if_pos recognised, if_pos recognised]
    simp only [ne_eq, not_true_eq_false, if_false]
    exact bind_of_ok numbered
  · rw [if_neg recognised, if_neg recognised]

/-- The loss windows take a spray packet on a plane of theirs if its number is a `u32`. -/
theorem SprayPacket.record_eq (packet : SprayPacket topo tenant)
    (table : LossWindowTable RecvFlowKey topo.numPlanes) (flowKey : RecvFlowKey) :
    (0xFFFFFFFF < packet.seq.toNat ∧
      ∃ error, table.record flowKey packet.plane.toNat packet.seq.toNat = .error error) ∨
    packet.seq.toNat ≤ 0xFFFFFFFF ∧ ∃ next,
      table.record flowKey packet.plane.toNat packet.seq.toNat = .ok next ∧
      ∀ other, (next.flow other).planes =
        if flowKey = other then Function.update (table.flow other).planes packet.index
          (((table.flow other).planes packet.index).record packet.seq.toNat)
        else (table.flow other).planes := by
  have inRange : ((packet.plane.toNat : Nat) : Int) < topo.numPlanes :=
    Int.ofNat_lt.mpr packet.onPlane
  rcases table.record_eq flowKey packet.plane.toNat packet.seq.toNat with
    ⟨error, raised, refused⟩ | ⟨index, next, -, accepted, returned, nextEq⟩
  · refine Or.inl ⟨?_, error, raised⟩
    by_contra small
    rw [LossWindowTable.arrival?, if_pos (by simp only [u32Max]; omega)] at refused
    cases refused
  · have small : packet.seq.toNat ≤ 0xFFFFFFFF := by
      by_contra large
      rw [LossWindowTable.arrival?, if_neg (by simp only [u32Max]; omega)] at accepted
      cases accepted
    have here : index = packet.index := by
      unfold LossWindowTable.arrival? at accepted
      split at accepted
      · have plane := congrArg Arrival.plane (Option.some.inj accepted)
        exact Fin.ext plane.symm
      · cases accepted
    refine Or.inr ⟨small, next, returned, fun other => ?_⟩
    rw [nextEq, LossWindowTable.flow_set, here]
    by_cases same : flowKey = other
    · rw [if_pos same.symm, if_pos same, same]
    · rw [if_neg (Ne.symm same), if_neg same]

namespace SprayReceiver

variable {myId} {state next : SprayReceiver topo.numPlanes}

/-- A sniffed packet is observed by the tracker, and counted in its host's window if it
is taken. -/
theorem next_handle (numbered : topo.tenantId tenant.name = .ok tenantId)
    {packet : SprayPacket topo tenant} (stepped : state.next myId (.handle packet) = some next) :
    next.reports = state.reports ∧
    next.receiver.tracker = state.receiver.tracker.observe packet.flow
      ⟨packet.seq.toNat, some packet.plane.toNat⟩ ∧
    ∀ flowKey, next.window flowKey =
      if packet.Taken ∧ agentFlowKey tenantId packet.srcId myId = flowKey then
        Function.update (state.window flowKey) packet.index
          ((state.window flowKey packet.index).record packet.seq.toNat)
      else state.window flowKey := by
  have hooked := onPacket_flow myId numbered state.receiver.hook packet
  obtain rfl := Option.some.inj stepped
  refine ⟨rfl, ?_, fun flowKey => ?_⟩
  · rw [Receiver.handle, packet.decode_sniffed]
    dsimp only
    split <;> rfl
  · rw [Receiver.handle, packet.decode_sniffed]
    dsimp only
    rw [hooked]
    by_cases recognised : packet.srcId ≤ 15
    · rw [if_pos recognised, ReceiverMrcAgent.recordData]
      rcases packet.record_eq state.receiver.hook.lossTable
        (agentFlowKey tenantId packet.srcId myId) with
        ⟨large, error, raised⟩ | ⟨small, table, returned, planes⟩
      · rw [raised, if_neg fun both => absurd both.1.2 (not_le.mpr large)]
        rfl
      · rw [returned]
        change (table.flow flowKey).planes = _
        rw [planes]
        by_cases same : agentFlowKey tenantId packet.srcId myId = flowKey
        · rw [if_pos same, if_pos ⟨⟨recognised, small⟩, same⟩]
          rfl
        · rw [if_neg same, if_neg fun both => same both.2]
          rfl
    · rw [if_neg recognised, if_neg fun both => recognised both.1.1]
      rfl

/-- A closed window leaves a report and is blank again. -/
theorem next_snapshotAndReset {other : RecvFlowKey} (onWire : OnWire (state.window other))
    (stepped : state.next myId (.snapshotAndReset other : SprayAction topo tenant) = some next) :
    next.receiver.tracker = state.receiver.tracker ∧
    (∃ windowId, next.reports =
      state.reports ++ [(other, ⟨windowId, snapshotRecords (state.window other)⟩)]) ∧
    ∀ flowKey, next.window flowKey =
      if flowKey = other then fun _ => {} else state.window flowKey := by
  have cut := LossWindowTable.snapshotAndReset_onWire onWire
  rw [SprayReceiver.next, cut] at stepped
  obtain rfl := Option.some.inj stepped
  exact ⟨rfl, ⟨_, rfl⟩, state.receiver.hook.lossTable.planes_cut other _⟩

/-- What a run keeps: windows whose snapshots fit the wire. -/
def Sound (state : SprayReceiver topo.numPlanes) : Prop := ∀ flowKey, OnWire (state.window flowKey)

theorem Sound.step (numbered : topo.tenantId tenant.name = .ok tenantId) (sound : state.Sound)
    {action : SprayAction topo tenant} (stepped : state.next myId action = some next) :
    next.Sound := by
  intro flowKey
  cases action with
  | handle packet =>
      obtain ⟨-, -, windows⟩ := next_handle numbered stepped
      rw [windows]
      split
      · exact (sound flowKey).record packet.index packet.plane.toNat_lt (Int.natCast_nonneg _)
      · exact sound flowKey
  | snapshotAndReset other =>
      obtain ⟨-, -, windows⟩ := next_snapshotAndReset (sound other) stepped
      rw [windows]
      split
      · exact .blank
      · exact sound flowKey

/-- Each step balances in both ledgers. -/
theorem held_next (numbered : topo.tenantId tenant.name = .ok tenantId) (sound : state.Sound)
    {action : SprayAction topo tenant} (stepped : state.next myId action = some next)
    (hostId : Nat) (ledger : ReceiveLedger) :
    let flowKey := agentFlowKey tenantId hostId myId
    state.held tenant hostId flowKey ledger + action.entered hostId ledger =
      next.held tenant hostId flowKey ledger + state.lost hostId flowKey action ledger := by
  intro flowKey
  cases action with
  | handle packet =>
      obtain ⟨reports, tracker, windows⟩ := next_handle numbered stepped
      cases ledger with
      | tracker =>
          have own : tenant.IsAddress hostId packet.flow.srcAddr ↔ packet.srcId = hostId :=
            packet.isAddress.unique
          simp only [held, tracked, tracker, ReorderTracker.counted_observe, SprayAction.entered,
            lost, decide_eq_true_eq, own, Nat.add_zero]
      | lossWindows =>
          have same : agentFlowKey tenantId packet.srcId myId = flowKey ↔ packet.srcId = hostId := by
            simp [agentFlowKey, flowKey]
          simp only [held, recorded, reports, windows flowKey, same, SprayAction.entered, lost]
          by_cases mine : packet.srcId = hostId
          · by_cases taken : packet.Taken
            · rw [if_pos mine, if_pos ⟨taken, mine⟩, if_neg fun both => both.2 taken,
                (sound flowKey).sum_record]
              omega
            · rw [if_pos mine, if_neg fun both => taken both.1, if_pos ⟨mine, taken⟩]
          · rw [if_neg mine, if_neg fun both => mine both.2, if_neg fun both => mine both.1]
  | snapshotAndReset other =>
      obtain ⟨tracker, ⟨windowId, reports⟩, windows⟩ := next_snapshotAndReset (sound other) stepped
      cases ledger with
      | tracker => simp only [held, tracked, tracker, SprayAction.entered, lost]
      | lossWindows =>
          simp only [held, recorded, reports, windows flowKey, SprayAction.entered, lost,
            List.filter_append, List.map_append, List.sum_append]
          by_cases mine : other = flowKey
          · subst mine
            have capped := (sound flowKey).seen windowId
            have parts := sum_seen (state.window flowKey)
            simp [capped, parts]
            omega
          · simp [mine, Ne.symm mine]

/-- A step is accounted for exactly when it loses nothing. -/
theorem accounts_iff (hostId : Nat) (flowKey : RecvFlowKey) (state : SprayReceiver topo.numPlanes)
    (action : SprayAction topo tenant) :
    state.accounts hostId flowKey action ↔ ∀ ledger, state.lost hostId flowKey action ledger = 0 := by
  have other : (∀ ledger, state.lost hostId flowKey action ledger = 0) ↔
      state.lost hostId flowKey action .lossWindows = 0 := by
    constructor
    · exact fun nothing => nothing .lossWindows
    · rintro nothing (_ | _)
      · rfl
      · exact nothing
  rw [other]
  cases action with
  | handle packet =>
      simp only [accounts, lost, decide_eq_true_eq]
      by_cases mine : packet.srcId = hostId
      · by_cases taken : packet.Taken
        · simp [taken]
        · simp [mine, taken]
      · simp [mine]
  | snapshotAndReset cut =>
      simp only [accounts, lost, decide_eq_true_eq]
      by_cases mine : cut = flowKey
      · simp [mine, Finset.sum_eq_zero_iff]
      · simp [mine]

theorem sound_start {agent : ReceiverMrcAgent topo.numPlanes}
    (constructed : ReceiverMrcAgent.init topo.numPlanes = .ok agent) (hostId : Nat)
    (flowKey : RecvFlowKey) :
    (sprayMachine tenant myId agent).start.Sound ∧
      ∀ ledger, (sprayMachine tenant myId agent).start.held tenant hostId flowKey ledger = 0 := by
  obtain ⟨table, built, made⟩ := bind_eq_ok constructed
  unfold LossWindowTable.init at built
  split at built
  · cases built
  · cases built
    cases made
    refine ⟨fun _ => .blank, fun ledger => ?_⟩
    cases ledger with
    | tracker => rfl
    | lossWindows => exact (Nat.zero_add _).trans (Finset.sum_eq_zero fun _ _ => rfl)

/-- Every run of the receiver, in any order of spray packets and closed windows: the
tracker's packets of a source host are those its loss windows have seen or hold, exactly
when every packet of the host is one the hook takes and no window of it is closed with
`2 ^ 32` packets or more on a plane. -/
theorem ledgers_agree_iff (numbered : topo.tenantId tenant.name = .ok tenantId)
    {agent : ReceiverMrcAgent topo.numPlanes}
    (constructed : ReceiverMrcAgent.init topo.numPlanes = .ok agent)
    {actions : List (SprayAction topo tenant)} {later : SprayReceiver topo.numPlanes}
    (ran : (sprayMachine tenant myId agent).run (sprayMachine tenant myId agent).start actions =
      some later) (hostId : Nat) :
    later.tracked tenant hostId = later.recorded (agentFlowKey tenantId hostId myId) ↔
      (sprayMachine tenant myId agent).along
        (accounts hostId (agentFlowKey tenantId hostId myId))
        (sprayMachine tenant myId agent).start actions := by
  set flowKey := agentFlowKey tenantId hostId myId
  obtain ⟨sound, empty⟩ := @sound_start _ tenant myId _ constructed hostId flowKey
  have kept : ∀ (state : SprayReceiver topo.numPlanes) (action : SprayAction topo tenant) next,
      state.Sound → state.next myId action = some next → next.Sound :=
    fun _ _ _ sound stepped => sound.step numbered stepped
  have balanced : ∀ (state : SprayReceiver topo.numPlanes) (action : SprayAction topo tenant) next,
      state.Sound → state.next myId action = some next → ∀ ledger,
      state.held tenant hostId flowKey ledger + action.entered hostId ledger =
        next.held tenant hostId flowKey ledger + state.lost hostId flowKey action ledger :=
    fun _ _ _ sound stepped ledger => held_next numbered sound stepped hostId ledger
  -- The tracker keeps every packet.
  have whole : (sprayMachine tenant myId agent).lostBy (lost hostId flowKey)
      (sprayMachine tenant myId agent).start actions .tracker = 0 := by
    apply Machine.lostBy_eq_zero
    exact fun _ _ => rfl
  have tracked := Machine.run_balances kept balanced ran sound .tracker
  have recorded := Machine.run_balances kept balanced ran sound .lossWindows
  have same : Machine.enteredBy (SprayAction.entered hostId) actions ReceiveLedger.tracker =
      Machine.enteredBy (SprayAction.entered hostId) actions .lossWindows := rfl
  rw [empty, whole] at tracked
  rw [empty] at recorded
  rw [Machine.along_iff_lostBy_eq_zero kept
    (fun state action _ => accounts_iff hostId flowKey state action) ran sound]
  simp only [held] at tracked recorded
  constructor
  · rintro agree (_ | _)
    · exact whole
    · omega
  · intro nothing
    have none_ := nothing .lossWindows
    omega

/-- A packet of host 0 of the green tenant, to host 15. -/
def hostZeroPacket (seq : UInt64) (plane : UInt8) (onPlane : plane.toNat < 4) :
    SprayPacket .fourPlanes .green where
  srcId := 0
  seq := seq
  plane := plane
  srcAddr := "2001:db8:bbbb::2"
  dstAddr := "2001:db8:bbbb:f::2"
  srcPort := sprayPort
  nic := "eth1"
  encapsulated := false
  onPlane := onPlane
  sent := ⟨"2001:db8:bbbb:00::2", .v6 [0x2001, 0xdb8, 0xbbbb, 0, 0, 0, 0, 2] none,
    by decide +kernel, by decide +kernel, by decide +kernel⟩

/-- Three packets, one of them twice, and a window closed in between. -/
def threePackets : List (SprayAction .fourPlanes .green) :=
  [.handle (hostZeroPacket 0 0 (by decide)), .handle (hostZeroPacket 1 1 (by decide)),
    .snapshotAndReset (agentFlowKey 1 0 15), .handle (hostZeroPacket 1 1 (by decide)),
    .handle (hostZeroPacket 2 2 (by decide))]

theorem ledgers_agree_threePackets : ∃ (agent : ReceiverMrcAgent 4) (later : SprayReceiver 4),
    ReceiverMrcAgent.init 4 = .ok agent ∧
    (@sprayMachine .fourPlanes .green 15 agent).run (@sprayMachine .fourPlanes .green 15 agent).start
      threePackets = some later ∧
    later.tracked .green 0 = later.recorded (agentFlowKey 1 0 15) :=
  ⟨_, _, rfl, rfl, (@ledgers_agree_iff .fourPlanes .green 1 15 (by decide +kernel) _ rfl
    threePackets _ rfl 0).mpr (by decide +kernel)⟩

/-- Four planes with one leaf more. -/
def seventeenLeaves : Topo := { Topo.fourPlanes with numLeaves := 17 }

/-- The first packet of the host of the seventeenth leaf. -/
def hostSixteenPacket : SprayPacket seventeenLeaves .green where
  srcId := 16
  seq := 0
  plane := 0
  srcAddr := "2001:db8:bbbb:10::2"
  dstAddr := "2001:db8:bbbb:f::2"
  srcPort := sprayPort
  nic := "eth1"
  encapsulated := false
  onPlane := by decide
  sent := ⟨"2001:db8:bbbb:10::2", .v6 [0x2001, 0xdb8, 0xbbbb, 16, 0, 0, 0, 2] none,
    by decide +kernel, by decide +kernel, by decide +kernel⟩

/-- A sequence number past `u32`, and a host past 15: the tracker counts the packet, the
loss windows do not. -/
theorem ledgers_differ :
    (∃ (agent : ReceiverMrcAgent 4) (later : SprayReceiver 4),
      ReceiverMrcAgent.init 4 = .ok agent ∧
      (@sprayMachine .fourPlanes .green 15 agent).run
        (@sprayMachine .fourPlanes .green 15 agent).start
        [.handle (hostZeroPacket 0x100000000 0 (by decide))] = some later ∧
      later.tracked .green 0 = 1 ∧ later.recorded (agentFlowKey 1 0 15) = 0) ∧
    ∃ (agent : ReceiverMrcAgent 4) (later : SprayReceiver 4),
      ReceiverMrcAgent.init 4 = .ok agent ∧
      (@sprayMachine seventeenLeaves .green 15 agent).run
        (@sprayMachine seventeenLeaves .green 15 agent).start [.handle hostSixteenPacket] =
        some later ∧
      later.tracked .green 16 = 1 ∧ later.recorded (agentFlowKey 1 16 15) = 0 :=
  ⟨⟨_, _, rfl, rfl, by decide +kernel⟩, _, _, rfl, rfl, by decide +kernel⟩

end SprayReceiver

end Mrc

end Srv6Fabric

import Srv6Fabric.HostIdentity
import Srv6Fabric.Library.Claims

/-!
# The books of the merged report

Every row comes from one sender record, and every flow of a kept receiver record fills a row
or is reported as an orphan.  A flow is counted twice or not at all only when two sender
records name the same hosts, or when two flows of a record differ in spelling alone.
-/

namespace Srv6Fabric.ScenarioReport

open Library

/-! ## Suppliers -/

/-- The record kept of a host: its first. -/
def recordOf (receivers : List ReceiverRecord) (host : String) : Option ReceiverRecord :=
  receivers.find? fun record => record.host = some host

/-- The flow runs between the inner addresses of the sender's hosts. -/
def carries (topo : Topo) (record : SenderRecord) (flow : FlowRecord) : Bool :=
  match hostId? record.src, hostId? record.dst with
  | some srcId, some dstId =>
      match topo.innerAddr record.tenant srcId, topo.innerAddr record.tenant dstId with
      | .ok srcAddr, .ok dstAddr => between (canonAddr srcAddr) (canonAddr dstAddr) flow
      | _, _ => false
  | _, _ => false

/-- The flow a sender record is matched with: its host and its position there. -/
def supplier? (topo : Topo) (receivers : List ReceiverRecord) (record : SenderRecord) :
    Option (String × Nat) :=
  (recordOf receivers record.dst).bind fun received =>
    ((received.flows.getD []).findIdx? (carries topo record)).map fun index => (record.dst, index)

def flowAt (receivers : List ReceiverRecord) (position : String × Nat) : Option FlowRecord :=
  (recordOf receivers position.1).bind fun received => (received.flows.getD [])[position.2]?

/-- The flows of the kept records, in the order the orphans are looked for. -/
def positions (receivers : List ReceiverRecord) : List (String × Nat) :=
  (keepReceivers receivers).1.entries.flatMap fun (host, received) =>
    (received.flows.getD []).zipIdx.map fun (_, index) => (host, index)

def positionKey (receivers : List ReceiverRecord) (position : String × Nat) :
    String × Option FlowKey :=
  (position.1, (flowAt receivers position).map flowKey)

def suppliers (topo : Topo) (senders : List SenderRecord) (receivers : List ReceiverRecord) :
    List (String × Nat) :=
  senders.filterMap (supplier? topo receivers)

/-- The flows reported as orphans. -/
def orphans (topo : Topo) (senders : List SenderRecord) (receivers : List ReceiverRecord) :
    List (String × Nat) :=
  leftOver (positionKey receivers) (positions receivers) (suppliers topo senders receivers)

/-- A row with the sender's numbers and those of the flow it is matched with, if any. -/
def RowOf (topo : Topo) (receivers : List ReceiverRecord) (record : SenderRecord) (row : FlowRow) :
    Prop :=
  ∃ notes perNicRx, row =
    { ((supplier? topo receivers record).bind (flowAt receivers)).elim (senderRow record)
        (fillRow (senderRow record)) with notes, perNicRx }

/-! ## Kept records -/

theorem find?_keepReceiver (state : OrderedDict String ReceiverRecord × List String)
    (record : ReceiverRecord) (host : String) :
    (keepReceiver state record).1.find? host =
      (state.1.find? host).or (if record.host = some host then some record else none) := by
  unfold keepReceiver
  cases named : record.host with
  | none => simp
  | some name =>
      dsimp only
      split
      · next seen =>
        by_cases same : name = host
        · subst same
          obtain ⟨held, found⟩ := Option.isSome_iff_exists.mp seen
          rw [found]
          rfl
        · simp [same]
      · next unseen =>
        rw [OrderedDict.find?_set]
        by_cases same : host = name
        · subst same
          rw [Option.not_isSome_iff_eq_none.mp unseen]
          simp
        · have other : ¬ name = host := fun h => same h.symm
          simp [same, other]

theorem find?_keepReceivers (receivers : List ReceiverRecord) (host : String) :
    (keepReceivers receivers).1.find? host = recordOf receivers host := by
  have all (state : OrderedDict String ReceiverRecord × List String) :
      (receivers.foldl keepReceiver state).1.find? host =
        (state.1.find? host).or (recordOf receivers host) := by
    induction receivers generalizing state with
    | nil => simp [recordOf]
    | cons record rest ih =>
        rw [List.foldl_cons, ih, find?_keepReceiver, Option.or_assoc]
        by_cases named : record.host = some host
        · simp [named, recordOf]
        · simp [named, recordOf]
  exact all _

theorem mem_positions {receivers : List ReceiverRecord} {host : String} {index : Nat} :
    (host, index) ∈ positions receivers ↔
      ∃ received, recordOf receivers host = some received ∧
        index < (received.flows.getD []).length := by
  rw [positions, List.mem_flatMap]
  constructor
  · rintro ⟨⟨other, received⟩, mem, inRecord⟩
    obtain ⟨⟨flow, position⟩, flowMem, same⟩ := List.mem_map.mp inRecord
    obtain ⟨rfl, rfl⟩ := Prod.mk.inj same
    refine ⟨received, ?_, (List.mem_zipIdx' flowMem).1⟩
    rw [← find?_keepReceivers]
    exact OrderedDict.find?_eq_some_iff.mpr mem
  · rintro ⟨received, found, inRange⟩
    rw [← find?_keepReceivers] at found
    refine ⟨(host, received), OrderedDict.find?_eq_some_iff.mp found, List.mem_map.mpr
      ⟨((received.flows.getD [])[index], index), ?_, rfl⟩⟩
    exact List.mk_mem_zipIdx_iff_getElem?.mpr (List.getElem?_eq_getElem inRange)

theorem nodup_positions (receivers : List ReceiverRecord) : (positions receivers).Nodup := by
  refine List.nodup_flatMap.mpr ⟨fun entry _ => ?_, ?_⟩
  · have indices : ((entry.2.flows.getD []).zipIdx.map Prod.snd).Nodup := by
      rw [List.zipIdx_map_snd]
      exact List.nodup_range'
    exact List.Nodup.of_map Prod.snd (by rwa [List.map_map])
  · have hosts := List.pairwise_map.mp (keepReceivers receivers).1.nodup
    refine hosts.imp fun different position first second => different ?_
    obtain ⟨_, -, rfl⟩ := List.mem_map.mp first
    obtain ⟨_, -, same⟩ := List.mem_map.mp second
    exact (congrArg Prod.fst same).symm

theorem flowAt_of_mem {receivers : List ReceiverRecord} {host : String} {received : ReceiverRecord}
    (kept : (host, received) ∈ (keepReceivers receivers).1.entries) {flow : FlowRecord} {index : Nat}
    (mem : (flow, index) ∈ (received.flows.getD []).zipIdx) :
    flowAt receivers (host, index) = some flow := by
  rw [flowAt, ← find?_keepReceivers, OrderedDict.find?_eq_some_iff.mpr kept, Option.bind_some]
  exact List.mk_mem_zipIdx_iff_getElem?.mp mem

/-! ## Orphans -/

/-- The text about an orphan. -/
def orphanText (receivers : List ReceiverRecord) (position : String × Nat) : String :=
  (flowAt receivers position).elim "" (orphanWarning position.1)

/-- Filtering positions is filtering what stands there. -/
theorem map_filter_zipIdx {α β γ : Type} {items : List α} {position : Nat → β} {keepAt : β → Bool}
    {keep : α → Bool} {showAt : β → γ} {show_ : α → γ}
    (same : ∀ entry ∈ items.zipIdx, keepAt (position entry.2) = keep entry.1 ∧
      showAt (position entry.2) = show_ entry.1) :
    ((items.zipIdx.map fun entry => position entry.2).filter keepAt).map showAt =
      (items.filter keep).map show_ := by
  have kept : items.zipIdx.filter (keepAt ∘ fun entry => position entry.2) =
      items.zipIdx.filter (keep ∘ Prod.fst) :=
    List.filter_congr fun entry mem => (same entry mem).1
  conv_rhs => rw [← List.zipIdx_map_fst 0 items]
  rw [List.filter_map, List.filter_map, List.map_map, List.map_map, kept]
  exact List.map_congr_left fun entry mem => (same entry (List.mem_filter.mp mem).1).2

theorem flatMap_orphanWarnings {topo : Topo} {senders : List SenderRecord}
    {receivers : List ReceiverRecord} {matched : List (String × FlowKey)}
    (claimed : ∀ host key, (host, key) ∈ matched ↔
      (host, some key) ∈ (suppliers topo senders receivers).map (positionKey receivers)) :
    ((keepReceivers receivers).1.entries.flatMap fun (host, received) =>
      orphanWarnings matched host received) =
      (orphans topo senders receivers).map (orphanText receivers) := by
  rw [orphans, leftOver, positions, List.filter_flatMap, List.map_flatMap]
  refine List.flatMap_congr fun entry mem => ?_
  obtain ⟨host, received⟩ := entry
  symm
  refine map_filter_zipIdx fun item itemMem => ?_
  obtain ⟨flow, index⟩ := item
  have there := flowAt_of_mem mem itemMem
  constructor
  · rw [positionKey, there]
    exact decide_eq_decide.mpr (not_congr (claimed host (flowKey flow)).symm)
  · rw [orphanText, there]
    rfl

/-! ## The merge loop -/

/-- The name of a host whose id Python can print. -/
def IsHost (topo : Topo) (tenant name : String) (hostId : Nat) : Prop :=
  name = Topo.hostName tenant hostId ∧ hostId < topo.numLeaves ∧
    (Nat.toDigits 10 hostId).length ≤ maxStrDigits

/-- A sender record between two hosts of its tenant. -/
def OfHosts (topo : Topo) (record : SenderRecord) : Prop :=
  record.tenant ∈ topo.tenants ∧
    ∃ srcId dstId, IsHost topo record.tenant record.src srcId ∧
      IsHost topo record.tenant record.dst dstId

/-- The canonical inner address of a host. -/
def canonInner (tenant : String) (hostId : Nat) : String :=
  String.ofList ([':'].intercalate (canonicalParts tenant hostId))

theorem IsHost.hostId? {topo : Topo} {tenant name : String} {hostId : Nat}
    (host : IsHost topo tenant name hostId) : hostId? name = some (hostId : Int) := by
  obtain ⟨rfl, -, short⟩ := host
  exact hostId?_hostName tenant short

theorem IsHost.innerAddr {topo : Topo} {tenant name : String} {hostId : Nat}
    (host : IsHost topo tenant name hostId) (known : tenant ∈ topo.tenants) :
    ∃ address, topo.innerAddr tenant hostId = .ok address ∧
      canonAddr address = canonInner tenant hostId :=
  ⟨_, innerAddr_ok known host.2.1, canonAddr_inner tenant hostId⟩

theorem carries_ofHosts {topo : Topo} {record : SenderRecord} (known : record.tenant ∈ topo.tenants)
    {srcId dstId : Nat} (src : IsHost topo record.tenant record.src srcId)
    (dst : IsHost topo record.tenant record.dst dstId) :
    carries topo record = between (canonInner record.tenant srcId) (canonInner record.tenant dstId) := by
  obtain ⟨srcAddr, srcOk, srcCanon⟩ := src.innerAddr known
  obtain ⟨dstAddr, dstOk, dstCanon⟩ := dst.innerAddr known
  funext flow
  rw [carries, src.hostId?, dst.hostId?]
  dsimp only
  rw [srcOk, dstOk]
  dsimp only
  rw [srcCanon, dstCanon]

/-- What the loop has done after some sender records. -/
structure Follows (topo : Topo) (receivers : List ReceiverRecord) (done : List SenderRecord)
    (state : Merge) : Prop where
  kept : state.kept.entries.map (Prod.map id ReceiverRecord.flows) =
    (keepReceivers receivers).1.entries.map (Prod.map id ReceiverRecord.flows)
  matched : ∀ host key, (host, key) ∈ state.matched ↔
    (host, some key) ∈ (suppliers topo done receivers).map (positionKey receivers)
  rows : List.Forall₂ (RowOf topo receivers) done state.rows

theorem Follows.find? {topo : Topo} {receivers : List ReceiverRecord} {done : List SenderRecord}
    {state : Merge} (follows : Follows topo receivers done state) (host : String) :
    (state.kept.find? host).map ReceiverRecord.flows =
      (recordOf receivers host).map ReceiverRecord.flows := by
  rw [← find?_keepReceivers]
  change (OrderedDict.findEntry host _).map _ = (OrderedDict.findEntry host _).map _
  rw [← OrderedDict.findEntry_map, ← OrderedDict.findEntry_map, follows.kept]

theorem suppliers_concat (topo : Topo) (done : List SenderRecord) (record : SenderRecord)
    (receivers : List ReceiverRecord) :
    suppliers topo (done ++ [record]) receivers =
      suppliers topo done receivers ++ (supplier? topo receivers record).toList := by
  rw [suppliers, suppliers, List.filterMap_append]
  cases supplied : supplier? topo receivers record <;> simp [supplied]

/-- A round without a match. -/
theorem Follows.unmatched {topo : Topo} {receivers : List ReceiverRecord}
    {done : List SenderRecord} {state : Merge} (follows : Follows topo receivers done state)
    {record : SenderRecord} (none_ : supplier? topo receivers record = none) (notes : List String) :
    Follows topo receivers (done ++ [record])
      (state.append { senderRow record with notes }) where
  kept := follows.kept
  matched host key := by
    rw [suppliers_concat, none_, Option.toList_none, List.append_nil]
    exact follows.matched host key
  rows := by
    refine List.rel_append follows.rows (.cons ⟨notes, .empty, ?_⟩ .nil)
    rw [none_]
    rfl

/-- A round with a match: the record keeps its flows, whether or not it is marked now. -/
theorem Follows.matchedWith {topo : Topo} {receivers : List ReceiverRecord}
    {done : List SenderRecord} {state : Merge} (follows : Follows topo receivers done state)
    {record : SenderRecord} {position : String × Nat} {flow : FlowRecord} {recv : ReceiverRecord}
    (supplied : supplier? topo receivers record = some position)
    (there : flowAt receivers position = some flow) (found : state.kept.find? record.dst = some recv) :
    Follows topo receivers (done ++ [record])
      ({ state with matched := (position.1, flowKey flow) :: state.matched }.attach
        (senderRow record) recv flow) := by
  have matched (host : String) (key : FlowKey) :
      (host, key) ∈ (position.1, flowKey flow) :: state.matched ↔
        (host, some key) ∈ (suppliers topo (done ++ [record]) receivers).map
          (positionKey receivers) := by
    rw [suppliers_concat, supplied, Option.toList_some, List.map_append, List.mem_append,
      ← follows.matched, List.map_singleton, List.mem_singleton, positionKey, there, List.mem_cons]
    simp [or_comm]
  have row (perNicRx : OrderedDict String Nat) :
      RowOf topo receivers record { fillRow (senderRow record) flow with perNicRx } := by
    refine ⟨[], perNicRx, ?_⟩
    rw [supplied, Option.bind_some, there]
    rfl
  unfold Merge.attach
  dsimp only
  split
  · exact ⟨follows.kept, matched, List.rel_append follows.rows (.cons (row .empty) .nil)⟩
  · refine ⟨?_, matched, List.rel_append follows.rows (.cons (row _) .nil)⟩
    rw [← follows.kept]
    exact OrderedDict.map_setEntry ReceiverRecord.flows found rfl

theorem mergeSender_of_none {topo : Topo} {state : Merge} {record : SenderRecord}
    (missing : state.kept.find? record.dst = none) :
    mergeSender topo state record = .ok (state.append { senderRow record with
      notes := [s!"no receiver record for dst={record.dst}"] }) := by
  unfold mergeSender
  dsimp only
  rw [show state.kept.find? (senderRow record).dstHost = none from missing]
  rfl

theorem mergeSender_of_some {topo : Topo} {state : Merge} {record : SenderRecord}
    {recv : ReceiverRecord} {flows : List FlowRecord} {srcId dstId : Int} {srcAddr dstAddr : String}
    (found : state.kept.find? record.dst = some recv) (flowsFound : recv.flows = some flows)
    (src : hostId? record.src = some srcId) (dst : hostId? record.dst = some dstId)
    (srcOk : topo.innerAddr record.tenant srcId = .ok srcAddr)
    (dstOk : topo.innerAddr record.tenant dstId = .ok dstAddr) :
    mergeSender topo state record =
      match flows.find? (between (canonAddr srcAddr) (canonAddr dstAddr)) with
      | none => .ok (state.append { senderRow record with
          notes := [s!"receiver {record.dst} saw no flow {srcAddr} -> {dstAddr}"] })
      | some flow => .ok ({ state with matched := (record.dst,
          ⟨canonAddr srcAddr, canonAddr dstAddr, flow.sport, flow.dport⟩) :: state.matched }.attach
            (senderRow record) recv flow) := by
  unfold mergeSender
  dsimp only
  rw [show state.kept.find? (senderRow record).dstHost = some recv from found]
  dsimp only
  rw [show hostId? (senderRow record).srcHost = some srcId from src,
    show hostId? (senderRow record).dstHost = some dstId from dst]
  dsimp only
  rw [bind_of_ok (show topo.innerAddr (senderRow record).tenant srcId = _ from srcOk),
    bind_of_ok (show topo.innerAddr (senderRow record).tenant dstId = _ from dstOk), flowsFound]
  rfl

/-- One round of the loop. -/
theorem Follows.step {topo : Topo} {receivers : List ReceiverRecord} {done : List SenderRecord}
    {state : Merge} (follows : Follows topo receivers done state)
    (present : ∀ received ∈ receivers, received.flows.isSome) {record : SenderRecord}
    (ofHosts : OfHosts topo record) :
    ∃ next, mergeSender topo state record = .ok next ∧
      Follows topo receivers (done ++ [record]) next := by
  obtain ⟨known, srcId, dstId, src, dst⟩ := ofHosts
  have flowsSame := follows.find? record.dst
  cases found : state.kept.find? record.dst with
  | none =>
      rw [found] at flowsSame
      have absent : recordOf receivers record.dst = none := by simpa using flowsSame.symm
      have none_ : supplier? topo receivers record = none := by
        rw [supplier?, absent, Option.bind_none]
      exact ⟨_, mergeSender_of_none found, follows.unmatched none_ _⟩
  | some recv =>
      rw [found] at flowsSame
      obtain ⟨received, isKept, flowsEq⟩ := Option.map_eq_some_iff.mp flowsSame.symm
      obtain ⟨flows, flowsFound⟩ := Option.isSome_iff_exists.mp
        (present received (List.mem_of_find?_eq_some isKept))
      obtain ⟨srcAddr, srcOk, srcCanon⟩ := src.innerAddr known
      obtain ⟨dstAddr, dstOk, dstCanon⟩ := dst.innerAddr known
      have merged := mergeSender_of_some found (flowsEq.symm.trans flowsFound) src.hostId?
        dst.hostId? srcOk dstOk
      have supplierEq : supplier? topo receivers record =
          (flows.findIdx? (between (canonAddr srcAddr) (canonAddr dstAddr))).map
            fun index => (record.dst, index) := by
        rw [supplier?, isKept, Option.bind_some, flowsFound, carries_ofHosts known src dst, srcCanon,
          dstCanon]
        rfl
      rw [List.find?_eq_bind_findIdx?_getElem?] at merged
      cases first : flows.findIdx? (between (canonAddr srcAddr) (canonAddr dstAddr)) with
      | none =>
          rw [first] at merged supplierEq
          exact ⟨_, merged, follows.unmatched supplierEq _⟩
      | some index =>
          obtain ⟨inRange, between_, -⟩ := List.findIdx?_eq_some_iff_getElem.mp first
          have there : flowAt receivers (record.dst, index) = some flows[index] := by
            rw [flowAt, isKept, Option.bind_some, flowsFound]
            exact List.getElem?_eq_getElem inRange
          rw [first, Option.bind_some, List.getElem?_eq_getElem inRange] at merged
          rw [first] at supplierEq
          have key : (⟨canonAddr srcAddr, canonAddr dstAddr, flows[index].sport,
              flows[index].dport⟩ : FlowKey) = flowKey flows[index] := by
            rw [between, Bool.and_eq_true, decide_eq_true_eq, decide_eq_true_eq] at between_
            rw [flowKey, between_.1, between_.2]
          dsimp only at merged
          rw [key] at merged
          exact ⟨_, merged, follows.matchedWith supplierEq there found⟩

/-- The whole loop. -/
theorem Follows.run {topo : Topo} {receivers : List ReceiverRecord}
    (present : ∀ received ∈ receivers, received.flows.isSome) {senders : List SenderRecord}
    (ofHosts : ∀ record ∈ senders, OfHosts topo record) {done : List SenderRecord} {state : Merge}
    (follows : Follows topo receivers done state) :
    ∃ final, senders.foldlM (mergeSender topo) state = .ok final ∧
      Follows topo receivers (done ++ senders) final := by
  induction senders generalizing done state with
  | nil => exact ⟨state, rfl, by rwa [List.append_nil]⟩
  | cons record rest ih =>
      obtain ⟨here, later⟩ := List.forall_mem_cons.mp ofHosts
      obtain ⟨next, merged, nextFollows⟩ := follows.step present here
      obtain ⟨final, ran, finalFollows⟩ := ih later nextFollows
      refine ⟨final, ?_, ?_⟩
      · rw [List.foldlM_cons, bind_of_ok merged, ran]
      · rwa [List.append_assoc] at finalFollows

theorem follows_start (topo : Topo) (receivers : List ReceiverRecord) :
    Follows topo receivers [] ⟨(keepReceivers receivers).1, [], []⟩ where
  kept := rfl
  matched host key := by simp [suppliers]
  rows := .nil

/-! ## When the books balance -/

/-- No flow of the record kept of its destination runs between the sender's hosts. -/
def Unheard (topo : Topo) (receivers : List ReceiverRecord) (record : SenderRecord) : Prop :=
  ∀ received, recordOf receivers record.dst = some received →
    ∀ flow ∈ received.flows.getD [], carries topo record flow = false

/-- No two sender records compete for a flow, and a matched flow shares its canonical key
with no other flow of its host. -/
structure Separate (topo : Topo) (senders : List SenderRecord) (receivers : List ReceiverRecord) :
    Prop where
  hosts : senders.Pairwise fun first second =>
    first.src = second.src → first.dst = second.dst → Unheard topo receivers first
  spelling : ∀ record ∈ senders, ∀ position ∈ supplier? topo receivers record,
    ∀ other ∈ positions receivers,
      positionKey receivers other = positionKey receivers position → other = position

theorem supplier?_eq_none_iff {topo : Topo} {receivers : List ReceiverRecord}
    {record : SenderRecord} : supplier? topo receivers record = none ↔ Unheard topo receivers record := by
  rw [supplier?, Unheard]
  cases recordOf receivers record.dst with
  | none => simp
  | some received => simp [List.findIdx?_eq_none_iff]

theorem supplier?_eq_some {topo : Topo} {receivers : List ReceiverRecord} {record : SenderRecord}
    {position : String × Nat} (supplied : supplier? topo receivers record = some position) :
    position.1 = record.dst ∧ position ∈ positions receivers ∧
      ∃ flow, flowAt receivers position = some flow ∧ carries topo record flow := by
  obtain ⟨received, isKept, matched⟩ := Option.bind_eq_some_iff.mp supplied
  obtain ⟨index, first, rfl⟩ := Option.map_eq_some_iff.mp matched
  obtain ⟨inRange, isCarried, -⟩ := List.findIdx?_eq_some_iff_getElem.mp first
  refine ⟨rfl, mem_positions.mpr ⟨received, isKept, inRange⟩, _, ?_, isCarried⟩
  rw [flowAt, isKept, Option.bind_some, List.getElem?_eq_getElem inRange]

/-- Records that carry the same flows to one host are matched with the same flow. -/
theorem supplier?_congr {topo : Topo} {receivers : List ReceiverRecord}
    {first second : SenderRecord} (dst : first.dst = second.dst)
    (same : carries topo first = carries topo second) :
    supplier? topo receivers first = supplier? topo receivers second := by
  rw [supplier?, supplier?, dst, same]

theorem carries_eq_of_key {topo : Topo} {first second : SenderRecord} (firstHosts : OfHosts topo first)
    (secondHosts : OfHosts topo second) {flow other : FlowRecord} (carried : carries topo first flow)
    (otherCarried : carries topo second other) (key : flowKey flow = flowKey other) :
    carries topo first = carries topo second := by
  obtain ⟨known, srcId, dstId, src, dst⟩ := firstHosts
  obtain ⟨otherKnown, otherSrcId, otherDstId, otherSrc, otherDst⟩ := secondHosts
  rw [carries_ofHosts known src dst] at carried ⊢
  rw [carries_ofHosts otherKnown otherSrc otherDst] at otherCarried ⊢
  rw [between, Bool.and_eq_true, decide_eq_true_eq, decide_eq_true_eq] at carried otherCarried
  have srcSame : canonAddr flow.src = canonAddr other.src := congrArg FlowKey.srcAddr key
  have dstSame : canonAddr flow.dst = canonAddr other.dst := congrArg FlowKey.dstAddr key
  rw [← carried.1, ← carried.2, srcSame, dstSame, otherCarried.1, otherCarried.2]

/-- Two records are matched with one flow exactly when they name the same hosts and the flow
exists. -/
theorem competes_iff {topo : Topo} {receivers : List ReceiverRecord} {first second : SenderRecord}
    (firstHosts : OfHosts topo first) (secondHosts : OfHosts topo second) :
    (∀ position, supplier? topo receivers first = some position →
      ∀ other, supplier? topo receivers second = some other → position ≠ other) ↔
      (first.src = second.src → first.dst = second.dst → Unheard topo receivers first) := by
  obtain ⟨known, srcId, dstId, src, dst⟩ := firstHosts
  obtain ⟨otherKnown, otherSrcId, otherDstId, otherSrc, otherDst⟩ := secondHosts
  have carried := carries_ofHosts known src dst
  have otherCarried := carries_ofHosts otherKnown otherSrc otherDst
  have dstIds (same : first.dst = second.dst) : first.tenant = second.tenant ∧ dstId = otherDstId :=
    hostName_injective (dst.1.symm.trans (same.trans otherDst.1))
  constructor
  · intro apart sameSrc sameDst
    obtain ⟨tenantEq, rfl⟩ := dstIds sameDst
    obtain ⟨-, rfl⟩ := hostName_injective (src.1.symm.trans (sameSrc.trans otherSrc.1))
    have same : supplier? topo receivers first = supplier? topo receivers second :=
      supplier?_congr sameDst (by rw [carried, otherCarried, tenantEq])
    rw [← supplier?_eq_none_iff]
    cases supplied : supplier? topo receivers first with
    | none => rfl
    | some position => exact absurd rfl (apart position supplied position (same ▸ supplied))
  · rintro unheard position supplied other otherSupplied rfl
    obtain ⟨isDst, -, flow, there, flowCarried⟩ := supplier?_eq_some supplied
    obtain ⟨isOtherDst, -, again, thereToo, againCarried⟩ := supplier?_eq_some otherSupplied
    obtain rfl := Option.some.inj (there.symm.trans thereToo)
    have sameDst : first.dst = second.dst := isDst.symm.trans isOtherDst
    obtain ⟨tenantEq, rfl⟩ := dstIds sameDst
    rw [carried, between, Bool.and_eq_true, decide_eq_true_eq] at flowCarried
    rw [otherCarried, ← tenantEq, between, Bool.and_eq_true, decide_eq_true_eq] at againCarried
    obtain rfl := canonicalParts_injective (flowCarried.1.symm.trans againCarried.1)
    have none_ := supplier?_eq_none_iff.mpr (unheard (by rw [src.1, otherSrc.1, tenantEq]) sameDst)
    rw [supplied] at none_
    cases none_

/-- No flow is matched twice exactly when no two records compete. -/
theorem nodup_suppliers_iff {topo : Topo} {senders : List SenderRecord}
    {receivers : List ReceiverRecord} (ofHosts : ∀ record ∈ senders, OfHosts topo record) :
    (suppliers topo senders receivers).Nodup ↔ senders.Pairwise fun first second =>
      first.src = second.src → first.dst = second.dst → Unheard topo receivers first := by
  rw [suppliers, List.Nodup, List.pairwise_filterMap]
  constructor
  · exact List.Pairwise.imp_of_mem fun first second =>
      (competes_iff (ofHosts _ first) (ofHosts _ second)).mp
  · exact List.Pairwise.imp_of_mem fun first second =>
      (competes_iff (ofHosts _ first) (ofHosts _ second)).mpr

/-- No unmatched flow hides behind the key of a matched one exactly when no other flow
shares that key. -/
theorem unhidden_iff {topo : Topo} {senders : List SenderRecord} {receivers : List ReceiverRecord}
    (ofHosts : ∀ record ∈ senders, OfHosts topo record) :
    (∀ other ∈ positions receivers, positionKey receivers other ∈
        (suppliers topo senders receivers).map (positionKey receivers) →
          other ∈ suppliers topo senders receivers) ↔
      ∀ record ∈ senders, ∀ position ∈ supplier? topo receivers record,
        ∀ other ∈ positions receivers,
          positionKey receivers other = positionKey receivers position → other = position := by
  constructor
  · intro unhidden record mem position supplied other otherMem sameKey
    have positionMem : position ∈ suppliers topo senders receivers :=
      List.mem_filterMap.mpr ⟨record, mem, supplied⟩
    obtain ⟨second, secondMem, otherSupplied⟩ := List.mem_filterMap.mp
      (unhidden other otherMem (by rw [sameKey]; exact List.mem_map_of_mem positionMem))
    obtain ⟨isDst, -, flow, there, carried⟩ := supplier?_eq_some supplied
    obtain ⟨isOtherDst, -, otherFlow, otherThere, otherCarried⟩ := supplier?_eq_some otherSupplied
    have sameHost : other.1 = position.1 :=
      congrArg (fun key : String × Option FlowKey => key.1) sameKey
    have sameFlowKey : flowKey otherFlow = flowKey flow := by
      rw [positionKey, positionKey, there, otherThere] at sameKey
      exact Option.some.inj (Prod.mk.inj sameKey).2
    have same : supplier? topo receivers second = supplier? topo receivers record :=
      supplier?_congr (isOtherDst.symm.trans (sameHost.trans isDst))
        (carries_eq_of_key (ofHosts second secondMem) (ofHosts record mem) otherCarried carried
          sameFlowKey)
    exact Option.some.inj (otherSupplied.symm.trans (same.trans supplied))
  · intro separate other otherMem shared
    obtain ⟨position, positionMem, sameKey⟩ := List.mem_map.mp shared
    obtain ⟨record, mem, supplied⟩ := List.mem_filterMap.mp positionMem
    rw [separate record mem position supplied other otherMem sameKey.symm]
    exact positionMem

/-- The merged report has a row for every sender record, in order, and a warning for every
orphan; and every flow of every kept record fills one row or is one orphan exactly when the
records are separate. -/
theorem flows_accounted_iff {topo : Topo} (scenario : String) {senders : List SenderRecord}
    {receivers : List ReceiverRecord} (ofHosts : ∀ record ∈ senders, OfHosts topo record)
    (present : ∀ received ∈ receivers, received.flows.isSome) :
    (∃ report kept, fromRecords topo scenario senders receivers = .ok (report, kept) ∧
      List.Forall₂ (RowOf topo receivers) senders report.flows ∧
      report.warnings = (keepReceivers receivers).2 ++
        (orphans topo senders receivers).map (orphanText receivers)) ∧
    ((∀ host received, recordOf receivers host = some received →
      ∀ index < (received.flows.getD []).length,
        (suppliers topo senders receivers).count (host, index) +
          (orphans topo senders receivers).count (host, index) = 1) ↔
      Separate topo senders receivers) := by
  constructor
  · obtain ⟨final, ran, follows⟩ := (follows_start topo receivers).run present ofHosts
    rw [List.nil_append] at follows
    refine ⟨⟨scenario, final.rows, _⟩, final.kept, ?_, follows.rows, rfl⟩
    have orphansEq : (final.kept.entries.flatMap fun (host, record) =>
        orphanWarnings final.matched host record) =
        (orphans topo senders receivers).map (orphanText receivers) := by
      rw [← flatMap_orphanWarnings follows.matched]
      have byFlows (entries : List (String × ReceiverRecord)) :
          (entries.flatMap fun (host, record) => orphanWarnings final.matched host record) =
            (entries.map (Prod.map id ReceiverRecord.flows)).flatMap fun (host, flows) =>
              ((flows.getD []).filter fun flow => (host, flowKey flow) ∉ final.matched).map
                (orphanWarning host) := by
        rw [List.flatMap_map]
        rfl
      rw [byFlows, byFlows, follows.kept]
    rw [fromRecords, ← orphansEq]
    exact bind_of_ok ran
  · have known : ∀ position ∈ suppliers topo senders receivers, position ∈ positions receivers := by
      intro position mem
      obtain ⟨record, -, supplied⟩ := List.mem_filterMap.mp mem
      exact (supplier?_eq_some supplied).2.1
    have accounted : AccountedOnce (positionKey receivers) _ _ ↔ _ := accountedOnce_iff (nodup_positions receivers) known
    rw [nodup_suppliers_iff ofHosts, unhidden_iff ofHosts] at accounted
    constructor
    · intro once
      obtain ⟨hosts, spelling⟩ := accounted.mp fun position mem => by
        obtain ⟨received, isKept, inRange⟩ := mem_positions.mp mem
        exact once position.1 received isKept position.2 inRange
      exact ⟨hosts, spelling⟩
    · rintro ⟨hosts, spelling⟩ host received isKept index inRange
      exact accounted.mpr ⟨hosts, spelling⟩ (host, index)
        (mem_positions.mpr ⟨received, isKept, inRange⟩)

/-- A round-robin sender of the green tenant. -/
def greenSender (src dst : String) (ratePps sent : Nat) : SenderRecord where
  src := src
  dst := dst
  tenant := "green"
  policy := "round_robin"
  spine := 0
  ratePps := ratePps
  durationS := .zero
  sent := sent
  elapsedS := .zero
  perPlaneSent := .empty

/-- A flow without loss or reordering. -/
def cleanFlow (src dst : String) (received : Nat) : FlowRecord where
  src := src
  dst := dst
  sport := 9999
  dport := 9999
  received := received
  loss := 0
  duplicates := 0
  reorderMax := 0
  reorderMean := .zero
  reorderP99 := 0

/-- What host 7 saw of hosts 0, 1 and 2, as `scapy` spells their addresses. -/
def hostSeven : ReceiverRecord where
  host := some "green-host07"
  flows := some [cleanFlow "2001:db8:bbbb::2" "2001:db8:bbbb:7::2" 4000,
    cleanFlow "2001:db8:bbbb:1::2" "2001:db8:bbbb:7::2" 500,
    cleanFlow "2001:db8:bbbb:2::2" "2001:db8:bbbb:7::2" 42]

theorem ofHosts_greenSender (src dst ratePps sent : Nat) (srcSmall : src < 8) (dstSmall : dst < 8) :
    OfHosts Topo.twoPlanes
      (greenSender (Topo.hostName "green" src) (Topo.hostName "green" dst) ratePps sent) := by
  have short : ∀ hostId < 8, (Nat.toDigits 10 hostId).length ≤ maxStrDigits := by decide
  have known : "green" ∈ Topo.twoPlanes.tenants := by decide
  exact ⟨known, src, dst, ⟨rfl, srcSmall, short src srcSmall⟩, ⟨rfl, dstSmall, short dst dstSmall⟩⟩

/-- Two rows and one orphan. -/
theorem three_flows_of_two_senders :
    let senders := [greenSender "green-host00" "green-host07" 1000 4000,
      greenSender "green-host01" "green-host07" 1000 500]
    ∀ host received, recordOf [hostSeven] host = some received →
      ∀ index < (received.flows.getD []).length,
        (suppliers Topo.twoPlanes senders [hostSeven]).count (host, index) +
          (orphans Topo.twoPlanes senders [hostSeven]).count (host, index) = 1 := by
  refine (flows_accounted_iff "baseline" ?_ ?_).2.mpr ⟨?_, ?_⟩
  · rintro record (_ | ⟨_, _ | ⟨_, ⟨⟩⟩⟩)
    · exact ofHosts_greenSender 0 7 1000 4000 (by decide) (by decide)
    · exact ofHosts_greenSender 1 7 1000 500 (by decide) (by decide)
  · simp [hostSeven]
  · simp [greenSender]
  · decide +kernel

/-- Two senders over one pair send the same sequence numbers from the same port: the
receiver's one flow fills both rows. -/
theorem one_flow_fills_two_rows :
    let senders := [greenSender "green-host00" "green-host07" 1000 4000,
      greenSender "green-host00" "green-host07" 500 2000]
    let receivers := [{ hostSeven with
      flows := some [{ cleanFlow "2001:db8:bbbb::2" "2001:db8:bbbb:7::2" 4000 with
        duplicates := 2000 }] }]
    (fromRecords Topo.twoPlanes "twice" senders receivers).map (fun (report, _) =>
      (report.flows.map FlowRow.received, report.warnings)) = .ok ([some 4000, some 4000], []) ∧
    (suppliers Topo.twoPlanes senders receivers).count ("green-host07", 0) = 2 := by
  decide +kernel

end Srv6Fabric.ScenarioReport

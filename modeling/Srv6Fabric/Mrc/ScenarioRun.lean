import Srv6Fabric.Mrc.FlowRuns
import Srv6Fabric.Mrc.ScenarioRunnable
import Srv6Fabric.Netem.Teardown
import Srv6Fabric.ReportAccounting

/-!
# From a scenario to its report

`run_scenario` puts together what the other modules tell of: the flows of the scenario, the
commands in the containers, the faults around them and the merge of the records.  If no
exception comes out of the flows, each of them is a row of the report or a line on stderr.
-/

namespace Srv6Fabric.Mrc.Orchestrator

open Library ScenarioReport

/-- `RECV_IDLE_TIMEOUT_S`. -/
def recvIdleTimeoutS : PyFloat := .finite 6 (by decide +kernel)

/-- A fault as `netem.py` knows it. -/
def netemFault (fault : FaultSpec) : Netem.FaultSpec := ⟨fault.kind, fault.target, fault.spec⟩

/-- How the merge reads the records. -/
structure Reading where
  sender : Yaml → SenderRecord
  receiver : Yaml → ReceiverRecord

/-- `run_scenario`, live. -/
def runScenario (docker : Docker) (json : Json) (reading : Reading) (runner : Netem.Runner)
    (topo : Topo) (log : Netem.Log) (scenario : Scenario) :
    Netem.LiveRun (Except PyError (ScenarioReport × OrderedDict String ReceiverRecord)) :=
  Netem.runScenario runner topo log (expandFlows scenario)
    (fun flows => (runFlows docker json recvIdleTimeoutS scenario.mrc flows).result)
    (fun (senders, receivers) => fromRecords topo scenario.name (senders.map reading.sender)
      (receivers.map reading.receiver))
    (scenario.faults.map netemFault)

/-! ## Who has left a record -/

/-- A command has left a record. -/
def leavesRecord {α : Type} (visit : α → Except PyError (Yaml ⊕ String)) (item : α) : Bool :=
  match visit item with
  | .ok (.inl _) => true
  | _ => false

section Outcomes

variable (docker : Docker) (json : Json) (env : Option (List (String × String)))

/-- The records name the hosts whose commands have printed them. -/
structure Labelled (reading : Reading) (flows : List FlowRun) : Prop where
  sender : ∀ entry ∈ flows.zipIdx, ∀ record, sendFlow docker json env entry = .ok (.inl record) →
    (reading.sender record).src = entry.1.srcHost ∧ (reading.sender record).dst = entry.1.dstHost ∧
      (reading.sender record).tenant = entry.1.tenant
  receiver : ∀ host ∈ destinations flows, ∀ record,
    receiveHost docker json host = .ok (.inl record) →
      (reading.receiver record).host = some host ∧ (reading.receiver record).flows.isSome

end Outcomes

/-! ## Merging -/

/-- The merge of records between hosts, with a row for each sender record. -/
theorem fromRecords_ok {topo : Topo} (scenario : String) {senders : List SenderRecord}
    {receivers : List ReceiverRecord} (ofHosts : ∀ record ∈ senders, OfHosts topo record)
    (present : ∀ received ∈ receivers, received.flows.isSome) :
    ∃ report kept, fromRecords topo scenario senders receivers = .ok (report, kept) ∧
      List.Forall₂ (RowOf topo receivers) senders report.flows ∧
      ∀ warning ∈ report.warnings, warning ∈ (keepReceivers receivers).2 ∨
        ∃ host flow, warning = orphanWarning host flow := by
  obtain ⟨final, ran, follows⟩ := (follows_start topo receivers).run present ofHosts
  rw [List.nil_append] at follows
  refine ⟨⟨scenario, final.rows, _⟩, final.kept, bind_of_ok ran, follows.rows, ?_⟩
  intro warning mem
  rcases List.mem_append.mp mem with early | orphan
  · exact Or.inl early
  · obtain ⟨⟨host, record⟩, -, inRecord⟩ := List.mem_flatMap.mp orphan
    obtain ⟨flow, -, rfl⟩ := List.mem_map.mp inRecord
    exact Or.inr ⟨host, flow, rfl⟩

/-- Receivers on different hosts give no reason for a warning. -/
theorem foldl_keepReceiver_distinct {hosts : List String} {receivers : List ReceiverRecord}
    (named : List.Forall₂ (fun host record => ReceiverRecord.host record = some host) hosts receivers)
    (nodup : hosts.Nodup) {state : OrderedDict String ReceiverRecord × List String}
    (fresh : ∀ host ∈ hosts, state.1.find? host = none) :
    (receivers.foldl keepReceiver state).2 = state.2 := by
  induction named generalizing state with
  | nil => rfl
  | @cons host record hosts receivers isHost _ ih =>
      obtain ⟨absent, nodupRest⟩ := List.nodup_cons.mp nodup
      obtain ⟨first, later⟩ := List.forall_mem_cons.mp fresh
      have kept : keepReceiver state record = (state.1.set host record, state.2) := by
        rw [keepReceiver, isHost]
        dsimp only
        rw [first]
        rfl
      rw [List.foldl_cons, kept]
      refine ih nodupRest fun other mem => ?_
      rw [OrderedDict.find?_set, if_neg (ne_of_mem_of_not_mem mem absent)]
      exact later other mem

/-- The records that are left, item by item. -/
theorem records_forall₂ {α : Type} {visit : α → Except PyError (Yaml ⊕ String)} {items : List α}
    {outcomes : List (Yaml ⊕ String)}
    (each : List.Forall₂ (fun item outcome => visit item = .ok outcome) items outcomes) :
    List.Forall₂ (fun item record => visit item = .ok (.inl record))
      (items.filter (leavesRecord visit)) (records outcomes) := by
  induction each with
  | nil => exact .nil
  | @cons item outcome items outcomes visited _ ih =>
      rw [records, List.filterMap_cons, ← records]
      cases outcome with
      | inl record =>
          rw [List.filter_cons_of_pos (by rw [leavesRecord, visited])]
          exact .cons visited ih
      | inr line =>
          rw [List.filter_cons_of_neg (by rw [leavesRecord, visited]; exact Bool.false_ne_true)]
          exact ih

section Labels

variable {docker : Docker} {json : Json} {env : Option (List (String × String))} {reading : Reading}
  {flows : List FlowRun} (labelled : Labelled docker json env reading flows)

include labelled

/-- The senders' records, each with the flow that it names. -/
theorem senders_labelled {sent : List (Yaml ⊕ String)}
    (sends : List.Forall₂ (fun entry outcome => sendFlow docker json env entry = .ok outcome)
      flows.zipIdx sent) :
    List.Forall₂ (fun (entry : FlowRun × Nat) record => entry ∈ flows.zipIdx ∧
        (reading.sender record).src = entry.1.srcHost ∧
        (reading.sender record).dst = entry.1.dstHost ∧
        (reading.sender record).tenant = entry.1.tenant)
      (flows.zipIdx.filter (leavesRecord (sendFlow docker json env))) (records sent) := by
  have left := (List.forall₂_and_left _ _).mpr
    ⟨fun entry mem => (List.mem_filter.mp mem).1, records_forall₂ sends⟩
  exact left.imp fun entry record told => ⟨told.1, labelled.sender entry told.1 record told.2⟩

/-- The receivers' records, each with the host that it names. -/
theorem receivers_labelled {received : List (Yaml ⊕ String)}
    (receives : List.Forall₂ (fun dst outcome => receiveHost docker json dst = .ok outcome)
      (destinations flows) received) :
    List.Forall₂ (fun host record => leavesRecord (receiveHost docker json) host ∧
        (reading.receiver record).host = some host ∧ (reading.receiver record).flows.isSome)
      ((destinations flows).filter (leavesRecord (receiveHost docker json))) (records received) := by
  have left := (List.forall₂_and_left _ _).mpr
    ⟨fun host mem => List.mem_filter.mp mem, records_forall₂ receives⟩
  exact left.imp fun host record told => ⟨told.1.2, labelled.receiver host told.1.1 record told.2⟩

end Labels

/-- What a pairing says of the second list alone. -/
theorem forall_mem_of_forall₂ {α β : Type} {paired : α → β → Prop} {holds : β → Prop} {items : List α}
    {values : List β} (each : List.Forall₂ paired items values)
    (told : ∀ item value, paired item value → holds value) : ∀ value ∈ values, holds value := by
  induction each with
  | nil => exact List.forall_mem_nil _
  | cons pair _ ih => exact List.forall_mem_cons.mpr ⟨told _ _ pair, ih⟩

/-- Paired items that look the same make lists that look the same. -/
theorem map_eq_of_forall₂ {α β γ : Type} {paired : α → β → Prop} {show_ : α → γ} {view : β → γ}
    {items : List α} {values : List β} (each : List.Forall₂ paired items values)
    (same : ∀ item value, paired item value → show_ item = view value) :
    items.map show_ = values.map view := by
  induction each with
  | nil => rfl
  | cons pair _ ih => rw [List.map_cons, List.map_cons, same _ _ pair, ih]

/-- The hosts of a row are those of its sender record. -/
theorem rowOf_hosts {topo : Topo} {receivers : List ReceiverRecord} {record : SenderRecord}
    {row : FlowRow} (isRow : RowOf topo receivers record row) :
    row.srcHost = record.src ∧ row.dstHost = record.dst := by
  obtain ⟨notes, perNicRx, rfl⟩ := isRow
  cases (supplier? topo receivers record).bind (flowAt receivers) <;> exact ⟨rfl, rfl⟩

/-- A row is filled from a record of its destination. -/
theorem rowOf_filled {topo : Topo} {receivers : List ReceiverRecord} {record : SenderRecord}
    {row : FlowRow} (isRow : RowOf topo receivers record row) (filled : row.received.isSome) :
    ∃ received ∈ receivers, received.host = some row.dstHost := by
  rw [(rowOf_hosts isRow).2]
  obtain ⟨notes, perNicRx, rfl⟩ := isRow
  cases supplied : supplier? topo receivers record with
  | none =>
      rw [supplied] at filled
      cases filled
  | some position =>
      obtain ⟨received, isKept, -⟩ := Option.bind_eq_some_iff.mp supplied
      have first : receivers.find? (fun other => ReceiverRecord.host other = some record.dst) =
          some received := isKept
      exact ⟨received, List.mem_of_find?_eq_some first, by simpa using List.find?_some first⟩

/-! ## The report of a scenario -/

/-- A sender record between hosts that a runnable scenario names. -/
theorem ofHosts_run {topo : Topo} (leaves : topo.numLeaves ≤ 16) {scenario : Scenario}
    (runnable : scenario.Runnable topo) {flows : List FlowRun}
    (expanded : expandFlows scenario = .ok flows) {run : FlowRun} (mem : run ∈ flows)
    {record : SenderRecord} (src : record.src = run.srcHost) (dst : record.dst = run.dstHost)
    (tenant : record.tenant = run.tenant) : OfHosts topo record := by
  obtain ⟨flow, isFlow, cli, -, pair, isPair, rfl⟩ := (mem_expandFlows expanded run).mp mem
  have sound := runnable.flows flow isFlow
  obtain ⟨srcLow, srcHigh, dstLow, dstHigh⟩ := sound.hosts pair isPair
  have short (hostId : Nat) (small : hostId < 16) :
      (Nat.toDigits 10 hostId).length ≤ maxStrDigits := by
    have two : (Nat.toDigits 10 hostId).length ≤ 2 :=
      (Nat.length_toDigits_le_iff (by decide) (by decide)).mpr (small.trans (by decide))
    exact two.trans (by decide)
  refine ⟨tenant ▸ sound.tenant pair isPair, pair.src.toInt.toNat, pair.dst.toInt.toNat,
    ⟨?_, by omega, short _ (by omega)⟩, ⟨?_, by omega, short _ (by omega)⟩⟩
  · rw [src, tenant]
    rfl
  · rw [dst, tenant]
    rfl

section Scenario

variable {topo : Topo} {scenario : Scenario} {flows : List FlowRun} {docker : Docker} {json : Json}
  {reading : Reading} {runner : Netem.Runner} {log : Netem.Log} {session : Netem.Session}
  {commands : List Netem.Command} (expanded : expandFlows scenario = .ok flows)
  (applied : Netem.apply runner topo false (Netem.faultsForNetem (scenario.faults.map netemFault))
    ⟨[], log⟩ = (session, .ok commands))

include expanded applied

/-- Once the faults are in place, the result is that of the flows, merged. -/
theorem runScenario_result :
    (runScenario docker json reading runner topo log scenario).result =
      (runFlows docker json recvIdleTimeoutS scenario.mrc flows).result.map fun (senders, receivers) =>
        fromRecords topo scenario.name (senders.map reading.sender)
          (receivers.map reading.receiver) := by
  unfold runScenario Netem.runScenario
  rw [expanded]
  dsimp only
  rw [applied]
  dsimp only
  rcases Netem.revert runner false session with ⟨reverted, ⟨error⟩ | ⟨undone⟩⟩ <;> rfl

end Scenario

/-- One flow without faults. -/
def smokeScenario : Scenario where
  name := "smoke"
  description := ""
  flows := [⟨[⟨"green", .int 0, .int 7⟩], .scalar (.str "round_robin"), .int 1000,
    .finite 1 isBinary64_one, "round_robin"⟩]
  faults := []
  report := ⟨none⟩
  mrc := none

/-- Every command prints something. -/
def printing : Docker where
  popen _ := none
  run _ _ := .exited 0 "record" ""
  communicate _ := .exited 0 "record" ""

def anyRecord : Json where
  dumps _ := ""
  loads text := .ok (.scalar (.str text))

def smokeReading : Reading where
  sender _ := greenSender "green-host00" "green-host07" 1000 4000
  receiver _ := hostSeven

end Srv6Fabric.Mrc.Orchestrator

import Srv6Fabric.ReportAccounting

/-!
# What a report leaves behind

`from_records` marks the receiver record whose per-NIC counts it has attached, in the record
itself, and leaves the mark there.  A second report from the same records finds it: its rows
have no per-NIC counts.
-/

namespace Srv6Fabric.ScenarioReport

open Library

/-! ## The records a call leaves -/

/-- The merge loop with the state it leaves, also when it raises. -/
def mergeSenders (topo : Topo) (state : Merge) : List SenderRecord → Merge × Option PyError
  | [] => (state, none)
  | record :: rest =>
      match mergeSender topo state record with
      | .ok next => mergeSenders topo next rest
      | .error error => (state, some error)

/-- The receiver records of the caller: the first of each host is the one that was kept. -/
def putBack (kept : OrderedDict String ReceiverRecord) :
    List String → List ReceiverRecord → List ReceiverRecord
  | _, [] => []
  | hosts, record :: rest =>
      match record.host with
      | none => record :: putBack kept hosts rest
      | some host =>
          if host ∈ hosts then record :: putBack kept hosts rest
          else (kept.find? host).getD record :: putBack kept (host :: hosts) rest

/-- `from_records`, with the receiver records as the caller finds them afterwards. -/
def buildReport (topo : Topo) (scenario : String) (senders : List SenderRecord)
    (receivers : List ReceiverRecord) : Except PyError ScenarioReport × List ReceiverRecord :=
  let (kept, warnings) := keepReceivers receivers
  let (state, raised) := mergeSenders topo ⟨kept, [], []⟩ senders
  let orphans := state.kept.entries.flatMap fun (host, record) =>
    orphanWarnings state.matched host record
  (match raised with
    | none => .ok ⟨scenario, state.rows, warnings ++ orphans⟩
    | some error => .error error,
    putBack state.kept [] receivers)

theorem foldlM_mergeSender (topo : Topo) (senders : List SenderRecord) (state : Merge) :
    senders.foldlM (mergeSender topo) state =
      match mergeSenders topo state senders with
      | (final, none) => .ok final
      | (_, some error) => .error error := by
  induction senders generalizing state with
  | nil => rfl
  | cons record rest ih =>
      rw [List.foldlM_cons, mergeSenders]
      cases mergeSender topo state record with
      | error error => rfl
      | ok next => exact ih next

/-- The report is the one of `fromRecords`. -/
theorem buildReport_fst (topo : Topo) (scenario : String) (senders : List SenderRecord)
    (receivers : List ReceiverRecord) :
    (buildReport topo scenario senders receivers).1 =
      (fromRecords topo scenario senders receivers).map Prod.fst := by
  rw [buildReport, fromRecords]
  dsimp only
  rw [foldlM_mergeSender]
  rcases mergeSenders topo ⟨(keepReceivers receivers).1, [], []⟩ senders with ⟨final, _ | error⟩
  · rfl
  · rfl

/-! ## One round -/

/-- What a round does with a sender record; it depends on the flows of its receiver record
alone. -/
inductive Outcome where
  | raised (error : PyError)
  | unmatched (notes : List String)
  | matched (key : FlowKey) (flow : FlowRecord)

def outcome (topo : Topo) (record : SenderRecord) (flows : Option (Option (List FlowRecord))) :
    Outcome :=
  match flows with
  | none => .unmatched [s!"no receiver record for dst={record.dst}"]
  | some flows =>
      match hostId? record.src, hostId? record.dst with
      | some srcId, some dstId =>
          match topo.innerAddr record.tenant srcId, topo.innerAddr record.tenant dstId, flows with
          | .ok srcAddr, .ok dstAddr, some flows =>
              match flows.find? (between (canonAddr srcAddr) (canonAddr dstAddr)) with
              | none => .unmatched [s!"receiver {record.dst} saw no flow {srcAddr} -> {dstAddr}"]
              | some flow =>
                  .matched ⟨canonAddr srcAddr, canonAddr dstAddr, flow.sport, flow.dport⟩ flow
          | .error error, _, _ => .raised error
          | .ok _, .error error, _ => .raised error
          | .ok _, .ok _, none => .raised (.keyError "'flows'")
      | _, _ => .unmatched [s!"cannot parse host_id from {record.src}/{record.dst}"]

/-- The record with the mark of a report on it. -/
def marked (received : ReceiverRecord) : ReceiverRecord := { received with perNicAttached := true }

/-- A round is its outcome. -/
theorem mergeSender_eq (topo : Topo) (state : Merge) (record : SenderRecord) :
    mergeSender topo state record =
      match outcome topo record ((state.kept.find? record.dst).map ReceiverRecord.flows) with
      | .raised error => .error error
      | .unmatched notes => .ok (state.append { senderRow record with notes })
      | .matched key flow =>
          .ok ((state.kept.find? record.dst).elim state fun recv =>
            { state with matched := (record.dst, key) :: state.matched }.attach
              (senderRow record) recv flow) := by
  unfold mergeSender outcome
  dsimp only [senderRow]
  cases state.kept.find? record.dst with
  | none => rfl
  | some recv =>
      dsimp only [Option.map_some]
      cases hostId? record.src with
      | none => rfl
      | some srcId =>
          cases hostId? record.dst with
          | none => rfl
          | some dstId =>
              dsimp only
              cases topo.innerAddr record.tenant srcId with
              | error error => rfl
              | ok srcAddr =>
                  rw [bind_of_ok rfl]
                  cases topo.innerAddr record.tenant dstId with
                  | error error => rfl
                  | ok dstAddr =>
                      rw [bind_of_ok rfl]
                      cases recv.flows with
                      | none => rfl
                      | some flows =>
                          dsimp only
                          cases flows.find? (between (canonAddr srcAddr) (canonAddr dstAddr)) with
                          | none => rfl
                          | some flow => rfl

/-! ## Which records get a mark -/

/-- The merge raises at a sender record: an id is not one of a host, or the receiver record has
no flows. -/
def refuses (topo : Topo) (receivers : List ReceiverRecord) (record : SenderRecord) : Bool :=
  match recordOf receivers record.dst, hostId? record.src, hostId? record.dst with
  | some received, some srcId, some dstId =>
      match topo.innerAddr record.tenant srcId, topo.innerAddr record.tenant dstId with
      | .ok _, .ok _ => received.flows.isNone
      | _, _ => true
  | _, _, _ => false

/-- The receiver record has a flow of the sender's. -/
def heard (topo : Topo) (record : SenderRecord) (received : ReceiverRecord) : Bool :=
  (received.flows.getD []).any (carries topo record)

/-- The outcome of a sender record, for the flows the caller's records have. -/
def outcomeOf (topo : Topo) (receivers : List ReceiverRecord) (record : SenderRecord) : Outcome :=
  outcome topo record ((recordOf receivers record.dst).map ReceiverRecord.flows)

theorem outcomeOf_cases (topo : Topo) (receivers : List ReceiverRecord) (record : SenderRecord) :
    (refuses topo receivers record = true ∧
        ∃ error, outcomeOf topo receivers record = .raised error) ∨
      (refuses topo receivers record = false ∧
        (∀ received, recordOf receivers record.dst = some received →
          heard topo record received = false) ∧
        ∃ notes, outcomeOf topo receivers record = .unmatched notes) ∨
      (refuses topo receivers record = false ∧
        ∃ received key flow, recordOf receivers record.dst = some received ∧
          heard topo record received = true ∧
          outcomeOf topo receivers record = .matched key flow) := by
  unfold outcomeOf outcome refuses heard carries
  cases kept : recordOf receivers record.dst with
  | none =>
      refine Or.inr (Or.inl ⟨rfl, ?_, _, rfl⟩)
      rintro _ ⟨⟩
  | some received =>
      have noId : (received.flows.getD []).any (fun _ => false) = false :=
        List.any_eq_false.mpr fun _ _ => Bool.false_ne_true
      dsimp only [Option.map_some]
      cases hostId? record.src with
      | none =>
          refine Or.inr (Or.inl ⟨rfl, ?_, _, rfl⟩)
          rintro _ ⟨⟩
          exact noId
      | some srcId =>
          cases hostId? record.dst with
          | none =>
              refine Or.inr (Or.inl ⟨rfl, ?_, _, rfl⟩)
              rintro _ ⟨⟩
              exact noId
          | some dstId =>
              dsimp only
              cases topo.innerAddr record.tenant srcId with
              | error error => exact Or.inl ⟨rfl, error, rfl⟩
              | ok srcAddr =>
                  cases topo.innerAddr record.tenant dstId with
                  | error error => exact Or.inl ⟨rfl, error, rfl⟩
                  | ok dstAddr =>
                      dsimp only
                      cases listed : received.flows with
                      | none => exact Or.inl ⟨rfl, _, rfl⟩
                      | some flows =>
                          refine Or.inr ?_
                          dsimp only
                          cases first : flows.find? (between (canonAddr srcAddr) (canonAddr dstAddr)) with
                          | none =>
                              refine Or.inl ⟨rfl, ?_, _, rfl⟩
                              rintro _ ⟨⟩
                              rw [listed]
                              exact List.any_eq_false.mpr fun flow mem =>
                                List.find?_eq_none.mp first flow mem
                          | some flow =>
                              refine Or.inr ⟨rfl, received, _, flow, rfl, ?_, rfl⟩
                              rw [listed]
                              exact List.any_eq_true.mpr ⟨flow, List.mem_of_find?_eq_some first,
                                List.find?_some first⟩

/-- The sender records the merge gets past. -/
def served (topo : Topo) (senders : List SenderRecord) (receivers : List ReceiverRecord) :
    List SenderRecord :=
  senders.takeWhile fun record => !refuses topo receivers record

/-- One of the sender records is matched with a flow of the host's record. -/
def heardOf (topo : Topo) (done : List SenderRecord) (host : String) (received : ReceiverRecord) :
    Bool :=
  done.any fun record => record.dst = host && heard topo record received

/-- The records as the loop has marked them: those with a flow of a sender record it has done. -/
def Marked (topo : Topo) (receivers : List ReceiverRecord) (done : List SenderRecord)
    (state : Merge) : Prop :=
  ∀ host, state.kept.find? host = (recordOf receivers host).map fun received =>
    if heardOf topo done host received then marked received else received

theorem marked_of_attached {received : ReceiverRecord} (already : received.perNicAttached = true) :
    marked received = received := by
  cases received
  cases already
  rfl

theorem Merge.find?_attach (state : Merge) (row : FlowRow) {recv : ReceiverRecord}
    (flow : FlowRecord) (found : state.kept.find? row.dstHost = some recv) (host : String) :
    (state.attach row recv flow).kept.find? host =
      if host = row.dstHost then some (marked recv) else state.kept.find? host := by
  unfold Merge.attach
  dsimp only
  split
  · next already =>
    split
    · next here =>
      rw [here, marked_of_attached already]
      exact found
    · rfl
  · exact OrderedDict.find?_set _ _ _ _

/-- A round past which the merge gets marks what it should. -/
theorem Marked.step {topo : Topo} {receivers : List ReceiverRecord} {done : List SenderRecord}
    {state : Merge} (isMarked : Marked topo receivers done state) (record : SenderRecord) :
    (refuses topo receivers record = true ∧
        ∃ error, mergeSender topo state record = .error error) ∨
      (refuses topo receivers record = false ∧
        ∃ next, mergeSender topo state record = .ok next ∧
          Marked topo receivers (done ++ [record]) next) := by
  have flows : (state.kept.find? record.dst).map ReceiverRecord.flows =
      (recordOf receivers record.dst).map ReceiverRecord.flows := by
    rw [isMarked, Option.map_map]
    congr 1
    funext received
    rw [Function.comp_apply]
    split <;> rfl
  have merged := mergeSender_eq topo state record
  rw [flows, ← outcomeOf] at merged
  have heardMore (host : String) (received : ReceiverRecord) :
      heardOf topo (done ++ [record]) host received =
        (heardOf topo done host received ||
          (record.dst = host && heard topo record received)) := by
    simp [heardOf]
  rcases outcomeOf_cases topo receivers record with ⟨refused, error, raised⟩ |
    ⟨passes, unheard, notes, unmatched⟩ | ⟨passes, received, key, flow, kept, isHeard, matched⟩
  · rw [raised] at merged
    exact Or.inl ⟨refused, error, merged⟩
  · rw [unmatched] at merged
    refine Or.inr ⟨passes, _, merged, fun host => ?_⟩
    rw [Merge.append, isMarked host]
    refine Option.map_congr fun received found => ?_
    rw [heardMore]
    by_cases here : record.dst = host
    · rw [unheard received (here ▸ found), Bool.and_false, Bool.or_false]
    · simp [here]
  · have found := isMarked record.dst
    rw [kept, Option.map_some] at found
    rw [matched, found] at merged
    refine Or.inr ⟨passes, _, merged, fun host => ?_⟩
    have dstHost : (senderRow record).dstHost = record.dst := rfl
    rw [Option.elim_some, Merge.find?_attach _ _ _ found, dstHost]
    by_cases here : host = record.dst
    · subst here
      rw [if_pos rfl, kept, Option.map_some, heardMore, isHeard, decide_eq_true rfl, Bool.and_self,
        Bool.or_true, if_pos rfl]
      split <;> rfl
    · rw [if_neg here]
      change state.kept.find? host = _
      rw [isMarked host]
      refine Option.map_congr fun other _ => ?_
      have away : ¬ record.dst = host := fun same => here same.symm
      rw [heardMore, decide_eq_false away, Bool.false_and, Bool.or_false]

/-- The loop marks the records with a flow of a sender record it gets past. -/
theorem Marked.run {topo : Topo} {receivers : List ReceiverRecord} {done : List SenderRecord}
    {state : Merge} (isMarked : Marked topo receivers done state) (senders : List SenderRecord) :
    Marked topo receivers (done ++ served topo senders receivers)
      (mergeSenders topo state senders).1 := by
  induction senders generalizing done state with
  | nil => rwa [served, List.takeWhile_nil, List.append_nil]
  | cons record rest ih =>
      rcases isMarked.step record with ⟨refused, error, raised⟩ | ⟨passes, next, merged, nextMarked⟩
      · rw [mergeSenders, raised, served, List.takeWhile_cons_of_neg (by simp [refused]),
          List.append_nil]
        exact isMarked
      · rw [mergeSenders, merged, served, List.takeWhile_cons_of_pos (by simp [passes]),
          List.append_cons]
        exact ih nextMarked

theorem marked_start (topo : Topo) (receivers : List ReceiverRecord) :
    Marked topo receivers [] ⟨(keepReceivers receivers).1, [], []⟩ := by
  intro host
  rw [find?_keepReceivers]
  exact Option.map_id'.symm ▸ rfl

/-! ## When nothing is left behind -/

/-- The caller's records are unchanged when those kept are. -/
theorem putBack_eq_self_iff {kept : OrderedDict String ReceiverRecord} {hosts : List String}
    {receivers : List ReceiverRecord} :
    putBack kept hosts receivers = receivers ↔ ∀ host ∉ hosts, ∀ received,
      recordOf receivers host = some received → (kept.find? host).getD received = received := by
  induction receivers generalizing hosts with
  | nil => simp [putBack, recordOf]
  | cons record rest ih =>
      unfold putBack recordOf
      cases named : record.host with
      | none => simpa [named, recordOf] using @ih hosts
      | some name =>
          dsimp only
          by_cases seen : name ∈ hosts
          · rw [if_pos seen, List.cons.injEq, eq_self, true_and, ih]
            refine forall₂_congr fun host fresh => ?_
            have other : name ≠ host := fun same => fresh (same ▸ seen)
            simp [named, other, recordOf]
          · rw [if_neg seen, List.cons.injEq, ih]
            constructor
            · rintro ⟨here, later⟩ host fresh received found
              by_cases same : name = host
              · subst same
                rw [List.find?_cons_of_pos (by simp [named])] at found
                obtain rfl := Option.some.inj found
                exact here
              · rw [List.find?_cons_of_neg (by simp [named, same])] at found
                exact later host (by simp [fresh, Ne.symm same]) received found
            · intro all
              refine ⟨all name seen record (List.find?_cons_of_pos (by simp [named])), ?_⟩
              intro host fresh received found
              obtain ⟨other, notSeen⟩ := not_or.mp (mt List.mem_cons.mpr fresh)
              refine all host notSeen received ?_
              rw [List.find?_cons_of_neg (by simp [named, Ne.symm other])]
              exact found

/-- A second call on the records the first one left gives an equal report, and the first left
them as they were. -/
def NoMemory (topo : Topo) (scenario : String) (senders : List SenderRecord)
    (receivers : List ReceiverRecord) : Prop :=
  let first := buildReport topo scenario senders receivers
  (buildReport topo scenario senders first.2).1 = first.1 ∧ first.2 = receivers

theorem buildReport_snd (topo : Topo) (scenario : String) (senders : List SenderRecord)
    (receivers : List ReceiverRecord) :
    (buildReport topo scenario senders receivers).2 = putBack
      (mergeSenders topo ⟨(keepReceivers receivers).1, [], []⟩ senders).1.kept [] receivers :=
  rfl

/-- Building a report has no memory exactly when every receiver record with a flow of a sender
record the merge gets past was marked before. -/
theorem noMemory_iff (topo : Topo) (scenario : String) (senders : List SenderRecord)
    (receivers : List ReceiverRecord) :
    NoMemory topo scenario senders receivers ↔
      ∀ record ∈ served topo senders receivers, ∀ received,
        recordOf receivers record.dst = some received → heard topo record received →
          received.perNicAttached := by
  have isMarked := (marked_start topo receivers).run senders
  rw [List.nil_append] at isMarked
  have forgets : NoMemory topo scenario senders receivers ↔
      (buildReport topo scenario senders receivers).2 = receivers := by
    refine ⟨And.right, fun same => ⟨?_, same⟩⟩
    rw [same]
  rw [forgets, buildReport_snd, putBack_eq_self_iff]
  constructor
  · intro same record mem received kept isHeard
    have left := same record.dst List.not_mem_nil received kept
    have hit : heardOf topo (served topo senders receivers) record.dst received = true :=
      List.any_eq_true.mpr ⟨record, mem, by simp [isHeard]⟩
    rw [isMarked, kept, Option.map_some, if_pos hit, Option.getD_some] at left
    exact (congrArg ReceiverRecord.perNicAttached left).symm
  · intro already host _ received kept
    rw [isMarked, kept, Option.map_some, Option.getD_some]
    split
    · next hit =>
      obtain ⟨record, mem, both⟩ := List.any_eq_true.mp hit
      obtain ⟨isDst, isHeard⟩ := (Bool.and_eq_true _ _).mp both
      obtain rfl := of_decide_eq_true isDst
      exact marked_of_attached (already record mem received kept isHeard)
    · rfl

/-- One sender, and its receiver with two interfaces. -/
def countedSeven : ReceiverRecord :=
  { hostSeven with perNic := some ((OrderedDict.empty.set "eth1" 2000).set "eth2" 2000) }

/-- The second report has lost the counts of the interfaces. -/
theorem second_report_loses_nics :
    let senders := [greenSender "green-host00" "green-host07" 1000 4000]
    let first := buildReport Topo.twoPlanes "baseline" senders [countedSeven]
    let second := buildReport Topo.twoPlanes "baseline" senders first.2
    ¬ NoMemory Topo.twoPlanes "baseline" senders [countedSeven] ∧
      first.1.map (fun report => report.flows.map fun row => row.perNicRx.entries) =
        .ok [[("eth1", 2000), ("eth2", 2000)]] ∧
      second.1.map (fun report => report.flows.map fun row => row.perNicRx.entries) = .ok [[]] := by
  intro senders first second
  have lost : second.1.map (fun report => report.flows.map fun row => row.perNicRx.entries) =
      .ok [[]] := by decide +kernel
  have attached : first.1.map (fun report => report.flows.map fun row => row.perNicRx.entries) =
      .ok [[("eth1", 2000), ("eth2", 2000)]] := by decide +kernel
  refine ⟨fun noMemory => ?_, attached, lost⟩
  have same : second.1 = first.1 := noMemory.1
  rw [same, attached] at lost
  cases lost

end Srv6Fabric.ScenarioReport

import Srv6Fabric.Mrc.AgentRuns

/-!
# What fusing a report does

The ring against the whole history of pushes, the pairing against all windows kept, and
`apply_loss_report` against the records of the report: which calls it makes, and how its
statistics grow.
-/

namespace Srv6Fabric.Mrc

open Srv6Fabric.Library

variable {numPlanes : Nat}

namespace SentWindowRing

/-! ## The ring -/

/-- The ring after a list of pushes; one that raises leaves it. -/
def pushAll (ring : SentWindowRing numPlanes) (windows : List SentWindow) :
    SentWindowRing numPlanes :=
  windows.foldl (fun ring window =>
    match ring.push window with
    | .ok next => next
    | .error _ => ring) ring

/-- The last `capacity` windows among those with a counter for each plane. -/
def lastPushed (numPlanes capacity : Nat) (windows : List SentWindow) : List SentWindow :=
  let pushed := windows.filter fun window => window.sent.length = numPlanes
  pushed.drop (pushed.length - capacity)

/-- One more element in a window of the last ones. -/
theorem drop_concat {α : Type} (items : List α) (item : α) (capacity : Nat) :
    (items.drop (items.length - capacity) ++ [item]).drop
        ((items.drop (items.length - capacity)).length + 1 - capacity) =
      (items ++ [item]).drop ((items ++ [item]).length - capacity) := by
  rw [← List.drop_append_of_le_length (Nat.sub_le _ _), List.drop_drop, List.length_drop,
    List.length_append, List.length_singleton]
  congr 1
  omega

theorem pushAll_windows (numPlanes capacity : Nat) (windows : List SentWindow) :
    ((empty numPlanes capacity).pushAll windows).capacity = capacity ∧
      ((empty numPlanes capacity).pushAll windows).windows =
        lastPushed numPlanes capacity windows := by
  induction windows using List.reverseRecOn with
  | nil => exact ⟨rfl, List.drop_nil.symm⟩
  | append_singleton windows window ih =>
      have step : (empty numPlanes capacity).pushAll (windows ++ [window]) =
          match ((empty numPlanes capacity).pushAll windows).push window with
          | .ok next => next
          | .error _ => (empty numPlanes capacity).pushAll windows := List.foldl_append
      obtain ⟨sameCapacity, kept⟩ := ih
      rw [step, lastPushed, List.filter_append, List.filter_singleton]
      by_cases wide : window.sent.length = numPlanes
      · rw [push, dif_pos wide, decide_eq_true wide, cond_true]
        refine ⟨sameCapacity, ?_⟩
        dsimp only
        rw [sameCapacity, kept]
        exact drop_concat _ _ _
      · rw [push, dif_neg wide, decide_eq_false wide, cond_false, List.append_nil]
        exact ⟨sameCapacity, kept⟩

end SentWindowRing

/-! ## Pairing -/

/-- How far the middle of a window is from a time. -/
def SentWindow.skewNs (window : SentWindow) (targetNs : Int) : Int :=
  |window.midpointNs - targetNs|

/-- The first of the windows that are closest to a time. -/
def FirstClosest (targetNs : Int) (windows : List SentWindow) (window : SentWindow) : Prop :=
  ∃ before after, windows = before ++ window :: after ∧
    (∀ other ∈ before, window.skewNs targetNs < other.skewNs targetNs) ∧
    ∀ other ∈ after, window.skewNs targetNs ≤ other.skewNs targetNs

theorem FirstClosest.cons {targetNs : Int} {windows : List SentWindow} {window : SentWindow}
    (closest : FirstClosest targetNs windows window) {first : SentWindow}
    (further : window.skewNs targetNs < first.skewNs targetNs) :
    FirstClosest targetNs (first :: windows) window := by
  obtain ⟨before, after, rfl, earlier, later⟩ := closest
  refine ⟨first :: before, after, rfl, ?_, later⟩
  intro other mem
  rcases List.mem_cons.mp mem with rfl | inBefore
  · exact further
  · exact earlier other inBefore

theorem FirstClosest.mem {targetNs : Int} {windows : List SentWindow} {window : SentWindow}
    (closest : FirstClosest targetNs windows window) : window ∈ windows := by
  obtain ⟨before, after, rfl, -⟩ := closest
  exact List.mem_append_right _ List.mem_cons_self

namespace SentWindowRing

theorem scan_cons (targetNs : Int) (first : SentWindow) (rest : List SentWindow) (bestSkew : Int)
    (best : Option SentWindow) :
    scan targetNs (first :: rest) bestSkew best =
      if first.skewNs targetNs < bestSkew then
        scan targetNs rest (first.skewNs targetNs) (some first)
      else scan targetNs rest bestSkew best :=
  rfl

/-- The scan keeps what it had, or finds the first of the closest windows. -/
theorem scan_cases (targetNs : Int) (windows : List SentWindow) (bestSkew : Int)
    (best : Option SentWindow) :
    (scan targetNs windows bestSkew best = best ∧
        ∀ window ∈ windows, bestSkew ≤ window.skewNs targetNs) ∨
      ∃ window, scan targetNs windows bestSkew best = some window ∧
        window.skewNs targetNs < bestSkew ∧ FirstClosest targetNs windows window := by
  induction windows generalizing bestSkew best with
  | nil => exact Or.inl ⟨rfl, fun _ mem => absurd mem List.not_mem_nil⟩
  | cons first rest ih =>
      rw [scan_cons]
      by_cases closer : first.skewNs targetNs < bestSkew
      · rw [if_pos closer]
        rcases ih (first.skewNs targetNs) (some first) with
          ⟨kept, further⟩ | ⟨window, found, within, closest⟩
        · exact Or.inr ⟨first, kept, closer, [], rest, rfl,
            fun _ mem => absurd mem List.not_mem_nil, further⟩
        · exact Or.inr ⟨window, found, within.trans closer, closest.cons within⟩
      · rw [if_neg closer]
        rcases ih bestSkew best with ⟨kept, further⟩ | ⟨window, found, within, closest⟩
        · refine Or.inl ⟨kept, ?_⟩
          intro window mem
          rcases List.mem_cons.mp mem with rfl | later
          · exact not_lt.mp closer
          · exact further window later
        · exact Or.inr ⟨window, found, within, closest.cons (within.trans_le (not_lt.mp closer))⟩

/-- The paired window is the first of the closest ones, if these are within the skew. -/
theorem findClosest_spec (ring : SentWindowRing numPlanes) (targetNs maxSkewNs : Int) :
    (∀ window, ring.findClosest targetNs maxSkewNs = some window →
        FirstClosest targetNs ring.windows window ∧ window.skewNs targetNs ≤ maxSkewNs) ∧
      (ring.findClosest targetNs maxSkewNs = none ↔
        ∀ window ∈ ring.windows, maxSkewNs < window.skewNs targetNs) := by
  unfold findClosest
  rcases scan_cases targetNs ring.windows (maxSkewNs + 1) none with
    ⟨kept, further⟩ | ⟨window, found, within, closest⟩
  · rw [kept]
    refine ⟨fun _ impossible => absurd impossible (by simp), fun _ window mem => ?_, fun _ => rfl⟩
    exact Int.lt_of_add_one_le (further window mem)
  · rw [found]
    have close : window.skewNs targetNs ≤ maxSkewNs := Int.lt_add_one_iff.mp within
    refine ⟨?_, fun impossible => absurd impossible (by simp), fun all => ?_⟩
    · intro other same
      obtain rfl := Option.some.inj same
      exact ⟨closest, close⟩
    · exact absurd close (not_le.mpr (all window closest.mem))

end SentWindowRing

/-! ## The records of a report -/

/-- The denominator of a record: the sender's counter if it is positive, else the receiver's
span. -/
def recordTotal (paired : Option SentWindow) (record : PlaneLossRecord) : Nat :=
  let sent := paired.elim 0 fun window => window.sent.getD record.planeId.toNat 0
  if 0 < sent then sent else record.expected.toNat

/-- The call a record asks for: none without data, and none without a denominator. -/
def recordCall (tenant : String) (paired : Option SentWindow) (record : PlaneLossRecord) :
    Option EVStateTable.Call :=
  if record.seen = 0 ∧ record.expected = 0 then none
  else if recordTotal paired record = 0 then none
  else some (.loss tenant record.planeId.toNat record.seen.toNat (recordTotal paired record))

/-- A window that is paired has a counter for each plane. -/
def Wide (numPlanes : Nat) (paired : Option SentWindow) : Prop :=
  ∀ window, paired = some window → window.sent.length = numPlanes

theorem denominator_eq {paired : Option SentWindow} (wide : Wide numPlanes paired)
    {record : PlaneLossRecord} (inRange : record.planeId.toNat < numPlanes) :
    ∃ usedSenderCounter,
      denominator paired record = .ok (recordTotal paired record, usedSenderCounter) := by
  cases paired with
  | none => exact ⟨false, rfl⟩
  | some window =>
      have counter : record.planeId.toNat < window.sent.length := by
        rw [wide window rfl]
        exact inRange
      rw [denominator, recordTotal, Option.elim_some, List.getD_eq_getElem?_getD,
        List.getElem?_eq_getElem counter, Option.getD_some]
      dsimp only
      by_cases positive : 0 < window.sent[record.planeId.toNat]
      · exact ⟨true, by rw [if_pos positive, if_pos positive]⟩
      · exact ⟨false, by rw [if_neg positive, if_neg positive]⟩

/-- How the statistics of one report grow by some records, of which some were updates. -/
structure LossFusionStats.Grown (before after : LossFusionStats) (records updates : Nat) : Prop where
  reportsProcessed : after.reportsProcessed = before.reportsProcessed
  noPairingWindowInRing : after.noPairingWindowInRing = before.noPairingWindowInRing
  planesUpdated : after.planesUpdated = before.planesUpdated + updates
  records : after.planesUpdated + after.planesSkippedNoData =
    before.planesUpdated + before.planesSkippedNoData + records
  sources : after.pairedWithSentWindow + after.fellBackToReceiverExpected =
    before.pairedWithSentWindow + before.fellBackToReceiverExpected + updates

namespace LossFusionStats.Grown

variable {before middle after : LossFusionStats} {records updates : Nat}

theorem refl (stats : LossFusionStats) : stats.Grown stats 0 0 := ⟨rfl, rfl, rfl, rfl, rfl⟩

theorem skipped (stats : LossFusionStats) : stats.Grown stats.skipped 1 0 :=
  ⟨rfl, rfl, rfl, rfl, rfl⟩

theorem updated (stats : LossFusionStats) (usedSenderCounter : Bool) :
    stats.Grown (stats.updated usedSenderCounter) 1 1 := by
  refine ⟨rfl, rfl, rfl, Nat.add_right_comm _ _ _, ?_⟩
  cases usedSenderCounter with
  | true => exact Nat.add_right_comm _ _ _
  | false => rfl

theorem trans {moreRecords moreUpdates : Nat} (first : before.Grown middle records updates)
    (second : middle.Grown after moreRecords moreUpdates) :
    before.Grown after (records + moreRecords) (updates + moreUpdates) where
  reportsProcessed := second.reportsProcessed.trans first.reportsProcessed
  noPairingWindowInRing := second.noPairingWindowInRing.trans first.noPairingWindowInRing
  planesUpdated := by rw [second.planesUpdated, first.planesUpdated, Nat.add_assoc]
  records := by rw [second.records, first.records, Nat.add_assoc]
  sources := by rw [second.sources, first.sources, Nat.add_assoc]

end LossFusionStats.Grown

/-- What a list of records does: it makes their calls, raises nothing and counts each record. -/
structure Fusion.Fused (before after : Fusion numPlanes) (tenant : String)
    (paired : Option SentWindow) (records : List PlaneLossRecord) : Prop where
  serves : Serves tenant after.table
  raised : after.raised = none
  calls : after.calls = before.calls ++ records.filterMap (recordCall tenant paired)
  stats : before.stats.Grown after.stats records.length
    (records.filterMap (recordCall tenant paired)).length

/-- One record. -/
theorem applyRecord_fused {tenant : String} {paired : Option SentWindow}
    (wide : Wide numPlanes paired) {state : Fusion numPlanes} (serves : Serves tenant state.table)
    (quiet : state.raised = none) {record : PlaneLossRecord}
    (inRange : record.planeId.toNat < numPlanes) :
    state.Fused (applyRecord tenant paired state record) tenant paired [record] := by
  by_cases blank : record.seen = 0 ∧ record.expected = 0
  · have noCall : recordCall tenant paired record = none := if_pos blank
    rw [applyRecord, if_pos blank]
    refine ⟨serves, quiet, ?_, ?_⟩
    · rw [List.filterMap_cons_none noCall, List.filterMap_nil, List.append_nil]
    · rw [List.filterMap_cons_none noCall]
      exact .skipped _
  · obtain ⟨usedSenderCounter, divided⟩ := denominator_eq wide inRange
    rw [applyRecord, if_neg blank, divided]
    dsimp only
    by_cases noTotal : recordTotal paired record = 0
    · have noCall : recordCall tenant paired record = none := by
        rw [recordCall, if_neg blank, if_pos noTotal]
      rw [if_pos noTotal]
      refine ⟨serves, quiet, ?_, ?_⟩
      · rw [List.filterMap_cons_none noCall, List.filterMap_nil, List.append_nil]
      · rw [List.filterMap_cons_none noCall]
        exact .skipped _
    · have call : recordCall tenant paired record = some (.loss tenant record.planeId.toNat
          record.seen.toNat (recordTotal paired record)) := by
        rw [recordCall, if_neg blank, if_neg noTotal]
      have returned := EVStateTable.loss_returns serves.find? ⟨record.planeId.toNat, inRange⟩
        (Int.natCast_nonneg record.seen.toNat)
        (show (0 : Int) < recordTotal paired record by exact_mod_cast Nat.pos_of_ne_zero noTotal)
      rw [if_neg noTotal, returned]
      refine ⟨serves.call returned, quiet, ?_, ?_⟩
      · rw [List.filterMap_cons_some call, List.filterMap_nil]
      · rw [List.filterMap_cons_some call]
        exact .updated _ _

/-- All records, in report order. -/
theorem applyRecords_fused {tenant : String} {paired : Option SentWindow}
    (wide : Wide numPlanes paired) {state : Fusion numPlanes} (serves : Serves tenant state.table)
    (quiet : state.raised = none) {records : List PlaneLossRecord}
    (inRange : ∀ record ∈ records, record.planeId.toNat < numPlanes) :
    state.Fused (applyRecords tenant paired state records) tenant paired records := by
  induction records generalizing state with
  | nil => exact ⟨serves, quiet, (List.append_nil _).symm, .refl _⟩
  | cons record rest ih =>
      obtain ⟨here, later⟩ := List.forall_mem_cons.mp inRange
      have step := applyRecord_fused wide serves quiet here
      have onward := ih step.serves step.raised later
      have split : (record :: rest).filterMap (recordCall tenant paired) =
          [record].filterMap (recordCall tenant paired) ++
            rest.filterMap (recordCall tenant paired) := List.filterMap_append (l := [record])
      rw [applyRecords_cons, step.raised, Option.isSome_none, if_neg Bool.false_ne_true]
      refine ⟨onward.serves, onward.raised, ?_, ?_⟩
      · rw [onward.calls, step.calls, List.append_assoc, split]
      · rw [split, List.length_append, List.length_cons, Nat.add_comm rest.length]
        exact step.stats.trans onward.stats

/-- The statistics of a report, before its records. -/
def LossFusionStats.counted (stats : LossFusionStats) (paired : Option SentWindow) :
    LossFusionStats :=
  { stats with
    reportsProcessed := stats.reportsProcessed + 1
    noPairingWindowInRing := stats.noPairingWindowInRing + (if paired.isNone then 1 else 0) }

/-- A report with records fuses all of them. -/
theorem applyLossReport_fused {table : EVStateTable numPlanes} {tenant : String}
    (serves : Serves tenant table) {report : LossReport} (records : report.planes ≠ [])
    (inRange : ∀ record ∈ report.planes, record.planeId.toNat < numPlanes)
    (sentRing : SentWindowRing numPlanes) (receivedAtNs maxWindowSkewNs : Int)
    (stats : LossFusionStats) :
    let paired := sentRing.findClosest receivedAtNs maxWindowSkewNs
    Fusion.Fused ⟨table, stats.counted paired, [], none⟩
      (applyLossReport table tenant report sentRing receivedAtNs maxWindowSkewNs stats) tenant paired
      report.planes := by
  intro paired
  have wide : Wide numPlanes paired := fun window found =>
    (SentWindowRing.mem_of_findClosest found).2
  rw [applyLossReport, if_neg records]
  exact applyRecords_fused wide serves rfl inRange

/-- Fusion is what its specification says.  The paired window is, among the last `capacity`
that were pushed, the first of those closest to the report's arrival, if these are within the
skew; the calls are those the records ask for, in their order; and the statistics count the
report, each record once, the source of each denominator, and a report that was not paired. -/
theorem fusion_eq_spec {tenants : List String} {evCfg : EVStateConfig}
    {fresh : EVStateTable numPlanes} (built : EVStateTable.init tenants numPlanes evCfg = .ok fresh)
    (onTransition : EVStateTable.TransitionCb numPlanes) (requests : List EVStateTable.Call)
    {tenant : String} (known : tenant ∈ tenants) {capacity : Int} {ring : SentWindowRing numPlanes}
    (ringBuilt : SentWindowRing.init numPlanes capacity = .ok ring) (pushes : List SentWindow)
    {report : LossReport} (inRange : ∀ record ∈ report.planes, record.planeId.toNat < numPlanes)
    (receivedAtNs maxWindowSkewNs : Int) (stats : LossFusionStats) :
    let table := fresh.run onTransition requests
    let kept := SentWindowRing.lastPushed numPlanes capacity.toNat pushes
    let paired := (ring.pushAll pushes).findClosest receivedAtNs maxWindowSkewNs
    let fusion := applyLossReport table tenant report (ring.pushAll pushes) receivedAtNs
      maxWindowSkewNs stats
    (∀ window, paired = some window →
      FirstClosest receivedAtNs kept window ∧ window.skewNs receivedAtNs ≤ maxWindowSkewNs) ∧
    (paired = none ↔ ∀ window ∈ kept, maxWindowSkewNs < window.skewNs receivedAtNs) ∧
    fusion.raised = none ∧
    fusion.calls = report.planes.filterMap (recordCall tenant paired) ∧
    (report.planes = [] → fusion.stats = stats ∧ fusion.table = table) ∧
    (report.planes ≠ [] →
      fusion.stats.reportsProcessed = stats.reportsProcessed + 1 ∧
      fusion.stats.planesUpdated = stats.planesUpdated + fusion.calls.length ∧
      fusion.stats.planesUpdated + fusion.stats.planesSkippedNoData =
        stats.planesUpdated + stats.planesSkippedNoData + report.planes.length ∧
      fusion.stats.pairedWithSentWindow + fusion.stats.fellBackToReceiverExpected =
        stats.pairedWithSentWindow + stats.fellBackToReceiverExpected + fusion.calls.length ∧
      fusion.stats.noPairingWindowInRing =
        stats.noPairingWindowInRing + if paired = none then 1 else 0) := by
  intro table kept paired fusion
  obtain rfl := SentWindowRing.init_ok ringBuilt
  have serves : Serves tenant table := by
    refine ⟨(EVStateTable.init_sound built).run onTransition requests, ?_⟩
    rw [(EVStateTable.run_frame onTransition fresh requests).1, (EVStateTable.init_ok built).2.1]
    exact known
  have windows : ((SentWindowRing.empty numPlanes capacity.toNat).pushAll pushes).windows = kept :=
    (SentWindowRing.pushAll_windows numPlanes capacity.toNat pushes).2
  obtain ⟨closest, unpaired⟩ := SentWindowRing.findClosest_spec
    ((SentWindowRing.empty numPlanes capacity.toNat).pushAll pushes) receivedAtNs maxWindowSkewNs
  rw [windows] at closest unpaired
  refine ⟨closest, unpaired, ?_⟩
  by_cases nothing : report.planes = []
  · have noop : fusion = { table, stats } := if_pos nothing
    rw [noop, nothing]
    exact ⟨rfl, rfl, fun _ => ⟨rfl, rfl⟩, fun some_ => absurd rfl some_⟩
  · have fused := applyLossReport_fused serves nothing inRange
      ((SentWindowRing.empty numPlanes capacity.toNat).pushAll pushes) receivedAtNs maxWindowSkewNs
      stats
    have calls : fusion.calls = report.planes.filterMap (recordCall tenant paired) := fused.calls
    refine ⟨fused.raised, calls, fun none_ => absurd none_ nothing, fun _ => ?_⟩
    rw [calls]
    refine ⟨fused.stats.reportsProcessed, fused.stats.planesUpdated, fused.stats.records,
      fused.stats.sources, fused.stats.noPairingWindowInRing.trans ?_⟩
    simp only [LossFusionStats.counted, Option.isNone_iff_eq_none, paired]

/-- Two windows of the same middle distance, of which the older one is paired. -/
def tiedWindows : List SentWindow :=
  [⟨0, 100, [9, 9, 9, 9], 0⟩, ⟨100, 200, [100, 0, 0, 0], 1⟩, ⟨300, 400, [7, 7, 7, 7], 2⟩]

/-- Sent and lost on plane 0, unsent on plane 1, and nothing at all on plane 2. -/
def tiedReport : LossReport := ⟨0, [⟨0, 50, 80, 2⟩, ⟨1, 3, 4, 0⟩, ⟨2, 0, 0, 0⟩]⟩

/-- The oldest window was dropped; of the other two the first is taken. -/
theorem fusion_eq_spec_tied :
    ((SentWindowRing.empty 4 2).pushAll tiedWindows).findClosest 250 100 =
        some ⟨100, 200, [100, 0, 0, 0], 1⟩ ∧
      (applyLossReport (greenTable 4) "green" tiedReport
        ((SentWindowRing.empty 4 2).pushAll tiedWindows) 250 100 {}).calls =
          [.loss "green" 0 50 100, .loss "green" 1 3 4] := by
  have spec := fusion_eq_spec
    (show EVStateTable.init ["green"] 4 {} = .ok (greenTable 4) from init_greenTable_four)
    (fun _ => none) []
    (List.mem_singleton_self "green") (show SentWindowRing.init 4 2 = .ok _ from rfl) tiedWindows
    (show ∀ record ∈ tiedReport.planes, record.planeId.toNat < 4 by decide) 250 100 {}
  have paired : ((SentWindowRing.empty 4 2).pushAll tiedWindows).findClosest 250 100 =
      some ⟨100, 200, [100, 0, 0, 0], 1⟩ := by decide
  refine ⟨paired, spec.2.2.2.1.trans ?_⟩
  change tiedReport.planes.filterMap (recordCall "green"
    (((SentWindowRing.empty 4 2).pushAll tiedWindows).findClosest 250 100)) = _
  rw [paired]
  decide

end Srv6Fabric.Mrc

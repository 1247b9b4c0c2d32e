import Srv6Fabric.Library.Slots
import Srv6Fabric.Mrc.AgentRuns

/-!
# Duplicate records of one report

`LossReport` documents that the last record of a plane wins; `apply_loss_report` applies
every one.  What is left of the difference is the loss counter of a plane, which the earlier
records move, and the demotions they ask for, which the floor serves first come, first
served.
-/

namespace Srv6Fabric.Mrc

open Library

variable {numPlanes : Nat}

/-! ## Latest wins -/

/-- Every record with whether it is the last one of its plane. -/
def markNewest : List PlaneLossRecord → List (PlaneLossRecord × Bool)
  | [] => []
  | record :: rest =>
      (record, decide (∀ later ∈ rest, later.planeId ≠ record.planeId)) :: markNewest rest

/-- The report that keeps only the last record of each plane. -/
def LossReport.latest (report : LossReport) : LossReport :=
  { report with planes := standing (markNewest report.planes) }

/-- The same table, but for the events on the way there. -/
structure EVStateTable.SameState (table other : EVStateTable numPlanes) : Prop where
  tenants : table.tenants = other.tenants
  cfg : table.cfg = other.cfg
  minActive : table.minActive = other.minActive
  planes : table.planes = other.planes
  weightsCache : table.weightsCache = other.weightsCache

/-- Duplicates are latest-wins, and no plane counts a report as two bad windows. -/
structure LatestWins (table : EVStateTable numPlanes) (tenant : String) (report : LossReport)
    (sentRing : SentWindowRing numPlanes) (receivedAtNs maxWindowSkewNs : Int)
    (stats : LossFusionStats) : Prop where
  same : EVStateTable.SameState
    (applyLossReport table tenant report sentRing receivedAtNs maxWindowSkewNs stats).table
    (applyLossReport table tenant report.latest sentRing receivedAtNs maxWindowSkewNs stats).table
  once : ∀ plane,
    ((applyLossReport table tenant report sentRing receivedAtNs maxWindowSkewNs stats).table.row
      tenant plane).consecutiveLossDemoteWindows ≤
        (table.row tenant plane).consecutiveLossDemoteWindows + 1

/-! ## What the records say -/

/-- The ratio a record reports, if it carries a signal. -/
def recordRatio? (paired : Option SentWindow) (record : PlaneLossRecord) : Option ℚ :=
  if record.seen = 0 ∧ record.expected = 0 then none
  else
    match denominator paired record with
    | .error _ => none
    | .ok (total, _) =>
        if total = 0 then none else some (EVStateTable.lossRatio record.seen.toNat total)

/-- A plane and the ratio reported about it. -/
abbrev LossSignal (numPlanes : Nat) := Fin numPlanes × ℚ

def lossSignal? (paired : Option SentWindow) (record : PlaneLossRecord) :
    Option (LossSignal numPlanes) :=
  if inRange : record.planeId.toNat < numPlanes then
    (recordRatio? paired record).map fun ratio => (⟨record.planeId.toNat, inRange⟩, ratio)
  else none

/-- The signals of a report, each with whether its record is the last one of its plane. -/
def lossSignals (paired : Option SentWindow) (records : List PlaneLossRecord) :
    List (LossSignal numPlanes × Bool) :=
  (markNewest records).filterMap fun marked =>
    (lossSignal? paired marked.1).map fun signal => (signal, marked.2)

/-- `_planes` and the cache after the signals. -/
def EVStateTable.applyLoss (table : EVStateTable numPlanes) (tenant : String)
    (signals : List (LossSignal numPlanes)) : EVStateTable numPlanes :=
  signals.foldl (fun table signal => table.applySignal tenant signal.1 (.lossWindow signal.2)) table

section Marks

theorem map_markNewest (records : List PlaneLossRecord) :
    (markNewest records).map Prod.fst = records := by
  induction records with
  | nil => rfl
  | cons record rest ih => rw [markNewest, List.map_cons, ih]

/-- No record of the same plane comes after a last one. -/
theorem markNewest_pairwise (records : List PlaneLossRecord) :
    (markNewest records).Pairwise fun marked later =>
      marked.2 = true → later.1.planeId ≠ marked.1.planeId := by
  induction records with
  | nil => exact List.Pairwise.nil
  | cons record rest ih =>
      rw [markNewest, List.pairwise_cons]
      refine ⟨fun later mem newest => ?_, ih⟩
      refine of_decide_eq_true newest later.1 ?_
      rw [← map_markNewest rest]
      exact List.mem_map_of_mem mem

variable {α β : Type} (read : α → Option β)

/-- Reading marked items keeps the marks. -/
theorem map_filterMap_mark (marked : List (α × Bool)) :
    (marked.filterMap fun item => (read item.1).map fun value => (value, item.2)).map Prod.fst =
      (marked.map Prod.fst).filterMap read := by
  induction marked with
  | nil => rfl
  | cons item rest ih =>
      rw [List.map_cons, List.filterMap_cons, List.filterMap_cons]
      cases read item.1 with
      | none => exact ih
      | some value => exact congrArg (List.cons value) ih

theorem standing_filterMap_mark (marked : List (α × Bool)) :
    standing (marked.filterMap fun item => (read item.1).map fun value => (value, item.2)) =
      (standing marked).filterMap read := by
  induction marked with
  | nil => rfl
  | cons item rest ih =>
      obtain ⟨value, newest⟩ := item
      rw [List.filterMap_cons]
      cases newest with
      | false =>
          rw [standing_cons_false, ← ih]
          cases read value with
          | none => rfl
          | some result => rfl
      | true =>
          rw [standing_cons_true,
            List.filterMap_cons, ← ih]
          cases read value with
          | none => rfl
          | some result => rfl

end Marks

/-! ## A report is its signals -/

section Report

variable {paired : Option SentWindow} {tenant : String} {row : Fin numPlanes → PlaneRecord}

theorem denominator_ok {record : PlaneLossRecord}
    (wide : ∀ window, paired = some window → window.sent.length = numPlanes)
    (inRange : record.planeId.toNat < numPlanes) :
    ∃ total used, denominator paired record = .ok (total, used) := by
  cases paired with
  | none => exact ⟨_, _, rfl⟩
  | some window =>
      have counter : record.planeId.toNat < window.sent.length := by
        rw [wide window rfl]
        exact inRange
      simp only [denominator, List.getElem?_eq_getElem counter]
      split
      · exact ⟨_, _, rfl⟩
      · exact ⟨_, _, rfl⟩

/-- One record of a known tenant and a plane in range applies its signal, if it has one. -/
theorem applyRecord_lossSignal {state : Fusion numPlanes}
    (found : state.table.planes.find? tenant = some row) {record : PlaneLossRecord}
    (wide : ∀ window, paired = some window → window.sent.length = numPlanes)
    (inRange : record.planeId.toNat < numPlanes) :
    (applyRecord tenant paired state record).raised = state.raised ∧
      (applyRecord tenant paired state record).table =
        state.table.applyLoss tenant (lossSignal? paired record).toList := by
  obtain ⟨total, used, divided⟩ := denominator_ok wide inRange
  rw [lossSignal?, dif_pos inRange, recordRatio?, applyRecord, divided]
  by_cases blank : record.seen = 0 ∧ record.expected = 0
  · rw [if_pos blank, if_pos blank]
    exact ⟨rfl, rfl⟩
  · rw [if_neg blank, if_neg blank]
    rcases Nat.eq_zero_or_pos total with rfl | positive
    · exact ⟨rfl, rfl⟩
    · have returned := EVStateTable.loss_returns found ⟨record.planeId.toNat, inRange⟩
        (Int.natCast_nonneg record.seen.toNat) (show (0 : Int) < total by exact_mod_cast positive)
      dsimp only at returned ⊢
      rw [if_neg positive.ne', if_neg positive.ne', returned]
      exact ⟨rfl, rfl⟩

theorem find?_applySignal {table : EVStateTable numPlanes} {plane : Fin numPlanes}
    {signal : EVStateTable.Signal} : (table.applySignal tenant plane signal).planes.find? tenant =
      some (EVStateTable.nextRow table.cfg table.minActive (table.row tenant) plane signal) := by
  rw [EVStateTable.applySignal_planes, OrderedDict.find?_set, if_pos rfl]

theorem find?_applyLoss {table : EVStateTable numPlanes}
    (found : table.planes.find? tenant = some row) (signals : List (LossSignal numPlanes)) :
    ∃ row, (table.applyLoss tenant signals).planes.find? tenant = some row := by
  induction signals generalizing table row with
  | nil => exact ⟨row, found⟩
  | cons signal rest ih => exact ih find?_applySignal

theorem applyRecords_lossSignals {state : Fusion numPlanes}
    (found : state.table.planes.find? tenant = some row) (quiet : state.raised = none)
    (wide : ∀ window, paired = some window → window.sent.length = numPlanes)
    {records : List PlaneLossRecord}
    (inRange : ∀ record ∈ records, record.planeId.toNat < numPlanes) :
    (applyRecords tenant paired state records).table =
      state.table.applyLoss tenant (records.filterMap (lossSignal? paired)) := by
  induction records generalizing state row with
  | nil => rfl
  | cons record rest ih =>
      obtain ⟨raised, tableEq⟩ := applyRecord_lossSignal found wide
        (inRange record List.mem_cons_self)
      obtain ⟨nextRow, nextFound⟩ := find?_applyLoss found (lossSignal? paired record).toList
      have step : (applyRecords tenant paired state (record :: rest)).table =
          (applyRecords tenant paired (applyRecord tenant paired state record) rest).table := by
        simp only [applyRecords_cons, raised, quiet, Option.isSome_none, Bool.false_eq_true, if_false]
      rw [step, ih (tableEq ▸ nextFound) (raised.trans quiet)
        (fun other mem => inRange other (List.mem_cons_of_mem _ mem)), tableEq, List.filterMap_cons]
      cases lossSignal? paired record with
      | none => rfl
      | some signal => rfl

/-- Nothing is recorded for an unknown tenant. -/
theorem applyRecords_unknown {state : Fusion numPlanes}
    (unknown : state.table.planes.find? tenant = none) (records : List PlaneLossRecord) :
    (applyRecords tenant paired state records).table = state.table := by
  refine applyRecords_keeps (motive := fun table => table = state.table) ?_ rfl
  rintro record - total table next rfl called
  obtain ⟨row, -, found, -⟩ := EVStateTable.call_ok called
  rw [show EVStateTable.Call.tenant _ = tenant from rfl, unknown] at found
  cases found

end Report

/-! ## A row after many loss windows -/

namespace EVStateTable

/-- The loss counter of a plane after one more window. -/
def windowCount (cfg : EVStateConfig) (count : Nat) (ratio : ℚ) : Nat :=
  if cfg.lossThreshold < ratio then count + 1
  else if ratio ≤ cfg.lossThreshold / 2 then 0
  else count

/-- The ratios reported about one plane. -/
def ratiosOf (plane : Fin numPlanes) (signals : List (LossSignal numPlanes)) : List ℚ :=
  (signals.filter fun signal => signal.1 = plane).map Prod.snd

def countAfter (cfg : EVStateConfig) (row : Fin numPlanes → PlaneRecord)
    (signals : List (LossSignal numPlanes)) (plane : Fin numPlanes) : Nat :=
  (ratiosOf plane signals).foldl (windowCount cfg) (row plane).consecutiveLossDemoteWindows

/-- A signal asks for a demotion, after the ones before it: it is lossy, and the counter of
its plane, which was usable, has reached the threshold. -/
def asks (cfg : EVStateConfig) (row : Fin numPlanes → PlaneRecord)
    (before : List (LossSignal numPlanes)) (signal : LossSignal numPlanes) : Bool :=
  cfg.lossThreshold < signal.2 ∧ (row signal.1).state ≠ .assumedBad ∧
    cfg.lossDemoteConsecutive ≤ windowCount cfg (countAfter cfg row before signal.1) signal.2

/-- The planes of the signals that ask for a demotion, with their marks. -/
def requestsFrom (cfg : EVStateConfig) (row : Fin numPlanes → PlaneRecord)
    (before : List (LossSignal numPlanes)) :
    List (LossSignal numPlanes × Bool) → List (Fin numPlanes × Bool)
  | [] => []
  | (signal, newest) :: rest =>
      (if asks cfg row before signal then [(signal.1, newest)] else []) ++
        requestsFrom cfg row (before ++ [signal]) rest

def requests (cfg : EVStateConfig) (row : Fin numPlanes → PlaneRecord)
    (marked : List (LossSignal numPlanes × Bool)) : List (Fin numPlanes × Bool) :=
  requestsFrom cfg row [] marked

/-- How many demotions the floor has room for. -/
def demotionSlots (minActive : Int) (row : Fin numPlanes → PlaneRecord) : Nat :=
  (usablePlanes row - minActive).toNat

/-- Who is demoted. -/
def demoted (cfg : EVStateConfig) (minActive : Int) (row : Fin numPlanes → PlaneRecord)
    (marked : List (LossSignal numPlanes × Bool)) : List (Fin numPlanes) :=
  holders (demotionSlots minActive row) ((requests cfg row marked).map Prod.fst)

/-- The row after the signals. -/
def settled (cfg : EVStateConfig) (minActive : Int) (row : Fin numPlanes → PlaneRecord)
    (marked : List (LossSignal numPlanes × Bool)) (plane : Fin numPlanes) : PlaneRecord :=
  let isDemoted := plane ∈ demoted cfg minActive row marked
  { row plane with
    state := if isDemoted then .assumedBad else (row plane).state
    consecutiveProbeSuccesses := if isDemoted then 0 else (row plane).consecutiveProbeSuccesses
    consecutiveLossDemoteWindows := countAfter cfg row (marked.map Prod.fst) plane
    lastLossRatio := (ratiosOf plane (marked.map Prod.fst)).getLastD (row plane).lastLossRatio
    transitions := (row plane).transitions + (if isDemoted then 1 else 0)
    demotesSuppressedByFloor := (row plane).demotesSuppressedByFloor +
      refused (demotionSlots minActive row) ((requests cfg row marked).map Prod.fst) plane }

section Row

variable {cfg : EVStateConfig} {minActive : Int} {row : Fin numPlanes → PlaneRecord}

theorem bumped_loss (record : PlaneRecord) (ratio : ℚ) : bumped cfg record (.lossWindow ratio) =
    { record with
      lastLossRatio := ratio
      consecutiveLossDemoteWindows := windowCount cfg record.consecutiveLossDemoteWindows ratio } :=
  rfl

theorem accuses_loss (record : PlaneRecord) (ratio : ℚ) :
    accuses cfg record (.lossWindow ratio) = decide (cfg.lossThreshold < ratio ∧
      record.state ≠ .assumedBad ∧ cfg.lossDemoteConsecutive ≤
        windowCount cfg record.consecutiveLossDemoteWindows ratio) :=
  rfl

theorem ratiosOf_snoc (plane : Fin numPlanes) (signals : List (LossSignal numPlanes))
    (signal : LossSignal numPlanes) : ratiosOf plane (signals ++ [signal]) =
      if signal.1 = plane then ratiosOf plane signals ++ [signal.2] else ratiosOf plane signals := by
  rw [ratiosOf, List.filter_append, List.filter_cons, List.filter_nil, List.map_append, ← ratiosOf]
  simp only [decide_eq_true_eq]
  split
  · rfl
  · exact List.append_nil _

theorem countAfter_snoc (signals : List (LossSignal numPlanes)) (signal : LossSignal numPlanes) :
    countAfter cfg row (signals ++ [signal]) signal.1 =
      windowCount cfg (countAfter cfg row signals signal.1) signal.2 := by
  rw [countAfter, ratiosOf_snoc, if_pos rfl, List.foldl_append, ← countAfter]
  rfl

theorem requestsFrom_snoc (before : List (LossSignal numPlanes))
    (marked : List (LossSignal numPlanes × Bool)) (signal : LossSignal numPlanes) (newest : Bool) :
    requestsFrom cfg row before (marked ++ [(signal, newest)]) = requestsFrom cfg row before marked ++
      if asks cfg row (before ++ marked.map Prod.fst) signal then [(signal.1, newest)] else [] := by
  induction marked generalizing before with
  | nil => simp [requestsFrom]
  | cons first rest ih =>
      obtain ⟨firstSignal, firstNewest⟩ := first
      rw [List.cons_append, requestsFrom, ih, requestsFrom, List.map_cons, List.append_assoc before]
      exact (List.append_assoc _ _ _).symm

theorem requests_snoc (marked : List (LossSignal numPlanes × Bool)) (signal : LossSignal numPlanes)
    (newest : Bool) : requests cfg row (marked ++ [(signal, newest)]) = requests cfg row marked ++
      if asks cfg row (marked.map Prod.fst) signal then [(signal.1, newest)] else [] :=
  requestsFrom_snoc [] marked signal newest

theorem settled_state_ne {marked : List (LossSignal numPlanes × Bool)} {plane : Fin numPlanes} :
    (settled cfg minActive row marked plane).state ≠ .assumedBad ↔
      plane ∉ demoted cfg minActive row marked ∧ (row plane).state ≠ .assumedBad := by
  dsimp only [settled]
  split_ifs with isDemoted
  · simp [isDemoted]
  · simp [isDemoted]

@[simp] theorem settled_nil : settled cfg minActive row [] = row := by
  funext plane
  simp [settled, demoted, requests, requestsFrom, refused, countAfter, ratiosOf]

/-! ### One more window -/

section Step

variable (marked : List (LossSignal numPlanes × Bool)) (signal : LossSignal numPlanes) (newest : Bool)

theorem demoted_snoc : demoted cfg minActive row (marked ++ [(signal, newest)]) =
    if asks cfg row (marked.map Prod.fst) signal then
      grant (demotionSlots minActive row) (demoted cfg minActive row marked) signal.1
    else demoted cfg minActive row marked := by
  rw [demoted, requests_snoc]
  split
  · rw [List.map_append, List.map_singleton, holders_snoc, demoted]
  · rw [List.append_nil, demoted]

/-- Nothing happens to the other planes. -/
theorem settled_snoc_of_ne {other : Fin numPlanes} (away : other ≠ signal.1) :
    settled cfg minActive row (marked ++ [(signal, newest)]) other =
      settled cfg minActive row marked other := by
  have ratios : ratiosOf other ((marked ++ [(signal, newest)]).map Prod.fst) =
      ratiosOf other (marked.map Prod.fst) := by
    rw [List.map_append, List.map_singleton, ratiosOf_snoc, if_neg away.symm]
  have holds : other ∈ demoted cfg minActive row (marked ++ [(signal, newest)]) ↔
      other ∈ demoted cfg minActive row marked := by
    rw [demoted_snoc]
    split
    · rw [grant]
      split
      · rfl
      · rw [List.mem_append, List.mem_singleton, or_iff_left away]
    · rfl
  have asked : ((requests cfg row (marked ++ [(signal, newest)])).map Prod.fst).count other =
      ((requests cfg row marked).map Prod.fst).count other := by
    rw [requests_snoc]
    split
    · rw [List.map_append, List.count_append, List.map_singleton,
        List.count_eq_zero.mpr (mt List.mem_singleton.mp away), Nat.add_zero]
    · rw [List.append_nil]
  have refusals : refused (demotionSlots minActive row)
      ((requests cfg row (marked ++ [(signal, newest)])).map Prod.fst) other =
      refused (demotionSlots minActive row) ((requests cfg row marked).map Prod.fst) other := by
    unfold demoted at holds
    simp only [refused, holds, asked]
  simp only [settled, countAfter, ratios, holds, refusals]

theorem accuses_settled :
    accuses cfg (settled cfg minActive row marked signal.1) (.lossWindow signal.2) =
      (asks cfg row (marked.map Prod.fst) signal &&
        decide (signal.1 ∉ demoted cfg minActive row marked)) := by
  rw [Bool.eq_iff_iff, accuses_loss, asks, Bool.and_eq_true, decide_eq_true_eq, decide_eq_true_eq,
    decide_eq_true_eq, settled_state_ne]
  change (_ ∧ _ ∧ _ ≤
    ((windowCount cfg (countAfter cfg row (marked.map Prod.fst) signal.1) signal.2 : Nat) : Int)) ↔ _
  tauto

/-- Its own record moves as the state machine says, when the floor permits a demotion exactly
while a slot is free. -/
theorem settled_snoc_self {permitted : Bool}
    (room : signal.1 ∉ demoted cfg minActive row marked → (row signal.1).state ≠ .assumedBad →
      (permitted = true ↔
        (demoted cfg minActive row marked).length < demotionSlots minActive row)) :
    settled cfg minActive row (marked ++ [(signal, newest)]) signal.1 =
      nextRecord cfg permitted (settled cfg minActive row marked signal.1) (.lossWindow signal.2) := by
  have counter : countAfter cfg row ((marked ++ [(signal, newest)]).map Prod.fst) signal.1 =
      windowCount cfg (countAfter cfg row (marked.map Prod.fst) signal.1) signal.2 := by
    rw [List.map_append, List.map_singleton, countAfter_snoc]
  have ratio : (ratiosOf signal.1 ((marked ++ [(signal, newest)]).map Prod.fst)).getLastD
      (row signal.1).lastLossRatio = signal.2 := by
    rw [List.map_append, List.map_singleton, ratiosOf_snoc, if_pos rfl]
    simp
  have holds : demoted cfg minActive row (marked ++ [(signal, newest)]) = _ :=
    demoted_snoc marked signal newest
  have asked : requests cfg row (marked ++ [(signal, newest)]) = _ := requests_snoc marked signal newest
  rw [nextRecord, show promotes cfg _ (.lossWindow signal.2) = false from rfl, accuses_settled,
    bumped_loss, settled]
  rw [counter, ratio]
  cases asking : asks cfg row (marked.map Prod.fst) signal with
  | false =>
      simp only [asking, Bool.false_eq_true, if_false, List.append_nil] at holds asked
      simp [holds, asked, settled]
  | true =>
      simp only [asking, if_true, grant] at holds asked
      by_cases already : signal.1 ∈ demoted cfg minActive row marked
      · -- Demoted by an earlier window: there is nothing to ask for any more.
        rw [if_pos (Or.inl already)] at holds
        have before := refused_eq_zero already
        have after := refused_eq_zero (holds ▸ already)
        simp [holds, already, after, before, settled]
      · have usable := (of_decide_eq_true asking).2.1
        by_cases free : (demoted cfg minActive row marked).length < demotionSlots minActive row
        · -- A slot is free, so nobody was refused before.
          rw [if_neg (not_or.mpr ⟨already, free.not_ge⟩)] at holds
          have isDemoted : signal.1 ∈ demoted cfg minActive row marked ++ [signal.1] :=
            List.mem_append_right _ (List.mem_singleton_self _)
          have before : refused (demotionSlots minActive row) ((requests cfg row marked).map Prod.fst)
              signal.1 = 0 := by
            rw [refused_of_not_mem already]
            exact List.count_eq_zero.mpr (not_asked already free)
          have after := refused_eq_zero (holds ▸ isDemoted)
          rw [(room already usable).mpr free]
          simp [holds, already, after, before, settled, demoteOrSuppress, enterState]
        · -- The floor refuses one more time.
          rw [if_pos (Or.inr (not_lt.mp free))] at holds
          have before := refused_of_not_mem already
          have still : signal.1 ∉ demoted cfg minActive row (marked ++ [(signal, newest)]) :=
            holds ▸ already
          have after : refused (demotionSlots minActive row)
              ((requests cfg row (marked ++ [(signal, newest)])).map Prod.fst) signal.1 =
              ((requests cfg row marked).map Prod.fst).count signal.1 + 1 := by
            rw [refused_of_not_mem still, asked, List.map_append, List.count_append]
            simp
          have noRoom : permitted = false := by
            rw [← Bool.not_eq_true, room already usable]
            exact free
          simp [holds, already, after, before, noRoom, settled, demoteOrSuppress, Nat.add_assoc]

end Step

theorem demoted_snoc_cases (cfg : EVStateConfig) (minActive : Int) (row : Fin numPlanes → PlaneRecord)
    (marked : List (LossSignal numPlanes × Bool)) (signal : LossSignal numPlanes) (newest : Bool) :
    demoted cfg minActive row (marked ++ [(signal, newest)]) = demoted cfg minActive row marked ∨
      demoted cfg minActive row (marked ++ [(signal, newest)]) =
        demoted cfg minActive row marked ++ [signal.1] ∧
      signal.1 ∉ demoted cfg minActive row marked ∧ (row signal.1).state ≠ .assumedBad := by
  rw [demoted_snoc]
  split
  · next asking =>
    rw [grant]
    split
    · exact Or.inl rfl
    · next free => exact Or.inr ⟨rfl, (not_or.mp free).1, (of_decide_eq_true asking).2.1⟩
  · exact Or.inl rfl

/-- Lists that demote the same planes leave the same states. -/
theorem settled_state_congr {marked later : List (LossSignal numPlanes × Bool)}
    (kept : demoted cfg minActive row later = demoted cfg minActive row marked)
    (plane : Fin numPlanes) :
    (settled cfg minActive row later plane).state =
      (settled cfg minActive row marked plane).state := by
  simp only [settled, kept]

theorem settled_state_of_mem {marked : List (LossSignal numPlanes × Bool)} {plane : Fin numPlanes}
    (isDemoted : plane ∈ demoted cfg minActive row marked) :
    (settled cfg minActive row marked plane).state = .assumedBad := by
  simp [settled, isDemoted]

/-- A demotion shows in the record. -/
theorem mem_demoted_iff {marked : List (LossSignal numPlanes × Bool)} {plane : Fin numPlanes} :
    plane ∈ demoted cfg minActive row marked ↔
      (settled cfg minActive row marked plane).transitions = (row plane).transitions + 1 := by
  by_cases isDemoted : plane ∈ demoted cfg minActive row marked
  · simp [settled, isDemoted]
  · simp [settled, isDemoted]

end Row

/-! ### A run of windows -/

/-- The table after the signals, but for its events. -/
structure Settled (table : EVStateTable numPlanes) (tenant : String)
    (marked : List (LossSignal numPlanes × Bool)) (after : EVStateTable numPlanes) : Prop where
  tenants : after.tenants = table.tenants
  cfg : after.cfg = table.cfg
  minActive : after.minActive = table.minActive
  planes : after.planes = table.planes.set tenant
    (settled table.cfg table.minActive (table.row tenant) marked)
  weightsCache : after.weightsCache =
    if demoted table.cfg table.minActive (table.row tenant) marked = [] then table.weightsCache
    else table.weightsCache.set tenant
      (normalizedWeights (settled table.cfg table.minActive (table.row tenant) marked))
  usable : usablePlanes (settled table.cfg table.minActive (table.row tenant) marked) +
    (demoted table.cfg table.minActive (table.row tenant) marked).length =
      usablePlanes (table.row tenant)

section Run

variable {table : EVStateTable numPlanes} {tenant : String}

/-- The floor permits a demotion exactly while a slot is free. -/
theorem Settled.room {after : EVStateTable numPlanes} {marked : List (LossSignal numPlanes × Bool)}
    (reached : Settled table tenant marked after) {plane : Fin numPlanes}
    (spared : plane ∉ demoted table.cfg table.minActive (table.row tenant) marked)
    (usable : (table.row tenant plane).state ≠ .assumedBad) :
    floorPermits table.minActive (settled table.cfg table.minActive (table.row tenant) marked) plane =
        true ↔
      (demoted table.cfg table.minActive (table.row tenant) marked).length <
        demotionSlots table.minActive (table.row tenant) := by
  have counted := usablePlanes_eq (settled table.cfg table.minActive (table.row tenant) marked) plane
  rw [if_pos (settled_state_ne.mpr ⟨spared, usable⟩)] at counted
  have total := reached.usable
  rw [floorPermits, decide_eq_true_eq, demotionSlots]
  omega

theorem Settled.row {after : EVStateTable numPlanes} {marked : List (LossSignal numPlanes × Bool)}
    (reached : Settled table tenant marked after) :
    after.row tenant = settled table.cfg table.minActive (table.row tenant) marked := by
  rw [EVStateTable.row, reached.planes, OrderedDict.find?_set, if_pos rfl]
  rfl

theorem Settled.nextRow {after : EVStateTable numPlanes} {marked : List (LossSignal numPlanes × Bool)}
    (reached : Settled table tenant marked after) (signal : LossSignal numPlanes) (newest : Bool) :
    EVStateTable.nextRow table.cfg table.minActive
        (settled table.cfg table.minActive (table.row tenant) marked) signal.1 (.lossWindow signal.2) =
      settled table.cfg table.minActive (table.row tenant) (marked ++ [(signal, newest)]) := by
  funext plane
  rw [EVStateTable.nextRow]
  by_cases here : plane = signal.1
  · subst here
    rw [Function.update_self, settled_snoc_self marked signal newest reached.room]
  · rw [Function.update_of_ne here, settled_snoc_of_ne marked signal newest here]

/-- The cache is rebuilt with the state of the plane. -/
theorem Settled.weightsCache_applySignal {after : EVStateTable numPlanes}
    {marked : List (LossSignal numPlanes × Bool)} (reached : Settled table tenant marked after)
    (signal : LossSignal numPlanes) (newest : Bool) :
    (after.applySignal tenant signal.1 (.lossWindow signal.2)).weightsCache =
      if demoted table.cfg table.minActive (table.row tenant) (marked ++ [(signal, newest)]) = [] then
        table.weightsCache
      else table.weightsCache.set tenant (normalizedWeights
        (settled table.cfg table.minActive (table.row tenant) (marked ++ [(signal, newest)]))) := by
  have cache : (after.applySignal tenant signal.1 (.lossWindow signal.2)).weightsCache =
      if (settled table.cfg table.minActive (table.row tenant) marked signal.1).state =
          (settled table.cfg table.minActive (table.row tenant)
            (marked ++ [(signal, newest)]) signal.1).state then after.weightsCache
      else after.weightsCache.set tenant (normalizedWeights
        (settled table.cfg table.minActive (table.row tenant) (marked ++ [(signal, newest)]))) := by
    rw [EVStateTable.applySignal, reached.row, reached.cfg, reached.minActive,
      reached.nextRow signal newest]
    split
    · rfl
    · rfl
  rw [cache, reached.weightsCache]
  rcases demoted_snoc_cases table.cfg table.minActive (table.row tenant) marked signal newest with
    kept | ⟨grown, fresh, usable⟩
  · have states := settled_state_congr kept.symm
    rw [if_pos (states signal.1), kept, normalizedWeights_congr states]
  · have bad := settled_state_of_mem (grown ▸ List.mem_append_right _ List.mem_cons_self)
    rw [if_neg fun same => settled_state_ne.mpr ⟨fresh, usable⟩ (same.trans bad), grown,
      if_neg (List.append_ne_nil_of_right_ne_nil _ (List.cons_ne_nil _ _))]
    split
    · rfl
    · exact OrderedDict.set_set _ _ _ _

/-- Every demotion takes a usable plane. -/
theorem Settled.usable_snoc {after : EVStateTable numPlanes}
    {marked : List (LossSignal numPlanes × Bool)} (reached : Settled table tenant marked after)
    (signal : LossSignal numPlanes) (newest : Bool) :
    usablePlanes (settled table.cfg table.minActive (table.row tenant)
        (marked ++ [(signal, newest)])) +
      (demoted table.cfg table.minActive (table.row tenant) (marked ++ [(signal, newest)])).length =
        usablePlanes (table.row tenant) := by
  have total := reached.usable
  have before := usablePlanes_eq (settled table.cfg table.minActive (table.row tenant) marked) signal.1
  have now := usablePlanes_eq (settled table.cfg table.minActive (table.row tenant)
    (marked ++ [(signal, newest)])) signal.1
  have others : usableAfter (settled table.cfg table.minActive (table.row tenant)
      (marked ++ [(signal, newest)])) signal.1 =
      usableAfter (settled table.cfg table.minActive (table.row tenant) marked) signal.1 := by
    rw [← reached.nextRow signal newest, EVStateTable.nextRow, usableAfter_update]
  rw [others] at now
  rcases demoted_snoc_cases table.cfg table.minActive (table.row tenant) marked signal newest with
    kept | ⟨grown, fresh, usable⟩
  · rw [settled_state_congr kept, ← before] at now
    rw [now, kept, total]
  · have bad := settled_state_of_mem (grown ▸ List.mem_append_right _ List.mem_cons_self)
    rw [if_pos (settled_state_ne.mpr ⟨fresh, usable⟩)] at before
    rw [if_neg (not_not.mpr bad)] at now
    rw [grown, List.length_append, List.length_singleton]
    omega

theorem Settled.applySignal {after : EVStateTable numPlanes}
    {marked : List (LossSignal numPlanes × Bool)} (reached : Settled table tenant marked after)
    (signal : LossSignal numPlanes) (newest : Bool) :
    Settled table tenant (marked ++ [(signal, newest)])
      (after.applySignal tenant signal.1 (.lossWindow signal.2)) where
  tenants := by rw [applySignal_tenants, reached.tenants]
  cfg := by rw [applySignal_cfg, reached.cfg]
  minActive := by rw [applySignal_minActive, reached.minActive]
  planes := by
    rw [applySignal_planes, reached.row, reached.cfg, reached.minActive,
      reached.nextRow signal newest, reached.planes, OrderedDict.set_set]
  weightsCache := reached.weightsCache_applySignal signal newest
  usable := reached.usable_snoc signal newest

/-- After all signals. -/
theorem settled_applyLoss {row : Fin numPlanes → PlaneRecord}
    (found : table.planes.find? tenant = some row) (marked : List (LossSignal numPlanes × Bool)) :
    Settled table tenant marked (table.applyLoss tenant (marked.map Prod.fst)) := by
  have rowEq := row_of_find? found
  induction marked using List.reverseRecOn with
  | nil =>
      refine ⟨rfl, rfl, rfl, ?_, ?_, ?_⟩
      · rw [settled_nil, rowEq]
        exact (OrderedDict.set_eq_self found).symm
      · exact (if_pos rfl).symm
      · rw [settled_nil]
        rfl
  | append_singleton marked signal ih =>
      rw [List.map_append, applyLoss, List.foldl_append]
      exact ih.applySignal signal.1 signal.2

/-- Two lists of signals lead to the same table exactly when they lead to the same row. -/
theorem sameState_iff {row : Fin numPlanes → PlaneRecord}
    (found : table.planes.find? tenant = some row) (marked other : List (LossSignal numPlanes × Bool)) :
    SameState (table.applyLoss tenant (marked.map Prod.fst))
        (table.applyLoss tenant (other.map Prod.fst)) ↔
      settled table.cfg table.minActive row marked = settled table.cfg table.minActive row other := by
  have first := settled_applyLoss found marked
  have second := settled_applyLoss found other
  have rowEq := row_of_find? found
  constructor
  · intro same
    have planes := congrArg (OrderedDict.find? · tenant) same.planes
    simpa [first.planes, second.planes, rowEq] using planes
  · intro same
    have holds (plane : Fin numPlanes) : plane ∈ demoted table.cfg table.minActive row marked ↔
        plane ∈ demoted table.cfg table.minActive row other := by
      rw [mem_demoted_iff, mem_demoted_iff, same]
    have nobody : demoted table.cfg table.minActive row marked = [] ↔
        demoted table.cfg table.minActive row other = [] := by
      rw [List.eq_nil_iff_forall_not_mem, List.eq_nil_iff_forall_not_mem]
      exact forall_congr' fun plane => not_congr (holds plane)
    refine ⟨first.tenants.trans second.tenants.symm, first.cfg.trans second.cfg.symm,
      first.minActive.trans second.minActive.symm, ?_, ?_⟩
    · rw [first.planes, second.planes, rowEq, same]
    · rw [first.weightsCache, second.weightsCache, rowEq, same]
      simp only [nobody]

end Run

/-! ## Dropping superseded signals -/

/-- A ratio that resets the loss counter. -/
def Quiet (cfg : EVStateConfig) (ratio : ℚ) : Prop :=
  ¬ cfg.lossThreshold < ratio ∧ ratio ≤ cfg.lossThreshold / 2

/-- The ratios of a plane's records that are not its last one. -/
def superseded (plane : Fin numPlanes) (marked : List (LossSignal numPlanes × Bool)) : List ℚ :=
  ratiosOf plane ((marked.filter fun item => !item.2).map Prod.fst)

/-- The superseded signals change nothing that lasts: not the counter of a plane, unless its
last record resets it, not the ratio on record, if the last record has none, and no
demotion but of a plane that its last record gets demoted anyway. -/
structure Harmless (cfg : EVStateConfig) (minActive : Int) (row : Fin numPlanes → PlaneRecord)
    (marked : List (LossSignal numPlanes × Bool)) : Prop where
  counter : ∀ plane, (∃ ratio ∈ ratiosOf plane (standing marked), Quiet cfg ratio) ∨
    (superseded plane marked).foldl (windowCount cfg) (row plane).consecutiveLossDemoteWindows =
      (row plane).consecutiveLossDemoteWindows
  ratio : ∀ plane, ratiosOf plane (standing marked) = [] →
    (superseded plane marked).getLastD (row plane).lastLossRatio = (row plane).lastLossRatio
  demotion : ∀ plane, (plane, false) ∈ requests cfg row marked →
    plane ∈ ((requests cfg row (marked.filter Prod.snd)).map Prod.fst).take
      (demotionSlots minActive row)

/-- A marked signal is the last one about its plane. -/
def NewestLast (marked : List (LossSignal numPlanes × Bool)) : Prop :=
  marked.Pairwise fun item later => item.2 = true → later.1.1 ≠ item.1.1

section Latest

variable {cfg : EVStateConfig} {minActive : Int} {row : Fin numPlanes → PlaneRecord}
  {marked : List (LossSignal numPlanes × Bool)}

theorem ratiosOf_append (plane : Fin numPlanes) (first second : List (LossSignal numPlanes)) :
    ratiosOf plane (first ++ second) = ratiosOf plane first ++ ratiosOf plane second := by
  rw [ratiosOf, List.filter_append, List.map_append, ← ratiosOf, ← ratiosOf]

theorem ratiosOf_eq_nil {plane : Fin numPlanes} {signals : List (LossSignal numPlanes)}
    (absent : ∀ signal ∈ signals, signal.1 ≠ plane) : ratiosOf plane signals = [] := by
  rw [ratiosOf, List.filter_eq_nil_iff.mpr, List.map_nil]
  exact fun signal mem same => absent signal mem (of_decide_eq_true same)

theorem ratiosOf_cons (plane : Fin numPlanes) (signal : LossSignal numPlanes)
    (signals : List (LossSignal numPlanes)) : ratiosOf plane (signal :: signals) =
      if signal.1 = plane then signal.2 :: ratiosOf plane signals else ratiosOf plane signals := by
  rw [ratiosOf, List.filter_cons]
  simp only [decide_eq_true_eq]
  split
  · rfl
  · rfl

theorem mem_of_standing {signal : LossSignal numPlanes} (mem : signal ∈ standing marked) :
    ∃ item ∈ marked, item.1 = signal :=
  ⟨(signal, true), mem_standing.mp mem, rfl⟩

/-- The last ratio of a plane comes after the superseded ones, and there is at most one. -/
theorem ratiosOf_split (last : NewestLast marked) (plane : Fin numPlanes) :
    ratiosOf plane (marked.map Prod.fst) =
        superseded plane marked ++ ratiosOf plane (standing marked) ∧
      (ratiosOf plane (standing marked)).length ≤ 1 := by
  induction marked with
  | nil => exact ⟨rfl, Nat.zero_le _⟩
  | cons item rest ih =>
      obtain ⟨signal, newest⟩ := item
      obtain ⟨first, later⟩ := List.pairwise_cons.mp last
      obtain ⟨split, short⟩ := ih later
      rw [List.map_cons, ratiosOf_cons]
      cases newest with
      | false =>
          rw [standing_cons_false,
            show superseded plane ((signal, false) :: rest) =
              ratiosOf plane (signal :: (rest.filter fun item => !item.2).map Prod.fst) from rfl,
            ratiosOf_cons]
          refine ⟨?_, short⟩
          split_ifs
          · rw [split]
            rfl
          · exact split
      | true =>
          rw [standing_cons_true,
            show superseded plane ((signal, true) :: rest) = superseded plane rest from rfl,
            ratiosOf_cons]
          split_ifs with here
          · have gone (signals : List (LossSignal numPlanes))
                (within : ∀ other ∈ signals, ∃ item ∈ rest, item.1 = other) :
                ratiosOf plane signals = [] := by
              refine ratiosOf_eq_nil fun other mem => ?_
              obtain ⟨item, inRest, rfl⟩ := within other mem
              exact here ▸ first item inRest rfl
            have none_ : superseded plane rest = [] := gone _ fun other mem => by
              obtain ⟨item, kept, same⟩ := List.mem_map.mp mem
              exact ⟨item, List.mem_of_mem_filter kept, same⟩
            rw [gone _ fun other mem => List.mem_map.mp mem, none_,
              gone _ fun other mem => mem_of_standing mem]
            exact ⟨rfl, le_rfl⟩
          · exact ⟨split, short⟩

theorem windowCount_eq_iff {count other : Nat} {ratio : ℚ} :
    windowCount cfg count ratio = windowCount cfg other ratio ↔ Quiet cfg ratio ∨ count = other := by
  unfold windowCount Quiet
  split_ifs with lossy resets
  · simp [lossy]
  · simp [lossy, resets]
  · simp [resets]

theorem windowCount_le (count : Nat) (ratio : ℚ) : windowCount cfg count ratio ≤ count + 1 := by
  unfold windowCount
  split_ifs
  · exact le_rfl
  · exact Nat.zero_le _
  · exact Nat.le_succ _

/-- A list of at most one ratio. -/
theorem eq_nil_or_singleton {ratios : List ℚ} (short : ratios.length ≤ 1) :
    ratios = [] ∨ ∃ ratio, ratios = [ratio] := by
  cases ratios with
  | nil => exact Or.inl rfl
  | cons ratio rest =>
      rw [List.length_cons] at short
      exact Or.inr ⟨ratio, by rw [List.eq_nil_of_length_eq_zero (show rest.length = 0 by omega)]⟩

/-- The counter is the one after the last record alone. -/
theorem countAfter_standing_iff (last : NewestLast marked) (plane : Fin numPlanes) :
    countAfter cfg row (marked.map Prod.fst) plane = countAfter cfg row (standing marked) plane ↔
      (∃ ratio ∈ ratiosOf plane (standing marked), Quiet cfg ratio) ∨
        (superseded plane marked).foldl (windowCount cfg) (row plane).consecutiveLossDemoteWindows =
          (row plane).consecutiveLossDemoteWindows := by
  obtain ⟨split, short⟩ := ratiosOf_split last plane
  rw [countAfter, countAfter, split, List.foldl_append]
  rcases eq_nil_or_singleton short with none_ | ⟨ratio, one⟩
  · rw [none_]
    simp
  · rw [one]
    simpa using windowCount_eq_iff

/-- So is the ratio on record. -/
theorem getLastD_standing_iff (last : NewestLast marked) (plane : Fin numPlanes) (ratio : ℚ) :
    (ratiosOf plane (marked.map Prod.fst)).getLastD ratio =
        (ratiosOf plane (standing marked)).getLastD ratio ↔
      (ratiosOf plane (standing marked) = [] → (superseded plane marked).getLastD ratio = ratio) := by
  obtain ⟨split, short⟩ := ratiosOf_split last plane
  rw [split]
  rcases eq_nil_or_singleton short with none_ | ⟨newest, one⟩
  · rw [none_]
    simp
  · rw [one]
    simp

theorem countAfter_append_of_absent (before : List (LossSignal numPlanes))
    {signal : LossSignal numPlanes} {rest : List (LossSignal numPlanes)}
    (absent : ∀ other ∈ rest, other.1 ≠ signal.1) :
    countAfter cfg row (before ++ signal :: rest) signal.1 =
      windowCount cfg (countAfter cfg row before signal.1) signal.2 := by
  rw [List.append_cons, ← countAfter_snoc, countAfter, ratiosOf_append, ratiosOf_eq_nil absent,
    List.append_nil]
  rfl

/-- With the same counters at the end, the last records ask for the same demotions as they do
alone. -/
theorem standing_requestsFrom (last : NewestLast marked) {before alone : List (LossSignal numPlanes)}
    (counts : ∀ plane, countAfter cfg row (before ++ marked.map Prod.fst) plane =
      countAfter cfg row (alone ++ standing marked) plane) :
    standing (requestsFrom cfg row before marked) =
      (requestsFrom cfg row alone (marked.filter Prod.snd)).map Prod.fst := by
  induction marked generalizing before alone with
  | nil => rfl
  | cons item rest ih =>
      obtain ⟨signal, newest⟩ := item
      obtain ⟨first, later⟩ := List.pairwise_cons.mp last
      cases newest with
      | false =>
          have tail := @ih later (before ++ [signal]) alone fun plane => by
            rw [List.append_assoc]
            exact counts plane
          rw [requestsFrom, standing_append, tail, List.filter_cons_of_neg Bool.false_ne_true]
          split
          · rfl
          · rfl
      | true =>
          have tail := @ih later (before ++ [signal]) (alone ++ [signal]) fun plane => by
            rw [List.append_assoc, List.append_assoc]
            exact counts plane
          have here := counts signal.1
          rw [List.map_cons, countAfter_append_of_absent before, standing_cons_true,
            countAfter_append_of_absent alone] at here
          · have asking : asks cfg row before signal = asks cfg row alone signal := by
              rw [asks, asks, here]
            rw [requestsFrom, standing_append, tail, List.filter_cons_of_pos rfl, requestsFrom, asking,
              List.map_append]
            split
            · rfl
            · rfl
          · intro other mem
            obtain ⟨item, inRest, rfl⟩ := mem_of_standing mem
            exact first item inRest rfl
          · intro other mem
            obtain ⟨item, inRest, rfl⟩ := List.mem_map.mp mem
            exact first item inRest rfl

/-- A plane asks by its last record at most once. -/
theorem requestsFrom_sublist (before : List (LossSignal numPlanes))
    (marked : List (LossSignal numPlanes × Bool)) :
    (requestsFrom cfg row before marked).Sublist (marked.map fun item => (item.1.1, item.2)) := by
  induction marked generalizing before with
  | nil => exact List.Sublist.refl _
  | cons item rest ih =>
      rw [requestsFrom, List.map_cons]
      split
      · exact (ih _).cons_cons _
      · exact (ih _).cons _

theorem standing_requests_nodup (last : NewestLast marked) :
    (standing (requests cfg row marked)).Nodup := by
  have distinct : ((marked.map fun item => (item.1.1, item.2)).filter Prod.snd).Pairwise
      fun item later => item.1 ≠ later.1 := by
    rw [List.filter_map, List.pairwise_map]
    refine (List.Pairwise.filter _ last).imp_of_mem fun {item later} mem _ apart same => ?_
    exact apart (List.of_mem_filter mem) same.symm
  exact List.pairwise_map.mpr (distinct.sublist ((requestsFrom_sublist [] marked).filter _))

/-- Two rows agree exactly when counters, ratios and the outcome of the demotions do. -/
theorem settled_eq_settled_iff {other : List (LossSignal numPlanes × Bool)} :
    settled cfg minActive row marked = settled cfg minActive row other ↔
      (∀ plane, countAfter cfg row (marked.map Prod.fst) plane =
        countAfter cfg row (other.map Prod.fst) plane) ∧
      (∀ plane, (ratiosOf plane (marked.map Prod.fst)).getLastD (row plane).lastLossRatio =
        (ratiosOf plane (other.map Prod.fst)).getLastD (row plane).lastLossRatio) ∧
      (∀ plane, plane ∈ demoted cfg minActive row marked ↔ plane ∈ demoted cfg minActive row other) ∧
      ∀ plane, refused (demotionSlots minActive row) ((requests cfg row marked).map Prod.fst) plane =
        refused (demotionSlots minActive row) ((requests cfg row other).map Prod.fst) plane := by
  constructor
  · intro same
    refine ⟨fun plane => ?_, fun plane => ?_, fun plane => ?_, fun plane => ?_⟩
    · exact congrArg PlaneRecord.consecutiveLossDemoteWindows (congrFun same plane)
    · exact congrArg PlaneRecord.lastLossRatio (congrFun same plane)
    · rw [mem_demoted_iff, mem_demoted_iff, same]
    · exact Nat.add_left_cancel
        (congrArg PlaneRecord.demotesSuppressedByFloor (congrFun same plane))
  · rintro ⟨counts, ratios, holds, refusals⟩
    funext plane
    simp only [settled, counts, ratios, holds, refusals]

theorem settled_standing_iff (last : NewestLast marked) :
    settled cfg minActive row marked = settled cfg minActive row (marked.filter Prod.snd) ↔
      Harmless cfg minActive row marked := by
  have latest (counts : ∀ plane, countAfter cfg row (marked.map Prod.fst) plane =
      countAfter cfg row (standing marked) plane) :
      standing (requests cfg row marked) = (requests cfg row (marked.filter Prod.snd)).map Prod.fst :=
    standing_requestsFrom last counts
  have service : SameService (demotionSlots minActive row) (requests cfg row marked) ↔ _ :=
    sameService_iff (standing_requests_nodup last)
  rw [settled_eq_settled_iff]
  constructor
  · rintro ⟨counts, ratios, holds, refusals⟩
    refine ⟨fun plane => (countAfter_standing_iff last plane).mp (counts plane),
      fun plane => (getLastD_standing_iff last plane _).mp (ratios plane), ?_⟩
    rw [← latest counts]
    refine service.mp ⟨?_, ?_⟩
    · rw [latest counts]
      exact holds
    · rw [latest counts]
      exact refusals
  · intro harmless
    have counts (plane : Fin numPlanes) : countAfter cfg row (marked.map Prod.fst) plane =
        countAfter cfg row (standing marked) plane :=
      (countAfter_standing_iff last plane).mpr (harmless.counter plane)
    have demotion := harmless.demotion
    rw [← latest counts] at demotion
    obtain ⟨holds, refusals⟩ := service.mpr demotion
    rw [latest counts] at holds refusals
    exact ⟨counts, fun plane => (getLastD_standing_iff last plane _).mpr (harmless.ratio plane),
      holds, refusals⟩

end Latest

end EVStateTable

/-! ## One report -/

section Report

variable {table : EVStateTable numPlanes} {tenant : String} {report : LossReport}
  {sentRing : SentWindowRing numPlanes} {receivedAtNs maxWindowSkewNs : Int} {stats : LossFusionStats}

/-- Without marks, the signals are those of all records. -/
theorem map_lossSignals (paired : Option SentWindow) (records : List PlaneLossRecord) :
    (lossSignals paired records : List (LossSignal numPlanes × Bool)).map Prod.fst =
      records.filterMap (lossSignal? paired) := by
  rw [lossSignals, map_filterMap_mark, map_markNewest]

theorem lossSignal?_plane {paired : Option SentWindow} {record : PlaneLossRecord}
    {signal : LossSignal numPlanes} (read : lossSignal? paired record = some signal) :
    (signal.1 : Nat) = record.planeId.toNat := by
  unfold lossSignal? at read
  split at read
  · obtain ⟨ratio, -, rfl⟩ := Option.map_eq_some_iff.mp read
    rfl
  · cases read

theorem newestLast_lossSignals (paired : Option SentWindow) (records : List PlaneLossRecord) :
    EVStateTable.NewestLast (lossSignals paired records : List (LossSignal numPlanes × Bool)) := by
  refine List.Pairwise.filterMap _ ?_ (markNewest_pairwise records)
  intro marked later apart item isItem laterItem isLater newest same
  obtain ⟨signal, read, rfl⟩ := Option.map_eq_some_iff.mp isItem
  obtain ⟨laterSignal, laterRead, rfl⟩ := Option.map_eq_some_iff.mp isLater
  refine apart newest (UInt8.toNat_inj.mp ?_)
  rw [← lossSignal?_plane read, ← lossSignal?_plane laterRead]
  exact congrArg Fin.val same

/-- The last records alone count one bad window for each plane at most. -/
theorem countAfter_standing_le {cfg : EVStateConfig} {row : Fin numPlanes → PlaneRecord}
    {marked : List (LossSignal numPlanes × Bool)} (last : EVStateTable.NewestLast marked)
    (plane : Fin numPlanes) : EVStateTable.countAfter cfg row (standing marked) plane ≤
      (row plane).consecutiveLossDemoteWindows + 1 := by
  rw [EVStateTable.countAfter]
  rcases EVStateTable.eq_nil_or_singleton (EVStateTable.ratiosOf_split last plane).2 with
    none_ | ⟨ratio, one⟩
  · rw [none_]
    exact Nat.le_succ _
  · rw [one]
    exact EVStateTable.windowCount_le _ _

/-- The table after a report is the one after its signals. -/
theorem applyLossReport_table {row : Fin numPlanes → PlaneRecord}
    (found : table.planes.find? tenant = some row)
    (inRange : ∀ record ∈ report.planes, record.planeId.toNat < numPlanes) :
    (applyLossReport table tenant report sentRing receivedAtNs maxWindowSkewNs stats).table =
      table.applyLoss tenant (report.planes.filterMap
        (lossSignal? (sentRing.findClosest receivedAtNs maxWindowSkewNs))) := by
  unfold applyLossReport
  split_ifs with empty
  · rw [empty]
    rfl
  · exact @applyRecords_lossSignals numPlanes _ tenant row { table, stats := _ } found rfl
      (fun window paired => (SentWindowRing.mem_of_findClosest paired).2) _ inRange

theorem applyLossReport_unknown (unknown : table.planes.find? tenant = none) :
    (applyLossReport table tenant report sentRing receivedAtNs maxWindowSkewNs stats).table = table := by
  unfold applyLossReport
  split_ifs with empty
  · rfl
  · exact @applyRecords_unknown numPlanes _ tenant { table, stats := _ } unknown _

theorem latest_inRange (inRange : ∀ record ∈ report.planes, record.planeId.toNat < numPlanes) :
    ∀ record ∈ report.latest.planes, record.planeId.toNat < numPlanes := by
  intro record mem
  refine inRange record ?_
  rw [← map_markNewest report.planes]
  exact List.mem_map_of_mem (mem_standing.mp mem)

/-- Nine of ten packets lost on plane 0, reported twice in one report. -/
def twiceLossy : LossReport := ⟨7, [⟨0, 1, 10, 0⟩, ⟨0, 1, 10, 0⟩]⟩

end Report

end Srv6Fabric.Mrc

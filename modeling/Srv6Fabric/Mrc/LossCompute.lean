import Srv6Fabric.Mrc.EvStateInvariant
import Srv6Fabric.Mrc.Probe

/-!
# Fusing loss reports with the sender's counters

`loss_compute.py`: the ring of closed sent windows, and `apply_loss_report`.
-/

namespace Srv6Fabric.Mrc

/-- One closed emit window of the sender. -/
structure SentWindow where
  startNs : Int
  endNs : Int
  sent : List Nat
  windowId : UInt16 := 0
  deriving DecidableEq, Repr

def SentWindow.midpointNs (window : SentWindow) : Int := (window.startNs + window.endNs) / 2

/-- Recent emit windows, oldest first; every one has a counter for each plane. -/
structure SentWindowRing (numPlanes : Nat) where
  capacity : Nat
  windows : List SentWindow
  wide : ∀ window ∈ windows, window.sent.length = numPlanes

namespace SentWindowRing

variable {numPlanes : Nat}

def empty (numPlanes capacity : Nat) : SentWindowRing numPlanes := ⟨capacity, [], by simp⟩

def init (numPlanes : Nat) (capacity : Int) : Except PyError (SentWindowRing numPlanes) :=
  if numPlanes = 0 then .error (.valueError s!"num_planes must be positive, got {numPlanes}")
  else if capacity ≤ 0 then
    .error (.valueError s!"capacity must be positive, got {capacity}")
  else .ok (empty numPlanes capacity.toNat)

theorem init_ok {capacity : Int} {ring : SentWindowRing numPlanes}
    (built : init numPlanes capacity = .ok ring) : ring = empty numPlanes capacity.toNat := by
  unfold init at built
  split_ifs at built
  exact (Except.ok.inj built).symm

/-- Append a window; a full ring drops its oldest one. -/
def push (ring : SentWindowRing numPlanes) (window : SentWindow) :
    Except PyError (SentWindowRing numPlanes) :=
  if width : window.sent.length = numPlanes then
    .ok { ring with
      windows := (ring.windows ++ [window]).drop (ring.windows.length + 1 - ring.capacity)
      wide := by
        intro kept mem
        rcases List.mem_append.mp (List.mem_of_mem_drop mem) with old | new
        · exact ring.wide kept old
        · rw [List.mem_singleton.mp new]
          exact width }
  else .error (.valueError
    s!"window.sent length {window.sent.length} != num_planes {numPlanes}")

/-- The loop of `find_closest`. -/
def scan (targetNs : Int) : List SentWindow → Int → Option SentWindow → Option SentWindow
  | [], _, best => best
  | window :: rest, bestSkew, best =>
      let skew := |window.midpointNs - targetNs|
      if skew < bestSkew then scan targetNs rest skew (some window)
      else scan targetNs rest bestSkew best

/-- The first window whose midpoint is closest to the target, within the skew. -/
def findClosest (ring : SentWindowRing numPlanes) (targetNs maxSkewNs : Int) :
    Option SentWindow :=
  scan targetNs ring.windows (maxSkewNs + 1) none

theorem mem_of_scan {targetNs : Int} {windows : List SentWindow} {bestSkew : Int}
    {best : Option SentWindow} {window : SentWindow}
    (found : scan targetNs windows bestSkew best = some window) :
    best = some window ∨ window ∈ windows := by
  induction windows generalizing bestSkew best with
  | nil => exact Or.inl found
  | cons first rest ih =>
      unfold scan at found
      dsimp only at found
      split at found
      · rcases ih found with chosen | later
        · exact Or.inr (Option.some.inj chosen ▸ List.mem_cons_self)
        · exact Or.inr (List.mem_cons_of_mem _ later)
      · rcases ih found with kept | later
        · exact Or.inl kept
        · exact Or.inr (List.mem_cons_of_mem _ later)

/-- The paired window is one of the ring, so it has a counter for each plane. -/
theorem mem_of_findClosest {ring : SentWindowRing numPlanes} {targetNs maxSkewNs : Int}
    {window : SentWindow} (found : ring.findClosest targetNs maxSkewNs = some window) :
    window ∈ ring.windows ∧ window.sent.length = numPlanes := by
  rcases mem_of_scan found with impossible | mem
  · cases impossible
  · exact ⟨mem, ring.wide window mem⟩

end SentWindowRing

structure LossFusionStats where
  reportsProcessed : Nat := 0
  planesUpdated : Nat := 0
  planesSkippedNoData : Nat := 0
  pairedWithSentWindow : Nat := 0
  fellBackToReceiverExpected : Nat := 0
  noPairingWindowInRing : Nat := 0
  deriving DecidableEq, Repr

/-- A plane was skipped for lack of data. -/
def LossFusionStats.skipped (stats : LossFusionStats) : LossFusionStats :=
  { stats with planesSkippedNoData := stats.planesSkippedNoData + 1 }

/-- A plane was updated, with the sender's own counter or with the receiver's span. -/
def LossFusionStats.updated (stats : LossFusionStats) (usedSenderCounter : Bool) :
    LossFusionStats :=
  { stats with
    planesUpdated := stats.planesUpdated + 1
    pairedWithSentWindow := stats.pairedWithSentWindow + (if usedSenderCounter then 1 else 0)
    fellBackToReceiverExpected :=
      stats.fellBackToReceiverExpected + (if usedSenderCounter then 0 else 1) }

/-- The denominator of one record, and whether it is the sender's own counter. -/
def denominator (paired : Option SentWindow) (record : PlaneLossRecord) :
    Except PyError (Nat × Bool) :=
  match paired with
  | none => .ok (record.expected.toNat, false)
  | some window =>
      match window.sent[record.planeId.toNat]? with
      | none => .error (.indexError "tuple index out of range")
      | some senderSent =>
          if 0 < senderSent then .ok (senderSent, true) else .ok (record.expected.toNat, false)

/-- What `apply_loss_report` leaves behind: table, statistics, the
`record_loss_window` calls that returned, and the exception that ended it, if any. -/
structure Fusion (numPlanes : Nat) where
  table : EVStateTable numPlanes
  stats : LossFusionStats
  calls : List EVStateTable.Call := []
  raised : Option PyError := none

variable {numPlanes : Nat}

/-- One turn of the record loop of `apply_loss_report`. -/
def applyRecord (tenant : String) (paired : Option SentWindow) (state : Fusion numPlanes)
    (record : PlaneLossRecord) : Fusion numPlanes :=
  if record.seen = 0 ∧ record.expected = 0 then { state with stats := state.stats.skipped }
  else
    match denominator paired record with
    | .error error => { state with raised := some error }
    | .ok (total, usedSenderCounter) =>
        if total = 0 then { state with stats := state.stats.skipped }
        else
          let call : EVStateTable.Call :=
            .loss tenant record.planeId.toNat record.seen.toNat total
          match state.table.call call with
          | .error error => { state with raised := some error }
          | .ok table =>
              { state with
                table
                stats := state.stats.updated usedSenderCounter
                calls := state.calls ++ [call] }

/-- The record loop: an exception ends it. -/
def applyRecords (tenant : String) (paired : Option SentWindow) (state : Fusion numPlanes) :
    List PlaneLossRecord → Fusion numPlanes
  | [] => state
  | record :: rest =>
      let next := applyRecord tenant paired state record
      if next.raised.isSome then next else applyRecords tenant paired next rest

def applyLossReport (table : EVStateTable numPlanes) (tenant : String) (report : LossReport)
    (sentRing : SentWindowRing numPlanes) (receivedAtNs maxWindowSkewNs : Int)
    (stats : LossFusionStats) : Fusion numPlanes :=
  if report.planes = [] then { table, stats }
  else
    let paired := sentRing.findClosest receivedAtNs maxWindowSkewNs
    let stats := { stats with
      reportsProcessed := stats.reportsProcessed + 1
      noPairingWindowInRing :=
        stats.noPairingWindowInRing + (if paired.isNone then 1 else 0) }
    applyRecords tenant paired { table, stats } report.planes

theorem applyRecords_nil (tenant : String) (paired : Option SentWindow)
    (state : Fusion numPlanes) : applyRecords tenant paired state [] = state := rfl

theorem applyRecords_cons (tenant : String) (paired : Option SentWindow)
    (state : Fusion numPlanes) (record : PlaneLossRecord) (rest : List PlaneLossRecord) :
    applyRecords tenant paired state (record :: rest) =
      if (applyRecord tenant paired state record).raised.isSome then
        applyRecord tenant paired state record
      else applyRecords tenant paired (applyRecord tenant paired state record) rest := rfl

/-! ## One record -/

/-- A record that gives the table no signal. -/
def Silent (paired : Option SentWindow) (record : PlaneLossRecord) : Prop :=
  record.seen = 0 ∧ record.expected = 0 ∨
    record.expected = 0 ∧
      ∀ window, paired = some window → window.sent[record.planeId.toNat]? = some 0

theorem denominator_eq_zero_iff {paired : Option SentWindow} {record : PlaneLossRecord} :
    (∃ used, denominator paired record = .ok (0, used)) ↔
      record.expected = 0 ∧
        ∀ window, paired = some window → window.sent[record.planeId.toNat]? = some 0 := by
  have noExpected : record.expected.toNat = 0 ↔ record.expected = 0 := by
    rw [← UInt32.toNat_inj]
    rfl
  cases paired with
  | none => simp [denominator, noExpected]
  | some window =>
      simp only [denominator, Option.some.injEq, forall_eq']
      cases counter : window.sent[record.planeId.toNat]? with
      | none => simp
      | some senderSent =>
          rcases Nat.eq_zero_or_pos senderSent with rfl | positive
          · simp [noExpected]
          · simp [positive, positive.ne']

/-- A record is skipped, or ends the loop with an exception, or becomes one
`record_loss_window` call. -/
theorem applyRecord_cases (tenant : String) (paired : Option SentWindow)
    (state : Fusion numPlanes) (record : PlaneLossRecord) :
    (Silent paired record ∧
      ∃ stats, applyRecord tenant paired state record = { state with stats }) ∨
    (¬ Silent paired record ∧ ∃ error,
      applyRecord tenant paired state record = { state with raised := some error } ∧
      (denominator paired record = .error error ∨ ∃ total : Nat, 0 < total ∧
        state.table.call (.loss tenant record.planeId.toNat record.seen.toNat total) =
          .error error)) ∨
    (¬ Silent paired record ∧ ∃ (total : Nat) (used : Bool) (table : EVStateTable numPlanes)
      (stats : LossFusionStats),
      denominator paired record = .ok (total, used) ∧ 0 < total ∧
      state.table.call (.loss tenant record.planeId.toNat record.seen.toNat total) = .ok table ∧
      applyRecord tenant paired state record = { state with
        table, stats
        calls := state.calls ++
          [.loss tenant record.planeId.toNat record.seen.toNat total] }) := by
  by_cases blank : record.seen = 0 ∧ record.expected = 0
  · refine Or.inl ⟨Or.inl blank, state.stats.skipped, ?_⟩
    simp only [applyRecord, if_pos blank]
  · have silent_iff : Silent paired record ↔ ∃ used, denominator paired record = .ok (0, used) := by
      rw [denominator_eq_zero_iff, Silent, or_iff_right blank]
    rw [silent_iff]
    cases divided : denominator paired record with
    | error error =>
        refine Or.inr (Or.inl ⟨by simp, error, ?_, Or.inl rfl⟩)
        simp only [applyRecord, if_neg blank, divided]
    | ok pair =>
        obtain ⟨total, used⟩ := pair
        rcases Nat.eq_zero_or_pos total with rfl | positive
        · refine Or.inl ⟨⟨used, rfl⟩, state.stats.skipped, ?_⟩
          simp only [applyRecord, if_neg blank, divided, if_true]
        · have loud : ¬ ∃ used', (.ok (total, used) : Except PyError (Nat × Bool)) =
              .ok (0, used') := by
            rintro ⟨used', same⟩
            cases same
            exact lt_irrefl _ positive
          cases called : state.table.call
              (.loss tenant record.planeId.toNat record.seen.toNat total) with
          | error error =>
              refine Or.inr (Or.inl ⟨loud, error, ?_, Or.inr ⟨total, positive, called⟩⟩)
              simp only [applyRecord, if_neg blank, divided, if_neg positive.ne', called]
          | ok table =>
              refine Or.inr (Or.inr ⟨loud, total, used, table, state.stats.updated used, rfl,
                positive, called, ?_⟩)
              simp only [applyRecord, if_neg blank, divided, if_neg positive.ne', called]

end Srv6Fabric.Mrc

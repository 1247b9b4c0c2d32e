import Mathlib.Algebra.Order.BigOperators.Group.List
import Mathlib.Data.List.FinRange
import Mathlib.Tactic.Linarith
import Srv6Fabric.Mrc.EvState

/-!
# One call is one signal to one plane

Whatever path a call takes through the table, its effect is a single signal applied
to a single record: `nextRecord` says what the record becomes, given only whether
the floor permits a demotion.  Every later result about the table is read off this
normal form.
-/

namespace Srv6Fabric.Mrc.EVStateTable

open Srv6Fabric.Library

variable {numPlanes : Nat}

/-- What a call tells the state machine about its plane. -/
inductive Signal where
  | probeOk (rttNs : Int)
  | probeFail
  | lossWindow (ratio : ℚ)
  deriving DecidableEq, Repr

def Call.tenant : Call → String
  | .probe tenant .. => tenant
  | .loss tenant .. => tenant

def Call.plane : Call → Int
  | .probe _ plane .. => plane
  | .loss _ plane .. => plane

/-- The signal a call carries; a window with `expected = 0` carries none. -/
def Call.signal? : Call → Option Signal
  | .probe _ _ true rttNs => rttNs.map .probeOk
  | .probe _ _ false _ => some .probeFail
  | .loss _ _ seen expected =>
      if expected = 0 then none else some (.lossWindow (lossRatio seen expected))

/-! ## The record after a signal -/

/-- Demote, or count the demotion the floor refused. -/
def demoteOrSuppress (permitted : Bool) (record : PlaneRecord) : PlaneRecord :=
  if permitted then enterState record .assumedBad
  else { record with demotesSuppressedByFloor := record.demotesSuppressedByFloor + 1 }

/-- The counters of a record after a signal, before any transition. -/
def bumped (cfg : EVStateConfig) (record : PlaneRecord) : Signal → PlaneRecord
  | .probeOk rttNs =>
      { record with
        consecutiveProbeSuccesses := record.consecutiveProbeSuccesses + 1
        consecutiveProbeTimeouts := 0
        rttRingNs := ringAppend cfg.rttRingSize.toNat record.rttRingNs rttNs }
  | .probeFail =>
      { record with
        consecutiveProbeTimeouts := record.consecutiveProbeTimeouts + 1
        consecutiveProbeSuccesses := 0 }
  | .lossWindow ratio =>
      { record with
        lastLossRatio := ratio
        consecutiveLossDemoteWindows :=
          if cfg.lossThreshold < ratio then record.consecutiveLossDemoteWindows + 1
          else if ratio ≤ cfg.lossThreshold / 2 then 0
          else record.consecutiveLossDemoteWindows }

/-- The signal completes the evidence for a promotion. -/
def promotes (cfg : EVStateConfig) (record : PlaneRecord) : Signal → Bool
  | .probeOk rttNs =>
      let record := bumped cfg record (.probeOk rttNs)
      record.state ≠ .good ∧ cfg.probeRecoverThreshold ≤ record.consecutiveProbeSuccesses
        ∧ record.consecutiveLossDemoteWindows = 0
  | _ => false

/-- The signal completes the evidence for a demotion, floor aside. -/
def accuses (cfg : EVStateConfig) (record : PlaneRecord) : Signal → Bool
  | .probeOk _ => false
  | .probeFail =>
      record.state ≠ .assumedBad
        ∧ cfg.probeFailThreshold ≤ (bumped cfg record .probeFail).consecutiveProbeTimeouts
  | .lossWindow ratio =>
      cfg.lossThreshold < ratio ∧ record.state ≠ .assumedBad
        ∧ cfg.lossDemoteConsecutive ≤
          (bumped cfg record (.lossWindow ratio)).consecutiveLossDemoteWindows

/-- The record a signal leaves behind. -/
def nextRecord (cfg : EVStateConfig) (permitted : Bool) (record : PlaneRecord)
    (signal : Signal) : PlaneRecord :=
  if promotes cfg record signal then enterState (bumped cfg record signal) .good
  else if accuses cfg record signal then demoteOrSuppress permitted (bumped cfg record signal)
  else bumped cfg record signal

/-- The floor leaves room to demote this plane. -/
def floorPermits (minActive : Int) (row : Fin numPlanes → PlaneRecord)
    (plane : Fin numPlanes) : Bool :=
  minActive ≤ usableAfter row plane

/-- The row after a signal to one plane. -/
def nextRow (cfg : EVStateConfig) (minActive : Int) (row : Fin numPlanes → PlaneRecord)
    (plane : Fin numPlanes) (signal : Signal) : Fin numPlanes → PlaneRecord :=
  Function.update row plane
    (nextRecord cfg (floorPermits minActive row plane) (row plane) signal)

/-- The table after a signal: the row moves, and a change of state rebuilds the
cached weights and fires one event. -/
def applySignal (table : EVStateTable numPlanes) (tenant : String) (plane : Fin numPlanes)
    (signal : Signal) : EVStateTable numPlanes :=
  let row := table.row tenant
  let row' := nextRow table.cfg table.minActive row plane signal
  if (row plane).state = (row' plane).state then
    { table with planes := table.planes.set tenant row' }
  else
    { table with
      planes := table.planes.set tenant row'
      weightsCache := table.weightsCache.set tenant (normalizedWeights row')
      events := table.events ++ [⟨tenant, plane, (row plane).state, (row' plane).state⟩] }

/-! ## Small facts about the record operations -/

@[simp] theorem enterState_state (record : PlaneRecord) (new : EVState) :
    (enterState record new).state = new :=
  rfl

@[simp] theorem bumped_state (cfg : EVStateConfig) (record : PlaneRecord) (signal : Signal) :
    (bumped cfg record signal).state = record.state := by
  cases signal <;> rfl

theorem row_of_find? {table : EVStateTable numPlanes} {tenant : String}
    {row : Fin numPlanes → PlaneRecord} (found : table.planes.find? tenant = some row) :
    table.row tenant = row := by
  simp [EVStateTable.row, found]

@[simp] theorem setRecord_row (table : EVStateTable numPlanes) (tenant : String)
    (plane : Fin numPlanes) (record : PlaneRecord) :
    (table.setRecord tenant plane record).row tenant =
      Function.update (table.row tenant) plane record := by
  simp [setRecord, EVStateTable.row]

@[simp] theorem setRecord_cfg (table : EVStateTable numPlanes) (tenant : String)
    (plane : Fin numPlanes) (record : PlaneRecord) :
    (table.setRecord tenant plane record).cfg = table.cfg :=
  rfl

@[simp] theorem setRecord_minActive (table : EVStateTable numPlanes) (tenant : String)
    (plane : Fin numPlanes) (record : PlaneRecord) :
    (table.setRecord tenant plane record).minActive = table.minActive :=
  rfl

@[simp] theorem setRecord_setRecord (table : EVStateTable numPlanes) (tenant : String)
    (plane : Fin numPlanes) (record later : PlaneRecord) :
    (table.setRecord tenant plane record).setRecord tenant plane later =
      table.setRecord tenant plane later := by
  simp [setRecord, EVStateTable.row]

/-- The planes a floor check counts are the other ones, so writing this plane's own
record does not move the count. -/
@[simp] theorem usableAfter_update (row : Fin numPlanes → PlaneRecord) (plane : Fin numPlanes)
    (record : PlaneRecord) :
    usableAfter (Function.update row plane record) plane = usableAfter row plane := by
  unfold usableAfter
  apply List.countP_congr
  intro other _
  by_cases same : other = plane
  · simp [same]
  · simp [same]

theorem checkTenant_ok {table : EVStateTable numPlanes} {tenant : String}
    {row : Fin numPlanes → PlaneRecord} (checked : table.checkTenant tenant = .ok row) :
    table.planes.find? tenant = some row := by
  unfold checkTenant at checked
  split at checked
  · next found => rw [found, Except.ok.inj checked]
  · cases checked

/-! ## The normal form of the two locked helpers -/

theorem transitionLocked_setRecord (table : EVStateTable numPlanes) (tenant : String)
    (plane : Fin numPlanes) (record : PlaneRecord) (new : EVState)
    (changed : record.state ≠ new) :
    (table.setRecord tenant plane record).transitionLocked tenant plane new =
      let row' := Function.update (table.row tenant) plane (enterState record new)
      { table with
        planes := table.planes.set tenant row'
        weightsCache := table.weightsCache.set tenant (normalizedWeights row')
        events := table.events ++ [⟨tenant, plane, record.state, new⟩] } := by
  simp [transitionLocked, changed, rebuildWeightsLocked]
  simp [setRecord, EVStateTable.row]

theorem tryDemoteLocked_setRecord (table : EVStateTable numPlanes) (tenant : String)
    (plane : Fin numPlanes) (record : PlaneRecord) :
    (table.setRecord tenant plane record).tryDemoteLocked tenant plane =
      if floorPermits table.minActive (table.row tenant) plane then
        (table.setRecord tenant plane record).transitionLocked tenant plane .assumedBad
      else table.setRecord tenant plane (demoteOrSuppress false record) := by
  unfold tryDemoteLocked floorPermits
  rw [setRecord_row, usableAfter_update, setRecord_minActive]
  by_cases short : (usableAfter (table.row tenant) plane : Int) < table.minActive
  · rw [if_pos short, if_neg (by simpa using short), Function.update_self, setRecord_setRecord]
    rfl
  · rw [if_neg short, if_pos (by simpa using short)]

/-! ## Every path is `applySignal` -/

theorem state_ne_of_promotes {cfg : EVStateConfig} {record : PlaneRecord} {signal : Signal}
    (promoted : promotes cfg record signal) : record.state ≠ .good := by
  cases signal with
  | probeOk rttNs =>
      simp only [promotes, bumped_state, decide_eq_true_eq] at promoted
      exact promoted.1
  | probeFail => cases promoted
  | lossWindow ratio => cases promoted

theorem state_ne_of_accuses {cfg : EVStateConfig} {record : PlaneRecord} {signal : Signal}
    (accused : accuses cfg record signal) : record.state ≠ .assumedBad := by
  cases signal with
  | probeOk rttNs => cases accused
  | probeFail =>
      simp only [accuses, decide_eq_true_eq] at accused
      exact accused.1
  | lossWindow ratio =>
      simp only [accuses, decide_eq_true_eq] at accused
      exact accused.2.1

theorem applySignal_of_promotes {table : EVStateTable numPlanes} {tenant : String}
    {plane : Fin numPlanes} {signal : Signal}
    (promoted : promotes table.cfg (table.row tenant plane) signal) :
    table.applySignal tenant plane signal =
      (table.setRecord tenant plane
        (bumped table.cfg (table.row tenant plane) signal)).transitionLocked tenant plane .good := by
  have changed := state_ne_of_promotes promoted
  rw [transitionLocked_setRecord _ _ _ _ _ (by simpa using changed)]
  simp [applySignal, nextRow, nextRecord, promoted, changed]

theorem applySignal_of_accuses {table : EVStateTable numPlanes} {tenant : String}
    {plane : Fin numPlanes} {signal : Signal}
    (accused : accuses table.cfg (table.row tenant plane) signal) :
    table.applySignal tenant plane signal =
      (table.setRecord tenant plane
        (bumped table.cfg (table.row tenant plane) signal)).tryDemoteLocked tenant plane := by
  have quiet : promotes table.cfg (table.row tenant plane) signal = false := by
    cases signal with
    | probeOk rttNs => cases accused
    | probeFail => rfl
    | lossWindow ratio => rfl
  have changed := state_ne_of_accuses accused
  rw [tryDemoteLocked_setRecord]
  cases permitted : floorPermits table.minActive (table.row tenant) plane with
  | true =>
      rw [if_pos rfl, transitionLocked_setRecord _ _ _ _ _ (by simpa using changed)]
      simp [applySignal, nextRow, nextRecord, quiet, accused, permitted, demoteOrSuppress, changed]
  | false =>
      simp [applySignal, nextRow, nextRecord, quiet, accused, permitted, demoteOrSuppress,
        setRecord]

theorem applySignal_of_quiet {table : EVStateTable numPlanes} {tenant : String}
    {plane : Fin numPlanes} {signal : Signal}
    (kept : promotes table.cfg (table.row tenant plane) signal = false)
    (spared : accuses table.cfg (table.row tenant plane) signal = false) :
    table.applySignal tenant plane signal =
      table.setRecord tenant plane (bumped table.cfg (table.row tenant plane) signal) := by
  simp [applySignal, nextRow, nextRecord, kept, spared, setRecord]

/-- A probe call that does not raise applies its signal. -/
theorem recordProbeResult_ok {table next : EVStateTable numPlanes} {tenant : String}
    {plane : Int} {success : Bool} {rttNs : Option Int}
    (returned : table.recordProbeResult tenant plane success rttNs = .ok next) :
    ∃ row index signal, table.planes.find? tenant = some row ∧
      ((index : Fin numPlanes) : Int) = plane ∧
      (Call.probe tenant plane success rttNs).signal? = some signal ∧
      next = table.applySignal tenant index signal := by
  obtain ⟨row, checked, returned⟩ := bind_eq_ok returned
  obtain ⟨index, indexed, returned⟩ := bind_eq_ok returned
  have found := checkTenant_ok checked
  have rowEq := row_of_find? found
  cases success with
  | false =>
      refine ⟨row, index, .probeFail, found, checkPlane_ok indexed, rfl, ?_⟩
      simp only [Bool.false_eq_true, if_false] at returned
      split at returned
      · next accused =>
        rw [← Except.ok.inj returned, applySignal_of_accuses, rowEq]
        · rfl
        · rw [rowEq]
          simpa [accuses, bumped] using accused
      · next spared =>
        rw [← Except.ok.inj returned, applySignal_of_quiet rfl, rowEq]
        · rfl
        · rw [rowEq]
          simpa [accuses, bumped] using spared
  | true =>
      cases rttNs with
      | none => cases returned
      | some rtt =>
          refine ⟨row, index, .probeOk rtt, found, checkPlane_ok indexed, rfl, ?_⟩
          simp only [if_true] at returned
          split at returned
          · cases returned
          · split at returned
            · next promoted =>
              rw [← Except.ok.inj returned, applySignal_of_promotes, rowEq]
              · rfl
              · rw [rowEq]
                simpa [promotes, bumped] using promoted
            · next kept =>
              rw [← Except.ok.inj returned, applySignal_of_quiet _ rfl, rowEq]
              · rfl
              · rw [rowEq]
                simpa [promotes, bumped] using kept

/-- A loss window that does not raise applies its signal, if it carries one. -/
theorem recordLossWindow_ok {table next : EVStateTable numPlanes} {tenant : String}
    {plane seen expected : Int}
    (returned : table.recordLossWindow tenant plane seen expected = .ok next) :
    ∃ row index, table.planes.find? tenant = some row ∧ ((index : Fin numPlanes) : Int) = plane ∧
      0 ≤ seen ∧ 0 ≤ expected ∧
      next = if expected = 0 then table
        else table.applySignal tenant index (.lossWindow (lossRatio seen expected)) := by
  obtain ⟨row, checked, returned⟩ := bind_eq_ok returned
  obtain ⟨index, indexed, returned⟩ := bind_eq_ok returned
  have found := checkTenant_ok checked
  have rowEq := row_of_find? found
  dsimp only at returned
  split at returned
  · cases returned
  · next nonneg =>
    refine ⟨row, index, found, checkPlane_ok indexed, by omega, by omega, ?_⟩
    split at returned
    · next empty => rw [if_pos empty, Except.ok.inj returned]
    · next nonempty =>
      rw [if_neg nonempty]
      split at returned
      · next lossy =>
        split at returned
        · next accused =>
          rw [← Except.ok.inj returned, applySignal_of_accuses, rowEq]
          · simp [bumped, lossy]
          · rw [rowEq]
            simpa [accuses, bumped, lossy] using accused
        · next spared =>
          rw [← Except.ok.inj returned, applySignal_of_quiet rfl, rowEq]
          · simp [bumped, lossy]
          · rw [rowEq]
            simpa [accuses, bumped, lossy] using spared
      · next clean =>
        have spared : accuses table.cfg (table.row tenant index)
            (.lossWindow (lossRatio seen expected)) = false := by
          simp [accuses, clean]
        split at returned
        · next quiet =>
          rw [← Except.ok.inj returned, applySignal_of_quiet rfl spared, rowEq]
          simp [bumped, clean, quiet]
        · next mild =>
          rw [← Except.ok.inj returned, applySignal_of_quiet rfl spared, rowEq]
          simp [bumped, clean, mild]

/-- The normal form of a call that returns. -/
theorem call_ok {table next : EVStateTable numPlanes} {request : Call}
    (returned : table.call request = .ok next) :
    ∃ row index, table.planes.find? request.tenant = some row ∧
      ((index : Fin numPlanes) : Int) = request.plane ∧
      next = match request.signal? with
        | none => table
        | some signal => table.applySignal request.tenant index signal := by
  cases request with
  | probe tenant plane success rttNs =>
      obtain ⟨row, index, signal, found, indexed, carried, rfl⟩ := recordProbeResult_ok returned
      exact ⟨row, index, found, indexed, by rw [carried]; rfl⟩
  | loss tenant plane seen expected =>
      obtain ⟨row, index, found, indexed, -, -, rfl⟩ := recordLossWindow_ok returned
      refine ⟨row, index, found, indexed, ?_⟩
      by_cases empty : expected = 0
      · simp [Call.signal?, empty]
      · simp [Call.signal?, empty, Call.tenant]

/-! ## Calls that return -/

section Returns

variable {table : EVStateTable numPlanes} {tenant : String} {row : Fin numPlanes → PlaneRecord}

theorem checkTenant_of_find? (found : table.planes.find? tenant = some row) :
    table.checkTenant tenant = .ok row := by
  rw [checkTenant, found]

/-- A call about a known tenant and a plane in range applies its signal, if the
arguments are in range too. -/
theorem probeOk_returns (found : table.planes.find? tenant = some row)
    (plane : Fin numPlanes) {rttNs : Int} (nonneg : 0 ≤ rttNs) :
    table.call (.probe tenant (plane : Nat) true (some rttNs)) =
      .ok (table.applySignal tenant plane (.probeOk rttNs)) := by
  obtain ⟨next, returned⟩ : ∃ next,
      table.recordProbeResult tenant (plane : Nat) true (some rttNs) = .ok next := by
    simp only [recordProbeResult, checkTenant_of_find? found, checkPlane_fin, bind, Except.bind,
      if_true]
    rw [if_neg (not_lt.mpr nonneg)]
    split <;> exact ⟨_, rfl⟩
  obtain ⟨row', index, signal, -, indexEq, carried, nextEq⟩ := recordProbeResult_ok returned
  obtain rfl : index = plane := Fin.ext (by exact_mod_cast indexEq)
  cases carried
  rw [call, returned, nextEq]

theorem loss_returns (found : table.planes.find? tenant = some row) (plane : Fin numPlanes)
    {seen expected : Int} (seenNonneg : 0 ≤ seen) (positive : 0 < expected) :
    table.call (.loss tenant (plane : Nat) seen expected) =
      .ok (table.applySignal tenant plane (.lossWindow (lossRatio seen expected))) := by
  obtain ⟨next, returned⟩ : ∃ next,
      table.recordLossWindow tenant (plane : Nat) seen expected = .ok next := by
    simp only [recordLossWindow, checkTenant_of_find? found, checkPlane_fin, bind, Except.bind]
    rw [if_neg (by omega), if_neg positive.ne']
    split_ifs <;> exact ⟨_, rfl⟩
  obtain ⟨row', index, -, indexEq, -, -, nextEq⟩ := recordLossWindow_ok returned
  obtain rfl : index = plane := Fin.ext (by exact_mod_cast indexEq)
  rw [call, returned, nextEq, if_neg positive.ne']

end Returns

end Srv6Fabric.Mrc.EVStateTable

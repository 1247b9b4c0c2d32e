import Srv6Fabric.Mrc.EvStateInvariant

/-!
# The state machine as a function of its history

The table keeps running counters.  Here the same numbers are defined over the whole
list of calls that returned, and the two are shown equal; the transitions then have a
description that mentions the history alone.
-/

namespace Srv6Fabric.Mrc.EVStateTable

open Srv6Fabric.Library

variable {numPlanes : Nat}

/-- One call that returned, with the tables around it. -/
structure Step (numPlanes : Nat) where
  before : EVStateTable numPlanes
  request : Call
  after : EVStateTable numPlanes

/-- A run of calls none of which raises. -/
inductive Trace (start : EVStateTable numPlanes) :
    List (Step numPlanes) → EVStateTable numPlanes → Prop where
  | nil : Trace start [] start
  | snoc {steps : List (Step numPlanes)} {table next : EVStateTable numPlanes} {request : Call}
      (earlier : Trace start steps table) (returned : table.call request = .ok next) :
      Trace start (steps ++ [⟨table, request, next⟩]) next

/-! ## Events of one plane -/

section Events

variable (cfg : EVStateConfig) (tenant : String) (plane : Fin numPlanes)

/-- The call is about this plane of this tenant. -/
def Step.addresses (step : Step numPlanes) : Bool :=
  step.request.tenant = tenant ∧ step.request.plane = plane

def Step.okProbe (step : Step numPlanes) : Bool :=
  step.addresses tenant plane && match step.request with
    | .probe _ _ success _ => success
    | .loss .. => false

def Step.failedProbe (step : Step numPlanes) : Bool :=
  step.addresses tenant plane && match step.request with
    | .probe _ _ success _ => !success
    | .loss .. => false

/-- A window with traffic whose loss ratio is above the threshold. -/
def Step.lossyWindow (step : Step numPlanes) : Bool :=
  step.addresses tenant plane && match step.request with
    | .probe .. => false
    | .loss _ _ seen expected => 0 < expected ∧ cfg.lossThreshold < lossRatio seen expected

/-- A window with traffic whose loss ratio is at most half the threshold. -/
def Step.quietWindow (step : Step numPlanes) : Bool :=
  step.addresses tenant plane && match step.request with
    | .probe .. => false
    | .loss _ _ seen expected => 0 < expected ∧ lossRatio seen expected ≤ cfg.lossThreshold / 2

def Step.enters (step : Step numPlanes) (state : EVState) : Prop :=
  (step.before.row tenant plane).state ≠ state ∧ (step.after.row tenant plane).state = state

instance (step : Step numPlanes) (state : EVState) : Decidable (step.enters tenant plane state) :=
  inferInstanceAs (Decidable (_ ∧ _))

/-! ## Counters of a history -/

/-- Length of the trailing run of failed probes. -/
def trailingFailures (steps : List (Step numPlanes)) : Nat :=
  countSince (·.okProbe tenant plane) (·.failedProbe tenant plane) steps

/-- Successful probes since the later of the last failed probe and the last demotion. -/
def successesSinceSetback (steps : List (Step numPlanes)) : Nat :=
  countSince (fun step => step.failedProbe tenant plane || step.enters tenant plane .assumedBad)
    (·.okProbe tenant plane) steps

/-- Lossy windows since the last quiet one. -/
def lossyWindowsSinceQuiet (steps : List (Step numPlanes)) : Nat :=
  countSince (·.quietWindow cfg tenant plane) (·.lossyWindow cfg tenant plane) steps

end Events

/-! ## A record under one signal -/

theorem lossRatio_nonneg {seen expected : Int} (nonneg : 0 ≤ expected) :
    0 ≤ lossRatio seen expected := by
  unfold lossRatio
  apply div_nonneg
  · exact_mod_cast (by omega : (0 : Int) ≤ expected - min seen expected)
  · exact_mod_cast nonneg

section Record

variable (cfg : EVStateConfig) (permitted : Bool) (record : PlaneRecord)

theorem promotes_probeOk_iff (rttNs : Int) :
    promotes cfg record (.probeOk rttNs) = true ↔
      record.state ≠ .good
        ∧ cfg.probeRecoverThreshold ≤ ((record.consecutiveProbeSuccesses + 1 : Nat) : Int)
        ∧ record.consecutiveLossDemoteWindows = 0 :=
  decide_eq_true_iff

theorem accuses_probeFail_iff :
    accuses cfg record .probeFail = true ↔
      record.state ≠ .assumedBad
        ∧ cfg.probeFailThreshold ≤ ((record.consecutiveProbeTimeouts + 1 : Nat) : Int) :=
  decide_eq_true_iff

theorem accuses_lossWindow_iff (ratio : ℚ) :
    accuses cfg record (.lossWindow ratio) = true ↔
      cfg.lossThreshold < ratio ∧ record.state ≠ .assumedBad
        ∧ cfg.lossDemoteConsecutive ≤
          ((bumped cfg record (.lossWindow ratio)).consecutiveLossDemoteWindows : Int) :=
  decide_eq_true_iff

/-- A successful probe promotes on enough successes and a quiet loss signal. -/
theorem nextRecord_probeOk (rttNs : Int) :
    let next := nextRecord cfg permitted record (.probeOk rttNs)
    next.consecutiveProbeTimeouts = 0 ∧
      next.consecutiveProbeSuccesses = record.consecutiveProbeSuccesses + 1 ∧
      next.consecutiveLossDemoteWindows = record.consecutiveLossDemoteWindows ∧
      next.state = if record.state ≠ .good
          ∧ cfg.probeRecoverThreshold ≤ next.consecutiveProbeSuccesses
          ∧ next.consecutiveLossDemoteWindows = 0 then .good
        else record.state := by
  have evidence := promotes_probeOk_iff cfg record rttNs
  cases promoted : promotes cfg record (.probeOk rttNs) with
  | true =>
      simp only [nextRecord, promoted, if_true]
      exact ⟨rfl, rfl, rfl, (if_pos (evidence.mp promoted)).symm⟩
  | false =>
      have missing := fun complete =>
        Bool.false_ne_true (promoted.symm.trans (evidence.mpr complete))
      simp only [nextRecord, promoted, accuses, if_false, Bool.false_eq_true]
      exact ⟨rfl, rfl, rfl, (if_neg missing).symm⟩

/-- A failed probe demotes on enough failures, if the floor permits. -/
theorem nextRecord_probeFail :
    let next := nextRecord cfg permitted record .probeFail
    next.consecutiveProbeTimeouts = record.consecutiveProbeTimeouts + 1 ∧
      next.consecutiveProbeSuccesses = 0 ∧
      next.consecutiveLossDemoteWindows = record.consecutiveLossDemoteWindows ∧
      next.state = if record.state ≠ .assumedBad ∧ permitted = true
          ∧ cfg.probeFailThreshold ≤ next.consecutiveProbeTimeouts then .assumedBad
        else record.state := by
  have evidence := accuses_probeFail_iff cfg record
  cases accused : accuses cfg record .probeFail with
  | true =>
      have complete := evidence.mp accused
      simp only [nextRecord, promotes, accused, if_false, if_true, Bool.false_eq_true]
      cases permitted with
      | true => exact ⟨rfl, rfl, rfl, (if_pos ⟨complete.1, rfl, complete.2⟩).symm⟩
      | false => exact ⟨rfl, rfl, rfl, (if_neg fun granted => by cases granted.2.1).symm⟩
  | false =>
      have missing := fun complete =>
        Bool.false_ne_true (accused.symm.trans (evidence.mpr complete))
      simp only [nextRecord, promotes, accused, if_false, Bool.false_eq_true]
      exact ⟨rfl, rfl, rfl, (if_neg fun granted => missing ⟨granted.1, granted.2.2⟩).symm⟩

/-- A loss window moves the window counter by its band, and demotes on enough lossy
windows, if the floor permits; the demotion clears the success streak. -/
theorem nextRecord_lossWindow (ratio : ℚ) :
    let next := nextRecord cfg permitted record (.lossWindow ratio)
    next.consecutiveProbeTimeouts = record.consecutiveProbeTimeouts ∧
      next.consecutiveProbeSuccesses =
        (if record.state ≠ .assumedBad ∧ next.state = .assumedBad then 0
          else record.consecutiveProbeSuccesses) ∧
      next.consecutiveLossDemoteWindows =
        (if cfg.lossThreshold < ratio then record.consecutiveLossDemoteWindows + 1
          else if ratio ≤ cfg.lossThreshold / 2 then 0
          else record.consecutiveLossDemoteWindows) ∧
      next.lastLossRatio = ratio ∧
      next.state = if record.state ≠ .assumedBad ∧ permitted = true ∧ cfg.lossThreshold < ratio
          ∧ cfg.lossDemoteConsecutive ≤ next.consecutiveLossDemoteWindows then .assumedBad
        else record.state := by
  have evidence := accuses_lossWindow_iff cfg record ratio
  cases accused : accuses cfg record (.lossWindow ratio) with
  | true =>
      obtain ⟨lossy, notBad, enough⟩ := evidence.mp accused
      simp only [nextRecord, promotes, accused, if_false, if_true, Bool.false_eq_true]
      cases permitted with
      | true =>
          exact ⟨rfl, (if_pos ⟨notBad, rfl⟩).symm, rfl, rfl,
            (if_pos ⟨notBad, rfl, lossy, enough⟩).symm⟩
      | false =>
          exact ⟨rfl, (if_neg fun demoted => demoted.1 demoted.2).symm, rfl, rfl,
            (if_neg fun granted => by cases granted.2.1).symm⟩
  | false =>
      have missing := fun complete =>
        Bool.false_ne_true (accused.symm.trans (evidence.mpr complete))
      simp only [nextRecord, promotes, accused, if_false, Bool.false_eq_true]
      exact ⟨rfl, (if_neg fun demoted => demoted.1 demoted.2).symm, rfl, rfl,
        (if_neg fun granted => missing ⟨granted.2.2.1, granted.1, granted.2.2.2⟩).symm⟩

end Record

/-! ## A plane under one call -/

/-- The record of a plane after a call: unchanged unless the call addresses it. -/
theorem row_after_call {table next : EVStateTable numPlanes} {request : Call}
    (returned : table.call request = .ok next) (tenant : String) (plane : Fin numPlanes) :
    next.row tenant plane =
      if request.tenant = tenant ∧ request.plane = plane then
        match request.signal? with
        | none => table.row tenant plane
        | some signal =>
            nextRecord table.cfg (floorPermits table.minActive (table.row tenant) plane)
              (table.row tenant plane) signal
      else table.row tenant plane := by
  obtain ⟨row, index, -, indexed, nextEq⟩ := call_ok returned
  rw [nextEq]
  cases carried : request.signal? with
  | none => simp
  | some signal =>
      simp only [applySignal_row]
      by_cases sameTenant : tenant = request.tenant
      · subst sameTenant
        by_cases samePlane : plane = index
        · simp [samePlane, indexed, nextRow]
        · have away : ¬ request.plane = plane := by
            intro there
            exact samePlane (Fin.ext (by exact_mod_cast (indexed.trans there).symm))
          simp [away, nextRow, samePlane]
      · simp [sameTenant, Ne.symm sameTenant]

/-- A call is one of four things to a plane: nothing, a successful probe, a failed
probe, or a window of some loss ratio. -/
theorem step_effect {table next : EVStateTable numPlanes} {request : Call}
    (returned : table.call request = .ok next) (tenant : String) (plane : Fin numPlanes) :
    let step : Step numPlanes := ⟨table, request, next⟩
    let outcome := nextRecord table.cfg (floorPermits table.minActive (table.row tenant) plane)
      (table.row tenant plane)
    (step.okProbe tenant plane = false ∧ step.failedProbe tenant plane = false ∧
      step.lossyWindow table.cfg tenant plane = false ∧
      step.quietWindow table.cfg tenant plane = false ∧
      next.row tenant plane = table.row tenant plane) ∨
    (∃ rttNs, step.okProbe tenant plane = true ∧ step.failedProbe tenant plane = false ∧
      step.lossyWindow table.cfg tenant plane = false ∧
      step.quietWindow table.cfg tenant plane = false ∧
      next.row tenant plane = outcome (.probeOk rttNs)) ∨
    (step.okProbe tenant plane = false ∧ step.failedProbe tenant plane = true ∧
      step.lossyWindow table.cfg tenant plane = false ∧
      step.quietWindow table.cfg tenant plane = false ∧
      next.row tenant plane = outcome .probeFail) ∨
    (∃ ratio, 0 ≤ ratio ∧
      step.okProbe tenant plane = false ∧ step.failedProbe tenant plane = false ∧
      step.lossyWindow table.cfg tenant plane = decide (table.cfg.lossThreshold < ratio) ∧
      step.quietWindow table.cfg tenant plane = decide (ratio ≤ table.cfg.lossThreshold / 2) ∧
      next.row tenant plane = outcome (.lossWindow ratio)) := by
  intro step outcome
  have after := row_after_call returned tenant plane
  by_cases addressed : request.tenant = tenant ∧ request.plane = plane
  · have hits : step.addresses tenant plane = true := decide_eq_true addressed
    rw [if_pos addressed] at after
    cases request with
    | probe who where_ success rttNs =>
        obtain ⟨-, -, signal, -, -, carried, -⟩ := recordProbeResult_ok returned
        rw [carried] at after
        cases success with
        | false =>
            cases carried
            exact Or.inr (Or.inr (Or.inl ⟨by simp [Step.okProbe, step],
              by simpa [Step.failedProbe, step] using hits, by simp [Step.lossyWindow, step],
              by simp [Step.quietWindow, step], after⟩))
        | true =>
            obtain ⟨rtt, rfl, rfl⟩ := Option.map_eq_some_iff.mp carried
            exact Or.inr (Or.inl ⟨rtt, by simpa [Step.okProbe, step] using hits,
              by simp [Step.failedProbe, step], by simp [Step.lossyWindow, step],
              by simp [Step.quietWindow, step], after⟩)
    | loss who where_ seen expected =>
        obtain ⟨-, -, -, -, -, nonneg, -⟩ := recordLossWindow_ok returned
        by_cases empty : expected = 0
        · simp only [Call.signal?, if_pos empty] at after
          exact Or.inl ⟨by simp [Step.okProbe, step], by simp [Step.failedProbe, step],
            by simp [Step.lossyWindow, step, empty], by simp [Step.quietWindow, step, empty], after⟩
        · have traffic : 0 < expected := by omega
          simp only [Call.signal?, if_neg empty] at after
          refine Or.inr (Or.inr (Or.inr ⟨lossRatio seen expected, lossRatio_nonneg nonneg,
            by simp [Step.okProbe, step], by simp [Step.failedProbe, step], ?_, ?_, after⟩))
          · rw [Step.lossyWindow, hits]
            simp [step, traffic]
          · rw [Step.quietWindow, hits]
            simp [step, traffic]
  · have misses : step.addresses tenant plane = false := decide_eq_false addressed
    rw [if_neg addressed] at after
    exact Or.inl ⟨by simp [Step.okProbe, misses], by simp [Step.failedProbe, misses],
      by simp [Step.lossyWindow, misses], by simp [Step.quietWindow, misses], after⟩

/-! ## The table equals its history -/

/-- The three streak counters of a plane are the counts of its history. -/
structure CountersMatch (cfg : EVStateConfig) (tenant : String) (plane : Fin numPlanes)
    (steps : List (Step numPlanes)) (record : PlaneRecord) : Prop where
  timeouts : record.consecutiveProbeTimeouts = trailingFailures tenant plane steps
  successes : record.consecutiveProbeSuccesses = successesSinceSetback tenant plane steps
  lossWindows :
    record.consecutiveLossDemoteWindows = lossyWindowsSinceQuiet cfg tenant plane steps

/-- A lossy window is never quiet: ratios are not negative. -/
theorem not_quiet_of_lossy {threshold ratio : ℚ} (nonneg : 0 ≤ ratio) (lossy : threshold < ratio) :
    ¬ ratio ≤ threshold / 2 := by
  intro quiet
  linarith

theorem CountersMatch.step {tenant : String} {plane : Fin numPlanes}
    {steps : List (Step numPlanes)} {table next : EVStateTable numPlanes} {request : Call}
    (counters : CountersMatch table.cfg tenant plane steps (table.row tenant plane))
    (returned : table.call request = .ok next) :
    CountersMatch table.cfg tenant plane (steps ++ [⟨table, request, next⟩])
      (next.row tenant plane) := by
  obtain ⟨timeouts, successes, lossWindows⟩ := counters
  rcases step_effect returned tenant plane with
    ⟨ok, failed, lossy, quiet, after⟩ | ⟨rttNs, ok, failed, lossy, quiet, after⟩ |
    ⟨ok, failed, lossy, quiet, after⟩ | ⟨ratio, nonneg, ok, failed, lossy, quiet, after⟩
  · constructor <;>
      simp [trailingFailures, successesSinceSetback, lossyWindowsSinceQuiet, countSince_snoc,
        Step.enters, *]
  · obtain ⟨timeouts', successes', lossWindows', state'⟩ := nextRecord_probeOk table.cfg
      (floorPermits table.minActive (table.row tenant) plane) (table.row tenant plane) rttNs
    have spared : ¬ (⟨table, request, next⟩ : Step numPlanes).enters tenant plane .assumedBad := by
      rintro ⟨notBad, bad⟩
      simp only [after, state'] at bad
      split at bad
      · cases bad
      · exact notBad bad
    refine ⟨?_, ?_, ?_⟩
    · rw [after, timeouts', trailingFailures, countSince_snoc]
      simp [ok]
    · rw [after, successes', successesSinceSetback, countSince_snoc, successes]
      simp [ok, failed, spared, successesSinceSetback]
    · rw [after, lossWindows', lossyWindowsSinceQuiet, countSince_snoc, lossWindows]
      simp [lossy, quiet, lossyWindowsSinceQuiet]
  · obtain ⟨timeouts', successes', lossWindows', -⟩ := nextRecord_probeFail table.cfg
      (floorPermits table.minActive (table.row tenant) plane) (table.row tenant plane)
    refine ⟨?_, ?_, ?_⟩
    · rw [after, timeouts', trailingFailures, countSince_snoc, timeouts]
      simp [ok, failed, trailingFailures]
    · rw [after, successes', successesSinceSetback, countSince_snoc]
      simp [failed]
    · rw [after, lossWindows', lossyWindowsSinceQuiet, countSince_snoc, lossWindows]
      simp [lossy, quiet, lossyWindowsSinceQuiet]
  · obtain ⟨timeouts', successes', lossWindows', -, -⟩ := nextRecord_lossWindow table.cfg
      (floorPermits table.minActive (table.row tenant) plane) (table.row tenant plane) ratio
    refine ⟨?_, ?_, ?_⟩
    · rw [after, timeouts', trailingFailures, countSince_snoc, timeouts]
      simp [ok, failed, trailingFailures]
    · rw [after, successes', ← after, successesSinceSetback, countSince_snoc, successes]
      by_cases demoted : (table.row tenant plane).state ≠ .assumedBad ∧
          (next.row tenant plane).state = .assumedBad
      · have enters : (⟨table, request, next⟩ : Step numPlanes).enters tenant plane .assumedBad :=
          demoted
        rw [if_pos demoted, if_pos (by simp [enters])]
      · have stays : ¬ (⟨table, request, next⟩ : Step numPlanes).enters tenant plane .assumedBad :=
          demoted
        rw [if_neg demoted, if_neg (by simp [stays, failed]), if_neg (by simp [ok])]
        rfl
    · rw [after, lossWindows', lossyWindowsSinceQuiet, countSince_snoc, lossWindows]
      by_cases isLossy : table.cfg.lossThreshold < ratio
      · simp [lossy, quiet, isLossy, not_quiet_of_lossy nonneg isLossy, lossyWindowsSinceQuiet]
      · by_cases isQuiet : ratio ≤ table.cfg.lossThreshold / 2
        · simp [quiet, isLossy, isQuiet]
        · simp [lossy, quiet, isLossy, isQuiet, lossyWindowsSinceQuiet]

theorem Trace.frame {start table : EVStateTable numPlanes} {steps : List (Step numPlanes)}
    (trace : Trace start steps table) :
    table.tenants = start.tenants ∧ table.cfg = start.cfg ∧ table.minActive = start.minActive := by
  induction trace with
  | nil => exact ⟨rfl, rfl, rfl⟩
  | snoc earlier returned ih =>
      have step := call_frame returned
      exact ⟨step.1.trans ih.1, step.2.1.trans ih.2.1, step.2.2.trans ih.2.2⟩

theorem Trace.counters {tenants : List String} {cfg : EVStateConfig}
    {start table : EVStateTable numPlanes} {steps : List (Step numPlanes)}
    (built : init tenants numPlanes cfg = .ok start) (trace : Trace start steps table)
    {tenant : String} (mem : tenant ∈ tenants) (plane : Fin numPlanes) :
    CountersMatch cfg tenant plane steps (table.row tenant plane) := by
  obtain ⟨-, -, cfgEq, -, -, planesEq, -⟩ := init_ok built
  induction trace with
  | nil =>
      have blank : start.row tenant plane = {} := by
        simp [EVStateTable.row, planesEq, mem]
      rw [blank]
      exact ⟨rfl, rfl, rfl⟩
  | @snoc steps table next request earlier returned ih =>
      have sameCfg : table.cfg = cfg := earlier.frame.2.1.trans cfgEq
      rw [← sameCfg] at ih ⊢
      exact ih.step returned

/-- A state that moves to `target` under a guard, and otherwise stays, enters `target`
under that guard and enters nothing else. -/
theorem enters_iff_of_guarded {old new target : EVState} {guard : Prop} [Decidable guard]
    (moved : new = if old ≠ target ∧ guard then target else old) (aim : EVState) :
    (old ≠ aim ∧ new = aim) ↔ (aim = target ∧ old ≠ target ∧ guard) := by
  rw [moved]
  split
  · next fires =>
    constructor
    · rintro ⟨-, rfl⟩
      exact ⟨rfl, fires⟩
    · rintro ⟨rfl, away, -⟩
      exact ⟨away, rfl⟩
  · next idle =>
    constructor
    · rintro ⟨away, same⟩
      exact absurd same away
    · rintro ⟨-, fires⟩
      exact absurd fires idle

end Srv6Fabric.Mrc.EVStateTable

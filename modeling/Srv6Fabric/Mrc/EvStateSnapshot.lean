import Mathlib.Data.List.DropRight
import Srv6Fabric.Library.Quantile
import Srv6Fabric.Library.Rounding
import Srv6Fabric.Library.Sorting
import Srv6Fabric.Mrc.EvStateHistory
import Srv6Fabric.Mrc.EvStateWeights

/-!
# What a snapshot tells

`snapshot` is all that a report keeps of the state machine.  Each of its numbers is a count,
a last value or an order statistic of the calls that the table has taken, and nothing older
than the ring of round-trip times goes into the percentiles.
-/

namespace Srv6Fabric.Mrc

open Srv6Fabric.Library

/-- The value of a member of `EVState`. -/
def EVState.value : EVState → String
  | .unknown => "unknown"
  | .good => "good"
  | .assumedBad => "assumed_bad"

/-- The entry of one plane. -/
structure PlaneEntry where
  plane : Nat
  state : String
  consecutiveProbeTimeouts : Nat
  consecutiveProbeSuccesses : Nat
  consecutiveLossDemoteWindows : Nat
  lastLossRatio : ℚ
  rttP50Ns : Option Int
  rttP99Ns : Option Int
  transitions : Nat
  demotesSuppressedByFloor : Nat
  weight : ℚ
  deriving DecidableEq, Repr

/-- The `config` entry. -/
structure ConfigEntry where
  probeFailThreshold : Int
  probeRecoverThreshold : Int
  lossThreshold : ℚ
  lossDemoteConsecutive : Int
  minActivePlanes : Int
  deriving DecidableEq, Repr

structure Snapshot where
  config : ConfigEntry
  tenants : OrderedDict String (List PlaneEntry)

/-- `round(ratio, 6)`. -/
def round6 (ratio : ℚ) : ℚ := roundHalfEven (ratio * 10 ^ 6) / 10 ^ 6

/-- The dictionary that the inner loop appends. -/
def PlaneRecord.entry (record : PlaneRecord) (plane : Nat) (p50 p99 : Option Int) (weight : ℚ) :
    PlaneEntry where
  plane := plane
  state := record.state.value
  consecutiveProbeTimeouts := record.consecutiveProbeTimeouts
  consecutiveProbeSuccesses := record.consecutiveProbeSuccesses
  consecutiveLossDemoteWindows := record.consecutiveLossDemoteWindows
  lastLossRatio := round6 record.lastLossRatio
  rttP50Ns := p50
  rttP99Ns := p99
  transitions := record.transitions
  demotesSuppressedByFloor := record.demotesSuppressedByFloor
  weight := weight

namespace EVStateTable

variable {numPlanes : Nat}

/-! ## Percentiles of the ring -/

/-- An item of a sequence of this type. -/
def itemAt {α : Type} (type : String) (items : List α) (index : Nat) : Except PyError α :=
  match items[index]? with
  | some item => .ok item
  | none => .error (.indexError s!"{type} index out of range")

/-- What `rtt_p50_ns` and `rtt_p99_ns` have in common: the sorted ring is read at a position
that depends on its length. -/
def rttAt (position : Nat → Nat) (table : EVStateTable numPlanes) (tenant : String) (plane : Int) :
    Except PyError (Option Int) := do
  let row ← table.checkTenant tenant
  let plane ← checkPlane numPlanes plane
  let ring := (row plane).rttRingNs
  if ring = [] then return none
  let sorted := ring.mergeSort fun first second => first ≤ second
  let rtt ← itemAt "list" sorted (position sorted.length)
  return some rtt

def p50Position (samples : Nat) : Nat := samples / 2

def p99Position (samples : Nat) : Nat := min (samples - 1) (samples * 99 / 100)

/-- `rtt_p50_ns`. -/
def rttP50Ns (table : EVStateTable numPlanes) : String → Int → Except PyError (Option Int) :=
  rttAt p50Position table

/-- `rtt_p99_ns`. -/
def rttP99Ns (table : EVStateTable numPlanes) : String → Int → Except PyError (Option Int) :=
  rttAt p99Position table

/-! ## The snapshot -/

/-- The body of the inner loop. -/
def planeEntry (table : EVStateTable numPlanes) (tenant : String) (record : PlaneRecord)
    (plane : Fin numPlanes) : Except PyError PlaneEntry := do
  let p50 ← table.rttP50Ns tenant (plane : Nat)
  let p99 ← table.rttP99Ns tenant (plane : Nat)
  let cached ← match table.weightsCache.find? tenant with
    | some cached => .ok cached
    | none => .error (.keyError (pyRepr tenant))
  let weight ← itemAt "tuple" cached plane
  return record.entry plane p50 p99 weight

/-- The body of the outer loop. -/
def tenantEntry (table : EVStateTable numPlanes) (tenant : String) :
    Except PyError (List PlaneEntry) :=
  match table.planes.find? tenant with
  | some row => (List.finRange numPlanes).mapM fun plane => table.planeEntry tenant (row plane) plane
  | none => .error (.keyError (pyRepr tenant))

def snapshot (table : EVStateTable numPlanes) : Except PyError Snapshot := do
  let tenants ← table.tenants.foldlM (fun out tenant => do
    let planesOut ← table.tenantEntry tenant
    return out.set tenant planesOut) OrderedDict.empty
  return {
    config := {
      probeFailThreshold := table.cfg.probeFailThreshold
      probeRecoverThreshold := table.cfg.probeRecoverThreshold
      lossThreshold := table.cfg.lossThreshold
      lossDemoteConsecutive := table.cfg.lossDemoteConsecutive
      minActivePlanes := table.minActive }
    tenants }

/-! ## The history of a plane -/

section History

variable (tenant : String) (plane : Fin numPlanes)

/-- The signal that a call brings to this plane. -/
def Step.signal? (step : Step numPlanes) : Option Signal :=
  if step.addresses tenant plane then step.request.signal? else none

/-- The state that a call moves this plane to. -/
def Step.move? (step : Step numPlanes) : Option EVState :=
  if (step.before.row tenant plane).state = (step.after.row tenant plane).state then none
  else some (step.after.row tenant plane).state

def Step.rtt? (step : Step numPlanes) : Option Int :=
  match step.signal? tenant plane with
  | some (.probeOk rttNs) => some rttNs
  | _ => none

def Step.ratio? (step : Step numPlanes) : Option ℚ :=
  match step.signal? tenant plane with
  | some (.lossWindow ratio) => some ratio
  | _ => none

/-- A call that completes the evidence against this plane, which the floor keeps in use. -/
def Step.refused (step : Step numPlanes) : Bool :=
  match step.signal? tenant plane with
  | some signal => accuses step.before.cfg (step.before.row tenant plane) signal &&
      !floorPermits step.before.minActive (step.before.row tenant) plane
  | none => false

variable (steps : List (Step numPlanes))

/-- Where the last move led. -/
def lastState : EVState := (steps.filterMap (Step.move? tenant plane)).getLast?.getD .unknown

def lastRatio : ℚ := (steps.filterMap (Step.ratio? tenant plane)).getLast?.getD 0

/-- The round-trip times that a ring of this size still holds. -/
def recentRtts (size : Nat) : List Int := (steps.filterMap (Step.rtt? tenant plane)).rtake size

end History

/-! ## A record tells its history -/

theorem ringAppend_eq (maxlen : Nat) (ring : List Int) (sample : Int) :
    ringAppend maxlen ring sample = (ring ++ [sample]).rtake maxlen := by
  rw [ringAppend, List.rtake, List.length_append, List.length_singleton]

/-- What has left the ring does not come back. -/
theorem rtake_rtake_concat {α : Type*} (samples : List α) (size : Nat) (sample : α) :
    (samples.rtake size ++ [sample]).rtake size = (samples ++ [sample]).rtake size := by
  cases size with
  | zero => rw [List.rtake_zero, List.rtake_zero]
  | succ size =>
      have shorter : (samples.rtake (size + 1)).rtake size = samples.rtake size := by
        simp only [List.rtake_eq_reverse_take_reverse, List.reverse_reverse, List.take_take,
          Nat.min_eq_left (Nat.le_succ size)]
      rw [List.rtake_concat_succ, List.rtake_concat_succ, shorter]

/-- What a record says of the calls, other than its streaks. -/
structure Remembers (cfg : EVStateConfig) (tenant : String) (plane : Fin numPlanes)
    (steps : List (Step numPlanes)) (record : PlaneRecord) : Prop where
  moved : record.transitions = (steps.filterMap (Step.move? tenant plane)).length
  state : record.state = lastState tenant plane steps
  ring : record.rttRingNs = recentRtts tenant plane steps cfg.rttRingSize.toNat
  ratio : record.lastLossRatio = lastRatio tenant plane steps
  refused : record.demotesSuppressedByFloor = steps.countP (Step.refused tenant plane)

section Signals

variable (cfg : EVStateConfig) (permitted : Bool) (record : PlaneRecord) (signal : Signal)

/-- Entering a state changes none of what a signal has recorded. -/
theorem nextRecord_recorded :
    let next := nextRecord cfg permitted record signal
    next.rttRingNs = (bumped cfg record signal).rttRingNs ∧
      next.lastLossRatio = (bumped cfg record signal).lastLossRatio ∧
      next.demotesSuppressedByFloor = record.demotesSuppressedByFloor +
        if accuses cfg record signal && !permitted then 1 else 0 := by
  have same : (bumped cfg record signal).demotesSuppressedByFloor =
      record.demotesSuppressedByFloor := by
    cases signal <;> rfl
  have exclusive : promotes cfg record signal = true → accuses cfg record signal = false := by
    intro promoted
    cases signal with
    | probeOk rttNs => rfl
    | probeFail => cases promoted
    | lossWindow ratio => cases promoted
  unfold nextRecord
  dsimp only
  split
  · next promoted =>
    rw [exclusive promoted, Bool.false_and, if_neg Bool.false_ne_true]
    exact ⟨rfl, rfl, same⟩
  · split
    · next accused =>
      rw [accused, Bool.true_and]
      cases permitted with
      | true => exact ⟨rfl, rfl, same⟩
      | false => exact ⟨rfl, rfl, congrArg (· + 1) same⟩
    · next spared =>
      rw [Bool.not_eq_true] at spared
      rw [spared, Bool.false_and, if_neg Bool.false_ne_true]
      exact ⟨rfl, rfl, same⟩

end Signals

/-- The record of a plane after a call is that after the signal the call brings to it. -/
theorem row_after_step {table next : EVStateTable numPlanes} {request : Call}
    (returned : table.call request = .ok next) (tenant : String) (plane : Fin numPlanes) :
    next.row tenant plane =
      match (⟨table, request, next⟩ : Step numPlanes).signal? tenant plane with
      | none => table.row tenant plane
      | some signal => nextRecord table.cfg (floorPermits table.minActive (table.row tenant) plane)
          (table.row tenant plane) signal := by
  have after := row_after_call returned tenant plane
  unfold Step.signal? Step.addresses
  by_cases addressed : request.tenant = tenant ∧ request.plane = plane
  · rw [if_pos addressed] at after
    rw [if_pos (decide_eq_true addressed)]
    exact after
  · rw [if_neg addressed] at after
    rw [if_neg (by simpa using addressed)]
    exact after

section Call

variable {table next : EVStateTable numPlanes} {request : Call}
  (returned : table.call request = .ok next) (tenant : String) (plane : Fin numPlanes)

include returned

theorem transitions_after :
    (next.row tenant plane).transitions = (table.row tenant plane).transitions +
      if (table.row tenant plane).state = (next.row tenant plane).state then 0 else 1 := by
  rw [row_after_step returned]
  split
  · rw [if_pos rfl, Nat.add_zero]
  · rw [nextRecord_transitions]
    split <;> rfl

theorem ring_after :
    (next.row tenant plane).rttRingNs =
      match (⟨table, request, next⟩ : Step numPlanes).rtt? tenant plane with
      | some rttNs => ringAppend table.cfg.rttRingSize.toNat (table.row tenant plane).rttRingNs rttNs
      | none => (table.row tenant plane).rttRingNs := by
  rw [row_after_step returned, Step.rtt?]
  cases (⟨table, request, next⟩ : Step numPlanes).signal? tenant plane with
  | none => rfl
  | some signal =>
      dsimp only
      rw [(nextRecord_recorded _ _ _ signal).1]
      cases signal <;> rfl

theorem ratio_after :
    (next.row tenant plane).lastLossRatio =
      ((⟨table, request, next⟩ : Step numPlanes).ratio? tenant plane).getD
        (table.row tenant plane).lastLossRatio := by
  rw [row_after_step returned, Step.ratio?]
  cases (⟨table, request, next⟩ : Step numPlanes).signal? tenant plane with
  | none => rfl
  | some signal =>
      dsimp only
      rw [(nextRecord_recorded _ _ _ signal).2.1]
      cases signal <;> rfl

theorem suppressed_after :
    (next.row tenant plane).demotesSuppressedByFloor =
      (table.row tenant plane).demotesSuppressedByFloor +
        if (⟨table, request, next⟩ : Step numPlanes).refused tenant plane then 1 else 0 := by
  rw [row_after_step returned, Step.refused]
  cases (⟨table, request, next⟩ : Step numPlanes).signal? tenant plane with
  | none => rfl
  | some signal => exact (nextRecord_recorded _ _ _ signal).2.2

end Call

/-- A last value is replaced by the next one, if there is one. -/
theorem last_filterMap_concat {α β : Type*} (read : α → Option β) (items : List α) (item : α)
    (fallback : β) :
    ((items ++ [item]).filterMap read).getLast?.getD fallback =
      (read item).getD ((items.filterMap read).getLast?.getD fallback) := by
  rw [List.filterMap_append, List.filterMap_cons, List.filterMap_nil]
  cases read item <;> simp

theorem Remembers.step {tenant : String} {plane : Fin numPlanes} {steps : List (Step numPlanes)}
    {table next : EVStateTable numPlanes} {request : Call}
    (remembers : Remembers table.cfg tenant plane steps (table.row tenant plane))
    (returned : table.call request = .ok next) :
    Remembers table.cfg tenant plane (steps ++ [⟨table, request, next⟩]) (next.row tenant plane) := by
  refine ⟨?_, ?_, ?_, ?_, ?_⟩
  · rw [transitions_after returned, remembers.moved, List.filterMap_append, List.length_append,
      List.filterMap_cons, Step.move?]
    split <;> rfl
  · rw [lastState, last_filterMap_concat, ← lastState, ← remembers.state, Step.move?]
    dsimp only
    split
    · next same => exact same.symm
    · rfl
  · rw [ring_after returned, recentRtts, List.filterMap_append, List.filterMap_cons,
      List.filterMap_nil]
    cases (⟨table, request, next⟩ : Step numPlanes).rtt? tenant plane with
    | none =>
        rw [List.append_nil]
        exact remembers.ring
    | some rttNs =>
        dsimp only
        rw [ringAppend_eq, remembers.ring, recentRtts, rtake_rtake_concat]
  · rw [lastRatio, last_filterMap_concat, ← lastRatio, ← remembers.ratio]
    exact ratio_after returned tenant plane
  · rw [List.countP_append, List.countP_singleton, ← remembers.refused]
    exact suppressed_after returned tenant plane

/-- After any calls that return, the record of a plane tells them. -/
theorem Trace.remembers {tenants : List String} {cfg : EVStateConfig}
    {start table : EVStateTable numPlanes} {steps : List (Step numPlanes)}
    (built : init tenants numPlanes cfg = .ok start) (trace : Trace start steps table)
    {tenant : String} (mem : tenant ∈ tenants) (plane : Fin numPlanes) :
    Remembers cfg tenant plane steps (table.row tenant plane) := by
  obtain ⟨-, -, cfgEq, -, -, planesEq, -⟩ := init_ok built
  induction trace with
  | nil =>
      have blank : start.row tenant plane = {} := by
        simp [EVStateTable.row, planesEq, mem]
      rw [blank]
      exact ⟨rfl, rfl, (List.rtake_nil _).symm, rfl, rfl⟩
  | @snoc steps table next request earlier returned ih =>
      have sameCfg : table.cfg = cfg := earlier.frame.2.1.trans cfgEq
      rw [← sameCfg] at ih ⊢
      exact ih.step returned

/-! ## Percentiles -/

theorem p50Position_lt {samples : Nat} (some_ : 0 < samples) : p50Position samples < samples :=
  Nat.div_lt_self some_ (by decide)

theorem p99Position_lt {samples : Nat} (some_ : 0 < samples) : p99Position samples < samples := by
  unfold p99Position
  omega

theorem p50Position_le {samples : Nat} : p50Position samples ≤ p99Position samples := by
  unfold p50Position p99Position
  omega

/-- Up to a hundred samples, the position is the last one. -/
theorem p99Position_of_le {samples : Nat} (some_ : 0 < samples) (few : samples ≤ 100) :
    p99Position samples + 1 = samples := by
  unfold p99Position
  omega

/-- A value for the samples, if there are any, and then the quantile of the rank. -/
structure Ranked (samples : List Int) (rank : Nat) (rtt : Option Int) : Prop where
  none_iff : rtt = none ↔ samples = []
  quantile : ∀ value ∈ rtt, IsQuantile samples (rank : ℚ) value

/-- A later position gives no smaller value. -/
theorem Ranked.le {samples : List Int} {position further : Nat} {low high : Option Int}
    (isLow : Ranked samples (position + 1) low) (isHigh : Ranked samples (further + 1) high)
    (onward : position ≤ further) : ∀ value ∈ low, ∀ later ∈ high, value ≤ later :=
  fun value mem later laterMem => (isLow.quantile value mem).mono (isHigh.quantile later laterMem)
    (by exact_mod_cast Nat.succ_le_succ onward)

/-- The 99th percentile of up to a hundred samples is the worst of them. -/
theorem Ranked.worst {samples : List Int} {high : Option Int}
    (isHigh : Ranked samples (p99Position samples.length + 1) high) (few : samples.length ≤ 100)
    {value : Int} (mem : value ∈ high) : ∀ sample ∈ samples, sample ≤ value := by
  intro sample isSample
  have quantile := isHigh.quantile value mem
  rw [p99Position_of_le (List.length_pos_of_mem isSample) few] at quantile
  exact quantile.le_of_all isSample

theorem rttAt_ok {table : EVStateTable numPlanes} {tenant : String}
    {row : Fin numPlanes → PlaneRecord} (found : table.planes.find? tenant = some row)
    (plane : Fin numPlanes) {position : Nat → Nat}
    (inside : ∀ {samples}, 0 < samples → position samples < samples) :
    ∃ rtt, table.rttAt position tenant (plane : Nat) = .ok rtt ∧
      Ranked (row plane).rttRingNs (position (row plane).rttRingNs.length + 1) rtt := by
  unfold rttAt
  rw [checkTenant_of_find? found, checkPlane_fin]
  dsimp only [bind, Except.bind]
  by_cases empty : (row plane).rttRingNs = []
  · rw [if_pos empty]
    exact ⟨none, rfl, ⟨iff_of_true rfl empty, by rintro value ⟨⟩⟩⟩
  · rw [if_neg empty]
    set ring := (row plane).rttRingNs
    have perm := List.mergeSort_perm ring fun first second => first ≤ second
    have sorted := @pairwise_rank_mergeSort Int Int _ id _ (fun _ _ => rfl) ring
    have within := inside (List.length_pos_iff.mpr empty)
    rw [← perm.length_eq] at within ⊢
    obtain ⟨value, read⟩ : ∃ value, (ring.mergeSort fun first second => first ≤ second)[position
        (ring.mergeSort fun first second => first ≤ second).length]? = some value :=
      ⟨_, List.getElem?_eq_getElem within⟩
    rw [itemAt, read]
    refine ⟨some value, rfl, ⟨iff_of_false (Option.some_ne_none value) empty, fun other same => ?_⟩⟩
    rw [← Option.some.inj same]
    exact isQuantile_of_getElem? sorted perm read

/-! ## A snapshot tells the history -/

/-- An entry gives the counts, last values and percentiles of these calls. -/
structure Tells (cfg : EVStateConfig) (tenant : String) (steps : List (Step numPlanes))
    (plane : Fin numPlanes) (entry : PlaneEntry) : Prop where
  position : entry.plane = plane
  state : entry.state = (lastState tenant plane steps).value
  timeouts : entry.consecutiveProbeTimeouts = trailingFailures tenant plane steps
  successes : entry.consecutiveProbeSuccesses = successesSinceSetback tenant plane steps
  lossWindows :
    entry.consecutiveLossDemoteWindows = lossyWindowsSinceQuiet cfg tenant plane steps
  ratio : entry.lastLossRatio = round6 (lastRatio tenant plane steps)
  transitions : entry.transitions = (steps.filterMap (Step.move? tenant plane)).length
  suppressed : entry.demotesSuppressedByFloor = steps.countP (Step.refused tenant plane)
  weight : entry.weight =
    stateWeight (lastState tenant plane steps) / totalWeight fun other => lastState tenant other steps
  p50 : let samples := recentRtts tenant plane steps cfg.rttRingSize.toNat
    Ranked samples (p50Position samples.length + 1) entry.rttP50Ns
  p99 : let samples := recentRtts tenant plane steps cfg.rttRingSize.toNat
    Ranked samples (p99Position samples.length + 1) entry.rttP99Ns
  ordered : ∀ low ∈ entry.rttP50Ns, ∀ high ∈ entry.rttP99Ns, low ≤ high
  worst : let samples := recentRtts tenant plane steps cfg.rttRingSize.toNat
    samples.length ≤ 100 → ∀ high ∈ entry.rttP99Ns, ∀ sample ∈ samples, sample ≤ high

theorem Trace.sound {start table : EVStateTable numPlanes} {steps : List (Step numPlanes)}
    (sound : start.Sound) (trace : Trace start steps table) : table.Sound := by
  induction trace with
  | nil => exact sound
  | snoc _ returned ih => exact ih.call returned

section Built

variable {tenants : List String} {cfg : EVStateConfig} {start table : EVStateTable numPlanes}
  {steps : List (Step numPlanes)} (built : init tenants numPlanes cfg = .ok start)
  (trace : Trace start steps table) {tenant : String} (mem : tenant ∈ tenants)

include built trace mem

theorem planeEntry_ok (plane : Fin numPlanes) :
    ∃ entry, table.planeEntry tenant (table.row tenant plane) plane = .ok entry ∧
      Tells cfg tenant steps plane entry := by
  have sound := trace.sound (init_sound built)
  have known : tenant ∈ table.tenants := by
    rw [trace.frame.1, (init_ok built).2.1]
    exact mem
  have found := sound.find? known
  have told := trace.remembers built mem
  have counters := trace.counters built mem plane
  obtain ⟨p50, readP50, isP50⟩ := rttAt_ok found plane p50Position_lt
  obtain ⟨p99, readP99, isP99⟩ := rttAt_ok found plane p99Position_lt
  have share := normalizedWeights_getElem? (sound.rawWeights_sum_pos known) plane
  simp only [(told _).state] at share
  have ran : table.planeEntry tenant (table.row tenant plane) plane =
      .ok ((table.row tenant plane).entry plane p50 p99 (stateWeight (lastState tenant plane steps) /
        totalWeight fun other => lastState tenant other steps)) := by
    rw [planeEntry, rttP50Ns, rttP99Ns, bind_of_ok readP50, bind_of_ok readP99,
      sound.cached tenant _ found]
    dsimp only [bind, Except.bind]
    rw [itemAt, share]
    rfl
  rw [(told plane).ring] at isP50 isP99
  exact ⟨_, ran, rfl, congrArg EVState.value (told plane).state, counters.timeouts,
    counters.successes, counters.lossWindows, congrArg round6 (told plane).ratio, (told plane).moved,
    (told plane).refused, rfl, isP50, isP99, isP50.le isP99 p50Position_le,
    fun few high isHigh => isP99.worst few isHigh⟩

/-- The entries of a tenant, plane by plane. -/
theorem tenantEntry_ok :
    ∃ entries, table.tenantEntry tenant = .ok entries ∧
      List.Forall₂ (Tells cfg tenant steps) (List.finRange numPlanes) entries := by
  have known : tenant ∈ table.tenants := by
    rw [trace.frame.1, (init_ok built).2.1]
    exact mem
  have found := (trace.sound (init_sound built)).find? known
  choose entry read tells using planeEntry_ok built trace mem
  refine ⟨(List.finRange numPlanes).map entry, ?_, ?_⟩
  · rw [tenantEntry, found]
    refine mapM_of_forall₂ ?_
    rw [List.forall₂_map_right_iff]
    exact List.forall₂_same.mpr fun plane _ => read plane
  · rw [List.forall₂_map_right_iff]
    exact List.forall₂_same.mpr fun plane _ => tells plane

end Built

/-- Assigning the entries of one tenant after the other. -/
theorem foldlM_set {visit : String → Except PyError (List PlaneEntry)}
    {entries : String → List PlaneEntry} {tenants : List String}
    (visits : ∀ tenant ∈ tenants, visit tenant = .ok (entries tenant))
    (out : OrderedDict String (List PlaneEntry)) :
    tenants.foldlM (fun out tenant => do
      let planesOut ← visit tenant
      return out.set tenant planesOut) out =
    .ok (tenants.foldl (fun out tenant => out.set tenant (entries tenant)) out) := by
  induction tenants generalizing out with
  | nil => rfl
  | cons tenant rest ih =>
      obtain ⟨first, later⟩ := List.forall_mem_cons.mp visits
      rw [List.foldlM_cons, first]
      exact ih later _

end EVStateTable

end Srv6Fabric.Mrc

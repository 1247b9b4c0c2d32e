import Mathlib.Algebra.Order.Ring.Rat
import Mathlib.Data.List.OfFn
import Mathlib.Data.Rat.Floor
import Srv6Fabric.Library.OrderedDict
import Srv6Fabric.PyError

/-!
# The per-(tenant, plane) EV state machine

`ev_state.py`, method by method.  A table over `numPlanes` planes keeps one record
for each tenant and plane, a cache of normalized spray weights for each tenant, and
the `on_transition` events it has fired, oldest first.  The callback is the last
thing a call does, so its behaviour cannot change the table; `invoke` adds it.

Loss ratios and weights are exact rationals.  The lock is not modelled: one call is
one step.
-/

namespace Srv6Fabric.Mrc

open Srv6Fabric.Library

inductive EVState where
  | unknown
  | good
  | assumedBad
  deriving DecidableEq, Repr

/-- `_STATE_WEIGHT`. -/
def stateWeight : EVState → ℚ
  | .good => 1
  | .unknown => 1 / 2
  | .assumedBad => 0

structure EVStateConfig where
  probeFailThreshold : Int := 3
  probeRecoverThreshold : Int := 5
  lossThreshold : ℚ := 5 / 100
  lossDemoteConsecutive : Int := 2
  minActivePlanes : Option Int := none
  rttRingSize : Int := 64
  deriving DecidableEq, Repr

/-- The floor the table works with: configured or half the planes, and always in
`[1, num_planes]`. -/
def EVStateConfig.resolveMinActive (cfg : EVStateConfig) (numPlanes : Nat) : Int :=
  match cfg.minActivePlanes with
  | none => max 1 ((numPlanes / 2 : Nat) : Int)
  | some floor => max 1 (min floor numPlanes)

/-- `_PlaneRecord`. -/
structure PlaneRecord where
  state : EVState := .unknown
  consecutiveProbeTimeouts : Nat := 0
  consecutiveProbeSuccesses : Nat := 0
  rttRingNs : List Int := []
  consecutiveLossDemoteWindows : Nat := 0
  lastLossRatio : ℚ := 0
  transitions : Nat := 0
  demotesSuppressedByFloor : Nat := 0
  deriving DecidableEq, Repr

/-- One `on_transition(tenant, plane, old, new)` call. -/
structure TransitionEvent (numPlanes : Nat) where
  tenant : String
  plane : Fin numPlanes
  old : EVState
  new : EVState
  deriving DecidableEq, Repr

/-- `deque(maxlen=maxlen).append(sample)`: keep the newest `maxlen` samples. -/
def ringAppend (maxlen : Nat) (ring : List Int) (sample : Int) : List Int :=
  (ring ++ [sample]).drop (ring.length + 1 - maxlen)

structure EVStateTable (numPlanes : Nat) where
  tenants : List String
  cfg : EVStateConfig
  minActive : Int
  planes : OrderedDict String (Fin numPlanes → PlaneRecord)
  weightsCache : OrderedDict String (List ℚ)
  events : List (TransitionEvent numPlanes)

namespace EVStateTable

variable {numPlanes : Nat}

/-! ## Internals -/

/-- `self._planes[tenant]`, read only once the tenant is known. -/
def row (table : EVStateTable numPlanes) (tenant : String) : Fin numPlanes → PlaneRecord :=
  (table.planes.find? tenant).getD fun _ => {}

/-- Write back one mutated record of `self._planes[tenant]`. -/
def setRecord (table : EVStateTable numPlanes) (tenant : String) (plane : Fin numPlanes)
    (record : PlaneRecord) : EVStateTable numPlanes :=
  { table with
    planes := table.planes.set tenant (Function.update (table.row tenant) plane record) }

/-- The weight of every plane before normalization. -/
def rawWeights (row : Fin numPlanes → PlaneRecord) : List ℚ :=
  List.ofFn fun plane => stateWeight (row plane).state

/-- The tuple `_rebuild_weights_locked` caches: uniform when no plane has weight. -/
def normalizedWeights (row : Fin numPlanes → PlaneRecord) : List ℚ :=
  let raw := rawWeights row
  let total := raw.sum
  if total ≤ 0 then List.replicate numPlanes (1 / (numPlanes : ℚ))
  else raw.map (· / total)

def rebuildWeightsLocked (table : EVStateTable numPlanes) (tenant : String) :
    EVStateTable numPlanes :=
  { table with
    weightsCache := table.weightsCache.set tenant (normalizedWeights (table.row tenant)) }

/-- The record part of `_transition_locked`. -/
def enterState (record : PlaneRecord) (new : EVState) : PlaneRecord :=
  { record with
    state := new
    transitions := record.transitions + 1
    consecutiveProbeTimeouts :=
      if new = .good then 0 else record.consecutiveProbeTimeouts
    consecutiveProbeSuccesses :=
      if new = .assumedBad then 0 else record.consecutiveProbeSuccesses }

def transitionLocked (table : EVStateTable numPlanes) (tenant : String)
    (plane : Fin numPlanes) (new : EVState) : EVStateTable numPlanes :=
  let record := table.row tenant plane
  if record.state = new then table
  else
    let table' := (table.setRecord tenant plane (enterState record new)).rebuildWeightsLocked tenant
    { table' with events := table'.events ++ [⟨tenant, plane, record.state, new⟩] }

/-- Planes other than `plane` that are GOOD or UNKNOWN. -/
def usableAfter (row : Fin numPlanes → PlaneRecord) (plane : Fin numPlanes) : Nat :=
  (List.finRange numPlanes).countP fun other =>
    other ≠ plane ∧ (row other).state ≠ .assumedBad

def tryDemoteLocked (table : EVStateTable numPlanes) (tenant : String)
    (plane : Fin numPlanes) : EVStateTable numPlanes :=
  if (usableAfter (table.row tenant) plane : Int) < table.minActive then
    let record := table.row tenant plane
    table.setRecord tenant plane
      { record with demotesSuppressedByFloor := record.demotesSuppressedByFloor + 1 }
  else table.transitionLocked tenant plane .assumedBad

/-- `_check_tenant`, returning the row the caller reads next. -/
def checkTenant (table : EVStateTable numPlanes) (tenant : String) :
    Except PyError (Fin numPlanes → PlaneRecord) :=
  match table.planes.find? tenant with
  | some row => .ok row
  | none => .error (.valueError
      s!"unknown tenant {pyRepr tenant}; known: {pyReprTuple table.tenants}")

/-! ## Construction -/

def init (tenants : List String) (numPlanes : Nat) (cfg : EVStateConfig) :
    Except PyError (EVStateTable numPlanes) :=
  if tenants = [] then .error (.valueError "tenants must be non-empty")
  else if numPlanes < 1 then
    .error (.valueError s!"num_planes must be >= 1, got {numPlanes}")
  else if cfg.rttRingSize < 0 then .error (.valueError "maxlen must be non-negative")
  else
    let blank : EVStateTable numPlanes :=
      { tenants, cfg
        minActive := cfg.resolveMinActive numPlanes
        planes := tenants.foldl (fun planes tenant => planes.set tenant fun _ => {}) .empty
        weightsCache := .empty
        events := [] }
    .ok (tenants.foldl rebuildWeightsLocked blank)

/-! ## Signal ingress -/

def recordProbeResult (table : EVStateTable numPlanes) (tenant : String) (plane : Int)
    (success : Bool) (rttNs : Option Int) : Except PyError (EVStateTable numPlanes) := do
  let row ← table.checkTenant tenant
  let plane ← checkPlane numPlanes plane
  if success then
    match rttNs with
    | none => .error (.valueError "record_probe_result(success=True) requires rtt_ns")
    | some rtt =>
        if rtt < 0 then .error (.valueError s!"rtt_ns must be >= 0, got {rtt}")
        else
          let record := { row plane with
            consecutiveProbeSuccesses := (row plane).consecutiveProbeSuccesses + 1
            consecutiveProbeTimeouts := 0
            rttRingNs := ringAppend table.cfg.rttRingSize.toNat (row plane).rttRingNs rtt }
          let table := table.setRecord tenant plane record
          if record.state ≠ .good
              ∧ table.cfg.probeRecoverThreshold ≤ record.consecutiveProbeSuccesses
              ∧ record.consecutiveLossDemoteWindows = 0 then
            .ok (table.transitionLocked tenant plane .good)
          else .ok table
  else
    let record := { row plane with
      consecutiveProbeTimeouts := (row plane).consecutiveProbeTimeouts + 1
      consecutiveProbeSuccesses := 0 }
    let table := table.setRecord tenant plane record
    if record.state ≠ .assumedBad
        ∧ table.cfg.probeFailThreshold ≤ record.consecutiveProbeTimeouts then
      .ok (table.tryDemoteLocked tenant plane)
    else .ok table

/-- The ratio one loss window stands for, after the `seen > expected` clamp. -/
def lossRatio (seen expected : Int) : ℚ :=
  ((expected - min seen expected : Int) : ℚ) / expected

def recordLossWindow (table : EVStateTable numPlanes) (tenant : String) (plane : Int)
    (seen expected : Int) : Except PyError (EVStateTable numPlanes) := do
  let row ← table.checkTenant tenant
  let plane ← checkPlane numPlanes plane
  if seen < 0 ∨ expected < 0 then
    .error (.valueError
      s!"seen/expected must be >= 0, got seen={seen} expected={expected}")
  else if expected = 0 then .ok table
  else
    let ratio := lossRatio seen expected
    let record := { row plane with lastLossRatio := ratio }
    if table.cfg.lossThreshold < ratio then
      let record := { record with
        consecutiveLossDemoteWindows := record.consecutiveLossDemoteWindows + 1 }
      let table := table.setRecord tenant plane record
      if record.state ≠ .assumedBad
          ∧ table.cfg.lossDemoteConsecutive ≤ record.consecutiveLossDemoteWindows then
        .ok (table.tryDemoteLocked tenant plane)
      else .ok table
    else if ratio ≤ table.cfg.lossThreshold / 2 then
      .ok (table.setRecord tenant plane { record with consecutiveLossDemoteWindows := 0 })
    else .ok (table.setRecord tenant plane record)

/-! ## Reads -/

def state (table : EVStateTable numPlanes) (tenant : String) (plane : Int) :
    Except PyError EVState := do
  let row ← table.checkTenant tenant
  let plane ← checkPlane numPlanes plane
  .ok (row plane).state

/-- The cached tuple; the cache has an entry for every tenant of `_planes`. -/
def weights (table : EVStateTable numPlanes) (tenant : String) : Except PyError (List ℚ) := do
  let _ ← table.checkTenant tenant
  .ok ((table.weightsCache.find? tenant).getD [])

/-! ## Calls and runs -/

/-- One call of the signal interface with its arguments. -/
inductive Call where
  | probe (tenant : String) (plane : Int) (success : Bool) (rttNs : Option Int)
  | loss (tenant : String) (plane : Int) (seen expected : Int)
  deriving DecidableEq, Repr

def call (table : EVStateTable numPlanes) : Call → Except PyError (EVStateTable numPlanes)
  | .probe tenant plane success rttNs => table.recordProbeResult tenant plane success rttNs
  | .loss tenant plane seen expected => table.recordLossWindow tenant plane seen expected

/-- What an `on_transition` callback does after a history of events: return or raise. -/
abbrev TransitionCb (numPlanes : Nat) := List (TransitionEvent numPlanes) → Option PyError

/-- A call as its caller sees it: the table left behind and the exception, if any.  The
checks raise before anything is written; the callback raises after everything is. -/
def invoke (onTransition : TransitionCb numPlanes) (table : EVStateTable numPlanes)
    (request : Call) : EVStateTable numPlanes × Option PyError :=
  match table.call request with
  | .error error => (table, some error)
  | .ok next =>
      (next, if next.events.length = table.events.length then none
        else onTransition next.events)

/-- The table after a list of calls, raising or not. -/
def run (onTransition : TransitionCb numPlanes) (table : EVStateTable numPlanes)
    (requests : List Call) : EVStateTable numPlanes :=
  requests.foldl (fun table request => (table.invoke onTransition request).1) table

end EVStateTable

end Srv6Fabric.Mrc

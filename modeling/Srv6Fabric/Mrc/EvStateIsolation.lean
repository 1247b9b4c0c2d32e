import Mathlib.Data.Fintype.Basic
import Srv6Fabric.Library.Unwinding
import Srv6Fabric.Mrc.EvStateEvents

/-!
# Tenants do not influence each other

One tenant's view of a table is its row of records, its cached weights and the events that
name it, with the configuration all tenants share.  A call about another tenant leaves the
view alone, and a call about this tenant reads nothing outside it.
-/

namespace Srv6Fabric.Mrc.EVStateTable

open Srv6Fabric.Library

variable {numPlanes : Nat}

/-- `good_planes`; an unknown tenant is a missing key of `_planes`. -/
def goodPlanes (table : EVStateTable numPlanes) (tenant : String) :
    Except PyError (Finset (Fin numPlanes)) :=
  match table.planes.find? tenant with
  | some row => .ok (Finset.univ.filter fun plane => (row plane).state = .good)
  | none => .error (.keyError (pyRepr tenant))

/-- The `on_transition` events of one tenant, in the order they were fired. -/
def tenantEvents (events : List (TransitionEvent numPlanes)) (tenant : String) :
    List (TransitionEvent numPlanes) :=
  events.filter fun event => event.tenant = tenant

/-- What one tenant sees of a table. -/
@[ext] structure TenantView (numPlanes : Nat) where
  tenants : List String
  cfg : EVStateConfig
  minActive : Int
  planes : Option (Fin numPlanes → PlaneRecord)
  weightsCache : Option (List ℚ)
  events : List (TransitionEvent numPlanes)

def view (tenant : String) (table : EVStateTable numPlanes) : TenantView numPlanes where
  tenants := table.tenants
  cfg := table.cfg
  minActive := table.minActive
  planes := table.planes.find? tenant
  weightsCache := table.weightsCache.find? tenant
  events := tenantEvents table.events tenant

section Reads

variable {table table' : EVStateTable numPlanes} {tenant : String}

theorem row_of_view (same : view tenant table = view tenant table') :
    table.row tenant = table'.row tenant :=
  congrArg (fun seen => seen.planes.getD fun _ => {}) same

theorem weights_of_view (same : view tenant table = view tenant table') :
    table.weights tenant = table'.weights tenant := by
  have planesEq : table.planes.find? tenant = table'.planes.find? tenant :=
    congrArg TenantView.planes same
  have cacheEq : table.weightsCache.find? tenant = table'.weightsCache.find? tenant :=
    congrArg TenantView.weightsCache same
  have tenantsEq : table.tenants = table'.tenants := congrArg TenantView.tenants same
  simp only [weights, checkTenant, planesEq, cacheEq, tenantsEq]

theorem goodPlanes_of_view (same : view tenant table = view tenant table') :
    table.goodPlanes tenant = table'.goodPlanes tenant := by
  have planesEq : table.planes.find? tenant = table'.planes.find? tenant :=
    congrArg TenantView.planes same
  simp only [goodPlanes, planesEq]

end Reads

/-! ## One signal -/

theorem tenantEvents_append (events : List (TransitionEvent numPlanes))
    (event : TransitionEvent numPlanes) (tenant : String) :
    tenantEvents (events ++ [event]) tenant =
      if event.tenant = tenant then tenantEvents events tenant ++ [event]
      else tenantEvents events tenant := by
  rw [tenantEvents, List.filter_append, ← tenantEvents, List.filter_cons, List.filter_nil]
  simp only [decide_eq_true_eq]
  split
  · rfl
  · exact List.append_nil _

/-- A signal to another tenant is not seen. -/
theorem view_applySignal_of_ne (table : EVStateTable numPlanes) {tenant other : String}
    (away : other ≠ tenant) (plane : Fin numPlanes) (signal : Signal) :
    view other (table.applySignal tenant plane signal) = view other table := by
  unfold applySignal
  dsimp only
  split
  · simp [view, OrderedDict.find?_set, away]
  · simp [view, OrderedDict.find?_set, away, tenantEvents_append, away.symm]

/-- What a signal to the tenant does to its view is decided by the view. -/
theorem view_applySignal_congr {table table' : EVStateTable numPlanes} {tenant : String}
    (same : view tenant table = view tenant table') (plane : Fin numPlanes) (signal : Signal) :
    view tenant (table.applySignal tenant plane signal) =
      view tenant (table'.applySignal tenant plane signal) := by
  have rowEq := row_of_view same
  obtain ⟨tenantsEq, cfgEq, floorEq, -, cacheEq, eventsEq⟩ := (TenantView.ext_iff ..).mp same
  dsimp only [view] at tenantsEq cfgEq floorEq cacheEq eventsEq
  unfold applySignal
  rw [rowEq, cfgEq, floorEq]
  dsimp only
  split
  · simp [view, tenantsEq, cacheEq, eventsEq]
  · simp [view, tenantsEq, eventsEq, tenantEvents_append]

/-! ## One call -/

/-- Whether a call returns depends on its arguments and on the tenant being known. -/
theorem call_returns_congr {table table' next : EVStateTable numPlanes} {request : Call}
    (returned : table.call request = .ok next)
    (same : table'.planes.find? request.tenant = table.planes.find? request.tenant) :
    ∃ next', table'.call request = .ok next' := by
  obtain ⟨row, index, found, indexEq, -⟩ := call_ok returned
  rw [found] at same
  cases request with
  | probe tenant plane success rttNs =>
      dsimp only [Call.tenant, Call.plane] at found same indexEq
      simp only [call, recordProbeResult, checkTenant_of_find? found, checkTenant_of_find? same,
        ← indexEq, checkPlane_fin, bind, Except.bind] at returned ⊢
      cases success with
      | false =>
          simp only [Bool.false_eq_true, if_false]
          split <;> exact ⟨_, rfl⟩
      | true =>
          cases rttNs with
          | none => cases returned
          | some rtt =>
              by_cases negative : rtt < 0
              · simp [negative] at returned
              · simp only [negative, if_false, if_true]
                split <;> exact ⟨_, rfl⟩
  | loss tenant plane seen expected =>
      dsimp only [Call.tenant, Call.plane] at found same indexEq
      simp only [call, recordLossWindow, checkTenant_of_find? found, checkTenant_of_find? same,
        ← indexEq, checkPlane_fin, bind, Except.bind] at returned ⊢
      by_cases negative : seen < 0 ∨ expected < 0
      · simp [negative] at returned
      · rw [if_neg negative]
        split_ifs <;> exact ⟨_, rfl⟩

theorem view_call_of_ne {table next : EVStateTable numPlanes} {request : Call} {tenant : String}
    (returned : table.call request = .ok next) (away : tenant ≠ request.tenant) :
    view tenant next = view tenant table := by
  obtain ⟨row, index, -, -, nextEq⟩ := call_ok returned
  rw [nextEq]
  cases request.signal? with
  | none => rfl
  | some signal => exact view_applySignal_of_ne table away index signal

theorem view_call_congr {table table' next next' : EVStateTable numPlanes} {request : Call}
    (same : view request.tenant table = view request.tenant table')
    (returned : table.call request = .ok next) (returned' : table'.call request = .ok next') :
    view request.tenant next = view request.tenant next' := by
  obtain ⟨row, index, -, indexEq, nextEq⟩ := call_ok returned
  obtain ⟨row', index', -, indexEq', nextEq'⟩ := call_ok returned'
  obtain rfl : index = index' := Fin.ext (by exact_mod_cast indexEq.trans indexEq'.symm)
  rw [nextEq, nextEq']
  cases request.signal? with
  | none => exact same
  | some signal => exact view_applySignal_congr same index signal

theorem invoke_fst_eq (onTransition : TransitionCb numPlanes) (table : EVStateTable numPlanes)
    (request : Call) :
    (table.invoke onTransition request).1 =
      match table.call request with
      | .error _ => table
      | .ok next => next := by
  unfold invoke
  cases table.call request <;> rfl

/-- Calls unwind onto every tenant's view: those about other tenants are hidden. -/
theorem unwinding (onTransition : TransitionCb numPlanes) (tenant : String) :
    Unwinding (fun table request => (invoke onTransition table request).1)
      (fun request => decide (request.tenant = tenant)) (@view numPlanes tenant) := by
  constructor
  · intro table request hidden
    have away : tenant ≠ request.tenant := fun same => of_decide_eq_false hidden same.symm
    rcases invoke_fst onTransition table request with kept | returned
    · rw [kept]
    · exact view_call_of_ne returned away
  · intro table table' request shown same
    obtain rfl : request.tenant = tenant := of_decide_eq_true shown
    have planesEq : table.planes.find? request.tenant = table'.planes.find? request.tenant :=
      congrArg TenantView.planes same
    rw [invoke_fst_eq, invoke_fst_eq]
    cases outcome : table.call request with
    | ok next =>
        obtain ⟨next', outcome'⟩ := call_returns_congr outcome planesEq.symm
        rw [outcome']
        exact view_call_congr same outcome outcome'
    | error error =>
        cases outcome' : table'.call request with
        | error error' => exact same
        | ok next' =>
            obtain ⟨next, returned⟩ := call_returns_congr outcome' planesEq
            rw [outcome] at returned
            cases returned

/-- Tenants are isolated: two runs of one table, of whatever configuration, whose calls
about a tenant are the same and in the same order leave that tenant with the same records,
weights, GOOD planes and events, whatever the calls about other tenants are and however
they interleave. -/
theorem tenants_isolated (table : EVStateTable numPlanes) (onTransition : TransitionCb numPlanes)
    (tenant : String) {requests requests' : List Call}
    (same : requests.filter (fun request => request.tenant = tenant) =
      requests'.filter (fun request => request.tenant = tenant)) :
    let reached := table.run onTransition requests
    let reached' := table.run onTransition requests'
    reached.planes.find? tenant = reached'.planes.find? tenant ∧
      (∀ plane, reached.state tenant plane = reached'.state tenant plane) ∧
      reached.weights tenant = reached'.weights tenant ∧
      reached.goodPlanes tenant = reached'.goodPlanes tenant ∧
      tenantEvents reached.events tenant = tenantEvents reached'.events tenant := by
  have views : view tenant (table.run onTransition requests) =
      view tenant (table.run onTransition requests') :=
    (unwinding onTransition tenant).foldl_eq rfl same
  have planesEq : (table.run onTransition requests).planes.find? tenant =
      (table.run onTransition requests').planes.find? tenant := congrArg TenantView.planes views
  have tenantsEq : (table.run onTransition requests).tenants =
      (table.run onTransition requests').tenants := congrArg TenantView.tenants views
  refine ⟨planesEq, ?_, weights_of_view views, goodPlanes_of_view views,
    congrArg TenantView.events views⟩
  intro plane
  simp only [state, checkTenant, planesEq, tenantsEq]

/-- Green's plane 0 fails three probes while yellow loses three planes in one run and none
in the other. -/
theorem tenants_isolated_under_failures :
    ∃ table : EVStateTable 4, init ["green", "yellow"] 4 {} = .ok table ∧
      let green : Call := .probe "green" 0 false none
      let yellow := ([1, 2, 3] : List Int).flatMap fun plane =>
        List.replicate 3 (Call.probe "yellow" plane false none)
      let reached := table.run (fun _ => none) (green :: yellow ++ [green, green])
      let reached' := table.run (fun _ => none) [green, green, green]
      reached.weights "green" = reached'.weights "green" ∧
        tenantEvents reached.events "green" = tenantEvents reached'.events "green" := by
  obtain ⟨table, built⟩ : ∃ table : EVStateTable 4,
    init ["green", "yellow"] 4 {} = .ok table := ⟨_, rfl⟩
  refine ⟨table, built, ?_⟩
  intro green yellow
  have same : (green :: yellow ++ [green, green]).filter (fun request => request.tenant = "green") =
      [green, green, green].filter (fun request => request.tenant = "green") := by decide
  have isolated := tenants_isolated table (fun _ => none) "green" same
  exact ⟨isolated.2.2.1, isolated.2.2.2.2⟩

end Srv6Fabric.Mrc.EVStateTable

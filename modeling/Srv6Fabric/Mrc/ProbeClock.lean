import Mathlib.Algebra.Order.Ring.Nat
import Mathlib.Data.List.FinRange
import Srv6Fabric.Library.OrderedDict
import Srv6Fabric.PyError

/-!
# Outstanding probes

`probe_clock.py`.  The parallel per-plane lists of the source are one record for each
plane.  An outstanding probe is its `tx_ns`: its other two fields repeat the keys it is
stored under, and nothing reads them.  The lock is not modelled: one call is one step.
-/

namespace Srv6Fabric.Mrc

open Srv6Fabric.Library

/-- What a clock keeps for one plane; `outstanding` maps request ids to emit times. -/
structure PlaneClock where
  nextReqId : Nat := 0
  outstanding : OrderedDict Nat Int := .empty
  emitCount : Nat := 0
  replyCount : Nat := 0
  timeoutCount : Nat := 0

structure ProbeClock (numPlanes : Nat) where
  probeTimeoutNs : Int
  maxOutstanding : Nat
  planes : Fin numPlanes → PlaneClock
  staleReplies : Nat

namespace PlaneClock

/-- `emit` on one plane: the oldest entry makes room, an entry under a recycled id is
overwritten. -/
def emit (record : PlaneClock) (maxOutstanding : Nat) (nowNs : Int) : PlaneClock :=
  let outstanding :=
    if maxOutstanding ≤ record.outstanding.size then record.outstanding.eraseOldest
    else record.outstanding
  { record with
    nextReqId := (record.nextReqId + 1) % 2 ^ 16
    outstanding := outstanding.set record.nextReqId nowNs
    emitCount := record.emitCount + 1 }

/-- The reply to one probe arrived. -/
def settle (record : PlaneClock) (reqId : Nat) : PlaneClock :=
  { record with
    outstanding := record.outstanding.erase reqId
    replyCount := record.replyCount + 1 }

/-- The entries a sweep removes, oldest first. -/
def expired (record : PlaneClock) (deadlineNs : Int) : List (Nat × Int) :=
  record.outstanding.entries.filter fun entry => entry.2 ≤ deadlineNs

/-- `sweep_timeouts` on one plane. -/
def sweep (record : PlaneClock) (deadlineNs : Int) : PlaneClock :=
  { record with
    outstanding := record.outstanding.filter fun entry => !decide (entry.2 ≤ deadlineNs)
    timeoutCount := record.timeoutCount + (record.expired deadlineNs).length }

end PlaneClock

namespace ProbeClock

variable {numPlanes : Nat}

def init (numPlanes : Nat) (probeTimeoutNs maxOutstandingPerPlane : Int) :
    Except PyError (ProbeClock numPlanes) :=
  if numPlanes = 0 then .error (.valueError s!"num_planes must be positive, got {numPlanes}")
  else if probeTimeoutNs ≤ 0 then
    .error (.valueError s!"probe_timeout_ns must be positive, got {probeTimeoutNs}")
  else if maxOutstandingPerPlane ≤ 0 then
    .error (.valueError
      s!"max_outstanding_per_plane must be positive, got {maxOutstandingPerPlane}")
  else .ok ⟨probeTimeoutNs, maxOutstandingPerPlane.toNat, fun _ => {}, 0⟩

/-- `self._outstanding[plane]`. -/
def outstanding (clock : ProbeClock numPlanes) (plane : Fin numPlanes) : OrderedDict Nat Int :=
  (clock.planes plane).outstanding

def setPlane (clock : ProbeClock numPlanes) (plane : Fin numPlanes) (record : PlaneClock) :
    ProbeClock numPlanes :=
  { clock with planes := Function.update clock.planes plane record }

/-- Allocate the next request id of a plane and record the emit time. -/
def emit (clock : ProbeClock numPlanes) (plane nowNs : Int) :
    Except PyError (ProbeClock numPlanes × Nat × Int) := do
  let plane ← checkPlane numPlanes plane
  let record := clock.planes plane
  .ok (clock.setPlane plane (record.emit clock.maxOutstanding nowNs), record.nextReqId, nowNs)

/-- Match a reply by plane, request id and emit time; the RTT, or `none` for a stale
reply. -/
def matchReply (clock : ProbeClock numPlanes) (reqId : Nat) (plane replyTxNs nowNs : Int) :
    Except PyError (ProbeClock numPlanes × Option Int) := do
  let plane ← checkPlane numPlanes plane
  let stale := ({ clock with staleReplies := clock.staleReplies + 1 }, none)
  match (clock.outstanding plane).find? reqId with
  | none => .ok stale
  | some txNs =>
      if txNs ≠ replyTxNs then .ok stale
      else .ok (clock.setPlane plane ((clock.planes plane).settle reqId), some (nowNs - txNs))

/-- The probes a sweep removes: plane by plane, oldest first. -/
def expired (clock : ProbeClock numPlanes) (nowNs : Int) : List (Fin numPlanes × Nat × Int) :=
  (List.finRange numPlanes).flatMap fun plane =>
    ((clock.planes plane).expired (nowNs - clock.probeTimeoutNs)).map (Prod.mk plane)

/-- Remove the probes older than the timeout; they are listed by plane and request id. -/
def sweepTimeouts (clock : ProbeClock numPlanes) (nowNs : Int) :
    ProbeClock numPlanes × List (Fin numPlanes × Nat) :=
  ({ clock with
      planes := fun plane => (clock.planes plane).sweep (nowNs - clock.probeTimeoutNs) },
    (clock.expired nowNs).map fun (plane, reqId, _) => (plane, reqId))

/-! ## What each call does to the outstanding probes -/

@[simp] theorem setPlane_outstanding (clock : ProbeClock numPlanes) (plane other : Fin numPlanes)
    (record : PlaneClock) :
    (clock.setPlane plane record).outstanding other =
      if other = plane then record.outstanding else clock.outstanding other := by
  unfold setPlane outstanding
  dsimp only
  rw [Function.update_apply]
  split <;> rfl

/-- An emit leaves no entry but the new one and earlier ones under other ids. -/
theorem emit_ok {clock next : ProbeClock numPlanes} {plane nowNs txNs : Int} {reqId : Nat}
    (emitted : clock.emit plane nowNs = .ok (next, reqId, txNs)) :
    ∃ index : Fin numPlanes, (index : Int) = plane ∧ txNs = nowNs ∧
      reqId = (clock.planes index).nextReqId ∧
      ∀ other entry, entry ∈ (next.outstanding other).entries →
        other = index ∧ entry = (reqId, nowNs) ∨
          entry ∈ (clock.outstanding other).entries ∧ ¬ (other = index ∧ entry.1 = reqId) := by
  obtain ⟨index, checked, returned⟩ := bind_eq_ok emitted
  cases returned
  refine ⟨index, checkPlane_ok checked, rfl, rfl, ?_⟩
  rintro other ⟨id, time⟩ mem
  rw [setPlane_outstanding] at mem
  split at mem
  · next here =>
    subst here
    rcases OrderedDict.mem_set_iff.mp mem with ⟨rfl, rfl⟩ | ⟨elsewhere, earlier⟩
    · exact Or.inl ⟨rfl, rfl⟩
    · refine Or.inr ⟨?_, fun same => elsewhere same.2⟩
      split at earlier
      · exact OrderedDict.mem_of_mem_eraseOldest earlier
      · exact earlier
  · next away => exact Or.inr ⟨mem, fun same => away same.1⟩

/-- A stale reply changes no entry; a matched one removes the entry it matches. -/
theorem matchReply_ok {clock next : ProbeClock numPlanes} {reqId : Nat}
    {plane replyTxNs nowNs : Int} {rtt : Option Int}
    (returned : clock.matchReply reqId plane replyTxNs nowNs = .ok (next, rtt)) :
    ∃ index : Fin numPlanes, (index : Int) = plane ∧
      (rtt = none ∧ next.outstanding = clock.outstanding ∨
        rtt = some (nowNs - replyTxNs) ∧
          (reqId, replyTxNs) ∈ (clock.outstanding index).entries ∧
          ∀ other entry, entry ∈ (next.outstanding other).entries →
            entry ∈ (clock.outstanding other).entries ∧ ¬ (other = index ∧ entry.1 = reqId)) := by
  obtain ⟨index, checked, matched⟩ := bind_eq_ok returned
  refine ⟨index, checkPlane_ok checked, ?_⟩
  dsimp only at matched
  split at matched
  · cases matched
    exact Or.inl ⟨rfl, rfl⟩
  · next txNs found =>
    split at matched
    · cases matched
      exact Or.inl ⟨rfl, rfl⟩
    · next same =>
      have sameTx : txNs = replyTxNs := not_not.mp same
      subst sameTx
      cases matched
      refine Or.inr ⟨rfl, OrderedDict.find?_eq_some_iff.mp found, ?_⟩
      intro other entry mem
      rw [setPlane_outstanding] at mem
      split at mem
      · next here =>
        subst here
        obtain ⟨before, elsewhere⟩ := OrderedDict.mem_erase_iff.mp mem
        exact ⟨before, fun same => elsewhere same.2⟩
      · next away => exact ⟨mem, fun same => away same.1⟩

theorem mem_expired_iff {clock : ProbeClock numPlanes} {nowNs : Int} {plane : Fin numPlanes}
    {entry : Nat × Int} :
    (plane, entry) ∈ clock.expired nowNs ↔
      entry ∈ (clock.outstanding plane).entries ∧ entry.2 ≤ nowNs - clock.probeTimeoutNs := by
  simp [expired, PlaneClock.expired, outstanding]

/-- No probe is listed twice by one sweep, even by plane and request id alone. -/
theorem nodup_expired (clock : ProbeClock numPlanes) (nowNs : Int) :
    ((clock.expired nowNs).map fun (plane, reqId, _) => (plane, reqId)).Nodup := by
  have keys : ∀ plane : Fin numPlanes,
      (((clock.planes plane).expired (nowNs - clock.probeTimeoutNs)).map Prod.fst).Nodup :=
    fun plane => (clock.planes plane).outstanding.nodup.sublist (List.filter_sublist.map Prod.fst)
  rw [expired, List.map_flatMap]
  refine List.nodup_flatMap.mpr ⟨?_, ?_⟩
  · intro plane _
    rw [List.map_map]
    have paired := (keys plane).map (f := Prod.mk plane) (Prod.mk_right_injective plane)
    rwa [List.map_map] at paired
  · refine (List.nodup_finRange numPlanes).imp ?_
    intro plane other different
    refine List.disjoint_left.mpr ?_
    intro listed here there
    beta_reduce at here there
    rw [List.map_map] at here there
    obtain ⟨_, _, rfl⟩ := List.mem_map.mp here
    obtain ⟨_, _, same⟩ := List.mem_map.mp there
    exact different (congrArg Prod.fst same).symm

/-- A sweep keeps the entries that are not due. -/
theorem mem_sweepTimeouts {clock : ProbeClock numPlanes} {nowNs : Int} {plane : Fin numPlanes}
    {entry : Nat × Int}
    (mem : entry ∈ ((clock.sweepTimeouts nowNs).1.outstanding plane).entries) :
    entry ∈ (clock.outstanding plane).entries ∧ (plane, entry) ∉ clock.expired nowNs := by
  obtain ⟨before, notDue⟩ := List.mem_filter.mp mem
  refine ⟨before, ?_⟩
  intro due
  simp [(mem_expired_iff.mp due).2] at notDue

end ProbeClock

end Srv6Fabric.Mrc

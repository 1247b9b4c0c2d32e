import Mathlib.Data.List.Perm.Basic
import Srv6Fabric.Library.Machine
import Srv6Fabric.Mrc.ProbeClock

/-!
# The fate of every probe

A clock remembers only the probes still outstanding.  The history of a plane keeps all
of them, in emission order, each with what became of it: answered, timed out, or
displaced by a later emit.  The clock's dictionary is the part that is still waiting.
-/

namespace Srv6Fabric.Mrc

open Srv6Fabric.Library

variable {numPlanes : Nat}

inductive ProbeFate where
  | waiting
  | answered (rttNs : Int)
  | timedOut
  | displaced
  deriving DecidableEq, Repr

structure SentProbe where
  reqId : Nat
  txNs : Int
  fate : ProbeFate := .waiting
  deriving DecidableEq, Repr

/-- What the clock stores of a probe. -/
def SentProbe.entry (probe : SentProbe) : Nat × Int := (probe.reqId, probe.txNs)

/-- A waiting probe whose entry passes the test meets its fate. -/
def SentProbe.resolve (fate : ProbeFate) (test : Nat × Int → Bool) (probe : SentProbe) :
    SentProbe :=
  if probe.fate = .waiting ∧ test probe.entry then { probe with fate } else probe

/-- The probes of each plane, in emission order. -/
abbrev ProbeHistory (numPlanes : Nat) := Fin numPlanes → List SentProbe

/-- One call of a `ProbeClock`, with its clock read. -/
inductive ClockCall (numPlanes : Nat) where
  | emit (plane : Fin numPlanes) (nowNs : Int)
  | reply (reqId : Nat) (plane txNs nowNs : Int)
  | sweep (nowNs : Int)

def ClockCall.nowNs : ClockCall numPlanes → Int
  | .emit _ nowNs => nowNs
  | .reply _ _ _ nowNs => nowNs
  | .sweep nowNs => nowNs

/-- The request ids an emit takes from earlier probes: the oldest one when the plane is
full, and the one it uses itself. -/
def PlaneClock.displaces (record : PlaneClock) (maxOutstanding : Nat) : List Nat :=
  (if maxOutstanding ≤ record.outstanding.size then record.outstanding.keys.head?.toList else [])
    ++ [record.nextReqId]

/-- The clock after a call; one that raises leaves it. -/
def ProbeClock.after (clock : ProbeClock numPlanes) : ClockCall numPlanes → ProbeClock numPlanes
  | .emit plane nowNs =>
      match clock.emit (plane : Nat) nowNs with
      | .ok (next, _, _) => next
      | .error _ => clock
  | .reply reqId plane txNs nowNs =>
      match clock.matchReply reqId plane txNs nowNs with
      | .ok (next, _) => next
      | .error _ => clock
  | .sweep nowNs => (clock.sweepTimeouts nowNs).1

/-- The history after a call of the clock. -/
def ProbeHistory.after (history : ProbeHistory numPlanes) (clock : ProbeClock numPlanes) :
    ClockCall numPlanes → ProbeHistory numPlanes
  | .emit plane nowNs =>
      let displaced := (clock.planes plane).displaces clock.maxOutstanding
      Function.update history plane
        ((history plane).map (SentProbe.resolve .displaced fun entry => entry.1 ∈ displaced) ++
          [{ reqId := (clock.planes plane).nextReqId, txNs := nowNs }])
  | .reply reqId plane txNs nowNs =>
      match clock.matchReply reqId plane txNs nowNs with
      | .ok (_, some rttNs) => fun other =>
          if (other : Nat) = plane then
            (history other).map (SentProbe.resolve (.answered rttNs) fun entry => entry.1 = reqId)
          else history other
      | _ => history
  | .sweep nowNs => fun plane =>
      (history plane).map (SentProbe.resolve .timedOut fun entry =>
        entry.2 ≤ nowNs - clock.probeTimeoutNs)

section Resolve

variable {fate : ProbeFate} {test : Nat × Int → Bool} {probe : SentProbe}

@[simp] theorem SentProbe.resolve_txNs : (probe.resolve fate test).txNs = probe.txNs := by
  unfold resolve
  split <;> rfl

theorem SentProbe.resolve_of_settled (done : probe.fate ≠ .waiting) :
    probe.resolve fate test = probe :=
  if_neg fun hit => done hit.1

theorem SentProbe.resolve_cases (probe : SentProbe) (fate : ProbeFate)
    (test : Nat × Int → Bool) :
    probe.fate = .waiting ∧ test probe.entry ∧ (probe.resolve fate test).fate = fate ∨
      probe.resolve fate test = probe := by
  unfold resolve
  split
  · next hit => exact Or.inl ⟨hit.1, hit.2, rfl⟩
  · exact Or.inr rfl

/-- A probe that waits after this was waiting before. -/
theorem SentProbe.waiting_of_resolve (waits : (probe.resolve fate test).fate = .waiting) :
    probe.fate = .waiting := by
  rcases probe.resolve_cases fate test with ⟨before, -, -⟩ | same
  · exact before
  · rwa [same] at waits

end Resolve

/-! ## The dictionary is what still waits -/

def waitingEntries (probes : List SentProbe) : List (Nat × Int) :=
  (probes.filter fun probe => probe.fate = .waiting).map SentProbe.entry

theorem mem_waitingEntries {probes : List SentProbe} {entry : Nat × Int} :
    entry ∈ waitingEntries probes ↔
      ∃ probe ∈ probes, probe.fate = .waiting ∧ probe.entry = entry := by
  simp [waitingEntries, and_assoc]

theorem waitingEntries_append (first second : List SentProbe) :
    waitingEntries (first ++ second) = waitingEntries first ++ waitingEntries second := by
  simp [waitingEntries]

theorem waitingEntries_resolve {fate : ProbeFate} (final : fate ≠ .waiting)
    (test : Nat × Int → Bool) (probes : List SentProbe) :
    waitingEntries (probes.map (SentProbe.resolve fate test)) =
      (waitingEntries probes).filter fun entry => !test entry := by
  induction probes with
  | nil => rfl
  | cons probe rest ih =>
      simp only [waitingEntries, List.map_cons, List.filter_cons] at ih ⊢
      by_cases waits : probe.fate = .waiting
      · cases hit : test probe.entry with
        | true => simpa [SentProbe.resolve, waits, hit, final] using ih
        | false => simpa [SentProbe.resolve, waits, hit] using ih
      · simpa [SentProbe.resolve, waits] using ih

/-- The outstanding probes of each plane are those that still wait. -/
def Tracks (clock : ProbeClock numPlanes) (history : ProbeHistory numPlanes) : Prop :=
  ∀ plane, (clock.outstanding plane).entries.Perm (waitingEntries (history plane))

theorem ProbeClock.after_emit (clock : ProbeClock numPlanes) (plane : Fin numPlanes) (nowNs : Int) :
    clock.after (.emit plane nowNs) =
      clock.setPlane plane ((clock.planes plane).emit clock.maxOutstanding nowNs) := by
  simp only [ProbeClock.after, ProbeClock.emit, checkPlane_fin, bind, Except.bind]

/-- The entries an emit leaves, up to order. -/
theorem PlaneClock.perm_emit (record : PlaneClock) (maxOutstanding : Nat) (nowNs : Int) :
    (record.emit maxOutstanding nowNs).outstanding.entries.Perm
      (record.outstanding.entries.filter
          (fun entry => !decide (entry.1 ∈ record.displaces maxOutstanding)) ++
        [(record.nextReqId, nowNs)]) := by
  unfold PlaneClock.emit PlaneClock.displaces
  dsimp only
  refine (OrderedDict.perm_set _ _ _).trans (List.Perm.append_right _ (List.Perm.of_eq ?_))
  split
  · rw [OrderedDict.entries_eraseOldest, List.filter_filter]
    refine List.filter_congr fun entry _ => ?_
    simp [eq_comm, Bool.and_comm]
  · refine List.filter_congr fun entry _ => ?_
    simp

/-- A reply for a plane of the clock is matched by its entry, or stale. -/
theorem ProbeClock.matchReply_fin (clock : ProbeClock numPlanes) (reqId : Nat)
    (plane : Fin numPlanes) (txNs nowNs : Int) :
    clock.matchReply reqId (plane : Nat) txNs nowNs =
      if (clock.outstanding plane).find? reqId = some txNs then
        .ok (clock.setPlane plane ((clock.planes plane).settle reqId), some (nowNs - txNs))
      else .ok ({ clock with staleReplies := clock.staleReplies + 1 }, none) := by
  simp only [ProbeClock.matchReply, checkPlane_fin, bind, Except.bind]
  cases found : (clock.outstanding plane).find? reqId with
  | none => simp
  | some held =>
      by_cases same : held = txNs
      · simp [same]
      · simp [same]

/-- What a reply does: it is refused or stale, or it answers the entry it matches. -/
theorem ProbeClock.matchReply_cases (clock : ProbeClock numPlanes) (reqId : Nat)
    (plane txNs nowNs : Int) :
    (∃ error, clock.matchReply reqId plane txNs nowNs = .error error) ∨
    (clock.matchReply reqId plane txNs nowNs =
      .ok ({ clock with staleReplies := clock.staleReplies + 1 }, none)) ∨
    ∃ index : Fin numPlanes, (index : Nat) = plane ∧
      (clock.outstanding index).find? reqId = some txNs ∧
      clock.matchReply reqId plane txNs nowNs =
        .ok (clock.setPlane index ((clock.planes index).settle reqId), some (nowNs - txNs)) := by
  by_cases inRange : 0 ≤ plane ∧ plane < numPlanes
  · obtain ⟨index, rfl⟩ : ∃ index : Fin numPlanes, (index : Nat) = plane :=
      ⟨⟨plane.toNat, by omega⟩, by simp [inRange.1]⟩
    rw [clock.matchReply_fin]
    split
    · next found => exact Or.inr (Or.inr ⟨index, rfl, found, rfl⟩)
    · exact Or.inr (Or.inl rfl)
  · refine Or.inl ⟨.valueError s!"plane {plane} out of range [0, {numPlanes})", ?_⟩
    rw [ProbeClock.matchReply, checkPlane, dif_neg inRange]
    rfl

namespace Tracks

variable {clock : ProbeClock numPlanes} {history : ProbeHistory numPlanes}

/-- Every call keeps the clock's dictionaries the part of the history that waits. -/
theorem after (tracks : Tracks clock history) (call : ClockCall numPlanes) :
    Tracks (clock.after call) (history.after clock call) := by
  intro other
  cases call with
  | emit plane nowNs =>
      rw [clock.after_emit, ProbeClock.setPlane_outstanding, ProbeHistory.after,
        Function.update_apply]
      split
      · next here =>
        subst here
        rw [waitingEntries_append, waitingEntries_resolve (by decide)]
        refine (PlaneClock.perm_emit _ _ _).trans (List.Perm.append ?_ (List.Perm.refl _))
        exact (tracks other).filter _
      · exact tracks other
  | reply reqId plane txNs nowNs =>
      rcases clock.matchReply_cases reqId plane txNs nowNs with
        ⟨error, raised⟩ | stale | ⟨index, rfl, found, matched⟩
      · simp only [ProbeClock.after, ProbeHistory.after, raised]
        exact tracks other
      · simp only [ProbeClock.after, ProbeHistory.after, stale]
        exact tracks other
      · simp only [ProbeClock.after, ProbeHistory.after, matched,
          ProbeClock.setPlane_outstanding, Int.natCast_inj, Fin.val_inj]
        split
        · next here =>
          subst here
          rw [waitingEntries_resolve (by simp)]
          have kept := (tracks other).filter fun entry => !decide (entry.1 = reqId)
          simpa [PlaneClock.settle, OrderedDict.erase, OrderedDict.filter, ProbeClock.outstanding]
            using kept
        · exact tracks other
  | sweep nowNs =>
      simp only [ProbeHistory.after]
      rw [waitingEntries_resolve (by decide)]
      exact (tracks other).filter _

/-- A reply is matched by a probe of the plane it names that still waits. -/
theorem find?_iff (tracks : Tracks clock history) (plane : Fin numPlanes) (reqId : Nat)
    (txNs : Int) :
    (clock.outstanding plane).find? reqId = some txNs ↔
      ∃ probe ∈ history plane, probe.fate = .waiting ∧ probe.entry = (reqId, txNs) := by
  rw [OrderedDict.find?_eq_some_iff, (tracks plane).mem_iff, mem_waitingEntries]

end Tracks

/-! ## Runs of a clock -/

/-- A clock, the latest clock value it was called with, and the history of its probes. -/
structure ClockRun (numPlanes : Nat) where
  clock : ProbeClock numPlanes
  nowNs : Int
  history : ProbeHistory numPlanes

/-- The calls in some order, under a clock that never runs backwards. -/
def ClockRun.next (run : ClockRun numPlanes) (call : ClockCall numPlanes) :
    Option (ClockRun numPlanes) :=
  if run.nowNs ≤ call.nowNs then
    some ⟨run.clock.after call, call.nowNs, run.history.after run.clock call⟩
  else none

def clockMachine (clock : ProbeClock numPlanes) (startNs : Int) :
    Machine (ClockRun numPlanes) (ClockCall numPlanes) where
  start := ⟨clock, startNs, fun _ => []⟩
  step := ClockRun.next

end Srv6Fabric.Mrc

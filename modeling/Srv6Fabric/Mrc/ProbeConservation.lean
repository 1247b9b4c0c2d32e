import Srv6Fabric.Library.Fates
import Srv6Fabric.Mrc.ProbeLedger

/-!
# Conservation of probes

Every probe of a plane is kept with its class: it is outstanding, or it was replied to, timed
out, evicted when the plane was full, or overwritten when its request id came round again.
The clock's registry holds the outstanding ones, and its counters are the sizes of the
classes.  The calls take any arguments; one that raises changes nothing.
-/

namespace Srv6Fabric.Mrc

open Srv6Fabric.Library

variable {numPlanes : Nat}

/-- How a probe stopped being outstanding. -/
inductive ProbeClass where
  | replied
  | timedOut
  | evicted
  | overwritten
  deriving DecidableEq, Repr

/-- The probes of one plane in emission order: request id, emit time and class. -/
abbrev ProbeRecords := List (Fated (Nat × Int) ProbeClass)

inductive ClockRequest where
  | emit (plane nowNs : Int)
  | reply (reqId plane replyTxNs nowNs : Int)
  | sweep (nowNs : Int)

/-- `match_reply` with any request id; a negative one is no key of a registry. -/
def ProbeClock.matchReplyAny (clock : ProbeClock numPlanes) (reqId plane replyTxNs nowNs : Int) :
    Except PyError (ProbeClock numPlanes × Option Int) :=
  match reqId with
  | .ofNat reqId => clock.matchReply reqId plane replyTxNs nowNs
  | .negSucc _ => do
      let _ ← checkPlane numPlanes plane
      .ok ({ clock with staleReplies := clock.staleReplies + 1 }, none)

/-- The clock after a request; one that raises leaves it. -/
def ProbeClock.serve (clock : ProbeClock numPlanes) : ClockRequest → ProbeClock numPlanes
  | .emit plane nowNs =>
      match clock.emit plane nowNs with
      | .ok (next, _, _) => next
      | .error _ => clock
  | .reply reqId plane replyTxNs nowNs =>
      match clock.matchReplyAny reqId plane replyTxNs nowNs with
      | .ok (next, _) => next
      | .error _ => clock
  | .sweep nowNs => (clock.sweepTimeouts nowNs).1

/-- The request id an emit evicts. -/
def PlaneClock.evicts (record : PlaneClock) (maxOutstanding : Nat) : Option Nat :=
  if maxOutstanding ≤ record.outstanding.size then record.outstanding.keys.head? else none

/-- The classes of a plane's probes after a request. -/
def classify (clock : ProbeClock numPlanes) (probes : Fin numPlanes → ProbeRecords) :
    ClockRequest → Fin numPlanes → ProbeRecords
  | .emit plane nowNs, other =>
      match clock.emit plane nowNs with
      | .ok (_, reqId, txNs) =>
          if (other : Nat) = plane then
            (((probes other).map (Fated.settle .evicted fun probe =>
                probe.1 ∈ (clock.planes other).evicts clock.maxOutstanding)).map
              (Fated.settle .overwritten fun probe => probe.1 = reqId)) ++
              [{ item := (reqId, txNs) }]
          else probes other
      | .error _ => probes other
  | .reply reqId plane replyTxNs nowNs, other =>
      match clock.matchReplyAny reqId plane replyTxNs nowNs with
      | .ok (_, some _) =>
          if (other : Nat) = plane then
            (probes other).map (Fated.settle .replied fun probe => (probe.1 : Int) = reqId)
          else probes other
      | _ => probes other
  | .sweep nowNs, other =>
      (probes other).map (Fated.settle .timedOut fun probe =>
        probe.2 ≤ nowNs - clock.probeTimeoutNs)

/-- The classes of a plane's probes after an emit on it. -/
def PlaneClock.classifyEmit (record : PlaneClock) (maxOutstanding : Nat) (nowNs : Int)
    (probes : ProbeRecords) : ProbeRecords :=
  ((probes.map (Fated.settle .evicted fun probe => probe.1 ∈ record.evicts maxOutstanding)).map
    (Fated.settle .overwritten fun probe => probe.1 = record.nextReqId)) ++
    [{ item := (record.nextReqId, nowNs) }]

/-- A clock with the probes it has emitted. -/
structure ClassifiedClock (numPlanes : Nat) where
  clock : ProbeClock numPlanes
  probes : Fin numPlanes → ProbeRecords

def ClassifiedClock.serve (state : ClassifiedClock numPlanes) (request : ClockRequest) :
    ClassifiedClock numPlanes :=
  ⟨state.clock.serve request, classify state.clock state.probes request⟩

/-- The clock and its probes after a list of requests. -/
def ClassifiedClock.run (state : ClassifiedClock numPlanes) (requests : List ClockRequest) :
    ClassifiedClock numPlanes :=
  requests.foldl ClassifiedClock.serve state

/-- The books of one plane balance. -/
structure Balanced (maxOutstanding : Nat) (record : PlaneClock) (probes : ProbeRecords) : Prop where
  registry : record.outstanding.entries.Perm (Fated.opened probes)
  emitted : record.emitCount = probes.length
  replied : record.replyCount = Fated.count .replied probes
  timedOut : record.timeoutCount = Fated.count .timedOut probes
  capped : record.outstanding.size ≤ maxOutstanding
  next : record.nextReqId = probes.length % 2 ^ 16
  ids : probes.map (·.item.1) = (List.range probes.length).map (· % 2 ^ 16)
  recycled : ∀ index probe, probes[index]? = some probe → probe.fate = some .overwritten →
    index + 2 ^ 16 < probes.length

/-- The five classes are all there is. -/
theorem length_eq_classes (probes : ProbeRecords) :
    probes.length = (Fated.opened probes).length + Fated.count .replied probes +
      Fated.count .timedOut probes + Fated.count .evicted probes +
      Fated.count .overwritten probes := by
  induction probes with
  | nil => rfl
  | cons probe rest ih =>
      obtain ⟨item, fate⟩ := probe
      simp only [Fated.count, List.countP_cons] at ih ⊢
      cases fate with
      | none =>
          rw [Fated.opened_cons_none rest rfl]
          simp only [List.length_cons, ih]
          simp
          omega
      | some fate =>
          rw [Fated.opened_cons_some rest rfl, List.length_cons, ih]
          cases fate <;> simp <;> omega

/-! ## What a call does -/

theorem ProbeClock.init_ok {timeoutNs cap : Int} {clock : ProbeClock numPlanes}
    (built : ProbeClock.init numPlanes timeoutNs cap = .ok clock) :
    0 < cap ∧ clock.maxOutstanding = cap.toNat ∧ clock.probeTimeoutNs = timeoutNs ∧
      clock.planes = fun _ => {} := by
  unfold ProbeClock.init at built
  split_ifs at built with _ _ capped
  obtain rfl := Except.ok.inj built
  exact ⟨not_le.mp capped, rfl, rfl, rfl⟩

theorem ProbeClock.emit_cases (clock : ProbeClock numPlanes) (plane nowNs : Int) :
    (∃ error, clock.emit plane nowNs = .error error) ∨
      ∃ index : Fin numPlanes, (index : Nat) = plane ∧
        clock.emit plane nowNs =
          .ok (clock.setPlane index ((clock.planes index).emit clock.maxOutstanding nowNs),
            (clock.planes index).nextReqId, nowNs) := by
  unfold ProbeClock.emit
  cases checked : checkPlane numPlanes plane with
  | error error => exact Or.inl ⟨error, rfl⟩
  | ok index => exact Or.inr ⟨index, checkPlane_ok checked, rfl⟩

theorem ProbeClock.matchReplyAny_cases (clock : ProbeClock numPlanes)
    (reqId plane replyTxNs nowNs : Int) :
    (∃ error, clock.matchReplyAny reqId plane replyTxNs nowNs = .error error) ∨
    (clock.matchReplyAny reqId plane replyTxNs nowNs =
      .ok ({ clock with staleReplies := clock.staleReplies + 1 }, none)) ∨
    ∃ (index : Fin numPlanes) (key : Nat), (index : Nat) = plane ∧ (key : Int) = reqId ∧
      (clock.outstanding index).find? key = some replyTxNs ∧
      clock.matchReplyAny reqId plane replyTxNs nowNs =
        .ok (clock.setPlane index ((clock.planes index).settle key), some (nowNs - replyTxNs)) := by
  cases reqId with
  | ofNat key =>
      rcases clock.matchReply_cases key plane replyTxNs nowNs with
        raised | stale | ⟨index, here, found, matched⟩
      · exact Or.inl raised
      · exact Or.inr (Or.inl stale)
      · exact Or.inr (Or.inr ⟨index, key, here, rfl, found, matched⟩)
  | negSucc key =>
      unfold ProbeClock.matchReplyAny
      cases checked : checkPlane numPlanes plane with
      | error error => exact Or.inl ⟨error, rfl⟩
      | ok index => exact Or.inr (Or.inl rfl)

theorem PlaneClock.displaces_eq (record : PlaneClock) (maxOutstanding : Nat) :
    record.displaces maxOutstanding =
      (record.evicts maxOutstanding).toList ++ [record.nextReqId] := by
  unfold PlaneClock.displaces PlaneClock.evicts
  split <;> rfl

/-! ## One plane -/

namespace Balanced

variable {maxOutstanding : Nat} {record : PlaneClock} {probes : ProbeRecords}

theorem id_eq (balanced : Balanced maxOutstanding record probes) {index : Nat}
    {probe : Fated (Nat × Int) ProbeClass} (listed : probes[index]? = some probe) :
    probe.item.1 = index % 2 ^ 16 := by
  obtain ⟨inRange, rfl⟩ := List.getElem?_eq_some_iff.mp listed
  have ids := congrArg (·[index]?) balanced.ids
  simpa [inRange] using ids

/-- Settling moves no probe and changes no request id. -/
theorem ids_settle (balanced : Balanced maxOutstanding record probes) (fate : ProbeClass)
    (test : Nat × Int → Bool) :
    (probes.map (Fated.settle fate test)).map (·.item.1) =
      (List.range (probes.map (Fated.settle fate test)).length).map (· % 2 ^ 16) := by
  rw [List.map_map, List.length_map, ← balanced.ids]
  exact List.map_congr_left fun probe _ => congrArg Prod.fst (Fated.settle_item fate test probe)

theorem recycled_settle (balanced : Balanced maxOutstanding record probes) {fate : ProbeClass}
    (other : fate ≠ .overwritten) (test : Nat × Int → Bool) {index : Nat}
    {probe : Fated (Nat × Int) ProbeClass}
    (listed : (probes.map (Fated.settle fate test))[index]? = some probe)
    (lost : probe.fate = some .overwritten) : index + 2 ^ 16 < probes.length := by
  have unchanged := listed
  rw [List.getElem?_map] at unchanged
  obtain ⟨before, found, -⟩ := Option.map_eq_some_iff.mp unchanged
  exact balanced.recycled index before found (Fated.fate_of_settle_of_ne other found listed lost)

theorem emit (balanced : Balanced maxOutstanding record probes) (room : 1 ≤ maxOutstanding)
    (nowNs : Int) :
    Balanced maxOutstanding (record.emit maxOutstanding nowNs)
      (record.classifyEmit maxOutstanding nowNs probes) := by
  unfold PlaneClock.classifyEmit
  refine ⟨?_, ?_, ?_, ?_, ?_, ?_, ?_, ?_⟩
  · rw [Fated.opened_append, Fated.opened_settle, Fated.opened_settle, List.filter_filter]
    refine (PlaneClock.perm_emit _ _ _).trans (List.Perm.append ?_ (List.Perm.refl _))
    refine (balanced.registry.filter _).trans (List.Perm.of_eq (List.filter_congr fun probe _ => ?_))
    rw [PlaneClock.displaces_eq]
    simp [Bool.and_comm, eq_comm]
  · simp [PlaneClock.emit, balanced.emitted]
  · rw [Fated.count_append, Fated.count_settle_of_ne (by decide), Fated.count_settle_of_ne (by decide)]
    exact balanced.replied
  · rw [Fated.count_append, Fated.count_settle_of_ne (by decide), Fated.count_settle_of_ne (by decide)]
    exact balanced.timedOut
  · have capped := balanced.capped
    refine (OrderedDict.size_set_le _ _ _).trans ?_
    split
    · next full =>
      have shorter : record.outstanding.eraseOldest.size = record.outstanding.size - 1 :=
        List.length_tail
      omega
    · next free => omega
  · simp [PlaneClock.emit, balanced.next]
  · rw [List.map_append, List.length_append, List.length_map, List.length_map, List.length_singleton,
      List.range_succ, List.map_append, ← balanced.ids, List.map_map, List.map_map]
    congr 1
    · exact List.map_congr_left fun probe _ => by simp
    · simp [balanced.next]
  · intro index probe listed lost
    rw [List.length_append, List.length_map, List.length_map, List.length_singleton]
    rw [List.getElem?_append] at listed
    split at listed
    · next inRange =>
      rw [List.getElem?_map] at listed
      obtain ⟨before, found, rfl⟩ := Option.map_eq_some_iff.mp listed
      rcases Fated.settle_eq_some lost with already | ⟨-, recycles, -⟩
      · exact (balanced.recycled_settle (by decide) _ found already).trans (Nat.lt_succ_self _)
      · rw [List.length_map, List.length_map] at inRange
        rw [List.getElem?_map] at found
        obtain ⟨first, firstListed, rfl⟩ := Option.map_eq_some_iff.mp found
        have same := of_decide_eq_true recycles
        rw [Fated.settle_item, balanced.id_eq firstListed, balanced.next] at same
        omega
    · have fresh := List.mem_of_getElem? listed
      rw [List.mem_singleton.mp fresh] at lost
      cases lost

/-- Settling some of the outstanding probes, with the registry and a counter following. -/
theorem settled (balanced : Balanced maxOutstanding record probes) {fate : ProbeClass}
    (other : fate ≠ .overwritten) (test : Nat × Int → Bool) {next : PlaneClock}
    (registry : next.outstanding.entries =
      record.outstanding.entries.filter fun probe => !test probe)
    (emitted : next.emitCount = record.emitCount) (ids : next.nextReqId = record.nextReqId)
    (replied : next.replyCount = record.replyCount +
      if fate = .replied then record.outstanding.entries.countP test else 0)
    (timedOut : next.timeoutCount = record.timeoutCount +
      if fate = .timedOut then record.outstanding.entries.countP test else 0) :
    Balanced maxOutstanding next (probes.map (Fated.settle fate test)) := by
  have counted := balanced.registry.countP_eq test
  refine ⟨?_, ?_, ?_, ?_, ?_, ?_, balanced.ids_settle fate test, ?_⟩
  · rw [registry, Fated.opened_settle]
    exact balanced.registry.filter _
  · rw [emitted, List.length_map, balanced.emitted]
  · rw [replied, Fated.count_settle, balanced.replied, counted]
  · rw [timedOut, Fated.count_settle, balanced.timedOut, counted]
  · refine le_trans ?_ balanced.capped
    rw [OrderedDict.size, registry]
    exact List.length_filter_le _ _
  · rw [ids, List.length_map, balanced.next]
  · intro index probe listed lost
    rw [List.length_map]
    exact balanced.recycled_settle other test listed lost

theorem settle (balanced : Balanced maxOutstanding record probes) {key : Nat} {txNs : Int}
    (found : record.outstanding.find? key = some txNs) :
    Balanced maxOutstanding (record.settle key)
      (probes.map (Fated.settle .replied fun probe => probe.1 = key)) := by
  refine balanced.settled (by decide) _ ?_ rfl rfl ?_ rfl
  · simp [PlaneClock.settle, OrderedDict.erase, OrderedDict.filter]
  · rw [if_pos rfl, OrderedDict.countP_of_find? found]
    rfl

theorem sweep (balanced : Balanced maxOutstanding record probes) (deadlineNs : Int) :
    Balanced maxOutstanding (record.sweep deadlineNs)
      (probes.map (Fated.settle .timedOut fun probe => probe.2 ≤ deadlineNs)) := by
  refine balanced.settled (by decide) _ rfl rfl rfl rfl ?_
  rw [if_pos rfl, List.countP_eq_length_filter]
  rfl

end Balanced

/-! ## Runs -/

namespace ClassifiedClock

/-- Before any call. -/
def start (clock : ProbeClock numPlanes) : ClassifiedClock numPlanes := ⟨clock, fun _ => []⟩

/-- The books of every plane balance, under the limits the clock was built with. -/
structure Sound (state : ClassifiedClock numPlanes) : Prop where
  room : 1 ≤ state.clock.maxOutstanding
  balanced : ∀ plane, Balanced state.clock.maxOutstanding (state.clock.planes plane)
    (state.probes plane)

theorem serve_limits (state : ClassifiedClock numPlanes) (request : ClockRequest) :
    (state.serve request).clock.maxOutstanding = state.clock.maxOutstanding ∧
      (state.serve request).clock.probeTimeoutNs = state.clock.probeTimeoutNs := by
  cases request with
  | emit plane nowNs =>
      rcases state.clock.emit_cases plane nowNs with ⟨error, raised⟩ | ⟨index, -, returned⟩
      · simp [serve, ProbeClock.serve, raised]
      · simp [serve, ProbeClock.serve, returned, ProbeClock.setPlane]
  | reply reqId plane replyTxNs nowNs =>
      rcases state.clock.matchReplyAny_cases reqId plane replyTxNs nowNs with
        ⟨error, raised⟩ | stale | ⟨index, key, -, -, -, matched⟩
      · simp [serve, ProbeClock.serve, raised]
      · simp [serve, ProbeClock.serve, stale]
      · simp [serve, ProbeClock.serve, matched, ProbeClock.setPlane]
  | sweep nowNs => exact ⟨rfl, rfl⟩

theorem setPlane_planes (clock : ProbeClock numPlanes) (plane other : Fin numPlanes)
    (record : PlaneClock) :
    (clock.setPlane plane record).planes other =
      if other = plane then record else clock.planes other :=
  Function.update_apply ..

/-- What a request does on one plane: nothing, or it emits, answers or sweeps there. -/
theorem serve_cases (state : ClassifiedClock numPlanes) (request : ClockRequest)
    (plane : Fin numPlanes) :
    ((state.serve request).clock.planes plane = state.clock.planes plane ∧
        (state.serve request).probes plane = state.probes plane) ∨
      (∃ nowNs, request = .emit (plane : Nat) nowNs ∧
        (state.serve request).clock.planes plane =
          (state.clock.planes plane).emit state.clock.maxOutstanding nowNs ∧
        (state.serve request).probes plane =
          (state.clock.planes plane).classifyEmit state.clock.maxOutstanding nowNs
            (state.probes plane)) ∨
      (∃ key txNs, (state.clock.outstanding plane).find? key = some txNs ∧
        (state.serve request).clock.planes plane = (state.clock.planes plane).settle key ∧
        (state.serve request).probes plane =
          (state.probes plane).map (Fated.settle .replied fun probe => probe.1 = key)) ∨
      ∃ deadlineNs, (state.serve request).clock.planes plane =
          (state.clock.planes plane).sweep deadlineNs ∧
        (state.serve request).probes plane =
          (state.probes plane).map (Fated.settle .timedOut fun probe => probe.2 ≤ deadlineNs) := by
  cases request with
  | emit target nowNs =>
      rcases state.clock.emit_cases target nowNs with ⟨error, raised⟩ | ⟨index, rfl, returned⟩
      · refine Or.inl ?_
        simp only [ClassifiedClock.serve, ProbeClock.serve, classify, raised, and_self]
      · simp only [ClassifiedClock.serve, ProbeClock.serve, classify, returned, setPlane_planes,
          Int.natCast_inj, Fin.val_inj]
        by_cases here : plane = index
        · subst here
          exact Or.inr (Or.inl ⟨nowNs, rfl, if_pos rfl, if_pos rfl⟩)
        · exact Or.inl ⟨if_neg here, if_neg here⟩
  | reply reqId target replyTxNs nowNs =>
      rcases state.clock.matchReplyAny_cases reqId target replyTxNs nowNs with
        ⟨error, raised⟩ | stale | ⟨index, key, rfl, rfl, found, matched⟩
      · refine Or.inl ?_
        simp only [ClassifiedClock.serve, ProbeClock.serve, classify, raised, and_self]
      · refine Or.inl ?_
        simp only [ClassifiedClock.serve, ProbeClock.serve, classify, stale, and_self]
      · simp only [ClassifiedClock.serve, ProbeClock.serve, classify, matched, setPlane_planes,
          Int.natCast_inj, Fin.val_inj]
        by_cases here : plane = index
        · subst here
          exact Or.inr (Or.inr (Or.inl ⟨key, replyTxNs, found, if_pos rfl, if_pos rfl⟩))
        · exact Or.inl ⟨if_neg here, if_neg here⟩
  | sweep nowNs => exact Or.inr (Or.inr (Or.inr ⟨_, rfl, rfl⟩))

theorem Sound.serve {state : ClassifiedClock numPlanes} (sound : state.Sound)
    (request : ClockRequest) : (state.serve request).Sound := by
  obtain ⟨sameCap, -⟩ := state.serve_limits request
  refine ⟨sameCap ▸ sound.room, fun plane => ?_⟩
  rw [sameCap]
  have balanced := sound.balanced plane
  rcases state.serve_cases request plane with ⟨same, sameProbes⟩ |
    ⟨nowNs, -, emits, classified⟩ | ⟨key, txNs, found, settles, classified⟩ |
    ⟨deadlineNs, sweeps, classified⟩
  · rwa [same, sameProbes]
  · rw [emits, classified]
    exact balanced.emit sound.room nowNs
  · rw [settles, classified]
    exact balanced.settle found
  · rw [sweeps, classified]
    exact balanced.sweep deadlineNs

theorem Sound.run {state : ClassifiedClock numPlanes} (sound : state.Sound)
    (requests : List ClockRequest) : (state.run requests).Sound := by
  induction requests generalizing state with
  | nil => exact sound
  | cons request rest ih => exact ih (sound.serve request)

theorem run_limits (state : ClassifiedClock numPlanes) (requests : List ClockRequest) :
    (state.run requests).clock.maxOutstanding = state.clock.maxOutstanding ∧
      (state.run requests).clock.probeTimeoutNs = state.clock.probeTimeoutNs := by
  induction requests generalizing state with
  | nil => exact ⟨rfl, rfl⟩
  | cons request rest ih =>
      obtain ⟨cap, timeout⟩ := state.serve_limits request
      exact ⟨(ih _).1.trans cap, (ih _).2.trans timeout⟩

/-- Only an emit on a full plane evicts. -/
theorem Sound.evicted_at_cap {state : ClassifiedClock numPlanes} (sound : state.Sound)
    (request : ClockRequest) {plane : Fin numPlanes} {index : Nat}
    {before after : Fated (Nat × Int) ProbeClass} (here : (state.probes plane)[index]? = some before)
    (kept : before.fate ≠ some .evicted)
    (there : ((state.serve request).probes plane)[index]? = some after)
    (evicted : after.fate = some .evicted) :
    (state.clock.planes plane).outstanding.size = state.clock.maxOutstanding := by
  rcases state.serve_cases request plane with ⟨-, same⟩ | ⟨nowNs, -, -, classified⟩ |
    ⟨key, txNs, -, -, classified⟩ | ⟨deadlineNs, -, classified⟩
  · rw [same, here] at there
    exact absurd evicted (Option.some.inj there ▸ kept)
  · obtain ⟨inRange, -⟩ := List.getElem?_eq_some_iff.mp here
    rw [classified, PlaneClock.classifyEmit, List.getElem?_append_left (by simpa using inRange),
      List.getElem?_map, List.getElem?_map, here] at there
    rw [← Option.some.inj there] at evicted
    rcases Fated.settle_eq_some evicted with first | ⟨-, -, other⟩
    · rcases Fated.settle_eq_some first with already | ⟨-, oldest, -⟩
      · exact absurd already kept
      · refine le_antisymm (sound.balanced plane).capped ?_
        by_contra free
        simp [PlaneClock.evicts, free] at oldest
    · cases other
  · rw [classified] at there
    exact absurd (Fated.fate_of_settle_of_ne (by decide) here there evicted) kept
  · rw [classified] at there
    exact absurd (Fated.fate_of_settle_of_ne (by decide) here there evicted) kept

/-- A clock that has emitted nothing is sound. -/
theorem sound_start {timeoutNs cap : Int} {clock : ProbeClock numPlanes}
    (built : ProbeClock.init numPlanes timeoutNs cap = .ok clock) : (start clock).Sound := by
  obtain ⟨positive, capEq, -, blank⟩ := ProbeClock.init_ok built
  refine ⟨?_, fun plane => ?_⟩
  · change 1 ≤ clock.maxOutstanding
    omega
  · change Balanced clock.maxOutstanding (clock.planes plane) []
    rw [blank]
    exact ⟨List.Perm.refl _, rfl, rfl, rfl, Nat.zero_le _, rfl, rfl, by rintro index probe ⟨⟩⟩

end ClassifiedClock

/-- A sweep removes and returns exactly what is due, each probe once. -/
def ProbeClock.SweepsExactly (clock : ProbeClock numPlanes) (timeoutNs nowNs : Int) : Prop :=
  let swept := clock.sweepTimeouts nowNs
  swept.2.Nodup ∧
    (∀ plane reqId, (plane, reqId) ∈ swept.2 ↔
      ∃ txNs, (reqId, txNs) ∈ (clock.outstanding plane).entries ∧ txNs ≤ nowNs - timeoutNs) ∧
    ∀ plane, (swept.1.outstanding plane).entries =
      (clock.outstanding plane).entries.filter fun probe => !decide (probe.2 ≤ nowNs - timeoutNs)

/-- A request on one plane leaves the others alone, and a stale reply leaves all of them. -/
structure ProbeClock.KeepsOthers (clock : ProbeClock numPlanes) : Prop where
  emit : ∀ plane nowNs (other : Fin numPlanes), (other : Int) ≠ plane →
    (clock.serve (.emit plane nowNs)).planes other = clock.planes other
  reply : ∀ reqId plane replyTxNs nowNs (other : Fin numPlanes), (other : Int) ≠ plane →
    (clock.serve (.reply reqId plane replyTxNs nowNs)).planes other = clock.planes other
  stale : ∀ reqId plane replyTxNs nowNs next,
    clock.matchReplyAny reqId plane replyTxNs nowNs = .ok (next, none) → next.planes = clock.planes

theorem ProbeClock.sweepsExactly (clock : ProbeClock numPlanes) (nowNs : Int) :
    clock.SweepsExactly clock.probeTimeoutNs nowNs := by
  refine ⟨clock.nodup_expired nowNs, ?_, fun plane => rfl⟩
  intro plane reqId
  constructor
  · intro listed
    obtain ⟨⟨_, _, txNs⟩, due, same⟩ := List.mem_map.mp listed
    cases same
    exact ⟨txNs, ProbeClock.mem_expired_iff.mp due⟩
  · rintro ⟨txNs, held, due⟩
    exact List.mem_map.mpr ⟨(plane, reqId, txNs), ProbeClock.mem_expired_iff.mpr ⟨held, due⟩, rfl⟩

theorem ProbeClock.keepsOthers (clock : ProbeClock numPlanes) : clock.KeepsOthers := by
  refine ⟨?_, ?_, ?_⟩
  · intro plane nowNs other away
    rcases clock.emit_cases plane nowNs with ⟨error, raised⟩ | ⟨index, rfl, returned⟩
    · simp only [ProbeClock.serve, raised]
    · simp only [ProbeClock.serve, returned, ClassifiedClock.setPlane_planes]
      exact if_neg fun same => away (congrArg (fun index : Fin numPlanes => (index : Int)) same)
  · intro reqId plane replyTxNs nowNs other away
    rcases clock.matchReplyAny_cases reqId plane replyTxNs nowNs with
      ⟨error, raised⟩ | stale | ⟨index, key, rfl, rfl, -, matched⟩
    · simp only [ProbeClock.serve, raised]
    · simp only [ProbeClock.serve, stale]
    · simp only [ProbeClock.serve, matched, ClassifiedClock.setPlane_planes]
      exact if_neg fun same => away (congrArg (fun index : Fin numPlanes => (index : Int)) same)
  · intro reqId plane replyTxNs nowNs next returned
    rcases clock.matchReplyAny_cases reqId plane replyTxNs nowNs with
      ⟨error, raised⟩ | stale | ⟨index, key, -, -, -, matched⟩
    · cases raised.symm.trans returned
    · cases stale.symm.trans returned
      rfl
    · cases matched.symm.trans returned

/-- Probes are conserved: after any calls with any arguments every probe of a plane is in one
of the five classes, the registry holds the outstanding ones and never more than the cap, the
counters are the sizes of the classes, an overwritten probe had 65536 later ones on its
plane, and whatever is called next evicts only from a full plane, sweeps exactly what is due
and leaves the other planes alone. -/
theorem probes_conserved {timeoutNs cap : Int} {clock : ProbeClock numPlanes}
    (built : ProbeClock.init numPlanes timeoutNs cap = .ok clock) (requests : List ClockRequest) :
    let reached := (ClassifiedClock.start clock).run requests
    (∀ plane, Balanced cap.toNat (reached.clock.planes plane) (reached.probes plane) ∧
      (reached.clock.planes plane).emitCount =
        (reached.clock.planes plane).outstanding.size + (reached.clock.planes plane).replyCount +
          (reached.clock.planes plane).timeoutCount + Fated.count .evicted (reached.probes plane) +
          Fated.count .overwritten (reached.probes plane)) ∧
    (∀ (request : ClockRequest) (plane : Fin numPlanes) (index : Nat)
      (before after : Fated (Nat × Int) ProbeClass), (reached.probes plane)[index]? = some before →
      before.fate ≠ some .evicted →
      ((reached.serve request).probes plane)[index]? = some after → after.fate = some .evicted →
      ((reached.clock.planes plane).outstanding.size : Int) = cap) ∧
    (∀ nowNs, reached.clock.SweepsExactly timeoutNs nowNs) ∧ reached.clock.KeepsOthers := by
  obtain ⟨positive, capEq, timeoutEq, -⟩ := ProbeClock.init_ok built
  have initially := ClassifiedClock.sound_start built
  intro reached
  have sound : reached.Sound := initially.run requests
  obtain ⟨sameCap, sameTimeout⟩ := (ClassifiedClock.start clock).run_limits requests
  have capNow : reached.clock.maxOutstanding = cap.toNat := sameCap.trans capEq
  refine ⟨fun plane => ?_, ?_, fun nowNs => ?_, reached.clock.keepsOthers⟩
  · have balanced := sound.balanced plane
    rw [capNow] at balanced
    refine ⟨balanced, ?_⟩
    rw [balanced.emitted, balanced.replied, balanced.timedOut, length_eq_classes,
      ← balanced.registry.length_eq]
    rfl
  · intro request plane index before after here kept there evicted
    have full := sound.evicted_at_cap request here kept there evicted
    omega
  · have exactly := reached.clock.sweepsExactly nowNs
    rwa [sameTimeout.trans timeoutEq] at exactly

/-- The third probe of a plane with room for two evicts the first. -/
theorem third_probe_evicts_first :
    ∃ clock : ProbeClock 1, ProbeClock.init 1 50 2 = .ok clock ∧
      let reached := (ClassifiedClock.start clock).run
        [.emit 0 10, .emit 0 20, .emit 0 30, .reply 1 0 20 35]
      (reached.probes 0).map Fated.fate = [some .evicted, some .replied, none] ∧
        (reached.clock.planes 0).emitCount =
          (reached.clock.planes 0).outstanding.size + (reached.clock.planes 0).replyCount +
            (reached.clock.planes 0).timeoutCount + Fated.count .evicted (reached.probes 0) +
            Fated.count .overwritten (reached.probes 0) := by
  obtain ⟨clock, built⟩ : ∃ clock : ProbeClock 1, ProbeClock.init 1 50 2 = .ok clock := ⟨_, rfl⟩
  refine ⟨clock, built, ?_, ((probes_conserved built _).1 0).2⟩
  cases built
  rfl

end Srv6Fabric.Mrc

import Srv6Fabric.Mrc.ProbeConservation

/-!
# Which probe makes room

An emit on a full plane deletes the first entry of the plane's registry.  That is the oldest
probe as long as the registry is in emission order.  Replies and sweeps keep the order; an
emit whose request id is still outstanding puts the new probe where the old one stood.
-/

namespace Srv6Fabric.Mrc

open Srv6Fabric.Library

variable {numPlanes : Nat}

/-- The registry with the room an emit makes. -/
def PlaneClock.withRoom (record : PlaneClock) (maxOutstanding : Nat) : OrderedDict Nat Int :=
  if maxOutstanding ≤ record.outstanding.size then record.outstanding.eraseOldest
  else record.outstanding

/-- An emit finds no entry under its request id, or the last one. -/
def PlaneClock.Appends (record : PlaneClock) (maxOutstanding : Nat) : Prop :=
  record.nextReqId ∉ (record.withRoom maxOutstanding).keys.dropLast

instance (record : PlaneClock) (maxOutstanding : Nat) : Decidable (record.Appends maxOutstanding) :=
  inferInstanceAs (Decidable (_ ∉ _))

theorem PlaneClock.entries_withRoom (record : PlaneClock) (maxOutstanding : Nat) :
    (record.withRoom maxOutstanding).entries =
      record.outstanding.entries.filter fun probe => probe.1 ∉ record.evicts maxOutstanding := by
  unfold withRoom evicts
  split
  · exact OrderedDict.entries_eraseOldest _
  · simp

/-- Such an emit leaves the new probe last. -/
theorem PlaneClock.Appends.entries_emit {record : PlaneClock} {maxOutstanding : Nat}
    (appends : record.Appends maxOutstanding) (nowNs : Int) :
    (record.emit maxOutstanding nowNs).outstanding.entries =
      (record.outstanding.entries.filter fun probe => probe.1 ∉ record.evicts maxOutstanding).filter
        (fun probe => probe.1 ≠ record.nextReqId) ++ [(record.nextReqId, nowNs)] := by
  change ((record.withRoom maxOutstanding).set record.nextReqId nowNs).entries = _
  rw [OrderedDict.entries_set_of_last appends, PlaneClock.entries_withRoom]

/-- What is outstanding after an emit, in emission order. -/
theorem PlaneClock.opened_classifyEmit (record : PlaneClock) (maxOutstanding : Nat) (nowNs : Int)
    (probes : ProbeRecords) :
    Fated.opened (record.classifyEmit maxOutstanding nowNs probes) =
      ((Fated.opened probes).filter fun probe => probe.1 ∉ record.evicts maxOutstanding).filter
        (fun probe => probe.1 ≠ record.nextReqId) ++ [(record.nextReqId, nowNs)] := by
  rw [classifyEmit, Fated.opened_append, Fated.opened_settle, Fated.opened_settle]
  simp only [decide_not]
  rfl

namespace ClassifiedClock

/-- An emit that finds a plane full deletes the entry of the earliest probe outstanding there. -/
def EvictsOldest (state : ClassifiedClock numPlanes) : Prop :=
  ∀ plane, state.clock.maxOutstanding ≤ (state.clock.outstanding plane).size →
    ∃ oldest, (Fated.opened (state.probes plane)).head? = some oldest ∧
      ∀ nowNs, ((state.clock.planes plane).emit state.clock.maxOutstanding nowNs).outstanding =
        ((state.clock.outstanding plane).erase oldest.1).set
          (state.clock.planes plane).nextReqId nowNs

/-- The request overwrites no outstanding probe that has a later one behind it.  With room for
more probes than there are request ids, no plane is ever full. -/
def KeepsOrder (state : ClassifiedClock numPlanes) : ClockRequest → Prop
  | .emit plane _ => state.clock.maxOutstanding ≤ 2 ^ 16 → ∀ index : Fin numPlanes,
      (index : Nat) = plane → (state.clock.planes index).Appends state.clock.maxOutstanding
  | _ => True

/-- The registries are in emission order. -/
def InOrder (state : ClassifiedClock numPlanes) : Prop :=
  ∀ plane, (state.clock.outstanding plane).entries = Fated.opened (state.probes plane)

theorem InOrder.evictsOldest {state : ClassifiedClock numPlanes} (inOrder : state.InOrder)
    (room : 1 ≤ state.clock.maxOutstanding) : state.EvictsOldest := by
  intro plane full
  cases entries : (state.clock.outstanding plane).entries with
  | nil =>
      rw [OrderedDict.size, entries] at full
      exact absurd (room.trans full) (by decide)
  | cons oldest rest =>
      refine ⟨oldest, ?_, fun nowNs => ?_⟩
      · rw [← inOrder plane, entries]
        rfl
      · have head : (state.clock.outstanding plane).keys.head? = some oldest.1 := by
          rw [OrderedDict.keys, entries]
          rfl
        have erased : (state.clock.outstanding plane).eraseOldest =
            (state.clock.outstanding plane).erase oldest.1 := by
          refine OrderedDict.eq_of_entries ?_
          rw [OrderedDict.entries_eraseOldest, head]
          refine List.filter_congr fun entry _ => ?_
          simp [eq_comm]
        have roomy : (state.clock.planes plane).withRoom state.clock.maxOutstanding =
            (state.clock.outstanding plane).eraseOldest := if_pos full
        rw [← erased, ← roomy]
        rfl

/-- A request that overwrites no probe out of order keeps the order. -/
theorem InOrder.serve {state : ClassifiedClock numPlanes} (inOrder : state.InOrder)
    (small : state.clock.maxOutstanding ≤ 2 ^ 16) {request : ClockRequest}
    (keeps : state.KeepsOrder request) : (state.serve request).InOrder := by
  intro plane
  have entries : (state.clock.planes plane).outstanding.entries = _ := inOrder plane
  unfold ProbeClock.outstanding
  rcases state.serve_cases request plane with ⟨same, sameProbes⟩ |
    ⟨nowNs, rfl, emits, classified⟩ | ⟨key, txNs, -, settles, classified⟩ |
    ⟨deadlineNs, sweeps, classified⟩
  · rw [same, sameProbes, entries]
  · have appends := keeps small plane rfl
    rw [emits, classified, appends.entries_emit, PlaneClock.opened_classifyEmit, entries]
  · rw [settles, classified, Fated.opened_settle, ← entries]
    simp [PlaneClock.settle, OrderedDict.erase, OrderedDict.filter]
  · rw [sweeps, classified, Fated.opened_settle, ← entries]
    rfl

/-- A plane never has more probes outstanding than there are request ids. -/
theorem Sound.size_le {state : ClassifiedClock numPlanes} (sound : state.Sound)
    (plane : Fin numPlanes) : (state.clock.outstanding plane).size ≤ 2 ^ 16 := by
  have balanced := sound.balanced plane
  have keys : ∀ key ∈ (state.clock.outstanding plane).keys, key ∈ List.range (2 ^ 16) := by
    intro key mem
    obtain ⟨entry, held, rfl⟩ := List.mem_map.mp mem
    obtain ⟨probe, listed, rfl⟩ := List.mem_map.mp (balanced.registry.mem_iff.mp held)
    have id : probe.item.1 ∈ (state.probes plane).map (·.item.1) :=
      List.mem_map_of_mem (List.mem_filter.mp listed).1
    rw [balanced.ids] at id
    obtain ⟨index, -, same⟩ := List.mem_map.mp id
    exact List.mem_range.mpr (same ▸ Nat.mod_lt index (by decide))
  have fits := (List.subperm_of_subset (state.clock.outstanding plane).nodup keys).length_le
  rwa [List.length_map, List.length_range] at fits

theorem run_cons (state : ClassifiedClock numPlanes) (request : ClockRequest)
    (rest : List ClockRequest) : state.run (request :: rest) = (state.serve request).run rest :=
  rfl

theorem run_append (state : ClassifiedClock numPlanes) (first second : List ClockRequest) :
    state.run (first ++ second) = (state.run first).run second :=
  List.foldl_append

/-- Along a run of such requests the registries stay in order. -/
theorem InOrder.run {state : ClassifiedClock numPlanes} (inOrder : state.InOrder)
    (small : state.clock.maxOutstanding ≤ 2 ^ 16) {requests : List ClockRequest}
    (keeps : ∀ before request after, requests = before ++ request :: after →
      (state.run before).KeepsOrder request) : (state.run requests).InOrder := by
  induction requests generalizing state with
  | nil => exact inOrder
  | cons request rest ih =>
      have here := inOrder.serve small (keeps [] request rest rfl)
      refine ih here ((state.serve_limits request).1 ▸ small) ?_
      rintro before next after rfl
      exact keeps (request :: before) next after rfl

/-! ## Runs before the request ids wrap -/

theorem length_probes_serve (state : ClassifiedClock numPlanes) (request : ClockRequest)
    (plane : Fin numPlanes) :
    ((state.serve request).probes plane).length ≤ (state.probes plane).length + 1 := by
  rcases state.serve_cases request plane with ⟨-, same⟩ | ⟨nowNs, -, -, classified⟩ |
    ⟨key, txNs, -, -, classified⟩ | ⟨deadlineNs, -, classified⟩
  · rw [same]
    exact Nat.le_succ _
  · rw [classified, PlaneClock.classifyEmit, List.length_append, List.length_map, List.length_map]
    rfl
  · rw [classified, List.length_map]
    exact Nat.le_succ _
  · rw [classified, List.length_map]
    exact Nat.le_succ _

theorem length_probes_run (state : ClassifiedClock numPlanes) (requests : List ClockRequest)
    (plane : Fin numPlanes) :
    ((state.run requests).probes plane).length ≤ (state.probes plane).length + requests.length := by
  induction requests generalizing state with
  | nil => exact le_rfl
  | cons request rest ih =>
      calc ((state.run (request :: rest)).probes plane).length
          ≤ ((state.serve request).probes plane).length + rest.length := ih _
        _ ≤ (state.probes plane).length + 1 + rest.length :=
            Nat.add_le_add_right (state.length_probes_serve request plane) _
        _ = (state.probes plane).length + (request :: rest).length := by
            rw [List.length_cons]
            omega

/-- Before the ids wrap an emit takes a fresh one. -/
theorem Sound.keepsOrder {state : ClassifiedClock numPlanes} (sound : state.Sound)
    (unwrapped : ∀ plane, (state.probes plane).length < 2 ^ 16) (request : ClockRequest) :
    state.KeepsOrder request := by
  cases request with
  | reply reqId plane replyTxNs nowNs => trivial
  | sweep nowNs => trivial
  | emit target nowNs =>
      intro _ plane _ held
      have balanced := sound.balanced plane
      obtain ⟨entry, kept, same⟩ := List.mem_map.mp (List.dropLast_subset _ held)
      rw [PlaneClock.entries_withRoom] at kept
      obtain ⟨probe, listed, rfl⟩ :=
        List.mem_map.mp (balanced.registry.mem_iff.mp (List.mem_filter.mp kept).1)
      have id : probe.item.1 ∈ (state.probes plane).map (·.item.1) :=
        List.mem_map_of_mem (List.mem_filter.mp listed).1
      rw [balanced.ids] at id
      obtain ⟨index, inRange, isIndex⟩ := List.mem_map.mp id
      rw [List.mem_range] at inRange
      have small := unwrapped plane
      rw [same, balanced.next, Nat.mod_eq_of_lt small,
        Nat.mod_eq_of_lt (inRange.trans small)] at isIndex
      omega

end ClassifiedClock

open ClassifiedClock

/-- Every run with fewer emits than there are request ids overwrites nothing. -/
theorem keepsOrder_of_length_lt {timeoutNs cap : Int} {clock : ProbeClock numPlanes}
    (built : ProbeClock.init numPlanes timeoutNs cap = .ok clock) {before : List ClockRequest}
    (short : before.length < 2 ^ 16) (request : ClockRequest) :
    ((start clock).run before).KeepsOrder request := by
  refine ((sound_start built).run before).keepsOrder (fun plane => ?_) request
  have length := (start clock).length_probes_run before plane
  change _ ≤ 0 + before.length at length
  omega

/-- In a run that overwrites no outstanding probe with a later one behind it, every emit on a
full plane deletes the probe that was emitted earliest among those outstanding there. -/
theorem evicts_oldest {timeoutNs cap : Int} {clock : ProbeClock numPlanes}
    (built : ProbeClock.init numPlanes timeoutNs cap = .ok clock) {requests : List ClockRequest}
    (keeps : ∀ before request after, requests = before ++ request :: after →
      ((start clock).run before).KeepsOrder request) :
    ((start clock).run requests).EvictsOldest := by
  have initially := sound_start built
  have sound := initially.run requests
  obtain ⟨sameCap, -⟩ := (start clock).run_limits requests
  by_cases small : clock.maxOutstanding ≤ 2 ^ 16
  · have emptyOrder : (start clock).InOrder := by
      intro plane
      change (clock.planes plane).outstanding.entries = []
      rw [(ProbeClock.init_ok built).2.2.2]
      rfl
    exact (emptyOrder.run small keeps).evictsOldest sound.room
  · intro plane full
    rw [sameCap] at full
    have fits := sound.size_le plane
    exact absurd (full.trans fits) small

/-- Two probes fill a plane with room for two. -/
theorem evicts_oldest_of_two :
    ∃ clock : ProbeClock 1, ProbeClock.init 1 50 2 = .ok clock ∧
      ((start clock).run [.emit 0 10, .emit 0 20]).EvictsOldest := by
  obtain ⟨clock, built⟩ : ∃ clock : ProbeClock 1, ProbeClock.init 1 50 2 = .ok clock := ⟨_, rfl⟩
  refine ⟨clock, built, evicts_oldest built fun before request after split => ?_⟩
  refine keepsOrder_of_length_lt built ?_ request
  have length := congrArg List.length split
  rw [List.length_append, List.length_cons] at length
  change 2 = _ at length
  omega

/-! ## After they wrap -/

/-- What decides the evictions on a plane: the registry, and the probes outstanding in emission
order. -/
structure Queue where
  nextReqId : Nat
  entries : List (Nat × Int)
  opened : List (Nat × Int)
  deriving DecidableEq

namespace Queue

def evicts (queue : Queue) (cap : Nat) : Option Nat :=
  if cap ≤ queue.entries.length then (queue.entries.map Prod.fst).head? else none

def emit (queue : Queue) (cap : Nat) (nowNs : Int) : Queue where
  nextReqId := (queue.nextReqId + 1) % 2 ^ 16
  entries := OrderedDict.setEntry queue.nextReqId nowNs
    (if cap ≤ queue.entries.length then queue.entries.tail else queue.entries)
  opened := ((queue.opened.filter fun probe => probe.1 ∉ queue.evicts cap).filter fun probe =>
    probe.1 ≠ queue.nextReqId) ++ [(queue.nextReqId, nowNs)]

def answer (queue : Queue) (reqId : Nat) : Queue where
  nextReqId := queue.nextReqId
  entries := queue.entries.filter fun probe => probe.1 ≠ reqId
  opened := queue.opened.filter fun probe => probe.1 ≠ reqId

end Queue

namespace ClassifiedClock

def queue (state : ClassifiedClock numPlanes) (plane : Fin numPlanes) : Queue where
  nextReqId := (state.clock.planes plane).nextReqId
  entries := (state.clock.outstanding plane).entries
  opened := Fated.opened (state.probes plane)

theorem entries_emit (state : ClassifiedClock numPlanes) (plane : Fin numPlanes) (nowNs : Int) :
    ((state.clock.planes plane).emit state.clock.maxOutstanding nowNs).outstanding.entries =
      ((state.queue plane).emit state.clock.maxOutstanding nowNs).entries := by
  unfold PlaneClock.emit Queue.emit queue
  dsimp only
  by_cases full : state.clock.maxOutstanding ≤ (state.clock.planes plane).outstanding.size
  · have fullEntries : _ ≤ (state.clock.outstanding plane).entries.length := full
    rw [if_pos full, if_pos fullEntries]
    rfl
  · have freeEntries : ¬ _ ≤ (state.clock.outstanding plane).entries.length := full
    rw [if_neg full, if_neg freeEntries]
    rfl

theorem queue_emit (state : ClassifiedClock numPlanes) (plane : Fin numPlanes) (nowNs : Int) :
    (state.serve (.emit (plane : Nat) nowNs)).queue plane =
      (state.queue plane).emit state.clock.maxOutstanding nowNs := by
  have emitted : state.clock.emit (plane : Nat) nowNs = .ok (state.clock.setPlane plane
      ((state.clock.planes plane).emit state.clock.maxOutstanding nowNs),
        (state.clock.planes plane).nextReqId, nowNs) := by
    simp only [ProbeClock.emit, checkPlane_fin, bind, Except.bind]
  have opened := PlaneClock.opened_classifyEmit (state.clock.planes plane)
    state.clock.maxOutstanding nowNs (state.probes plane)
  rw [queue, ClassifiedClock.serve, ProbeClock.serve, emitted]
  simp only [classify, emitted, ProbeClock.outstanding, setPlane_planes, if_true]
  change Queue.mk _ _ _ = Queue.mk _ _ _
  rw [Queue.mk.injEq]
  exact ⟨rfl, state.entries_emit plane nowNs, opened⟩

theorem queue_answer {state : ClassifiedClock numPlanes} {plane : Fin numPlanes} {reqId : Nat}
    {txNs : Int} (held : (reqId, txNs) ∈ (state.queue plane).entries) (nowNs : Int) :
    (state.serve (.reply reqId (plane : Nat) txNs nowNs)).queue plane =
      (state.queue plane).answer reqId := by
  have found : (state.clock.outstanding plane).find? reqId = some txNs :=
    OrderedDict.find?_eq_some_iff.mpr held
  have matched : state.clock.matchReplyAny reqId (plane : Nat) txNs nowNs =
      .ok (state.clock.setPlane plane ((state.clock.planes plane).settle reqId),
        some (nowNs - txNs)) := by
    change state.clock.matchReply reqId (plane : Nat) txNs nowNs = _
    rw [ProbeClock.matchReply_fin, if_pos found]
  have opened := Fated.opened_settle ProbeClass.replied (fun probe : Nat × Int => probe.1 = reqId)
    (state.probes plane)
  rw [queue, ClassifiedClock.serve, ProbeClock.serve, matched]
  simp only [classify, matched, ProbeClock.outstanding, setPlane_planes, if_true, Int.natCast_inj]
  rw [opened]
  simp [Queue.answer, queue, PlaneClock.settle, OrderedDict.erase, OrderedDict.filter,
    ProbeClock.outstanding]

end ClassifiedClock

theorem serve_emit_queue {state : ClassifiedClock 1} {cap : Nat} {queue : Queue}
    (isCap : state.clock.maxOutstanding = cap) (isQueue : state.queue 0 = queue) (nowNs : Int) :
    (state.serve (.emit 0 nowNs)).clock.maxOutstanding = cap ∧
      (state.serve (.emit 0 nowNs)).queue 0 = queue.emit cap nowNs := by
  refine ⟨(state.serve_limits _).1.trans isCap, ?_⟩
  rw [← isQueue, ← isCap]
  exact queue_emit state 0 nowNs

/-- Probes emitted and answered one by one, from the one with id 1 on. -/
def answered : Nat → List ClockRequest
  | 0 => []
  | count + 1 => answered count ++
      [.emit 0 (count + 1 : Nat), .reply (count + 1 : Nat) 0 (count + 1 : Nat) (count + 1 : Nat)]

/-- While the first probe waits, any number of later ones come and go. -/
theorem queue_answered {state : ClassifiedClock 1} (roomy : 2 ≤ state.clock.maxOutstanding)
    (first : state.queue 0 = ⟨1, [(0, 0)], [(0, 0)]⟩) {count : Nat} (unwrapped : count < 2 ^ 16 - 1) :
    (state.run (answered count)).queue 0 = ⟨count + 1, [(0, 0)], [(0, 0)]⟩ := by
  induction count with
  | zero => exact first
  | succ count ih =>
      have before := ih (by omega)
      have emitted : ((state.run (answered count)).serve (.emit 0 (count + 1 : Nat))).queue 0 =
          ⟨count + 2, [(0, 0), (count + 1, (count + 1 : Nat))],
            [(0, 0), (count + 1, (count + 1 : Nat))]⟩ := by
        refine (serve_emit_queue (state.run_limits (answered count)).1 before _).2.trans ?_
        have free : ¬ state.clock.maxOutstanding ≤ 1 := by omega
        have fits : (count + 2) % 65536 = count + 2 := Nat.mod_eq_of_lt (by omega)
        simp [Queue.emit, Queue.evicts, free, fits, OrderedDict.setEntry]
      have held : (count + 1, ((count + 1 : Nat) : Int)) ∈
          (((state.run (answered count)).serve (.emit 0 (count + 1 : Nat))).queue 0).entries := by
        rw [emitted]
        exact List.mem_cons_of_mem _ List.mem_cons_self
      rw [answered, run_append]
      refine (queue_answer held (count + 1 : Nat)).trans ?_
      rw [emitted]
      simp [Queue.answer]

/-- While the first probe still waits when the ids wrap, a probe with id 65535 and two more fill
the plane; the second of the three has taken the place of the first. -/
theorem wrapped_evicts_newer {state : ClassifiedClock 1} (cap : state.clock.maxOutstanding = 3)
    (wrapping : state.queue 0 = ⟨65535, [(0, 0)], [(0, 0)]⟩) :
    let reached := state.run [.emit 0 65535, .emit 0 65536, .emit 0 65537]
    Fated.opened (reached.probes 0) = [(65535, 65535), (0, 65536), (1, 65537)] ∧
      (reached.clock.planes 0).evicts reached.clock.maxOutstanding = some 0 ∧
      ¬ reached.EvictsOldest := by
  intro reached
  have capNow : reached.clock.maxOutstanding = 3 := (state.run_limits _).1.trans cap
  have queue : reached.queue 0 = ⟨2, [(0, 65536), (65535, 65535), (1, 65537)],
      [(65535, 65535), (0, 65536), (1, 65537)]⟩ := by
    obtain ⟨cap, first⟩ := serve_emit_queue cap wrapping 65535
    obtain ⟨cap, second⟩ := serve_emit_queue cap first 65536
    obtain ⟨-, third⟩ := serve_emit_queue cap second 65537
    exact third.trans (by decide)
  have opened : Fated.opened (reached.probes 0) = [(65535, 65535), (0, 65536), (1, 65537)] :=
    congrArg Queue.opened queue
  have entries : (reached.clock.outstanding 0).entries = [(0, 65536), (65535, 65535), (1, 65537)] :=
    congrArg Queue.entries queue
  refine ⟨opened, ?_, fun evictsOldest => ?_⟩
  · have full : 3 ≤ (reached.clock.outstanding 0).entries.length := by rw [entries]; decide
    rw [capNow]
    refine (if_pos full).trans ?_
    change ((reached.clock.outstanding 0).entries.map Prod.fst).head? = some 0
    rw [entries]
    rfl
  · have full : reached.clock.maxOutstanding ≤ (reached.clock.outstanding 0).size := by
      rw [capNow, OrderedDict.size, entries]
      decide
    obtain ⟨oldest, isOldest, deletes⟩ := evictsOldest 0 full
    rw [opened] at isOldest
    obtain rfl := Option.some.inj isOldest
    have same := congrArg OrderedDict.entries (deletes 0)
    rw [reached.entries_emit, queue, capNow] at same
    change _ = OrderedDict.setEntry (reached.queue 0).nextReqId 0
      ((reached.clock.outstanding 0).entries.filter fun probe => probe.1 ≠ 65535) at same
    rw [entries, queue] at same
    exact absurd same (by decide)

theorem wrapping_run {clock : ProbeClock 1} (built : ProbeClock.init 1 50 3 = .ok clock)
    {count : Nat} (wraps : count + 2 = 2 ^ 16) :
    let reached := (start clock).run
      (.emit 0 0 :: answered count ++ [.emit 0 65535, .emit 0 65536, .emit 0 65537])
    Fated.opened (reached.probes 0) = [(65535, 65535), (0, 65536), (1, 65537)] ∧
      (reached.clock.planes 0).evicts reached.clock.maxOutstanding = some 0 ∧
      ¬ reached.EvictsOldest := by
  have cap : ((start clock).serve (.emit 0 0)).clock.maxOutstanding = 3 :=
    ((start clock).serve_limits _).1.trans (ProbeClock.init_ok built).2.1
  have waiting : ((start clock).serve (.emit 0 0)).queue 0 = ⟨1, [(0, 0)], [(0, 0)]⟩ := by
    cases built
    rfl
  have wrapping := queue_answered (by omega) waiting (show count < 2 ^ 16 - 1 by omega)
  have last : count + 1 = 65535 := by omega
  rw [last] at wrapping
  rw [run_append, run_cons]
  exact wrapped_evicts_newer ((run_limits _ _).1.trans cap) wrapping

/-- Probes 0 and 65535 wait when the ids wrap.  The next probe takes id 0, and the place of the
first in the registry; when the plane is full it is deleted, though 65535 was emitted before. -/
theorem newer_probe_evicted :
    ∃ clock : ProbeClock 1, ProbeClock.init 1 50 3 = .ok clock ∧
      let reached := (start clock).run
        (.emit 0 0 :: answered 65534 ++ [.emit 0 65535, .emit 0 65536, .emit 0 65537])
      Fated.opened (reached.probes 0) = [(65535, 65535), (0, 65536), (1, 65537)] ∧
        (reached.clock.planes 0).evicts reached.clock.maxOutstanding = some 0 ∧
        ¬ reached.EvictsOldest := by
  obtain ⟨clock, built⟩ : ∃ clock : ProbeClock 1, ProbeClock.init 1 50 3 = .ok clock := ⟨_, rfl⟩
  exact ⟨clock, built, wrapping_run built (by decide)⟩

end Srv6Fabric.Mrc

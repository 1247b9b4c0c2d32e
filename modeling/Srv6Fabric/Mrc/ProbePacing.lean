import Srv6Fabric.Library.Pacing
import Srv6Fabric.Mrc.ProbeConservation

/-!
# How many probes are out

`_emit_loop` sends a probe on every plane in each of its rounds, and its rounds are paced;
`_sweep_loop` removes what has timed out.  Between the two a plane holds no more probes than
the rounds of one timeout and of one pause of the sweeps, so that a registry with room for
these loses none.
-/

namespace Srv6Fabric.Mrc

open Srv6Fabric.Library

variable {numPlanes : Nat}

/-! ## The rounds of `_emit_loop` -/

/-- One round: `now_ns`, and the clock when the last probe is out and once more after that. -/
structure ProbeRound where
  nowNs : Int
  reading : Int
  again : Int

/-- `next_tick` after a round. -/
def ProbeRound.nextTick (round : ProbeRound) (intervalNs nextTick : Int) : Int :=
  let sleepNs := nextTick + intervalNs - round.reading
  if sleepNs < 0 then round.again else nextTick + intervalNs

/-- The earliest the round is over: nothing wakes `wait` before its time but the end of the
loop. -/
def ProbeRound.woken (round : ProbeRound) (intervalNs nextTick : Int) : Int :=
  let sleepNs := nextTick + intervalNs - round.reading
  if sleepNs < 0 then round.again else round.reading + sleepNs

/-- The clock never goes back, from `clockNs` on, while the loop reads it. -/
def EmitTimely (intervalNs : Int) : Int → Int → List ProbeRound → Prop
  | _, _, [] => True
  | clockNs, nextTick, round :: rest =>
      clockNs ≤ round.nowNs ∧ round.nowNs ≤ round.reading ∧ round.reading ≤ round.again ∧
        EmitTimely intervalNs (round.woken intervalNs nextTick) (round.nextTick intervalNs nextTick)
          rest

theorem ProbeRound.woken_eq_nextTick (round : ProbeRound) (intervalNs tick : Int) :
    round.woken intervalNs tick = round.nextTick intervalNs tick := by
  rw [woken, ProbeRound.nextTick]
  split
  · rfl
  · omega

/-- The rounds are paced. -/
theorem EmitTimely.paced {intervalNs nextTick : Int} {rounds : List ProbeRound}
    (timely : EmitTimely intervalNs nextTick nextTick rounds) :
    Paced intervalNs nextTick (rounds.map ProbeRound.nowNs) := by
  induction rounds generalizing nextTick with
  | nil => exact .done nextTick
  | cons round rest ih =>
      obtain ⟨onTick, toRead, toRestart, timely⟩ := timely
      rw [round.woken_eq_nextTick] at timely
      have spaced : nextTick + intervalNs ≤ round.nextTick intervalNs nextTick ∧
          round.nowNs ≤ round.nextTick intervalNs nextTick := by
        rw [ProbeRound.nextTick]
        split
        · omega
        · omega
      exact .act onTick spaced.1 spaced.2 (ih timely)

/-! ## The requests of the loops -/

/-- The times of the probes of one plane. -/
def emitTimes (plane : Fin numPlanes) : List ClockRequest → List Int
  | [] => []
  | .emit target nowNs :: rest =>
      if target = (plane : Nat) then nowNs :: emitTimes plane rest else emitTimes plane rest
  | .reply .. :: rest | .sweep _ :: rest => emitTimes plane rest

/-- Emits and sweeps come in the order of the times they carry, and no emit comes more than
`gapNs` after the last sweep. -/
def Attended (gapNs : Int) : Int → Int → List ClockRequest → Prop
  | _, _, [] => True
  | sweptNs, clockNs, .emit _ nowNs :: rest =>
      clockNs ≤ nowNs ∧ nowNs ≤ sweptNs + gapNs ∧ Attended gapNs sweptNs nowNs rest
  | _, clockNs, .sweep nowNs :: rest => clockNs ≤ nowNs ∧ Attended gapNs nowNs nowNs rest
  | sweptNs, clockNs, .reply .. :: rest => Attended gapNs sweptNs clockNs rest

/-- What is out of one plane since the last sweep: nothing that was due at it, and no probe
was lost. -/
structure Swept (timeoutNs sweptNs clockNs : Int) (probes : ProbeRecords) : Prop where
  young : ∀ probe ∈ probes, probe.fate = none → sweptNs - timeoutNs < probe.item.2
  past : ∀ probe ∈ probes, probe.item.2 ≤ clockNs
  kept : ∀ probe ∈ probes, probe.fate ≠ some .evicted ∧ probe.fate ≠ some .overwritten

theorem Swept.later {timeoutNs sweptNs clockNs nowNs : Int} {probes : ProbeRecords}
    (swept : Swept timeoutNs sweptNs clockNs probes) (later : clockNs ≤ nowNs) :
    Swept timeoutNs sweptNs nowNs probes :=
  ⟨swept.young, fun probe mem => (swept.past probe mem).trans later, swept.kept⟩

/-- A probe emitted since the last sweep was not due at it. -/
theorem Swept.concat {timeoutNs sweptNs clockNs nowNs : Int} {probes : ProbeRecords}
    (swept : Swept timeoutNs sweptNs clockNs probes) (waits : 0 < timeoutNs)
    (afterSweep : sweptNs ≤ clockNs) (later : clockNs ≤ nowNs) (reqId : Nat) :
    Swept timeoutNs sweptNs nowNs (probes ++ [{ item := (reqId, nowNs) }]) := by
  have moved := swept.later later
  have young : sweptNs - timeoutNs < nowNs := by omega
  exact ⟨List.forall_mem_append.mpr ⟨moved.young, List.forall_mem_singleton.mpr fun _ => young⟩,
    List.forall_mem_append.mpr ⟨moved.past, List.forall_mem_singleton.mpr le_rfl⟩,
    List.forall_mem_append.mpr ⟨moved.kept, List.forall_mem_singleton.mpr ⟨nofun, nofun⟩⟩⟩

/-- Settling to another fate loses no probe. -/
theorem Swept.settle {timeoutNs sweptNs clockNs : Int} {probes : ProbeRecords}
    (swept : Swept timeoutNs sweptNs clockNs probes) (fate : ProbeClass) (isKept : fate ≠ .evicted)
    (isOwn : fate ≠ .overwritten) (test : Nat × Int → Bool) :
    Swept timeoutNs sweptNs clockNs (probes.map (Fated.settle fate test)) := by
  refine ⟨fun probe mem open_ => ?_, fun probe mem => ?_, fun probe mem => ?_⟩
  · obtain ⟨before, listed, rfl⟩ := List.mem_map.mp mem
    rw [Fated.settle_item]
    refine swept.young before listed ?_
    unfold Fated.settle at open_
    split at open_
    · cases open_
    · exact open_
  · obtain ⟨before, listed, rfl⟩ := List.mem_map.mp mem
    rw [Fated.settle_item]
    exact swept.past before listed
  · exact ⟨Fated.no_fate_of_settle isKept (fun probe mem => (swept.kept probe mem).1) probe mem,
      Fated.no_fate_of_settle isOwn (fun probe mem => (swept.kept probe mem).2) probe mem⟩

/-- The emission times of a plane's probes, which no settling changes. -/
def times (probes : ProbeRecords) : List Int := probes.map (·.item.2)

theorem times_settle (fate : ProbeClass) (test : Nat × Int → Bool) (probes : ProbeRecords) :
    times (probes.map (Fated.settle fate test)) = times probes := by
  rw [times, List.map_map]
  exact List.map_congr_left fun probe _ => congrArg Prod.snd (Fated.settle_item fate test probe)

theorem times_classifyEmit (record : PlaneClock) (cap : Nat) (nowNs : Int) (probes : ProbeRecords) :
    times (record.classifyEmit cap nowNs probes) = times probes ++ [nowNs] := by
  rw [PlaneClock.classifyEmit, times, List.map_append]
  exact congrArg (· ++ [nowNs]) ((times_settle _ _ _).trans (times_settle _ _ _))

/-! ## One emit -/

section

variable {timeoutNs intervalNs gapNs sweptNs clockNs nowNs startNs : Int} {cap : Nat}
  {record : PlaneClock} {probes : ProbeRecords}

/-- The probes that are out and the next one were all emitted in the time of a timeout and of
a pause of the sweeps. -/
theorem Balanced.few_outstanding (balanced : Balanced cap record probes)
    (swept : Swept timeoutNs sweptNs clockNs probes) (positive : 0 < intervalNs)
    (paced : Paced intervalNs startNs (times probes ++ [nowNs])) (later : clockNs ≤ nowNs)
    (recent : nowNs ≤ sweptNs + gapNs) (waits : 0 < timeoutNs) (afterSweep : sweptNs ≤ clockNs) :
    ((record.outstanding.size : Int) - 1) * intervalNs < gapNs + timeoutNs := by
  have open_ : record.outstanding.size = probes.countP fun probe => probe.fate.isNone := by
    rw [OrderedDict.size, balanced.registry.length_eq, Fated.opened, List.length_map,
      List.countP_eq_length_filter]
  have inWindow : (probes.countP fun probe => probe.fate.isNone) ≤
      (times probes).countP fun time => sweptNs - timeoutNs + 1 ≤ time ∧ time < nowNs + 1 := by
    rw [times, List.countP_map]
    refine List.countP_mono_left fun probe mem isOpen => ?_
    have young := swept.young probe mem (Option.isNone_iff_eq_none.mp isOpen)
    have past := swept.past probe mem
    simp only [Function.comp_apply, decide_eq_true_eq]
    omega
  have all : ((times probes ++ [nowNs]).countP fun time =>
        sweptNs - timeoutNs + 1 ≤ time ∧ time < nowNs + 1) =
      ((times probes).countP fun time => sweptNs - timeoutNs + 1 ≤ time ∧ time < nowNs + 1) + 1 := by
    rw [List.countP_append, List.countP_singleton, if_pos]
    simp only [decide_eq_true_eq]
    omega
  rcases Nat.eq_zero_or_pos record.outstanding.size with none | some
  · rw [none]
    push_cast
    linarith
  · have bound := paced.countP_window positive (sweptNs - timeoutNs + 1) (nowNs + 1)
      (by rw [all]; omega)
    rw [all] at bound
    have atLeast : ((record.outstanding.size : Int) - 1) ≤
        ((((times probes).countP fun time =>
          sweptNs - timeoutNs + 1 ≤ time ∧ time < nowNs + 1) + 1 : Nat) : Int) - 2 := by
      push_cast
      omega
    have spent := mul_le_mul_of_nonneg_right atLeast positive.le
    linarith

/-- The id of the next probe is none that is out. -/
theorem Balanced.fresh_id (balanced : Balanced cap record probes)
    (swept : Swept timeoutNs sweptNs clockNs probes)
    (paced : Paced intervalNs startNs (times probes ++ [nowNs]))
    (recent : nowNs ≤ sweptNs + gapNs)
    (roomy : gapNs + timeoutNs ≤ (2 ^ 16 - 1) * intervalNs) (positive : 0 < intervalNs) :
    ∀ probe ∈ probes, probe.fate = none → probe.item.1 ≠ record.nextReqId := by
  intro probe mem isOpen same
  obtain ⟨index, listed⟩ := List.getElem?_of_mem mem
  obtain ⟨inRange, isProbe⟩ := List.getElem?_eq_some_iff.mp listed
  rw [balanced.id_eq listed, balanced.next] at same
  -- between two probes of one id there are all the others
  obtain ⟨gap, wraps⟩ : ∃ gap, index + 1 + gap = probes.length ∧ 2 ^ 16 - 1 ≤ gap :=
    ⟨probes.length - index - 1, by omega, by omega⟩
  have length : (times probes).length = probes.length := List.length_map _
  obtain ⟨inTimes, lastInTimes⟩ : index < (times probes ++ [nowNs]).length ∧
      index + 1 + gap < (times probes ++ [nowNs]).length := by
    rw [List.length_append, length, List.length_singleton]
    omega
  have bound := paced.getElem_add_le index gap lastInTimes
  have first : (times probes ++ [nowNs])[index] = probe.item.2 := by
    rw [List.getElem_append_left (by omega), ← isProbe]
    simp [times]
  have last : (times probes ++ [nowNs])[index + 1 + gap] = nowNs := by
    rw [List.getElem_append_right (by omega)]
    simp
  rw [first, last] at bound
  have young := swept.young probe mem isOpen
  have long : ((2 ^ 16 - 1 : Nat) : Int) ≤ gap := by exact_mod_cast wraps.2
  have spent := mul_le_mul_of_nonneg_right long positive.le
  push_cast at spent
  linarith

end

/-- An emit that finds room and a free id loses no probe. -/
theorem PlaneClock.classifyEmit_of_free {record : PlaneClock} {cap : Nat} {probes : ProbeRecords}
    (free : ¬ cap ≤ record.outstanding.size)
    (fresh : ∀ probe ∈ probes, probe.fate = none → probe.item.1 ≠ record.nextReqId) (nowNs : Int) :
    record.classifyEmit cap nowNs probes = probes ++ [{ item := (record.nextReqId, nowNs) }] := by
  have none : record.evicts cap = none := if_neg free
  have evicts : probes.map (Fated.settle .evicted fun probe => probe.1 ∈ record.evicts cap) =
      probes := Fated.map_settle_eq_self (by simp [none])
  have recycles : probes.map (Fated.settle .overwritten fun probe => probe.1 = record.nextReqId) =
      probes := Fated.map_settle_eq_self (by simpa using fresh)
  rw [classifyEmit, evicts, recycles]

/-! ## Runs -/

namespace ClassifiedClock

/-- What an emit does to each plane. -/
theorem serve_emit (state : ClassifiedClock numPlanes) (target nowNs : Int) (plane : Fin numPlanes) :
    if target = (plane : Nat) then
      (state.serve (.emit target nowNs)).clock.planes plane =
          (state.clock.planes plane).emit state.clock.maxOutstanding nowNs ∧
        (state.serve (.emit target nowNs)).probes plane =
          (state.clock.planes plane).classifyEmit state.clock.maxOutstanding nowNs
            (state.probes plane)
    else
      (state.serve (.emit target nowNs)).clock.planes plane = state.clock.planes plane ∧
        (state.serve (.emit target nowNs)).probes plane = state.probes plane := by
  rcases state.clock.emit_cases target nowNs with ⟨error, raised⟩ | ⟨index, rfl, returned⟩
  · have unknown : target ≠ (plane : Nat) := by
      rintro rfl
      rw [ProbeClock.emit, checkPlane_fin] at raised
      cases raised
    rw [if_neg unknown]
    simp only [ClassifiedClock.serve, ProbeClock.serve, classify, raised, and_self]
  · simp only [ClassifiedClock.serve, ProbeClock.serve, classify, returned, setPlane_planes,
      Int.natCast_inj, Fin.val_inj]
    by_cases here : index = plane
    · subst here
      rw [if_pos rfl, if_pos rfl, if_pos rfl]
      exact ⟨rfl, rfl⟩
    · rw [if_neg here, if_neg (Ne.symm here), if_neg (Ne.symm here)]
      exact ⟨rfl, rfl⟩

/-- Every plane since the last sweep, and how much is out of it. -/
structure Tended (state : ClassifiedClock numPlanes) (intervalNs gapNs sweptNs clockNs : Int) :
    Prop where
  afterSweep : sweptNs ≤ clockNs
  swept : ∀ plane, Swept state.clock.probeTimeoutNs sweptNs clockNs (state.probes plane)
  few : ∀ plane, (((state.clock.outstanding plane).size : Int) - 2) * intervalNs <
    gapNs + state.clock.probeTimeoutNs

/-- A clock whose limits leave room for the rounds of a timeout and a pause. -/
structure Roomy (state : ClassifiedClock numPlanes) (intervalNs gapNs : Int) : Prop where
  positive : 0 < intervalNs
  waits : 0 < state.clock.probeTimeoutNs
  ids : gapNs + state.clock.probeTimeoutNs ≤ (2 ^ 16 - 1) * intervalNs
  cap : gapNs + state.clock.probeTimeoutNs ≤ (state.clock.maxOutstanding - 1) * intervalNs

variable {state : ClassifiedClock numPlanes} {intervalNs gapNs sweptNs clockNs startNs : Int}

theorem Roomy.serve (roomy : state.Roomy intervalNs gapNs) (request : ClockRequest) :
    (state.serve request).Roomy intervalNs gapNs := by
  obtain ⟨sameCap, sameTimeout⟩ := state.serve_limits request
  exact ⟨roomy.positive, sameTimeout ▸ roomy.waits, sameTimeout ▸ roomy.ids,
    sameTimeout ▸ sameCap ▸ roomy.cap⟩

/-- As many probes as fit between two sweeps leave room for one more. -/
theorem Roomy.has_room (roomy : state.Roomy intervalNs gapNs) {size : Nat}
    (few : ((size : Int) - 1) * intervalNs < gapNs + state.clock.probeTimeoutNs) :
    ¬ state.clock.maxOutstanding ≤ size := by
  intro full
  have atLeast : (state.clock.maxOutstanding : Int) - 1 ≤ (size : Int) - 1 := by
    have full : (state.clock.maxOutstanding : Int) ≤ size := by exact_mod_cast full
    linarith
  have spent := mul_le_mul_of_nonneg_right atLeast roomy.positive.le
  have cap := roomy.cap
  linarith

/-- An emit in time finds room and a free id, and loses no probe. -/
theorem Tended.emit (tended : state.Tended intervalNs gapNs sweptNs clockNs) (sound : state.Sound)
    (roomy : state.Roomy intervalNs gapNs) {target nowNs : Int} (later : clockNs ≤ nowNs)
    (recent : nowNs ≤ sweptNs + gapNs)
    (paced : ∀ plane : Fin numPlanes, target = (plane : Nat) →
      Paced intervalNs startNs (times (state.probes plane) ++ [nowNs])) :
    (state.serve (.emit target nowNs)).Tended intervalNs gapNs sweptNs nowNs := by
  obtain ⟨-, sameTimeout⟩ := state.serve_limits (.emit target nowNs)
  have onPlane (plane : Fin numPlanes) :
      Swept state.clock.probeTimeoutNs sweptNs nowNs
          ((state.serve (.emit target nowNs)).probes plane) ∧
        ((((state.serve (.emit target nowNs)).clock.outstanding plane).size : Int) - 2) * intervalNs <
          gapNs + state.clock.probeTimeoutNs := by
    have before := tended.swept plane
    have served := state.serve_emit target nowNs plane
    split at served
    · next here =>
      obtain ⟨emits, classified⟩ := served
      have balanced := sound.balanced plane
      have few := balanced.few_outstanding before roomy.positive (paced plane here) later recent
        roomy.waits tended.afterSweep
      have free := roomy.has_room few
      have fresh := balanced.fresh_id before (paced plane here) recent roomy.ids roomy.positive
      rw [classified, PlaneClock.classifyEmit_of_free free fresh]
      refine ⟨before.concat roomy.waits tended.afterSweep later _, ?_⟩
      have size : ((state.serve (.emit target nowNs)).clock.outstanding plane).size ≤
          (state.clock.planes plane).outstanding.size + 1 := by
        rw [ProbeClock.outstanding, emits, PlaneClock.emit, if_neg free]
        exact OrderedDict.size_set_le _ _ _
      have atMost : ((((state.serve (.emit target nowNs)).clock.outstanding plane).size : Int) - 2) ≤
          ((state.clock.planes plane).outstanding.size : Int) - 1 := by
        have size : (((state.serve (.emit target nowNs)).clock.outstanding plane).size : Int) ≤
          ((state.clock.planes plane).outstanding.size : Int) + 1 := by exact_mod_cast size
        linarith
      have spent := mul_le_mul_of_nonneg_right atMost roomy.positive.le
      linarith
    · next away =>
      obtain ⟨same, sameProbes⟩ := served
      rw [sameProbes, ProbeClock.outstanding, same]
      exact ⟨before.later later, tended.few plane⟩
  exact ⟨tended.afterSweep.trans later, fun plane => sameTimeout ▸ (onPlane plane).1,
    fun plane => sameTimeout ▸ (onPlane plane).2⟩

/-- An answer loses no probe. -/
theorem Tended.reply (tended : state.Tended intervalNs gapNs sweptNs clockNs)
    (roomy : state.Roomy intervalNs gapNs) (reqId target replyTxNs nowNs : Int) :
    (state.serve (.reply reqId target replyTxNs nowNs)).Tended intervalNs gapNs sweptNs clockNs ∧
      ∀ plane, times ((state.serve (.reply reqId target replyTxNs nowNs)).probes plane) =
        times (state.probes plane) := by
  obtain ⟨-, sameTimeout⟩ := state.serve_limits (.reply reqId target replyTxNs nowNs)
  have onPlane (plane : Fin numPlanes) :
      Swept state.clock.probeTimeoutNs sweptNs clockNs
          ((state.serve (.reply reqId target replyTxNs nowNs)).probes plane) ∧
        ((state.serve (.reply reqId target replyTxNs nowNs)).clock.outstanding plane).size ≤
          (state.clock.outstanding plane).size ∧
        times ((state.serve (.reply reqId target replyTxNs nowNs)).probes plane) =
          times (state.probes plane) := by
    rcases state.clock.matchReplyAny_cases reqId target replyTxNs nowNs with
      ⟨error, raised⟩ | stale | ⟨index, key, rfl, rfl, found, matched⟩
    · simp only [ClassifiedClock.serve, ProbeClock.serve, classify, raised]
      exact ⟨tended.swept plane, le_rfl, trivial⟩
    · simp only [ClassifiedClock.serve, ProbeClock.serve, classify, stale]
      exact ⟨tended.swept plane, le_rfl, trivial⟩
    · simp only [ClassifiedClock.serve, ProbeClock.serve, classify, matched,
        ProbeClock.setPlane_outstanding, Int.natCast_inj, Fin.val_inj]
      by_cases here : plane = index
      · subst here
        rw [if_pos rfl, if_pos rfl]
        exact ⟨(tended.swept plane).settle _ (by decide) (by decide) _,
          List.length_filter_le _ _, times_settle _ _ _⟩
      · rw [if_neg here, if_neg here]
        exact ⟨tended.swept plane, le_rfl, rfl⟩
  refine ⟨⟨tended.afterSweep, fun plane => sameTimeout ▸ (onPlane plane).1, fun plane => ?_⟩,
    fun plane => (onPlane plane).2.2⟩
  rw [sameTimeout]
  have fewer : ((((state.serve (.reply reqId target replyTxNs nowNs)).clock.outstanding plane).size :
      Nat) : Int) - 2 ≤ ((state.clock.outstanding plane).size : Int) - 2 := by
    have fewer := (onPlane plane).2.1
    omega
  have spent := mul_le_mul_of_nonneg_right fewer roomy.positive.le
  have few := tended.few plane
  linarith

/-- After a sweep nothing is out that was due at it. -/
theorem Tended.sweep (tended : state.Tended intervalNs gapNs sweptNs clockNs)
    (roomy : state.Roomy intervalNs gapNs) {nowNs : Int} (later : clockNs ≤ nowNs) :
    (state.serve (.sweep nowNs)).Tended intervalNs gapNs nowNs nowNs ∧
      ∀ plane, times ((state.serve (.sweep nowNs)).probes plane) = times (state.probes plane) := by
  refine ⟨⟨le_rfl, fun plane => ?_, fun plane => ?_⟩, fun plane => times_settle _ _ _⟩
  · have settled := (tended.swept plane).settle .timedOut (by decide) (by decide)
      fun probe => probe.2 ≤ nowNs - state.clock.probeTimeoutNs
    refine ⟨fun probe mem isOpen => ?_, fun probe mem => (settled.past probe mem).trans later,
      settled.kept⟩
    obtain ⟨before, listed, rfl⟩ := List.mem_map.mp mem
    rw [Fated.settle_item]
    rw [Fated.settle] at isOpen
    split at isOpen
    · cases isOpen
    · next passed =>
      have notDue : ¬ before.item.2 ≤ nowNs - state.clock.probeTimeoutNs := by
        simpa [isOpen] using passed
      exact not_le.mp notDue
  · have fewer : ((((state.serve (.sweep nowNs)).clock.outstanding plane).size : Nat) : Int) - 2 ≤
        ((state.clock.outstanding plane).size : Int) - 2 := by
      have fewer : ((state.serve (.sweep nowNs)).clock.outstanding plane).size ≤
        (state.clock.outstanding plane).size := List.length_filter_le _ _
      omega
    have spent := mul_le_mul_of_nonneg_right fewer roomy.positive.le
    have few := tended.few plane
    change _ < gapNs + state.clock.probeTimeoutNs
    linarith

/-- Along the requests of paced rounds and regular sweeps no probe is lost. -/
theorem Tended.run (tended : state.Tended intervalNs gapNs sweptNs clockNs) (sound : state.Sound)
    (roomy : state.Roomy intervalNs gapNs) {requests : List ClockRequest}
    (attended : Attended gapNs sweptNs clockNs requests)
    (paced : ∀ plane, Paced intervalNs startNs
      (times (state.probes plane) ++ emitTimes plane requests)) :
    ∃ lastNs endNs, (state.run requests).Tended intervalNs gapNs lastNs endNs := by
  induction requests generalizing state sweptNs clockNs with
  | nil => exact ⟨sweptNs, clockNs, tended⟩
  | cons request rest ih =>
      cases request with
      | emit target nowNs =>
          obtain ⟨later, recent, attended⟩ := attended
          have here : ∀ plane : Fin numPlanes, target = (plane : Nat) →
              Paced intervalNs startNs (times (state.probes plane) ++ [nowNs]) := by
            rintro plane rfl
            have whole := paced plane
            rw [emitTimes, if_pos rfl, List.append_cons] at whole
            exact whole.of_append
          refine ih (tended.emit sound roomy later recent here) (sound.serve _) (roomy.serve _)
            attended fun plane => ?_
          have whole := paced plane
          have served := state.serve_emit target nowNs plane
          split at served
          · next isTarget =>
            rw [emitTimes, if_pos isTarget, List.append_cons] at whole
            rw [served.2, times_classifyEmit]
            exact whole
          · next isOther =>
            rw [emitTimes, if_neg isOther] at whole
            rw [served.2]
            exact whole
      | reply reqId target replyTxNs nowNs =>
          obtain ⟨tended, sameTimes⟩ := tended.reply roomy reqId target replyTxNs nowNs
          refine ih tended (sound.serve _) (roomy.serve _) attended fun plane => ?_
          rw [sameTimes]
          exact paced plane
      | sweep nowNs =>
          obtain ⟨later, attended⟩ := attended
          obtain ⟨tended, sameTimes⟩ := tended.sweep roomy later
          refine ih tended (sound.serve _) (roomy.serve _) attended fun plane => ?_
          rw [sameTimes]
          exact paced plane

/-- Paced rounds and regular sweeps, from a clock just built. -/
theorem tended_run {timeoutNs cap intervalNs gapNs startNs : Int} {clock : ProbeClock numPlanes}
    (built : ProbeClock.init numPlanes timeoutNs cap = .ok clock) {rounds : List ProbeRound}
    (positive : 0 < intervalNs) (timely : EmitTimely intervalNs startNs startNs rounds)
    {requests : List ClockRequest}
    (emitted : ∀ plane : Fin numPlanes, emitTimes plane requests <+: rounds.map ProbeRound.nowNs)
    (forward : 0 ≤ gapNs) (attended : Attended gapNs startNs startNs requests)
    (roomy : gapNs + timeoutNs ≤ (min cap (2 ^ 16) - 1) * intervalNs) :
    ∃ lastNs endNs, ((start clock).run requests).Tended intervalNs gapNs lastNs endNs := by
  obtain ⟨isCap, capEq, timeoutEq, blank⟩ := ProbeClock.init_ok built
  have waits : 0 < timeoutNs := by
    rw [ProbeClock.init] at built
    split_ifs at built with _ late
    exact not_le.mp late
  have initially : (start clock).Tended intervalNs gapNs startNs startNs := by
    refine ⟨le_rfl, fun plane => ⟨?_, ?_, ?_⟩, fun plane => ?_⟩
    · exact fun probe mem => absurd mem List.not_mem_nil
    · exact fun probe mem => absurd mem List.not_mem_nil
    · exact fun probe mem => absurd mem List.not_mem_nil
    · change (((clock.planes plane).outstanding.size : Int) - 2) * intervalNs <
        gapNs + clock.probeTimeoutNs
      rw [blank, timeoutEq]
      change ((0 : Int) - 2) * intervalNs < gapNs + timeoutNs
      linarith
  have limits : (start clock).Roomy intervalNs gapNs := by
    have small := mul_le_mul_of_nonneg_right (sub_le_sub_right (min_le_right cap (2 ^ 16)) 1)
      positive.le
    have fits := mul_le_mul_of_nonneg_right (sub_le_sub_right (min_le_left cap (2 ^ 16)) 1)
      positive.le
    refine ⟨positive, ?_, ?_, ?_⟩
    · change 0 < clock.probeTimeoutNs
      rwa [timeoutEq]
    · change gapNs + clock.probeTimeoutNs ≤ _
      rw [timeoutEq]
      exact roomy.trans small
    · change gapNs + clock.probeTimeoutNs ≤ ((clock.maxOutstanding : Int) - 1) * intervalNs
      rw [timeoutEq, capEq, Int.toNat_of_nonneg isCap.le]
      exact roomy.trans fits
  have paced : ∀ plane, Paced intervalNs startNs
      (times ((start clock).probes plane) ++ emitTimes plane requests) := by
    intro plane
    obtain ⟨more, isPrefix⟩ := emitted plane
    have whole := timely.paced
    rw [← isPrefix] at whole
    exact whole.of_append
  exact initially.run (sound_start built) limits attended paced

end ClassifiedClock

open ClassifiedClock

/-- With a cap for the rounds of one timeout and one pause of the sweeps, no probe of a paced
emit loop is ever dropped to make room or for its id: each is answered, times out, or is still
out, and few are. -/
theorem no_probe_dropped {timeoutNs cap intervalNs gapNs startNs : Int} {clock : ProbeClock numPlanes}
    (built : ProbeClock.init numPlanes timeoutNs cap = .ok clock) {rounds : List ProbeRound}
    (positive : 0 < intervalNs) (timely : EmitTimely intervalNs startNs startNs rounds)
    {requests : List ClockRequest}
    (emitted : ∀ plane : Fin numPlanes, emitTimes plane requests <+: rounds.map ProbeRound.nowNs)
    (forward : 0 ≤ gapNs) (attended : Attended gapNs startNs startNs requests)
    (roomy : gapNs + timeoutNs ≤ (min cap (2 ^ 16) - 1) * intervalNs) (plane : Fin numPlanes) :
    let reached := (start clock).run requests
    (∀ probe ∈ reached.probes plane,
        probe.fate ≠ some .evicted ∧ probe.fate ≠ some .overwritten) ∧
      (reached.clock.planes plane).emitCount =
        (reached.clock.planes plane).outstanding.size + (reached.clock.planes plane).replyCount +
          (reached.clock.planes plane).timeoutCount ∧
      (((reached.clock.outstanding plane).size : Int) - 2) * intervalNs < gapNs + timeoutNs := by
  intro reached
  obtain ⟨lastNs, endNs, tended⟩ :=
    tended_run built positive timely emitted forward attended roomy
  have timeoutEq : clock.probeTimeoutNs = timeoutNs := (ProbeClock.init_ok built).2.2.1
  have kept := (tended.swept plane).kept
  have balanced := ((sound_start built).run requests).balanced plane
  have sameTimeout := ((start clock).run_limits requests).2
  refine ⟨kept, ?_, ?_⟩
  · have none (fate : ProbeClass) (lost : ∀ probe ∈ reached.probes plane, probe.fate ≠ some fate) :
        Fated.count fate (reached.probes plane) = 0 :=
      List.countP_eq_zero.mpr fun probe mem => by simpa using lost probe mem
    rw [balanced.emitted, balanced.replied, balanced.timedOut, length_eq_classes,
      ← balanced.registry.length_eq]
    change _ + Fated.count .evicted (reached.probes plane) +
      Fated.count .overwritten (reached.probes plane) = _
    rw [none .evicted fun probe mem => (kept probe mem).1,
      none .overwritten fun probe mem => (kept probe mem).2]
    rfl
  · have few := tended.few plane
    rw [sameTimeout] at few
    change _ < gapNs + clock.probeTimeoutNs at few
    rwa [timeoutEq] at few

/-- Two rounds ten apart and a sweep between them, with the first probe answered. -/
theorem no_probe_dropped_of_two :
    ∃ clock : ProbeClock 1, ProbeClock.init 1 50 256 = .ok clock ∧
      let reached := (start clock).run [.emit 0 0, .sweep 10, .emit 0 10, .reply 0 0 0 12]
      (reached.clock.planes 0).emitCount =
          (reached.clock.planes 0).outstanding.size + (reached.clock.planes 0).replyCount +
            (reached.clock.planes 0).timeoutCount ∧
        (((reached.clock.outstanding 0).size : Int) - 2) * 10 < 10 + 50 := by
  obtain ⟨clock, built⟩ : ∃ clock : ProbeClock 1, ProbeClock.init 1 50 256 = .ok clock := ⟨_, rfl⟩
  have timely : EmitTimely 10 0 0 [⟨0, 0, 0⟩, ⟨10, 10, 10⟩] := by
    simp only [EmitTimely]
    decide
  have attended : Attended 10 0 0 [.emit 0 0, .sweep 10, .emit 0 10, .reply 0 0 0 12] := by
    simp only [Attended]
    decide
  have emitted : ∀ plane : Fin 1, emitTimes plane [.emit 0 0, .sweep 10, .emit 0 10,
      .reply 0 0 0 12] <+: [(⟨0, 0, 0⟩ : ProbeRound), ⟨10, 10, 10⟩].map ProbeRound.nowNs := by
    decide
  exact ⟨clock, built, (no_probe_dropped built (by decide) timely emitted (by decide) attended
    (by decide) 0).2⟩

end Srv6Fabric.Mrc

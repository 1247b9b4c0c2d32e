import Srv6Fabric.Mrc.ProbeLedger

/-!
# When the probe timeout takes effect

Only a sweep enforces the timeout: until one has run past a probe's deadline, the probe
is still there to be answered late, and to be counted against the plane's bound.  A run
in which neither happens does not depend on when its sweeps run.
-/

namespace Srv6Fabric.Mrc

open Srv6Fabric.Library

variable {numPlanes : Nat}

namespace ClockRun

/-- No outstanding probe of the plane has passed its deadline. -/
def NothingOverdue (run : ClockRun numPlanes) (plane : Fin numPlanes) (nowNs : Int) : Prop :=
  ∀ entry ∈ (run.clock.outstanding plane).entries, nowNs < entry.2 + run.clock.probeTimeoutNs

instance (run : ClockRun numPlanes) (plane : Fin numPlanes) (nowNs : Int) :
    Decidable (run.NothingOverdue plane nowNs) :=
  inferInstanceAs (Decidable (∀ entry ∈ (run.clock.outstanding plane).entries,
    nowNs < entry.2 + run.clock.probeTimeoutNs))

/-- A reply is not for an outstanding probe that has passed its deadline. -/
def inTime (run : ClockRun numPlanes) : ClockCall numPlanes → Bool
  | .reply reqId plane txNs nowNs =>
      decide (∀ index : Fin numPlanes, (index : Nat) = plane →
        (run.clock.outstanding index).find? reqId = some txNs →
          nowNs < txNs + run.clock.probeTimeoutNs)
  | _ => true

/-- An emit that takes an id from an outstanding probe finds none that has passed its
deadline. -/
def roomy (run : ClockRun numPlanes) : ClockCall numPlanes → Bool
  | .emit plane nowNs =>
      decide ((∃ entry ∈ (run.clock.outstanding plane).entries,
        entry.1 ∈ (run.clock.planes plane).displaces run.clock.maxOutstanding) →
          run.NothingOverdue plane nowNs)
  | _ => true

/-- The deadline is kept whether or not a sweep has run. -/
def punctual (run : ClockRun numPlanes) (call : ClockCall numPlanes) : Bool :=
  run.inTime call && run.roomy call

end ClockRun

/-! ## Late answers -/

/-- The probe was answered before its deadline, if it was answered. -/
def SentProbe.AnsweredInTime (timeoutNs : Int) (probe : SentProbe) : Prop :=
  ∀ rttNs, probe.fate = .answered rttNs → rttNs < timeoutNs

theorem SentProbe.answeredInTime_resolve (fate : ProbeFate) {timeoutNs : Int}
    (harmless : ∀ rttNs, fate = .answered rttNs → rttNs < timeoutNs) (test : Nat × Int → Bool)
    (probe : SentProbe) :
    (probe.resolve fate test).AnsweredInTime timeoutNs ↔ probe.AnsweredInTime timeoutNs := by
  unfold resolve
  split
  · next hit =>
    have waits : probe.AnsweredInTime timeoutNs := fun rttNs answered => by
      rw [hit.1] at answered
      cases answered
    exact iff_of_true harmless waits
  · exact Iff.rfl

namespace ClockRun

/-- Every probe of the history that was answered was answered before its deadline. -/
def AllInTime (run : ClockRun numPlanes) : Prop :=
  ∀ plane, ∀ probe ∈ run.history plane, probe.AnsweredInTime run.clock.probeTimeoutNs

theorem next_eq {run next : ClockRun numPlanes} {call : ClockCall numPlanes}
    (stepped : run.next call = some next) :
    run.nowNs ≤ call.nowNs ∧
      next = ⟨run.clock.after call, call.nowNs, run.history.after run.clock call⟩ := by
  unfold ClockRun.next at stepped
  split at stepped
  · next later => exact ⟨later, (Option.some.inj stepped).symm⟩
  · cases stepped

theorem timeout_after (clock : ProbeClock numPlanes) (call : ClockCall numPlanes) :
    (clock.after call).probeTimeoutNs = clock.probeTimeoutNs ∧
      (clock.after call).maxOutstanding = clock.maxOutstanding := by
  cases call with
  | emit plane nowNs =>
      rw [clock.after_emit]
      exact ⟨rfl, rfl⟩
  | reply reqId plane txNs nowNs =>
      rcases clock.matchReply_cases reqId plane txNs nowNs with
        ⟨error, raised⟩ | stale | ⟨index, -, -, matched⟩
      · simp [ProbeClock.after, raised]
      · simp [ProbeClock.after, stale]
      · simp [ProbeClock.after, matched, ProbeClock.setPlane]
  | sweep nowNs => exact ⟨rfl, rfl⟩

theorem inTime_of_unmatched {run : ClockRun numPlanes} {reqId : Nat} {plane txNs nowNs : Int}
    (unmatched : ∀ next rttNs, run.clock.matchReply reqId plane txNs nowNs ≠ .ok (next, some rttNs)) :
    run.inTime (.reply reqId plane txNs nowNs) := by
  refine decide_eq_true fun index here found => ?_
  exact absurd (by rw [← here, run.clock.matchReply_fin, if_pos found]) (unmatched _ _)

/-- A step keeps all answers in time exactly when its own reply is. -/
theorem allInTime_next {run next : ClockRun numPlanes} {call : ClockCall numPlanes}
    (tracks : Tracks run.clock run.history) (stepped : run.next call = some next) :
    next.AllInTime ↔ run.AllInTime ∧ run.inTime call := by
  obtain ⟨-, rfl⟩ := next_eq stepped
  simp only [AllInTime, (timeout_after run.clock call).1]
  cases call with
  | emit plane nowNs =>
      simp only [inTime, and_true]
      refine forall_congr' fun other => ?_
      simp only [ProbeHistory.after, Function.update_apply]
      split
      · next here =>
        subst here
        have fresh : SentProbe.AnsweredInTime run.clock.probeTimeoutNs
            { reqId := (run.clock.planes other).nextReqId, txNs := nowNs } :=
          fun rttNs answered => by cases answered
        simp only [List.forall_mem_append, List.forall_mem_map, List.forall_mem_singleton, fresh,
          and_true, SentProbe.answeredInTime_resolve .displaced (by simp)]
      · exact Iff.rfl
  | reply reqId plane txNs nowNs =>
      rcases run.clock.matchReply_cases reqId plane txNs nowNs with
        ⟨error, raised⟩ | stale | ⟨index, rfl, found, matched⟩
      · have unmatched : run.inTime (.reply reqId plane txNs nowNs) :=
          inTime_of_unmatched (by simp [raised])
        simp only [ProbeHistory.after, raised, unmatched, and_true]
      · have unmatched : run.inTime (.reply reqId plane txNs nowNs) :=
          inTime_of_unmatched (by simp [stale])
        simp only [ProbeHistory.after, stale, unmatched, and_true]
      · -- The probe that is answered is in the history of the plane.
        obtain ⟨probe, member, waits, entry⟩ := (tracks.find?_iff index reqId txNs).mp found
        have inTime_iff : run.inTime (.reply reqId (index : Nat) txNs nowNs) ↔
            nowNs - txNs < run.clock.probeTimeoutNs := by
          simp only [inTime, decide_eq_true_eq]
          constructor
          · intro all
            have here := all index rfl found
            omega
          · intro early other same held
            omega
        rw [inTime_iff]
        simp only [ProbeHistory.after, matched, Int.natCast_inj, Fin.val_inj]
        by_cases early : nowNs - txNs < run.clock.probeTimeoutNs
        · have harmless : ∀ rttNs, ProbeFate.answered (nowNs - txNs) = .answered rttNs →
              rttNs < run.clock.probeTimeoutNs := by
            rintro rttNs ⟨rfl⟩
            exact early
          simp only [early, and_true]
          refine forall_congr' fun other => ?_
          split
          · simp only [List.forall_mem_map, SentProbe.answeredInTime_resolve _ harmless]
          · exact Iff.rfl
        · refine iff_of_false (fun all => early ?_) fun both => early both.2
          have hit : probe.fate = .waiting ∧ decide (probe.entry.1 = reqId) :=
            ⟨waits, decide_eq_true (by rw [entry])⟩
          have late := all index (probe.resolve (.answered (nowNs - txNs)) fun entry =>
            entry.1 = reqId) (by rw [if_pos rfl]; exact List.mem_map_of_mem member)
          rw [SentProbe.resolve, if_pos hit] at late
          exact late _ rfl
  | sweep nowNs =>
      simp only [inTime, and_true, ProbeHistory.after, List.forall_mem_map,
        SentProbe.answeredInTime_resolve .timedOut (by simp)]

end ClockRun

/-! ## Two runs that differ in their sweeps -/

/-- The entries a sweep with this deadline would leave. -/
def freshEntries (deadlineNs : Int) (entries : List (Nat × Int)) : List (Nat × Int) :=
  entries.filter fun entry => !decide (entry.2 ≤ deadlineNs)

/-- The history a sweep with this deadline would leave. -/
def settled (deadlineNs : Int) (probes : List SentProbe) : List SentProbe :=
  probes.map (SentProbe.resolve .timedOut fun entry => entry.2 ≤ deadlineNs)

theorem freshEntries_freshEntries {earlier later : Int} (ordered : earlier ≤ later)
    (entries : List (Nat × Int)) :
    freshEntries later (freshEntries earlier entries) = freshEntries later entries := by
  rw [freshEntries, freshEntries, List.filter_filter]
  refine List.filter_congr fun entry _ => ?_
  rw [Bool.eq_iff_iff]
  simp only [Bool.and_eq_true, Bool.not_eq_true', decide_eq_false_iff_not, and_iff_left_iff_imp]
  omega

theorem resolve_settled {earlier later : Int} (ordered : earlier ≤ later) (probe : SentProbe) :
    (probe.resolve .timedOut fun entry => entry.2 ≤ earlier).resolve .timedOut
        (fun entry => entry.2 ≤ later) =
      probe.resolve .timedOut fun entry => entry.2 ≤ later := by
  by_cases waits : probe.fate = .waiting
  · by_cases due : probe.entry.2 ≤ earlier
    · have dueLater : probe.entry.2 ≤ later := le_trans due ordered
      simp [SentProbe.resolve, waits, due, dueLater]
    · simp [SentProbe.resolve, waits, due]
  · simp [SentProbe.resolve, waits]

theorem settled_settled {earlier later : Int} (ordered : earlier ≤ later)
    (probes : List SentProbe) : settled later (settled earlier probes) = settled later probes := by
  rw [settled, settled, List.map_map]
  exact List.map_congr_left fun probe _ => resolve_settled ordered probe

/-- The calls that are not sweeps. -/
def ClockCall.outside : ClockCall numPlanes → Bool
  | .sweep _ => false
  | _ => true

/-- Two runs agree when any sweep from now on would leave them alike. -/
structure Agree (run other : ClockRun numPlanes) : Prop where
  timeoutNs : run.clock.probeTimeoutNs = other.clock.probeTimeoutNs
  maxOutstanding : run.clock.maxOutstanding = other.clock.maxOutstanding
  nextReqId : ∀ plane,
    (run.clock.planes plane).nextReqId = (other.clock.planes plane).nextReqId
  outstanding : ∀ nowNs, run.nowNs ≤ nowNs → other.nowNs ≤ nowNs → ∀ plane,
    freshEntries (nowNs - run.clock.probeTimeoutNs) (run.clock.outstanding plane).entries =
      freshEntries (nowNs - run.clock.probeTimeoutNs) (other.clock.outstanding plane).entries
  history : ∀ nowNs, run.nowNs ≤ nowNs → other.nowNs ≤ nowNs → ∀ plane,
    settled (nowNs - run.clock.probeTimeoutNs) (run.history plane) =
      settled (nowNs - run.clock.probeTimeoutNs) (other.history plane)

namespace Agree

variable {run next other otherNext : ClockRun numPlanes}

theorem refl (run : ClockRun numPlanes) : Agree run run :=
  ⟨rfl, rfl, fun _ => rfl, fun _ _ _ _ => rfl, fun _ _ _ _ => rfl⟩

theorem symm (agree : Agree run other) : Agree other run := by
  obtain ⟨timeoutNs, maxOutstanding, nextReqId, outstanding, history⟩ := agree
  refine ⟨timeoutNs.symm, maxOutstanding.symm, fun plane => (nextReqId plane).symm, ?_, ?_⟩
  · intro nowNs first second plane
    rw [← timeoutNs]
    exact (outstanding nowNs second first plane).symm
  · intro nowNs first second plane
    rw [← timeoutNs]
    exact (history nowNs second first plane).symm

/-- A sweep of one of the runs changes nothing that a later sweep would not. -/
theorem sweep (agree : Agree run other) {nowNs : Int}
    (stepped : run.next (.sweep nowNs) = some next) : Agree next other := by
  obtain ⟨later, rfl⟩ := ClockRun.next_eq stepped
  refine ⟨agree.timeoutNs, agree.maxOutstanding, agree.nextReqId, ?_, ?_⟩
  · intro further here there plane
    exact (freshEntries_freshEntries (Int.sub_le_sub_right here _) _).trans
      (agree.outstanding further (le_trans later here) there plane)
  · intro further here there plane
    exact (settled_settled (Int.sub_le_sub_right here _) _).trans
      (agree.history further (le_trans later here) there plane)

/-- The same entry is found in both, if its deadline has not passed. -/
theorem find?_of_find? (agree : Agree run other) {nowNs : Int} (later : run.nowNs ≤ nowNs)
    (otherLater : other.nowNs ≤ nowNs) {plane : Fin numPlanes} {reqId : Nat} {txNs : Int}
    (found : (run.clock.outstanding plane).find? reqId = some txNs)
    (early : nowNs < txNs + run.clock.probeTimeoutNs) :
    (other.clock.outstanding plane).find? reqId = some txNs := by
  rw [OrderedDict.find?_eq_some_iff] at found ⊢
  have fresh : (reqId, txNs) ∈
      freshEntries (nowNs - run.clock.probeTimeoutNs) (run.clock.outstanding plane).entries := by
    refine List.mem_filter.mpr ⟨found, ?_⟩
    simp only [Bool.not_eq_true', decide_eq_false_iff_not]
    omega
  rw [agree.outstanding nowNs later otherLater plane] at fresh
  exact List.mem_of_mem_filter fresh

/-- Without overdue entries a sweep would leave the plane as it is. -/
theorem fresh_of_nothingOverdue {plane : Fin numPlanes} {nowNs : Int}
    (nothing : run.NothingOverdue plane nowNs) :
    freshEntries (nowNs - run.clock.probeTimeoutNs) (run.clock.outstanding plane).entries =
      (run.clock.outstanding plane).entries := by
  refine List.filter_eq_self.mpr fun entry mem => ?_
  have early := nothing entry mem
  simp only [Bool.not_eq_true', decide_eq_false_iff_not]
  omega

theorem settled_of_nothingOverdue (tracks : Tracks run.clock run.history)
    {plane : Fin numPlanes} {nowNs : Int} (nothing : run.NothingOverdue plane nowNs) :
    settled (nowNs - run.clock.probeTimeoutNs) (run.history plane) = run.history plane := by
  refine (List.map_congr_left fun probe mem => ?_).trans (List.map_id _)
  rw [SentProbe.resolve, if_neg]
  · rfl
  · rintro ⟨waits, due⟩
    have held := (tracks plane).mem_iff.mpr (mem_waitingEntries.mpr ⟨probe, mem, waits, rfl⟩)
    have early := nothing _ held
    have late := of_decide_eq_true due
    omega

/-- An emit that takes an id from a plane takes one from any plane that holds more. -/
theorem displaces_of_sublist {record more : PlaneClock} {maxOutstanding : Nat}
    (nextReqId : record.nextReqId = more.nextReqId)
    (sublist : record.outstanding.entries.Sublist more.outstanding.entries)
    (hit : ∃ entry ∈ record.outstanding.entries, entry.1 ∈ record.displaces maxOutstanding) :
    ∃ entry ∈ more.outstanding.entries, entry.1 ∈ more.displaces maxOutstanding := by
  obtain ⟨entry, mem, taken⟩ := hit
  rcases List.mem_append.mp taken with oldest | own
  · split at oldest
    · next full =>
      have fuller : maxOutstanding ≤ more.outstanding.size := le_trans full sublist.length_le
      obtain ⟨first, rest, split⟩ :=
        List.exists_cons_of_ne_nil (List.ne_nil_of_mem (sublist.subset mem))
      refine ⟨first, by rw [split]; exact List.mem_cons_self, List.mem_append_left _ ?_⟩
      rw [if_pos fuller, OrderedDict.keys, split]
      exact List.mem_singleton_self _
    · cases oldest
  · refine ⟨entry, sublist.subset mem, List.mem_append_right _ ?_⟩
    rwa [← nextReqId]

/-- An emit that takes no id appends. -/
theorem entries_emit {record : PlaneClock} {maxOutstanding : Nat}
    (free : ¬ ∃ entry ∈ record.outstanding.entries, entry.1 ∈ record.displaces maxOutstanding)
    (nowNs : Int) :
    (record.emit maxOutstanding nowNs).outstanding.entries =
      record.outstanding.entries ++ [(record.nextReqId, nowNs)] := by
  have absent : record.nextReqId ∉ record.outstanding.keys := by
    intro mem
    obtain ⟨entry, held, key⟩ := List.mem_map.mp mem
    exact free ⟨entry, held, List.mem_append_right _ (List.mem_singleton.mpr key)⟩
  unfold PlaneClock.emit
  dsimp only
  split
  · next full =>
    have whole : record.outstanding.eraseOldest = record.outstanding := by
      refine OrderedDict.eq_of_entries ?_
      rw [OrderedDict.entries_eraseOldest]
      refine List.filter_eq_self.mpr fun entry held => decide_eq_true fun oldest => ?_
      refine free ⟨entry, held, List.mem_append_left _ ?_⟩
      rw [if_pos full]
      exact Option.mem_toList.mpr oldest
    rw [whole, OrderedDict.entries_set_of_not_mem absent]
  · exact OrderedDict.entries_set_of_not_mem absent _

/-- An emit that takes no id leaves the earlier probes. -/
theorem history_emit {clock : ProbeClock numPlanes} {history : ProbeHistory numPlanes}
    (tracks : Tracks clock history) {plane : Fin numPlanes}
    (free : ¬ ∃ entry ∈ (clock.outstanding plane).entries,
      entry.1 ∈ (clock.planes plane).displaces clock.maxOutstanding) :
    (history plane).map (SentProbe.resolve .displaced fun entry =>
      entry.1 ∈ (clock.planes plane).displaces clock.maxOutstanding) = history plane := by
  refine (List.map_congr_left fun probe mem => ?_).trans (List.map_id _)
  rw [SentProbe.resolve, if_neg]
  · rfl
  · rintro ⟨waits, taken⟩
    have held := (tracks plane).mem_iff.mpr (mem_waitingEntries.mpr ⟨probe, mem, waits, rfl⟩)
    exact free ⟨_, held, of_decide_eq_true taken⟩

/-- Where an emit takes an id in one run, the plane is the same in both. -/
theorem alike_of_taken (agree : Agree run other) (tracks : Tracks run.clock run.history)
    (otherTracks : Tracks other.clock other.history) {plane : Fin numPlanes} {nowNs : Int}
    (later : run.nowNs ≤ nowNs) (otherLater : other.nowNs ≤ nowNs)
    (roomy : run.roomy (.emit plane nowNs)) (otherRoomy : other.roomy (.emit plane nowNs))
    (taken : ∃ entry ∈ (run.clock.outstanding plane).entries,
      entry.1 ∈ (run.clock.planes plane).displaces run.clock.maxOutstanding) :
    run.clock.outstanding plane = other.clock.outstanding plane ∧
      run.history plane = other.history plane := by
  have nothing : run.NothingOverdue plane nowNs := of_decide_eq_true roomy taken
  have fresh := fresh_of_nothingOverdue nothing
  have same := agree.outstanding nowNs later otherLater plane
  have sublist : (run.clock.outstanding plane).entries.Sublist
      (other.clock.outstanding plane).entries := by
    rw [← fresh, same]
    exact List.filter_sublist
  have otherTaken := displaces_of_sublist (agree.nextReqId plane) sublist taken
  rw [agree.maxOutstanding] at otherTaken
  have otherNothing : other.NothingOverdue plane nowNs := of_decide_eq_true otherRoomy otherTaken
  constructor
  · refine OrderedDict.eq_of_entries ?_
    rw [← fresh, ← fresh_of_nothingOverdue otherNothing, ← agree.timeoutNs]
    exact same
  · rw [← settled_of_nothingOverdue tracks nothing,
      ← settled_of_nothingOverdue otherTracks otherNothing, ← agree.timeoutNs]
    exact agree.history nowNs later otherLater plane

/-- An emit keeps the agreement. -/
theorem emit (agree : Agree run other) (tracks : Tracks run.clock run.history)
    (otherTracks : Tracks other.clock other.history) {plane : Fin numPlanes} {nowNs : Int}
    (roomy : run.roomy (.emit plane nowNs)) (otherRoomy : other.roomy (.emit plane nowNs))
    (stepped : run.next (.emit plane nowNs) = some next)
    (otherStepped : other.next (.emit plane nowNs) = some otherNext) : Agree next otherNext := by
  obtain ⟨later, rfl⟩ := ClockRun.next_eq stepped
  obtain ⟨otherLater, rfl⟩ := ClockRun.next_eq otherStepped
  change run.nowNs ≤ nowNs at later
  change other.nowNs ≤ nowNs at otherLater
  have nextReqId := agree.nextReqId plane
  have together : ∀ further, nowNs ≤ further →
      freshEntries (further - run.clock.probeTimeoutNs)
          ((run.clock.planes plane).emit run.clock.maxOutstanding nowNs).outstanding.entries =
        freshEntries (further - run.clock.probeTimeoutNs)
          ((other.clock.planes plane).emit other.clock.maxOutstanding nowNs).outstanding.entries ∧
      settled (further - run.clock.probeTimeoutNs)
          (run.history.after run.clock (.emit plane nowNs) plane) =
        settled (further - run.clock.probeTimeoutNs)
          (other.history.after other.clock (.emit plane nowNs) plane) := by
    intro further here
    simp only [ProbeHistory.after, Function.update_self]
    by_cases alike : run.clock.outstanding plane = other.clock.outstanding plane ∧
        run.history plane = other.history plane
    · -- One dictionary and one history: the emit does the same to both.
      obtain ⟨sameDict, sameHistory⟩ := alike
      change (run.clock.planes plane).outstanding = (other.clock.planes plane).outstanding
        at sameDict
      have displaces : (run.clock.planes plane).displaces run.clock.maxOutstanding =
          (other.clock.planes plane).displaces other.clock.maxOutstanding := by
        simp only [PlaneClock.displaces, sameDict, nextReqId, agree.maxOutstanding]
      constructor
      · simp only [PlaneClock.emit, sameDict, nextReqId, agree.maxOutstanding]
      · rw [displaces, sameHistory, nextReqId]
    · -- No id is taken in either run: both append.
      have free := fun taken => alike
        (agree.alike_of_taken tracks otherTracks later otherLater roomy otherRoomy taken)
      have otherFree := fun taken => alike <|
        have flipped := agree.symm.alike_of_taken otherTracks tracks otherLater later otherRoomy
          roomy taken
        ⟨flipped.1.symm, flipped.2.symm⟩
      have freshSame := agree.outstanding further (le_trans later here) (le_trans otherLater here)
        plane
      have settledSame := agree.history further (le_trans later here) (le_trans otherLater here)
        plane
      rw [entries_emit free, entries_emit otherFree, history_emit tracks free,
        history_emit otherTracks otherFree, nextReqId]
      simp only [freshEntries, settled, List.filter_append, List.map_append] at freshSame settledSame ⊢
      exact ⟨congrArg (· ++ _) freshSame, congrArg (· ++ _) settledSame⟩
  refine ⟨?_, ?_, fun on => ?_, fun further here there on => ?_, fun further here there on => ?_⟩
  · simpa only [(ClockRun.timeout_after _ _).1] using agree.timeoutNs
  · simpa only [(ClockRun.timeout_after _ _).2] using agree.maxOutstanding
  · simp only [ProbeClock.after_emit, ProbeClock.setPlane, Function.update_apply]
    split
    · simp only [PlaneClock.emit, nextReqId]
    · exact agree.nextReqId on
  · simp only [ProbeClock.after_emit, ProbeClock.setPlane_outstanding]
    split
    · exact (together further here).1
    · exact agree.outstanding further (le_trans later here) (le_trans otherLater there) on
  · simp only [(ClockRun.timeout_after _ _).1]
    by_cases same : on = plane
    · subst same
      exact (together further here).2
    · simp only [ProbeHistory.after, Function.update_of_ne same]
      exact agree.history further (le_trans later here) (le_trans otherLater there) on

theorem resolve_answered_settled {deadlineNs further : Int} (ordered : deadlineNs ≤ further)
    {reqId : Nat} (rttNs : Int) {probe : SentProbe}
    (early : probe.fate = .waiting → probe.entry.1 = reqId → deadlineNs < probe.entry.2) :
    (probe.resolve (.answered rttNs) fun entry => entry.1 = reqId).resolve .timedOut
        (fun entry => entry.2 ≤ further) =
      ((probe.resolve .timedOut fun entry => entry.2 ≤ deadlineNs).resolve (.answered rttNs)
        fun entry => entry.1 = reqId).resolve .timedOut fun entry => entry.2 ≤ further := by
  by_cases due : probe.fate = .waiting ∧ probe.entry.2 ≤ deadlineNs
  · obtain ⟨waits, past⟩ := due
    have another : ¬ probe.entry.1 = reqId := fun own => absurd past (not_le.mpr (early waits own))
    have pastLater : probe.entry.2 ≤ further := le_trans past ordered
    simp [SentProbe.resolve, waits, past, pastLater, another]
  · have kept : (probe.resolve .timedOut fun entry => entry.2 ≤ deadlineNs) = probe :=
      if_neg fun both => due ⟨both.1, of_decide_eq_true both.2⟩
    rw [kept]

/-- What both runs do to a plane whose probe they answer. -/
theorem settled_answered (tracks : Tracks run.clock run.history) {plane : Fin numPlanes}
    {reqId : Nat} {txNs nowNs further : Int}
    (found : (run.clock.outstanding plane).find? reqId = some txNs)
    (early : nowNs < txNs + run.clock.probeTimeoutNs) (later : nowNs ≤ further) :
    settled (further - run.clock.probeTimeoutNs) ((run.history plane).map
        (SentProbe.resolve (.answered (nowNs - txNs)) fun entry => entry.1 = reqId)) =
      settled (further - run.clock.probeTimeoutNs)
        ((settled (nowNs - run.clock.probeTimeoutNs) (run.history plane)).map
          (SentProbe.resolve (.answered (nowNs - txNs)) fun entry => entry.1 = reqId)) := by
  simp only [settled, List.map_map]
  refine List.map_congr_left fun probe mem => ?_
  refine resolve_answered_settled (Int.sub_le_sub_right later _) (nowNs - txNs) fun waits own => ?_
  have held := (tracks.find?_iff plane reqId probe.txNs).mpr
    ⟨probe, mem, waits, Prod.ext own rfl⟩
  rw [found] at held
  have sameTx : txNs = probe.entry.2 := Option.some.inj held
  omega

/-- A reply that matches nothing leaves the planes and the history. -/
theorem reply_unmatched (clock : ProbeClock numPlanes) (history : ProbeHistory numPlanes)
    {reqId : Nat} {plane txNs : Int} (nowNs : Int)
    (unmatched : ∀ index : Fin numPlanes, (index : Nat) = plane →
      (clock.outstanding index).find? reqId ≠ some txNs) :
    (clock.after (.reply reqId plane txNs nowNs)).planes = clock.planes ∧
      history.after clock (.reply reqId plane txNs nowNs) = history := by
  rcases clock.matchReply_cases reqId plane txNs nowNs with
    ⟨error, raised⟩ | stale | ⟨index, here, found, -⟩
  · simp [ProbeClock.after, ProbeHistory.after, raised]
  · simp [ProbeClock.after, ProbeHistory.after, stale]
  · exact absurd found (unmatched index here)

/-- A reply that matches an entry removes it and answers its probe. -/
theorem reply_matched (clock : ProbeClock numPlanes) (history : ProbeHistory numPlanes)
    {reqId : Nat} {index : Fin numPlanes} {txNs : Int} (nowNs : Int)
    (found : (clock.outstanding index).find? reqId = some txNs) :
    clock.after (.reply reqId (index : Nat) txNs nowNs) =
        clock.setPlane index ((clock.planes index).settle reqId) ∧
      history.after clock (.reply reqId (index : Nat) txNs nowNs) =
        Function.update history index ((history index).map
          (SentProbe.resolve (.answered (nowNs - txNs)) fun entry => entry.1 = reqId)) := by
  have matched := clock.matchReply_fin reqId index txNs nowNs
  rw [if_pos found] at matched
  simp only [ProbeClock.after, ProbeHistory.after, matched, Int.natCast_inj, Fin.val_inj, true_and]
  funext other
  rw [Function.update_apply]
  split
  · next here => rw [here]
  · rfl

theorem freshEntries_erase (deadlineNs : Int) (dict : OrderedDict Nat Int) (reqId : Nat) :
    freshEntries deadlineNs (dict.erase reqId).entries =
      (freshEntries deadlineNs dict.entries).filter fun entry => entry.1 ≠ reqId := by
  simp only [freshEntries, OrderedDict.erase, OrderedDict.filter, List.filter_filter,
    Bool.and_comm]

/-- A reply that is answered in both runs keeps the agreement. -/
theorem answer (agree : Agree run other) (tracks : Tracks run.clock run.history)
    (otherTracks : Tracks other.clock other.history) {reqId : Nat} {index : Fin numPlanes}
    {txNs nowNs : Int} (later : run.nowNs ≤ nowNs) (otherLater : other.nowNs ≤ nowNs)
    (found : (run.clock.outstanding index).find? reqId = some txNs)
    (otherFound : (other.clock.outstanding index).find? reqId = some txNs)
    (early : nowNs < txNs + run.clock.probeTimeoutNs) :
    Agree ⟨run.clock.after (.reply reqId (index : Nat) txNs nowNs), nowNs,
        run.history.after run.clock (.reply reqId (index : Nat) txNs nowNs)⟩
      ⟨other.clock.after (.reply reqId (index : Nat) txNs nowNs), nowNs,
        other.history.after other.clock (.reply reqId (index : Nat) txNs nowNs)⟩ := by
  obtain ⟨clockEq, historyEq⟩ := reply_matched run.clock run.history nowNs found
  obtain ⟨otherClockEq, otherHistoryEq⟩ :=
    reply_matched other.clock other.history nowNs otherFound
  rw [clockEq, historyEq, otherClockEq, otherHistoryEq]
  refine ⟨agree.timeoutNs, agree.maxOutstanding, fun on => ?_, fun further here there on => ?_,
    fun further here there on => ?_⟩
  · simp only [ProbeClock.setPlane, Function.update_apply]
    split
    · exact agree.nextReqId index
    · exact agree.nextReqId on
  · have before := agree.outstanding further (le_trans later here) (le_trans otherLater there) on
    simp only [ProbeClock.setPlane_outstanding]
    split
    · next same =>
      subst same
      simp only [PlaneClock.settle, freshEntries_erase]
      exact congrArg (List.filter _) before
    · exact before
  · simp only [Function.update_apply]
    split
    · change settled (further - run.clock.probeTimeoutNs) _ = _
      rw [settled_answered tracks found early here]
      change _ = settled (further - run.clock.probeTimeoutNs) _
      have otherEarly : nowNs < txNs + other.clock.probeTimeoutNs := agree.timeoutNs ▸ early
      have otherSettled := settled_answered otherTracks otherFound otherEarly there
      rw [← agree.timeoutNs] at otherSettled
      rw [otherSettled, agree.history nowNs later otherLater index]
    · exact agree.history further (le_trans later here) (le_trans otherLater there) on

/-- A reply that is stale in both runs keeps the agreement. -/
theorem ignore (agree : Agree run other) {reqId : Nat} {plane txNs nowNs : Int}
    (later : run.nowNs ≤ nowNs) (otherLater : other.nowNs ≤ nowNs)
    (unmatched : ∀ index : Fin numPlanes, (index : Nat) = plane →
      (run.clock.outstanding index).find? reqId ≠ some txNs)
    (otherUnmatched : ∀ index : Fin numPlanes, (index : Nat) = plane →
      (other.clock.outstanding index).find? reqId ≠ some txNs) :
    Agree ⟨run.clock.after (.reply reqId plane txNs nowNs), nowNs,
        run.history.after run.clock (.reply reqId plane txNs nowNs)⟩
      ⟨other.clock.after (.reply reqId plane txNs nowNs), nowNs,
        other.history.after other.clock (.reply reqId plane txNs nowNs)⟩ := by
  obtain ⟨planes, historyEq⟩ := reply_unmatched run.clock run.history nowNs unmatched
  obtain ⟨otherPlanes, otherHistoryEq⟩ :=
    reply_unmatched other.clock other.history nowNs otherUnmatched
  obtain ⟨timeoutEq, maxEq⟩ := ClockRun.timeout_after run.clock (.reply reqId plane txNs nowNs)
  obtain ⟨otherTimeoutEq, otherMaxEq⟩ :=
    ClockRun.timeout_after other.clock (.reply reqId plane txNs nowNs)
  refine ⟨?_, ?_, fun on => ?_, fun further here there on => ?_, fun further here there on => ?_⟩
  · rw [timeoutEq, otherTimeoutEq]
    exact agree.timeoutNs
  · rw [maxEq, otherMaxEq]
    exact agree.maxOutstanding
  · rw [planes, otherPlanes]
    exact agree.nextReqId on
  · simp only [timeoutEq, ProbeClock.outstanding, planes, otherPlanes]
    exact agree.outstanding further (le_trans later here) (le_trans otherLater there) on
  · simp only [timeoutEq, historyEq, otherHistoryEq]
    exact agree.history further (le_trans later here) (le_trans otherLater there) on

/-- A reply keeps the agreement. -/
theorem reply (agree : Agree run other) (tracks : Tracks run.clock run.history)
    (otherTracks : Tracks other.clock other.history) {reqId : Nat} {plane txNs nowNs : Int}
    (inTime : run.inTime (.reply reqId plane txNs nowNs))
    (otherInTime : other.inTime (.reply reqId plane txNs nowNs))
    (stepped : run.next (.reply reqId plane txNs nowNs) = some next)
    (otherStepped : other.next (.reply reqId plane txNs nowNs) = some otherNext) :
    Agree next otherNext := by
  obtain ⟨later, rfl⟩ := ClockRun.next_eq stepped
  obtain ⟨otherLater, rfl⟩ := ClockRun.next_eq otherStepped
  by_cases hit : ∃ index : Fin numPlanes, (index : Nat) = plane ∧
      (run.clock.outstanding index).find? reqId = some txNs
  · obtain ⟨index, rfl, found⟩ := hit
    have early := of_decide_eq_true inTime index rfl found
    exact agree.answer tracks otherTracks later otherLater found
      (agree.find?_of_find? later otherLater found early) early
  · refine agree.ignore later otherLater (fun index here found => hit ⟨index, here, found⟩) ?_
    intro index here found
    have early := of_decide_eq_true otherInTime index here found
    exact hit ⟨index, here, agree.symm.find?_of_find? otherLater later found early⟩

/-- A call outside the sweeps, made in both runs, keeps the agreement. -/
theorem step (agree : Agree run other) (tracks : Tracks run.clock run.history)
    (otherTracks : Tracks other.clock other.history) {call : ClockCall numPlanes}
    (outside : call.outside) (punctual : run.punctual call) (otherPunctual : other.punctual call)
    (stepped : run.next call = some next) (otherStepped : other.next call = some otherNext) :
    Agree next otherNext := by
  rw [ClockRun.punctual, Bool.and_eq_true] at punctual otherPunctual
  cases call with
  | emit plane nowNs =>
      exact agree.emit tracks otherTracks punctual.2 otherPunctual.2 stepped otherStepped
  | reply reqId plane txNs nowNs =>
      exact agree.reply tracks otherTracks punctual.1 otherPunctual.1 stepped otherStepped
  | sweep nowNs => cases outside

variable {clock : ProbeClock numPlanes} {startNs : Int} {later otherLater : ClockRun numPlanes}

theorem tracks_next (tracks : Tracks run.clock run.history) {call : ClockCall numPlanes}
    (stepped : run.next call = some next) : Tracks next.clock next.history := by
  obtain ⟨-, rfl⟩ := ClockRun.next_eq stepped
  exact tracks.after call

/-- One run goes on with sweeps alone. -/
theorem sweeps (agree : Agree run other) {calls : List (ClockCall numPlanes)}
    (none_ : calls.filter ClockCall.outside = [])
    (ran : (clockMachine clock startNs).run other calls = some otherLater) :
    Agree run otherLater := by
  induction calls generalizing other with
  | nil =>
      cases ran
      exact agree
  | cons call rest ih =>
      obtain ⟨next, stepped, onward⟩ := Machine.run_cons_eq_some.mp ran
      cases call with
      | sweep nowNs => exact ih (agree.symm.sweep stepped).symm none_ onward
      | emit plane nowNs => simp [ClockCall.outside] at none_
      | reply reqId plane txNs nowNs => simp [ClockCall.outside] at none_

/-- Punctual runs that make the same calls between their sweeps agree. -/
theorem runs {calls otherCalls : List (ClockCall numPlanes)} (agree : Agree run other)
    (tracks : Tracks run.clock run.history) (otherTracks : Tracks other.clock other.history)
    (punctual : (clockMachine clock startNs).along ClockRun.punctual run calls)
    (otherPunctual : (clockMachine clock startNs).along ClockRun.punctual other otherCalls)
    (ran : (clockMachine clock startNs).run run calls = some later)
    (otherRan : (clockMachine clock startNs).run other otherCalls = some otherLater)
    (same : calls.filter ClockCall.outside = otherCalls.filter ClockCall.outside) :
    Agree later otherLater := by
  induction calls generalizing run other otherCalls with
  | nil =>
      cases ran
      exact agree.sweeps same.symm otherRan
  | cons call rest ih =>
      obtain ⟨next, stepped, onward⟩ := Machine.run_cons_eq_some.mp ran
      obtain ⟨here, further⟩ := (Machine.along_cons_iff stepped).mp punctual
      by_cases outside : call.outside
      · rw [List.filter_cons_of_pos outside] at same
        -- The other run reaches the same call after some sweeps.
        induction otherCalls generalizing other with
        | nil => cases same
        | cons otherCall otherRest otherIh =>
            obtain ⟨otherNext, otherStepped, otherOnward⟩ := Machine.run_cons_eq_some.mp otherRan
            obtain ⟨otherHere, otherFurther⟩ :=
              (Machine.along_cons_iff otherStepped).mp otherPunctual
            have otherTracksNext := tracks_next otherTracks otherStepped
            by_cases otherOutside : otherCall.outside
            · rw [List.filter_cons_of_pos otherOutside, List.cons.injEq] at same
              obtain ⟨rfl, same⟩ := same
              exact ih (agree.step tracks otherTracks outside here otherHere stepped otherStepped)
                (tracks_next tracks stepped) otherTracksNext further otherFurther onward otherOnward
                same
            · rw [List.filter_cons_of_neg otherOutside] at same
              cases otherCall with
              | sweep nowNs =>
                  exact otherIh (agree.symm.sweep otherStepped).symm otherTracksNext otherFurther
                    otherOnward same
              | emit plane nowNs => exact absurd rfl otherOutside
              | reply reqId plane txNs nowNs => exact absurd rfl otherOutside
      · rw [List.filter_cons_of_neg outside] at same
        cases call with
        | sweep nowNs =>
            exact ih (agree.sweep stepped) (tracks_next tracks stepped) otherTracks further
              otherPunctual onward otherRan same
        | emit plane nowNs => exact absurd rfl outside
        | reply reqId plane txNs nowNs => exact absurd rfl outside

end Agree

/-! ## Whole runs -/

theorem tracks_start {probeTimeoutNs maxOutstanding : Int} {clock : ProbeClock numPlanes}
    (built : ProbeClock.init numPlanes probeTimeoutNs maxOutstanding = .ok clock) :
    Tracks clock fun _ => [] := by
  unfold ProbeClock.init at built
  split_ifs at built
  cases built
  exact fun plane => List.Perm.refl _

/-- A sweep past every deadline leaves no probe waiting. -/
theorem settled_of_swept {run next : ClockRun numPlanes} {endNs : Int}
    (stepped : run.next (.sweep endNs) = some next)
    (past : ∀ plane, ∀ probe ∈ next.history plane, probe.txNs + next.clock.probeTimeoutNs ≤ endNs)
    (nowNs : Int) (plane : Fin numPlanes) :
    settled (nowNs - next.clock.probeTimeoutNs) (next.history plane) = next.history plane := by
  obtain ⟨-, rfl⟩ := ClockRun.next_eq stepped
  simp only [ProbeHistory.after, settled, List.map_map]
  refine List.map_congr_left fun probe mem => ?_
  have due : probe.entry.2 ≤ endNs - run.clock.probeTimeoutNs := by
    have deadline := past plane _ (List.mem_map_of_mem mem)
    rw [SentProbe.resolve_txNs] at deadline
    have timeoutNs : (run.clock.after (.sweep endNs)).probeTimeoutNs = run.clock.probeTimeoutNs := rfl
    rw [timeoutNs] at deadline
    change probe.txNs ≤ _
    omega
  by_cases waits : probe.fate = .waiting
  · simp [SentProbe.resolve, waits, due]
  · simp [SentProbe.resolve, waits]

/-- In every run no answer comes after its deadline exactly when no reply finds an
outstanding probe past it; and runs in which this is so, and in which no emit takes an id
from a plane with a probe past its deadline, give every probe the same fate, whenever
their sweeps run, once a sweep has run past all deadlines. -/
theorem timeout_independent_of_sweeps {probeTimeoutNs maxOutstanding startNs : Int}
    {clock : ProbeClock numPlanes}
    (built : ProbeClock.init numPlanes probeTimeoutNs maxOutstanding = .ok clock) :
    (∀ calls later, (clockMachine clock startNs).run (clockMachine clock startNs).start calls =
        some later →
      (later.AllInTime ↔ (clockMachine clock startNs).along ClockRun.inTime
        (clockMachine clock startNs).start calls)) ∧
    ∀ calls otherCalls endNs otherEndNs later otherLater,
      (clockMachine clock startNs).run (clockMachine clock startNs).start
        (calls ++ [.sweep endNs]) = some later →
      (clockMachine clock startNs).run (clockMachine clock startNs).start
        (otherCalls ++ [.sweep otherEndNs]) = some otherLater →
      calls.filter ClockCall.outside = otherCalls.filter ClockCall.outside →
      (clockMachine clock startNs).along ClockRun.punctual (clockMachine clock startNs).start
        calls →
      (clockMachine clock startNs).along ClockRun.punctual (clockMachine clock startNs).start
        otherCalls →
      (∀ plane, ∀ probe ∈ later.history plane,
        probe.txNs + later.clock.probeTimeoutNs ≤ endNs) →
      (∀ plane, ∀ probe ∈ otherLater.history plane,
        probe.txNs + otherLater.clock.probeTimeoutNs ≤ otherEndNs) →
      later.history = otherLater.history := by
  have tracks := tracks_start built
  constructor
  · intro calls later ran
    have start : (clockMachine clock startNs).start.AllInTime := fun plane probe mem => by cases mem
    have steps := Machine.along_iff_of_step
      (fun _ _ _ tracks stepped => Agree.tracks_next tracks stepped)
      (fun _ _ _ tracks stepped => ClockRun.allInTime_next tracks stepped) ran tracks
    rw [steps, and_iff_right start]
  · intro calls otherCalls endNs otherEndNs later otherLater ran otherRan same punctual
      otherPunctual past otherPast
    obtain ⟨middle, before, last⟩ := Machine.exists_of_run_append ran
    obtain ⟨otherMiddle, otherBefore, otherLast⟩ := Machine.exists_of_run_append otherRan
    obtain ⟨next, stepped, ⟨⟩⟩ := Machine.run_cons_eq_some.mp last
    obtain ⟨otherNext, otherStepped, ⟨⟩⟩ := Machine.run_cons_eq_some.mp otherLast
    have agree := (Agree.refl _).runs tracks tracks punctual otherPunctual before otherBefore same
    have swept := (agree.sweep stepped).symm.sweep otherStepped
    funext plane
    -- Both histories are settled at any later time, and agree there.
    have alike := swept.history (max later.nowNs otherLater.nowNs) (le_max_right _ _)
      (le_max_left _ _) plane
    rw [settled_of_swept otherStepped otherPast, swept.timeoutNs, settled_of_swept stepped past]
      at alike
    exact alike.symm

/-- A clock of one plane with a timeout of 100. -/
def shortClock : ProbeClock 1 := ⟨100, 256, fun _ => {}, 0⟩

/-- Two schedules of the same three calls, one with a sweep between them. -/
theorem verdicts_of_two_schedules :
    ProbeClock.init 1 100 256 = .ok shortClock ∧
    ∃ later otherLater : ClockRun 1,
      (clockMachine shortClock 0).run (clockMachine shortClock 0).start
        ([.emit 0 0, .reply 0 0 0 50, .emit 0 200] ++ [.sweep 400]) = some later ∧
      (clockMachine shortClock 0).run (clockMachine shortClock 0).start
        ([.emit 0 0, .reply 0 0 0 50, .sweep 120, .emit 0 200] ++ [.sweep 300]) =
          some otherLater ∧
      later.AllInTime ∧ later.history = otherLater.history := by
  have built : ProbeClock.init 1 100 256 = .ok shortClock := rfl
  obtain ⟨verdicts, sameVerdicts⟩ := @timeout_independent_of_sweeps 1 100 256 0 _ built
  obtain ⟨later, ran⟩ : ∃ later, (clockMachine shortClock 0).run (clockMachine shortClock 0).start
    ([.emit 0 0, .reply 0 0 0 50, .emit 0 200] ++ [.sweep 400]) = some later := ⟨_, rfl⟩
  obtain ⟨other, otherRan⟩ : ∃ other, (clockMachine shortClock 0).run
    (clockMachine shortClock 0).start
    ([.emit 0 0, .reply 0 0 0 50, .sweep 120, .emit 0 200] ++ [.sweep 300]) = some other :=
      ⟨_, rfl⟩
  refine ⟨built, later, other, ran, otherRan, ?_, ?_⟩
  · exact (verdicts _ later ran).mpr (by decide)
  · refine sameVerdicts _ _ _ _ later other ran otherRan rfl (by decide) (by decide) ?_ ?_
    · cases ran
      decide
    · cases otherRan
      decide

/-- A reply at 150 to a probe of 0 with a timeout of 100: an RTT, unless a sweep came first. -/
theorem late_reply_races_sweep :
    ProbeClock.init 1 100 256 = .ok shortClock ∧
    ∃ later otherLater : ClockRun 1,
      (clockMachine shortClock 0).run (clockMachine shortClock 0).start
        [.emit 0 0, .reply 0 0 0 150, .sweep 300] = some later ∧
      (clockMachine shortClock 0).run (clockMachine shortClock 0).start
        [.emit 0 0, .sweep 120, .reply 0 0 0 150, .sweep 300] = some otherLater ∧
      later.history 0 = [⟨0, 0, .answered 150⟩] ∧ otherLater.history 0 = [⟨0, 0, .timedOut⟩] :=
  ⟨rfl, _, _, rfl, rfl, rfl, rfl⟩

end Srv6Fabric.Mrc

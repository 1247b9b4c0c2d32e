import Mathlib.Algebra.BigOperators.Fin
import Srv6Fabric.Mrc.EvStateHistory
import Srv6Fabric.Mrc.WatchedAgent

/-!
# What a probe-path demotion says about the probes

`consecutive_probe_timeouts` counts failures in the order they are recorded, and a
failure is recorded by the sweep, a success when the reply arrives.  The two orders agree
as long as no reply overtakes an earlier probe that the sweep has yet to remove; then the
failures counted are those of probes emitted one right after the other.
-/

namespace Srv6Fabric.Mrc

open Srv6Fabric.Library

variable {numPlanes : Nat}

/-! ## The probes of one plane -/

/-- The probe got no reply in time: it was swept as timed out, or displaced by a later
emit, after which a reply to it is stale. -/
def SentProbe.Missed (probe : SentProbe) : Prop :=
  probe.fate = .timedOut ∨ probe.fate = .displaced

instance (probe : SentProbe) : Decidable probe.Missed :=
  inferInstanceAs (Decidable (_ ∨ _))

/-- Emitted in the order of their times, and timed out in the order of emission. -/
def InOrder (probes : List SentProbe) : Prop :=
  probes.Pairwise fun earlier later =>
    earlier.txNs ≤ later.txNs ∧ (later.fate = .timedOut → earlier.fate ≠ .waiting)

/-- At least `count` probes have timed out since the last answer, and no probe sent before
that answer still waits. -/
def MissedSinceAnswer (count : Nat) (probes : List SentProbe) : Prop :=
  ∃ settled recent, probes = settled ++ recent ∧ (∀ probe ∈ settled, probe.fate ≠ .waiting) ∧
    (∀ probe ∈ recent, ∀ rttNs, probe.fate ≠ .answered rttNs) ∧
    count ≤ recent.countP fun probe => probe.fate = .timedOut

/-- An end other than a timeout keeps the order. -/
theorem InOrder.resolve {probes : List SentProbe} {fate : ProbeFate} (inOrder : InOrder probes)
    (other : fate ≠ .timedOut) (test : Nat × Int → Bool) :
    InOrder (probes.map (SentProbe.resolve fate test)) := by
  refine List.pairwise_map.mpr (inOrder.imp ?_)
  intro earlier later ⟨ordered, swept⟩
  rw [SentProbe.resolve_txNs, SentProbe.resolve_txNs]
  refine ⟨ordered, fun timedOut waits => ?_⟩
  refine swept ?_ (SentProbe.waiting_of_resolve waits)
  rcases later.resolve_cases fate test with ⟨-, -, ended⟩ | same
  · exact absurd (ended.symm.trans timedOut) other
  · rwa [same] at timedOut

theorem InOrder.concat {probes : List SentProbe} {probe : SentProbe} (inOrder : InOrder probes)
    (waits : probe.fate = .waiting) (latest : ∀ other ∈ probes, other.txNs ≤ probe.txNs) :
    InOrder (probes ++ [probe]) := by
  refine List.pairwise_append.mpr ⟨inOrder, List.pairwise_singleton _ _, ?_⟩
  intro other mem last here
  rw [List.mem_singleton] at here
  subst here
  exact ⟨latest other mem, fun timedOut => by rw [waits] at timedOut; cases timedOut⟩

/-- A sweep times out every waiting probe up to a time, so the order is kept. -/
theorem InOrder.sweep {probes : List SentProbe} (inOrder : InOrder probes) (deadlineNs : Int) :
    InOrder (probes.map (SentProbe.resolve .timedOut fun entry => entry.2 ≤ deadlineNs)) := by
  refine List.pairwise_map.mpr (inOrder.imp ?_)
  intro earlier later ⟨ordered, swept⟩
  rw [SentProbe.resolve_txNs, SentProbe.resolve_txNs]
  refine ⟨ordered, fun timedOut waits => ?_⟩
  have waited : earlier.fate = .waiting := SentProbe.waiting_of_resolve waits
  rcases later.resolve_cases .timedOut fun entry => entry.2 ≤ deadlineNs with
    ⟨-, due, -⟩ | same
  · have early : decide (earlier.entry.2 ≤ deadlineNs) :=
      decide_eq_true (le_trans ordered (of_decide_eq_true due))
    rw [SentProbe.resolve, if_pos ⟨waited, early⟩] at waits
    cases waits
  · rw [same] at timedOut
    exact swept timedOut waited

/-- Settled probes stay as they are. -/
theorem map_resolve_settled {settled : List SentProbe}
    (done : ∀ probe ∈ settled, probe.fate ≠ .waiting) (fate : ProbeFate)
    (test : Nat × Int → Bool) : settled.map (SentProbe.resolve fate test) = settled := by
  refine (List.map_congr_left fun probe mem => ?_).trans (List.map_id settled)
  exact SentProbe.resolve_of_settled (done probe mem)

namespace MissedSinceAnswer

variable {count : Nat} {probes : List SentProbe}

/-- What a displacement and the emit behind it leave of the count. -/
theorem emit (missed : MissedSinceAnswer count probes) (test : Nat × Int → Bool)
    {probe : SentProbe} (waits : probe.fate = .waiting) :
    MissedSinceAnswer count (probes.map (SentProbe.resolve .displaced test) ++ [probe]) := by
  obtain ⟨settled, recent, rfl, done, unanswered, bound⟩ := missed
  refine ⟨settled, recent.map (SentProbe.resolve .displaced test) ++ [probe], ?_, done, ?_, ?_⟩
  · rw [List.map_append, map_resolve_settled done, List.append_assoc]
  · intro other mem rttNs answered
    rcases List.mem_append.mp mem with old | new
    · obtain ⟨before, member, rfl⟩ := List.mem_map.mp old
      rcases before.resolve_cases .displaced test with ⟨-, -, ended⟩ | same
      · rw [ended] at answered
        cases answered
      · rw [same] at answered
        exact unanswered before member rttNs answered
    · rw [List.mem_singleton.mp new, waits] at answered
      cases answered
  · refine bound.trans ?_
    rw [List.countP_append, List.countP_map]
    refine le_trans (List.countP_mono_left fun other _ timedOut => ?_) (Nat.le_add_right _ _)
    have done : other.fate ≠ .waiting := by
      rw [of_decide_eq_true timedOut]
      decide
    rw [Function.comp, SentProbe.resolve_of_settled done]
    exact timedOut

/-- The probes a sweep ends join the count. -/
theorem sweep (missed : MissedSinceAnswer count probes) (deadlineNs : Int) :
    MissedSinceAnswer
      (count + probes.countP fun probe => probe.fate = .waiting ∧ probe.txNs ≤ deadlineNs)
      (probes.map (SentProbe.resolve .timedOut fun entry => entry.2 ≤ deadlineNs)) := by
  obtain ⟨settled, recent, rfl, done, unanswered, bound⟩ := missed
  refine ⟨settled, recent.map (SentProbe.resolve .timedOut fun entry => entry.2 ≤ deadlineNs),
    ?_, done, ?_, ?_⟩
  · rw [List.map_append, map_resolve_settled done]
  · intro other mem rttNs answered
    obtain ⟨before, member, rfl⟩ := List.mem_map.mp mem
    rcases before.resolve_cases .timedOut fun entry => entry.2 ≤ deadlineNs with
      ⟨-, -, ended⟩ | same
    · rw [ended] at answered
      cases answered
    · rw [same] at answered
      exact unanswered before member rttNs answered
  · have none_ : settled.countP
        (fun probe => probe.fate = .waiting ∧ probe.txNs ≤ deadlineNs) = 0 := by
      rw [List.countP_eq_zero]
      intro probe mem hit
      exact done probe mem (of_decide_eq_true hit).1
    rw [List.countP_append, none_, Nat.zero_add]
    refine (Nat.add_le_add_right bound _).trans (le_of_eq ?_)
    -- A probe counts after the sweep if it counted before, or waits and is due.
    clear unanswered bound
    induction recent with
    | nil => rfl
    | cons probe rest ih =>
        simp only [List.map_cons, List.countP_cons] at ih ⊢
        rw [← ih]
        by_cases waits : probe.fate = .waiting
        · by_cases due : probe.txNs ≤ deadlineNs
          · simp [SentProbe.resolve, SentProbe.entry, waits, due]
            omega
          · simp [SentProbe.resolve, SentProbe.entry, waits, due]
        · rw [SentProbe.resolve_of_settled waits]
          simp only [waits, false_and, decide_false, Bool.false_eq_true, if_false]
          omega

/-- The answer to the oldest waiting probe starts the count anew. -/
theorem answer (missed : MissedSinceAnswer count probes) {reqId : Nat} {txNs : Int}
    (distinct : ((waitingEntries probes).map Prod.fst).Nodup)
    (oldest : (waitingEntries probes).head? = some (reqId, txNs)) (rttNs : Int) :
    MissedSinceAnswer 0
      (probes.map (SentProbe.resolve (.answered rttNs) fun entry => entry.1 = reqId)) := by
  obtain ⟨settled, recent, rfl, done, unanswered, -⟩ := missed
  have none_ : settled.filter (fun probe => probe.fate = .waiting) = [] :=
    List.filter_eq_nil_iff.mpr fun probe mem waits => done probe mem (of_decide_eq_true waits)
  rw [waitingEntries, List.filter_append, none_, List.nil_append] at distinct oldest
  obtain ⟨probe, others, picked, entry⟩ : ∃ probe others,
      recent.filter (fun probe => probe.fate = .waiting) = probe :: others ∧
        probe.entry = (reqId, txNs) := by
    cases picked : recent.filter fun probe => probe.fate = .waiting with
    | nil => simp [picked] at oldest
    | cons probe others => exact ⟨probe, others, rfl, by simpa [picked] using oldest⟩
  obtain ⟨before, after, rfl, earlier, waits, rest⟩ := List.filter_eq_cons_iff.mp picked
  have settledBefore : ∀ other ∈ before, other.fate ≠ .waiting := fun other mem still =>
    earlier other mem (decide_eq_true still)
  refine ⟨settled ++ before ++ [probe.resolve (.answered rttNs) fun entry => entry.1 = reqId],
    after.map (SentProbe.resolve (.answered rttNs) fun entry => entry.1 = reqId), ?_, ?_, ?_,
    Nat.zero_le _⟩
  · simp only [List.map_append, List.map_cons, map_resolve_settled done,
      map_resolve_settled settledBefore, List.append_assoc, List.singleton_append]
  · intro other mem
    rcases List.mem_append.mp mem with old | this
    · rcases List.mem_append.mp old with first | second
      · exact done other first
      · exact settledBefore other second
    · rw [List.mem_singleton.mp this, SentProbe.resolve,
        if_pos ⟨of_decide_eq_true waits, by simp [entry]⟩]
      exact ProbeFate.noConfusion
  · intro other mem otherRtt answered
    obtain ⟨probeAfter, member, rfl⟩ := List.mem_map.mp mem
    rcases probeAfter.resolve_cases (.answered rttNs) fun entry => entry.1 = reqId with
      ⟨still, same, -⟩ | unmoved
    · -- No two waiting probes share an id.
      rw [picked, List.map_cons, List.map_cons, List.nodup_cons] at distinct
      refine distinct.1 (List.mem_map.mpr ⟨probeAfter.entry, List.mem_map_of_mem ?_, ?_⟩)
      · rw [← rest]
        exact List.mem_filter.mpr ⟨member, decide_eq_true still⟩
      · rw [of_decide_eq_true same, entry]
    · rw [unmoved] at answered
      exact unanswered probeAfter (List.mem_append_right _ (List.mem_cons_of_mem _ member))
        otherRtt answered

theorem mono {fewer : Nat} (missed : MissedSinceAnswer count probes) (le : fewer ≤ count) :
    MissedSinceAnswer fewer probes := by
  obtain ⟨settled, recent, split, done, unanswered, bound⟩ := missed
  exact ⟨settled, recent, split, done, unanswered, le.trans bound⟩

/-- In order, the probes counted come first after the last answer. -/
theorem consecutive (missed : MissedSinceAnswer count probes) (inOrder : InOrder probes) :
    ∃ first, ∀ index < count, ∃ probe, probes[first + index]? = some probe ∧ probe.Missed := by
  obtain ⟨settled, recent, rfl, -, unanswered, bound⟩ := missed
  refine ⟨settled.length, fun index small => ?_⟩
  have inside : index < recent.length := by
    have := recent.countP_le_length (p := fun probe => probe.fate = .timedOut)
    omega
  refine ⟨recent[index], ?_, ?_⟩
  · rw [List.getElem?_append_right (Nat.le_add_right _ _), Nat.add_sub_cancel_left,
      List.getElem?_eq_getElem inside]
  · cases fate : recent[index].fate with
    | timedOut => exact Or.inl fate
    | displaced => exact Or.inr fate
    | answered rttNs => exact absurd fate (unanswered _ (List.getElem_mem inside) rttNs)
    | waiting =>
        -- Behind a waiting probe none has timed out, and there are too few before it.
        exfalso
        have late : (recent.drop index).countP (fun probe => probe.fate = .timedOut) = 0 := by
          have ordered := (List.pairwise_append.mp inOrder).2.1.sublist (recent.drop_sublist index)
          rw [List.drop_eq_getElem_cons inside] at ordered ⊢
          rw [List.countP_eq_zero]
          intro probe mem timedOut
          rcases List.mem_cons.mp mem with rfl | behind
          · rw [fate] at timedOut
            cases of_decide_eq_true timedOut
          · exact (List.rel_of_pairwise_cons ordered behind).2 (of_decide_eq_true timedOut) fate
        have few := (recent.take index).countP_le_length (p := fun probe => probe.fate = .timedOut)
        rw [← recent.take_append_drop index, List.countP_append, late] at bound
        rw [List.length_take] at few
        omega

end MissedSinceAnswer

/-! ## The counter under the loops of the agent -/

namespace EVStateTable

variable {table next : EVStateTable numPlanes} {tenant : String} {index : Fin numPlanes}

/-- The record of a plane after a failed probe of some plane. -/
theorem row_after_probeFail (called : table.call (.probe tenant (index : Nat) false none) = .ok next)
    (plane : Fin numPlanes) :
    ∃ permitted, next.row tenant plane =
      if plane = index then nextRecord table.cfg permitted (table.row tenant plane) .probeFail
      else table.row tenant plane := by
  refine ⟨floorPermits table.minActive (table.row tenant) plane, ?_⟩
  rw [row_after_call called tenant plane]
  simp [Call.tenant, Call.plane, Call.signal?, Fin.val_inj, eq_comm]

/-- A successful probe clears the failures of its plane and leaves those of the others. -/
theorem timeouts_after_probeOk {rttNs : Int}
    (called : table.call (.probe tenant (index : Nat) true (some rttNs)) = .ok next)
    (plane : Fin numPlanes) :
    (next.row tenant plane).consecutiveProbeTimeouts =
      if plane = index then 0 else (table.row tenant plane).consecutiveProbeTimeouts := by
  rw [row_after_call called tenant plane]
  by_cases here : plane = index
  · subst here
    rw [if_pos ⟨rfl, rfl⟩, if_pos rfl]
    exact (nextRecord_probeOk table.cfg _ _ rttNs).1
  · have away : ¬ ((index : Nat) : Int) = (plane : Nat) := fun same =>
      here (Fin.ext (by exact_mod_cast same.symm))
    rw [if_neg fun both => away both.2, if_neg here]

/-- A loss window leaves the failed probes. -/
theorem timeouts_after_loss {where_ seen expected : Int}
    (called : table.call (.loss tenant where_ seen expected) = .ok next) (plane : Fin numPlanes) :
    (next.row tenant plane).consecutiveProbeTimeouts =
      (table.row tenant plane).consecutiveProbeTimeouts := by
  rw [row_after_call called tenant plane]
  split
  · cases carried : (Call.loss tenant where_ seen expected).signal? with
    | none => rfl
    | some signal =>
        obtain ⟨ratio, rfl⟩ : ∃ ratio, signal = .lossWindow ratio := by
          simp only [Call.signal?] at carried
          split at carried
          · cases carried
          · exact ⟨_, (Option.some.inj carried).symm⟩
        exact (nextRecord_lossWindow table.cfg _ _ ratio).1
  · rfl

end EVStateTable

namespace SenderMrcAgent

/-- The record of a plane in the row of the agent's tenant. -/
def record (agent : SenderMrcAgent numPlanes) (plane : Fin numPlanes) : PlaneRecord :=
  agent.table.row agent.tenant plane

/-- Recording a list of timeouts adds at most those of the plane to its failures, and
demotes it only once there are enough of them. -/
theorem recordTimeouts_record (agent : SenderMrcAgent numPlanes)
    (timeouts : List (Fin numPlanes × Nat)) (plane : Fin numPlanes) :
    let later := (agent.recordTimeouts timeouts).agent
    (agent.record plane).consecutiveProbeTimeouts ≤ (later.record plane).consecutiveProbeTimeouts ∧
      (later.record plane).consecutiveProbeTimeouts ≤
        (agent.record plane).consecutiveProbeTimeouts +
          timeouts.countP (fun timeout => timeout.1 = plane) ∧
      ((agent.record plane).state ≠ .assumedBad → (later.record plane).state = .assumedBad →
        agent.table.cfg.probeFailThreshold ≤ (later.record plane).consecutiveProbeTimeouts) := by
  induction timeouts generalizing agent with
  | nil => exact ⟨le_rfl, le_rfl, fun good bad => absurd bad good⟩
  | cons timeout rest ih =>
      obtain ⟨index, reqId⟩ := timeout
      unfold SenderMrcAgent.recordTimeouts
      dsimp only
      split
      · exact ⟨le_rfl, Nat.le_add_right _ _, fun good bad => absurd bad good⟩
      · next table called =>
        obtain ⟨permitted, rowEq⟩ := EVStateTable.row_after_probeFail called plane
        obtain ⟨grows, bound, demotes⟩ := ih { agent with table }
        have sameCfg : table.cfg = agent.table.cfg := (EVStateTable.call_frame called).2.1
        rw [List.countP_cons]
        simp only [record] at grows bound demotes ⊢
        rw [rowEq] at grows bound demotes
        rw [sameCfg] at demotes
        by_cases here : plane = index
        · obtain ⟨timeouts, -, -, state⟩ := EVStateTable.nextRecord_probeFail agent.table.cfg
            permitted (agent.table.row agent.tenant plane)
          rw [if_pos here] at grows bound demotes
          rw [timeouts] at grows bound state
          rw [if_pos (decide_eq_true here.symm)]
          refine ⟨by omega, by omega, fun good bad => ?_⟩
          by_cases now : EVState.assumedBad = (EVStateTable.nextRecord agent.table.cfg permitted
              (agent.table.row agent.tenant plane) .probeFail).state
          · rw [state] at now
            split at now
            · next enough => exact enough.2.2.trans (by exact_mod_cast grows)
            · exact absurd now.symm good
          · exact demotes (Ne.symm now) bad
        · rw [if_neg here] at grows bound demotes
          rw [if_neg (by simpa using Ne.symm here)]
          exact ⟨grows, by omega, demotes⟩

/-- A reply that answers a probe of a plane clears the failures of that plane. -/
theorem replyRx_record {agent : SenderMrcAgent numPlanes} {datagram : List UInt8} {nowNs : Int}
    {reply : ProbeReply} {index : Fin numPlanes} (healthy : agent.Healthy nowNs)
    (decoded : decodeProbeReply (datagram.take defaultRecvBufsize) = .ok reply)
    (names : (index : Nat) = reply.planeId.toNat) (plane : Fin numPlanes) :
    ((agent.replyRx datagram nowNs).agent.record plane).consecutiveProbeTimeouts =
      if (agent.probeClock.outstanding index).find? reply.reqId.toNat = some (reply.txNs.toNat : Int)
        ∧ plane = index then 0
      else (agent.record plane).consecutiveProbeTimeouts := by
  have done := replyRx_eq healthy decoded names
  dsimp only at done
  split at done
  · next found =>
    obtain ⟨probeClock, table, returned, outcome⟩ := done
    have cleared := EVStateTable.timeouts_after_probeOk returned plane
    rw [outcome]
    simp only [found, true_and]
    exact cleared
  · next stale =>
    obtain ⟨probeClock, outcome⟩ := done
    rw [outcome, if_neg fun both => stale both.1]
    rfl

theorem reportRx_record (agent : SenderMrcAgent numPlanes) (datagram : List UInt8) (nowNs : Int)
    (plane : Fin numPlanes) :
    ((agent.reportRx datagram nowNs).agent.record plane).consecutiveProbeTimeouts =
      (agent.record plane).consecutiveProbeTimeouts := by
  unfold reportRx
  split
  · rfl
  · rfl
  · next report decoded =>
    obtain ⟨stats, fuseEq⟩ := agent.fuse_eq report nowNs
    simp only [record, fused, fuseEq]
    exact applyRecords_keeps
      (motive := fun table => (table.row agent.tenant plane).consecutiveProbeTimeouts =
        (agent.table.row agent.tenant plane).consecutiveProbeTimeouts)
      (fun _ _ _ _ _ same returned => (EVStateTable.timeouts_after_loss returned plane).trans same)
      rfl

end SenderMrcAgent

/-! ## Sweeps and the history -/

/-- The timeouts a sweep lists for a plane, counted in its dictionary. -/
theorem ProbeClock.countP_sweepTimeouts (clock : ProbeClock numPlanes) (nowNs : Int)
    (plane : Fin numPlanes) :
    (clock.sweepTimeouts nowNs).2.countP (fun timeout => timeout.1 = plane) =
      (clock.outstanding plane).entries.countP
        fun entry => entry.2 ≤ nowNs - clock.probeTimeoutNs := by
  have each : ∀ other : Fin numPlanes,
      (((clock.planes other).expired (nowNs - clock.probeTimeoutNs)).map (Prod.mk other)).countP
        (fun timeout => timeout.1 = plane) =
      if other = plane then (clock.outstanding plane).entries.countP
        (fun entry => entry.2 ≤ nowNs - clock.probeTimeoutNs) else 0 := by
    intro other
    rw [List.countP_map]
    split
    · next here =>
      subst here
      simp [Function.comp_def, PlaneClock.expired, outstanding, List.countP_eq_length_filter]
    · next away => simp [Function.comp_def, away]
  simp only [sweepTimeouts, expired, List.countP_map, List.countP_flatMap, Function.comp_def]
  simp only [List.countP_map, Function.comp_def] at each
  simp only [each]
  rw [← Fin.sum_univ_def, Finset.sum_ite_eq' Finset.univ plane]
  simp

theorem Tracks.countP_due {clock : ProbeClock numPlanes} {history : ProbeHistory numPlanes}
    (tracks : Tracks clock history) (plane : Fin numPlanes) (deadlineNs : Int) :
    (clock.outstanding plane).entries.countP (fun entry => entry.2 ≤ deadlineNs) =
      (history plane).countP fun probe => probe.fate = .waiting ∧ probe.txNs ≤ deadlineNs := by
  rw [(tracks plane).countP_eq, waitingEntries, List.countP_map, List.countP_filter]
  refine List.countP_congr fun probe _ => ?_
  rw [Function.comp_apply, Bool.and_eq_true, decide_eq_true_iff, decide_eq_true_iff,
    decide_eq_true_iff, and_comm]
  rfl

theorem Tracks.nodup_waiting {clock : ProbeClock numPlanes} {history : ProbeHistory numPlanes}
    (tracks : Tracks clock history) (plane : Fin numPlanes) :
    ((waitingEntries (history plane)).map Prod.fst).Nodup :=
  ((tracks plane).map Prod.fst).nodup_iff.mp (clock.outstanding plane).nodup

/-! ## Runs -/

namespace WatchedRun

/-- The clock does not run backwards between two emits of a plane. -/
def steady (run : WatchedRun numPlanes) : AgentAction numPlanes → Bool
  | .emit plane nowNs => decide (∀ probe ∈ run.history plane, probe.txNs ≤ nowNs)
  | _ => true

/-- A reply that answers a probe answers the oldest of its plane that still waits. -/
def inTurn (run : WatchedRun numPlanes) (action : AgentAction numPlanes) : Bool :=
  match action.clockCall with
  | some (.reply reqId plane txNs _) =>
      decide (∀ index : Fin numPlanes, (index : Nat) = plane →
        (run.agent.probeClock.outstanding index).find? reqId = some txNs →
          (waitingEntries (run.history index)).head? = some (reqId, txNs))
  | _ => true

/-- Both: the runs in which failures are recorded in the order of emission. -/
def sequential (run : WatchedRun numPlanes) (action : AgentAction numPlanes) : Bool :=
  run.steady action && run.inTurn action

/-- The failures a plane's record counts are timeouts since the last answer. -/
structure Counts (run : WatchedRun numPlanes) (plane : Fin numPlanes) : Prop where
  inOrder : InOrder (run.history plane)
  missed : MissedSinceAnswer (run.agent.record plane).consecutiveProbeTimeouts (run.history plane)

theorem Counts.of_eq {run later : WatchedRun numPlanes} {plane : Fin numPlanes}
    (counts : run.Counts plane) (history : later.history plane = run.history plane)
    (record : (later.agent.record plane).consecutiveProbeTimeouts =
      (run.agent.record plane).consecutiveProbeTimeouts) : later.Counts plane := by
  refine ⟨history ▸ counts.inOrder, ?_⟩
  rw [history, record]
  exact counts.missed

theorem Counts.reply {run later : WatchedRun numPlanes} {plane : Fin numPlanes}
    {datagram : List UInt8} {nowNs : Int} (counts : run.Counts plane) (faithful : run.Faithful)
    (inTurn : run.inTurn (.reply datagram nowNs))
    (stepped : run.next (.reply datagram nowNs) = some later) : later.Counts plane := by
  obtain ⟨moved, recorded⟩ := next_eq stepped
  obtain ⟨mono, moved⟩ := AgentRun.next_reply moved
  have healthy := faithful.healthy.later mono
  have agentEq : later.agent = (run.agent.replyRx datagram nowNs).agent := by rw [moved]
  cases decoded : decodeProbeReply (datagram.take defaultRecvBufsize) with
  | error error =>
      refine counts.of_eq ?_ ?_
      · simp only [recorded, WatchedRun.recorded, AgentAction.clockCall, decoded]
      · rw [agentEq, SenderMrcAgent.replyRx_undecodable decoded]
  | ok parsed =>
      by_cases inRange : parsed.planeId.toNat < numPlanes
      · obtain ⟨index, names⟩ : ∃ index : Fin numPlanes, (index : Nat) = parsed.planeId.toNat :=
          ⟨⟨_, inRange⟩, rfl⟩
        have record := SenderMrcAgent.replyRx_record healthy decoded names plane
        rw [← agentEq] at record
        simp only [WatchedRun.recorded, AgentAction.clockCall, decoded, ProbeHistory.after,
          ← names, ProbeClock.matchReply_fin] at recorded
        by_cases found : (run.agent.probeClock.outstanding index).find? parsed.reqId.toNat =
            some (parsed.txNs.toNat : Int)
        · simp only [if_pos found, Int.natCast_inj, Fin.val_inj] at recorded
          by_cases here : plane = index
          · subst here
            simp only [WatchedRun.inTurn, AgentAction.clockCall, decoded] at inTurn
            have oldest := of_decide_eq_true inTurn plane (congrArg Int.ofNat names) found
            have history := congrFun recorded plane
            rw [if_pos rfl] at history
            rw [if_pos ⟨found, rfl⟩] at record
            refine ⟨?_, ?_⟩
            · rw [history]
              exact counts.inOrder.resolve ProbeFate.noConfusion _
            · rw [history, record]
              exact counts.missed.answer (faithful.tracks.nodup_waiting plane) oldest _
          · rw [if_neg fun both => here both.2] at record
            have history := congrFun recorded plane
            rw [if_neg here] at history
            exact counts.of_eq history record
        · rw [if_neg fun both => found both.1] at record
          refine counts.of_eq ?_ record
          simp only [recorded, if_neg found]
      · refine counts.of_eq ?_ ?_
        · simp only [recorded, WatchedRun.recorded, AgentAction.clockCall, decoded,
            ProbeHistory.after, ProbeClock.matchReply, checkPlane_of_le (not_lt.mp inRange), bind,
            Except.bind]
        · rw [agentEq, SenderMrcAgent.replyRx, decoded]
          dsimp only
          rw [ProbeClock.matchReply, checkPlane_of_le (not_lt.mp inRange)]
          rfl

/-- What a sweep does to a plane: its record counts the timeouts the history gains, and is
demoted only once there are enough of them. -/
theorem Counts.sweep {run later : WatchedRun numPlanes} {plane : Fin numPlanes} {nowNs : Int}
    (counts : run.Counts plane) (faithful : run.Faithful)
    (stepped : run.next (.sweep nowNs) = some later) :
    later.Counts plane ∧
      ((run.agent.record plane).state ≠ .assumedBad →
        (later.agent.record plane).state = .assumedBad →
        run.agent.table.cfg.probeFailThreshold ≤
          (later.agent.record plane).consecutiveProbeTimeouts) := by
  obtain ⟨moved, recorded⟩ := next_eq stepped
  have agentEq : later.agent = (run.agent.sweep nowNs).agent := by
    rw [(AgentRun.next_sweep moved).2]
  obtain ⟨-, bound, demotes⟩ := SenderMrcAgent.recordTimeouts_record
    { run.agent with probeClock := (run.agent.probeClock.sweepTimeouts nowNs).1 }
    (run.agent.probeClock.sweepTimeouts nowNs).2 plane
  rw [ProbeClock.countP_sweepTimeouts, faithful.tracks.countP_due] at bound
  rw [agentEq]
  refine ⟨⟨?_, ?_⟩, demotes⟩
  · rw [recorded]
    exact counts.inOrder.sweep _
  · rw [recorded, agentEq]
    exact (counts.missed.sweep _).mono bound

theorem Counts.start (agent : SenderMrcAgent numPlanes) (startNs : Int) (plane : Fin numPlanes)
    (fresh : (agent.record plane).consecutiveProbeTimeouts = 0) :
    (watchedMachine agent startNs).start.Counts plane := by
  refine ⟨List.Pairwise.nil, [], [], rfl, ?_, ?_, le_of_eq fresh⟩
  · intro probe mem
    cases mem
  · intro probe mem
    cases mem

theorem Counts.next {run later : WatchedRun numPlanes} {plane : Fin numPlanes}
    {action : AgentAction numPlanes} (counts : run.Counts plane) (faithful : run.Faithful)
    (sequential : run.sequential action) (stepped : run.next action = some later) :
    later.Counts plane := by
  obtain ⟨steady, inTurn⟩ := (Bool.and_eq_true _ _).mp sequential
  obtain ⟨moved, recorded⟩ := next_eq stepped
  cases action with
  | sent where_ =>
      obtain ⟨counters, moved⟩ := AgentRun.next_sent moved
      exact counts.of_eq (by rw [recorded]; rfl) (by rw [moved]; rfl)
  | emit where_ nowNs =>
      obtain ⟨probeClock, reqId, txNs, -, moved⟩ := AgentRun.next_emit moved
      have record : later.agent.record plane = run.agent.record plane := by
        rw [moved]
        rfl
      by_cases here : plane = where_
      · subst here
        have history := congrFun recorded plane
        simp only [WatchedRun.recorded, AgentAction.clockCall, ProbeHistory.after,
          Function.update_self] at history
        refine ⟨?_, ?_⟩
        · rw [history]
          refine (counts.inOrder.resolve ProbeFate.noConfusion _).concat rfl ?_
          intro other mem
          obtain ⟨before, member, rfl⟩ := List.mem_map.mp mem
          rw [SentProbe.resolve_txNs]
          exact of_decide_eq_true steady before member
        · rw [history, record]
          exact counts.missed.emit _ rfl
      · refine counts.of_eq ?_ (by rw [record])
        rw [recorded]
        simp only [WatchedRun.recorded, AgentAction.clockCall, ProbeHistory.after,
          Function.update_of_ne here]
  | sweep nowNs => exact (counts.sweep faithful stepped).1
  | rotate nowNs =>
      obtain ⟨-, sentRing, moved⟩ := AgentRun.next_rotate moved
      exact counts.of_eq (by rw [recorded]; rfl) (by rw [moved]; rfl)
  | reply datagram nowNs => exact counts.reply faithful inTurn stepped
  | report datagram nowNs =>
      obtain ⟨-, moved⟩ := AgentRun.next_report moved
      refine counts.of_eq (by rw [recorded]; rfl) ?_
      rw [moved]
      exact run.agent.reportRx_record datagram nowNs plane

end WatchedRun

/-- In every run under a clock that does not run backwards in which every reply that is
credited is for the oldest waiting probe of its plane: if a sweep demotes a plane, then
the history of the plane has `probe_fail_threshold` probes in a row that got no reply in
time. -/
theorem demotion_means_consecutive_misses {topo : Topo} {tenants : List String}
    {evCfg : EVStateConfig} {table : EVStateTable topo.numPlanes} {tenant : String}
    {srcId dstId : Int} {cfg : AgentConfig} {startNs : Int} {agent : SenderMrcAgent topo.numPlanes}
    (built : EVStateTable.init tenants topo.numPlanes evCfg = .ok table)
    (constructed : SenderMrcAgent.init topo tenant srcId dstId table cfg startNs = .ok agent)
    {actions : List (AgentAction topo.numPlanes)} {nowNs : Int}
    {run later : WatchedRun topo.numPlanes}
    (ran : (watchedMachine agent startNs).run (watchedMachine agent startNs).start actions =
      some run)
    (sequential : (watchedMachine agent startNs).along WatchedRun.sequential
      (watchedMachine agent startNs).start actions)
    (swept : run.next (.sweep nowNs) = some later) (plane : Fin topo.numPlanes)
    (before : (run.agent.record plane).state ≠ .assumedBad)
    (after : (later.agent.record plane).state = .assumedBad) :
    ∃ first, ∀ index : Nat, (index : Int) < evCfg.probeFailThreshold →
      ∃ probe, (later.history plane)[first + index]? = some probe ∧ probe.Missed := by
  obtain ⟨known, rfl, rfl, -⟩ := init_agent constructed
  obtain ⟨-, tenantsEq, cfgEq, -, -, planesEq, -⟩ := EVStateTable.init_ok built
  have fresh : agent.record plane = {} := by
    have found := planesEq agent.tenant
    rw [if_pos (by rwa [tenantsEq] at known)] at found
    rw [SenderMrcAgent.record, EVStateTable.row_of_find? found]
  obtain ⟨faithful, counts, sameCfg⟩ := Machine.along_invariant
    (motive := fun run => run.Faithful ∧ run.Counts plane ∧ run.agent.table.cfg = evCfg)
    (fun _ _ _ ⟨faithful, counts, sameCfg⟩ allowed stepped =>
      ⟨faithful.next stepped, counts.next faithful allowed stepped,
        AgentRun.next_table (fun _ _ _ same called =>
          (EVStateTable.call_frame called).2.1.trans same) sameCfg (WatchedRun.next_eq stepped).1⟩)
    sequential ran ⟨init_faithful built constructed,
      WatchedRun.Counts.start agent startNs plane (by rw [fresh]), cfgEq⟩
  obtain ⟨⟨inOrder, missed⟩, demotes⟩ := counts.sweep faithful swept
  obtain ⟨first, streak⟩ := missed.consecutive inOrder
  have enough := demotes before after
  rw [sameCfg] at enough
  refine ⟨first, fun index small => streak index ?_⟩
  exact_mod_cast small.trans_le enough

/-- Three probes without a reply demote their plane. -/
theorem three_misses_demote : ∃ run later : WatchedRun 4,
    (watchedMachine (greenAgent 4 15) 0).run (watchedMachine (greenAgent 4 15) 0).start
      [.emit 0 0, .emit 0 200000000, .emit 0 400000000] = some run ∧
    run.next (.sweep 600000000) = some later ∧
    ∃ first, ∀ index : Nat, (index : Int) < ({} : EVStateConfig).probeFailThreshold →
      ∃ probe, (later.history 0)[first + index]? = some probe ∧ probe.Missed := by
  obtain ⟨run, later, ran, swept, before, after⟩ : ∃ run later : WatchedRun 4,
      (watchedMachine (greenAgent 4 15) 0).run (watchedMachine (greenAgent 4 15) 0).start
        [.emit 0 0, .emit 0 200000000, .emit 0 400000000] = some run ∧
      run.next (.sweep 600000000) = some later ∧
      (run.agent.record 0).state ≠ .assumedBad ∧ (later.agent.record 0).state = .assumedBad :=
    ⟨_, _, rfl, rfl, by decide +kernel, by decide +kernel⟩
  refine ⟨run, later, ran, swept, ?_⟩
  exact demotion_means_consecutive_misses init_greenTable_four init_greenAgent_four ran
    (by decide +kernel) swept (0 : Fin 4) before after

/-- The reply to the second probe of plane 0, sent at 200 ms. -/
def secondReply : List UInt8 := pack (probeFields magicProbeReply 1 0 200000000 0 1 0 9997)

/-- Four probes, one every 200 ms; the reply to the second comes 1 ms after it was sent, and
before the sweep that ends the first. -/
def overtakenProbe : List (AgentAction 4) :=
  [.emit 0 0, .emit 0 200000000, .reply secondReply 201000000, .sweep 250000000,
    .emit 0 400000000, .sweep 450000000, .emit 0 600000000, .sweep 650000000]

/-- Three of the four probes are missed, not in a row, and the plane is demoted. -/
theorem demoted_without_three_misses : ∃ run later : WatchedRun 4,
    (watchedMachine (greenAgent 4 15) 0).run (watchedMachine (greenAgent 4 15) 0).start
      overtakenProbe = some run ∧
    (watchedMachine (greenAgent 4 15) 0).along WatchedRun.steady
      (watchedMachine (greenAgent 4 15) 0).start overtakenProbe ∧
    run.next (.sweep 850000000) = some later ∧
    (run.agent.record 0).state ≠ .assumedBad ∧ (later.agent.record 0).state = .assumedBad ∧
    ¬ ∃ first, ∀ index : Nat, (index : Int) < ({} : EVStateConfig).probeFailThreshold →
      ∃ probe, (later.history 0)[first + index]? = some probe ∧ probe.Missed := by
  obtain ⟨run, later, ran, steady, swept, before, after, history⟩ : ∃ run later : WatchedRun 4,
      (watchedMachine (greenAgent 4 15) 0).run (watchedMachine (greenAgent 4 15) 0).start
        overtakenProbe = some run ∧
      (watchedMachine (greenAgent 4 15) 0).along WatchedRun.steady
        (watchedMachine (greenAgent 4 15) 0).start overtakenProbe ∧
      run.next (.sweep 850000000) = some later ∧
      (run.agent.record 0).state ≠ .assumedBad ∧ (later.agent.record 0).state = .assumedBad ∧
      later.history 0 = [⟨0, 0, .timedOut⟩, ⟨1, 200000000, .answered 1000000⟩,
        ⟨2, 400000000, .timedOut⟩, ⟨3, 600000000, .timedOut⟩] :=
    ⟨_, _, rfl, by decide +kernel, rfl, by decide +kernel, by decide +kernel, by decide +kernel⟩
  refine ⟨run, later, ran, steady, swept, before, after, ?_⟩
  rintro ⟨first, streak⟩
  rw [history] at streak
  obtain ⟨zeroth, here, missed⟩ := streak 0 (by decide)
  obtain ⟨next, there, missedNext⟩ := streak 1 (by decide)
  obtain ⟨last, end_, -⟩ := streak 2 (by decide)
  rcases first with _ | _ | first
  · cases there
    exact absurd missedNext (by decide)
  · cases here
    exact absurd missed (by decide)
  · simp at end_

end Srv6Fabric.Mrc

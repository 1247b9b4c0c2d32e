import Srv6Fabric.Failover
import Srv6Fabric.PlaneFlight

/-!
# How far spray reorders

Over planes that keep their order, a flow that stays on one plane arrives in order.  A policy
that comes back to a plane after a period reorders by less than a period for each packet that a
plane can hold, as long as no packet is lost.
-/

namespace Srv6Fabric

open Library Sender Policy

/-! ## Periods -/

namespace Policy.PlainPolicy

/-- After how many packets a policy picks the same again. -/
def period (numPlanes : Nat) : PlainPolicy → Nat
  | roundRobin => numPlanes
  | hash5Tuple => 1
  | weighted _ => 2 ^ 64
  | healthAware inner _ => inner.period numPlanes

theorem pick_add_period (numPlanes : Nat) (policy : PlainPolicy) (seq : Int) (rounds : Nat)
    (flow : FlowKey) :
    policy.pick numPlanes (seq + rounds * policy.period numPlanes) flow =
      policy.pick numPlanes seq flow := by
  induction policy with
  | roundRobin =>
      rw [pick, pick, period, Int.add_mul_emod_self_right]
  | hash5Tuple => rfl
  | weighted weights =>
      have level : drawLevel (seq + rounds * (2 ^ 64 : Nat)) flow = drawLevel seq flow := by
        unfold drawLevel
        dsimp only
        congr 2
        push_cast
        rw [add_mul, mul_right_comm, ← add_assoc, Int.add_mul_emod_self_right]
      rw [pick, pick, period, weightedPick, level, weightedPick]
  | healthAware inner down ih =>
      have same : inner.pick numPlanes (seq + rounds * (inner.healthAware down).period numPlanes) flow =
          inner.pick numPlanes seq flow := ih
      rw [pick, pick, Health.healthAwarePick, Health.healthAwarePick, same]

theorem period_pos {numPlanes : Nat} {policy : PlainPolicy} (wellFormed : policy.WellFormed numPlanes) :
    0 < policy.period numPlanes := by
  induction policy with
  | roundRobin => exact wellFormed
  | hash5Tuple => exact Nat.one_pos
  | weighted weights => exact Nat.two_pow_pos 64
  | healthAware inner down ih => exact ih wellFormed.1

/-- The policy as the loop calls it. -/
def onTurn (policy : PlainPolicy) (topo : Topo) (seq : Nat) (flow : FlowKey) : Except PyError Int :=
  .ok (policy.pick topo.numPlanes seq flow)

end Policy.PlainPolicy

/-- The planes of a run are those its policy picks. -/
theorem Sender.spray_picks {topo : Topo} {setup : SenderSetup} {name : String} {interval : ℚ}
    {deadline : Option ℚ} (policy : PlainPolicy) (loop : Loop) {turns : List Turn}
    (picks : ∀ turn ∈ turns, turn.pick = policy.onTurn topo) :
    ∀ attempt ∈ (spray topo setup name interval deadline loop turns).1,
      attempt.plane = policy.pick topo.numPlanes attempt.seq setup.flowKey := by
  induction turns generalizing loop with
  | nil => exact fun _ mem => absurd mem List.not_mem_nil
  | cons turn rest ih =>
      rcases spray_cons topo setup name interval deadline loop turn rest with
        ⟨attempt, sent, -, returned, goesOn⟩ | ⟨_, ended, -⟩
      · obtain ⟨number, -, picked, -⟩ := transmit_ok returned
        rw [goesOn]
        intro other mem
        rcases List.mem_cons.mp mem with rfl | later
        · rw [picks turn List.mem_cons_self] at picked
          rw [number]
          exact (Int.natCast_inj.mp (Except.ok.inj picked)).symm
        · exact ih (pace interval sent turn) (fun turn mem => picks turn (List.mem_cons_of_mem _ mem))
            other later
      · rw [ended]
        exact fun _ mem => absurd mem List.not_mem_nil

/-! ## Arrivals in order -/

namespace Trace

/-- The largest number so far is that of an arrival. -/
theorem latest_cases (arrivals : List Arrival) :
    latest arrivals = -1 ∨ ∃ arrival ∈ arrivals, arrival.seq = latest arrivals := by
  cases top : (arrivals.map Arrival.seq).max? with
  | none => exact Or.inl (by rw [latest, top, Option.getD_none])
  | some seq =>
      obtain ⟨arrival, mem, isSeq⟩ := List.mem_map.mp (List.max?_eq_some_iff.mp top).1
      exact Or.inr ⟨arrival, mem, by rw [latest, top, Option.getD_some, isSeq]⟩

variable (flow : FlowKey) {arrivals : List Arrival}
  (ascending : (arrivals.map Arrival.seq).Pairwise (· < ·))
  (nonneg : ∀ arrival ∈ arrivals, 0 ≤ arrival.seq)

include ascending nonneg

theorem behind_of_ascending {earlier : List Arrival} {arrival : Arrival}
    (mem : (earlier, arrival) ∈ received arrivals) : behind earlier arrival = 0 := by
  obtain ⟨later, rfl⟩ := mem_withEarlier (List.mem_of_mem_filter mem)
  rw [List.map_append, List.pairwise_append] at ascending
  obtain ⟨-, -, before⟩ := ascending
  have isLatest : latest earlier < arrival.seq := by
    rcases latest_cases earlier with start | ⟨other, isEarlier, same⟩
    · have := nonneg arrival (by simp)
      omega
    · rw [← same]
      exact before _ (List.mem_map_of_mem isEarlier) _ (by simp)
  rw [behind, max_eq_left (by omega)]

/-- A flow in order has no reordering, and its loss is what is missing. -/
theorem stats_of_ascending :
    (∀ distance ≠ 0, (stats flow arrivals).reorderHist.find? distance = none) ∧
      (stats flow arrivals).loss = missing (stats flow arrivals) arrivals := by
  refine ⟨fun distance apart => ?_, ?_⟩
  · refine (reorderHist_find? flow arrivals distance).trans (if_pos ?_)
    refine List.countP_eq_zero.mpr fun ⟨earlier, arrival⟩ mem => ?_
    dsimp only
    rw [behind_of_ascending ascending nonneg mem]
    simpa using apart.symm
  · have distinct := ascending.imp fun less => ne_of_lt less
    cases arrivals with
    | nil => rfl
    | cons first rest =>
        have lowest : ∀ arrival ∈ first :: rest, first.seq ≤ arrival.seq := by
          intro arrival mem
          rcases List.mem_cons.mp mem with rfl | later
          · exact le_rfl
          · exact (List.rel_of_pairwise_cons ascending (List.mem_map_of_mem later)).le
        have covered : seqs (first :: rest) ⊆ span first.seq (latest (first :: rest)) := by
          intro seq mem
          obtain ⟨arrival, isArrival, rfl⟩ := mem_seqs.mp mem
          exact mem_span.mpr ⟨lowest arrival isArrival, le_latest isArrival⟩
        have size : (seqs (first :: rest)).card = (first :: rest).length := by
          rw [seqs, List.toFinset_card_of_nodup distinct, List.length_map]
        have all := (stats_of_nodup flow distinct).1
        have ordered : first.seq ≤ latest (first :: rest) := le_latest List.mem_cons_self
        have fewer := Finset.card_le_card covered
        rw [card_span] at fewer
        change max 0 (latest (first :: rest) - first.seq + 1 -
          ((stats flow (first :: rest)).received : Int)) =
          ((span first.seq (latest (first :: rest)) \ seqs (first :: rest)).card : Int)
        rw [Finset.card_sdiff_of_subset covered, card_span, all, ← size]
        omega

end Trace

/-! ## A flow on one plane -/

namespace Flight

variable (key : FlowKey) {events : List FlightEvent}

/-- Where all calls are on one plane, what came over it is all that came. -/
theorem departed_eq_left {plane : Nat} (pinned : ∀ attempt ∈ calls events, attempt.plane = plane) :
    (run key events).arrivals.map Arrival.seq =
      ((run key events).lanes.left plane).map fun seq : Nat => (seq : Int) := by
  have all : ((run key events).lanes.departed.filter fun packet => packet.1 = plane) =
      (run key events).lanes.departed := by
    refine List.filter_eq_self.mpr fun packet mem => decide_eq_true ?_
    obtain ⟨attempt, isCall, onPlane, -⟩ := mem_left (mem_left_of_departed mem)
    exact onPlane ▸ pinned attempt isCall
  rw [Lanes.left, all, arrivals, List.map_map, List.map_map]
  rfl

/-- Numbers in the order of the calls. -/
def Numbered (attempts : List Attempt) : Prop :=
  attempts.map Attempt.seq = List.range' 0 attempts.length

theorem Numbered.lt_length {attempts : List Attempt} (numbered : Numbered attempts) {attempt : Attempt}
    (mem : attempt ∈ attempts) : attempt.seq < attempts.length := by
  have inRange := List.mem_map_of_mem (f := Attempt.seq) mem
  rw [show attempts.map Attempt.seq = _ from numbered, List.mem_range'_1] at inRange
  omega

theorem Numbered.exists_attempt {attempts : List Attempt} (numbered : Numbered attempts) {seq : Nat}
    (small : seq < attempts.length) : ∃ attempt ∈ attempts, attempt.seq = seq := by
  refine List.mem_map.mp ?_
  rw [show attempts.map Attempt.seq = _ from numbered, List.mem_range'_1]
  omega

variable (numbered : Numbered (calls events))

include numbered

/-- Each plane keeps the order of the calls. -/
theorem pairwise_left (plane : Nat) :
    ((run key events).lanes.left plane ++ (run key events).lanes.waiting plane).Pairwise (· < ·) := by
  have sorted : ((calls events).map Attempt.seq).Pairwise (· < ·) := by
    rw [show (calls events).map Attempt.seq = _ from numbered]
    exact List.pairwise_lt_range'
  rw [run_lanes]
  refine List.Pairwise.sublist (Lanes.inOrder _ plane) ?_
  rw [entered_eq]
  exact sorted.sublist (List.filter_sublist.map _)

/-- Of what is missing between two arrivals of one plane nothing is on its way. -/
theorem missing_is_gone {plane : Nat} (pinned : ∀ attempt ∈ calls events, attempt.plane = plane)
    {seq last : Nat} (came : last ∈ (run key events).lanes.left plane) (below : seq ≤ last)
    (missing : seq ∉ (run key events).lanes.left plane) :
    ∃ attempt ∈ calls events, attempt.seq = seq ∧
      (attempt.refused = true ∨ seq ∈ (run key events).lanes.lost attempt.plane) := by
  obtain ⟨lastCall, lastMem, -, -, rfl⟩ := mem_left came
  obtain ⟨attempt, mem, rfl⟩ :=
    numbered.exists_attempt (below.trans_lt (numbered.lt_length lastMem))
  refine ⟨attempt, mem, rfl, ?_⟩
  cases refused : attempt.refused with
  | true => exact Or.inl rfl
  | false =>
      right
      have onPlane := pinned attempt mem
      have entered : attempt.seq ∈ Lanes.entered plane (events.map FlightEvent.onLanes) := by
        rw [entered_eq]
        exact List.mem_map_of_mem (List.mem_filter.mpr ⟨mem, decide_eq_true ⟨onPlane, refused⟩⟩)
      have place := (Lanes.conserved (events.map FlightEvent.onLanes) plane).symm.subset entered
      rw [← run_lanes key, List.mem_append, List.mem_append] at place
      rcases place with (arrived | waits) | lost
      · exact absurd arrived missing
      · -- what waits is behind all that came
        have behind := (List.pairwise_append.mp (pairwise_left key numbered plane)).2.2 _ came _ waits
        omega
      · exact onPlane ▸ lost

end Flight

section

variable {topo : Topo} {flow : FlowEndpoint} {name : String} {ratePps : Int} {durationS tStart : ℚ}
  {turns : List Turn} {attempts : List Attempt} {last : Loop} {ending : Ending} {policy : PlainPolicy}

/-- The planes of a whole run. -/
theorem runSender_planes (picks : ∀ turn ∈ turns, turn.pick = policy.onTurn topo)
    (ran : runSender topo flow name ratePps durationS tStart turns = .ok (attempts, last, ending)) :
    ∃ flowKey, ∀ attempt ∈ attempts,
      attempt.plane = policy.pick topo.numPlanes attempt.seq flowKey := by
  obtain ⟨setup, -, sprayed⟩ := bind_eq_ok ran
  have planes : ∀ attempt ∈ (spray topo setup name (intervalOf ratePps)
      (deadlineOf tStart durationS) { nextTx := tStart } turns).1,
        attempt.plane = policy.pick topo.numPlanes attempt.seq setup.flowKey :=
    spray_picks policy { nextTx := tStart } picks
  rw [Except.ok.inj sprayed] at planes
  exact ⟨setup.flowKey, planes⟩

/-- A flow that `hash5tuple` keeps on one plane arrives in order and without duplicates, whatever
the plane drops, and at every moment its loss is the number of packets that `sendto` refused or
the plane lost between the first and the last to come: none that is still on its way. -/
theorem pinned_flow_in_order
    (ran : runSender topo flow name ratePps durationS tStart turns = .ok (attempts, last, ending))
    (picks : ∀ turn ∈ turns, turn.pick = PlainPolicy.hash5Tuple.onTurn topo)
    {events : List FlightEvent} (sent : Flight.calls events = attempts) (key : FlowKey) :
    let flight := Flight.run key events
    flight.stats.duplicates = 0 ∧
      (∀ distance ≠ 0, flight.stats.reorderHist.find? distance = none) ∧
      flight.stats.loss = Trace.missing flight.stats flight.arrivals ∧
      ∀ first ∈ flight.stats.firstSeq,
        ∀ seq ∈ Trace.span first flight.stats.lastSeqSeen \ Trace.seqs flight.arrivals,
          ∃ attempt ∈ attempts, (attempt.seq : Int) = seq ∧
            (attempt.refused = true ∨ attempt.seq ∈ flight.lanes.lost attempt.plane) := by
  intro flight
  subst sent
  have numbered : Flight.Numbered (Flight.calls events) := (runSender_books ran).1
  obtain ⟨flowKey, planes⟩ := runSender_planes picks ran
  have pinned : ∀ attempt ∈ Flight.calls events, attempt.plane = flowKey.hash5 % topo.numPlanes :=
    planes
  have ascending : (flight.arrivals.map Arrival.seq).Pairwise (· < ·) := by
    rw [Flight.departed_eq_left key pinned]
    refine List.pairwise_map.mpr ?_
    exact ((Flight.pairwise_left key numbered _).sublist (List.sublist_append_left _ _)).imp
      fun less => Int.ofNat_lt.mpr less
  have nonneg : ∀ arrival ∈ flight.arrivals, 0 ≤ arrival.seq := by
    intro arrival mem
    obtain ⟨packet, -, rfl⟩ := List.mem_map.mp mem
    exact Int.natCast_nonneg _
  have stats : flight.stats = Trace.stats key flight.arrivals := Flight.run_stats key events
  obtain ⟨histogram, loss⟩ := Trace.stats_of_ascending key ascending nonneg
  have fresh := (Trace.stats_of_nodup key (ascending.imp fun less => ne_of_lt less)).2.1
  rw [← stats] at histogram loss fresh
  refine ⟨fresh, histogram, loss, fun first isFirst seq mem => ?_⟩
  have came (number : Nat) : (number : Int) ∈ Trace.seqs flight.arrivals ↔
      number ∈ flight.lanes.left (flowKey.hash5 % topo.numPlanes) := by
    rw [Trace.seqs, List.mem_toFinset, Flight.departed_eq_left key pinned]
    simp [flight]
  have sameFirst : flight.stats.firstSeq = (flight.arrivals.map Arrival.seq).head? := by
    rw [stats]
    rfl
  have sameLast : flight.stats.lastSeqSeen = Trace.latest flight.arrivals := by
    rw [stats]
    rfl
  obtain ⟨inSpan, notCome⟩ := Finset.mem_sdiff.mp mem
  obtain ⟨low, high⟩ := Trace.mem_span.mp inSpan
  rw [sameFirst] at isFirst
  obtain ⟨firstArrival, firstMem, rfl⟩ := List.mem_map.mp (List.mem_of_mem_head? isFirst)
  have start := nonneg firstArrival firstMem
  obtain ⟨number, rfl⟩ := Int.eq_ofNat_of_zero_le (start.trans low)
  obtain ⟨lastArrival, lastMem, isLast⟩ : ∃ arrival ∈ flight.arrivals,
      arrival.seq = flight.stats.lastSeqSeen := by
    rw [sameLast]
    refine (Trace.latest_cases flight.arrivals).resolve_left fun none => ?_
    rw [sameLast, none] at high
    omega
  obtain ⟨lastNumber, isNumber⟩ := Int.eq_ofNat_of_zero_le (nonneg lastArrival lastMem)
  have lastCame : lastNumber ∈ flight.lanes.left (flowKey.hash5 % topo.numPlanes) :=
    (came lastNumber).mp (Trace.mem_seqs.mpr ⟨lastArrival, lastMem, isNumber⟩)
  obtain ⟨attempt, isCall, rfl, gone⟩ := Flight.missing_is_gone key numbered pinned lastCame
    (by omega : number ≤ lastNumber) (mt (came number).mpr notCome)
  exact ⟨attempt, isCall, rfl, gone⟩

end

/-- Four calls of a policy, none refused. -/
def fourCalls (policy : PlainPolicy) : List Turn :=
  (List.range 4).map fun index =>
    { gate := index, pick := policy.onTurn Topo.twoPlanes, sentAt := index, reading := index,
      again := index }

theorem fourCalls_pick (policy : PlainPolicy) :
    ∀ turn ∈ fourCalls policy, turn.pick = policy.onTurn Topo.twoPlanes := by
  intro turn mem
  obtain ⟨index, -, rfl⟩ := List.mem_map.mp mem
  rfl

/-- The plane drops the second packet, and the fourth is on its way. -/
theorem pinned_flow_in_order_of_four : ∃ attempts last ending,
    runSender Topo.twoPlanes ⟨"green", 0, 7, 9999, 9999⟩ "hash5tuple" 0 0 0 (fourCalls .hash5Tuple) =
        .ok (attempts, last, ending) ∧
      let flight := Flight.run .greenFlow
        (attempts.map .sent ++ [.arrived 0, .dropped 0 0, .arrived 0])
      flight.stats.duplicates = 0 ∧ flight.stats.loss = Trace.missing flight.stats flight.arrivals := by
  have returns : (runSender Topo.twoPlanes ⟨"green", 0, 7, 9999, 9999⟩ "hash5tuple" 0 0 0
      (fourCalls .hash5Tuple)).isOk = true := by decide +kernel
  cases ran : runSender Topo.twoPlanes ⟨"green", 0, 7, 9999, 9999⟩ "hash5tuple" 0 0 0
      (fourCalls .hash5Tuple) with
  | error error =>
      rw [ran] at returns
      cases returns
  | ok outcome =>
      obtain ⟨attempts, last, ending⟩ := outcome
      have sent : Flight.calls (attempts.map .sent ++ [.arrived 0, .dropped 0 0, .arrived 0]) =
          attempts := (Flight.calls_sent attempts _).trans (List.append_nil _)
      obtain ⟨fresh, -, loss, -⟩ :=
        pinned_flow_in_order ran (fourCalls_pick .hash5Tuple) sent .greenFlow
      exact ⟨attempts, last, ending, rfl, fresh, loss⟩

/-! ## Spray over planes that lose nothing -/

theorem Flight.Numbered.of_append {attempts more : List Attempt}
    (numbered : Flight.Numbered (attempts ++ more)) : Flight.Numbered attempts := by
  have whole : attempts.map Attempt.seq ++ more.map Attempt.seq =
      List.range' 0 attempts.length ++ List.range' attempts.length more.length := by
    have joined := List.range'_append_1 (s := 0) (m := attempts.length) (n := more.length)
    rw [Nat.zero_add] at joined
    rw [joined, ← List.map_append, ← List.length_append]
    exact numbered
  exact (List.append_inj whole (by simp)).1

namespace Flight

variable {key : FlowKey} {events : List FlightEvent} {pick : Nat → Nat} {period depth : Nat}

/-- Nothing waits in a plane that no call is on. -/
theorem waiting_eq_nil {plane : Nat} (unused : ∀ attempt ∈ calls events, attempt.plane ≠ plane) :
    (run key events).lanes.waiting plane = [] := by
  have order := Lanes.inOrder (events.map FlightEvent.onLanes) plane
  have none_ : (calls events).filter (fun attempt => attempt.plane = plane ∧ attempt.refused = false) =
      [] := List.filter_eq_nil_iff.mpr fun attempt mem => by simp [unused attempt mem]
  rw [← run_lanes key, entered_eq, none_, List.map_nil, List.sublist_nil] at order
  exact (List.append_eq_nil_iff.mp order).2

/-- What of a plane's packets is numbered from the oldest that waits waits too. -/
theorem latest_lt (positive : 0 < period)
    (periodic : ∀ seq rounds, pick (seq + rounds * period) = pick seq)
    (numbered : Numbered (calls events))
    (sprayed : ∀ attempt ∈ calls events, attempt.plane = pick attempt.seq ∧ attempt.refused = false)
    (lossless : ∀ plane place, .dropped plane place ∉ events) {plane seq : Nat} {rest : List Nat}
    (waits : (run key events).lanes.waiting plane = seq :: rest) (held : rest.length < depth) :
    Trace.latest (run key events).arrivals - seq < period * depth := by
  by_contra far
  rw [not_lt] at far
  have whole : (run key events).lanes.left plane ++ seq :: rest =
      ((calls events).filter fun attempt => attempt.plane = plane ∧ attempt.refused = false).map
        Attempt.seq := by
    rw [← waits, run_lanes, ← entered_eq]
    refine Lanes.lossless fun place mem => ?_
    obtain ⟨event, isEvent, onLane⟩ := List.mem_map.mp mem
    cases event with
    | sent attempt =>
        rw [FlightEvent.onLanes] at onLane
        split at onLane
        · cases onLane
        · cases onLane
    | arrived _ => cases onLane
    | dropped other where_ =>
        obtain ⟨rfl, rfl⟩ := LaneEvent.lose.inj onLane
        exact lossless _ _ isEvent
  have ownPlane : pick seq = plane := by
    have mem : seq ∈ (run key events).lanes.left plane ++ seq :: rest := by simp
    rw [whole] at mem
    obtain ⟨attempt, isOwn, rfl⟩ := List.mem_map.mp mem
    obtain ⟨isCall, onPlane⟩ := List.mem_filter.mp isOwn
    rw [← (sprayed attempt isCall).1]
    exact (of_decide_eq_true onPlane).1
  -- the latest arrival was sent after as many packets of this plane as do not fit it
  have nonneg : (0 : Int) ≤ period * depth := by positivity
  obtain ⟨arrival, came, isLatest⟩ := (Trace.latest_cases (run key events).arrivals).resolve_left
    (by omega)
  obtain ⟨packet, departed, rfl⟩ := List.mem_map.mp came
  obtain ⟨latest, isCall, -, -, latestSeq⟩ := mem_left (mem_left_of_departed departed)
  have latestSent := numbered.lt_length isCall
  have reaches : seq + period * depth ≤ latest.seq := by
    have distance : (packet.2 : Int) = Trace.latest (run key events).arrivals := isLatest
    rw [latestSeq]
    omega
  have allWait : (List.range (depth + 1)).map (fun round => seq + round * period) ⊆ seq :: rest := by
    intro number mem
    obtain ⟨round, inRange, rfl⟩ := List.mem_map.mp mem
    have before : round * period ≤ period * depth := by
      rw [Nat.mul_comm period]
      exact Nat.mul_le_mul_right _ (Nat.lt_succ_iff.mp (List.mem_range.mp inRange))
    obtain ⟨attempt, sent, isSeq⟩ := numbered.exists_attempt
      (show seq + round * period < (calls events).length by omega)
    have onPlane : attempt.plane = plane := by
      rw [(sprayed attempt sent).1, isSeq, periodic, ownPlane]
    have entered : seq + round * period ∈ (run key events).lanes.left plane ++ seq :: rest := by
      rw [whole, ← isSeq]
      exact List.mem_map_of_mem (List.mem_filter.mpr
        ⟨sent, decide_eq_true ⟨onPlane, (sprayed attempt sent).2⟩⟩)
    refine (List.mem_append.mp entered).resolve_left fun gone => ?_
    have behind := (List.pairwise_append.mp (pairwise_left key numbered plane)).2.2 _ gone seq
      (by rw [waits]; exact List.mem_cons_self)
    omega
  have distinct : ((List.range (depth + 1)).map fun round => seq + round * period).Nodup := by
    refine List.Nodup.map_on (fun round _ other _ same => ?_) List.nodup_range
    exact Nat.eq_of_mul_eq_mul_right positive (Nat.add_left_cancel same)
  have fits := (List.subperm_of_subset distinct allWait).length_le
  rw [List.length_map, List.length_range, List.length_cons] at fits
  omega

variable (pick) in
/-- Nothing came further behind. -/
theorem behind_lt (positive : 0 < period)
    (periodic : ∀ seq rounds, pick (seq + rounds * period) = pick seq)
    (some_ : 0 < depth) (numbered : Numbered (calls events))
    (sprayed : ∀ attempt ∈ calls events, attempt.plane = pick attempt.seq ∧ attempt.refused = false)
    (lossless : ∀ plane place, .dropped plane place ∉ events)
    (held : ∀ seen, seen <+: events → ∀ plane, ((run key seen).lanes.waiting plane).length ≤ depth) :
    ∀ pair ∈ withEarlier [] (run key events).arrivals, Trace.behind pair.1 pair.2 < period * depth := by
  induction events using List.reverseRecOn with
  | nil => exact fun _ mem => absurd mem List.not_mem_nil
  | append_singleton events event ih =>
      have split : calls (events ++ [event]) = calls events ++ calls [event] := List.filterMap_append
      rw [split] at numbered sprayed
      have before := numbered.of_append
      have sprayedBefore : ∀ attempt ∈ calls events,
          attempt.plane = pick attempt.seq ∧ attempt.refused = false :=
        fun attempt mem => sprayed attempt (List.mem_append_left _ mem)
      have losslessBefore : ∀ plane place, .dropped plane place ∉ events :=
        fun plane place mem => lossless plane place (List.mem_append_left _ mem)
      have earlier := ih before sprayedBefore losslessBefore
        fun seen isPrefix => held seen (isPrefix.trans (List.prefix_append _ _))
      rw [run_concat]
      rcases step_cases (run key events) event with
        ⟨came, -⟩ | ⟨plane, seq, rest, -, waits, came, -⟩
      · rw [came]
        exact earlier
      · have fits := held events (List.prefix_append _ _) plane
        rw [waits, List.length_cons] at fits
        have bound := latest_lt positive periodic before sprayedBefore losslessBefore waits fits
        have some' : (0 : Int) < period * depth := by positivity
        rw [came, withEarlier_concat, List.nil_append]
        intro pair mem
        rcases List.mem_append.mp mem with old | new
        · exact earlier pair old
        · rw [List.mem_singleton.mp new]
          exact max_lt some' bound

end Flight

/-- The second plane is faster. -/
def fastSecond : List FlightEvent := [.arrived 1, .arrived 1, .arrived 0, .arrived 0]

end Srv6Fabric

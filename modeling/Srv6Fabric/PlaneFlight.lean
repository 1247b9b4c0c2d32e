import Srv6Fabric.Library.Counting
import Srv6Fabric.Library.Lanes
import Srv6Fabric.ReorderLoss
import Srv6Fabric.Sender

/-!
# From the sender's loop to the receiver's statistics

The packets of `run_sender` cross the planes, each of which keeps its packets in order and may
drop some, and arrive at a `FlowStats`.  Nothing orders one plane against another.
-/

namespace Srv6Fabric

open Library Sender

/-! ## Arrivals that never repeat -/

namespace Trace

/-- Where no number comes twice, nothing is taken for a repeat. -/
theorem received_of_nodup {arrivals : List Arrival} (distinct : (arrivals.map Arrival.seq).Nodup) :
    received arrivals = withEarlier [] arrivals := by
  induction arrivals using List.reverseRecOn with
  | nil => rfl
  | append_singleton arrivals arrival ih =>
      rw [List.map_append, List.map_singleton, List.nodup_append] at distinct
      obtain ⟨before, -, apart⟩ := distinct
      have fresh : repeats arrivals arrival = false := by
        refine Bool.eq_false_iff.mpr fun repeated => ?_
        have seen := (isLargest_largest 4096 (seqs arrivals)).subset (repeats_iff.mp repeated)
        exact apart _ (List.mem_toFinset.mp seen) _ List.mem_cons_self rfl
      rw [received_concat, ih before, fresh, withEarlier_concat]
      rfl

theorem stats_of_nodup (flow : FlowKey) {arrivals : List Arrival}
    (distinct : (arrivals.map Arrival.seq).Nodup) :
    (stats flow arrivals).received = arrivals.length ∧ (stats flow arrivals).duplicates = 0 ∧
      (stats flow arrivals).perPlane = tally (arrivals.filterMap Arrival.plane) := by
  have all := received_of_nodup distinct
  have length : (stats flow arrivals).received = arrivals.length := by
    change (received arrivals).length = _
    rw [all, length_withEarlier]
  refine ⟨length, ?_, ?_⟩
  · have total := (stats_totals flow arrivals).1
    omega
  · change tally ((received arrivals).filterMap fun pair => pair.2.plane) = _
    rw [all]
    congr 1
    conv_rhs => rw [← map_snd_withEarlier [] arrivals, List.filterMap_map]
    rfl

end Trace

/-! ## The flight -/

inductive FlightEvent where
  /-- A call of `sendto`. -/
  | sent (attempt : Attempt)
  /-- The oldest packet of a plane comes to the receiver. -/
  | arrived (plane : Nat)
  | dropped (plane place : Nat)

/-- A refused packet enters no plane. -/
def FlightEvent.onLanes : FlightEvent → LaneEvent Nat Nat
  | sent attempt => if attempt.refused then .idle else .enter attempt.plane attempt.seq
  | arrived plane => .leave plane
  | dropped plane place => .lose plane place

/-- The packets in the planes, and what the receiver holds of the flow. -/
structure Flight where
  lanes : Lanes Nat Nat := {}
  stats : FlowStats

namespace Flight

/-- The payload of a packet names its number and its plane. -/
def step (flight : Flight) (event : FlightEvent) : Flight where
  lanes := flight.lanes.step event.onLanes
  stats :=
    match event with
    | .arrived plane =>
        match flight.lanes.waiting plane with
        | [] => flight.stats
        | seq :: _ => flight.stats.observe seq (some plane)
    | _ => flight.stats

def run (key : FlowKey) (events : List FlightEvent) : Flight :=
  events.foldl step { stats := { flow := key } }

/-- What came to the receiver. -/
def arrivals (flight : Flight) : List Arrival :=
  flight.lanes.departed.map fun packet => ⟨packet.2, some packet.1⟩

/-- The calls of `sendto`. -/
def calls (events : List FlightEvent) : List Attempt :=
  events.filterMap fun
    | .sent attempt => some attempt
    | _ => none

theorem calls_sent (attempts : List Attempt) (events : List FlightEvent) :
    calls (attempts.map .sent ++ events) = attempts ++ calls events := by
  rw [calls, List.filterMap_append, List.filterMap_map]
  congr 1
  exact List.filterMap_some

variable (key : FlowKey) (events : List FlightEvent)

theorem run_concat (event : FlightEvent) : run key (events ++ [event]) = (run key events).step event :=
  List.foldl_append

theorem run_lanes : (run key events).lanes = Lanes.run (events.map FlightEvent.onLanes) := by
  induction events using List.reverseRecOn with
  | nil => rfl
  | append_singleton events event ih =>
      rw [run_concat, List.map_append, List.map_singleton, Lanes.run_concat, ← ih]
      rfl

/-- A packet comes to the receiver, or nothing changes there. -/
theorem step_cases (flight : Flight) (event : FlightEvent) :
    ((flight.step event).arrivals = flight.arrivals ∧ (flight.step event).stats = flight.stats) ∨
      ∃ plane seq rest, event = .arrived plane ∧ flight.lanes.waiting plane = seq :: rest ∧
        (flight.step event).arrivals = flight.arrivals ++ [⟨seq, some plane⟩] ∧
        (flight.step event).stats = flight.stats.observe seq (some plane) := by
  cases event with
  | sent attempt =>
      left
      cases refused : attempt.refused with
      | true => simp [step, arrivals, FlightEvent.onLanes, refused, Lanes.step]
      | false => simp [step, arrivals, FlightEvent.onLanes, refused, Lanes.step]
  | dropped plane place =>
      left
      cases waits : (flight.lanes.waiting plane)[place]? with
      | none => simp [step, arrivals, FlightEvent.onLanes, Lanes.step, waits]
      | some seq => simp [step, arrivals, FlightEvent.onLanes, Lanes.step, waits]
  | arrived plane =>
      cases waits : flight.lanes.waiting plane with
      | nil =>
          left
          simp [step, arrivals, FlightEvent.onLanes, Lanes.step, waits]
      | cons seq rest =>
          refine Or.inr ⟨plane, seq, rest, rfl, waits, ?_, ?_⟩
          · simp [step, arrivals, FlightEvent.onLanes, Lanes.step, waits]
          · simp only [step, waits]

/-- The receiver holds the statistics of what came. -/
theorem run_stats : (run key events).stats = Trace.stats key (run key events).arrivals := by
  induction events using List.reverseRecOn with
  | nil => rfl
  | append_singleton events event ih =>
      rw [run_concat]
      rcases step_cases (run key events) event with
        ⟨came, stats⟩ | ⟨plane, seq, rest, -, -, came, stats⟩
      · rw [came, stats, ih]
      · have nonneg : 0 ≤ (⟨seq, some plane⟩ : Arrival).seq := Int.natCast_nonneg seq
        rw [came, stats, ih]
        exact Trace.observe_stats key _ nonneg

/-- What enters a plane: the numbers of its packets that were not refused. -/
theorem entered_eq (plane : Nat) : Lanes.entered plane (events.map FlightEvent.onLanes) =
    ((calls events).filter fun attempt => attempt.plane = plane ∧ attempt.refused = false).map
      Attempt.seq := by
  induction events with
  | nil => rfl
  | cons event events ih =>
      rw [List.map_cons]
      cases event with
      | arrived _ => exact ih
      | dropped _ _ => exact ih
      | sent attempt =>
          rw [show calls (.sent attempt :: events) = attempt :: calls events from rfl]
          cases refused : attempt.refused with
          | true =>
              rw [List.filter_cons_of_neg (by simp [refused]), ← ih, FlightEvent.onLanes, refused]
              rfl
          | false =>
              rw [FlightEvent.onLanes, refused, if_neg Bool.false_ne_true]
              by_cases here : attempt.plane = plane
              · rw [List.filter_cons_of_pos (by simp [here, refused]), List.map_cons, ← ih]
                simp [Lanes.entered, here]
              · rw [List.filter_cons_of_neg (by simp [here]), ← ih]
                simp [Lanes.entered, here]

/-! ## Arrivals and calls -/

section

variable {key events}

/-- What came over a plane was sent over it, and taken by `sendto`. -/
theorem mem_left {plane seq : Nat} (came : seq ∈ (run key events).lanes.left plane) :
    ∃ attempt ∈ calls events, attempt.plane = plane ∧ attempt.refused = false ∧
      attempt.seq = seq := by
  rw [run_lanes] at came
  have entered := (Lanes.inOrder _ plane).subset (List.mem_append_left _ came)
  rw [entered_eq, List.mem_map] at entered
  obtain ⟨attempt, mem, isSeq⟩ := entered
  rw [List.mem_filter, decide_eq_true_iff] at mem
  exact ⟨attempt, mem.1, mem.2.1, mem.2.2, isSeq⟩

theorem mem_left_of_departed {packet : Nat × Nat} (came : packet ∈ (run key events).lanes.departed) :
    packet.2 ∈ (run key events).lanes.left packet.1 :=
  List.mem_map.mpr ⟨packet, List.mem_filter.mpr ⟨came, decide_eq_true rfl⟩, rfl⟩

variable (distinct : ((calls events).map Attempt.seq).Nodup)

include distinct

theorem attempt_unique {attempt other : Attempt} (mem : attempt ∈ calls events)
    (otherMem : other ∈ calls events) (same : attempt.seq = other.seq) : attempt = other :=
  List.inj_on_of_nodup_map distinct mem otherMem same

variable (key) in
theorem left_nodup (plane : Nat) :
    ((run key events).lanes.left plane ++ (run key events).lanes.waiting plane).Nodup := by
  rw [run_lanes]
  refine (Lanes.inOrder _ plane).nodup ?_
  rw [entered_eq]
  exact distinct.sublist (List.filter_sublist.map _)

variable (key) in
/-- No number comes twice. -/
theorem arrivals_nodup : ((run key events).arrivals.map Arrival.seq).Nodup := by
  have pairs : (run key events).lanes.departed.Nodup := by
    refine List.nodup_iff_count_le_one.mpr fun packet => ?_
    have once := List.nodup_iff_count_le_one.mp
      ((left_nodup key distinct packet.1).sublist (List.sublist_append_left _ _)) packet.2
    refine le_trans (le_of_eq ?_) once
    rw [Lanes.left, List.count_eq_countP, List.count_eq_countP, List.countP_map, List.countP_filter]
    refine List.countP_congr fun other _ => ?_
    simp [Prod.ext_iff, and_comm]
  rw [arrivals, List.map_map]
  refine List.Nodup.map_on (fun packet mem other otherMem same => ?_) pairs
  obtain ⟨attempt, isCall, onPlane, -, isSeq⟩ := mem_left (mem_left_of_departed mem)
  obtain ⟨another, isOther, otherPlane, -, otherSeq⟩ := mem_left (mem_left_of_departed otherMem)
  have sameSeq : packet.2 = other.2 := Int.natCast_inj.mp same
  have sameCall := attempt_unique distinct isCall isOther (by rw [isSeq, otherSeq, sameSeq])
  exact Prod.ext (by rw [← onPlane, ← otherPlane, sameCall]) sameSeq

end

end Flight

/-! ## The two ends -/

namespace Sender

/-- What the counters hold after a list of calls. -/
theorem tally_eq (attempts : List Attempt) :
    (Sender.tally {} attempts).perPlaneSent =
        Library.tally ((attempts.filter fun attempt => attempt.refused = false).map Attempt.plane) ∧
      (Sender.tally {} attempts).sent = attempts.countP (fun attempt => attempt.refused = false) ∧
      (Sender.tally {} attempts).errors = attempts.countP (fun attempt => attempt.refused = true) := by
  induction attempts using List.reverseRecOn with
  | nil => exact ⟨rfl, rfl, rfl⟩
  | append_singleton attempts attempt ih =>
      obtain ⟨planes, sent, errors⟩ := ih
      have last : Sender.tally {} (attempts ++ [attempt]) =
          count (Sender.tally {} attempts) attempt.plane attempt.refused := List.foldl_append
      rw [last, List.filter_append, List.map_append, List.countP_append, List.countP_append, ← sent,
        ← errors, count]
      cases refused : attempt.refused with
      | true => simp [refused, planes]
      | false => simp [refused, planes, tally_concat]

end Sender

section

variable {topo : Topo} {flow : FlowEndpoint} {policy : String} {ratePps : Int} {durationS tStart : ℚ}
  {turns : List Turn} {attempts : List Attempt} {last : Loop} {ending : Ending}

/-- The books of a whole run. -/
theorem runSender_books
    (ran : runSender topo flow policy ratePps durationS tStart turns = .ok (attempts, last, ending)) :
    attempts.map Attempt.seq = List.range' 0 attempts.length ∧ last.seq = attempts.length ∧
      last.result = Sender.tally {} attempts ∧ ∀ attempt ∈ attempts, attempt.plane < topo.numPlanes := by
  obtain ⟨setup, -, sprayed⟩ := bind_eq_ok ran
  obtain ⟨numbers, count, result, headers⟩ := spray_books _ turns (Except.ok.inj sprayed)
  exact ⟨numbers, by rw [count, Nat.zero_add], result, fun attempt mem => (headers attempt mem).1⟩

/-- Plane by plane the sender's counter is what the receiver counted, what is on the way and what
was lost there; refused packets have used their numbers, and the receiver sees no duplicate. -/
theorem flight_accounted
    (ran : runSender topo flow policy ratePps durationS tStart turns = .ok (attempts, last, ending))
    {events : List FlightEvent} (sent : Flight.calls events = attempts) (key : FlowKey) :
    let flight := Flight.run key events
    last.result.sent + last.result.errors = last.seq ∧ flight.stats.duplicates = 0 ∧
      (∀ plane, (last.result.perPlaneSent.find? plane).getD 0 =
        (flight.stats.perPlane.find? (plane : Int)).getD 0 +
          (flight.lanes.waiting plane).length + (flight.lanes.lost plane).length) ∧
      last.result.sent = flight.stats.received + ((List.range topo.numPlanes).map fun plane =>
        (flight.lanes.waiting plane).length + (flight.lanes.lost plane).length).sum := by
  intro flight
  obtain ⟨numbers, count, result, inRange⟩ := runSender_books ran
  obtain ⟨planes, total, errors⟩ := Sender.tally_eq attempts
  rw [← result] at planes total errors
  have distinct : ((Flight.calls events).map Attempt.seq).Nodup := by
    rw [sent, numbers]
    exact List.nodup_range'
  obtain ⟨received, fresh, perPlane⟩ :=
    Trace.stats_of_nodup key (Flight.arrivals_nodup key distinct)
  rw [← Flight.run_stats] at received fresh perPlane
  have left (plane : Nat) : (flight.lanes.left plane).length =
      flight.lanes.departed.countP fun packet => packet.1 = plane := by
    rw [Lanes.left, List.length_map, List.countP_eq_length_filter]
  have arrived (plane : Nat) : (flight.stats.perPlane.find? (plane : Int)).getD 0 =
      (flight.lanes.left plane).length := by
    have came : flight.arrivals.filterMap Arrival.plane =
        flight.lanes.departed.map fun packet => (packet.1 : Int) := by
      rw [Flight.arrivals, List.filterMap_map, ← List.filterMap_eq_map]
      rfl
    rw [perPlane, getD_tally, came, left, List.count_eq_countP, List.countP_map]
    refine List.countP_congr fun packet _ => ?_
    simp
  have taken (plane : Nat) : (last.result.perPlaneSent.find? plane).getD 0 =
      (attempts.filter fun attempt => attempt.refused = false).countP fun attempt =>
        attempt.plane = plane := by
    rw [planes, getD_tally, List.count_eq_countP, List.countP_map]
    refine List.countP_congr fun attempt _ => ?_
    simp
  have each (plane : Nat) : (last.result.perPlaneSent.find? plane).getD 0 =
      (flight.lanes.left plane).length + (flight.lanes.waiting plane).length +
        (flight.lanes.lost plane).length := by
    have conserved := (Lanes.conserved (events.map FlightEvent.onLanes) plane).length_eq
    rw [← Flight.run_lanes key, Flight.entered_eq, sent, List.length_append, List.length_append,
      List.length_map, ← List.countP_eq_length_filter] at conserved
    rw [taken, List.countP_filter]
    refine Eq.trans (List.countP_congr fun attempt _ => ?_) conserved.symm
    simp
  refine ⟨?_, fresh, fun plane => by rw [each, arrived], ?_⟩
  · have split := attempts.length_eq_countP_add_countP fun attempt => attempt.refused = false
    rw [total, errors, count, split]
    simp
  · have allTaken : last.result.sent = ((List.range topo.numPlanes).map fun plane =>
        (last.result.perPlaneSent.find? plane).getD 0).sum := by
      rw [total, List.countP_eq_length_filter, length_eq_sum_of_mem List.nodup_range
        fun attempt mem => List.mem_range.mpr (inRange attempt (List.mem_of_mem_filter mem))]
      simp only [taken]
    have allCame : flight.stats.received = ((List.range topo.numPlanes).map fun plane =>
        (flight.lanes.left plane).length).sum := by
      have onPlanes : ∀ packet ∈ flight.lanes.departed, packet.1 ∈ List.range topo.numPlanes := by
        intro packet came
        obtain ⟨attempt, mem, isPlane, -⟩ := Flight.mem_left (Flight.mem_left_of_departed came)
        exact List.mem_range.mpr (isPlane ▸ inRange attempt (sent ▸ mem))
      rw [received, Flight.arrivals, List.length_map, length_eq_sum_of_mem List.nodup_range onPlanes]
      simp only [left]
    rw [allTaken, allCame, ← List.sum_map_add]
    simp only [each, Nat.add_assoc]

end

/-- Four calls over two planes in turn, the second one refused. -/
def fourTurns : List Turn :=
  [false, true, false, false].map fun refused =>
    { gate := 0, pick := fun seq _ => .ok (seq % 2), sentAt := 0, refused, reading := 0, again := 0 }

/-- The first packet arrives, the third is on its way and the fourth is dropped. -/
theorem flight_accounted_four : ∃ attempts last,
    runSender Topo.twoPlanes ⟨"green", 0, 7, 9999, 9999⟩ "round_robin" 0 0 0 fourTurns =
        .ok (attempts, last, .interrupted) ∧
      let flight := Flight.run .greenFlow (attempts.map .sent ++ [.arrived 0, .dropped 1 0])
      last.result.sent + last.result.errors = last.seq ∧ flight.stats.duplicates = 0 ∧
        (last.result.perPlaneSent.find? 1).getD 0 = (flight.stats.perPlane.find? 1).getD 0 +
          (flight.lanes.waiting 1).length + (flight.lanes.lost 1).length := by
  obtain ⟨attempts, last, ran⟩ : ∃ attempts last,
      runSender Topo.twoPlanes ⟨"green", 0, 7, 9999, 9999⟩ "round_robin" 0 0 0 fourTurns =
        .ok (attempts, last, .interrupted) := ⟨_, _, rfl⟩
  have sent : Flight.calls (attempts.map .sent ++ [.arrived 0, .dropped 1 0]) = attempts :=
    (Flight.calls_sent attempts _).trans (List.append_nil _)
  obtain ⟨numbers, fresh, planes, -⟩ := flight_accounted ran sent .greenFlow
  exact ⟨attempts, last, ran, numbers, fresh, planes 1⟩

end Srv6Fabric

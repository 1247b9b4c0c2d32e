import Mathlib.Data.List.Induction
import Srv6Fabric.Library.Windows
import Srv6Fabric.Mrc.LossWindow

/-!
# Loss windows against their definition

The table keeps five numbers for each plane and a counter for each flow.  The
definition keeps nothing: a report is read off the packets that lie between two
snapshots of its flow.  The two agree on every history, up to the planes a `u8` on the
wire cannot name.
-/

namespace Srv6Fabric.Mrc

open Srv6Fabric.Library

/-- A packet that `record` accepts. -/
structure Arrival where
  plane : Nat
  seq : Int
  deriving DecidableEq, Repr

/-! ## The definition -/

/-- The sequence numbers of one plane, in arrival order. -/
def seqsOn (window : List Arrival) (plane : Nat) : List Int :=
  (window.filter fun arrival => arrival.plane = plane).map Arrival.seq

/-- The record that sums up the packets of one plane. -/
def referenceRecord (plane : Nat) (seqs : List Int) : PlaneLossRecord where
  planeId := .ofNat plane
  seen := .ofNat (min seqs.length 0xFFFFFFFF)
  expected := .ofNat (min (seqs.max?.getD 0 - seqs.min?.getD 0 + 1) u32Max).toNat
  maxGap := .ofNat (min (largestRise seqs) u32Max).toNat

/-- The report of the `count`-th window: the planes with packets, in plane order. -/
def referenceReport (numPlanes count : Nat) (window : List Arrival) : LossReport where
  windowId := .ofNat (count % 65536)
  planes := ((List.range numPlanes).filter fun plane => seqsOn window plane ≠ []).map fun plane =>
    referenceRecord plane (seqsOn window plane)

namespace LossWindowTable

variable {κ : Type} [DecidableEq κ] {numPlanes : Nat}

/-- One call by one of the receiver's threads. -/
inductive Call (κ : Type) where
  | record (flowKey : κ) (plane seq : Int)
  | snapshotAndReset (flowKey : κ)

/-- What `record` counts: a plane of the table and a `u32` sequence number. -/
def arrival? (numPlanes : Nat) (plane seq : Int) : Option Arrival :=
  if 0 ≤ plane ∧ plane < numPlanes ∧ 0 ≤ seq ∧ seq ≤ u32Max then some ⟨plane.toNat, seq⟩ else none

/-- What a call is to the history of a flow: a packet, a cut, or nothing. -/
def Call.event (numPlanes : Nat) (flowKey : κ) : Call κ → Option (Option Arrival)
  | .record other plane seq =>
      if other = flowKey then (arrival? numPlanes plane seq).map some else none
  | .snapshotAndReset other => if other = flowKey then some none else none

/-- The history of one flow. -/
def events (numPlanes : Nat) (flowKey : κ) (calls : List (Call κ)) : List (Option Arrival) :=
  calls.filterMap (Call.event numPlanes flowKey)

/-- The packets recorded for one flow. -/
def packets (numPlanes : Nat) (flowKey : κ) (calls : List (Call κ)) : List Arrival :=
  (events numPlanes flowKey calls).reduceOption

/-- The windows that the snapshots of one flow close. -/
def windows (numPlanes : Nat) (flowKey : κ) (calls : List (Call κ)) : List (List Arrival) :=
  closedWindows [] (events numPlanes flowKey calls)

/-! ## The table over a list of calls -/

/-- What the caller of `record` goes on with; a call that raises leaves the table. -/
def recorded (table : LossWindowTable κ numPlanes) (flowKey : κ) (plane seq : Int) :
    LossWindowTable κ numPlanes :=
  match table.record flowKey plane seq with
  | .ok next => next
  | .error _ => table

def after (table : LossWindowTable κ numPlanes) : List (Call κ) → LossWindowTable κ numPlanes
  | [] => table
  | .record flowKey plane seq :: rest => after (table.recorded flowKey plane seq) rest
  | .snapshotAndReset flowKey :: rest => after (table.snapshotAndReset flowKey).1 rest

/-- What the snapshots of one flow return, in order. -/
def snapshots (flowKey : κ) (table : LossWindowTable κ numPlanes) :
    List (Call κ) → List (Except PyError LossReport)
  | [] => []
  | .record other plane seq :: rest => snapshots flowKey (table.recorded other plane seq) rest
  | .snapshotAndReset other :: rest =>
      let (next, result) := table.snapshotAndReset other
      if other = flowKey then result :: snapshots flowKey next rest
      else snapshots flowKey next rest

end LossWindowTable

/-! ## Counters of a window -/

/-- The counters after the packets of one plane. -/
def PlaneCounters.ofSeqs (seqs : List Int) : PlaneCounters where
  seen := seqs.length
  minSeq := seqs.min?.getD (-1)
  maxSeq := seqs.max?.getD (-1)
  maxGap := largestRise seqs
  lastSeq := seqs.getLast?.getD (-1)

theorem PlaneCounters.record_ofSeqs {seqs : List Int} (nonneg : ∀ seq ∈ seqs, 0 ≤ seq)
    {seq : Int} (added : 0 ≤ seq) : (ofSeqs seqs).record seq = ofSeqs (seqs ++ [seq]) := by
  rcases seqs.eq_nil_or_concat' with rfl | ⟨front, last, rfl⟩
  · simp [ofSeqs, record, largestRise]
    omega
  · obtain ⟨least, leastEq⟩ : ∃ least, (front ++ [last]).min? = some least :=
      ⟨_, min?_concat front last⟩
    obtain ⟨greatest, greatestEq⟩ : ∃ greatest, (front ++ [last]).max? = some greatest :=
      ⟨_, max?_concat front last⟩
    have lastNonneg : 0 ≤ last := nonneg last (by simp)
    have leastNonneg : 0 ≤ least := nonneg least (List.min?_mem leastEq)
    have minEq : (front ++ [last] ++ [seq]).min? = some (min least seq) := by
      rw [min?_concat, leastEq, Option.elim_some]
    have maxEq : (front ++ [last] ++ [seq]).max? = some (max greatest seq) := by
      rw [max?_concat, greatestEq, Option.elim_some]
    have rise : largestRise (front ++ [last] ++ [seq]) =
        max (largestRise (front ++ [last])) (seq - last) := by
      rw [List.append_assoc]
      exact largestRise_concat front last seq
    simp only [ofSeqs, record, leastEq, greatestEq, minEq, maxEq, rise, List.getLast?_concat,
      Option.getD_some, List.length_append, List.length_singleton, PlaneCounters.mk.injEq, and_true]
    refine ⟨by push_cast; ring, ?_, ?_, ?_⟩ <;> split_ifs <;> omega

/-- The counters of accepted packets are those of some packets in range. -/
theorem PlaneCounters.valid_ofSeqs {seqs : List Int} (nonneg : ∀ seq ∈ seqs, 0 ≤ seq) :
    (ofSeqs seqs).Valid := by
  induction seqs using List.reverseRecOn with
  | nil => exact valid_blank
  | append_singleton front last ih =>
      have frontNonneg : ∀ seq ∈ front, 0 ≤ seq := fun seq mem =>
        nonneg seq (List.mem_append_left _ mem)
      have lastNonneg : 0 ≤ last := nonneg last (by simp)
      rw [← record_ofSeqs frontNonneg lastNonneg]
      exact (ih frontNonneg).record lastNonneg

theorem PlaneCounters.wire_ofSeqs {seqs : List Int} (some_ : seqs ≠ []) (plane : Nat) :
    (ofSeqs seqs).wire plane = referenceRecord plane seqs := by
  obtain ⟨first, rest, rfl⟩ := List.exists_cons_of_ne_nil some_
  have seen : (min (((first :: rest).length : Nat) : Int) u32Max).toNat =
      min (first :: rest).length 0xFFFFFFFF := by
    simp only [u32Max]
    omega
  simp only [wire, ofSeqs, referenceRecord, seen, List.min?_cons', List.max?_cons',
    Option.getD_some]

/-! ## The table follows the history -/

theorem seqsOn_append (window : List Arrival) (arrival : Arrival) (plane : Nat) :
    seqsOn (window ++ [arrival]) plane =
      seqsOn window plane ++ if arrival.plane = plane then [arrival.seq] else [] := by
  by_cases here : arrival.plane = plane <;> simp [seqsOn, List.filter_append, here]

namespace LossWindowTable

variable {κ : Type} [DecidableEq κ] {numPlanes : Nat}

/-- The table holds a flow whose open window, the `count`-th, has these packets. -/
structure Follows (table : LossWindowTable κ numPlanes) (flowKey : κ) (count : Nat)
    (window : List Arrival) : Prop where
  windowId : (table.flow flowKey).nextWindowId = .ofNat count
  counters : ∀ plane : Fin numPlanes,
    (table.flow flowKey).planes plane = .ofSeqs (seqsOn window plane)
  accepted : ∀ arrival ∈ window, arrival.plane < numPlanes ∧ 0 ≤ arrival.seq

theorem Follows.empty (flowKey : κ) :
    Follows (⟨.empty⟩ : LossWindowTable κ numPlanes) flowKey 0 [] where
  windowId := rfl
  counters _ := rfl
  accepted := by simp

variable {table : LossWindowTable κ numPlanes} {flowKey : κ} {count : Nat} {window : List Arrival}

theorem Follows.seqs_nonneg (follows : Follows table flowKey count window) (plane : Nat) :
    ∀ seq ∈ seqsOn window plane, 0 ≤ seq := by
  intro seq mem
  obtain ⟨arrival, kept, rfl⟩ := List.mem_map.mp mem
  exact (follows.accepted arrival (List.mem_of_mem_filter kept)).2

/-- `record` accepts exactly what the history counts. -/
theorem record_eq (table : LossWindowTable κ numPlanes) (flowKey : κ) (plane seq : Int) :
    (∃ error, table.record flowKey plane seq = .error error ∧ arrival? numPlanes plane seq = none) ∨
    ∃ (index : Fin numPlanes) (next : LossWindowTable κ numPlanes), 0 ≤ seq ∧
      arrival? numPlanes plane seq = some ⟨index, seq⟩ ∧
      table.record flowKey plane seq = .ok next ∧ next = ⟨table.flows.set flowKey
        { table.flow flowKey with
          planes := Function.update (table.flow flowKey).planes index
            (((table.flow flowKey).planes index).record seq) }⟩ := by
  by_cases inRange : 0 ≤ plane ∧ plane < numPlanes
  · obtain ⟨index, rfl⟩ : ∃ index : Fin numPlanes, (index : Nat) = plane :=
      ⟨⟨plane.toNat, by omega⟩, by simp [inRange.1]⟩
    by_cases u32 : 0 ≤ seq ∧ seq ≤ u32Max
    · refine Or.inr ⟨index, _, u32.1, ?_, ?_, rfl⟩
      · rw [arrival?, if_pos ⟨inRange.1, inRange.2, u32⟩, Int.toNat_natCast]
      · simp only [record, checkPlane_fin, bind, Except.bind]
        rw [if_neg (by omega)]
    · refine Or.inl ⟨.valueError s!"seq must be uint32, got {seq}", ?_, ?_⟩
      · simp only [record, checkPlane_fin, bind, Except.bind]
        rw [if_pos (by omega)]
      · rw [arrival?, if_neg fun accepted => u32 accepted.2.2]
  · refine Or.inl ⟨.valueError s!"plane {plane} out of range [0, {numPlanes})", ?_, ?_⟩
    · rw [record, checkPlane, dif_neg inRange]
      rfl
    · rw [arrival?, if_neg fun accepted => inRange ⟨accepted.1, accepted.2.1⟩]

/-- A packet of the flow joins its open window; any other `record` leaves it. -/
theorem Follows.recorded (follows : Follows table flowKey count window) (other : κ)
    (plane seq : Int) :
    Follows (table.recorded other plane seq) flowKey count
      (window ++ if other = flowKey then (arrival? numPlanes plane seq).toList else []) := by
  rcases table.record_eq other plane seq with
    ⟨error, raised, refused⟩ | ⟨index, next, nonneg, accepted, returned, nextEq⟩
  · have same : table.recorded other plane seq = table := by rw [LossWindowTable.recorded, raised]
    rw [same, refused]
    simpa using follows
  · have moved : table.recorded other plane seq = next := by
      rw [LossWindowTable.recorded, returned]
    rw [moved, accepted, nextEq]
    by_cases here : other = flowKey
    · subst here
      rw [if_pos rfl, Option.toList_some]
      refine ⟨?_, ?_, ?_⟩
      · rw [flow_set, if_pos rfl]
        exact follows.windowId
      · intro on
        rw [flow_set, if_pos rfl, seqsOn_append]
        dsimp only
        rw [Function.update_apply]
        split
        · next same =>
          subst same
          rw [if_pos rfl, follows.counters on,
            PlaneCounters.record_ofSeqs (follows.seqs_nonneg on) nonneg]
        · next away =>
          rw [if_neg fun same => away (Fin.ext same).symm, List.append_nil, follows.counters on]
      · intro arrival mem
        rcases List.mem_append.mp mem with earlier | added
        · exact follows.accepted arrival earlier
        · rw [List.mem_singleton.mp added]
          exact ⟨index.isLt, nonneg⟩
    · have elsewhere : ¬ flowKey = other := fun same => here same.symm
      rw [if_neg here, List.append_nil]
      exact ⟨by rw [flow_set, if_neg elsewhere]; exact follows.windowId,
        fun on => by rw [flow_set, if_neg elsewhere]; exact follows.counters on, follows.accepted⟩

/-- A snapshot of another flow leaves this one. -/
theorem snapshotAndReset_flow (table : LossWindowTable κ numPlanes) {other flowKey : κ}
    (elsewhere : other ≠ flowKey) :
    (table.snapshotAndReset other).1.flow flowKey = table.flow flowKey := by
  unfold snapshotAndReset
  dsimp only
  split <;> rw [flow_set, if_neg elsewhere.symm]

theorem Follows.snapshot_other (follows : Follows table flowKey count window) {other : κ}
    (elsewhere : other ≠ flowKey) :
    Follows (table.snapshotAndReset other).1 flowKey count window := by
  obtain ⟨windowId, counters, accepted⟩ := follows
  rw [← snapshotAndReset_flow table elsewhere] at windowId counters
  exact ⟨windowId, counters, accepted⟩

theorem seen_ofSeqs (seqs : List Int) : (PlaneCounters.ofSeqs seqs).seen ≠ 0 ↔ seqs ≠ [] := by
  simp [PlaneCounters.ofSeqs]

/-- A snapshot closes the window with the report of its packets, if their planes fit a
`u8`. -/
theorem Follows.snapshot (follows : Follows table flowKey count window)
    (small : ∀ arrival ∈ window, arrival.plane < 256) :
    (table.snapshotAndReset flowKey).2 = .ok (referenceReport numPlanes count window) ∧
      Follows (table.snapshotAndReset flowKey).1 flowKey (count + 1) [] := by
  have valid : ∀ plane, ((table.flow flowKey).planes plane).Valid := by
    intro plane
    rw [follows.counters]
    exact PlaneCounters.valid_ofSeqs (follows.seqs_nonneg plane)
  have fits : ∀ plane : Fin numPlanes, ((table.flow flowKey).planes plane).seen ≠ 0 →
      (plane : Nat) < 256 := by
    intro plane active
    rw [follows.counters, seen_ofSeqs] at active
    obtain ⟨seq, mem⟩ := List.exists_mem_of_ne_nil _ active
    obtain ⟨arrival, kept, rfl⟩ := List.mem_map.mp mem
    obtain ⟨member, here⟩ := List.mem_filter.mp kept
    rw [← of_decide_eq_true here]
    exact small arrival member
  have records : ((List.finRange numPlanes).filter fun plane =>
        ((table.flow flowKey).planes plane).seen ≠ 0).map (fun plane =>
          ((table.flow flowKey).planes plane).wire plane) =
      (referenceReport numPlanes count window).planes := by
    simp only [referenceReport, ← List.map_coe_finRange_eq_range, List.filter_map, List.map_map]
    have active : ∀ plane : Fin numPlanes,
        decide (((table.flow flowKey).planes plane).seen ≠ 0) =
          ((fun plane => decide (seqsOn window plane ≠ [])) ∘ Fin.val) plane := by
      intro plane
      simp only [follows.counters, seen_ofSeqs, Function.comp]
    rw [List.filter_congr fun plane _ => active plane]
    refine List.map_congr_left fun plane mem => ?_
    have some_ : seqsOn window plane ≠ [] := by
      simpa using (List.mem_filter.mp mem).2
    rw [follows.counters, PlaneCounters.wire_ofSeqs some_, Function.comp]
  have snapped := snapshotPlanes_eq valid fits (List.finRange numPlanes)
  simp only [snapshotAndReset, snapped, records]
  refine ⟨?_, ?_, ?_, ?_⟩
  · have wraps : UInt16.ofNat count = .ofNat (count % 65536) := UInt16.toNat_inj.mp (by simp)
    rw [follows.windowId, wraps, referenceReport]
  · rw [flow_set, if_pos rfl, follows.windowId]
    simp
  · intro plane
    rw [flow_set, if_pos rfl]
    rfl
  · simp

/-- Counters with packets on a plane past the wire's `u8` make no report. -/
theorem snapshotPlanes_tooWide {counters : Fin numPlanes → PlaneCounters}
    (valid : ∀ plane, (counters plane).Valid) {planes : List (Fin numPlanes)}
    (wide : ∃ plane ∈ planes, (counters plane).seen ≠ 0 ∧ 256 ≤ (plane : Nat)) :
    ∃ plane : Fin numPlanes, 256 ≤ (plane : Nat) ∧ snapshotPlanes counters planes =
      .error (.valueError s!"plane_id must be uint8, got {((plane : Nat) : Int)}") := by
  induction planes with
  | nil => simp at wide
  | cons plane rest ih =>
      by_cases here : (counters plane).seen ≠ 0 ∧ 256 ≤ (plane : Nat)
      · refine ⟨plane, here.2, ?_⟩
        have refused : checkUint 8 "plane_id" ((plane : Nat) : Int) =
            .error (.valueError s!"plane_id must be uint8, got {((plane : Nat) : Int)}") := by
          rw [checkUint, if_neg fun inRange => by omega]
          rfl
        rw [snapshotPlanes, PlaneCounters.snapshot, if_neg here.1]
        simp only [PlaneLossRecord.new, refused, bind, Except.bind]
      · obtain ⟨wider, mem, found⟩ := wide
        have later : wider ∈ rest := by
          rcases List.mem_cons.mp mem with rfl | later
          · exact absurd found here
          · exact later
        obtain ⟨first, high, raised⟩ := ih ⟨wider, later, found⟩
        have fits : (counters plane).seen ≠ 0 → (plane : Nat) < 256 := fun active =>
          not_le.mp fun high => here ⟨active, high⟩
        refine ⟨first, high, ?_⟩
        rw [snapshotPlanes, PlaneCounters.snapshot_eq (valid plane) fits, raised]
        rfl

/-- A snapshot of a window with a packet on such a plane raises, and the window stays
open. -/
theorem Follows.snapshot_tooWide (follows : Follows table flowKey count window)
    (wide : ∃ arrival ∈ window, 256 ≤ arrival.plane) :
    (∃ plane : Nat, 256 ≤ plane ∧ (table.snapshotAndReset flowKey).2 =
        .error (.valueError s!"plane_id must be uint8, got {(plane : Int)}")) ∧
      Follows (table.snapshotAndReset flowKey).1 flowKey (count + 1) window := by
  have valid : ∀ plane, ((table.flow flowKey).planes plane).Valid := by
    intro plane
    rw [follows.counters]
    exact PlaneCounters.valid_ofSeqs (follows.seqs_nonneg plane)
  obtain ⟨arrival, member, high⟩ := wide
  have active : ∃ plane ∈ List.finRange numPlanes,
      ((table.flow flowKey).planes plane).seen ≠ 0 ∧ 256 ≤ (plane : Nat) := by
    refine ⟨⟨arrival.plane, (follows.accepted arrival member).1⟩, List.mem_finRange _, ?_, high⟩
    rw [follows.counters, seen_ofSeqs]
    refine List.ne_nil_of_mem (List.mem_map_of_mem (List.mem_filter.mpr ⟨member, ?_⟩))
    simp
  obtain ⟨plane, past, raised⟩ := snapshotPlanes_tooWide valid active
  simp only [snapshotAndReset, raised]
  refine ⟨⟨plane, past, rfl⟩, ?_, ?_, follows.accepted⟩
  · rw [flow_set, if_pos rfl, follows.windowId]
    simp
  · intro on
    rw [flow_set, if_pos rfl]
    exact follows.counters on

/-! ## Whole histories -/

theorem events_record (calls : List (Call κ)) (other : κ) (plane seq : Int) :
    events numPlanes flowKey (.record other plane seq :: calls) =
      (if other = flowKey then (arrival? numPlanes plane seq).toList else []).map some ++
        events numPlanes flowKey calls := by
  by_cases here : other = flowKey
  · cases accepted : arrival? numPlanes plane seq <;> simp [events, Call.event, here, accepted]
  · simp [events, Call.event, here]

theorem events_snapshot (calls : List (Call κ)) (other : κ) :
    events numPlanes flowKey (.snapshotAndReset other :: calls) =
      (if other = flowKey then [none] else []) ++ events numPlanes flowKey calls := by
  by_cases here : other = flowKey <;> simp [events, Call.event, here]

/-- The snapshots of a flow, from a table that follows it. -/
theorem Follows.snapshots (follows : Follows table flowKey count window) (calls : List (Call κ))
    (small : ∀ arrival ∈ window, arrival.plane < 256)
    (later : ∀ arrival, some arrival ∈ events numPlanes flowKey calls → arrival.plane < 256) :
    table.snapshots flowKey calls =
      (closedWindows window (events numPlanes flowKey calls)).mapIdx fun position closed =>
        .ok (referenceReport numPlanes (count + position) closed) := by
  induction calls generalizing table count window with
  | nil => rfl
  | cons call rest ih =>
      cases call with
      | record other plane seq =>
          rw [events_record] at later ⊢
          rw [closedWindows_items_append]
          refine ih (follows.recorded other plane seq) ?_ fun arrival mem =>
            later arrival (List.mem_append_right _ mem)
          intro arrival mem
          rcases List.mem_append.mp mem with earlier | added
          · exact small arrival earlier
          · exact later arrival (List.mem_append_left _ (List.mem_map_of_mem added))
      | snapshotAndReset other =>
          rw [events_snapshot] at later ⊢
          have rest_ := fun arrival mem => later arrival (List.mem_append_right _ mem)
          by_cases here : other = flowKey
          · subst here
            obtain ⟨reported, next⟩ := follows.snapshot small
            have further := ih next (by simp) rest_
            simp only [LossWindowTable.snapshots, if_true, reported, further, List.singleton_append,
              closedWindows, List.mapIdx_cons, Nat.add_zero, Nat.add_assoc, Nat.add_comm 1]
          · have further := ih (follows.snapshot_other here) small rest_
            simp only [LossWindowTable.snapshots, if_neg here, further, List.nil_append]

/-- A packet on a plane past the wire's `u8` stays in the open window for good. -/
theorem Follows.after_tooWide (follows : Follows table flowKey count window) (calls : List (Call κ))
    (wide : ∃ arrival, 256 ≤ arrival.plane ∧
      (arrival ∈ window ∨ some arrival ∈ events numPlanes flowKey calls)) :
    ∃ count window, Follows (table.after calls) flowKey count window ∧
      ∃ arrival ∈ window, 256 ≤ arrival.plane := by
  induction calls generalizing table count window with
  | nil =>
      obtain ⟨arrival, high, member | event⟩ := wide
      · exact ⟨count, window, follows, arrival, member, high⟩
      · simp [events] at event
  | cons call rest ih =>
      obtain ⟨arrival, high, held⟩ := wide
      cases call with
      | record other plane seq =>
          refine ih (follows.recorded other plane seq) ⟨arrival, high, ?_⟩
          rw [events_record, List.mem_append] at held
          rcases held with earlier | added | later
          · exact Or.inl (List.mem_append_left _ earlier)
          · obtain ⟨same, mem, eq⟩ := List.mem_map.mp added
            exact Or.inl (List.mem_append_right _ (Option.some.inj eq ▸ mem))
          · exact Or.inr later
      | snapshotAndReset other =>
          have later : arrival ∈ window ∨ some arrival ∈ events numPlanes flowKey rest := by
            rw [events_snapshot, List.mem_append] at held
            rcases held with earlier | cut | later
            · exact Or.inl earlier
            · split at cut <;> simp at cut
            · exact Or.inr later
          by_cases here : other = flowKey
          · subst here
            by_cases wideNow : ∃ arrival ∈ window, 256 ≤ arrival.plane
            · exact ih (follows.snapshot_tooWide wideNow).2 ⟨arrival, high, later⟩
            · have small : ∀ arrival ∈ window, arrival.plane < 256 := by simpa using wideNow
              refine ih (follows.snapshot small).2 ⟨arrival, high, Or.inr ?_⟩
              rcases later with member | event
              · exact absurd (small arrival member) (not_lt.mpr high)
              · exact event
          · exact ih (follows.snapshot_other here) ⟨arrival, high, later⟩

/-- Every history.  As long as a flow has no packet on a plane past the wire's `u8`, its
snapshots return the reports of its windows, each packet in one window; from such a
packet on, its snapshots raise.  `record` refuses exactly what no history counts, and
then leaves the table. -/
theorem snapshots_eq_reference {table : LossWindowTable κ numPlanes}
    (built : LossWindowTable.init numPlanes = .ok table) (calls : List (Call κ)) (flowKey : κ) :
    ((∀ arrival ∈ packets numPlanes flowKey calls, arrival.plane < 256) →
      table.snapshots flowKey calls = (windows numPlanes flowKey calls).mapIdx fun count window =>
        .ok (referenceReport numPlanes count window)) ∧
    (windows numPlanes flowKey calls).flatten ++ openWindow [] (events numPlanes flowKey calls) =
      packets numPlanes flowKey calls ∧
    ((∃ arrival ∈ packets numPlanes flowKey calls, 256 ≤ arrival.plane) →
      ∃ plane : Nat, 256 ≤ plane ∧ ((table.after calls).snapshotAndReset flowKey).2 =
        .error (.valueError s!"plane_id must be uint8, got {(plane : Int)}")) ∧
    ∀ plane seq, arrival? numPlanes plane seq = none ↔
      ∃ error, (table.after calls).record flowKey plane seq = .error error ∧
        (table.after calls).recorded flowKey plane seq = table.after calls := by
  have blank : table = ⟨.empty⟩ := by
    unfold LossWindowTable.init at built
    split at built
    · cases built
    · exact (Except.ok.inj built).symm
  have follows : Follows table flowKey 0 [] := by
    rw [blank]
    exact .empty flowKey
  refine ⟨?_, ?_, ?_, ?_⟩
  · intro small
    have reports := follows.snapshots calls (by simp) fun arrival event =>
      small arrival (List.reduceOption_mem_iff.mpr event)
    simpa only [Nat.zero_add, windows] using reports
  · exact flatten_closedWindows_append_openWindow [] _
  · rintro ⟨arrival, member, high⟩
    obtain ⟨count, window, atEnd, wide⟩ := follows.after_tooWide calls
      ⟨arrival, high, Or.inr (List.reduceOption_mem_iff.mp member)⟩
    exact (atEnd.snapshot_tooWide wide).1
  · intro plane seq
    rcases (table.after calls).record_eq flowKey plane seq with
      ⟨error, raised, refused⟩ | ⟨index, next, nonneg, accepted, returned, -⟩
    · simp [refused, raised, LossWindowTable.recorded]
    · simp [accepted, returned]

/-- Two packets of one flow, one of another, and a snapshot of the first. -/
theorem snapshots_eq_reference_two_flows : ∃ table : LossWindowTable Nat 4,
    LossWindowTable.init 4 = .ok table ∧
    table.snapshots 0 [.record 0 1 9, .record 1 2 3, .record 0 1 5, .snapshotAndReset 0] =
      [.ok ⟨0, [⟨1, 2, 5, 0⟩]⟩] :=
  ⟨_, rfl, (snapshots_eq_reference rfl
    [.record 0 1 9, .record 1 2 3, .record 0 1 5, .snapshotAndReset 0] 0).1 (by decide)⟩

/-- One packet on plane 256 of 257: the snapshot raises. -/
theorem snapshots_257_planes : ∃ table : LossWindowTable Unit 257,
    LossWindowTable.init 257 = .ok table ∧
    table.snapshots () [.record () 256 0, .snapshotAndReset ()] =
      [.error (.valueError "plane_id must be uint8, got 256")] :=
  ⟨_, rfl, by decide +kernel⟩

end LossWindowTable

end Srv6Fabric.Mrc

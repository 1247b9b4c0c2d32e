import Srv6Fabric.Library.Largest
import Srv6Fabric.Library.Tally
import Srv6Fabric.Library.Windows
import Srv6Fabric.Topo

/-!
# Reorder statistics of a receiver

`reorder.py`: the statistics are kept one arrival at a time, with a bounded window of
sequence numbers.  They are what the whole arrival trace of the flow says.
-/

namespace Srv6Fabric

open Srv6Fabric.Library

/-- Per-flow rolling state. -/
structure FlowStats where
  flow : FlowKey
  firstSeq : Option Int := none
  lastSeqSeen : Int := -1
  received : Nat := 0
  duplicates : Nat := 0
  perPlane : OrderedDict Int Nat := .empty
  reorderHist : OrderedDict Int Nat := .empty
  window : Finset Int := ∅
  windowCap : Nat := 4096

def FlowStats.observe (stats : FlowStats) (seq : Int) (plane : Option Int) : FlowStats :=
  let stats := { stats with firstSeq := stats.firstSeq.or (some seq) }
  if seq ∈ stats.window then { stats with duplicates := stats.duplicates + 1 }
  else
    let counted := { stats with
      -- `_window.add(seq)`, and `_window.discard(min(_window))` past the cap.
      window := keepLargest stats.windowCap stats.window seq
      received := stats.received + 1
      perPlane := match plane with
        | some plane => stats.perPlane.bump plane
        | none => stats.perPlane }
    if stats.lastSeqSeen < seq then
      { counted with lastSeqSeen := seq, reorderHist := stats.reorderHist.bump 0 }
    else { counted with reorderHist := stats.reorderHist.bump (stats.lastSeqSeen - seq) }

theorem FlowStats.observe_repeat {stats : FlowStats} {seq : Int} (seen : seq ∈ stats.window)
    (plane : Option Int) :
    stats.observe seq plane =
      { stats with
        firstSeq := stats.firstSeq.or (some seq)
        duplicates := stats.duplicates + 1 } :=
  if_pos seen

theorem FlowStats.observe_fresh {stats : FlowStats} {seq : Int} (fresh : seq ∉ stats.window)
    (plane : Option Int) :
    stats.observe seq plane =
      { stats with
        firstSeq := stats.firstSeq.or (some seq)
        lastSeqSeen := max stats.lastSeqSeen seq
        received := stats.received + 1
        perPlane := plane.elim stats.perPlane stats.perPlane.bump
        reorderHist := stats.reorderHist.bump (max 0 (stats.lastSeqSeen - seq))
        window := keepLargest stats.windowCap stats.window seq } := by
  unfold observe
  dsimp only
  rw [if_neg fresh]
  split
  · next later =>
    rw [max_eq_right later.le, max_eq_left (by omega)]
    cases plane <;> rfl
  · next late =>
    rw [max_eq_left (not_lt.mp late), max_eq_right (by omega)]
    cases plane <;> rfl

/-- Per-flow demultiplexer. -/
structure ReorderTracker where
  flows : OrderedDict FlowKey FlowStats := .empty

/-- What `observe` is told of one packet besides its flow. -/
structure Arrival where
  seq : Int
  plane : Option Int := none
  deriving DecidableEq, Repr

namespace ReorderTracker

def observe (tracker : ReorderTracker) (flow : FlowKey) (arrival : Arrival) : ReorderTracker :=
  let stats := (tracker.flows.find? flow).getD { flow }
  ⟨tracker.flows.set flow (stats.observe arrival.seq arrival.plane)⟩

def run (calls : List (FlowKey × Arrival)) : ReorderTracker :=
  calls.foldl (fun tracker (flow, arrival) => tracker.observe flow arrival) {}

end ReorderTracker

/-! ## The statistics of a whole trace -/

namespace Trace

def seqs (arrivals : List Arrival) : Finset Int := (arrivals.map Arrival.seq).toFinset

/-- The largest sequence number, -1 before the first arrival. -/
def latest (arrivals : List Arrival) : Int := (arrivals.map Arrival.seq).max?.getD (-1)

/-- The sequence number came before, and is among the 4096 largest that did. -/
def repeats (earlier : List Arrival) (arrival : Arrival) : Bool :=
  arrival.seq ∈ largest 4096 (seqs earlier)

/-- How far an arrival is below the largest sequence number before it. -/
def behind (earlier : List Arrival) (arrival : Arrival) : Int :=
  max 0 (latest earlier - arrival.seq)

/-- The arrivals that are not repeats, each with the arrivals before it. -/
def received (arrivals : List Arrival) : List (List Arrival × Arrival) :=
  (withEarlier [] arrivals).filter fun (earlier, arrival) => !repeats earlier arrival

/-- The statistics the trace of one flow stands for. -/
def stats (flow : FlowKey) (arrivals : List Arrival) : FlowStats where
  flow := flow
  firstSeq := (arrivals.map Arrival.seq).head?
  lastSeqSeen := latest arrivals
  received := (received arrivals).length
  duplicates := (withEarlier [] arrivals).countP fun (earlier, arrival) => repeats earlier arrival
  perPlane := tally ((received arrivals).filterMap fun (_, arrival) => arrival.plane)
  reorderHist := tally ((received arrivals).map fun (earlier, arrival) => behind earlier arrival)
  window := largest 4096 (seqs arrivals)

/-! ## One more arrival -/

theorem seqs_concat (arrivals : List Arrival) (arrival : Arrival) :
    seqs (arrivals ++ [arrival]) = insert arrival.seq (seqs arrivals) := by
  simp [seqs, Finset.union_comm]

theorem repeats_iff {earlier : List Arrival} {arrival : Arrival} :
    repeats earlier arrival = true ↔ arrival.seq ∈ largest 4096 (seqs earlier) :=
  decide_eq_true_iff

/-- The window keeps its numbers on a repeat, and otherwise makes room for the new one. -/
theorem window_concat (arrivals : List Arrival) (arrival : Arrival) :
    largest 4096 (seqs (arrivals ++ [arrival])) =
      if repeats arrivals arrival then largest 4096 (seqs arrivals)
      else keepLargest 4096 (largest 4096 (seqs arrivals)) arrival.seq := by
  rw [seqs_concat, largest_insert]
  simp only [repeats_iff]

theorem received_concat (arrivals : List Arrival) (arrival : Arrival) :
    received (arrivals ++ [arrival]) =
      received arrivals ++ if repeats arrivals arrival then [] else [(arrivals, arrival)] := by
  rw [received, withEarlier_concat, List.filter_append, ← received]
  cases repeated : repeats arrivals arrival with
  | true => simp [repeated]
  | false => simp [repeated]

theorem latest_concat {arrivals : List Arrival} {arrival : Arrival} (nonneg : 0 ≤ arrival.seq) :
    latest (arrivals ++ [arrival]) = max (latest arrivals) arrival.seq := by
  rw [latest, latest, List.map_append, List.map_singleton, max?_concat, Option.getD_some]
  cases (arrivals.map Arrival.seq).max? with
  | none => exact (max_eq_right (show -1 ≤ arrival.seq by omega)).symm
  | some top => rfl

theorem le_latest {arrivals : List Arrival} {arrival : Arrival} (mem : arrival ∈ arrivals) :
    arrival.seq ≤ latest arrivals := by
  cases arrivals with
  | nil => cases mem
  | cons first rest =>
      obtain ⟨top, here⟩ : ∃ top, ((first :: rest).map Arrival.seq).max? = some top :=
        Option.isSome_iff_exists.mp (by simp)
      rw [latest, here, Option.getD_some]
      exact (List.max?_eq_some_iff.mp here).2 _ (List.mem_map_of_mem mem)

theorem le_latest_of_repeats {earlier : List Arrival} {arrival : Arrival}
    (repeated : repeats earlier arrival) : arrival.seq ≤ latest earlier := by
  have mem := (isLargest_largest 4096 (seqs earlier)).subset (repeats_iff.mp repeated)
  obtain ⟨other, member, same⟩ := List.mem_map.mp (List.mem_toFinset.mp mem)
  rw [← same]
  exact le_latest member

/-- Observing one more arrival gives the statistics of the longer trace. -/
theorem observe_stats (flow : FlowKey) (arrivals : List Arrival) {arrival : Arrival}
    (nonneg : 0 ≤ arrival.seq) :
    (stats flow arrivals).observe arrival.seq arrival.plane = stats flow (arrivals ++ [arrival]) := by
  have first : (arrivals.map Arrival.seq ++ [arrival.seq]).head? =
      ((arrivals.map Arrival.seq).head?).or (some arrival.seq) := by
    cases arrivals <;> rfl
  have window := window_concat arrivals arrival
  by_cases dropped : repeats arrivals arrival = true
  · rw [if_pos dropped] at window
    rw [FlowStats.observe_repeat (repeats_iff.mp dropped)]
    simp only [stats, first, latest_concat nonneg, received_concat, withEarlier_concat,
      List.countP_append, List.nil_append, List.countP_singleton, dropped, if_true, window,
      List.append_nil, List.map_append, List.map_singleton,
      max_eq_left (le_latest_of_repeats dropped)]
  · have kept : repeats arrivals arrival = false := Bool.eq_false_iff.mpr dropped
    rw [if_neg dropped] at window
    rw [FlowStats.observe_fresh (mt repeats_iff.mpr dropped)]
    have planes : tally ((received arrivals ++ [(arrivals, arrival)]).filterMap
          fun pair => pair.2.plane) =
        arrival.plane.elim (tally ((received arrivals).filterMap fun pair => pair.2.plane))
          (tally ((received arrivals).filterMap fun pair => pair.2.plane)).bump := by
      rw [List.filterMap_append]
      cases sent : arrival.plane with
      | none => simp [sent]
      | some plane => simp [sent, tally_concat]
    simp only [stats, first, latest_concat nonneg, received_concat, withEarlier_concat,
      List.countP_append, List.nil_append, List.countP_singleton, kept, Bool.false_eq_true,
      if_false, window, planes, List.map_append, List.map_singleton, tally_concat,
      List.length_append, List.length_singleton, behind, Nat.add_zero]

/-- What the counters of a trace add up to. -/
theorem stats_totals (flow : FlowKey) (arrivals : List Arrival) :
    (stats flow arrivals).received + (stats flow arrivals).duplicates = arrivals.length ∧
      (stats flow arrivals).reorderHist.total = (stats flow arrivals).received ∧
      ((∀ arrival ∈ arrivals, arrival.plane.isSome) →
        (stats flow arrivals).perPlane.total = (stats flow arrivals).received) := by
  refine ⟨?_, ?_, ?_⟩
  · have split := (withEarlier [] arrivals).length_eq_countP_add_countP
      fun pair => repeats pair.1 pair.2
    rw [length_withEarlier] at split
    simp only [stats, received, ← List.countP_eq_length_filter]
    simp only [Bool.not_eq_true, Bool.decide_eq_false] at split
    omega
  · simp only [stats, total_tally, List.length_map]
  · intro carried
    have all : ∀ pair ∈ received arrivals, pair.2.plane.isSome := by
      intro pair mem
      apply carried
      rw [← map_snd_withEarlier [] arrivals]
      exact List.mem_map_of_mem (List.mem_of_mem_filter mem)
    simp only [stats, total_tally]
    exact List.filterMap_length_eq_length.mpr all

/-- The histogram counts the received arrivals by how far behind they were. -/
theorem reorderHist_find? (flow : FlowKey) (arrivals : List Arrival) (distance : Int) :
    let count := (received arrivals).countP fun (earlier, arrival) =>
      behind earlier arrival = distance
    (stats flow arrivals).reorderHist.find? distance = if count = 0 then none else some count := by
  simp only [stats, find?_tally, List.count_eq_countP, List.countP_map, Function.comp_def,
    beq_eq_decide]

/-- Before any arrival. -/
theorem stats_nil (flow : FlowKey) : stats flow [] = { flow } := rfl

end Trace

/-! ## The tracker -/

/-- The arrivals of one flow, in order. -/
def ownArrivals (flow : FlowKey) (calls : List (FlowKey × Arrival)) : List Arrival :=
  (calls.filter fun call => call.1 = flow).map Prod.snd

theorem ownArrivals_concat (flow : FlowKey) (calls : List (FlowKey × Arrival))
    (call : FlowKey × Arrival) :
    ownArrivals flow (calls ++ [call]) =
      ownArrivals flow calls ++ if call.1 = flow then [call.2] else [] := by
  rw [ownArrivals, List.filter_append, List.map_append, ← ownArrivals]
  by_cases own : call.1 = flow
  · simp [own]
  · simp [own]

/-- The tracker keeps for each flow the statistics of its own arrivals. -/
theorem find?_run {calls : List (FlowKey × Arrival)} (nonneg : ∀ call ∈ calls, 0 ≤ call.2.seq)
    (flow : FlowKey) :
    (ReorderTracker.run calls).flows.find? flow =
      if ownArrivals flow calls = [] then none
      else some (Trace.stats flow (ownArrivals flow calls)) := by
  induction calls using List.reverseRecOn with
  | nil => rfl
  | append_singleton calls call ih =>
      obtain ⟨where_, arrival⟩ := call
      have earlier := ih fun other mem => nonneg other (List.mem_append_left _ mem)
      have seq : 0 ≤ arrival.seq := nonneg (where_, arrival) (by simp)
      have step : ReorderTracker.run (calls ++ [(where_, arrival)]) =
          (ReorderTracker.run calls).observe where_ arrival := List.foldl_append
      rw [step, ReorderTracker.observe, OrderedDict.find?_set, ownArrivals_concat]
      by_cases own : where_ = flow
      · subst own
        have before : ((ReorderTracker.run calls).flows.find? where_).getD { flow := where_ } =
            Trace.stats where_ (ownArrivals where_ calls) := by
          rw [earlier]
          split
          · next first => rw [first, Option.getD_none, Trace.stats_nil]
          · rfl
        rw [before, Trace.observe_stats where_ _ seq]
        simp
      · rw [if_neg (Ne.symm own), if_neg own, List.append_nil]
        exact earlier

/-- For every interleaving of arrivals over any flows, the tracker holds for each flow
that had one exactly the statistics of its own arrivals; they add up, and the histogram
counts the received arrivals by how far they were behind. -/
theorem flow_stats_eq_trace {calls : List (FlowKey × Arrival)}
    (nonneg : ∀ call ∈ calls, 0 ≤ call.2.seq) (flow : FlowKey) :
    let own := ownArrivals flow calls
    let stats := Trace.stats flow own
    (ReorderTracker.run calls).flows.find? flow = (if own = [] then none else some stats) ∧
      IsLargest 4096 (Trace.seqs own) stats.window ∧
      stats.received + stats.duplicates = own.length ∧
      (∀ distance,
        let count := (Trace.received own).countP fun (earlier, arrival) =>
          Trace.behind earlier arrival = distance
        stats.reorderHist.find? distance = if count = 0 then none else some count) ∧
      stats.reorderHist.total = stats.received ∧
      ((∀ arrival ∈ own, arrival.plane.isSome) → stats.perPlane.total = stats.received) := by
  intro own stats
  obtain ⟨counted, histogram, planes⟩ := Trace.stats_totals flow own
  exact ⟨find?_run nonneg flow, isLargest_largest 4096 _, counted, Trace.reorderHist_find? flow own, histogram, planes⟩

/-- Two interleaved flows, one of them reordered and with a repeat. -/
theorem flow_stats_eq_trace_two_flows :
    let red : FlowKey := ⟨"fd00::1", "fd00::2", 9000, 9999⟩
    let blue : FlowKey := ⟨"fd00::1", "fd00::2", 9001, 9999⟩
    let calls : List (FlowKey × Arrival) :=
      [(red, ⟨0, some 0⟩), (blue, ⟨5, some 1⟩), (red, ⟨2, some 1⟩), (red, ⟨1, some 0⟩),
        (red, ⟨2, some 1⟩)]
    (ReorderTracker.run calls).flows.find? red =
      some (Trace.stats red [⟨0, some 0⟩, ⟨2, some 1⟩, ⟨1, some 0⟩, ⟨2, some 1⟩]) := by
  intro red blue calls
  exact (flow_stats_eq_trace (by decide) red).1

end Srv6Fabric

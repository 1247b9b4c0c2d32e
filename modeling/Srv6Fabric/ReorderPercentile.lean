import Srv6Fabric.Library.Quantile
import Srv6Fabric.Library.Sorting
import Srv6Fabric.ReorderLoss

/-!
# Reorder percentiles

`FlowStats.reorder_percentile`, in exact rational arithmetic.  The histogram counts the
received packets by how late they were, whatever the sequence numbers, so the loop over its
sorted distances finds a quantile of these packets.
-/

namespace Srv6Fabric

open Srv6Fabric.Library

namespace FlowStats

/-- `reorder_max`. -/
def reorderMax (stats : FlowStats) : Int := stats.reorderHist.keys.max?.getD 0

/-- `reorder_hist[d]`, for a distance that is there. -/
def binCount (stats : FlowStats) (distance : Int) : Nat :=
  (stats.reorderHist.find? distance).getD 0

/-- The loop of `reorder_percentile`, over the sorted distances. -/
def percentileLoop (stats : FlowStats) (pct : ℚ) : Option Int :=
  firstReaching stats.binCount (stats.reorderHist.total * pct / 100) 0
    (stats.reorderHist.keys.mergeSort fun distance other => distance ≤ other)

def reorderPercentile (stats : FlowStats) (pct : ℚ) : Except PyError Int :=
  if stats.reorderHist.entries = [] then .ok 0
  else if ¬ (0 < pct ∧ pct ≤ 100) then .error (.valueError "pct must be in (0, 100]")
  else
    match stats.percentileLoop pct with
    | some distance => .ok distance
    | none => .ok stats.reorderMax

end FlowStats

/-! ## The packets behind the histogram -/

namespace Trace

/-- How late a packet is: 0 ahead of all earlier ones.  The largest number starts at -1. -/
def delta (earlier : List Arrival) (arrival : Arrival) : Int :=
  max 0 (max (-1) (latest earlier) - arrival.seq)

/-- The deltas of the received packets. -/
def deltas (arrivals : List Arrival) : List Int :=
  (received arrivals).map fun (earlier, arrival) => delta earlier arrival

theorem latest_concat_of_any (arrivals : List Arrival) (arrival : Arrival) :
    max (-1) (latest (arrivals ++ [arrival])) = max (max (-1) (latest arrivals)) arrival.seq := by
  rw [latest, latest, List.map_append, List.map_singleton, max?_concat, Option.getD_some]
  cases (arrivals.map Arrival.seq).max? with
  | none => rfl
  | some top => exact (max_assoc _ _ _).symm

/-- What percentiles depend on, after any arrivals. -/
structure Counted (stats : FlowStats) (arrivals : List Arrival) : Prop where
  windowCap : stats.windowCap = 4096
  window : stats.window = largest 4096 (seqs arrivals)
  lastSeqSeen : stats.lastSeqSeen = max (-1) (latest arrivals)
  received : stats.received = (deltas arrivals).length
  reorderHist : stats.reorderHist = tally (deltas arrivals)

theorem Counted.start (flow : FlowKey) : Counted { flow } [] where
  windowCap := rfl
  window := rfl
  lastSeqSeen := rfl
  received := rfl
  reorderHist := rfl

theorem deltas_concat (arrivals : List Arrival) (arrival : Arrival) :
    deltas (arrivals ++ [arrival]) =
      deltas arrivals ++ if repeats arrivals arrival then [] else [delta arrivals arrival] := by
  rw [deltas, received_concat, List.map_append, ← deltas]
  split <;> rfl

theorem Counted.observe {stats : FlowStats} {arrivals : List Arrival}
    (counted : Counted stats arrivals) (arrival : Arrival) :
    Counted (stats.observe arrival.seq arrival.plane) (arrivals ++ [arrival]) := by
  have window := window_concat arrivals arrival
  by_cases dropped : repeats arrivals arrival = true
  · rw [if_pos dropped] at window
    rw [FlowStats.observe_repeat (counted.window ▸ repeats_iff.mp dropped)]
    refine ⟨counted.windowCap, ?_, ?_, ?_, ?_⟩
    · rw [window]
      exact counted.window
    · rw [latest_concat_of_any,
        max_eq_left ((le_latest_of_repeats dropped).trans (le_max_right _ _))]
      exact counted.lastSeqSeen
    · rw [deltas_concat, if_pos dropped, List.append_nil]
      exact counted.received
    · rw [deltas_concat, if_pos dropped, List.append_nil]
      exact counted.reorderHist
  · rw [if_neg dropped] at window
    rw [FlowStats.observe_fresh fun mem => dropped (repeats_iff.mpr (counted.window ▸ mem))]
    refine ⟨counted.windowCap, ?_, ?_, ?_, ?_⟩
    · rw [window, counted.windowCap, counted.window]
    · rw [latest_concat_of_any, counted.lastSeqSeen]
    · rw [deltas_concat, if_neg dropped, List.length_append, List.length_singleton, counted.received]
    · rw [deltas_concat, if_neg dropped, tally_concat, counted.reorderHist, delta,
        counted.lastSeqSeen]

theorem counted_observeAll (flow : FlowKey) (arrivals : List Arrival) :
    Counted (({ flow } : FlowStats).observeAll arrivals) arrivals := by
  induction arrivals using List.reverseRecOn with
  | nil => exact Counted.start flow
  | append_singleton arrivals arrival ih =>
      rw [FlowStats.observeAll_concat]
      exact ih.observe arrival

end Trace

/-! ## Percentiles -/

namespace Trace.Counted

variable {stats : FlowStats} {arrivals : List Arrival}

theorem mem_keys (counted : Counted stats arrivals) (distance : Int) :
    distance ∈ stats.reorderHist.keys ↔ distance ∈ deltas arrivals := by
  rw [counted.reorderHist, mem_keys_tally]

theorem binCount_eq (counted : Counted stats arrivals) :
    stats.binCount = (deltas arrivals).count := by
  funext distance
  rw [FlowStats.binCount, counted.reorderHist, find?_tally]
  split
  · next none_ => exact none_.symm
  · rfl

theorem total_eq (counted : Counted stats arrivals) :
    stats.reorderHist.total = stats.received := by
  rw [counted.reorderHist, total_tally, counted.received]

/-- The loop returns, with a quantile of the deltas. -/
theorem percentileLoop_isQuantile (counted : Counted stats arrivals) (accepted : 0 < stats.received)
    {pct : ℚ} (positive : 0 < pct) (atMost : pct ≤ 100) :
    ∃ distance, stats.percentileLoop pct = some distance ∧
      IsQuantile (deltas arrivals) (stats.received * pct / 100) distance := by
  have some_ : (0 : ℚ) < stats.received := by exact_mod_cast accepted
  have few : (stats.received : ℚ) * pct / 100 ≤ (deltas arrivals).length := by
    rw [← counted.received, div_le_iff₀ (by norm_num)]
    exact mul_le_mul_of_nonneg_left atMost some_.le
  rw [FlowStats.percentileLoop, counted.binCount_eq, counted.total_eq]
  have reachable : 0 < (stats.received : ℚ) * pct / 100 :=
    div_pos (mul_pos some_ positive) (by norm_num)
  refine firstReaching_isQuantile (pairwise_lt_mergeSort stats.reorderHist.nodup) ?_ reachable few
  intro distance
  rw [List.mem_mergeSort]
  exact counted.mem_keys distance

theorem reorderPercentile_eq (counted : Counted stats arrivals) (accepted : 0 < stats.received)
    {pct : ℚ} (positive : 0 < pct) (atMost : pct ≤ 100) {distance : Int}
    (found : stats.percentileLoop pct = some distance) :
    stats.reorderPercentile pct = .ok distance := by
  have nonempty : stats.reorderHist.entries ≠ [] := by
    intro empty
    have total := counted.total_eq
    rw [OrderedDict.total, empty] at total
    exact absurd total accepted.ne
  rw [FlowStats.reorderPercentile, if_neg nonempty, if_neg (not_not.mpr ⟨positive, atMost⟩), found]

/-- At 100 percent the quantile is the largest distance. -/
theorem reorderMax_eq (counted : Counted stats arrivals) {distance : Int}
    (quantile : IsQuantile (deltas arrivals) (stats.received * 100 / 100) distance) :
    stats.reorderMax = distance := by
  rw [mul_div_cancel_right₀ _ (by norm_num), counted.received] at quantile
  have top : stats.reorderHist.keys.max? = some distance :=
    List.max?_eq_some_iff.mpr ⟨(counted.mem_keys distance).mpr quantile.1.1,
      fun other mem => quantile.le_of_all ((counted.mem_keys other).mp mem)⟩
  rw [FlowStats.reorderMax, top]
  rfl

end Trace.Counted

/-- After any arrivals of which one was accepted, `reorder_percentile` returns in its loop the
least distance of the histogram that at least `pct` percent of the received packets do not
exceed.  It grows with `pct`, and is `reorder_max` at 100. -/
theorem reorder_percentile_exact (flow : FlowKey) (arrivals : List Arrival)
    (accepted : 0 < (({ flow } : FlowStats).observeAll arrivals).received) :
    let stats := ({ flow } : FlowStats).observeAll arrivals
    let deltas := Trace.deltas arrivals
    stats.received = deltas.length ∧
      (∀ pct : ℚ, 0 < pct → pct ≤ 100 → ∃ distance,
        stats.percentileLoop pct = some distance ∧
        stats.reorderPercentile pct = .ok distance ∧
        IsLeast {distance | distance ∈ stats.reorderHist.keys ∧
          stats.received * pct / 100 ≤ deltas.countP (· ≤ distance)} distance) ∧
      (∀ pct further : ℚ, 0 < pct → pct ≤ further → further ≤ 100 →
        ∀ distance later, stats.reorderPercentile pct = .ok distance →
          stats.reorderPercentile further = .ok later → distance ≤ later) ∧
      stats.reorderPercentile 100 = .ok stats.reorderMax := by
  intro stats deltas
  have counted := Trace.counted_observeAll flow arrivals
  have exact_ : ∀ pct : ℚ, 0 < pct → pct ≤ 100 → ∃ distance,
      stats.percentileLoop pct = some distance ∧ stats.reorderPercentile pct = .ok distance ∧
        IsQuantile deltas (stats.received * pct / 100) distance := by
    intro pct positive atMost
    obtain ⟨distance, found, quantile⟩ :=
      counted.percentileLoop_isQuantile accepted positive atMost
    exact ⟨distance, found, counted.reorderPercentile_eq accepted positive atMost found, quantile⟩
  refine ⟨counted.received, ?_, ?_, ?_⟩
  · intro pct positive atMost
    obtain ⟨distance, found, returned, quantile⟩ := exact_ pct positive atMost
    refine ⟨distance, found, returned, ?_⟩
    rw [IsQuantile] at quantile
    simpa only [stats, counted.mem_keys] using quantile
  · intro pct further positive le atMost distance later here there
    obtain ⟨_, -, returned, quantile⟩ := exact_ pct positive (le.trans atMost)
    obtain ⟨_, -, returnedLater, onward⟩ := exact_ further (positive.trans_le le) atMost
    obtain rfl := Except.ok.inj (here.symm.trans returned)
    obtain rfl := Except.ok.inj (there.symm.trans returnedLater)
    refine quantile.mono onward (div_le_div_of_nonneg_right ?_ (by norm_num))
    exact mul_le_mul_of_nonneg_left le (Nat.cast_nonneg _)
  · obtain ⟨distance, -, returned, quantile⟩ := exact_ 100 (by norm_num) le_rfl
    rw [returned, counted.reorderMax_eq quantile]

/-- Of three packets, one of which is two late, two thirds are on time. -/
theorem reorder_percentile_three_packets :
    let stats := ({ flow := FlowKey.greenFlow } : FlowStats).observeAll [⟨0, none⟩, ⟨3, none⟩, ⟨1, none⟩]
    stats.reorderMax = 2 ∧ stats.reorderPercentile 100 = .ok 2 := by
  intro stats
  have percentiles := reorder_percentile_exact FlowKey.greenFlow [⟨0, none⟩, ⟨3, none⟩, ⟨1, none⟩]
    (by decide)
  have top : stats.reorderMax = 2 := by decide
  exact ⟨top, percentiles.2.2.2.trans (congrArg Except.ok top)⟩

end Srv6Fabric

import Mathlib.Data.Finset.Card
import Srv6Fabric.Reorder

/-!
# The loss a flow reports

`FlowStats.loss` is computed from three numbers: the first sequence number to arrive, the
largest, and how many different ones arrived.  The range it stands for starts at the first
arrival, but the count also holds those that came later from below it, so each of these
hides one missing packet.
-/

namespace Srv6Fabric

open Srv6Fabric.Library

namespace FlowStats

/-- The sequence range covered: last - first + 1, or 0 if nothing was received. -/
def expected (stats : FlowStats) : Int :=
  match stats.firstSeq with
  | none => 0
  | some first => stats.lastSeqSeen - first + 1

def loss (stats : FlowStats) : Int := max 0 (stats.expected - stats.received)

/-- The statistics after a list of arrivals. -/
def observeAll (stats : FlowStats) (arrivals : List Arrival) : FlowStats :=
  arrivals.foldl (fun stats arrival => stats.observe arrival.seq arrival.plane) stats

theorem observeAll_concat (stats : FlowStats) (arrivals : List Arrival) (arrival : Arrival) :
    stats.observeAll (arrivals ++ [arrival]) =
      (stats.observeAll arrivals).observe arrival.seq arrival.plane :=
  List.foldl_append

end FlowStats

namespace Trace

/-- The sequence numbers of a range, both ends included. -/
def span (first last : Int) : Finset Int :=
  (Finset.range (last + 1 - first).toNat).image fun offset : Nat => first + offset

theorem mem_span {first last seq : Int} : seq ∈ span first last ↔ first ≤ seq ∧ seq ≤ last := by
  simp only [span, Finset.mem_image, Finset.mem_range]
  constructor
  · rintro ⟨offset, small, rfl⟩
    omega
  · intro between
    exact ⟨(seq - first).toNat, by omega, by omega⟩

theorem card_span (first last : Int) : (span first last).card = (last + 1 - first).toNat := by
  have injective : Function.Injective fun offset : Nat => first + (offset : Int) :=
    fun _ _ same => Int.ofNat_inj.mp (Int.add_left_cancel same)
  rw [span, Finset.card_image_of_injective _ injective, Finset.card_range]

/-- How many sequence numbers of the range a flow covers never arrived. -/
def missing (stats : FlowStats) (arrivals : List Arrival) : Nat :=
  match stats.firstSeq with
  | none => 0
  | some first => (span first stats.lastSeqSeen \ seqs arrivals).card

/-- Nothing arrived from below the first arrival. -/
def StartsLowest (arrivals : List Arrival) : Prop :=
  ∀ first ∈ arrivals.head?, ∀ arrival ∈ arrivals, first.seq ≤ arrival.seq

/-- From the first arrival up to -1 and to every later arrival, all sequence numbers arrived. -/
def Gapless (arrivals : List Arrival) : Prop :=
  ∀ first ∈ arrivals.head?, ∀ seq, first.seq ≤ seq →
    (seq ≤ -1 ∨ ∃ arrival ∈ arrivals, seq ≤ arrival.seq) → seq ∈ seqs arrivals

theorem mem_seqs {arrivals : List Arrival} {seq : Int} :
    seq ∈ seqs arrivals ↔ ∃ arrival ∈ arrivals, arrival.seq = seq := by
  simp [seqs]

/-! ## The statistics while nothing is evicted -/

/-- What the statistics hold as long as every sequence number fits the window. -/
structure Unevicted (stats : FlowStats) (arrivals : List Arrival) : Prop where
  windowCap : stats.windowCap = 4096
  firstSeq : stats.firstSeq = arrivals.head?.map Arrival.seq
  window : stats.window = seqs arrivals
  received : stats.received = (seqs arrivals).card
  above : ∀ arrival ∈ arrivals, arrival.seq ≤ stats.lastSeqSeen
  reached : stats.lastSeqSeen = -1 ∨ ∃ arrival ∈ arrivals, arrival.seq = stats.lastSeqSeen
  start : -1 ≤ stats.lastSeqSeen

namespace Unevicted

variable {stats : FlowStats} {arrivals : List Arrival}

theorem firstSeq_concat (unevicted : Unevicted stats arrivals) (arrival : Arrival) :
    stats.firstSeq.or (some arrival.seq) =
      (arrivals ++ [arrival]).head?.map Arrival.seq := by
  rw [unevicted.firstSeq]
  cases arrivals <;> rfl

/-- One more arrival, which still fits. -/
theorem observe (unevicted : Unevicted stats arrivals) {arrival : Arrival}
    (fits : (seqs (arrivals ++ [arrival])).card ≤ 4096) :
    Unevicted (stats.observe arrival.seq arrival.plane) (arrivals ++ [arrival]) := by
  have first := unevicted.firstSeq_concat arrival
  rw [seqs_concat] at fits
  by_cases seen : arrival.seq ∈ stats.window
  · have same : insert arrival.seq (seqs arrivals) = seqs arrivals :=
      Finset.insert_eq_of_mem (unevicted.window ▸ seen)
    obtain ⟨earlier, earlierMem, earlierEq⟩ := mem_seqs.mp (unevicted.window ▸ seen)
    rw [FlowStats.observe_repeat seen]
    refine ⟨unevicted.windowCap, first, ?_, ?_, ?_, ?_, unevicted.start⟩
    · rw [seqs_concat, same]
      exact unevicted.window
    · rw [seqs_concat, same]
      exact unevicted.received
    · intro other mem
      rcases List.mem_append.mp mem with before | here
      · exact unevicted.above other before
      · rw [List.mem_singleton.mp here, ← earlierEq]
        exact unevicted.above earlier earlierMem
    · refine unevicted.reached.imp_right ?_
      rintro ⟨other, mem, eq⟩
      exact ⟨other, List.mem_append_left _ mem, eq⟩
  · have fresh : arrival.seq ∉ seqs arrivals := unevicted.window ▸ seen
    rw [FlowStats.observe_fresh seen]
    refine ⟨unevicted.windowCap, first, ?_, ?_, ?_, ?_, ?_⟩
    · rw [seqs_concat, keepLargest, dif_neg, unevicted.window]
      rw [unevicted.windowCap, unevicted.window]
      omega
    · rw [seqs_concat, Finset.card_insert_of_notMem fresh]
      exact congrArg (· + 1) unevicted.received
    · intro other mem
      rcases List.mem_append.mp mem with before | here
      · exact (unevicted.above other before).trans (le_max_left _ _)
      · rw [List.mem_singleton.mp here]
        exact le_max_right _ _
    · dsimp only
      rcases max_choice stats.lastSeqSeen arrival.seq with kept | moved
      · rw [kept]
        refine unevicted.reached.imp_right ?_
        rintro ⟨other, mem, eq⟩
        exact ⟨other, List.mem_append_left _ mem, eq⟩
      · rw [moved]
        exact Or.inr ⟨arrival, by simp, rfl⟩
    · exact unevicted.start.trans (le_max_left _ _)

theorem observeAll (flow : FlowKey) {arrivals : List Arrival}
    (fits : (seqs arrivals).card ≤ 4096) :
    Unevicted (FlowStats.observeAll { flow } arrivals) arrivals := by
  induction arrivals using List.reverseRecOn with
  | nil => exact ⟨rfl, rfl, rfl, rfl, by simp, Or.inl rfl, le_refl _⟩
  | append_singleton arrivals arrival ih =>
      rw [FlowStats.observeAll_concat]
      refine (ih ?_).observe fits
      refine le_trans (Finset.card_le_card ?_) fits
      rw [seqs_concat]
      exact Finset.subset_insert _ _

/-! ## Loss against missing -/

/-- Every arrival from below the first one takes one missing packet off the loss. -/
theorem loss_eq (unevicted : Unevicted stats arrivals) {first : Arrival}
    (firstEq : arrivals.head? = some first) :
    stats.loss = max 0 ((missing stats arrivals : Int) -
      (seqs arrivals \ span first.seq stats.lastSeqSeen).card) := by
  have head : stats.firstSeq = some first.seq := by rw [unevicted.firstSeq, firstEq]; rfl
  have ordered : first.seq ≤ stats.lastSeqSeen :=
    unevicted.above first (List.mem_of_mem_head? firstEq)
  have size : ((span first.seq stats.lastSeqSeen).card : Int) =
      stats.lastSeqSeen - first.seq + 1 := by
    rw [card_span]
    omega
  have range := Finset.card_sdiff_add_card_inter
    (span first.seq stats.lastSeqSeen) (seqs arrivals)
  have seen := Finset.card_sdiff_add_card_inter
    (seqs arrivals) (span first.seq stats.lastSeqSeen)
  rw [Finset.inter_comm] at seen
  simp only [FlowStats.loss, FlowStats.expected, missing, head, unevicted.received]
  congr 1
  omega

theorem startsLowest_iff (unevicted : Unevicted stats arrivals) {first : Arrival}
    (firstEq : arrivals.head? = some first) :
    StartsLowest arrivals ↔ seqs arrivals \ span first.seq stats.lastSeqSeen = ∅ := by
  rw [Finset.sdiff_eq_empty_iff_subset, StartsLowest, firstEq]
  constructor
  · intro lowest seq mem
    obtain ⟨arrival, arrivalMem, rfl⟩ := mem_seqs.mp mem
    exact mem_span.mpr ⟨lowest first rfl arrival arrivalMem, unevicted.above arrival arrivalMem⟩
  · rintro subset _ ⟨⟩ arrival mem
    exact (mem_span.mp (subset (mem_seqs.mpr ⟨arrival, mem, rfl⟩))).1

theorem gapless_iff (unevicted : Unevicted stats arrivals) {first : Arrival}
    (firstEq : arrivals.head? = some first) :
    Gapless arrivals ↔ missing stats arrivals = 0 := by
  have head : stats.firstSeq = some first.seq := by rw [unevicted.firstSeq, firstEq]; rfl
  have covered : ∀ seq, (seq ≤ -1 ∨ ∃ arrival ∈ arrivals, seq ≤ arrival.seq) ↔
      seq ≤ stats.lastSeqSeen := by
    intro seq
    constructor
    · rintro (before | ⟨arrival, mem, below⟩)
      · exact before.trans unevicted.start
      · exact below.trans (unevicted.above arrival mem)
    · intro below
      rcases unevicted.reached with start | ⟨arrival, mem, eq⟩
      · exact Or.inl (start ▸ below)
      · exact Or.inr ⟨arrival, mem, eq ▸ below⟩
  simp only [missing, head, Finset.card_eq_zero, Finset.sdiff_eq_empty_iff_subset, Gapless, firstEq,
    covered]
  constructor
  · intro all seq mem
    obtain ⟨low, high⟩ := mem_span.mp mem
    exact all first rfl seq low high
  · rintro subset _ ⟨⟩ seq low high
    exact subset (mem_span.mpr ⟨low, high⟩)

end Unevicted

/-- Reported loss is the number of missing packets exactly when no packet arrived from
below the first one, or when none is missing. -/
theorem loss_eq_missing_iff (flow : FlowKey) (arrivals : List Arrival)
    (fits : (seqs arrivals).card ≤ 4096) :
    let stats := FlowStats.observeAll { flow } arrivals
    stats.loss = missing stats arrivals ↔ StartsLowest arrivals ∨ Gapless arrivals := by
  intro stats
  have unevicted : Unevicted stats arrivals := Unevicted.observeAll flow fits
  cases firstEq : arrivals.head? with
  | none =>
      obtain rfl := List.head?_eq_none_iff.mp firstEq
      exact iff_of_true rfl (Or.inl (by rintro first ⟨⟩))
  | some first =>
      rw [unevicted.loss_eq firstEq, unevicted.startsLowest_iff firstEq,
        unevicted.gapless_iff firstEq, ← Finset.card_eq_zero]
      omega

/-- In order but for one late packet, nothing arrives from below the first. -/
theorem loss_eq_missing_late :
    let flow : FlowKey := ⟨"fd00::1", "fd00::2", 9000, 9999⟩
    let arrivals : List Arrival := [⟨0, none⟩, ⟨4, none⟩, ⟨2, none⟩, ⟨4, none⟩]
    let stats := FlowStats.observeAll { flow } arrivals
    stats.loss = missing stats arrivals ↔ StartsLowest arrivals ∨ Gapless arrivals :=
  loss_eq_missing_iff _ _ (by decide)

/-- Packet 3 overtaken by packet 5 at the start: 6 and 7 are missing, and one is reported. -/
theorem loss_hides_missing :
    let flow : FlowKey := ⟨"fd00::1", "fd00::2", 9000, 9999⟩
    let arrivals : List Arrival := [⟨5, none⟩, ⟨3, none⟩, ⟨8, none⟩]
    let stats := FlowStats.observeAll { flow } arrivals
    (seqs arrivals).card ≤ 4096 ∧ stats.loss = 1 ∧ missing stats arrivals = 2 ∧
      stats.loss ≠ missing stats arrivals := by
  decide

end Trace

end Srv6Fabric

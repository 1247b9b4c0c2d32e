import Mathlib.Data.Int.ModEq
import Mathlib.Data.List.Perm.Subperm
import Mathlib.Data.Rat.Floor
import Mathlib.RingTheory.Coprime.Lemmas
import Mathlib.Tactic.Linarith
import Mathlib.Tactic.LinearCombination
import Mathlib.Tactic.Positivity

/-!
# How evenly a rotation fills the circle

A point moves around a circle by the same step again and again.  When `turns` steps go around a
whole number of times and hardly further, so many consecutive points are nearly equally spaced,
and every arc has its share of them up to a constant.  Longer stretches are cut into such blocks.
-/

namespace Srv6Fabric.Library

/-! ## Counts -/

theorem countP_range_lt (bound length : Nat) :
    (List.range length).countP (fun index => index < bound) = min bound length := by
  induction length with
  | zero => simp
  | succ length ih =>
      rw [List.range_succ, List.countP_append, ih, List.countP_singleton]
      simp only [decide_eq_true_eq]
      split <;> omega

/-- A step without a common factor with the number of residues meets each of them once. -/
theorem countP_residues {count : Nat} {step : Int} (coprime : IsCoprime step count) (start : Int)
    (test : Int → Bool) :
    (List.range count).countP (fun index : Nat => test ((start + index * step) % count)) =
      (List.range count).countP fun residue : Nat => test residue := by
  have residues : ((List.range count).map fun index : Nat => (start + index * step) % count).Perm
      ((List.range count).map fun residue : Nat => (residue : Int)) := by
    refine List.Subperm.perm_of_length_le (List.subperm_of_subset ?_ ?_) (by simp)
    · refine List.Nodup.map_on (fun index mem other otherMem same => ?_) List.nodup_range
      rw [List.mem_range] at mem otherMem
      have divides : (count : Int) ∣ (other - index) * step := by
        have difference := Int.ModEq.dvd same
        rwa [add_sub_add_left_eq_sub, ← sub_mul] at difference
      have close := coprime.symm.dvd_of_dvd_mul_right divides
      have small := Int.eq_zero_of_abs_lt_dvd close (by rw [abs_lt]; omega)
      omega
    · intro residue mem
      obtain ⟨index, inRange, rfl⟩ := List.mem_map.mp mem
      have positive : (0 : Int) < count := by
        have := List.mem_range.mp inRange
        omega
      have nonneg := Int.emod_nonneg (start + index * step) positive.ne'
      have below := Int.emod_lt_of_pos (start + index * step) positive
      exact List.mem_map.mpr ⟨((start + index * step) % count).toNat,
        List.mem_range.mpr (by omega), Int.toNat_of_nonneg nonneg⟩
  have counted := residues.countP_eq test
  rwa [List.countP_map, List.countP_map] at counted

/-- So it meets as many residues below a bound as there are. -/
theorem countP_residues_lt {count : Nat} {step : Int} (coprime : IsCoprime step count) (start : Int)
    (bound : Nat) :
    (List.range count).countP (fun index : Nat => (start + index * step) % count < (bound : Int)) =
      min bound count := by
  rw [countP_residues coprime start fun residue => residue < bound, ← countP_range_lt]
  exact List.countP_congr fun residue _ => by simp

/-- A summand of at most the divisor carries once or not at all. -/
theorem ediv_add_cases {modulus extra : Int} (positive : 0 < modulus) (nonneg : 0 ≤ extra)
    (small : extra ≤ modulus) (value : Int) :
    (value + extra) / modulus = value / modulus ∨
      (value + extra) / modulus = value / modulus + 1 := by
  have atLeast := Int.ediv_le_ediv positive (show value ≤ value + extra by omega)
  have atMost := Int.ediv_le_ediv positive (show value + extra ≤ value + modulus by omega)
  rw [Int.add_ediv_of_dvd_right (dvd_refl modulus), Int.ediv_self positive.ne'] at atMost
  omega

/-! ## Rotations -/

/-- A rotation by `step` of a circle with `modulus` marks. -/
structure Rotation where
  modulus : Nat
  step : Nat
  positive : 0 < modulus

namespace Rotation

variable (rotation : Rotation)

/-- Where a point from `start` is after some steps. -/
def mark (start : Int) (steps : Nat) : Int := (start + steps * rotation.step) % rotation.modulus

/-- The same, as a part of the circle. -/
def level (start : Int) (steps : Nat) : ℚ := rotation.mark start steps / rotation.modulus

/-- So many steps go around the circle `turns` times and `excess` further, which is too little for
as many such rounds to add up to a turn. -/
structure Convergent (count turns excess : Nat) : Prop where
  around : count * rotation.step = turns * rotation.modulus + excess
  small : count * excess ≤ rotation.modulus
  coprime : IsCoprime (turns : Int) count

variable {rotation} {count turns excess : Nat}

theorem mark_nonneg (start : Int) (steps : Nat) : 0 ≤ rotation.mark start steps :=
  Int.emod_nonneg _ (by have := rotation.positive; omega)

theorem mark_lt (start : Int) (steps : Nat) : rotation.mark start steps < rotation.modulus :=
  Int.emod_lt_of_pos _ (by have := rotation.positive; omega)

/-- Of equal slots, as many as steps, the point falls in the one a pure rational rotation would take
it to, or in the next. -/
theorem Convergent.slot_cases (convergent : rotation.Convergent count turns excess) (start : Int)
    {steps : Nat} (early : steps < count) :
    let base := (count * start / rotation.modulus + steps * turns) % count
    count * rotation.mark start steps / rotation.modulus = base ∨
      count * rotation.mark start steps / rotation.modulus = (base + 1) % count := by
  intro base
  have positive : (0 : Int) < rotation.modulus := by exact_mod_cast rotation.positive
  have around : (count : Int) * rotation.step = turns * rotation.modulus + excess := by
    exact_mod_cast convergent.around
  have spilled : (steps : Int) * excess ≤ rotation.modulus := by
    exact_mod_cast (Nat.mul_le_mul_right excess early.le).trans convergent.small
  -- where the rational rotation is, with the excess of the steps made so far
  have slot : count * rotation.mark start steps / (rotation.modulus : Int) =
      (count * start + steps * excess) / (rotation.modulus : Int) +
        (steps * turns - count * ((start + steps * rotation.step) / rotation.modulus)) := by
    rw [← Int.add_mul_ediv_left _ _ positive.ne', mark, Int.emod_def]
    congr 1
    linear_combination (steps : Int) * around
  have carries := ediv_add_cases positive (show (0 : Int) ≤ steps * excess by positivity) spilled
    (count * start)
  have inRange : 0 ≤ count * rotation.mark start steps / (rotation.modulus : Int) ∧
      count * rotation.mark start steps / (rotation.modulus : Int) < count := by
    have nonneg := rotation.mark_nonneg start steps
    have below := rotation.mark_lt start steps
    have some_ : (0 : Int) < count := by omega
    exact ⟨Int.ediv_nonneg (by positivity) positive.le,
      Int.ediv_lt_of_lt_mul positive (mul_lt_mul_of_pos_left below some_)⟩
  have reduced (carry : Int) : count * start / rotation.modulus + carry + (steps * turns -
      count * ((start + steps * rotation.step) / rotation.modulus)) =
      count * start / rotation.modulus + steps * turns + carry +
        count * -((start + steps * rotation.step) / rotation.modulus) := by ring
  rw [← Int.emod_eq_of_lt inRange.1 inRange.2, slot]
  rcases carries with here | next
  · left
    have noCarry := reduced 0
    rw [add_zero, add_zero] at noCarry
    rw [here, noCarry, Int.add_mul_emod_self_left]
  · right
    rw [next, reduced 1, Int.add_mul_emod_self_left, Int.emod_add_emod]

/-! ## Blocks -/

/-- How many of the first points lie before a place on the circle. -/
def before (rotation : Rotation) (start : Int) (count : Nat) (place : ℚ) : Nat :=
  (List.range count).countP fun steps => rotation.level start steps < place

/-- The slot of a point that lies before a place, and that of one that does not. -/
theorem level_lt_iff (start : Int) (steps : Nat) (some_ : 0 < count) (place : ℚ) :
    rotation.level start steps < place ↔
      count * rotation.mark start steps < (count * place) * rotation.modulus := by
  have positive : (0 : ℚ) < rotation.modulus := by exact_mod_cast rotation.positive
  have some_ : (0 : ℚ) < count := by exact_mod_cast some_
  rw [level, div_lt_iff₀ positive, mul_assoc, mul_lt_mul_iff_right₀ some_]

theorem lt_place_of_slot_lt (start : Int) {steps : Nat} {place : ℚ} {slots : Nat}
    (some_ : 0 < count) (within : slots ≤ count * place)
    (before : count * rotation.mark start steps / (rotation.modulus : Int) < slots) :
    rotation.level start steps < place := by
  have positive : (0 : Int) < rotation.modulus := by exact_mod_cast rotation.positive
  have short : count * rotation.mark start steps < (slots * rotation.modulus : Int) :=
    Int.lt_mul_of_ediv_lt positive before
  have shortRat : (count * rotation.mark start steps : ℚ) < slots * rotation.modulus := by
    exact_mod_cast short
  rw [level_lt_iff start steps some_]
  exact shortRat.trans_le (mul_le_mul_of_nonneg_right within (Nat.cast_nonneg _))

theorem slot_le_of_lt_place (start : Int) {steps : Nat} {place : ℚ} {slots : Nat}
    (some_ : 0 < count) (beyond : count * place < slots + 1)
    (before : rotation.level start steps < place) :
    count * rotation.mark start steps / (rotation.modulus : Int) ≤ slots := by
  have positive : (0 : Int) < rotation.modulus := by exact_mod_cast rotation.positive
  have positiveRat : (0 : ℚ) < rotation.modulus := by exact_mod_cast positive
  have short := ((level_lt_iff start steps some_ place).mp before).trans
    (mul_lt_mul_of_pos_right beyond positiveRat)
  have shortInt : count * rotation.mark start steps < ((slots : Int) + 1) * rotation.modulus := by
    exact_mod_cast short
  exact Int.lt_add_one_iff.mp (Int.ediv_lt_of_lt_mul positive shortInt)

/-- Of a block of points at most one fewer lies before a place than there are slots: the point is
at most one slot beyond its rational one. -/
theorem Convergent.le_before (convergent : rotation.Convergent count turns excess) (start : Int)
    {place : ℚ} {slots : Nat} (within : slots ≤ count * place) (fits : slots ≤ count) :
    slots ≤ rotation.before start count place + 1 := by
  have inner := countP_residues_lt convergent.coprime (count * start / (rotation.modulus : Int))
    (slots - 1)
  have contained : (List.range count).countP (fun steps : Nat =>
      (count * start / (rotation.modulus : Int) + steps * turns) % count < ((slots - 1 : Nat) : Int)) ≤
      rotation.before start count place := by
    refine List.countP_mono_left fun steps mem early => ?_
    have inRange := List.mem_range.mp mem
    have early := of_decide_eq_true early
    refine decide_eq_true (lt_place_of_slot_lt start (by omega) within ?_)
    have nonneg := Int.emod_nonneg (count * start / (rotation.modulus : Int) + steps * turns)
      (show (count : Int) ≠ 0 by omega)
    rcases convergent.slot_cases start inRange with here | next
    · rw [here]
      omega
    · rw [next, Int.emod_eq_of_lt (by omega) (by omega)]
      omega
  rw [inner] at contained
  omega

/-- And at most two more: the slot after the rational one of such a point is at most one too far. -/
theorem Convergent.before_le (convergent : rotation.Convergent count turns excess) (start : Int)
    {place : ℚ} {slots : Nat} (beyond : count * place < slots + 1) :
    rotation.before start count place ≤ slots + 2 := by
  have outer := countP_residues_lt convergent.coprime
    (count * start / (rotation.modulus : Int) + 1) (slots + 2)
  have contained : rotation.before start count place ≤ (List.range count).countP
      (fun steps : Nat => (count * start / (rotation.modulus : Int) + 1 + steps * turns) % count <
        ((slots + 2 : Nat) : Int)) := by
    refine List.countP_mono_left fun steps mem early => ?_
    have inRange := List.mem_range.mp mem
    have early := slot_le_of_lt_place start (by omega) beyond (of_decide_eq_true early)
    refine decide_eq_true ?_
    rw [add_right_comm]
    rcases convergent.slot_cases start inRange with here | next
    · rw [here] at early
      rw [← Int.emod_add_emod]
      have nonneg := Int.emod_nonneg (count * start / (rotation.modulus : Int) + steps * turns)
        (show (count : Int) ≠ 0 by omega)
      have below := Int.emod_lt_of_pos (count * start / (rotation.modulus : Int) + steps * turns)
        (show (0 : Int) < count by omega)
      rcases (Int.add_one_le_iff.mpr below).eq_or_lt with wraps | inside
      · rw [wraps, Int.emod_self]
        omega
      · rw [Int.emod_eq_of_lt (by omega) inside]
        omega
    · rw [next, Int.emod_add_emod] at early
      omega
  rw [outer] at contained
  omega

/-- Of a block of points as many lie before a place as there are slots, up to two. -/
theorem Convergent.abs_before_sub_le (convergent : rotation.Convergent count turns excess)
    (start : Int) {place : ℚ} (nonneg : 0 ≤ place) (atMostOne : place ≤ 1) :
    |(rotation.before start count place : ℚ) - count * place| ≤ 2 := by
  obtain ⟨slots, isSlots⟩ : ∃ slots, slots = ⌊count * place⌋₊ := ⟨_, rfl⟩
  have within : (slots : ℚ) ≤ count * place := isSlots ▸ Nat.floor_le (by positivity)
  have beyond : count * place < slots + 1 := isSlots ▸ Nat.lt_floor_add_one _
  have fits : slots ≤ count := by
    have all : (slots : ℚ) ≤ count * 1 := within.trans (by gcongr)
    rw [mul_one] at all
    exact_mod_cast all
  have lower : (slots : ℚ) ≤ rotation.before start count place + 1 := by
    exact_mod_cast convergent.le_before start within fits
  have upper : (rotation.before start count place : ℚ) ≤ slots + 2 := by
    exact_mod_cast convergent.before_le start beyond
  rw [abs_le]
  constructor <;> linarith

/-! ## Arcs -/

/-- How many of the first points lie on an arc. -/
def hits (rotation : Rotation) (start : Int) (count : Nat) (lo hi : ℚ) : Nat :=
  (List.range count).countP fun steps =>
    lo ≤ rotation.level start steps ∧ rotation.level start steps < hi

/-- How far that is from the share of the arc. -/
def deviation (rotation : Rotation) (start : Int) (count : Nat) (lo hi : ℚ) : ℚ :=
  rotation.hits start count lo hi - count * (hi - lo)

theorem before_add_hits (start : Int) (count : Nat) {lo hi : ℚ} (ordered : lo ≤ hi) :
    rotation.before start count lo + rotation.hits start count lo hi =
      rotation.before start count hi := by
  unfold before hits
  induction List.range count with
  | nil => rfl
  | cons steps rest ih =>
      rw [List.countP_cons, List.countP_cons, List.countP_cons, ← ih]
      rcases lt_or_ge (rotation.level start steps) lo with early | late
      · simp [early, early.trans_le ordered, not_le.mpr early, Nat.add_right_comm]
      · simp [late, not_lt.mpr late, Nat.add_assoc]

theorem level_add (start : Int) (count steps : Nat) :
    rotation.level start (count + steps) =
      rotation.level (start + count * rotation.step) steps := by
  unfold level mark
  rw [Nat.cast_add, add_mul, add_assoc]

theorem deviation_add (start : Int) (count more : Nat) (lo hi : ℚ) :
    rotation.deviation start (count + more) lo hi =
      rotation.deviation start count lo hi +
        rotation.deviation (start + count * rotation.step) more lo hi := by
  have hitsAdd : rotation.hits start (count + more) lo hi =
      rotation.hits start count lo hi +
        rotation.hits (start + count * rotation.step) more lo hi := by
    unfold hits
    rw [List.range_add, List.countP_append, List.countP_map]
    simp only [Function.comp_def, level_add]
  rw [deviation, deviation, deviation, hitsAdd]
  push_cast
  ring

/-- A block of points hits an arc as often as its share says, up to four. -/
theorem Convergent.abs_deviation_le (convergent : rotation.Convergent count turns excess)
    (start : Int) {lo hi : ℚ} (nonneg : 0 ≤ lo) (ordered : lo ≤ hi) (atMostOne : hi ≤ 1) :
    |rotation.deviation start count lo hi| ≤ 4 := by
  have beforeLo := convergent.abs_before_sub_le start nonneg (ordered.trans atMostOne)
  have beforeHi := convergent.abs_before_sub_le start (nonneg.trans ordered) atMostOne
  have between : (rotation.before start count lo : ℚ) + rotation.hits start count lo hi =
      rotation.before start count hi := by
    exact_mod_cast before_add_hits start count ordered
  rw [abs_le] at beforeLo beforeHi ⊢
  unfold deviation
  constructor <;> linarith [beforeLo.1, beforeLo.2, beforeHi.1, beforeHi.2]

theorem abs_deviation_blocks {lo hi bound : ℚ}
    (block : ∀ start, |rotation.deviation start count lo hi| ≤ bound) (start : Int) (blocks : Nat) :
    |rotation.deviation start (blocks * count) lo hi| ≤ blocks * bound := by
  induction blocks with
  | zero => simp [deviation, hits]
  | succ blocks ih =>
      rw [Nat.succ_mul, deviation_add]
      calc |rotation.deviation start (blocks * count) lo hi +
            rotation.deviation (start + (blocks * count : Nat) * rotation.step) count lo hi|
          ≤ _ + _ := abs_add_le _ _
        _ ≤ blocks * bound + bound := add_le_add ih (block _)
        _ = (blocks + 1 : Nat) * bound := by
            push_cast
            ring

theorem abs_deviation_le_count (start : Int) (count : Nat) {lo hi : ℚ} (nonneg : 0 ≤ lo)
    (ordered : lo ≤ hi) (atMostOne : hi ≤ 1) : |rotation.deviation start count lo hi| ≤ count := by
  have atMost : (rotation.hits start count lo hi : ℚ) ≤ count := by
    have hitsLe := List.countP_le_length (l := List.range count) (p := fun steps =>
      decide (lo ≤ rotation.level start steps ∧ rotation.level start steps < hi))
    rw [List.length_range] at hitsLe
    exact_mod_cast hitsLe
  have some_ : (0 : ℚ) ≤ rotation.hits start count lo hi := Nat.cast_nonneg _
  have share : count * (hi - lo) ≤ (count : ℚ) := mul_le_of_le_one_right (Nat.cast_nonneg _) (by linarith)
  have shareNonneg : 0 ≤ count * (hi - lo) := mul_nonneg (Nat.cast_nonneg _) (by linarith)
  rw [abs_le, deviation]
  constructor <;> linarith

/-- Any stretch of points, cut into blocks of a large convergent, the rest into blocks of a small
one, and the rest point by point. -/
theorem abs_deviation_le_of_convergents {large small : Nat} {largeTurns largeExcess : Nat}
    {smallTurns smallExcess : Nat} (largeBlocks : rotation.Convergent large largeTurns largeExcess)
    (smallBlocks : rotation.Convergent small smallTurns smallExcess) (start : Int) (length : Nat)
    {lo hi : ℚ} (nonneg : 0 ≤ lo) (ordered : lo ≤ hi) (atMostOne : hi ≤ 1) :
    |rotation.deviation start length lo hi| ≤
      (length / large : Nat) * 4 + (length % large / small : Nat) * 4 +
        (length % large % small : Nat) := by
  obtain ⟨cut, isCut⟩ : ∃ cut : Int, cut = start + (length / large * large : Nat) * rotation.step :=
    ⟨_, rfl⟩
  have first := abs_deviation_blocks (fun start =>
    largeBlocks.abs_deviation_le start nonneg ordered atMostOne) start (length / large)
  have second := abs_deviation_blocks (fun start =>
    smallBlocks.abs_deviation_le start nonneg ordered atMostOne) cut (length % large / small)
  have rest := rotation.abs_deviation_le_count (cut + (length % large / small * small : Nat) *
    rotation.step) (length % large % small) nonneg ordered atMostOne
  have whole : length = length / large * large +
      (length % large / small * small + length % large % small) := by
    rw [Nat.div_add_mod', Nat.div_add_mod']
  have cutUp : rotation.deviation start length lo hi =
      rotation.deviation start (length / large * large) lo hi +
        (rotation.deviation cut (length % large / small * small) lo hi +
          rotation.deviation (cut + (length % large / small * small : Nat) * rotation.step)
            (length % large % small) lo hi) := by
    conv_lhs => rw [whole]
    rw [deviation_add, deviation_add, ← isCut]
  rw [cutUp, add_assoc]
  exact (abs_add_le _ _).trans (add_le_add first ((abs_add_le _ _).trans (add_le_add second rest)))

end Rotation

end Srv6Fabric.Library

import Srv6Fabric.Library.Equidistribution
import Srv6Fabric.Policy

/-!
# Weighted spray over a window

The draws of consecutive sequence numbers rotate a circle by the golden ratio, to 64 bits.  Of any
8000 or more of them every plane gets its share to within two percent.
-/

namespace Srv6Fabric.Policy

open Srv6Fabric.Library

/-- The circle of the draws. -/
def goldenRotation : Rotation where
  modulus := 2 ^ 64
  step := goldenRatio64
  positive := by decide

theorem golden_convergent_610 : goldenRotation.Convergent 610 377 13523998650116618 where
  around := by decide
  small := by decide
  coprime := Int.isCoprime_iff_gcd_eq_one.mpr (by decide)

theorem golden_convergent_34 : goldenRotation.Convergent 34 21 242678309088164554 where
  around := by decide
  small := by decide
  coprime := Int.isCoprime_iff_gcd_eq_one.mpr (by decide)

theorem drawLevel_add (start : Int) (steps : Nat) (flow : FlowKey) :
    drawLevel (start + steps) flow =
      goldenRotation.level (flow.hash5 + start * goldenRatio64) steps := by
  unfold drawLevel Rotation.level Rotation.mark goldenRotation
  dsimp only
  rw [add_mul, ← add_assoc]
  norm_num

/-- The end of the part of the circle that belongs to the first planes. -/
def bound (weights : List ℚ) (planes : Nat) : ℚ :=
  ((weights.map (· / weights.sum)).take planes).sum

section Shares

variable {weights : List ℚ} (nonneg : ∀ weight ∈ weights, 0 ≤ weight)
  (positive : 0 < weights.sum)

include nonneg positive

theorem shares_nonneg : ∀ share ∈ weights.map (· / weights.sum), 0 ≤ share := by
  intro share mem
  obtain ⟨weight, held, rfl⟩ := List.mem_map.mp mem
  exact div_nonneg (nonneg weight held) positive.le

theorem bound_nonneg (planes : Nat) : 0 ≤ bound weights planes :=
  List.sum_nonneg fun share mem => shares_nonneg nonneg positive share (List.mem_of_mem_take mem)

theorem bound_le_one (planes : Nat) : bound weights planes ≤ 1 := by
  have rest : 0 ≤ ((weights.map (· / weights.sum)).drop planes).sum :=
    List.sum_nonneg fun share mem => shares_nonneg nonneg positive share (List.mem_of_mem_drop mem)
  have whole := List.sum_take_add_sum_drop (weights.map (· / weights.sum)) planes
  rw [sum_shares positive] at whole
  unfold bound
  linarith

/-- A plane has the part of the circle between its bounds. -/
theorem weightedPick_eq_iff (seq : Int) (flow : FlowKey) {plane : Nat}
    (inRange : plane < weights.length) :
    weightedPick seq flow (buildCdf weights) = plane ↔
      bound weights plane ≤ drawLevel seq flow ∧
        drawLevel seq flow < bound weights (plane + 1) := by
  have selects := firstAbove_eq_some_iff (shares_nonneg nonneg positive)
    (drawLevel_nonneg seq flow)
    (show plane < (weights.map (· / weights.sum)).length by rwa [List.length_map])
  rw [zero_add, zero_add] at selects
  obtain ⟨position, -, found, -⟩ := firstAbove_buildCdf positive seq flow
  rw [bound, bound, ← selects, ← buildCdf_eq_runningTotals positive, weightedPick, found,
    Option.some_inj]

end Shares

theorem bound_succ {weights : List ℚ} {plane : Nat} {weight : ℚ}
    (isWeight : weights[plane]? = some weight) :
    bound weights (plane + 1) - bound weights plane = weight / weights.sum := by
  obtain ⟨inRange, rfl⟩ := List.getElem?_eq_some_iff.mp isWeight
  rw [bound, bound, List.sum_take_succ _ _ (by rwa [List.length_map]), List.getElem_map,
    add_sub_cancel_left]

/-- Two percent of a long stretch are more than what its blocks and the rest may be off. -/
theorem blocks_within {count : Nat} (long : 8000 ≤ count) :
    ((count / 610 : Nat) * 4 + (count % 610 / 34 : Nat) * 4 + (count % 610 % 34 : Nat) : ℚ) ≤
      2 / 100 * count := by
  have within : 100 * (count / 610 * 4 + count % 610 / 34 * 4 + count % 610 % 34) ≤ 2 * count := by
    omega
  have withinRat : (100 * ((count / 610 : Nat) * 4 + (count % 610 / 34 : Nat) * 4 +
      (count % 610 % 34 : Nat)) : ℚ) ≤ 2 * count := by exact_mod_cast within
  linarith

/-- Weighted spray tracks its weights: of any 8000 or more consecutive sequence numbers every plane
is picked for its share, to within two percent of their number. -/
theorem weighted_spray_tracks {weights : List ℚ} (nonneg : ∀ weight ∈ weights, 0 ≤ weight)
    (positive : 0 < weights.sum) (flow : FlowKey) (start : Int) {count : Nat}
    (long : 8000 ≤ count) {plane : Nat} {weight : ℚ} (isWeight : weights[plane]? = some weight) :
    |((List.range count).countP fun steps : Nat =>
        weightedPick (start + steps) flow (buildCdf weights) = plane : ℚ) -
      count * weight / weights.sum| ≤ 2 / 100 * count := by
  have inRange : plane < weights.length := (List.getElem?_eq_some_iff.mp isWeight).1
  have picks : (List.range count).countP (fun steps : Nat =>
      weightedPick (start + steps) flow (buildCdf weights) = plane) =
      goldenRotation.hits (flow.hash5 + start * goldenRatio64) count (bound weights plane)
        (bound weights (plane + 1)) := by
    refine List.countP_congr fun steps _ => ?_
    rw [decide_eq_true_iff, decide_eq_true_iff, weightedPick_eq_iff nonneg positive _ _ inRange,
      drawLevel_add]
  have ordered : bound weights plane ≤ bound weights (plane + 1) := by
    have share : 0 ≤ weight / weights.sum :=
      div_nonneg (nonneg weight (List.mem_of_getElem? isWeight)) positive.le
    rw [← bound_succ isWeight] at share
    exact sub_nonneg.mp share
  have spread := Rotation.abs_deviation_le_of_convergents golden_convergent_610
    golden_convergent_34 (flow.hash5 + start * goldenRatio64) count
    (bound_nonneg nonneg positive plane) ordered (bound_le_one nonneg positive (plane + 1))
  rw [Rotation.deviation, bound_succ isWeight, ← picks, ← mul_div_assoc] at spread
  exact spread.trans (blocks_within long)

/-- Two planes, one with three times the weight of the other. -/
theorem weighted_spray_tracks_three_to_one :
    |((List.range 8000).countP fun steps : Nat =>
        weightedPick (-5 + steps) FlowKey.greenFlow (buildCdf [3, 1]) = 0 : ℚ) - 8000 * 3 / 4| ≤
      2 / 100 * 8000 := by
  have total : ([3, 1] : List ℚ).sum = 4 := by norm_num
  have tracks := @weighted_spray_tracks [3, 1] (by simp) (by norm_num) FlowKey.greenFlow (-5) 8000
    le_rfl 0 3 rfl
  rw [total] at tracks
  exact_mod_cast tracks

end Srv6Fabric.Policy

import Mathlib.Algebra.Order.Field.Basic
import Srv6Fabric.Library.Cumulative
import Srv6Fabric.Mrc.EvStateInvariant
import Srv6Fabric.Topo

/-!
# Weighted spray and the MRC policy

`policy.py`'s draw from a cumulative distribution, in exact rational arithmetic, and
the `HealthAwareMrc` policy that draws from the live weights of an EV state table.
-/

namespace Srv6Fabric.Policy

open Srv6Fabric.Library
open Srv6Fabric.Mrc

/-- `_GOLDEN_RATIO_64`. -/
def goldenRatio64 : Nat := 0x9E3779B97F4A7C15

/-- The loop of `_build_cdf`. -/
def accumulate (total : ℚ) (cum : ℚ) : List ℚ → List ℚ
  | [] => []
  | w :: rest => (cum + w / total) :: accumulate total (cum + w / total) rest

/-- `_build_cdf`: the running shares, with the last entry forced to one. -/
def buildCdf (weights : List ℚ) : List ℚ :=
  let cdf := accumulate weights.sum 0 weights
  cdf.set (cdf.length - 1) 1

/-- The level `u` of a draw. -/
def drawLevel (seq : Int) (flow : FlowKey) : ℚ :=
  let x : Int := ((flow.hash5 : Int) + seq * (goldenRatio64 : Int)) % 2 ^ 64
  (x : ℚ) / 2 ^ 64

/-- `_weighted_pick`: the first index whose threshold strictly exceeds the level. -/
def weightedPick (seq : Int) (flow : FlowKey) (cdf : List ℚ) : Nat :=
  match firstAbove (drawLevel seq flow) cdf with
  | some p => p
  | none => cdf.length - 1

/-- `HealthAwareMrc.pick` for a policy bound to `table` and `tenant`; the constructor
has checked that `NUM_PLANES` is the table's plane count. -/
def healthAwareMrcPick {numPlanes : Nat} (table : EVStateTable numPlanes) (tenant : String)
    (seq : Int) (flow : FlowKey) : Except PyError Int := do
  let weights ← table.weights tenant
  if weights.sum ≤ 0 then .ok (seq % numPlanes)
  else .ok (weightedPick seq flow (buildCdf weights))

/-! ## The distribution of positive weights -/

theorem accumulate_eq_runningTotals (total cum : ℚ) (weights : List ℚ) :
    accumulate total cum weights = runningTotals cum (weights.map (· / total)) := by
  induction weights generalizing cum with
  | nil => rfl
  | cons w rest ih => simp [accumulate, runningTotals, ih]

theorem sum_shares {weights : List ℚ} (positive : 0 < weights.sum) :
    (weights.map (· / weights.sum)).sum = 1 := by
  simp only [div_eq_mul_inv, List.sum_map_mul_right, List.map_id']
  exact mul_inv_cancel₀ positive.ne'

/-- Forcing the last entry to one changes nothing: the shares add up to one. -/
theorem buildCdf_eq_runningTotals {weights : List ℚ} (positive : 0 < weights.sum) :
    buildCdf weights = runningTotals 0 (weights.map (· / weights.sum)) := by
  have nonempty : weights.map (· / weights.sum) ≠ [] := by
    intro empty
    rw [List.map_eq_nil_iff.mp empty] at positive
    exact lt_irrefl _ positive
  have split := runningTotals_eq_dropLast_append 0 nonempty
  rw [sum_shares positive, zero_add] at split
  simp only [buildCdf, accumulate_eq_runningTotals]
  rw [split]
  simp

theorem drawLevel_nonneg (seq : Int) (flow : FlowKey) : 0 ≤ drawLevel seq flow := by
  unfold drawLevel
  apply div_nonneg _ (by positivity)
  exact_mod_cast Int.emod_nonneg _ (by norm_num)

theorem drawLevel_lt_one (seq : Int) (flow : FlowKey) : drawLevel seq flow < 1 := by
  unfold drawLevel
  rw [div_lt_one (by positivity)]
  exact_mod_cast Int.emod_lt_of_pos ((flow.hash5 : Int) + seq * (goldenRatio64 : Int))
    (by norm_num : (0 : Int) < 2 ^ 64)

/-- The scan of `_weighted_pick` stops at a position of positive weight. -/
theorem firstAbove_buildCdf {weights : List ℚ} (positive : 0 < weights.sum) (seq : Int)
    (flow : FlowKey) :
    ∃ position weight, firstAbove (drawLevel seq flow) (buildCdf weights) = some position ∧
      weights[position]? = some weight ∧ 0 < weight := by
  have nonempty : weights.map (· / weights.sum) ≠ [] := by
    intro empty
    rw [List.map_eq_nil_iff.mp empty] at positive
    exact lt_irrefl _ positive
  have below : drawLevel seq flow < 0 + (weights.map (· / weights.sum)).sum := by
    rw [sum_shares positive, zero_add]
    exact drawLevel_lt_one seq flow
  obtain ⟨position, found⟩ := Option.isSome_iff_exists.mp (firstAbove_isSome nonempty below)
  obtain ⟨share, held, share_pos⟩ := firstAbove_positive (drawLevel_nonneg seq flow) found
  rw [List.getElem?_map] at held
  obtain ⟨weight, weightHeld, rfl⟩ := Option.map_eq_some_iff.mp held
  refine ⟨position, weight, by rw [buildCdf_eq_runningTotals positive]; exact found, weightHeld, ?_⟩
  exact (div_pos_iff_of_pos_right positive).mp share_pos

/-! ## The MRC policy on a sound table -/

theorem weights_of_sound {numPlanes : Nat} {table : EVStateTable numPlanes} (sound : table.Sound)
    {tenant : String} (mem : tenant ∈ table.tenants) :
    table.weights tenant = .ok (EVStateTable.normalizedWeights (table.row tenant)) := by
  have found := sound.find? mem
  simp [EVStateTable.weights, EVStateTable.checkTenant, found, sound.cached tenant _ found, bind,
    Except.bind]

/-- On a sound table the pick is the scan's position, and that plane is usable. -/
theorem healthAwareMrcPick_usable {numPlanes : Nat} {table : EVStateTable numPlanes}
    (sound : table.Sound) {tenant : String} (mem : tenant ∈ table.tenants) (seq : Int)
    (flow : FlowKey) :
    ∃ (weights : List ℚ) (plane : Fin numPlanes), table.weights tenant = .ok weights ∧
      0 < weights.sum ∧
      firstAbove (drawLevel seq flow) (buildCdf weights) = some (plane : Nat) ∧
      healthAwareMrcPick table tenant seq flow = .ok (plane : Int) ∧
      (table.row tenant plane).state ≠ .assumedBad := by
  have raw := sound.rawWeights_sum_pos mem
  have total : 0 < (EVStateTable.normalizedWeights (table.row tenant)).sum := by
    rw [EVStateTable.normalizedWeights_sum raw]
    exact one_pos
  have read := weights_of_sound sound mem
  obtain ⟨position, weight, found, held, positive⟩ := firstAbove_buildCdf total seq flow
  obtain ⟨plane, rfl, usable⟩ := EVStateTable.normalizedWeights_pos_iff raw held
  refine ⟨_, plane, read, total, found, ?_, usable.mp positive⟩
  simp [healthAwareMrcPick, read, bind, Except.bind, not_le.mpr total, weightedPick, found]

/-- A demoted plane receives no spray: in every state a run reaches, whatever the
sequence number and the flow, the pick is a plane that is GOOD or UNKNOWN at that
moment, and neither fallback of the policy is taken. -/
theorem pick_avoids_assumedBad {numPlanes : Nat} {tenants : List String} {cfg : EVStateConfig}
    {table : EVStateTable numPlanes}
    (built : EVStateTable.init tenants numPlanes cfg = .ok table)
    (onTransition : EVStateTable.TransitionCb numPlanes) (requests : List EVStateTable.Call)
    {tenant : String} (mem : tenant ∈ tenants) (seq : Int) (flow : FlowKey) :
    let reached := table.run onTransition requests
    ∃ (weights : List ℚ) (plane : Fin numPlanes), reached.weights tenant = .ok weights ∧
      ¬ weights.sum ≤ 0 ∧
      firstAbove (drawLevel seq flow) (buildCdf weights) = some (plane : Nat) ∧
      healthAwareMrcPick reached tenant seq flow = .ok (plane : Int) ∧
      ((reached.row tenant plane).state = .good ∨ (reached.row tenant plane).state = .unknown) := by
  intro reached
  obtain ⟨-, tenantsEq, -⟩ := EVStateTable.init_ok built
  have known : tenant ∈ reached.tenants := by
    rw [(EVStateTable.run_frame onTransition table requests).1, tenantsEq]
    exact mem
  have sound := (EVStateTable.init_sound built).run onTransition requests
  obtain ⟨weights, plane, read, total, found, picked, usable⟩ :=
    healthAwareMrcPick_usable sound known seq flow
  refine ⟨weights, plane, read, not_le.mpr total, found, picked, ?_⟩
  cases held : (reached.row tenant plane).state with
  | good => exact Or.inl rfl
  | unknown => exact Or.inr rfl
  | assumedBad => exact absurd held usable

/-- The blackholed plane is out of the draw. -/
theorem pick_avoids_demoted_plane_one :
    ∃ table : EVStateTable 2, EVStateTable.init ["green"] 2 {} = .ok table ∧
      ∃ plane : Fin 2,
        healthAwareMrcPick (table.run (fun _ => none)
          (List.replicate 3 (.probe "green" 1 false none))) "green" 7
          ⟨"bbbb:00::2", "bbbb:01::2", 1, 2⟩ = .ok (plane : Int) := by
  have built : EVStateTable.init ["green"] 2 {} = .ok (_ : EVStateTable 2) := rfl
  obtain ⟨-, plane, -, -, -, picked, -⟩ := pick_avoids_assumedBad built (fun _ => none)
    (List.replicate 3 (.probe "green" 1 false none)) (List.mem_singleton_self "green") 7
    ⟨"bbbb:00::2", "bbbb:01::2", 1, 2⟩
  exact ⟨_, rfl, plane, picked⟩

end Srv6Fabric.Policy

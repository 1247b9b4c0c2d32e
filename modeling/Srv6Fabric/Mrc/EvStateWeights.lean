import Mathlib.Algebra.BigOperators.Fin
import Srv6Fabric.Mrc.EvStateEvents

/-!
# The cached weights are the normalization of the states

`weights` reads a cache that only `_rebuild_weights_locked` writes.  After every run the
cached tuple is the one the present states determine: each plane's weight over the total,
with no entry ever coming from the uniform fallback.
-/

namespace Srv6Fabric.Mrc.EVStateTable

variable {numPlanes : Nat}

/-- The total weight of the planes in the given states. -/
def totalWeight (states : Fin numPlanes → EVState) : ℚ :=
  ∑ plane, stateWeight (states plane)

/-- A tuple is the normalization of the states: one share for each plane, proportional to
the weight of the plane's state. -/
structure Normalizes (weights : List ℚ) (states : Fin numPlanes → EVState) : Prop where
  length : weights.length = numPlanes
  share : ∀ plane : Fin numPlanes,
    weights[(plane : Nat)]? = some (stateWeight (states plane) / totalWeight states)
  nonneg : ∀ weight ∈ weights, 0 ≤ weight
  sum : weights.sum = 1
  zero_iff : ∀ (plane : Fin numPlanes) (weight : ℚ), weights[(plane : Nat)]? = some weight →
    (weight = 0 ↔ states plane = .assumedBad)
  double : ∀ (good unknown : Fin numPlanes) (weight half : ℚ), states good = .good →
    states unknown = .unknown → weights[(good : Nat)]? = some weight →
    weights[(unknown : Nat)]? = some half → weight = 2 * half

section Row

variable {row : Fin numPlanes → PlaneRecord}

theorem rawWeights_sum (row : Fin numPlanes → PlaneRecord) :
    (rawWeights row).sum = totalWeight fun plane => (row plane).state :=
  List.sum_ofFn

theorem rawWeights_getElem? (row : Fin numPlanes → PlaneRecord) (plane : Fin numPlanes) :
    (rawWeights row)[(plane : Nat)]? = some (stateWeight (row plane).state) := by
  rw [rawWeights, List.getElem?_ofFn, dif_pos plane.isLt]

theorem normalizedWeights_getElem? (positive : 0 < (rawWeights row).sum) (plane : Fin numPlanes) :
    (normalizedWeights row)[(plane : Nat)]? =
      some (stateWeight (row plane).state / totalWeight fun plane => (row plane).state) := by
  rw [normalizedWeights_of_pos positive, List.getElem?_map, rawWeights_getElem?, rawWeights_sum]
  rfl

/-- Above the floor the rebuilt tuple is the normalization. -/
theorem normalizes_of_pos (positive : 0 < (rawWeights row).sum) :
    Normalizes (normalizedWeights row) fun plane => (row plane).state := by
  have total : 0 < totalWeight fun plane => (row plane).state := rawWeights_sum row ▸ positive
  have shareOf : ∀ (plane : Fin numPlanes) (weight : ℚ),
      (normalizedWeights row)[(plane : Nat)]? = some weight →
        weight = stateWeight (row plane).state / totalWeight fun plane => (row plane).state := by
    intro plane weight held
    rw [normalizedWeights_getElem? positive] at held
    exact (Option.some.inj held).symm
  refine ⟨?_, normalizedWeights_getElem? positive, ?_, normalizedWeights_sum positive, ?_, ?_⟩
  · rw [normalizedWeights_of_pos positive]
    simp [rawWeights]
  · intro weight mem
    rw [normalizedWeights_of_pos positive] at mem
    obtain ⟨raw, rawMem, rfl⟩ := List.mem_map.mp mem
    exact div_nonneg (rawWeights_nonneg row raw rawMem) positive.le
  · intro plane weight held
    rw [shareOf plane weight held, div_eq_zero_iff, or_iff_left total.ne']
    cases (row plane).state <;> simp [stateWeight]
  · intro good unknown weight half isGood isUnknown held heldHalf
    rw [shareOf good weight held, shareOf unknown half heldHalf]
    rw [isGood, isUnknown, stateWeight, stateWeight]
    ring

end Row

/-- Cached spray weights are coherent: after any run, raising calls included, `weights`
of a tenant returns the normalization of the states its planes are in. -/
theorem weights_coherent {tenants : List String} {cfg : EVStateConfig}
    {table : EVStateTable numPlanes} (built : init tenants numPlanes cfg = .ok table)
    (onTransition : TransitionCb numPlanes) (requests : List Call) {tenant : String}
    (mem : tenant ∈ tenants) :
    let reached := table.run onTransition requests
    ∃ states weights, (∀ plane : Fin numPlanes,
        reached.state tenant (plane : Nat) = .ok (states plane)) ∧
      reached.weights tenant = .ok weights ∧ Normalizes weights states := by
  obtain ⟨-, tenantsEq, -⟩ := init_ok built
  have sound := (init_sound built).run onTransition requests
  have known : tenant ∈ (table.run onTransition requests).tenants := by
    rwa [(run_frame onTransition table requests).1, tenantsEq]
  exact ⟨_, _, state_eq (sound.find? known), weights_eq sound (sound.find? known),
    normalizes_of_pos (sound.rawWeights_sum_pos known)⟩

/-- Three lost probes of plane 1: its share is zero, and the three others split the spray. -/
theorem weights_coherent_after_demotion :
    ∃ table : EVStateTable 4, init ["green"] 4 {} = .ok table ∧
      let reached := table.run (fun _ => none) (List.replicate 3 (.probe "green" 1 false none))
      reached.weights "green" = .ok [1 / 3, 0, 1 / 3, 1 / 3] ∧
        ∃ states weights, (∀ plane : Fin 4,
            reached.state "green" (plane : Nat) = .ok (states plane)) ∧
          reached.weights "green" = .ok weights ∧ Normalizes weights states := by
  obtain ⟨table, built⟩ : ∃ table : EVStateTable 4, init ["green"] 4 {} = .ok table := ⟨_, rfl⟩
  refine ⟨table, built, ?_, weights_coherent built (fun _ => none) _
    (List.mem_singleton_self "green")⟩
  cases built
  decide +kernel

end Srv6Fabric.Mrc.EVStateTable

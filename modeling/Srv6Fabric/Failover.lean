import Srv6Fabric.Health
import Srv6Fabric.Library.Counting
import Srv6Fabric.Library.Equidistribution
import Srv6Fabric.Policy

/-!
# Where the traffic of down planes goes

The policies of `policy.py` that need no table, and what a `HealthAware` around one of them
does to the load: a plane that is up has its own picks and those of the down planes just
before it.
-/

namespace Srv6Fabric.Policy

open Library Health

/-- A policy and what it holds; the weights are exact, and every `HealthAware` has a set of its
own. -/
inductive PlainPolicy where
  | roundRobin
  | hash5Tuple
  | weighted (weights : List ℚ)
  | healthAware (inner : PlainPolicy) (down : Finset Nat)

namespace PlainPolicy

/-- `pick`. -/
def pick (numPlanes : Nat) : PlainPolicy → Int → FlowKey → Nat
  | roundRobin, seq, _ => (seq % numPlanes).toNat
  | hash5Tuple, _, flow => flow.hash5 % numPlanes
  | weighted weights, seq, flow => weightedPick seq flow (buildCdf weights)
  | healthAware inner down, seq, flow => healthAwarePick numPlanes (inner.pick numPlanes) down seq flow

/-- What `Weighted` checks of its weights, and the monitor of its planes. -/
def WellFormed (numPlanes : Nat) : PlainPolicy → Prop
  | roundRobin | hash5Tuple => 0 < numPlanes
  | weighted weights =>
      weights.length = numPlanes ∧ (∀ weight ∈ weights, 0 ≤ weight) ∧ 0 < weights.sum
  | healthAware inner down => inner.WellFormed numPlanes ∧ ∀ plane ∈ down, plane < numPlanes

theorem pick_lt {numPlanes : Nat} {policy : PlainPolicy} (wellFormed : policy.WellFormed numPlanes)
    (seq : Int) (flow : FlowKey) : policy.pick numPlanes seq flow < numPlanes := by
  induction policy with
  | roundRobin =>
      have positive : (0 : Int) < numPlanes := by exact_mod_cast wellFormed
      have nonneg := Int.emod_nonneg seq positive.ne'
      have below := Int.emod_lt_of_pos seq positive
      rw [pick]
      omega
  | hash5Tuple => exact Nat.mod_lt _ wellFormed
  | weighted weights =>
      obtain ⟨length, -, positive⟩ := wellFormed
      obtain ⟨position, weight, found, held, -⟩ := firstAbove_buildCdf positive seq flow
      rw [pick, weightedPick, found]
      exact length ▸ (List.getElem?_eq_some_iff.mp held).1
  | healthAware inner down ih =>
      exact (healthAwarePick_picksUp wellFormed.2 seq flow (ih wellFormed.1)).inRange

end PlainPolicy

/-! ## The planes another one stands in for -/

/-- How many planes just before a plane are down, cyclically. -/
def downBefore (numPlanes : Nat) (down : Finset Nat) (plane : Nat) : Nat :=
  ((List.range' 1 (numPlanes - 1)).takeWhile fun back =>
    (plane + numPlanes - back) % numPlanes ∈ down).length

/-- A plane and the down planes just before it. -/
def standsInFor (numPlanes : Nat) (down : Finset Nat) (plane : Nat) : List Nat :=
  (List.range (downBefore numPlanes down plane + 1)).map fun back =>
    (plane + numPlanes - back) % numPlanes

section

variable {numPlanes plane : Nat} {down : Finset Nat}

theorem le_downBefore_iff (isPlane : plane < numPlanes) (back : Nat) :
    back ≤ downBefore numPlanes down plane ↔ back < numPlanes ∧
      ∀ earlier, 1 ≤ earlier → earlier ≤ back → (plane + numPlanes - earlier) % numPlanes ∈ down := by
  rw [downBefore, le_length_takeWhile_range']
  constructor
  · rintro ⟨within, before⟩
    refine ⟨by omega, fun earlier first last => ?_⟩
    have isDown := before (earlier - 1) (by omega)
    rw [Nat.add_sub_cancel' first] at isDown
    exact of_decide_eq_true isDown
  · rintro ⟨within, before⟩
    exact ⟨by omega, fun index below => decide_eq_true (before (1 + index) (by omega) (by omega))⟩

/-- Going back and forth again. -/
theorem back_forth {back step : Nat} (within : back ≤ numPlanes) (less : step ≤ back) :
    ((plane + numPlanes - back) % numPlanes + step) % numPlanes =
      (plane + numPlanes - (back - step)) % numPlanes := by
  rw [Nat.mod_add_mod]
  congr 1
  omega

theorem forth_back {step back : Nat} (choice : Nat) (within : step ≤ numPlanes) (less : back ≤ step) :
    ((choice + step) % numPlanes + numPlanes - back) % numPlanes =
      (choice + (step - back)) % numPlanes := by
  rw [Nat.add_sub_assoc (less.trans within), Nat.mod_add_mod,
    show choice + step + (numPlanes - back) = choice + (step - back) + numPlanes by omega,
    Nat.add_mod_right]

theorem nodup_standsInFor (isPlane : plane < numPlanes) : (standsInFor numPlanes down plane).Nodup := by
  refine List.Nodup.map_on (fun back mem other otherMem same => ?_) List.nodup_range
  have within := ((le_downBefore_iff isPlane back).mp (Nat.lt_succ_iff.mp (List.mem_range.mp mem))).1
  have otherWithin :=
    ((le_downBefore_iff isPlane other).mp (Nat.lt_succ_iff.mp (List.mem_range.mp otherMem))).1
  have close : (plane + numPlanes - back) ≡ (plane + numPlanes - other) [MOD numPlanes] := same
  -- two numbers less than a modulus apart
  rcases Nat.le_total back other with less | less
  · have divides := (Nat.modEq_iff_dvd' (by omega)).mp close.symm
    have none := Nat.eq_zero_of_dvd_of_lt divides (by omega)
    omega
  · have divides := (Nat.modEq_iff_dvd' (by omega)).mp close
    have none := Nat.eq_zero_of_dvd_of_lt divides (by omega)
    omega

/-- A plane that is up is picked for the choices it stands in for. -/
theorem picked_eq_iff {choice picked : Nat} (picks : PicksUp numPlanes down choice picked)
    (isPlane : plane < numPlanes) (isUp : plane ∉ down) (isChoice : choice < numPlanes) :
    picked = plane ↔ choice ∈ standsInFor numPlanes down plane := by
  have self : (plane + numPlanes - 0) % numPlanes = plane := by
    rw [Nat.sub_zero, Nat.add_mod_right, Nat.mod_eq_of_lt isPlane]
  rw [standsInFor, List.mem_map]
  by_cases chosenDown : choice ∈ down
  · obtain ⟨step, first, last, rfl, walkedUp, before⟩ :=
      picks.next chosenDown ⟨plane, isPlane, isUp⟩
    constructor
    · rintro rfl
      refine ⟨step, List.mem_range.mpr (Nat.lt_succ_of_le ((le_downBefore_iff isPlane step).mpr
        ⟨last, fun earlier early late => ?_⟩)), ?_⟩
      · rw [forth_back choice last.le late]
        rcases Nat.eq_zero_or_pos (step - earlier) with none | some
        · rwa [none, Nat.add_zero, Nat.mod_eq_of_lt isChoice]
        · exact before _ some (by omega)
      · rw [forth_back choice last.le le_rfl, Nat.sub_self, Nat.add_zero, Nat.mod_eq_of_lt isChoice]
    · rintro ⟨back, mem, rfl⟩
      obtain ⟨within, allDown⟩ :=
        (le_downBefore_iff isPlane back).mp (Nat.lt_succ_iff.mp (List.mem_range.mp mem))
      have walked (walk : Nat) (less : walk ≤ back) :
          ((plane + numPlanes - back) % numPlanes + walk) % numPlanes =
            (plane + numPlanes - (back - walk)) % numPlanes := back_forth within.le less
      rcases Nat.lt_trichotomy step back with short | rfl | long
      · rw [walked step short.le] at walkedUp
        exact absurd (allDown _ (by omega) (by omega)) walkedUp
      · rw [walked step le_rfl, Nat.sub_self, self]
      · have some : 1 ≤ back := by
          refine Nat.one_le_iff_ne_zero.mpr fun none => ?_
          rw [none, self] at chosenDown
          exact isUp chosenDown
        have passed := before back some long
        rw [walked back le_rfl, Nat.sub_self, self] at passed
        exact absurd passed isUp
  · rw [picks.kept chosenDown]
    constructor
    · rintro rfl
      exact ⟨0, List.mem_range.mpr (Nat.succ_pos _), self⟩
    · rintro ⟨back, mem, rfl⟩
      obtain ⟨within, allDown⟩ :=
        (le_downBefore_iff isPlane back).mp (Nat.lt_succ_iff.mp (List.mem_range.mp mem))
      rcases Nat.eq_zero_or_pos back with rfl | some
      · exact self
      · exact absurd (allDown back some le_rfl) chosenDown

end

/-! ## The load of a plane -/

/-- A `HealthAware` gives each plane that is up what its inner policy gives the planes it
stands in for. -/
theorem healthAware_load {numPlanes plane : Nat} {inner : PlainPolicy} {down : Finset Nat}
    (wellFormed : (PlainPolicy.healthAware inner down).WellFormed numPlanes)
    (isPlane : plane < numPlanes) (isUp : plane ∉ down) (calls : List (Int × FlowKey)) :
    (calls.countP fun call =>
        (PlainPolicy.healthAware inner down).pick numPlanes call.1 call.2 = plane) =
      ((standsInFor numPlanes down plane).map fun choice =>
        calls.countP fun call => inner.pick numPlanes call.1 call.2 = choice).sum := by
  rw [← countP_mem_eq_sum (nodup_standsInFor isPlane)]
  refine List.countP_congr fun call _ => ?_
  have inRange := PlainPolicy.pick_lt wellFormed.1 call.1 call.2
  rw [decide_eq_true_iff, decide_eq_true_iff]
  exact picked_eq_iff (healthAwarePick_picksUp wellFormed.2 call.1 call.2 inRange) isPlane isUp
    inRange

/-- Consecutive sequence numbers go round the planes. -/
theorem roundRobin_load {numPlanes plane : Nat} (isPlane : plane < numPlanes) (start : Int)
    (rounds : Nat) (flow : FlowKey) :
    ((List.range (rounds * numPlanes)).countP fun index : Nat =>
      PlainPolicy.roundRobin.pick numPlanes (start + index) flow = plane) = rounds := by
  induction rounds with
  | zero => rw [Nat.zero_mul, List.range_zero, List.countP_nil]
  | succ rounds ih =>
      have positive : (0 : Int) < numPlanes := by omega
      have residues := @countP_residues numPlanes 1 isCoprime_one_left
        (start + (rounds * numPlanes : Nat)) fun residue => decide (residue.toNat = plane)
      have round : ((List.range numPlanes).countP fun index : Nat =>
          PlainPolicy.roundRobin.pick numPlanes (start + (rounds * numPlanes + index : Nat)) flow =
            plane) = 1 := by
        have own : ((List.range numPlanes).countP fun residue : Nat =>
            decide (((residue : Nat) : Int).toNat = plane)) = 1 := by
          simp only [Int.toNat_natCast]
          exact List.count_eq_one_of_mem List.nodup_range (List.mem_range.mpr isPlane)
        rw [← own, ← residues]
        refine List.countP_congr fun index _ => ?_
        rw [PlainPolicy.pick, mul_one]
        push_cast
        rw [add_assoc]
      rw [Nat.succ_mul, List.range_add, List.countP_append, ih, List.countP_map, Function.comp_def,
        round]

/-- However a `HealthAware` wraps a policy, every down plane gets nothing and every other plane
what the inner policy gives to it and to the down planes just before it.  Around a round robin
that is one packet a round for each of them. -/
theorem failover_load {numPlanes : Nat} {inner : PlainPolicy} {down : Finset Nat}
    (wellFormed : (PlainPolicy.healthAware inner down).WellFormed numPlanes)
    (some_ : ∃ plane < numPlanes, plane ∉ down) {plane : Nat} (isPlane : plane < numPlanes) :
    (∀ calls : List (Int × FlowKey), (calls.countP fun call =>
        (PlainPolicy.healthAware inner down).pick numPlanes call.1 call.2 = plane) =
      if plane ∈ down then 0
      else ((standsInFor numPlanes down plane).map fun choice =>
        calls.countP fun call => inner.pick numPlanes call.1 call.2 = choice).sum) ∧
    ∀ (start : Int) (rounds : Nat) (flow : FlowKey),
      ((List.range (rounds * numPlanes)).countP fun index : Nat =>
        (PlainPolicy.healthAware .roundRobin down).pick numPlanes (start + index) flow = plane) =
      if plane ∈ down then 0 else rounds * (downBefore numPlanes down plane + 1) := by
  have idle (policy : PlainPolicy) (fits : (PlainPolicy.healthAware policy down).WellFormed numPlanes)
      (isDown : plane ∈ down) (call : Int × FlowKey) :
      (PlainPolicy.healthAware policy down).pick numPlanes call.1 call.2 ≠ plane := by
    intro same
    obtain ⟨up, isUpPlane, isUp⟩ := some_
    have inRange := PlainPolicy.pick_lt fits.1 call.1 call.2
    exact isUp ((healthAwarePick_picksUp fits.2 call.1 call.2 inRange).onlyThen
      (by rw [PlainPolicy.pick] at same; rwa [same]) up isUpPlane)
  refine ⟨fun calls => ?_, fun start rounds flow => ?_⟩
  · split
    · next isDown =>
      exact List.countP_eq_zero.mpr fun call _ =>
        mt of_decide_eq_true (idle inner wellFormed isDown call)
    · next isUp => exact healthAware_load wellFormed isPlane isUp calls
  · have fits : (PlainPolicy.healthAware .roundRobin down).WellFormed numPlanes :=
      ⟨Nat.zero_lt_of_lt isPlane, wellFormed.2⟩
    split
    · next isDown =>
      exact List.countP_eq_zero.mpr fun index _ =>
        mt of_decide_eq_true (idle .roundRobin fits isDown (start + (index : Nat), flow))
    · next isUp =>
      have load := healthAware_load fits isPlane isUp
        ((List.range (rounds * numPlanes)).map fun index : Nat => (start + index, flow))
      simp only [List.countP_map, Function.comp_def] at load
      rw [load]
      have each : ∀ choice ∈ standsInFor numPlanes down plane,
          ((List.range (rounds * numPlanes)).countP fun index : Nat =>
            PlainPolicy.roundRobin.pick numPlanes (start + index) flow = choice) = rounds := by
        intro choice mem
        obtain ⟨back, -, rfl⟩ := List.mem_map.mp mem
        exact roundRobin_load (Nat.mod_lt _ (Nat.zero_lt_of_lt isPlane)) start rounds flow
      rw [List.map_congr_left each, List.map_const', List.sum_replicate, smul_eq_mul, standsInFor,
        List.length_map, List.length_range, Nat.mul_comm]

/-- With planes 1 and 2 of four down, plane 3 has the load of three. -/
theorem failover_load_three_of_four :
    ((List.range (5 * 4)).countP fun index : Nat =>
      (PlainPolicy.healthAware .roundRobin {1, 2}).pick 4 (7 + index) FlowKey.greenFlow = 3) = 15 := by
  have positive : 0 < 4 := by decide
  have load := (@failover_load 4 .roundRobin {1, 2} ⟨positive, by decide⟩ ⟨0, by decide, by decide⟩ 3
    (by decide)).2 7 5 FlowKey.greenFlow
  rw [load]
  decide

end Srv6Fabric.Policy

import Mathlib.Data.Finset.Card
import Mathlib.Data.List.FinRange
import Srv6Fabric.Library.Streaks
import Srv6Fabric.Topo

/-!
# The legacy health path

`health.py`'s monitor and the `HealthAware` policy of `policy.py` that shares its set of
down planes.  The monitor counts streaks that no transition resets; a plane is down when
the last streak to reach its bound was one of failures, and the policy walks cyclically
past the planes that are.
-/

namespace Srv6Fabric.Health

open Srv6Fabric.Library

structure HealthMonitor (numPlanes : Nat) where
  threshold : Int
  recovery : Int
  failStreak : Fin numPlanes → Nat
  passStreak : Fin numPlanes → Nat
  down : Finset Nat

namespace HealthMonitor

variable {numPlanes : Nat}

def init (down : Finset Nat) (numPlanes : Nat) (threshold recovery : Int) :
    Except PyError (HealthMonitor numPlanes) :=
  if threshold < 1 then .error (.valueError "threshold must be >= 1")
  else if recovery < 1 then .error (.valueError "recovery must be >= 1")
  else if numPlanes < 1 then .error (.valueError "num_planes must be >= 1")
  else .ok { threshold, recovery, failStreak := fun _ => 0, passStreak := fun _ => 0, down }

/-- `_record`. -/
def record (monitor : HealthMonitor numPlanes) (plane : Fin numPlanes) (ok : Bool) :
    HealthMonitor numPlanes :=
  if ok then
    let monitor := { monitor with
      failStreak := Function.update monitor.failStreak plane 0
      passStreak := Function.update monitor.passStreak plane (monitor.passStreak plane + 1) }
    if (plane : Nat) ∈ monitor.down ∧ monitor.recovery ≤ monitor.passStreak plane then
      { monitor with down := monitor.down.erase plane }
    else monitor
  else
    let monitor := { monitor with
      passStreak := Function.update monitor.passStreak plane 0
      failStreak := Function.update monitor.failStreak plane (monitor.failStreak plane + 1) }
    if (plane : Nat) ∉ monitor.down ∧ monitor.threshold ≤ monitor.failStreak plane then
      { monitor with down := insert (plane : Nat) monitor.down }
    else monitor

/-- One round of probes, `probe` being the outcome of each plane's. -/
def tick (monitor : HealthMonitor numPlanes) (probe : Fin numPlanes → Bool) :
    HealthMonitor numPlanes :=
  (List.finRange numPlanes).foldl (fun monitor plane => monitor.record plane (probe plane)) monitor

end HealthMonitor

/-- `HealthAware.pick`. -/
def healthAwarePick (numPlanes : Nat) (inner : Int → FlowKey → Nat) (down : Finset Nat) (seq : Int)
    (flow : FlowKey) : Nat :=
  let choice := inner seq flow
  if down = ∅ ∨ choice ∉ down then choice
  -- nothing healthy: emit anyway
  else if numPlanes ≤ down.card then choice
  else
    let cands := (List.range' 1 (numPlanes - 1)).map fun step => (choice + step) % numPlanes
    (cands.find? fun cand => cand ∉ down).getD choice

/-! ## One probe outcome -/

namespace HealthMonitor

variable {numPlanes : Nat}

section Record

variable (monitor : HealthMonitor numPlanes) (plane : Fin numPlanes) (ok : Bool)

theorem record_true :
    monitor.record plane true = { monitor with
      failStreak := Function.update monitor.failStreak plane 0
      passStreak := Function.update monitor.passStreak plane (monitor.passStreak plane + 1)
      down :=
        if (plane : Nat) ∈ monitor.down ∧ monitor.recovery ≤ (monitor.passStreak plane + 1 : Nat) then
          monitor.down.erase plane
        else monitor.down } := by
  simp only [record, if_true, Function.update_self]
  split <;> rfl

theorem record_false :
    monitor.record plane false = { monitor with
      failStreak := Function.update monitor.failStreak plane (monitor.failStreak plane + 1)
      passStreak := Function.update monitor.passStreak plane 0
      down :=
        if (plane : Nat) ∉ monitor.down ∧ monitor.threshold ≤ (monitor.failStreak plane + 1 : Nat) then
          insert (plane : Nat) monitor.down
        else monitor.down } := by
  simp only [record, Bool.false_eq_true, if_false, Function.update_self]
  split <;> rfl

@[simp] theorem record_threshold : (monitor.record plane ok).threshold = monitor.threshold := by
  cases ok
  · rw [record_false]
  · rw [record_true]

@[simp] theorem record_recovery : (monitor.record plane ok).recovery = monitor.recovery := by
  cases ok
  · rw [record_false]
  · rw [record_true]

theorem record_failStreak :
    (monitor.record plane ok).failStreak =
      Function.update monitor.failStreak plane (if ok then 0 else monitor.failStreak plane + 1) := by
  cases ok
  · rw [record_false]
    rfl
  · rw [record_true]
    rfl

theorem record_passStreak :
    (monitor.record plane ok).passStreak =
      Function.update monitor.passStreak plane (if ok then monitor.passStreak plane + 1 else 0) := by
  cases ok
  · rw [record_false]
    rfl
  · rw [record_true]
    rfl

/-- Only the probed plane can move, and only when its streak is long enough. -/
theorem mem_record_down (other : Nat) :
    other ∈ (monitor.record plane ok).down ↔
      if other = plane then
        (ok = false ∧ monitor.threshold ≤ (monitor.failStreak plane + 1 : Nat)) ∨
          (¬ (ok = true ∧ monitor.recovery ≤ (monitor.passStreak plane + 1 : Nat)) ∧
            other ∈ monitor.down)
      else other ∈ monitor.down := by
  cases ok with
  | true =>
      rw [record_true]
      by_cases here : other = plane
      · subst here
        by_cases long : monitor.recovery ≤ (monitor.passStreak plane + 1 : Nat) <;>
          push_cast at long
        · by_cases isDown : (plane : Nat) ∈ monitor.down <;> simp [long, isDown]
        · simp [long]
      · rw [if_neg here]
        dsimp only
        split
        · exact Finset.mem_erase.trans (and_iff_right here)
        · rfl
  | false =>
      rw [record_false]
      by_cases here : other = plane
      · subst here
        by_cases long : monitor.threshold ≤ (monitor.failStreak plane + 1 : Nat) <;>
          push_cast at long
        · by_cases isDown : (plane : Nat) ∈ monitor.down <;> simp [long, isDown]
        · simp [long]
      · rw [if_neg here]
        dsimp only
        split
        · exact Finset.mem_insert.trans (or_iff_right here)
        · rfl

end Record

/-- What the monitor holds after a plane's outcomes, for every plane. -/
structure Tracks (monitor : HealthMonitor numPlanes) (initially : Finset Nat)
    (history : Fin numPlanes → List Bool) : Prop where
  threshold : 1 ≤ monitor.threshold
  recovery : 1 ≤ monitor.recovery
  failStreak : ∀ plane, monitor.failStreak plane = streak false (history plane)
  passStreak : ∀ plane, monitor.passStreak plane = streak true (history plane)
  down : ∀ plane : Fin numPlanes, (plane : Nat) ∈ monitor.down ↔
    Latched (Completes false monitor.threshold.toNat (history plane))
      (Completes true monitor.recovery.toNat (history plane)) ((plane : Nat) ∈ initially)
  others : ∀ plane ∈ monitor.down, plane < numPlanes ∨ plane ∈ initially

namespace Tracks

variable {monitor : HealthMonitor numPlanes} {initially : Finset Nat}
  {history : Fin numPlanes → List Bool}

theorem init {threshold recovery : Int} (built :
    HealthMonitor.init initially numPlanes threshold recovery = .ok monitor) :
    Tracks monitor initially fun _ => [] := by
  unfold HealthMonitor.init at built
  split at built
  · cases built
  split at built
  · cases built
  split at built
  · cases built
  cases built
  next positive recovers _ =>
  have none_ : ∀ (want : Bool) (count : Int) i, 1 ≤ count → ¬ Completes want count.toNat [] i := by
    intro want count i atLeast completes
    exact absurd (completes.lt_length (by omega)) (Nat.not_lt_zero i)
  refine ⟨by simpa using positive, by simpa using recovers, fun _ => rfl, fun _ => rfl, ?_,
    fun plane mem => Or.inr mem⟩
  intro plane
  constructor
  · intro mem
    exact Or.inr ⟨fun i => none_ _ _ i (by simpa using positive),
      fun i => none_ _ _ i (by simpa using recovers), mem⟩
  · rintro (⟨i, completes, -⟩ | ⟨-, -, mem⟩)
    · exact absurd completes (none_ _ _ i (by simpa using positive))
    · exact mem

/-- One more outcome of one plane. -/
theorem record (tracks : Tracks monitor initially history) (plane : Fin numPlanes) (ok : Bool) :
    Tracks (monitor.record plane ok) initially
      (Function.update history plane (history plane ++ [ok])) := by
  obtain ⟨threshold, recovery, failStreak, passStreak, down, others⟩ := tracks
  refine ⟨by simpa using threshold, by simpa using recovery, ?_, ?_, ?_, ?_⟩
  · intro other
    rw [record_failStreak]
    by_cases here : other = plane
    · subst here
      cases ok <;> simp [failStreak]
    · simp [here, failStreak]
  · intro other
    rw [record_passStreak]
    by_cases here : other = plane
    · subst here
      cases ok <;> simp [passStreak]
    · simp [here, passStreak]
  · intro other
    rw [mem_record_down, record_threshold, record_recovery]
    by_cases here : other = plane
    · subst here
      rw [if_pos rfl, Function.update_self, down other, failStreak, passStreak]
      refine (latched_step (fun i completes => completes.lt_length (by omega))
        (fun i completes => completes.lt_length (by omega))
        (fun i => (completes_concat_iff (by omega)).trans (or_congr_right (and_congr_right fun _ => ?_)))
        (fun i => (completes_concat_iff (by omega)).trans (or_congr_right (and_congr_right fun _ => ?_)))
        ?_).symm
      · cases ok <;> simp
        omega
      · cases ok <;> simp
        omega
      · rintro ⟨⟨failed, -⟩, ⟨passed, -⟩⟩
        rw [failed] at passed
        cases passed
    · rw [if_neg fun same => here (Fin.ext same), Function.update_of_ne here]
      exact down other
  · intro other mem
    rw [mem_record_down] at mem
    split at mem
    · next here => exact Or.inl (here ▸ plane.isLt)
    · exact others other mem

/-- One outcome for each of several planes. -/
theorem records (tracks : Tracks monitor initially history) (probe : Fin numPlanes → Bool)
    {planes : List (Fin numPlanes)} (nodup : planes.Nodup) :
    Tracks (planes.foldl (fun monitor plane => monitor.record plane (probe plane)) monitor) initially
      fun plane => if plane ∈ planes then history plane ++ [probe plane] else history plane := by
  induction planes generalizing monitor history with
  | nil => simpa using tracks
  | cons first rest ih =>
      obtain ⟨fresh, nodupRest⟩ := List.nodup_cons.mp nodup
      have later := ih (tracks.record first (probe first)) nodupRest
      have histories : ∀ plane, (if plane ∈ rest then
          Function.update history first (history first ++ [probe first]) plane ++ [probe plane]
          else Function.update history first (history first ++ [probe first]) plane) =
            if plane ∈ first :: rest then history plane ++ [probe plane] else history plane := by
        intro plane
        by_cases here : plane = first
        · simp [here, fresh]
        · simp [here]
      simpa only [List.foldl_cons, histories] using later

theorem tick (tracks : Tracks monitor initially history) (probe : Fin numPlanes → Bool) :
    Tracks (monitor.tick probe) initially fun plane => history plane ++ [probe plane] := by
  simpa using! tracks.records probe (List.nodup_finRange numPlanes)

theorem ticks (tracks : Tracks monitor initially history) (rounds : List (Fin numPlanes → Bool)) :
    Tracks (rounds.foldl HealthMonitor.tick monitor) initially
      fun plane => history plane ++ rounds.map fun probe => probe plane := by
  induction rounds generalizing monitor history with
  | nil => simpa using tracks
  | cons probe rest ih => simpa using ih (tracks.tick probe)

end Tracks

theorem init_bounds {monitor : HealthMonitor numPlanes} {down : Finset Nat} {threshold recovery : Int}
    (built : HealthMonitor.init down numPlanes threshold recovery = .ok monitor) :
    monitor.threshold = threshold ∧ monitor.recovery = recovery := by
  unfold HealthMonitor.init at built
  split_ifs at built
  cases built
  exact ⟨rfl, rfl⟩

theorem tick_bounds (monitor : HealthMonitor numPlanes) (probe : Fin numPlanes → Bool) :
    (monitor.tick probe).threshold = monitor.threshold ∧
      (monitor.tick probe).recovery = monitor.recovery := by
  unfold tick
  generalize List.finRange numPlanes = planes
  induction planes generalizing monitor with
  | nil => exact ⟨rfl, rfl⟩
  | cons first rest ih =>
      obtain ⟨threshold, recovery⟩ := ih (monitor.record first (probe first))
      exact ⟨threshold.trans (record_threshold ..), recovery.trans (record_recovery ..)⟩

theorem ticks_bounds (monitor : HealthMonitor numPlanes) (rounds : List (Fin numPlanes → Bool)) :
    (rounds.foldl tick monitor).threshold = monitor.threshold ∧
      (rounds.foldl tick monitor).recovery = monitor.recovery := by
  induction rounds generalizing monitor with
  | nil => exact ⟨rfl, rfl⟩
  | cons probe rest ih =>
      obtain ⟨threshold, recovery⟩ := ih (monitor.tick probe)
      exact ⟨threshold.trans (tick_bounds monitor probe).1, recovery.trans (tick_bounds monitor probe).2⟩

end HealthMonitor

/-! ## The policy over a set of down planes -/

/-- What a pick may be: the inner choice if it is up; else the first up plane cyclically
after it; and the choice all the same when every plane is down. -/
structure PicksUp (numPlanes : Nat) (down : Finset Nat) (choice picked : Nat) : Prop where
  inRange : picked < numPlanes
  kept : choice ∉ down → picked = choice
  next : choice ∈ down → (∃ plane < numPlanes, plane ∉ down) →
    ∃ step, 1 ≤ step ∧ step < numPlanes ∧ picked = (choice + step) % numPlanes ∧ picked ∉ down ∧
      ∀ earlier, 1 ≤ earlier → earlier < step → (choice + earlier) % numPlanes ∈ down
  allDown : (∀ plane < numPlanes, plane ∈ down) → picked = choice
  onlyThen : picked ∈ down → ∀ plane < numPlanes, plane ∈ down

/-- A cyclic walk from a plane meets every other one. -/
theorem exists_cyclic_step {numPlanes choice plane : Nat} (choiceIn : choice < numPlanes)
    (planeIn : plane < numPlanes) (apart : plane ≠ choice) :
    ∃ step, 1 ≤ step ∧ step < numPlanes ∧ (choice + step) % numPlanes = plane := by
  by_cases later : choice < plane
  · exact ⟨plane - choice, by omega, by omega, by
      rw [show choice + (plane - choice) = plane by omega, Nat.mod_eq_of_lt planeIn]⟩
  · refine ⟨plane + numPlanes - choice, by omega, by omega, ?_⟩
    rw [show choice + (plane + numPlanes - choice) = plane + numPlanes by omega, Nat.add_mod_right,
      Nat.mod_eq_of_lt planeIn]

/-- As many planes are down as there are exactly when all are. -/
theorem le_card_down_iff {numPlanes : Nat} {down : Finset Nat}
    (within : ∀ plane ∈ down, plane < numPlanes) :
    numPlanes ≤ down.card ↔ ∀ plane < numPlanes, plane ∈ down := by
  have size : down ⊆ Finset.range numPlanes := fun plane mem =>
    Finset.mem_range.mpr (within plane mem)
  constructor
  · intro full plane planeIn
    have same : down = Finset.range numPlanes :=
      Finset.eq_of_subset_of_card_le size (by simpa using full)
    exact same ▸ Finset.mem_range.mpr planeIn
  · intro all
    simpa using Finset.card_le_card fun plane mem => all plane (Finset.mem_range.mp mem)

/-- While some plane is up, the walk from a down plane ends at the first that is. -/
theorem exists_walk {numPlanes choice plane : Nat} {down : Finset Nat} (choiceIn : choice < numPlanes)
    (isDown : choice ∈ down) (planeIn : plane < numPlanes) (isUp : plane ∉ down) :
    ∃ step, 1 ≤ step ∧ step < numPlanes ∧
      (((List.range' 1 (numPlanes - 1)).map fun step => (choice + step) % numPlanes).find?
        fun cand => cand ∉ down) = some ((choice + step) % numPlanes) ∧
      (choice + step) % numPlanes ∉ down ∧
      ∀ earlier, 1 ≤ earlier → earlier < step → (choice + earlier) % numPlanes ∈ down := by
  obtain ⟨far, farPos, farIn, farEq⟩ := exists_cyclic_step choiceIn planeIn
    fun same => isUp (same ▸ isDown)
  rw [List.find?_map]
  cases found : (List.range' 1 (numPlanes - 1)).find?
      ((fun cand => decide (cand ∉ down)) ∘ fun step => (choice + step) % numPlanes) with
  | none =>
      have none_ := List.find?_eq_none.mp found far (List.mem_range'_1.mpr (by omega))
      simp [farEq, isUp] at none_
  | some step =>
      obtain ⟨walkedUp, stepIn, before⟩ := List.find?_range'_eq_some.mp found
      obtain ⟨stepPos, stepLt⟩ := List.mem_range'_1.mp stepIn
      simp only [Function.comp_apply, decide_eq_true_eq] at walkedUp
      refine ⟨step, stepPos, by omega, rfl, walkedUp, fun earlier first last => ?_⟩
      simpa using before earlier first last

theorem healthAwarePick_picksUp {numPlanes : Nat} {inner : Int → FlowKey → Nat} {down : Finset Nat}
    (within : ∀ plane ∈ down, plane < numPlanes) (seq : Int) (flow : FlowKey)
    (inRange : inner seq flow < numPlanes) :
    PicksUp numPlanes down (inner seq flow) (healthAwarePick numPlanes inner down seq flow) := by
  unfold healthAwarePick
  set choice := inner seq flow
  by_cases up : choice ∉ down
  · rw [if_pos (Or.inr up)]
    exact ⟨inRange, fun _ => rfl, fun isDown => absurd isDown up, fun _ => rfl,
      fun isDown => absurd isDown up⟩
  rw [not_not] at up
  have someDown : down ≠ ∅ := Finset.ne_empty_of_mem up
  rw [if_neg (by simp [someDown, up])]
  by_cases full : numPlanes ≤ down.card
  · have all := (le_card_down_iff within).mp full
    rw [if_pos full]
    exact ⟨inRange, fun _ => rfl, fun _ ⟨plane, planeIn, isUp⟩ => absurd (all plane planeIn) isUp,
      fun _ => rfl, fun _ => all⟩
  · obtain ⟨plane, planeIn, isUp⟩ : ∃ plane < numPlanes, plane ∉ down := by
      simpa using mt (le_card_down_iff within).mpr full
    obtain ⟨step, stepPos, stepLt, found, walkedUp, before⟩ := exists_walk inRange up planeIn isUp
    rw [if_neg full]
    dsimp only
    rw [found, Option.getD_some]
    refine ⟨Nat.mod_lt _ (by omega), fun isUp => absurd up isUp, fun _ _ => ?_, ?_, ?_⟩
    · exact ⟨step, stepPos, stepLt, rfl, walkedUp, before⟩
    · intro all
      exact absurd (all plane planeIn) isUp
    · intro isDown
      exact absurd isDown walkedUp

/-- The legacy health path: after every history of probe rounds a plane is down exactly
when the later of a streak of `threshold` failures and one of `recovery` successes was the
failures, or there was neither and it was down at the start; and every pick over the shared
set is the inner choice, or the first up plane cyclically after it. -/
theorem health_path {numPlanes : Nat} {threshold recovery : Int} {initially : Finset Nat}
    {monitor : HealthMonitor numPlanes}
    (built : HealthMonitor.init initially numPlanes threshold recovery = .ok monitor)
    (within : ∀ plane ∈ initially, plane < numPlanes) (inner : Int → FlowKey → Nat)
    (inRange : ∀ seq flow, inner seq flow < numPlanes) (rounds : List (Fin numPlanes → Bool)) :
    let down := (rounds.foldl HealthMonitor.tick monitor).down
    (∀ plane : Fin numPlanes,
      let history := rounds.map fun probe => probe plane
      (plane : Nat) ∈ down ↔
        Latched (Completes false threshold.toNat history) (Completes true recovery.toNat history)
          ((plane : Nat) ∈ initially)) ∧
      (∀ plane ∈ down, plane < numPlanes) ∧
      ∀ seq flow, PicksUp numPlanes down (inner seq flow)
        (healthAwarePick numPlanes inner down seq flow) := by
  intro down
  have tracks := (HealthMonitor.Tracks.init built).ticks rounds
  obtain ⟨sameThreshold, sameRecovery⟩ := monitor.ticks_bounds rounds
  obtain ⟨thresholdEq, recoveryEq⟩ := HealthMonitor.init_bounds built
  have downIn : ∀ plane ∈ down, plane < numPlanes := fun plane mem =>
    (tracks.others plane mem).elim id (within plane)
  refine ⟨?_, downIn, fun seq flow => healthAwarePick_picksUp downIn seq flow (inRange seq flow)⟩
  intro plane
  have latched := tracks.down plane
  rwa [sameThreshold, sameRecovery, thresholdEq, recoveryEq] at latched

/-- Plane 1 fails three probes and the round-robin choice 1 moves on to plane 2. -/
theorem health_path_drives_policy :
    ∃ monitor : HealthMonitor 4, HealthMonitor.init ∅ 4 3 1 = .ok monitor ∧
      let probe : Fin 4 → Bool := fun plane => plane ≠ 1
      let down := ((List.replicate 3 probe).foldl HealthMonitor.tick monitor).down
      (1 ∈ down ↔ Latched (Completes false 3 [false, false, false])
        (Completes true 1 [false, false, false]) False) ∧
        PicksUp 4 down 1 (healthAwarePick 4 (fun seq _ => (seq % 4).toNat) down 1
          ⟨"a", "b", 1, 2⟩) := by
  obtain ⟨monitor, built⟩ : ∃ monitor : HealthMonitor 4,
    HealthMonitor.init ∅ 4 3 1 = .ok monitor := ⟨_, rfl⟩
  have path := health_path built (by simp) (fun seq _ => (seq % 4).toNat) (fun seq flow => by omega)
    (List.replicate 3 fun plane => decide (plane ≠ 1))
  refine ⟨monitor, built, ?_, path.2.2 1 _⟩
  simpa using path.1 1

end Srv6Fabric.Health

import Mathlib.Algebra.BigOperators.Ring.List
import Srv6Fabric.Library.Counting
import Srv6Fabric.Mrc.EvStateSignal

/-!
# What every table satisfies

`Sound` collects the invariants of a constructed table: the tenants it knows, the
active-plane floor, and the coherence of the cached weights.  The constructor
establishes them and every call keeps them, so they hold after any run.
-/

namespace Srv6Fabric.Mrc.EVStateTable

open Srv6Fabric.Library

variable {numPlanes : Nat}

/-- Planes of a row that are GOOD or UNKNOWN. -/
def usablePlanes (row : Fin numPlanes → PlaneRecord) : Nat :=
  (List.finRange numPlanes).countP fun plane => (row plane).state ≠ .assumedBad

structure Sound (table : EVStateTable numPlanes) : Prop where
  somePlane : 1 ≤ numPlanes
  minActive_eq : table.minActive = table.cfg.resolveMinActive numPlanes
  known : ∀ tenant, (table.planes.find? tenant).isSome = true ↔ tenant ∈ table.tenants
  floor : ∀ tenant row, table.planes.find? tenant = some row →
    table.minActive ≤ usablePlanes row
  cached : ∀ tenant row, table.planes.find? tenant = some row →
    table.weightsCache.find? tenant = some (normalizedWeights row)

/-! ## The configured floor -/

theorem one_le_resolveMinActive (cfg : EVStateConfig) (numPlanes : Nat) :
    1 ≤ cfg.resolveMinActive numPlanes := by
  unfold EVStateConfig.resolveMinActive
  split <;> exact le_max_left _ _

theorem resolveMinActive_le (cfg : EVStateConfig) {numPlanes : Nat} (some_ : 1 ≤ numPlanes) :
    cfg.resolveMinActive numPlanes ≤ numPlanes := by
  unfold EVStateConfig.resolveMinActive
  split <;> omega

/-! ## The floor under one signal -/

theorem usablePlanes_eq (row : Fin numPlanes → PlaneRecord) (plane : Fin numPlanes) :
    usablePlanes row =
      usableAfter row plane + if (row plane).state ≠ .assumedBad then 1 else 0 := by
  have split := countP_eq_others_add (List.nodup_finRange numPlanes) (List.mem_finRange plane)
    fun other => decide ((row other).state ≠ .assumedBad)
  simpa [usablePlanes, usableAfter] using split

/-- The state a signal leaves a plane in. -/
theorem nextRecord_state (cfg : EVStateConfig) (permitted : Bool) (record : PlaneRecord)
    (signal : Signal) :
    (nextRecord cfg permitted record signal).state =
      if promotes cfg record signal then .good
      else if accuses cfg record signal && permitted then .assumedBad
      else record.state := by
  unfold nextRecord
  cases promoted : promotes cfg record signal with
  | true => simp
  | false =>
      cases accused : accuses cfg record signal with
      | false => simp
      | true => cases permitted <;> simp [demoteOrSuppress]

/-- A plane that is ASSUMED_BAD after a signal either was so before, or had the
floor's permission. -/
theorem nextRecord_assumedBad {cfg : EVStateConfig} {permitted : Bool} {record : PlaneRecord}
    {signal : Signal}
    (bad : (nextRecord cfg permitted record signal).state = .assumedBad) :
    record.state = .assumedBad ∨ permitted = true := by
  rw [nextRecord_state] at bad
  split at bad
  · cases bad
  · split at bad
    · next accused => exact Or.inr ((Bool.and_eq_true _ _).mp accused).2
    · exact Or.inl bad

/-- Only a signal that accuses a plane leaves it ASSUMED_BAD. -/
theorem nextRecord_ne_assumedBad {cfg : EVStateConfig} {permitted : Bool} {record : PlaneRecord}
    {signal : Signal} (usable : record.state ≠ .assumedBad)
    (spared : accuses cfg record signal = false) :
    (nextRecord cfg permitted record signal).state ≠ .assumedBad := by
  rw [nextRecord_state, spared]
  split
  · simp
  · simpa using usable

theorem nextRow_floor {cfg : EVStateConfig} {minActive : Int}
    {row : Fin numPlanes → PlaneRecord} (plane : Fin numPlanes) (signal : Signal)
    (floor : minActive ≤ usablePlanes row) :
    minActive ≤ usablePlanes (nextRow cfg minActive row plane signal) := by
  have before := usablePlanes_eq row plane
  have after := usablePlanes_eq (nextRow cfg minActive row plane signal) plane
  rw [nextRow, usableAfter_update, Function.update_self, ← nextRow] at after
  by_cases bad : (nextRecord cfg (floorPermits minActive row plane) (row plane) signal).state =
      .assumedBad
  · rcases nextRecord_assumedBad bad with already | permitted
    · simp [already] at before
      simp [bad] at after
      omega
    · have room : minActive ≤ usableAfter row plane := by simpa [floorPermits] using permitted
      simp [bad] at after
      omega
  · rw [if_pos bad] at after
    split at before <;> omega

/-! ## Weights of a row above the floor -/

theorem stateWeight_nonneg (state : EVState) : 0 ≤ stateWeight state := by
  cases state <;> simp [stateWeight]

theorem stateWeight_pos_iff (state : EVState) :
    0 < stateWeight state ↔ state ≠ .assumedBad := by
  cases state <;> simp [stateWeight]

theorem rawWeights_nonneg (row : Fin numPlanes → PlaneRecord) :
    ∀ weight ∈ rawWeights row, 0 ≤ weight := by
  intro weight mem
  obtain ⟨plane, rfl⟩ := List.mem_ofFn.mp mem
  exact stateWeight_nonneg _

/-- One usable plane keeps the total weight positive. -/
theorem rawWeights_sum_pos {row : Fin numPlanes → PlaneRecord} (usable : 1 ≤ usablePlanes row) :
    0 < (rawWeights row).sum := by
  obtain ⟨plane, -, active⟩ := List.countP_pos_iff.mp usable
  have positive : 0 < stateWeight (row plane).state :=
    (stateWeight_pos_iff _).mpr (by simpa using active)
  have member : stateWeight (row plane).state ∈ rawWeights row :=
    List.mem_ofFn.mpr ⟨plane, rfl⟩
  exact lt_of_lt_of_le positive (List.single_le_sum (rawWeights_nonneg row) _ member)

theorem normalizedWeights_of_pos {row : Fin numPlanes → PlaneRecord}
    (positive : 0 < (rawWeights row).sum) :
    normalizedWeights row = (rawWeights row).map (· / (rawWeights row).sum) := by
  simp [normalizedWeights, not_le.mpr positive]

theorem normalizedWeights_sum {row : Fin numPlanes → PlaneRecord}
    (positive : 0 < (rawWeights row).sum) : (normalizedWeights row).sum = 1 := by
  rw [normalizedWeights_of_pos positive]
  simp only [div_eq_mul_inv, List.sum_map_mul_right, List.map_id']
  exact mul_inv_cancel₀ positive.ne'

/-- A position of the cached tuple carries weight exactly when its plane is usable. -/
theorem normalizedWeights_pos_iff {row : Fin numPlanes → PlaneRecord}
    (positive : 0 < (rawWeights row).sum) {position : Nat} {weight : ℚ}
    (held : (normalizedWeights row)[position]? = some weight) :
    ∃ plane : Fin numPlanes, (plane : Nat) = position ∧
      (0 < weight ↔ (row plane).state ≠ .assumedBad) := by
  rw [normalizedWeights_of_pos positive, List.getElem?_map] at held
  obtain ⟨raw, rawHeld, scaled⟩ := Option.map_eq_some_iff.mp held
  obtain ⟨inRange, rawEq⟩ := List.getElem?_eq_some_iff.mp rawHeld
  have below : position < numPlanes := by simpa [rawWeights] using inRange
  refine ⟨⟨position, below⟩, rfl, ?_⟩
  rw [← scaled, div_pos_iff_of_pos_right positive, ← rawEq, ← stateWeight_pos_iff]
  simp [rawWeights]

/-! ## Construction -/

theorem find?_blankPlanes (tenants : List String)
    (planes : OrderedDict String (Fin numPlanes → PlaneRecord)) (tenant : String) :
    (tenants.foldl (fun planes tenant => planes.set tenant fun _ => {}) planes).find? tenant =
      if tenant ∈ tenants then some fun _ => {} else planes.find? tenant := by
  induction tenants generalizing planes with
  | nil => simp
  | cons first rest ih =>
      rw [List.foldl_cons, ih, OrderedDict.find?_set]
      by_cases inRest : tenant ∈ rest
      · simp [inRest]
      · by_cases isFirst : tenant = first <;> simp [inRest, isFirst]

/-- Building the caches touches nothing else, and caches every tenant's row. -/
theorem foldl_rebuild (tenants : List String) (table : EVStateTable numPlanes) :
    let built := tenants.foldl rebuildWeightsLocked table
    built.tenants = table.tenants ∧ built.cfg = table.cfg ∧ built.minActive = table.minActive ∧
      built.planes = table.planes ∧ built.events = table.events ∧
      ∀ tenant, built.weightsCache.find? tenant =
        if tenant ∈ tenants then some (normalizedWeights (table.row tenant))
        else table.weightsCache.find? tenant := by
  induction tenants generalizing table with
  | nil => simp
  | cons first rest ih =>
      obtain ⟨sameTenants, sameCfg, sameFloor, samePlanes, sameEvents, caches⟩ :=
        ih (table.rebuildWeightsLocked first)
      refine ⟨sameTenants, sameCfg, sameFloor, samePlanes, sameEvents, ?_⟩
      intro tenant
      have rowEq : (table.rebuildWeightsLocked first).row tenant = table.row tenant := rfl
      rw [List.foldl_cons, caches tenant, rowEq]
      by_cases inRest : tenant ∈ rest
      · simp [inRest]
      · by_cases isFirst : tenant = first
        · simp [isFirst, rebuildWeightsLocked]
        · simp [inRest, isFirst, rebuildWeightsLocked]

theorem usablePlanes_blank : usablePlanes (fun _ : Fin numPlanes => ({} : PlaneRecord)) =
    numPlanes := by
  simp [usablePlanes]

/-- What the constructor returns: blank records for exactly the given tenants. -/
theorem init_ok {tenants : List String} {cfg : EVStateConfig} {table : EVStateTable numPlanes}
    (built : init tenants numPlanes cfg = .ok table) :
    1 ≤ numPlanes ∧ table.tenants = tenants ∧ table.cfg = cfg ∧
      table.minActive = cfg.resolveMinActive numPlanes ∧ table.events = [] ∧
      (∀ tenant, table.planes.find? tenant =
        if tenant ∈ tenants then some fun _ => {} else none) ∧
      ∀ tenant ∈ tenants,
        table.weightsCache.find? tenant = some (normalizedWeights (table.row tenant)) := by
  unfold init at built
  split at built
  · cases built
  split at built
  · cases built
  next atLeastOne =>
  split at built
  · cases built
  rw [← Except.ok.inj built]
  set blank : EVStateTable numPlanes :=
    { tenants, cfg
      minActive := cfg.resolveMinActive numPlanes
      planes := tenants.foldl (fun planes tenant => planes.set tenant fun _ => {}) .empty
      weightsCache := .empty
      events := [] } with blankDef
  obtain ⟨sameTenants, sameCfg, sameFloor, samePlanes, sameEvents, caches⟩ :=
    foldl_rebuild tenants blank
  refine ⟨by omega, sameTenants, sameCfg, sameFloor, sameEvents, ?_, ?_⟩
  · intro tenant
    rw [samePlanes, blankDef]
    exact find?_blankPlanes tenants .empty tenant
  · intro tenant mem
    have rowEq : (tenants.foldl rebuildWeightsLocked blank).row tenant = blank.row tenant := by
      simp only [EVStateTable.row, samePlanes]
    rw [caches tenant, if_pos mem, rowEq]

theorem init_sound {tenants : List String} {cfg : EVStateConfig}
    {table : EVStateTable numPlanes} (built : init tenants numPlanes cfg = .ok table) :
    table.Sound := by
  obtain ⟨atLeastOne, tenantsEq, cfgEq, floorEq, -, planesEq, cachesEq⟩ := init_ok built
  refine ⟨atLeastOne, by rw [floorEq, cfgEq], ?_, ?_, ?_⟩
  · intro tenant
    rw [planesEq, tenantsEq]
    by_cases mem : tenant ∈ tenants <;> simp [mem]
  · intro tenant row found
    rw [planesEq] at found
    split at found
    · rw [← Option.some.inj found, usablePlanes_blank, floorEq]
      exact resolveMinActive_le cfg atLeastOne
    · cases found
  · intro tenant row found
    have mem : tenant ∈ tenants := by
      by_contra absent
      rw [planesEq, if_neg absent] at found
      cases found
    rw [cachesEq tenant mem, row_of_find? found]

/-! ## Every call, every run -/

section Frame

variable (table : EVStateTable numPlanes) (tenant : String) (plane : Fin numPlanes)
  (signal : Signal)

@[simp] theorem applySignal_tenants : (table.applySignal tenant plane signal).tenants =
    table.tenants := by
  unfold applySignal
  dsimp only
  split <;> rfl

@[simp] theorem applySignal_cfg : (table.applySignal tenant plane signal).cfg = table.cfg := by
  unfold applySignal
  dsimp only
  split <;> rfl

@[simp] theorem applySignal_minActive : (table.applySignal tenant plane signal).minActive =
    table.minActive := by
  unfold applySignal
  dsimp only
  split <;> rfl

@[simp] theorem applySignal_planes : (table.applySignal tenant plane signal).planes =
    table.planes.set tenant
      (nextRow table.cfg table.minActive (table.row tenant) plane signal) := by
  unfold applySignal
  dsimp only
  split <;> rfl

theorem applySignal_row (other : String) :
    (table.applySignal tenant plane signal).row other =
      if other = tenant then nextRow table.cfg table.minActive (table.row tenant) plane signal
      else table.row other := by
  simp only [EVStateTable.row, applySignal_planes, OrderedDict.find?_set]
  split <;> rfl

end Frame

/-! ## A signal for each of several planes -/

/-- The table after one signal to each of the listed planes, in order. -/
def applySignals (table : EVStateTable numPlanes) (tenant : String)
    (signal : Fin numPlanes → Signal) (planes : List (Fin numPlanes)) : EVStateTable numPlanes :=
  planes.foldl (fun table plane => table.applySignal tenant plane (signal plane)) table

section Several

variable {table : EVStateTable numPlanes} {tenant : String} {signal : Fin numPlanes → Signal}
  {planes : List (Fin numPlanes)}

theorem applySignals_row_of_not_mem {plane : Fin numPlanes} (absent : plane ∉ planes) :
    (table.applySignals tenant signal planes).row tenant plane = table.row tenant plane := by
  induction planes generalizing table with
  | nil => rfl
  | cons first rest ih =>
      obtain ⟨away, later⟩ := List.ne_and_not_mem_of_not_mem_cons absent
      refine (ih later).trans ?_
      rw [applySignal_row, if_pos rfl, nextRow, Function.update_of_ne away]

variable (table tenant signal) in
/-- Signals to other planes decide only whether the floor permits a demotion. -/
theorem applySignals_row_of_mem (nodup : planes.Nodup) {plane : Fin numPlanes}
    (mem : plane ∈ planes) :
    ∃ permitted, (table.applySignals tenant signal planes).row tenant plane =
      nextRecord table.cfg permitted (table.row tenant plane) (signal plane) := by
  induction planes generalizing table with
  | nil => cases mem
  | cons first rest ih =>
      obtain ⟨fresh, nodupRest⟩ := List.nodup_cons.mp nodup
      have split : table.applySignals tenant signal (first :: rest) =
          (table.applySignal tenant first (signal first)).applySignals tenant signal rest := rfl
      rcases List.mem_cons.mp mem with rfl | later
      · refine ⟨floorPermits table.minActive (table.row tenant) plane, ?_⟩
        rw [split, applySignals_row_of_not_mem fresh, applySignal_row, if_pos rfl, nextRow,
          Function.update_self]
      · have away : plane ≠ first := fun same => fresh (same ▸ later)
        obtain ⟨permitted, rowEq⟩ := @ih (table.applySignal tenant first (signal first)) nodupRest later
        refine ⟨permitted, ?_⟩
        rw [split, rowEq, applySignal_cfg, applySignal_row, if_pos rfl, nextRow,
          Function.update_of_ne away]

end Several

/-- A loss window stores its ratio, whatever else it does. -/
theorem nextRecord_lastLossRatio (cfg : EVStateConfig) (permitted : Bool) (record : PlaneRecord)
    (ratio : ℚ) :
    (nextRecord cfg permitted record (.lossWindow ratio)).lastLossRatio = ratio := by
  unfold nextRecord promotes
  cases accuses cfg record (.lossWindow ratio) with
  | false => rfl
  | true => cases permitted <;> rfl

/-- Weights depend on the states alone, and a signal moves one plane's state. -/
theorem normalizedWeights_congr {row row' : Fin numPlanes → PlaneRecord}
    (same : ∀ plane, (row plane).state = (row' plane).state) :
    normalizedWeights row = normalizedWeights row' := by
  have raw : rawWeights row = rawWeights row' := by simp only [rawWeights, same]
  simp only [normalizedWeights, raw]

theorem nextRow_state_of_eq {cfg : EVStateConfig} {minActive : Int}
    {row : Fin numPlanes → PlaneRecord} {plane : Fin numPlanes} {signal : Signal}
    (same : (row plane).state = (nextRow cfg minActive row plane signal plane).state)
    (other : Fin numPlanes) :
    (row other).state = (nextRow cfg minActive row plane signal other).state := by
  by_cases here : other = plane
  · rw [here]
    exact same
  · simp [nextRow, here]

theorem applySignal_weightsCache (table : EVStateTable numPlanes) (sound : table.Sound)
    {tenant : String} {row : Fin numPlanes → PlaneRecord}
    (found : table.planes.find? tenant = some row) (plane : Fin numPlanes) (signal : Signal)
    (other : String) :
    (table.applySignal tenant plane signal).weightsCache.find? other =
      if other = tenant then
        some (normalizedWeights (nextRow table.cfg table.minActive row plane signal))
      else table.weightsCache.find? other := by
  unfold applySignal
  rw [row_of_find? found]
  by_cases same : (row plane).state =
      (nextRow table.cfg table.minActive row plane signal plane).state
  · rw [if_pos same]
    by_cases here : other = tenant
    · rw [if_pos here, here]
      exact (sound.cached tenant row found).trans
        (congrArg some (normalizedWeights_congr (nextRow_state_of_eq same)))
    · rw [if_neg here]
  · rw [if_neg same]
    exact OrderedDict.find?_set _ _ _ _

theorem Sound.applySignal {table : EVStateTable numPlanes} (sound : table.Sound)
    {tenant : String} {row : Fin numPlanes → PlaneRecord}
    (found : table.planes.find? tenant = some row) (plane : Fin numPlanes) (signal : Signal) :
    (table.applySignal tenant plane signal).Sound := by
  have rowEq := row_of_find? found
  refine ⟨sound.somePlane, by simpa using sound.minActive_eq, ?_, ?_, ?_⟩
  · intro other
    rw [applySignal_planes, applySignal_tenants, OrderedDict.find?_set]
    by_cases here : other = tenant
    · simp [here, (sound.known tenant).mp (by rw [found]; rfl)]
    · rw [if_neg here]
      exact sound.known other
  · intro other row' found'
    rw [applySignal_planes, OrderedDict.find?_set] at found'
    rw [applySignal_minActive]
    split at found'
    · rw [← Option.some.inj found', rowEq]
      exact nextRow_floor plane signal (sound.floor tenant row found)
    · exact sound.floor other row' found'
  · intro other row' found'
    rw [applySignal_planes, OrderedDict.find?_set] at found'
    rw [applySignal_weightsCache table sound found]
    split at found'
    · next here => rw [if_pos here, ← Option.some.inj found', rowEq]
    · next there =>
      rw [if_neg there]
      exact sound.cached other row' found'

theorem Sound.call {table next : EVStateTable numPlanes} (sound : table.Sound)
    {request : Call} (returned : table.call request = .ok next) : next.Sound := by
  obtain ⟨row, index, found, -, nextEq⟩ := call_ok returned
  rw [nextEq]
  cases carried : request.signal? with
  | none => exact sound
  | some signal => exact sound.applySignal found index signal

/-- A call changes neither the tenants nor the configuration. -/
theorem call_frame {table next : EVStateTable numPlanes} {request : Call}
    (returned : table.call request = .ok next) :
    next.tenants = table.tenants ∧ next.cfg = table.cfg ∧ next.minActive = table.minActive := by
  obtain ⟨row, index, -, -, nextEq⟩ := call_ok returned
  rw [nextEq]
  cases request.signal? with
  | none => exact ⟨rfl, rfl, rfl⟩
  | some signal => simp

theorem invoke_fst (onTransition : TransitionCb numPlanes) (table : EVStateTable numPlanes)
    (request : Call) :
    (table.invoke onTransition request).1 = table ∨
      table.call request = .ok (table.invoke onTransition request).1 := by
  unfold invoke
  cases table.call request with
  | error error => exact Or.inl rfl
  | ok next => exact Or.inr rfl

/-- A run keeps any property that calls keep. -/
theorem run_induction {motive : EVStateTable numPlanes → Prop}
    (step : ∀ table next request, motive table → table.call request = .ok next → motive next)
    (onTransition : TransitionCb numPlanes) {table : EVStateTable numPlanes}
    (start : motive table) (requests : List Call) :
    motive (table.run onTransition requests) := by
  induction requests generalizing table with
  | nil => exact start
  | cons request rest ih =>
      apply ih
      change motive (table.invoke onTransition request).1
      rcases invoke_fst onTransition table request with kept | returned
      · rw [kept]
        exact start
      · exact step _ _ _ start returned

theorem Sound.run {table : EVStateTable numPlanes} (sound : table.Sound)
    (onTransition : TransitionCb numPlanes) (requests : List Call) :
    (table.run onTransition requests).Sound :=
  run_induction (fun _ _ _ sound returned => sound.call returned) onTransition sound requests

theorem run_frame (onTransition : TransitionCb numPlanes) (table : EVStateTable numPlanes)
    (requests : List Call) :
    (table.run onTransition requests).tenants = table.tenants ∧
      (table.run onTransition requests).cfg = table.cfg ∧
      (table.run onTransition requests).minActive = table.minActive :=
  run_induction (motive := fun later => later.tenants = table.tenants ∧ later.cfg = table.cfg ∧
      later.minActive = table.minActive)
    (fun _ _ _ frame returned =>
      have step := call_frame returned
      ⟨step.1.trans frame.1, step.2.1.trans frame.2.1, step.2.2.trans frame.2.2⟩)
    onTransition ⟨rfl, rfl, rfl⟩ requests

theorem Sound.find? {table : EVStateTable numPlanes} (sound : table.Sound) {tenant : String}
    (mem : tenant ∈ table.tenants) : table.planes.find? tenant = some (table.row tenant) := by
  obtain ⟨row, found⟩ := Option.isSome_iff_exists.mp ((sound.known tenant).mpr mem)
  rw [found, row_of_find? found]

theorem Sound.row_floor {table : EVStateTable numPlanes} (sound : table.Sound)
    {tenant : String} (mem : tenant ∈ table.tenants) :
    table.cfg.resolveMinActive numPlanes ≤ usablePlanes (table.row tenant) := by
  rw [← sound.minActive_eq]
  exact sound.floor tenant _ (sound.find? mem)

theorem Sound.rawWeights_sum_pos {table : EVStateTable numPlanes} (sound : table.Sound)
    {tenant : String} (mem : tenant ∈ table.tenants) :
    0 < (rawWeights (table.row tenant)).sum := by
  apply EVStateTable.rawWeights_sum_pos
  have floor := sound.row_floor mem
  have configured := one_le_resolveMinActive table.cfg numPlanes
  omega

/-- The active-plane floor: after any run, raising calls included, every tenant keeps
`min_active` planes GOOD or UNKNOWN, so the total weight the cache is normalized by is
positive and the uniform fallback is never taken. -/
theorem active_plane_floor {tenants : List String} {cfg : EVStateConfig}
    {table : EVStateTable numPlanes} (built : init tenants numPlanes cfg = .ok table)
    (onTransition : TransitionCb numPlanes) (requests : List Call) {tenant : String}
    (mem : tenant ∈ tenants) :
    let reached := table.run onTransition requests
    reached.minActive = cfg.resolveMinActive numPlanes ∧
      1 ≤ cfg.resolveMinActive numPlanes ∧ cfg.resolveMinActive numPlanes ≤ numPlanes ∧
      cfg.resolveMinActive numPlanes ≤ usablePlanes (reached.row tenant) ∧
      ¬ (rawWeights (reached.row tenant)).sum ≤ 0 := by
  obtain ⟨atLeastOne, tenantsEq, cfgEq, floorEq, -⟩ := init_ok built
  obtain ⟨sameTenants, sameCfg, sameFloor⟩ := run_frame onTransition table requests
  have sound := (init_sound built).run onTransition requests
  have known : tenant ∈ (table.run onTransition requests).tenants := by
    rw [sameTenants, tenantsEq]
    exact mem
  have floor := sound.row_floor known
  rw [sameCfg, cfgEq] at floor
  exact ⟨sameFloor.trans floorEq, one_le_resolveMinActive cfg numPlanes,
    resolveMinActive_le cfg atLeastOne, floor, not_le.mpr (sound.rawWeights_sum_pos known)⟩

/-- Three of four planes lose every probe; the floor of two holds. -/
theorem active_plane_floor_blackhole :
    ∃ table : EVStateTable 4, init ["green"] 4 {} = .ok table ∧
      2 ≤ usablePlanes ((table.run (fun _ => none)
        (([0, 1, 2] : List Int).flatMap fun plane =>
          List.replicate 3 (.probe "green" plane false none))).row "green") := by
  obtain ⟨table, built⟩ : ∃ table : EVStateTable 4, init ["green"] 4 {} = .ok table := ⟨_, rfl⟩
  refine ⟨table, built, ?_⟩
  have floor := (active_plane_floor built (fun _ => none)
    (([0, 1, 2] : List Int).flatMap fun plane =>
      List.replicate 3 (.probe "green" plane false none)) (List.mem_singleton_self "green")).2.2.2.1
  have half : ({} : EVStateConfig).resolveMinActive 4 = 2 := rfl
  rw [half] at floor
  exact_mod_cast floor

end Srv6Fabric.Mrc.EVStateTable

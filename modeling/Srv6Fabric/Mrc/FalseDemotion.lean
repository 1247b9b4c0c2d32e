import Srv6Fabric.Mrc.ClosedLoop

/-!
# Demotion on a fabric that loses nothing

The windows of the two agents are cut by independent timers, so a report may miss
packets of the window it is paired with that are only delayed, or be measured against
the span of a sequence that is striped over the planes.  A run in which no report does
so by more than the loss threshold, as often as it takes, demotes no plane.
-/

namespace Srv6Fabric.Mrc

open Srv6Fabric.Library

variable {κ : Type} [DecidableEq κ] {numPlanes : Nat}

namespace Loop

/-- The record falls short of what it is measured against by more than the threshold
share, and the plane is one such window away from a demotion. -/
def condemns (cfg : EVStateConfig) (row : Fin numPlanes → PlaneRecord)
    (paired : Option SentWindow) (record : PlaneLossRecord) : Bool :=
  match denominator paired record with
  | .error _ => false
  | .ok (total, _) =>
      if inRange : record.planeId.toNat < numPlanes then
        0 < total ∧ cfg.lossThreshold * total < total - record.seen.toNat ∧
          cfg.lossDemoteConsecutive ≤
            (row ⟨record.planeId.toNat, inRange⟩).consecutiveLossDemoteWindows + 1
      else false

/-- A report that is applied condemns no plane. -/
def aligned (loop : Loop κ numPlanes) : LoopAction numPlanes → Bool
  | .deliver position nowNs =>
      loop.reports[position]?.all fun report => report.planes.all fun record =>
        !condemns loop.agent.table.cfg loop.row (loop.agent.pairedWindow nowNs) record
  | _ => true

end Loop

/-! ## One signal -/

namespace EVStateTable

/-- A ratio above the threshold is a shortfall of more than the threshold share. -/
theorem lt_lossRatio_iff {threshold : ℚ} (nonneg : 0 ≤ threshold) {seen total : Nat}
    (positive : 0 < total) :
    threshold < lossRatio seen total ↔ threshold * total < total - seen := by
  have totalPos : (0 : ℚ) < total := by exact_mod_cast positive
  rcases le_total seen total with covered | exceeded
  · rw [lossRatio_of_le covered, lt_div_iff₀ totalPos]
  · have full : lossRatio seen total = 0 := by
      simp [lossRatio, min_eq_right (show (total : Int) ≤ seen by exact_mod_cast exceeded)]
    have exceededQ : (total : ℚ) ≤ seen := by exact_mod_cast exceeded
    have product : 0 ≤ threshold * total := mul_nonneg nonneg totalPos.le
    rw [full]
    constructor
    · intro negative
      exact absurd negative (not_lt.mpr nonneg)
    · intro short
      linarith

end EVStateTable

/-! ## One report -/

section Report

variable {tenant : String} {paired : Option SentWindow}

/-- A record that becomes a call without condemning its plane moves that plane's row,
and does not accuse it. -/
theorem spared_of_not_condemns {table next : EVStateTable numPlanes}
    (nonneg : 0 ≤ table.cfg.lossThreshold) {record : PlaneLossRecord} {total : Nat} {used : Bool}
    (divided : denominator paired record = .ok (total, used)) (positive : 0 < total)
    (called : table.call (.loss tenant record.planeId.toNat record.seen.toNat total) = .ok next)
    (spared : Loop.condemns table.cfg (table.row tenant) paired record = false) :
    ∃ (plane : Fin numPlanes) (ratio : ℚ), (plane : Nat) = record.planeId.toNat ∧
      next = table.applySignal tenant plane (.lossWindow ratio) ∧
      EVStateTable.accuses table.cfg (table.row tenant plane) (.lossWindow ratio) = false := by
  obtain ⟨row, plane, -, planeEq, -, -, nextEq⟩ := EVStateTable.recordLossWindow_ok called
  have planeNat : (plane : Nat) = record.planeId.toNat := by exact_mod_cast planeEq
  have inRange : record.planeId.toNat < numPlanes := planeNat ▸ plane.isLt
  have here : plane = ⟨record.planeId.toNat, inRange⟩ := Fin.ext planeNat
  have counted : ((total : Nat) : Int) ≠ 0 := by exact_mod_cast positive.ne'
  refine ⟨plane, EVStateTable.lossRatio record.seen.toNat total, planeNat, ?_, ?_⟩
  · rw [nextEq, if_neg counted]
  · simp only [Loop.condemns, divided, dif_pos inRange, positive, true_and, ← here,
      decide_eq_false_iff_not, not_and, not_le] at spared
    simp only [EVStateTable.accuses, decide_eq_false_iff_not, not_and, not_le]
    intro lossy usable
    have short := spared ((EVStateTable.lt_lossRatio_iff nonneg positive).mp lossy)
    simp only [EVStateTable.bumped, if_pos lossy]
    push_cast
    exact short

/-- What a record does depends on the row of its own plane. -/
theorem condemns_congr {cfg : EVStateConfig} {row other : Fin numPlanes → PlaneRecord}
    {record : PlaneLossRecord}
    (same : ∀ plane : Fin numPlanes, (plane : Nat) = record.planeId.toNat → row plane = other plane) :
    Loop.condemns cfg row paired record = Loop.condemns cfg other paired record := by
  unfold Loop.condemns
  cases denominator paired record with
  | error error => rfl
  | ok divided =>
      dsimp only
      split
      · next inRange => rw [same ⟨_, inRange⟩ rfl]
      · rfl

theorem applyRecords_spares {row : Fin numPlanes → PlaneRecord} {state : Fusion numPlanes}
    (nonneg : 0 ≤ state.table.cfg.lossThreshold)
    (clean : ∀ plane, (state.table.row tenant plane).state ≠ .assumedBad)
    {records : List PlaneLossRecord}
    (nodup : (records.map fun record => record.planeId.toNat).Nodup)
    (same : ∀ record ∈ records, ∀ plane : Fin numPlanes, (plane : Nat) = record.planeId.toNat →
      state.table.row tenant plane = row plane)
    (spared : ∀ record ∈ records, Loop.condemns state.table.cfg row paired record = false) :
    ∀ plane, ((applyRecords tenant paired state records).table.row tenant plane).state ≠
      .assumedBad := by
  induction records generalizing state with
  | nil => exact clean
  | cons record rest ih =>
      obtain ⟨fresh, nodupRest⟩ := List.nodup_cons.mp nodup
      have sameRest := fun other mem => same other (List.mem_cons_of_mem _ mem)
      have sparedRest := fun other mem => spared other (List.mem_cons_of_mem _ mem)
      rcases applyRecord_cases tenant paired state record with
        ⟨-, stats, stepEq⟩ | ⟨-, error, stepEq, -⟩ |
        ⟨-, total, used, table, stats, divided, positive, called, stepEq⟩
      · simp only [applyRecords_cons, stepEq]
        split
        · exact clean
        · exact @ih { state with stats } nonneg clean nodupRest sameRest sparedRest
      · simp only [applyRecords_cons, stepEq, Option.isSome_some, if_true]
        exact clean
      · have here : Loop.condemns state.table.cfg (state.table.row tenant) paired record = false := by
          rw [condemns_congr (same record List.mem_cons_self)]
          exact spared record List.mem_cons_self
        obtain ⟨plane, ratio, planeEq, tableEq, notAccused⟩ :=
          spared_of_not_condemns nonneg divided positive called here
        have cfgEq : table.cfg = state.table.cfg := by
          rw [tableEq, EVStateTable.applySignal_cfg]
        have rowEq : ∀ other, table.row tenant other =
            Function.update (state.table.row tenant) plane
              (EVStateTable.nextRecord state.table.cfg
                (EVStateTable.floorPermits state.table.minActive (state.table.row tenant) plane)
                (state.table.row tenant plane) (.lossWindow ratio)) other := by
          intro other
          rw [tableEq, EVStateTable.applySignal_row, if_pos rfl, EVStateTable.nextRow]
        have cleanNext : ∀ other, (table.row tenant other).state ≠ .assumedBad := by
          intro other
          rw [rowEq, Function.update_apply]
          split
          · exact EVStateTable.nextRecord_ne_assumedBad (clean plane) notAccused
          · exact clean other
        have sameNext : ∀ later ∈ rest, ∀ other : Fin numPlanes,
            (other : Nat) = later.planeId.toNat → table.row tenant other = row other := by
          intro later mem other otherEq
          have away : other ≠ plane := by
            rintro rfl
            exact fresh (List.mem_map.mpr ⟨later, mem, by rw [← otherEq, planeEq]⟩)
          rw [rowEq, Function.update_of_ne away]
          exact sameRest later mem other otherEq
        simp only [applyRecords_cons, stepEq]
        split
        · exact cleanNext
        · refine @ih { state with table, stats, calls := _ } ?_ cleanNext nodupRest sameNext ?_
          · rw [cfgEq]
            exact nonneg
          · intro later mem
            rw [cfgEq]
            exact sparedRest later mem

end Report

/-! ## Runs -/

namespace Loop

variable {loop later : Loop κ numPlanes} {flow : FlowKey} {flowKey : κ} {cfg : EVStateConfig}

/-- A healthy state with no plane demoted. -/
structure Spared (loop : Loop κ numPlanes) (flowKey : κ) (cfg : EVStateConfig) : Prop where
  healthy : loop.Healthy flowKey cfg
  clean : ∀ plane, (loop.row plane).state ≠ .assumedBad

theorem Spared.next (nonneg : 0 ≤ cfg.lossThreshold) (spared : loop.Spared flowKey cfg)
    {action : LoopAction numPlanes} (fair : loop.lossFree flowKey action)
    (matched : loop.aligned action) (stepped : loop.next flow flowKey action = some later) :
    later.Spared flowKey cfg := by
  refine ⟨spared.healthy.next stepped, ?_⟩
  have clean := spared.clean
  obtain ⟨tenantEq, same | ⟨position, receivedNs, report, rfl, held, fusedEq⟩ |
    ⟨plane, success, rttNs, rfl, called⟩⟩ := next_table stepped
  · rw [row, tenantEq, same]
    exact clean
  · -- A report: its records are about different planes and condemn none.
    simp only [aligned, held, Option.all_some, List.all_eq_true, Bool.not_eq_true'] at matched
    obtain ⟨stats, fuseEq⟩ := loop.agent.fuse_eq report receivedNs
    rw [row, tenantEq, fusedEq, fuseEq]
    refine @applyRecords_spares _ loop.agent.tenant _ _ { table := loop.agent.table, stats } ?_
      clean _ (spared.healthy.nodup report (List.mem_of_getElem? held)) (fun _ _ _ _ => rfl) matched
    rw [spared.healthy.configured]
    exact nonneg
  · have answered : success = true := fair
    subst answered
    obtain ⟨row, index, -, -, tableEq⟩ := EVStateTable.call_ok called
    simp only [probeCall, EVStateTable.Call.signal?, if_true, Option.map_some] at tableEq
    intro other
    rw [Loop.row, tenantEq, tableEq]
    simp only [EVStateTable.Call.tenant]
    rw [EVStateTable.applySignal_row, if_pos rfl, EVStateTable.nextRow, Function.update_apply]
    split
    · exact EVStateTable.nextRecord_ne_assumedBad (clean index) rfl
    · exact clean other

end Loop

/-- No false demotion.  In every run of the closed loop that loses no data packet and
answers every probe, under every interleaving of the timers and of the reports: if no
report that is applied condemns a plane, no plane is ever ASSUMED_BAD. -/
theorem loss_free_demotes_nothing {topo : Topo} {tenants : List String} {cfg : EVStateConfig}
    {table : EVStateTable topo.numPlanes} {tenant : String} {srcId dstId : Int}
    {agentCfg : AgentConfig} {startNs : Int} {agent : SenderMrcAgent topo.numPlanes}
    (built : EVStateTable.init tenants topo.numPlanes cfg = .ok table)
    (constructed : SenderMrcAgent.init topo tenant srcId dstId table agentCfg startNs = .ok agent)
    (positive : 0 < cfg.lossThreshold) (flow : FlowKey) (flowKey : κ)
    {actions : List (LoopAction topo.numPlanes)} {later : Loop κ topo.numPlanes}
    (ran : (closedLoop flow flowKey (.fresh agent startNs)).run (.fresh agent startNs) actions =
      some later)
    (guarded : (closedLoop flow flowKey (.fresh agent startNs)).along
      (fun loop action => Loop.lossFree flowKey loop action && Loop.aligned loop action)
      (.fresh agent startNs) actions)
    (plane : Fin topo.numPlanes) : (later.row plane).state ≠ .assumedBad := by
  have start : (Loop.fresh agent startNs : Loop κ topo.numPlanes).Spared flowKey cfg := by
    refine ⟨Loop.fresh_healthy built constructed, ?_⟩
    obtain ⟨known, tenantEq, tableEq, -⟩ := init_agent constructed
    obtain ⟨-, tenantsEq, -, -, -, rows, -⟩ := EVStateTable.init_ok built
    intro plane
    have found := rows tenant
    rw [if_pos (tenantsEq ▸ known)] at found
    simp [Loop.row, Loop.fresh, tenantEq, tableEq, EVStateTable.row_of_find? found]
  refine (Machine.along_invariant (motive := fun loop => Loop.Spared loop flowKey cfg) ?_ guarded ran
    start).clean plane
  intro loop action next spared allowed stepped
  obtain ⟨fair, matched⟩ := Bool.and_eq_true_iff.mp allowed
  exact spared.next positive.le fair matched stepped

/-- Three packets, the windows of both agents cut around all of them. -/
def matchedWindows : List (LoopAction 2) :=
  [.send, .send, .send, .arrive 0, .arrive 0, .arrive 0, .rotate 200000000, .snapshot,
    .deliver 0 250000000]

theorem matched_windows_demote_nothing :
    ∃ later, greenRun matchedWindows = some later ∧ later.agent.stats.planesUpdated = 2 ∧
      ∀ plane, (later.row plane).state ≠ .assumedBad := by
  have completes : (greenRun matchedWindows).map (fun later => later.agent.stats.planesUpdated) =
      some 2 := by
    decide +kernel
  obtain ⟨later, ran, updated⟩ := Option.map_eq_some_iff.mp completes
  refine ⟨later, ran, updated, ?_⟩
  exact loss_free_demotes_nothing init_greenTable_two init_greenAgent_two (by norm_num)
    FlowKey.greenFlow (1, 0, 7) ran (by decide +kernel)

/-- Three packets, all of which arrive: two of plane 1 in one sender window, each in a
receiver window of its own. -/
def splitWindows : List (LoopAction 2) :=
  [.send, .send, .send, .rotate 200000000, .arrive 0, .snapshot, .deliver 0 250000000, .arrive 0,
    .snapshot, .deliver 0 450000000, .arrive 0]

/-- Nothing was lost, and plane 1 is demoted. -/
theorem split_windows_demote :
    ∃ later, greenRun splitWindows = some later ∧
      (closedLoop FlowKey.greenFlow (1, 0, 7) greenLoop).along (Loop.lossFree (1, 0, 7)) greenLoop
        splitWindows ∧
      later.data = [] ∧ (later.row 1).state = .assumedBad := by
  have completes : (greenRun splitWindows).map
      (fun later => (later.data, (later.row 1).state)) = some ([], .assumedBad) := by
    decide +kernel
  obtain ⟨later, ran, ends⟩ := Option.map_eq_some_iff.mp completes
  obtain ⟨arrived, demoted⟩ := Prod.mk.inj ends
  exact ⟨later, ran, by decide +kernel, arrived, demoted⟩

end Srv6Fabric.Mrc

import Srv6Fabric.HostIdentity
import Srv6Fabric.Routes

/-!
# The spines that are chosen

`spine_for` and its copy in `routes.py` agree, and do not look at the direction.  The
reference table comes before the hash on every topology, so what is chosen exists only
where no pair of the table does or where all its spines do.
-/

namespace Srv6Fabric

open Routes

/-! ## The two copies -/

theorem find?_natCast (table : List ((Nat × Nat) × Nat)) (a b : Nat) :
    (table.find? fun entry => ((entry.1.1 : Int), (entry.1.2 : Int)) = ((a : Int), (b : Int))) =
      table.find? fun entry => entry.1 = (a, b) := by
  congr 1
  funext entry
  rw [decide_eq_decide, Prod.mk.injEq, Int.natCast_inj, Int.natCast_inj, Prod.ext_iff]

theorem lookup_eq_find? (table : List ((Nat × Nat) × Nat)) (key : Nat × Nat) :
    table.lookup key = (table.find? fun entry => entry.1 = key).map Prod.snd := by
  induction table with
  | nil => rfl
  | cons entry rest ih =>
      rw [List.lookup_cons, List.find?_cons]
      by_cases same : entry.1 = key
      · rw [decide_eq_true same, beq_iff_eq.mpr same.symm]
        rfl
      · rw [decide_eq_false same, beq_false_of_ne (Ne.symm same)]
        exact ih

/-- `topo.spine_for` and `routes.spine_for` are the same function. -/
theorem spineFor_natCast (topo : Topo) (a b : Nat) :
    topo.spineFor a b = (spineFor topo a b : Int) := by
  unfold Topo.spineFor spineFor
  by_cases before : a < b
  · rw [if_pos before, if_pos (Int.ofNat_lt.mpr before)]
    dsimp only
    rw [find?_natCast, lookup_eq_find?]
    cases Topo.referencePairsSpines.find? fun entry => entry.1 = (a, b) with
    | none => simp
    | some entry => rfl
  · rw [if_neg before, if_neg (mt Int.ofNat_lt.mp before)]
    dsimp only
    rw [find?_natCast, lookup_eq_find?]
    cases Topo.referencePairsSpines.find? fun entry => entry.1 = (b, a) with
    | none => simp
    | some entry => rfl

theorem spineFor_comm (topo : Topo) (a b : Nat) : spineFor topo a b = spineFor topo b a := by
  unfold spineFor
  rcases lt_trichotomy a b with before | rfl | after
  · rw [if_pos before, if_neg before.not_gt]
  · rfl
  · rw [if_neg after.not_gt, if_pos after]

/-! ## Which spines exist -/

/-- The pairs of the table reach past leaf 7, and its spines stop at 7. -/
theorem reference_bounds {a b spine : Nat}
    (held : Topo.referencePairsSpines.lookup (a, b) = some spine) : 8 ≤ b ∧ spine < 8 := by
  have all : ∀ entry ∈ Topo.referencePairsSpines, 8 ≤ entry.1.2 ∧ entry.2 < 8 := by decide
  rw [lookup_eq_find?, Option.map_eq_some_iff] at held
  obtain ⟨entry, found, rfl⟩ := held
  have key : entry.1 = (a, b) := by simpa using List.find?_some found
  have bounds := all entry (List.mem_of_find?_eq_some found)
  rwa [key] at bounds

/-- No pair of the table is a pair of hosts, or every spine of the table exists. -/
def TableFits (topo : Topo) : Prop := topo.numLeaves ≤ 8 ∨ 8 ≤ topo.numSpines

theorem spineFor_lt {topo : Topo} (spines : 0 < topo.numSpines) (fits : TableFits topo) {a b : Nat}
    (isHost : a < topo.numLeaves) (isOther : b < topo.numLeaves) :
    spineFor topo a b < topo.numSpines := by
  have listed {lo hi spine : Nat} (isHost : hi < topo.numLeaves)
      (held : Topo.referencePairsSpines.lookup (lo, hi) = some spine) : spine < topo.numSpines := by
    obtain ⟨past, small⟩ := reference_bounds held
    rcases fits with few | enough
    · omega
    · omega
  unfold spineFor
  by_cases before : a < b
  · rw [if_pos before]
    dsimp only
    split
    · next held => exact listed isOther held
    · exact Nat.mod_lt _ spines
  · rw [if_neg before]
    dsimp only
    split
    · next held => exact listed isHost held
    · exact Nat.mod_lt _ spines

theorem spineFor_seven_eight (topo : Topo) : spineFor topo 7 8 = 7 := rfl

/-- The last pair of the table decides: it is the first within reach, and its spine is the last. -/
theorem tableFits_of_lt {topo : Topo}
    (present : 8 < topo.numLeaves → spineFor topo 7 8 < topo.numSpines) : TableFits topo := by
  rw [spineFor_seven_eight] at present
  unfold TableFits
  omega

/-! ## Senders -/

/-- With a spine that exists nothing stops a sender before its loop. -/
theorem runSenderSetup_ok {topo : Topo} {flow : FlowEndpoint} {srcId dstId : Nat}
    (known : flow.tenant ∈ topo.tenants) (src : flow.srcId = srcId) (dst : flow.dstId = dstId)
    (isSrc : srcId < topo.numLeaves) (isDst : dstId < topo.numLeaves) (distinct : srcId ≠ dstId)
    (isSpine : spineFor topo srcId dstId < topo.numSpines) :
    ∃ setup, runSenderSetup topo flow = .ok setup ∧ setup.spine = spineFor topo srcId dstId := by
  have header (plane : Nat) (isPlane : plane < topo.numPlanes) :
      ∃ pair, planeHeader topo flow (spineFor topo srcId dstId : Nat) plane = .ok pair := by
    rw [planeHeader, Topo.hostUnderlayAddr, src, dst, bind_of_ok (Topo.checkTenant_ok known),
      bind_of_ok (Topo.checkPlane_ok isPlane), bind_of_ok (Topo.checkHost_ok isSrc),
      bind_of_ok (innerAddr_ok known isSrc),
      bind_of_ok (Topo.usidOuterDst_ok known isPlane isSpine isDst)]
    exact ⟨_, rfl⟩
  have headers : ∃ pairs, (List.range topo.numPlanes).mapM
      (planeHeader topo flow (spineFor topo srcId dstId : Nat)) = .ok pairs :=
    exists_mapM_ok fun plane mem => header plane (List.mem_range.mp mem)
  obtain ⟨pairs, mapped⟩ := headers
  have flowKey : ∃ key, flow.toFlowKey topo = .ok key := by
    rw [FlowEndpoint.toFlowKey, src, dst, bind_of_ok (innerAddr_ok known isSrc),
      bind_of_ok (innerAddr_ok known isDst)]
    exact ⟨_, rfl⟩
  obtain ⟨key, keyed⟩ := flowKey
  rw [runSenderSetup, if_neg (by rw [src, dst]; exact mt Int.natCast_inj.mp distinct)]
  dsimp only
  rw [src, dst, spineFor_natCast, bind_of_ok (innerAddr_ok known isSrc),
    bind_of_ok (innerAddr_ok known isDst), bind_of_ok keyed, bind_of_ok mapped]
  exact ⟨_, rfl, rfl⟩

/-! ## Every choice -/

/-- What automatic choice promises: existing spines, whoever asks, in whichever order. -/
structure NamesExistingSpines (topo : Topo) : Prop where
  symmetric : ∀ a b : Nat, a < topo.numLeaves → b < topo.numLeaves → a ≠ b →
    topo.spineFor a b = topo.spineFor b a ∧ spineFor topo a b = spineFor topo b a
  agree : ∀ a b : Nat, a < topo.numLeaves → b < topo.numLeaves → a ≠ b →
    topo.spineFor a b = spineFor topo a b
  inRange : ∀ a b : Nat, a < topo.numLeaves → b < topo.numLeaves → a ≠ b →
    0 ≤ topo.spineFor a b ∧ topo.spineFor a b < topo.numSpines
  pairs : ∀ doc pairs, expandSpec topo doc = .ok pairs →
    ∀ pair ∈ pairs, pair.spine < topo.numSpines
  senders : ∀ (flow : FlowEndpoint) (srcId dstId : Nat), flow.tenant ∈ topo.tenants →
    flow.srcId = srcId → flow.dstId = dstId → srcId < topo.numLeaves → dstId < topo.numLeaves →
    srcId ≠ dstId → ∃ setup, runSenderSetup topo flow = .ok setup ∧
      0 ≤ setup.spine ∧ setup.spine < topo.numSpines
  accepted : ∀ (tenant : String) (plane a b : Nat), tenant ∈ topo.tenants → plane < topo.numPlanes →
    a < topo.numLeaves → b < topo.numLeaves → a ≠ b →
    ∃ dst, topo.usidOuterDst tenant plane (topo.spineFor a b) b = .ok dst

theorem names_existing_spines_iff (topo : Topo) (spines : 0 < topo.numSpines) :
    NamesExistingSpines topo ↔ topo.numLeaves ≤ 8 ∨ 8 ≤ topo.numSpines := by
  constructor
  · intro sound
    refine tableFits_of_lt fun reached => ?_
    have chosen := (sound.inRange 7 8 (by omega) reached (by decide)).2
    have same := sound.agree 7 8 (by omega) reached (by decide)
    rw [same] at chosen
    exact Int.ofNat_lt.mp chosen
  · intro fits
    refine ⟨fun a b _ _ _ => ?_, fun a b _ _ _ => spineFor_natCast topo a b,
      fun a b isHost isOther _ => ?_, fun doc pairs expanded pair mem => ?_,
      fun flow srcId dstId known src dst isSrc isDst distinct => ?_,
      fun tenant plane a b known isPlane isHost isOther _ => ?_⟩
    · rw [spineFor_natCast, spineFor_natCast, spineFor_comm]
      exact ⟨rfl, rfl⟩
    · rw [spineFor_natCast]
      exact ⟨Int.natCast_nonneg _, Int.ofNat_lt.mpr (spineFor_lt spines fits isHost isOther)⟩
    · rcases expandSpec_spine expanded mem with chosen | named
      · rw [chosen]
        exact spineFor_lt spines fits pair.key.a.isLt pair.key.b.isLt
      · exact named
    · have chosen := spineFor_lt spines fits isSrc isDst
      obtain ⟨setup, returned, spine⟩ :=
        runSenderSetup_ok known src dst isSrc isDst distinct chosen
      refine ⟨setup, returned, ?_, ?_⟩
      · rw [spine]
        exact Int.natCast_nonneg _
      · rw [spine]
        exact Int.ofNat_lt.mpr chosen
    · rw [spineFor_natCast,
        Topo.usidOuterDst_ok known isPlane (spineFor_lt spines fits isHost isOther) isOther]
      exact ⟨_, rfl⟩

/-- Four spines and sixteen leaves in each plane. -/
def fourSpines : Topo := ⟨2, 4, 16, ["green", "yellow"], "sonic-docker-2p-4x16"⟩

/-- The pair of hosts 7 and 8. -/
def middlePair : RawPair fourSpines where
  tenant := .green
  src := ⟨7, by decide⟩
  dst := ⟨8, by decide⟩
  distinct := by decide
  spine := .auto
  planes := ⟨sortedSet [⟨0, by decide⟩, ⟨1, by decide⟩], sortedSet_increasing _⟩

/-- Hosts 7 and 8 are sent over spine 7 of four: the route is installed, the sender stops. -/
theorem middle_pair_has_no_spine :
    fourSpines.spineFor 7 8 = 7 ∧
    (expandSpec fourSpines (onePairDoc 7 8)).toOption.map (List.map Pair.spine) = some [7] ∧
    runSenderSetup fourSpines { tenant := "green", srcId := 7, dstId := 8 } =
      .error (.valueError "spine must be 0..3, got 7") ∧
    ¬ NamesExistingSpines fourSpines := by
  have expanded : expandSpec fourSpines (onePairDoc 7 8) =
      .ok ((List.mergeSort [(middlePair.key, SpineSpec.auto, middlePair.planes)] fun entry other =>
        keyLe entry.1 other.1).map toPair) := rfl
  rw [List.mergeSort_singleton] at expanded
  refine ⟨by decide, ?_, rfl, fun sound => ?_⟩
  · rw [expanded]
    rfl
  have chosen := (sound.inRange 7 8 (by decide) (by decide) (by decide)).2
  exact absurd chosen (by decide)

/-- On the default topology every spine of the table exists. -/
theorem names_existing_spines_default :
    0 < Topo.fourPlanes.numSpines ∧
      (NamesExistingSpines Topo.fourPlanes ↔
        Topo.fourPlanes.numLeaves ≤ 8 ∨ 8 ≤ Topo.fourPlanes.numSpines) :=
  ⟨by decide, names_existing_spines_iff Topo.fourPlanes (by decide)⟩

end Srv6Fabric

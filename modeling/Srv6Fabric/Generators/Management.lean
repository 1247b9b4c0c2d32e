import Srv6Fabric.Generators.Wiring

/-!
# Management addresses

`write_topology_yaml` numbers spines, leaves and hosts with three counters that start at
fixed offsets of one /24 and grow with the dimensions of the fabric.  The ranges stay
apart and inside the subnet exactly as long as three products fit the gaps.
-/

namespace Srv6Fabric.Fabric

open Topo

/-- `MGMT_SUBNET_BASE`. -/
def mgmtSubnetBase : String := "172.20.18"

/-- `SPINE_MGMT_START`. -/
def spineMgmtStart : Nat := 10

/-- `LEAF_MGMT_START`. -/
def leafMgmtStart : Nat := 50

/-- `HOST_MGMT_START`. -/
def hostMgmtStart : Nat := 200

def mgmtIpv4 (mgmt : Nat) : String := mgmtSubnetBase ++ "." ++ toString mgmt

/-- The nodes of one loop with their `mgmt-ipv4`, the counter starting at `start`. -/
def numberNodes (start : Nat) (nodes : List String) : List (String × String) :=
  (nodes.zipIdx start).map fun entry => (entry.1, mgmtIpv4 entry.2)

/-- `write_topology_yaml`, the `nodes` section: every node and its `mgmt-ipv4`. -/
def mgmtNodes (topo : Topo) : List (String × String) :=
  let planes := List.range topo.numPlanes
  numberNodes spineMgmtStart
      (planes.flatMap fun plane => (List.range topo.numSpines).map (spineName plane)) ++
    numberNodes leafMgmtStart
      (planes.flatMap fun plane => (List.range topo.numLeaves).map (leafName plane)) ++
    numberNodes hostMgmtStart
      ([Tenant.green, Tenant.yellow].flatMap fun tenant =>
        (List.range topo.numLeaves).map (hostName tenant.name))

/-- A host address of 172.20.18.0/24: neither the network's own nor the broadcast one. -/
def UsableMgmt (text : String) : Prop :=
  ∃ octet, 1 ≤ octet ∧ octet ≤ 254 ∧ IpAddress.ofText text = some (.v4 [172, 20, 18, octet])

/-- Every node has an address of its own, and a usable one. -/
structure DistinctMgmt (topo : Topo) : Prop where
  distinct : ((mgmtNodes topo).map Prod.snd).Nodup
  usable : ∀ node ∈ mgmtNodes topo, UsableMgmt node.2

/-! ## One address -/

theorem parseOctet_toDigits {n : Nat} (small : n ≤ 255) :
    IpAddress.parseOctet (Nat.toDigits 10 n) = some n := by
  have all : ∀ octet : Fin 256, IpAddress.parseOctet (Nat.toDigits 10 octet) = some (octet : Nat) := by
    decide +kernel
  exact all ⟨n, by omega⟩

theorem parseOctet_value {text : List Char} {octet : Nat}
    (read : IpAddress.parseOctet text = some octet) : Nat.ofDigitChars 10 text 0 = octet := by
  unfold IpAddress.parseOctet at read
  dsimp only at read
  split at read
  · exact Option.some.inj read
  · cases read

theorem mgmtIpv4_toList (mgmt : Nat) :
    (mgmtIpv4 mgmt).toList =
      ['.'].intercalate [['1', '7', '2'], ['2', '0'], ['1', '8'], Nat.toDigits 10 mgmt] := by
  rw [mgmtIpv4, mgmtSubnetBase, String.toList_append, String.toList_append]
  change _ ++ (Nat.repr mgmt).toList = _
  rw [Nat.toList_repr]
  simp

theorem parseV4_mgmtIpv4 (mgmt : Nat) :
    IpAddress.parseV4 (mgmtIpv4 mgmt).toList =
      (IpAddress.parseOctet (Nat.toDigits 10 mgmt)).map fun octet => [172, 20, 18, octet] := by
  have apart : ∀ part ∈ [['1', '7', '2'], ['2', '0'], ['1', '8'], Nat.toDigits 10 mgmt],
      '.' ∉ part := by
    simp only [List.forall_mem_cons, List.not_mem_nil, false_implies, implies_true, and_true]
    exact ⟨by decide, by decide, by decide, fun mem =>
      Bool.false_ne_true (Nat.isDigit_of_mem_toDigits (by decide) (by decide) mem)⟩
  rw [mgmtIpv4_toList, IpAddress.parseV4, List.splitOn_intercalate '.' apart (List.cons_ne_nil _ _)]
  have first : IpAddress.parseOctet ['1', '7', '2'] = some 172 := by decide
  have second : IpAddress.parseOctet ['2', '0'] = some 20 := by decide
  have third : IpAddress.parseOctet ['1', '8'] = some 18 := by decide
  simp only [List.length_cons, List.length_nil, Nat.reduceAdd, if_true, List.mapM_cons, first, second,
    third, List.mapM_nil]
  cases IpAddress.parseOctet (Nat.toDigits 10 mgmt) <;> rfl

/-- An address reads as IPv4 only where `IPv4Address` reads it. -/
theorem parseV4_of_ofText {text : String} {octets : List Nat}
    (read : IpAddress.ofText text = some (.v4 octets)) :
    IpAddress.parseV4 text.toList = some octets := by
  unfold IpAddress.ofText at read
  dsimp only at read
  split at read
  · cases read
  · split at read
    · next found =>
      obtain rfl := IpAddress.v4.inj (Option.some.inj read)
      exact found
    · obtain ⟨⟨address, scope⟩, -, rest⟩ := Option.bind_eq_some_iff.mp read
      obtain ⟨hextets, -, printed⟩ := Option.bind_eq_some_iff.mp rest
      cases printed

theorem usableMgmt_iff (mgmt : Nat) : UsableMgmt (mgmtIpv4 mgmt) ↔ 1 ≤ mgmt ∧ mgmt ≤ 254 := by
  constructor
  · rintro ⟨octet, positive, small, read⟩
    have octets := parseV4_of_ofText read
    rw [parseV4_mgmtIpv4] at octets
    obtain ⟨value, last, eq⟩ := Option.map_eq_some_iff.mp octets
    have same := parseOctet_value last
    rw [Nat.ofDigitChars_ten_toDigits] at same
    obtain rfl : value = octet := by simpa using eq
    exact ⟨same ▸ positive, same ▸ small⟩
  · rintro ⟨positive, small⟩
    have slash : '/' ∉ (mgmtIpv4 mgmt).toList := by
      have digits : '/' ∉ Nat.toDigits 10 mgmt := fun mem =>
        Bool.false_ne_true (Nat.isDigit_of_mem_toDigits (by decide) (by decide) mem)
      rw [mgmtIpv4_toList]
      simp [digits]
    refine ⟨mgmt, positive, small, ?_⟩
    unfold IpAddress.ofText
    rw [if_neg slash, parseV4_mgmtIpv4, parseOctet_toDigits (by omega)]
    rfl

/-! ## The three ranges -/

theorem numberNodes_snd (start : Nat) (nodes : List String) :
    (numberNodes start nodes).map Prod.snd = (List.range' start nodes.length).map mgmtIpv4 := by
  rw [← List.zipIdx_map_snd, numberNodes, List.map_map, List.map_map]
  rfl

/-- How many nodes each loop numbers. -/
theorem mgmtNodes_snd (topo : Topo) :
    (mgmtNodes topo).map Prod.snd =
      (List.range' spineMgmtStart (topo.numPlanes * topo.numSpines) ++
        List.range' leafMgmtStart (topo.numPlanes * topo.numLeaves) ++
        List.range' hostMgmtStart (2 * topo.numLeaves)).map mgmtIpv4 := by
  simp only [mgmtNodes, List.map_append, numberNodes_snd, List.length_flatMap, List.length_map,
    List.length_range, List.map_const', List.sum_replicate_nat, List.map_cons, List.map_nil,
    List.sum_cons, List.sum_nil, Nat.add_zero, Nat.two_mul]

theorem mgmtIpv4_injective : Function.Injective mgmtIpv4 := fun _ _ same => numbered_injective same

theorem mem_mgmtNodes_snd {topo : Topo} {text : String} :
    text ∈ (mgmtNodes topo).map Prod.snd ↔ ∃ mgmt,
      ((10 ≤ mgmt ∧ mgmt < 10 + topo.numPlanes * topo.numSpines) ∨
        (50 ≤ mgmt ∧ mgmt < 50 + topo.numPlanes * topo.numLeaves) ∨
        (200 ≤ mgmt ∧ mgmt < 200 + 2 * topo.numLeaves)) ∧ mgmtIpv4 mgmt = text := by
  simp only [mgmtNodes_snd, List.mem_map, List.mem_append, List.mem_range'_1, or_assoc,
    spineMgmtStart, leafMgmtStart, hostMgmtStart]

/-- Three nonempty ranges keep apart when none runs into the start of the next. -/
theorem nodup_ranges_iff {spines leaves hosts : Nat} (someLeaf : 1 ≤ leaves) (someHost : 1 ≤ hosts) :
    (List.range' spineMgmtStart spines ++ List.range' leafMgmtStart leaves ++
      List.range' hostMgmtStart hosts).Nodup ↔ spines ≤ 40 ∧ leaves ≤ 150 := by
  have nodup (start size : Nat) : (List.range' start size).Nodup := List.nodup_range'
  rw [List.nodup_append, List.nodup_append]
  constructor
  · rintro ⟨⟨-, -, first⟩, -, second⟩
    constructor
    · by_contra long
      exact first 50 (List.mem_range'_1.mpr (by simp only [spineMgmtStart]; omega))
        50 (List.mem_range'_1.mpr (by simp only [leafMgmtStart]; omega)) rfl
    · by_contra long
      exact second 200
        (List.mem_append_right _ (List.mem_range'_1.mpr (by simp only [leafMgmtStart]; omega)))
        200 (List.mem_range'_1.mpr (by simp only [hostMgmtStart]; omega)) rfl
  · rintro ⟨spinesFit, leavesFit⟩
    refine ⟨⟨nodup _ _, nodup _ _, ?_⟩, nodup _ _, ?_⟩
    · intro low lowMem high highMem
      simp only [List.mem_range'_1, spineMgmtStart, leafMgmtStart] at lowMem highMem
      omega
    · intro low lowMem high highMem
      simp only [List.mem_append, List.mem_range'_1, spineMgmtStart, leafMgmtStart, hostMgmtStart]
        at lowMem highMem
      omega

theorem mgmtNodes_nodup_iff {topo : Topo} (planes : 1 ≤ topo.numPlanes)
    (leaves : 1 ≤ topo.numLeaves) :
    ((mgmtNodes topo).map Prod.snd).Nodup ↔
      topo.numPlanes * topo.numSpines ≤ 40 ∧ topo.numPlanes * topo.numLeaves ≤ 150 := by
  have someLeaf : 1 ≤ topo.numPlanes * topo.numLeaves := Nat.mul_pos planes leaves
  rw [mgmtNodes_snd, List.nodup_map_iff mgmtIpv4_injective]
  exact nodup_ranges_iff someLeaf (by omega)

/-- Management addresses are distinct and usable exactly when the spines fit between .10 and
the leaves, the leaves between .50 and the hosts, and the hosts between .200 and .254. -/
theorem distinctMgmt_iff (topo : Topo) (planes : 1 ≤ topo.numPlanes)
    (leaves : 1 ≤ topo.numLeaves) :
    DistinctMgmt topo ↔ topo.numPlanes * topo.numSpines ≤ 40 ∧
      topo.numPlanes * topo.numLeaves ≤ 150 ∧ topo.numLeaves ≤ 27 := by
  constructor
  · rintro ⟨distinct, usable⟩
    obtain ⟨spinesFit, leavesFit⟩ := (mgmtNodes_nodup_iff planes leaves).mp distinct
    refine ⟨spinesFit, leavesFit, ?_⟩
    have lastMem : mgmtIpv4 (199 + 2 * topo.numLeaves) ∈ (mgmtNodes topo).map Prod.snd :=
      mem_mgmtNodes_snd.mpr ⟨_, by omega, rfl⟩
    obtain ⟨last, inNodes, eq⟩ := List.mem_map.mp lastMem
    have inside := (usableMgmt_iff _).mp (eq ▸ usable last inNodes)
    omega
  · rintro ⟨spinesFit, leavesFit, hostsFit⟩
    refine ⟨(mgmtNodes_nodup_iff planes leaves).mpr ⟨spinesFit, leavesFit⟩, fun node mem => ?_⟩
    obtain ⟨mgmt, range, eq⟩ := mem_mgmtNodes_snd.mp (List.mem_map_of_mem mem)
    rw [← eq, usableMgmt_iff]
    omega

/-- The shipped topology of four planes, eight spines and sixteen leaves fits. -/
theorem distinctMgmt_fourPlanes :
    DistinctMgmt fourPlanes ↔ 4 * 8 ≤ 40 ∧ 4 * 16 ≤ 150 ∧ 16 ≤ 27 :=
  distinctMgmt_iff fourPlanes (by decide) (by decide)

/-- Eight planes of eight spines: the spines run into the leaves, and the spine p5-spine00
and the leaf p0-leaf00 get one address. -/
theorem mgmt_collides :
    let topo := { fourPlanes with numPlanes := 8 }
    ("p5-spine00", "172.20.18.50") ∈ mgmtNodes topo ∧ ("p0-leaf00", "172.20.18.50") ∈ mgmtNodes topo ∧
      ¬ DistinctMgmt topo := by
  intro topo
  refine ⟨by decide +kernel, by decide +kernel, fun mgmt => ?_⟩
  have spines := ((mgmtNodes_nodup_iff (by decide) (by decide)).mp mgmt.distinct).1
  exact absurd spines (by decide)

end Srv6Fabric.Fabric

import Srv6Fabric.Generators.AddressPlan

/-!
# Well-formed and distinct addresses

Most texts of the address plan put a fixed stem before a hexadecimal index, so a group has
its four digits only while an index has one.  Up to sixteen planes, spines and leaves every
text is read and everything that must differ does; with a seventeenth some text is refused.
-/

namespace Srv6Fabric.Fabric

open Topo IpAddress
open Routes (tenantNumber outerGroups)

/-! ## What is written -/

/-- An IPv6 text of a generated file, with or without a length. -/
inductive Text where
  | address (text : String)
  | pfx (text : String)

namespace Text

def Valid : Text → Prop
  | address text => ∃ groups, addrGroups text = some groups
  | pfx text => ∃ groups length, prefixGroups text = some (groups, length) ∧ length ≤ 128

end Text

def SidLine.texts (line : SidLine) : List Text :=
  match line.behavior with
  | .uA _ nexthop => [.pfx line.sid, .address nexthop]
  | _ => [.pfx line.sid]

def ExecLine.texts : ExecLine → List Text
  | addrAdd addr _ => [.pfx addr]
  | routeAdd dst gateway _ => [.pfx dst, .address gateway]
  | endDT6 sid _ => [.pfx sid]

/-- The IPv6 addresses of an interface table; the one IPv4 address is the loopback's. -/
def tableTexts (loopbackV4 : String) (table : IfaceTable) : List Text :=
  table.keys.filterMap fun key => key.addr.bind fun addr =>
    if addr = loopbackV4 ++ "/32" then none else some (.pfx addr)

/-- A line `ipv6 route <locator> <nexthop>`. -/
abbrev StaticRoute := String × String

def StaticRoute.texts (route : StaticRoute) : List Text := [.pfx route.1, .address route.2]

/-- `write_leaf_frr`, the static routes. -/
def leafStaticRoutes (topo : Topo) (plane leaf : Nat) : List StaticRoute :=
  (List.range topo.numSpines).map (fun spine =>
      (spineLocator plane spine, p2pPrefix topo spine leaf ++ "::0")) ++
    ((List.range topo.numLeaves).filter (· ≠ leaf)).flatMap fun other =>
      (List.range topo.numSpines).map fun spine =>
        (leafLocator plane other, p2pPrefix topo spine leaf ++ "::0")

/-- `write_spine_frr`, the static routes. -/
def spineStaticRoutes (topo : Topo) (plane spine : Nat) : List StaticRoute :=
  (List.range topo.numLeaves).map fun leaf =>
    (leafLocator plane leaf, p2pPrefix topo spine leaf ++ "::1")

/-- `SRV6_LOCATOR_BLOCK`, the encapsulation source and the locator. -/
def locatorBlock (lo6 locator : String) : List Text := [.address lo6, .pfx locator]

namespace Node

/-- Every IPv6 text in the files of a node. -/
def texts (topo : Topo) : Node → List Text
  | leaf plane index =>
      tableTexts (leafLoopbackV4 plane index) (writeLeafConfigDb topo plane index) ++
        (writeLeafFrr topo plane index).flatMap SidLine.texts ++
        (leafStaticRoutes topo plane index).flatMap StaticRoute.texts ++
        locatorBlock (leafLoopback plane index) (leafLocator plane index)
  | spine plane index =>
      tableTexts (spineLoopbackV4 plane index) (writeSpineConfigDb topo plane index) ++
        (writeSpineFrr topo plane index).flatMap SidLine.texts ++
        (spineStaticRoutes topo plane index).flatMap StaticRoute.texts ++
        locatorBlock (spineLoopback plane index) (spineLocator plane index)
  | host tenant index => (hostExec topo tenant index).flatMap ExecLine.texts

/-- The locator and the loopback of a switch. -/
def locator? : Node → Option (String × String)
  | leaf plane index => some (leafLocator plane index, leafLoopback plane index)
  | spine plane index => some (spineLocator plane index, spineLoopback plane index)
  | host .. => none

end Node

/-- The addresses of a fabric link's ends, the spine's first. -/
def linkEnds (topo : Topo) (spine leaf : Nat) : List String :=
  [p2pPrefix topo spine leaf ++ "::0/127", p2pPrefix topo spine leaf ++ "::1/127"]

/-- One address is in the other's /127. -/
def SameNetwork (text other : String) : Prop :=
  ∃ net otherNet, prefixGroups text = some (net, 127) ∧ prefixGroups other = some (otherNet, 127) ∧
    inPrefix (net, 127) otherNet

/-- The arguments of `usid_outer_dst` that are in range. -/
structure OuterArgs (topo : Topo) where
  tenant : String
  plane : Nat
  spine : Nat
  leaf : Nat
  known : tenant ∈ topo.tenants
  isPlane : plane < topo.numPlanes
  isSpine : spine < topo.numSpines
  isLeaf : leaf < topo.numLeaves

def OuterArgs.dst {topo : Topo} (args : OuterArgs topo) : Except PyError String :=
  topo.usidOuterDst args.tenant args.plane args.spine args.leaf

/-- Well-formed and injective addresses. -/
structure SoundAddressing (topo : Topo) : Prop where
  /-- Every text of a node's files is syntactically valid. -/
  written : ∀ node ∈ nodes topo, ∀ text ∈ node.texts topo, text.Valid
  /-- So is every outer destination. -/
  outer : ∀ args : OuterArgs topo, ∃ text, args.dst = .ok text ∧ (Text.address text).Valid
  locators : ∀ node ∈ nodes topo, ∀ other ∈ nodes topo, ∀ own ∈ node.locator?,
    ∀ its ∈ other.locator?, prefixGroups own.1 = prefixGroups its.1 → node = other
  loopbacks : ∀ node ∈ nodes topo, ∀ other ∈ nodes topo, ∀ own ∈ node.locator?,
    ∀ its ∈ other.locator?, addrGroups own.2 = addrGroups its.2 → node = other
  sids : ∀ node ∈ nodes topo, ((node.sids topo).map fun sid => prefixGroups sid.text).Nodup
  linkNets : ∀ spine < topo.numSpines, ∀ leaf < topo.numLeaves, ∀ otherSpine < topo.numSpines,
    ∀ otherLeaf < topo.numLeaves, ∀ text ∈ linkEnds topo spine leaf,
    ∀ other ∈ linkEnds topo otherSpine otherLeaf, SameNetwork text other →
      spine = otherSpine ∧ leaf = otherLeaf
  outerDsts : ∀ args other : OuterArgs topo, ∀ text otherText, args.dst = .ok text →
    other.dst = .ok otherText → addrGroups text = addrGroups otherText → args = other

/-- Every index is one digit. -/
structure OneDigit (topo : Topo) : Prop where
  planes : topo.numPlanes ≤ 16
  spines : topo.numSpines ≤ 16
  leaves : topo.numLeaves ≤ 16

/-- All tenants but the green one get the yellow uSID list, so there may be one of them. -/
def OneOtherTenant (topo : Topo) : Prop :=
  ∀ tenant ∈ topo.tenants, ∀ other ∈ topo.tenants, tenant ≠ "green" → other ≠ "green" →
    tenant = other

/-! ## Texts of one node -/

theorem parseHextet_zero : parseHextet ['0'] = some 0 := by decide

theorem parseHextet_one : parseHextet ['1'] = some 1 := by decide

theorem parseHextet_two : parseHextet ['2'] = some 2 := by decide

/-- An address of a plane's block, after its function's digits. -/
theorem blockText_spelled {plane function suffix : Nat} (isPlane : plane < 16) {digits last : List Char}
    (read : parseHextet digits = some function) (suffixRead : parseHextet last = some suffix) :
    Spelled [['f', 'c', '0', '0'], ['0', '0', '0'] ++ Nat.toDigits 16 plane, digits] [last]
      [0xfc00, plane, function] [suffix] := by
  refine ⟨List.cons_ne_nil _ _, by simp, ?_, ?_⟩
  · rw [List.mapM_cons, List.mapM_cons, List.mapM_cons,
      parseHextet_snoc _ 0 (by decide) (by decide) isPlane, read,
      show parseHextet ['f', 'c', '0', '0'] = some 0xfc00 from by decide]
    simp
  · rw [List.mapM_cons, suffixRead]
    simp

/-- The loopback of the switch with a number, as an address and as a prefix. -/
theorem loopback_groups {plane number base : Nat} (isPlane : plane < 16) (isNumber : number < 16)
    {stem : String} {digit : Char} (spelled : stem.toList = [':', digit])
    (read : parseHextet [digit] = some base) :
    addrGroups (planeBlockPrefix plane ++ stem ++ hexDigits number ++ "::1") =
      some [0xfc00, plane, 16 * base + number, 0, 0, 0, 0, 1] ∧
    prefixGroups (planeBlockPrefix plane ++ stem ++ hexDigits number ++ "::1" ++ "/128") =
      some ([0xfc00, plane, 16 * base + number, 0, 0, 0, 0, 1], 128) := by
  have function := parseHextet_snoc [digit] base read (by simp) isNumber
  have parts := blockText_spelled isPlane function parseHextet_one
  have shape : planeBlockPrefix plane ++ stem ++ hexDigits number ++ "::1" =
      String.ofList (compressedText [['f', 'c', '0', '0'], ['0', '0', '0'] ++ Nat.toDigits 16 plane,
        [digit] ++ Nat.toDigits 16 number] [['1']]) := by
    rw [← String.toList_inj, String.toList_append, String.toList_append, String.toList_append,
      planeBlockPrefix_toList, spelled, hexDigits, String.toList_ofList, String.toList_ofList]
    simp [compressedText]
  have withLength : planeBlockPrefix plane ++ stem ++ hexDigits number ++ "::1" ++ "/128" =
      String.ofList (compressedText [['f', 'c', '0', '0'], ['0', '0', '0'] ++ Nat.toDigits 16 plane,
        [digit] ++ Nat.toDigits 16 number] [['1']] ++ ['/', '1', '2', '8']) := by
    rw [shape, String.ofList_append]
  constructor
  · rw [addrGroups, shape, parts.ofText_eq]
    rfl
  · rw [prefixGroups, withLength, parts.readPrefix_eq (List.cons_ne_nil _ _) (by decide)]
    rfl

theorem prefixGroups_planeAggregate {plane : Nat} (isPlane : plane < 16) :
    prefixGroups (planeAggregate plane) = some ([0xfc00, plane, 0, 0, 0, 0, 0, 0], 32) := by
  have parts : Spelled [['f', 'c', '0', '0'], ['0', '0', '0'] ++ Nat.toDigits 16 plane] []
      [0xfc00, plane] [] := by
    refine ⟨List.cons_ne_nil _ _, by simp, ?_, rfl⟩
    rw [List.mapM_cons, List.mapM_cons, parseHextet_snoc _ 0 (by decide) (by decide) isPlane,
      show parseHextet ['f', 'c', '0', '0'] = some 0xfc00 from by decide]
    simp
  have shape : planeAggregate plane = String.ofList (compressedText [['f', 'c', '0', '0'],
      ['0', '0', '0'] ++ Nat.toDigits 16 plane] [] ++ ['/', '3', '2']) := by
    rw [planeAggregate, ← String.toList_inj, String.toList_append, planeBlockPrefix_toList,
      String.toList_ofList]
    simp [compressedText]
  rw [prefixGroups, shape, parts.readPrefix_eq (List.cons_ne_nil _ _) (by decide)]
  rfl

theorem prefixGroups_tenantPrefix (tenant : Tenant) :
    prefixGroups (tenantPrefix tenant) =
      some ([0x2001, 0xdb8, tenantNumber tenant, 0, 0, 0, 0, 0], 48) := by
  cases tenant with
  | green => decide
  | yellow => decide

theorem mem_tableTexts {loopbackV4 : String} {table : IfaceTable} {text : Text}
    (mem : text ∈ tableTexts loopbackV4 table) :
    ∃ port addr, IfaceKey.mk port (some addr) ∈ table.keys ∧ addr ≠ loopbackV4 ++ "/32" ∧
      text = .pfx addr := by
  obtain ⟨⟨port, addr?⟩, isKey, read⟩ := List.mem_filterMap.mp mem
  obtain ⟨addr, isAddr, written⟩ := Option.bind_eq_some_iff.mp read
  obtain rfl : addr? = some addr := isAddr
  split_ifs at written with v4
  exact ⟨port, addr, isKey, v4, (Option.some.inj written).symm⟩

theorem mem_spineKeys {topo : Topo} {plane spine : Nat} {port addr : String} :
    IfaceKey.mk port (some addr) ∈ (writeSpineConfigDb topo plane spine).keys ↔
      port = "Loopback0" ∧ (addr = spineLoopbackV4 plane spine ++ "/32" ∨
        addr = spineLoopback plane spine ++ "/128") ∨
      (∃ leaf < topo.numLeaves, port = spineDownlinkEth leaf ∧
        addr = p2pPrefix topo spine leaf ++ "::0/127") := by
  rw [writeSpineConfigDb, mem_assignAll]
  simp [loopbackAssignments, downlinkAssignments]
  rw [and_or_left, or_assoc]

section Valid

variable {topo : Topo} (digits : OneDigit topo)

include digits

theorem OneDigit.plane_lt {plane : Nat} (isPlane : plane < topo.numPlanes) : plane < 16 :=
  lt_of_lt_of_le isPlane digits.planes

theorem OneDigit.spine_lt {spine : Nat} (isSpine : spine < topo.numSpines) : spine < 16 :=
  lt_of_lt_of_le isSpine digits.spines

theorem OneDigit.leaf_lt {leaf : Nat} (isLeaf : leaf < topo.numLeaves) : leaf < 16 :=
  lt_of_lt_of_le isLeaf digits.leaves

theorem OneDigit.linkIdx_lt {spine leaf : Nat} (isSpine : spine < topo.numSpines)
    (isLeaf : leaf < topo.numLeaves) : linkIdx topo spine leaf < 65536 := by
  have spine16 := digits.spine_lt isSpine
  have scaled : spine * topo.numLeaves ≤ 15 * 16 := Nat.mul_le_mul (by omega) digits.leaves
  have leaf16 := digits.leaf_lt isLeaf
  unfold linkIdx
  omega

theorem leafTable_valid {plane leaf : Nat} (isPlane : plane < topo.numPlanes)
    (isLeaf : leaf < topo.numLeaves) {text : Text}
    (mem : text ∈ tableTexts (leafLoopbackV4 plane leaf) (writeLeafConfigDb topo plane leaf)) :
    text.Valid := by
  have small : leaf < 65536 := (digits.leaf_lt isLeaf).trans (by decide)
  obtain ⟨port, addr, isKey, notV4, rfl⟩ := mem_tableTexts mem
  rcases mem_leafKeys.mp isKey with ⟨_, v4 | rfl⟩ | ⟨spine, isSpine, _, rfl⟩ | ⟨_, rfl⟩ | ⟨_, rfl⟩
  · exact absurd v4 notV4
  · exact ⟨_, _, (loopback_groups (digits.plane_lt isPlane) (digits.leaf_lt isLeaf) rfl
      parseHextet_two).2, le_rfl⟩
  · exact ⟨_, _, prefixGroups_p2p (digits.linkIdx_lt isSpine isLeaf) ['1'] parseHextet_one rfl,
      by decide⟩
  · exact ⟨_, _, prefixGroups_anycast .green small ['1'] ['6', '4'] parseHextet_one
      (List.cons_ne_nil _ _) (by decide) (by decide), by decide⟩
  · exact ⟨_, _, prefixGroups_anycast .yellow small ['1'] ['6', '4'] parseHextet_one
      (List.cons_ne_nil _ _) (by decide) (by decide), by decide⟩

theorem spineTable_valid {plane spine : Nat} (isPlane : plane < topo.numPlanes)
    (isSpine : spine < topo.numSpines) {text : Text}
    (mem : text ∈ tableTexts (spineLoopbackV4 plane spine) (writeSpineConfigDb topo plane spine)) :
    text.Valid := by
  obtain ⟨port, addr, isKey, notV4, rfl⟩ := mem_tableTexts mem
  rcases mem_spineKeys.mp isKey with ⟨_, v4 | rfl⟩ | ⟨leaf, isLeaf, _, rfl⟩
  · exact absurd v4 notV4
  · exact ⟨_, _, (loopback_groups (digits.plane_lt isPlane) (digits.spine_lt isSpine) rfl
      parseHextet_one).2, le_rfl⟩
  · exact ⟨_, _, prefixGroups_p2p (digits.linkIdx_lt isSpine isLeaf) ['0'] parseHextet_zero rfl,
      by decide⟩

theorem leafFrr_valid {plane leaf : Nat} (isPlane : plane < topo.numPlanes)
    (isLeaf : leaf < topo.numLeaves) {line : SidLine} (isLine : line ∈ writeLeafFrr topo plane leaf)
    {text : Text} (mem : text ∈ line.texts) : text.Valid := by
  have plane16 := digits.plane_lt isPlane
  have leaf16 := digits.leaf_lt isLeaf
  simp only [writeLeafFrr, List.mem_append, List.mem_map, List.mem_range, List.mem_cons,
    List.not_mem_nil, or_false] at isLine
  rcases isLine with (rfl | ⟨spine, isSpine, rfl⟩) | rfl | rfl
  · obtain rfl := List.mem_singleton.mp mem
    exact ⟨_, _, prefixGroups_leafLocator plane16 leaf16, by decide⟩
  · rcases List.mem_cons.mp mem with rfl | nexthop
    · exact ⟨_, _, prefixGroups_leafUaSid plane16 (digits.spine_lt isSpine), by decide⟩
    · obtain rfl := List.mem_singleton.mp nexthop
      exact ⟨_, addrGroups_p2p (digits.linkIdx_lt isSpine isLeaf) ['0'] parseHextet_zero rfl⟩
  · obtain rfl := List.mem_singleton.mp mem
    exact ⟨_, _, prefixGroups_greenUdtSid plane16, by decide⟩
  · rcases List.mem_cons.mp mem with rfl | nexthop
    · exact ⟨_, _, prefixGroups_leafHostUaSid plane16, by decide⟩
    · obtain rfl := List.mem_singleton.mp nexthop
      exact ⟨_, addrGroups_anycast .yellow (leaf16.trans (by decide))⟩

theorem spineFrr_valid {plane spine : Nat} (isPlane : plane < topo.numPlanes)
    (isSpine : spine < topo.numSpines) {line : SidLine} (isLine : line ∈ writeSpineFrr topo plane spine)
    {text : Text} (mem : text ∈ line.texts) : text.Valid := by
  have plane16 := digits.plane_lt isPlane
  simp only [writeSpineFrr, List.mem_append, List.mem_map, List.mem_range, List.mem_singleton] at isLine
  rcases isLine with rfl | ⟨leaf, isLeaf, rfl⟩
  · obtain rfl := List.mem_singleton.mp mem
    exact ⟨_, _, prefixGroups_spineLocator plane16 (digits.spine_lt isSpine), by decide⟩
  · rcases List.mem_cons.mp mem with rfl | nexthop
    · exact ⟨_, _, prefixGroups_spineUaSid plane16 (digits.leaf_lt isLeaf), by decide⟩
    · obtain rfl := List.mem_singleton.mp nexthop
      exact ⟨_, addrGroups_p2p (digits.linkIdx_lt isSpine isLeaf) ['1'] parseHextet_one rfl⟩

theorem leafStaticRoutes_valid {plane leaf : Nat} (isPlane : plane < topo.numPlanes)
    (isLeaf : leaf < topo.numLeaves) {route : StaticRoute}
    (isRoute : route ∈ leafStaticRoutes topo plane leaf) {text : Text} (mem : text ∈ route.texts) :
    text.Valid := by
  have plane16 := digits.plane_lt isPlane
  have nexthop {spine : Nat} (isSpine : spine < topo.numSpines) :
      (Text.address (p2pPrefix topo spine leaf ++ "::0")).Valid :=
    ⟨_, addrGroups_p2p (digits.linkIdx_lt isSpine isLeaf) ['0'] parseHextet_zero rfl⟩
  simp only [leafStaticRoutes, List.mem_append, List.mem_map, List.mem_flatMap, List.mem_filter,
    List.mem_range] at isRoute
  rcases isRoute with ⟨spine, isSpine, rfl⟩ | ⟨other, ⟨isOther, _⟩, spine, isSpine, rfl⟩
  · rcases List.mem_cons.mp mem with rfl | via
    · exact ⟨_, _, prefixGroups_spineLocator plane16 (digits.spine_lt isSpine), by decide⟩
    · obtain rfl := List.mem_singleton.mp via
      exact nexthop isSpine
  · rcases List.mem_cons.mp mem with rfl | via
    · exact ⟨_, _, prefixGroups_leafLocator plane16 (digits.leaf_lt isOther), by decide⟩
    · obtain rfl := List.mem_singleton.mp via
      exact nexthop isSpine

theorem spineStaticRoutes_valid {plane spine : Nat} (isPlane : plane < topo.numPlanes)
    (isSpine : spine < topo.numSpines) {route : StaticRoute}
    (isRoute : route ∈ spineStaticRoutes topo plane spine) {text : Text} (mem : text ∈ route.texts) :
    text.Valid := by
  obtain ⟨leaf, isLeaf, rfl⟩ := List.mem_map.mp isRoute
  replace isLeaf := List.mem_range.mp isLeaf
  rcases List.mem_cons.mp mem with rfl | via
  · exact ⟨_, _, prefixGroups_leafLocator (digits.plane_lt isPlane) (digits.leaf_lt isLeaf), by decide⟩
  · obtain rfl := List.mem_singleton.mp via
    exact ⟨_, addrGroups_p2p (digits.linkIdx_lt isSpine isLeaf) ['1'] parseHextet_one rfl⟩

theorem hostExec_valid {tenant : Tenant} {host : Nat} (isHost : host < topo.numLeaves)
    {line : ExecLine} (isLine : line ∈ hostExec topo tenant host) {text : Text}
    (mem : text ∈ line.texts) : text.Valid := by
  have small : host < 65536 := (digits.leaf_lt isHost).trans (by decide)
  have gateway : (Text.address (hostAnycastPrefix tenant host ++ "::1")).Valid :=
    ⟨_, addrGroups_gateway tenant small⟩
  simp only [hostExec, List.mem_append, List.mem_map, List.mem_range, List.mem_singleton] at isLine
  rcases isLine with (((⟨plane, isPlane, rfl⟩ | loopback) | ⟨plane, isPlane, rfl⟩) | rfl) | localSid
  · obtain rfl := List.mem_singleton.mp mem
    exact ⟨_, _, prefixGroups_hostAddr tenant small, by decide⟩
  · split at loopback
    · obtain rfl := List.mem_singleton.mp loopback
      obtain rfl := List.mem_singleton.mp mem
      rw [hostAnycastAddr_eq, String.append_assoc]
      exact ⟨_, _, prefixGroups_anycast tenant small ['2'] ['1', '2', '8'] parseHextet_two
        (List.cons_ne_nil _ _) (by decide) (by decide), by decide⟩
    · cases loopback
  · rcases List.mem_cons.mp mem with rfl | via
    · exact ⟨_, _, prefixGroups_planeAggregate (digits.plane_lt isPlane), by decide⟩
    · obtain rfl := List.mem_singleton.mp via
      exact gateway
  · rcases List.mem_cons.mp mem with rfl | via
    · exact ⟨_, _, prefixGroups_tenantPrefix tenant, by decide⟩
    · obtain rfl := List.mem_singleton.mp via
      exact gateway
  · split at localSid
    · obtain ⟨plane, isPlane, rfl⟩ := List.mem_map.mp localSid
      obtain rfl := List.mem_singleton.mp mem
      exact ⟨_, _, prefixGroups_yellowUdtSid (digits.plane_lt (List.mem_range.mp isPlane)), by decide⟩
    · cases localSid

/-- Every text of every node is read. -/
theorem written_valid {node : Node} (isNode : node ∈ nodes topo) {text : Text}
    (mem : text ∈ node.texts topo) : text.Valid := by
  have bounds := mem_nodes.mp isNode
  cases node with
  | leaf plane leaf =>
      obtain ⟨isPlane, isLeaf⟩ := bounds
      have plane16 := digits.plane_lt isPlane
      have leaf16 := digits.leaf_lt isLeaf
      simp only [Node.texts, List.mem_append, List.mem_flatMap, locatorBlock, List.mem_cons,
        List.not_mem_nil, or_false] at mem
      rcases mem with ((inTable | ⟨line, isLine, inLine⟩) | ⟨route, isRoute, inRoute⟩) | rfl | rfl
      · exact leafTable_valid digits isPlane isLeaf inTable
      · exact leafFrr_valid digits isPlane isLeaf isLine inLine
      · exact leafStaticRoutes_valid digits isPlane isLeaf isRoute inRoute
      · exact ⟨_, (loopback_groups plane16 leaf16 rfl parseHextet_two).1⟩
      · exact ⟨_, _, prefixGroups_leafLocator plane16 leaf16, by decide⟩
  | spine plane spine =>
      obtain ⟨isPlane, isSpine⟩ := bounds
      have plane16 := digits.plane_lt isPlane
      have spine16 := digits.spine_lt isSpine
      simp only [Node.texts, List.mem_append, List.mem_flatMap, locatorBlock, List.mem_cons,
        List.not_mem_nil, or_false] at mem
      rcases mem with ((inTable | ⟨line, isLine, inLine⟩) | ⟨route, isRoute, inRoute⟩) | rfl | rfl
      · exact spineTable_valid digits isPlane isSpine inTable
      · exact spineFrr_valid digits isPlane isSpine isLine inLine
      · exact spineStaticRoutes_valid digits isPlane isSpine isRoute inRoute
      · exact ⟨_, (loopback_groups plane16 spine16 rfl parseHextet_one).1⟩
      · exact ⟨_, _, prefixGroups_spineLocator plane16 spine16, by decide⟩
  | host tenant host =>
      obtain ⟨line, isLine, inLine⟩ := List.mem_flatMap.mp mem
      exact hostExec_valid digits bounds isLine inLine

end Valid

/-! ## Different nodes -/

/-- The plane of a switch and the function of its locator. -/
def Node.place? : Node → Option (Nat × Nat)
  | leaf plane index => some (plane, 0x20 + index)
  | spine plane index => some (plane, 0x10 + index)
  | host .. => none

section Distinct

variable {topo : Topo} (digits : OneDigit topo)

include digits

theorem locator_groups {node : Node} (isNode : node ∈ nodes topo) {own : String × String}
    (isOwn : own ∈ node.locator?) : ∃ plane function, node.place? = some (plane, function) ∧
      prefixGroups own.1 = some ([0xfc00, plane, function, 0, 0, 0, 0, 0], 48) ∧
      addrGroups own.2 = some [0xfc00, plane, function, 0, 0, 0, 0, 1] := by
  have bounds := mem_nodes.mp isNode
  cases node with
  | leaf plane leaf =>
      obtain ⟨isPlane, isLeaf⟩ := bounds
      have plane16 := digits.plane_lt isPlane
      have leaf16 := digits.leaf_lt isLeaf
      obtain rfl := Option.some.inj isOwn
      exact ⟨_, _, rfl, prefixGroups_leafLocator plane16 leaf16,
        (loopback_groups plane16 leaf16 rfl parseHextet_two).1⟩
  | spine plane spine =>
      obtain ⟨isPlane, isSpine⟩ := bounds
      have plane16 := digits.plane_lt isPlane
      have spine16 := digits.spine_lt isSpine
      obtain rfl := Option.some.inj isOwn
      exact ⟨_, _, rfl, prefixGroups_spineLocator plane16 spine16,
        (loopback_groups plane16 spine16 rfl parseHextet_one).1⟩
  | host tenant host => cases isOwn

/-- Spines count from 0x10 and leaves from 0x20, so sixteen spines end before the leaves. -/
theorem place_injective {node other : Node} (isNode : node ∈ nodes topo) (isOther : other ∈ nodes topo)
    {place : Nat × Nat} (own : node.place? = some place) (its : other.place? = some place) :
    node = other := by
  have bounds := mem_nodes.mp isNode
  have otherBounds := mem_nodes.mp isOther
  have same := own.trans its.symm
  cases node with
  | leaf plane leaf =>
      cases other with
      | leaf => simpa [Node.place?] using same
      | spine otherPlane spine =>
          have spine16 := digits.spine_lt otherBounds.2
          have functions : 0x20 + leaf = 0x10 + spine := (Prod.mk.inj (Option.some.inj same)).2
          omega
      | host => cases its
  | spine plane spine =>
      cases other with
      | leaf otherPlane leaf =>
          have spine16 := digits.spine_lt bounds.2
          have functions : 0x10 + spine = 0x20 + leaf := (Prod.mk.inj (Option.some.inj same)).2
          omega
      | spine => simpa [Node.place?] using same
      | host => cases its
  | host => cases own

theorem locators_distinct {node other : Node} (isNode : node ∈ nodes topo) (isOther : other ∈ nodes topo)
    {own its : String × String} (isOwn : own ∈ node.locator?) (isIts : its ∈ other.locator?)
    (same : prefixGroups own.1 = prefixGroups its.1 ∨ addrGroups own.2 = addrGroups its.2) :
    node = other := by
  obtain ⟨plane, function, place, locator, loopback⟩ := locator_groups digits isNode isOwn
  obtain ⟨otherPlane, otherFunction, otherPlace, otherLocator, otherLoopback⟩ :=
    locator_groups digits isOther isIts
  have places : plane = otherPlane ∧ function = otherFunction := by
    rcases same with same | same
    · rw [locator, otherLocator] at same
      simpa using same
    · rw [loopback, otherLoopback] at same
      simpa using same
  obtain ⟨rfl, rfl⟩ := places
  exact place_injective digits isNode isOther place otherPlace

/-! ## Different SIDs of a node -/

omit digits in
/-- SIDs of one plane are as different as their functions. -/
theorem nodup_sids (plane : Nat) (functions : List Nat) {sids : List LocalSid}
    (read : sids.map (fun sid => prefixGroups sid.text) =
      functions.map fun function => some ([0xfc00, plane, function, 0, 0, 0, 0, 0], 48))
    (distinct : functions.Nodup) : (sids.map fun sid => prefixGroups sid.text).Nodup := by
  rw [read]
  refine distinct.map fun function other same => ?_
  simpa using same

omit digits in
/-- What numbered SIDs of one plane are read as. -/
theorem map_numbered {sid : Nat → LocalSid} {base count plane : Nat}
    (read : ∀ index < count, prefixGroups (sid index).text =
      some ([0xfc00, plane, base + index, 0, 0, 0, 0, 0], 48)) :
    ((List.range count).map sid).map (fun sid => prefixGroups sid.text) =
      ((List.range count).map (base + ·)).map fun function =>
        some ([0xfc00, plane, function, 0, 0, 0, 0, 0], 48) := by
  rw [List.map_map, List.map_map]
  refine List.map_congr_left fun index mem => ?_
  rw [Function.comp_apply, Function.comp_apply, read index (List.mem_range.mp mem)]

omit digits in
theorem nodup_numbered (base count : Nat) : ((List.range count).map (base + ·)).Nodup :=
  List.nodup_range.map (add_right_injective base)

theorem leafSids_nodup {plane leaf : Nat} (isPlane : plane < topo.numPlanes)
    (isLeaf : leaf < topo.numLeaves) :
    (((Node.leaf plane leaf).sids topo).map fun sid => prefixGroups sid.text).Nodup := by
  have plane16 := digits.plane_lt isPlane
  have leaf16 := digits.leaf_lt isLeaf
  have uplinks := @map_numbered (uplinkSid topo plane leaf) 0xf000 topo.numSpines plane
    fun spine small => prefixGroups_leafUaSid plane16 (digits.spine_lt small)
  refine nodup_sids plane ((0x20 + leaf) :: ((List.range topo.numSpines).map (0xf000 + ·) ++
    [0xd000, 0xe009])) ?_ ?_
  · have locator : prefixGroups (LocalSid.frr ⟨leafLocator plane leaf, .uN⟩).text = _ :=
      prefixGroups_leafLocator plane16 leaf16
    have decap : prefixGroups (decapSid plane).text = _ := prefixGroups_greenUdtSid plane16
    have toHost : prefixGroups (hostSid plane leaf).text = _ := prefixGroups_leafHostUaSid plane16
    rw [sids_leaf, List.map_cons, List.map_append, uplinks, locator, List.map_cons, List.map_cons,
      List.map_nil, decap, toHost, List.map_cons, List.map_append]
    rfl
  · rw [List.nodup_cons, List.nodup_append]
    refine ⟨?_, nodup_numbered _ _, by decide, ?_⟩
    · simp only [List.mem_append, List.mem_map, List.mem_cons, List.not_mem_nil, or_false]
      rintro (⟨spine, _, same⟩ | same | same) <;> omega
    · intro up isUp down isDown
      obtain ⟨spine, _, rfl⟩ := List.mem_map.mp isUp
      simp only [List.mem_cons, List.not_mem_nil, or_false] at isDown
      omega

theorem spineSids_nodup {plane spine : Nat} (isPlane : plane < topo.numPlanes)
    (isSpine : spine < topo.numSpines) :
    (((Node.spine plane spine).sids topo).map fun sid => prefixGroups sid.text).Nodup := by
  have plane16 := digits.plane_lt isPlane
  have spine16 := digits.spine_lt isSpine
  have downlinks := @map_numbered (downlinkSid topo plane spine) 0xe000 topo.numLeaves plane
    fun leaf small => prefixGroups_spineUaSid plane16 (digits.leaf_lt small)
  refine nodup_sids plane ((0x10 + spine) :: (List.range topo.numLeaves).map (0xe000 + ·)) ?_ ?_
  · have locator : prefixGroups (LocalSid.frr ⟨spineLocator plane spine, .uN⟩).text = _ :=
      prefixGroups_spineLocator plane16 spine16
    rw [sids_spine, List.map_cons, List.map_cons, downlinks, locator]
  · rw [List.nodup_cons]
    refine ⟨?_, nodup_numbered _ _⟩
    rintro isDown
    obtain ⟨leaf, _, same⟩ := List.mem_map.mp isDown
    omega

/-- A host's SIDs have one function, each in the block of its plane. -/
theorem hostSids_nodup (tenant : Tenant) (host : Nat) :
    (((Node.host tenant host).sids topo).map fun sid => prefixGroups sid.text).Nodup := by
  cases tenant with
  | green =>
      have none : (Node.host .green host).sids topo = [] := by
        simp [Node.sids, hostExec, List.filterMap_append, List.filterMap_map]
      rw [none]
      exact List.nodup_nil
  | yellow =>
      have locals : (List.range topo.numPlanes).map ((fun sid => prefixGroups sid.text) ∘ localSid) =
          (List.range topo.numPlanes).map fun plane =>
            some ([0xfc00, plane, 0xd001, 0, 0, 0, 0, 0], 48) := by
        refine List.map_congr_left fun plane mem => ?_
        have read : prefixGroups (localSid plane).text = _ :=
          prefixGroups_yellowUdtSid (digits.plane_lt (List.mem_range.mp mem))
        rw [Function.comp_apply, read]
      rw [sids_host, List.map_map, locals]
      refine List.Nodup.map (fun plane other same => ?_) List.nodup_range
      simpa using same

theorem sids_nodup {node : Node} (isNode : node ∈ nodes topo) :
    ((node.sids topo).map fun sid => prefixGroups sid.text).Nodup := by
  have bounds := mem_nodes.mp isNode
  cases node with
  | leaf plane leaf => exact leafSids_nodup digits bounds.1 bounds.2
  | spine plane spine => exact spineSids_nodup digits bounds.1 bounds.2
  | host tenant host => exact hostSids_nodup digits tenant host

/-! ## Different links -/

omit digits in
theorem linkIdx_injective {spine leaf otherSpine otherLeaf : Nat} (isLeaf : leaf < topo.numLeaves)
    (isOther : otherLeaf < topo.numLeaves)
    (same : linkIdx topo spine leaf = linkIdx topo otherSpine otherLeaf) :
    spine = otherSpine ∧ leaf = otherLeaf := by
  unfold linkIdx at same
  have positive : 0 < topo.numLeaves := by omega
  have spines := congrArg (· / topo.numLeaves) same
  simp only [Nat.mul_comm _ topo.numLeaves, Nat.mul_add_div positive, Nat.div_eq_of_lt isLeaf,
    Nat.div_eq_of_lt isOther, Nat.add_zero] at spines
  subst spines
  exact ⟨rfl, Nat.add_left_cancel same⟩

theorem linkEnds_groups {spine leaf : Nat} (isSpine : spine < topo.numSpines)
    (isLeaf : leaf < topo.numLeaves) {text : String} (isEnd : text ∈ linkEnds topo spine leaf) :
    ∃ side, prefixGroups text = some (linkGroups topo spine leaf side, 127) := by
  have small := digits.linkIdx_lt isSpine isLeaf
  simp only [linkEnds, List.mem_cons, List.not_mem_nil, or_false] at isEnd
  rcases isEnd with rfl | rfl
  · exact ⟨0, prefixGroups_p2p small ['0'] parseHextet_zero rfl⟩
  · exact ⟨1, prefixGroups_p2p small ['1'] parseHextet_one rfl⟩

theorem linkNets_distinct {spine leaf otherSpine otherLeaf : Nat} (isSpine : spine < topo.numSpines)
    (isLeaf : leaf < topo.numLeaves) (isOtherSpine : otherSpine < topo.numSpines)
    (isOtherLeaf : otherLeaf < topo.numLeaves) {text other : String}
    (isEnd : text ∈ linkEnds topo spine leaf) (isOther : other ∈ linkEnds topo otherSpine otherLeaf)
    (same : SameNetwork text other) : spine = otherSpine ∧ leaf = otherLeaf := by
  obtain ⟨side, read⟩ := linkEnds_groups digits isSpine isLeaf isEnd
  obtain ⟨otherSide, otherRead⟩ := linkEnds_groups digits isOtherSpine isOtherLeaf isOther
  obtain ⟨net, otherNet, netRead, otherNetRead, inside⟩ := same
  obtain rfl : linkGroups topo spine leaf side = net := by simpa [read] using netRead
  obtain rfl : linkGroups topo otherSpine otherLeaf otherSide = otherNet := by
    simpa [otherRead] using otherNetRead
  simp only [inPrefix, linkGroups, Bool.and_eq_true] at inside
  have indices : linkIdx topo otherSpine otherLeaf = linkIdx topo spine leaf := by
    simpa using inside.1
  exact linkIdx_injective isLeaf isOtherLeaf indices.symm

end Distinct

/-! ## Outer destinations -/

/-- The tenant whose uSID list a tenant gets. -/
def listedAs (tenant : String) : Tenant := if tenant = "green" then .green else .yellow

theorem OuterArgs.dst_ok {topo : Topo} (args : OuterArgs topo) :
    args.dst = .ok (Routes.buildSegs (listedAs args.tenant) args.plane args.spine args.leaf) := by
  rw [dst, usidOuterDst_ok args.known args.isPlane args.isSpine args.isLeaf, listedAs]
  split
  · rfl
  · rfl

theorem outerGroups_injective {tenant other : Tenant}
    {plane spine leaf otherPlane otherSpine otherLeaf : Nat}
    (same : outerGroups tenant plane spine leaf = outerGroups other otherPlane otherSpine otherLeaf) :
    tenant = other ∧ plane = otherPlane ∧ spine = otherSpine ∧ leaf = otherLeaf := by
  cases tenant <;> cases other <;> simp [outerGroups] at same ⊢ <;> exact same

theorem OuterArgs.dst_groups {topo : Topo} (digits : OneDigit topo) (args : OuterArgs topo) :
    ∃ text, args.dst = .ok text ∧ addrGroups text =
      some (outerGroups (listedAs args.tenant) args.plane args.spine args.leaf) :=
  ⟨_, args.dst_ok, addrGroups_buildSegs _ (digits.plane_lt args.isPlane) (digits.spine_lt args.isSpine)
    (digits.leaf_lt args.isLeaf)⟩

theorem outerDsts_distinct {topo : Topo} (digits : OneDigit topo) (oneOther : OneOtherTenant topo)
    {args other : OuterArgs topo} {text otherText : String} (isText : args.dst = .ok text)
    (isOther : other.dst = .ok otherText) (same : addrGroups text = addrGroups otherText) :
    args = other := by
  obtain ⟨own, ownText, ownGroups⟩ := args.dst_groups digits
  obtain ⟨its, itsText, itsGroups⟩ := other.dst_groups digits
  obtain rfl := Except.ok.inj (ownText.symm.trans isText)
  obtain rfl := Except.ok.inj (itsText.symm.trans isOther)
  rw [ownGroups, itsGroups] at same
  obtain ⟨lists, planes, spines, leaves⟩ := outerGroups_injective (Option.some.inj same)
  have tenants : args.tenant = other.tenant := by
    unfold listedAs at lists
    split_ifs at lists with green otherGreen otherGreen
    · rw [green, otherGreen]
    · exact oneOther _ args.known _ other.known green otherGreen
  cases args
  cases other
  simp only at tenants planes spines leaves
  subst tenants planes spines leaves
  rfl

/-! ## Wider indices -/

section Wide

variable {topo : Topo} (sound : SoundAddressing topo)

include sound

/-- No prefix of a node is one that is not read. -/
theorem SoundAddressing.refuses {node : Node} (isNode : node ∈ nodes topo) {text : String}
    (mem : .pfx text ∈ node.texts topo) (unread : prefixGroups text = none) : False := by
  obtain ⟨groups, length, read, _⟩ := sound.written node isNode _ mem
  rw [unread] at read
  cases read

/-- The seventeenth plane's block has five digits. -/
theorem SoundAddressing.planes_le (someSpine : 1 ≤ topo.numSpines) : topo.numPlanes ≤ 16 := by
  by_contra wide
  refine sound.refuses (spine_mem_nodes (show 16 < _ by omega) someSpine) ?_
    (show prefixGroups (spineLocator 16 0) = none by decide)
  exact List.mem_append_right _ (List.mem_cons_of_mem _ List.mem_cons_self)

/-- So has a leaf's SID toward the seventeenth spine. -/
theorem SoundAddressing.spines_le (somePlane : 1 ≤ topo.numPlanes) (someLeaf : 1 ≤ topo.numLeaves) :
    topo.numSpines ≤ 16 := by
  by_contra wide
  refine sound.refuses (leaf_mem_nodes somePlane someLeaf) ?_
    (show prefixGroups (leafUaSid 0 16) = none by decide)
  have isLine : SidLine.mk (leafUaSid 0 16) (.uA (leafUplinkEth 16) (p2pPrefix topo 16 0 ++ "::0")) ∈
      writeLeafFrr topo 0 0 := by
    simp only [writeLeafFrr, List.mem_append, List.mem_map, List.mem_range]
    exact Or.inl (Or.inr ⟨16, by omega, rfl⟩)
  simp only [Node.texts, List.mem_append, List.mem_flatMap]
  exact Or.inl (Or.inl (Or.inr ⟨_, isLine, List.mem_cons_self⟩))

/-- And a spine's SID toward the seventeenth leaf. -/
theorem SoundAddressing.leaves_le (somePlane : 1 ≤ topo.numPlanes) (someSpine : 1 ≤ topo.numSpines) :
    topo.numLeaves ≤ 16 := by
  by_contra wide
  refine sound.refuses (spine_mem_nodes somePlane someSpine) ?_
    (show prefixGroups (spineUaSid 0 16) = none by decide)
  have isLine : SidLine.mk (spineUaSid 0 16) (.uA (spineDownlinkEth 16) (p2pPrefix topo 0 16 ++ "::1")) ∈
      writeSpineFrr topo 0 0 := by
    simp only [writeSpineFrr, List.mem_append, List.mem_map, List.mem_range]
    exact Or.inr ⟨16, by omega, rfl⟩
  simp only [Node.texts, List.mem_append, List.mem_flatMap]
  exact Or.inl (Or.inl (Or.inr ⟨_, isLine, List.mem_cons_self⟩))

/-- Two tenants that both get the yellow list have one destination. -/
theorem SoundAddressing.oneOtherTenant (somePlane : 1 ≤ topo.numPlanes) (someSpine : 1 ≤ topo.numSpines)
    (someLeaf : 1 ≤ topo.numLeaves) : OneOtherTenant topo := by
  intro tenant known other otherKnown notGreen otherNotGreen
  let args : OuterArgs topo := ⟨tenant, 0, 0, 0, known, somePlane, someSpine, someLeaf⟩
  let otherArgs : OuterArgs topo := ⟨other, 0, 0, 0, otherKnown, somePlane, someSpine, someLeaf⟩
  have listed : listedAs tenant = listedAs other := by
    rw [listedAs, listedAs, if_neg notGreen, if_neg otherNotGreen]
  have own : args.dst = .ok (Routes.buildSegs (listedAs other) 0 0 0) := by
    rw [← listed]
    exact args.dst_ok
  exact congrArg OuterArgs.tenant (sound.outerDsts args otherArgs _ _ own otherArgs.dst_ok rfl)

end Wide

/-- Addresses are well-formed and different exactly when every index is one hexadecimal digit
and one tenant besides the green one is in use. -/
theorem soundAddressing_iff (topo : Topo) (planes : 1 ≤ topo.numPlanes) (spines : 1 ≤ topo.numSpines)
    (leaves : 1 ≤ topo.numLeaves) :
    SoundAddressing topo ↔ OneDigit topo ∧ OneOtherTenant topo := by
  constructor
  · intro sound
    exact ⟨⟨sound.planes_le spines, sound.spines_le planes leaves, sound.leaves_le planes spines⟩,
      sound.oneOtherTenant planes spines leaves⟩
  · rintro ⟨digits, oneOther⟩
    refine ⟨fun node isNode text => written_valid digits isNode, fun args => ?_, ?_, ?_,
      fun node => sids_nodup digits, ?_,
      fun args other text otherText => outerDsts_distinct digits oneOther⟩
    · obtain ⟨text, isText, groups⟩ := args.dst_groups digits
      exact ⟨text, isText, _, groups⟩
    · intro node isNode other isOther own isOwn its isIts same
      exact locators_distinct digits isNode isOther isOwn isIts (Or.inl same)
    · intro node isNode other isOther own isOwn its isIts same
      exact locators_distinct digits isNode isOther isOwn isIts (Or.inr same)
    · intro spine isSpine leaf isLeaf otherSpine isOtherSpine otherLeaf isOtherLeaf text isEnd other
        isOther
      exact linkNets_distinct digits isSpine isLeaf isOtherSpine isOtherLeaf isEnd isOther

/-- The shipped topology has four planes of eight spines and sixteen leaves. -/
theorem soundAddressing_fourPlanes :
    SoundAddressing fourPlanes ↔ OneDigit fourPlanes ∧ OneOtherTenant fourPlanes :=
  soundAddressing_iff fourPlanes (by decide) (by decide) (by decide)

/-- With a seventeenth leaf every spine gets the SID `fc00:0000:e0010::/48`. -/
theorem seventeenth_leaf :
    let topo := { fourPlanes with numLeaves := 17 }
    "fc00:0000:e0010::/48" ∈ (writeSpineFrr topo 0 0).map SidLine.sid ∧
      prefixGroups "fc00:0000:e0010::/48" = none ∧ ¬ SoundAddressing topo := by
  refine ⟨by decide +kernel, by decide, fun sound => ?_⟩
  exact absurd (sound.leaves_le (by decide) (by decide)) (by decide)

end Srv6Fabric.Fabric

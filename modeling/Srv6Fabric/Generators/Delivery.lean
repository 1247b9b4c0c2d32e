import Srv6Fabric.Generators.Forwarding
import Srv6Fabric.RouteAddresses

/-!
# Delivery

Every uSID list that is built for a path is one the generated fabric takes along that
path: through the source's leaf, the spine and the destination's leaf, to the destination.
-/

namespace Srv6Fabric.Fabric

open Library SegmentRouting Topo IpAddress
open Routes (tenantNumber parseHextet_tenantGroup parseHextet_host outerGroups ofText_buildSegs)

/-! ## Texts -/

theorem planeBlockPrefix_toList (plane : Nat) : (planeBlockPrefix plane).toList =
    ['f', 'c', '0', '0', ':'] ++ (['0', '0', '0'] ++ Nat.toDigits 16 plane) := by
  simp [planeBlockPrefix, hexDigits]

/-- A SID of a plane by the digits of its function. -/
theorem prefixGroups_sid {plane function : Nat} (isPlane : plane < 16) (digits : List Char)
    (read : parseHextet digits = some function) {text : String}
    (spelled : text.toList = (planeBlockPrefix plane).toList ++ (':' :: digits ++
      [':', ':', '/', '4', '8'])) :
    prefixGroups text = some ([0xfc00, plane, function, 0, 0, 0, 0, 0], 48) := by
  have parts : Spelled [['f', 'c', '0', '0'], ['0', '0', '0'] ++ Nat.toDigits 16 plane, digits] []
      [0xfc00, plane, function] [] := by
    refine ⟨List.cons_ne_nil _ _, by simp, ?_, rfl⟩
    rw [List.mapM_cons, List.mapM_cons, List.mapM_cons,
      parseHextet_snoc _ 0 (by decide) (by decide) isPlane, read,
      show parseHextet ['f', 'c', '0', '0'] = some 0xfc00 from by decide]
    simp
  have shape : text = String.ofList (compressedText [['f', 'c', '0', '0'],
      ['0', '0', '0'] ++ Nat.toDigits 16 plane, digits] [] ++ ['/', '4', '8']) := by
    rw [← String.toList_inj, spelled, planeBlockPrefix_toList, String.toList_ofList]
    simp [compressedText]
  rw [prefixGroups, shape, parts.readPrefix_eq (List.cons_ne_nil _ _) (by decide)]
  rfl

/-- A SID that is written part by part. -/
theorem prefixGroups_parts {plane function : Nat} (isPlane : plane < 16) {digits : List Char}
    (read : parseHextet digits = some function) {stem tail : String}
    (spelled : stem.toList ++ tail.toList = ':' :: digits) :
    prefixGroups (planeBlockPrefix plane ++ stem ++ tail ++ "::/48") =
      some ([0xfc00, plane, function, 0, 0, 0, 0, 0], 48) := by
  refine prefixGroups_sid isPlane digits read ?_
  rw [String.toList_append, String.toList_append, String.toList_append, List.append_assoc,
    List.append_assoc, ← List.append_assoc stem.toList, spelled]
  simp

/-- A SID whose function ends in the number of a spine or a leaf. -/
theorem prefixGroups_numbered {plane number base : Nat} (isPlane : plane < 16)
    (isNumber : number < 16) {stem : String} {front : List Char} (spelled : stem.toList = ':' :: front)
    (short : front.length ≤ 3) (read : parseHextet front = some base) :
    prefixGroups (planeBlockPrefix plane ++ stem ++ hexDigits number ++ "::/48") =
      some ([0xfc00, plane, 16 * base + number, 0, 0, 0, 0, 0], 48) := by
  refine prefixGroups_parts isPlane (parseHextet_snoc front base read short isNumber) ?_
  rw [spelled, hexDigits, String.toList_ofList, List.cons_append]

theorem prefixGroups_leafUaSid {plane spine : Nat} (isPlane : plane < 16) (isSpine : spine < 16) :
    prefixGroups (leafUaSid plane spine) =
      some ([0xfc00, plane, 0xf000 + spine, 0, 0, 0, 0, 0], 48) :=
  prefixGroups_numbered isPlane isSpine rfl (by decide)
    (by decide : parseHextet ['f', '0', '0'] = some 0xf00)

theorem prefixGroups_spineUaSid {plane leaf : Nat} (isPlane : plane < 16) (isLeaf : leaf < 16) :
    prefixGroups (spineUaSid plane leaf) =
      some ([0xfc00, plane, 0xe000 + leaf, 0, 0, 0, 0, 0], 48) :=
  prefixGroups_numbered isPlane isLeaf rfl (by decide)
    (by decide : parseHextet ['e', '0', '0'] = some 0xe00)

theorem prefixGroups_leafLocator {plane leaf : Nat} (isPlane : plane < 16) (isLeaf : leaf < 16) :
    prefixGroups (leafLocator plane leaf) = some ([0xfc00, plane, 0x20 + leaf, 0, 0, 0, 0, 0], 48) :=
  prefixGroups_numbered isPlane isLeaf rfl (by decide) (by decide : parseHextet ['2'] = some 2)

theorem prefixGroups_spineLocator {plane spine : Nat} (isPlane : plane < 16) (isSpine : spine < 16) :
    prefixGroups (spineLocator plane spine) =
      some ([0xfc00, plane, 0x10 + spine, 0, 0, 0, 0, 0], 48) :=
  prefixGroups_numbered isPlane isSpine rfl (by decide) (by decide : parseHextet ['1'] = some 1)

theorem prefixGroups_greenUdtSid {plane : Nat} (isPlane : plane < 16) :
    prefixGroups (greenUdtSid plane) = some ([0xfc00, plane, 0xd000, 0, 0, 0, 0, 0], 48) :=
  prefixGroups_parts isPlane (by decide : parseHextet ['d', '0', '0', '0'] = some 0xd000) (by decide)

theorem prefixGroups_yellowUdtSid {plane : Nat} (isPlane : plane < 16) :
    prefixGroups (yellowUdtSid plane) = some ([0xfc00, plane, 0xd001, 0, 0, 0, 0, 0], 48) :=
  prefixGroups_parts isPlane (by decide : parseHextet ['d', '0', '0', '1'] = some 0xd001) (by decide)

theorem prefixGroups_leafHostUaSid {plane : Nat} (isPlane : plane < 16) :
    prefixGroups (leafHostUaSid plane 36) = some ([0xfc00, plane, 0xe009, 0, 0, 0, 0, 0], 48) :=
  prefixGroups_parts isPlane (by decide : parseHextet ['e', '0', '0', '9'] = some 0xe009) (by decide)

theorem addrGroups_net (third : List Char) {fourth last : List Char} {network host suffix : Nat}
    (networkRead : parseHextet third = some network) (hostRead : parseHextet fourth = some host)
    (suffixRead : parseHextet last = some suffix) {text : String}
    (spelled : text.toList = netText third fourth last) :
    addrGroups text = some [0x2001, 0xdb8, network, host, 0, 0, 0, suffix] := by
  have shape : text = String.ofList (netText third fourth last) := by
    rw [← String.toList_inj, spelled, String.toList_ofList]
  rw [addrGroups, shape, netText_eq, (netText_spelled networkRead hostRead suffixRead).ofText_eq]
  rfl

theorem prefixGroups_net (third length : List Char) {fourth last : List Char}
    {network host suffix : Nat}
    (networkRead : parseHextet third = some network) (hostRead : parseHextet fourth = some host)
    (suffixRead : parseHextet last = some suffix) (nonempty : length ≠ [])
    (digits : length.all Char.isDigit) {text : String}
    (spelled : text.toList = netText third fourth last ++ '/' :: length) :
    prefixGroups text =
      some ([0x2001, 0xdb8, network, host, 0, 0, 0, suffix], Nat.ofDigitChars 10 length 0) := by
  have shape : text = String.ofList (netText third fourth last ++ '/' :: length) := by
    rw [← String.toList_inj, spelled, String.toList_ofList]
  rw [prefixGroups, shape, netText_eq,
    (netText_spelled networkRead hostRead suffixRead).readPrefix_eq nonempty digits]
  rfl

/-- The groups of a fabric link's end: the spine's is 0, the leaf's 1. -/
def linkGroups (topo : Topo) (spine leaf side : Nat) : List Nat :=
  [0x2001, 0xdb8, 0xfab, linkIdx topo spine leaf, 0, 0, 0, side]

theorem p2pPrefix_toList (topo : Topo) (spine leaf : Nat) : (p2pPrefix topo spine leaf).toList =
    ['2', '0', '0', '1', ':', 'd', 'b', '8', ':'] ++ ['f', 'a', 'b'] ++ [':'] ++
      (paddedHex 4 (linkIdx topo spine leaf)).toList := by
  change ("2001:db8:fab:" ++ paddedHex 4 (linkIdx topo spine leaf)).toList = _
  rw [String.toList_append]
  rfl

theorem parseHextet_linkIdx {topo : Topo} {spine leaf : Nat}
    (small : linkIdx topo spine leaf < 65536) :
    parseHextet (paddedHex 4 (linkIdx topo spine leaf)).toList = some (linkIdx topo spine leaf) := by
  rw [paddedHex, String.toList_ofList]
  exact parseHextet_padded (by decide) small

theorem addrGroups_p2p {topo : Topo} {spine leaf : Nat} (small : linkIdx topo spine leaf < 65536)
    {suffix : String} {side : Nat} (digit : List Char) (sideRead : parseHextet digit = some side)
    (spelled : suffix.toList = [':', ':'] ++ digit) :
    addrGroups (p2pPrefix topo spine leaf ++ suffix) = some (linkGroups topo spine leaf side) := by
  refine addrGroups_net ['f', 'a', 'b'] (by decide) (parseHextet_linkIdx small) sideRead ?_
  rw [String.toList_append, spelled, p2pPrefix_toList, netText]
  simp

theorem prefixGroups_p2p {topo : Topo} {spine leaf : Nat} (small : linkIdx topo spine leaf < 65536)
    {suffix : String} {side : Nat} (digit : List Char) (sideRead : parseHextet digit = some side)
    (spelled : suffix.toList = [':', ':'] ++ digit ++ ['/', '1', '2', '7']) :
    prefixGroups (p2pPrefix topo spine leaf ++ suffix) =
      some (linkGroups topo spine leaf side, 127) := by
  refine prefixGroups_net ['f', 'a', 'b'] ['1', '2', '7'] (by decide) (parseHextet_linkIdx small)
    sideRead (List.cons_ne_nil _ _) (by decide) ?_
  rw [String.toList_append, spelled, p2pPrefix_toList, netText]
  simp

/-- The groups of a tenant address: the host's ends in 2, the leaf's in 1. -/
def tenantGroups (tenant : Tenant) (host side : Nat) : List Nat :=
  [0x2001, 0xdb8, tenantNumber tenant, host, 0, 0, 0, side]

theorem hostAnycastPrefix_toList (tenant : Tenant) (host : Nat) :
    (hostAnycastPrefix tenant host).toList = ['2', '0', '0', '1', ':', 'd', 'b', '8', ':'] ++
      tenantGroup tenant.name ++ [':'] ++ (twoHexDigits host).toList := by
  cases tenant with
  | green =>
      change ("2001:db8:bbbb:" ++ twoHexDigits host).toList = _
      rw [String.toList_append]
      rfl
  | yellow =>
      change ("2001:db8:cccc:" ++ twoHexDigits host).toList = _
      rw [String.toList_append]
      rfl

theorem hostAnycastAddr_eq (tenant : Tenant) (host : Nat) :
    hostAnycastAddr tenant host = hostAnycastPrefix tenant host ++ "::2" := by
  cases tenant with
  | green => rfl
  | yellow => rfl

theorem addrGroups_anycast (tenant : Tenant) {host : Nat} (small : host < 65536) :
    addrGroups (hostAnycastPrefix tenant host ++ "::2") = some (tenantGroups tenant host 2) := by
  refine addrGroups_net _ (parseHextet_tenantGroup tenant) (parseHextet_host small)
    (by decide : parseHextet ['2'] = some 2) ?_
  rw [String.toList_append, hostAnycastPrefix_toList, netText]
  simp

theorem prefixGroups_anycast (tenant : Tenant) {host : Nat} (small : host < 65536) {suffix : String}
    {side : Nat} (digit length : List Char) (sideRead : parseHextet digit = some side)
    (nonempty : length ≠ []) (digits : length.all Char.isDigit)
    (spelled : suffix.toList = [':', ':'] ++ digit ++ '/' :: length) :
    prefixGroups (hostAnycastPrefix tenant host ++ suffix) =
      some (tenantGroups tenant host side, Nat.ofDigitChars 10 length 0) := by
  refine prefixGroups_net _ length (parseHextet_tenantGroup tenant) (parseHextet_host small) sideRead nonempty
    digits ?_
  rw [String.toList_append, spelled, hostAnycastPrefix_toList, netText]
  simp

/-! ## Outer destinations -/

theorem addrGroups_buildSegs (tenant : Tenant) {plane spine leaf : Nat} (isPlane : plane < 16)
    (isSpine : spine < 16) (isLeaf : leaf < 16) :
    addrGroups (Routes.buildSegs tenant plane spine leaf) =
      some (outerGroups tenant plane spine leaf) := by
  rw [addrGroups, ofText_buildSegs tenant isPlane isSpine isLeaf]

/-! ## Nodes and links -/

theorem mem_nodes {topo : Topo} {node : Node} : node ∈ nodes topo ↔
    match node with
    | .spine plane index => plane < topo.numPlanes ∧ index < topo.numSpines
    | .leaf plane index => plane < topo.numPlanes ∧ index < topo.numLeaves
    | .host _ index => index < topo.numLeaves := by
  cases node with
  | leaf plane index => simp [nodes]
  | spine plane index => simp [nodes]
  | host tenant index => cases tenant <;> simp [nodes]

theorem leaf_mem_nodes {topo : Topo} {plane leaf : Nat} (isPlane : plane < topo.numPlanes)
    (isLeaf : leaf < topo.numLeaves) : .leaf plane leaf ∈ nodes topo := by
  rw [mem_nodes]
  exact ⟨isPlane, isLeaf⟩

theorem spine_mem_nodes {topo : Topo} {plane spine : Nat} (isPlane : plane < topo.numPlanes)
    (isSpine : spine < topo.numSpines) : .spine plane spine ∈ nodes topo := by
  rw [mem_nodes]
  exact ⟨isPlane, isSpine⟩

theorem host_mem_nodes {topo : Topo} {host : Nat} (tenant : Tenant) (isHost : host < topo.numLeaves) :
    .host tenant host ∈ nodes topo := by
  rw [mem_nodes]
  exact isHost

/-- A node is found under its name. -/
theorem nodeNamed?_name {topo : Topo} {node : Node} (mem : node ∈ nodes topo) :
    nodeNamed? topo node.name = some node := by
  have found : (nodeNamed? topo node.name).isSome :=
    List.find?_isSome.mpr ⟨node, mem, decide_eq_true rfl⟩
  obtain ⟨other, isOther⟩ := Option.isSome_iff_exists.mp found
  have same : other.name = node.name := by
    simpa using List.find?_some (show (nodes topo).find? _ = some other from isOther)
  rw [isOther, Node.name_injective same]

/-- What is found in a list is what is found for its only hit. -/
theorem findSome?_eq_of_unique {α β : Type} {items : List α} {find : α → Option β} {hit : β} {item : α}
    (mem : item ∈ items) (found : find item = some hit)
    (unique : ∀ other ∈ items, ∀ value, find other = some value → value = hit) :
    items.findSome? find = some hit := by
  have present : (items.findSome? find).isSome :=
    List.findSome?_isSome_iff.mpr ⟨item, mem, by rw [found]; rfl⟩
  obtain ⟨value, isValue⟩ := Option.isSome_iff_exists.mp present
  obtain ⟨other, isOther, otherFound⟩ := List.exists_of_findSome?_eq_some isValue
  rw [isValue, unique other isOther value otherFound]

section Wired

variable {topo : Topo} (free : topo.numSpines ≤ 8)

include free

/-- The ends of a link are each other's peers. -/
theorem peer?_ends (id : LinkId) (mem : id ∈ linkIds topo) :
    peer? topo id.ends.1.endpoint = some id.ends.2.endpoint ∧
      peer? topo id.ends.2.endpoint = some id.ends.1.endpoint := by
  have low (other : LinkId) (isLink : other ∈ linkIds topo) : other.Low := by
    cases other with
    | fabric plane spine leaf => exact lt_of_lt_of_le (mem_linkIds.mp isLink).2.1 free
    | uplink plane host tenant => trivial
  have ownerOf (other : LinkId) (isLink : other ∈ linkIds topo) {nic : Nic}
      (isEnd : other.ends.1.endpoint = nic.endpoint ∨ other.ends.2.endpoint = nic.endpoint) :
      LinkId.owner nic = other := by
    obtain ⟨first, second⟩ := LinkId.owner_ends (low other isLink)
    rcases isEnd with same | same
    · rw [← Nic.endpoint_injective same, first]
    · rw [← Nic.endpoint_injective same, second]
  obtain ⟨ownFirst, ownSecond⟩ := LinkId.owner_ends (low id mem)
  have apart : id.ends.1.endpoint ≠ id.ends.2.endpoint :=
    mt Nic.endpoint_injective id.ends_distinct
  have inLinks : id.link ∈ links topo := by
    rw [links_eq]
    exact List.mem_map_of_mem mem
  constructor
  · refine findSome?_eq_of_unique inLinks (if_pos rfl) fun link isLink value found => ?_
    rw [links_eq] at isLink
    obtain ⟨other, isOther, rfl⟩ := List.mem_map.mp isLink
    split at found
    · next same =>
      obtain rfl := (ownerOf other isOther (Or.inl same)).symm.trans ownFirst
      exact (Option.some.inj found).symm
    · split at found
      · next same =>
        obtain rfl := (ownerOf other isOther (Or.inr same)).symm.trans ownFirst
        exact absurd same.symm apart
      · cases found
  · refine findSome?_eq_of_unique inLinks ((if_neg apart).trans (if_pos rfl))
      fun link isLink value found => ?_
    rw [links_eq] at isLink
    obtain ⟨other, isOther, rfl⟩ := List.mem_map.mp isLink
    split at found
    · next same =>
      obtain rfl := (ownerOf other isOther (Or.inl same)).symm.trans ownSecond
      exact absurd same apart
    · split at found
      · next same =>
        obtain rfl := (ownerOf other isOther (Or.inr same)).symm.trans ownSecond
        exact (Option.some.inj found).symm
      · cases found

end Wired

/-- An interface by its number. -/
def eth (number : Nat) : String := "eth" ++ toString number

theorem clabIface?_ethernet (ordinal : Nat) :
    clabIface? ("Ethernet" ++ toString (ordinal * 4)) = some (eth (ordinal + 1)) := by
  have chars : ("Ethernet" ++ toString (ordinal * 4)).toList =
      "Ethernet".toList ++ Nat.toDigits 10 (ordinal * 4) := by
    rw [String.toList_append]
    change _ ++ (Nat.repr (ordinal * 4)).toList = _
    rw [Nat.toList_repr]
  have length : "Ethernet".toList.length = 8 := by decide
  rw [clabIface?, chars, if_pos (List.take_left' length), List.drop_left' length,
    Nat.ofDigitChars_ten_toDigits, Nat.mul_div_cancel _ (by decide)]
  rfl

theorem clabIface?_hostPorts :
    clabIface? "Ethernet32" = some "eth9" ∧ clabIface? "Ethernet36" = some "eth10" :=
  ⟨clabIface?_ethernet 8, clabIface?_ethernet 9⟩

theorem mem_tableAddrs {table : IfaceTable} {port addr iface : String}
    (mem : IfaceKey.mk port (some addr) ∈ table.keys) (isIface : clabIface? port = some iface) :
    (iface, addr) ∈ tableAddrs table := by
  refine List.mem_filterMap.mpr ⟨_, mem, ?_⟩
  rw [isIface]
  rfl

theorem hasAddr_of_mem {topo : Topo} {node : Node} (isNode : node ∈ nodes topo) {iface text : String}
    {groups : List Nat} {length : Nat} (mem : (iface, text) ∈ node.addrs topo)
    (read : prefixGroups text = some (groups, length)) :
    hasAddr topo ⟨node.name, iface⟩ groups = true := by
  rw [hasAddr, nodeNamed?_name isNode]
  refine List.any_eq_true.mpr ⟨_, mem, ?_⟩
  rw [read]
  simp

/-! ## Matching SIDs -/

/-- The sizes at which every index is one digit and the host ports are free. -/
structure Fits (topo : Topo) : Prop where
  planes : topo.numPlanes ≤ 16
  spines : topo.numSpines ≤ 8
  leaves : topo.numLeaves ≤ 16

def uplinkSid (topo : Topo) (plane leaf spine : Nat) : LocalSid :=
  .frr ⟨leafUaSid plane spine, .uA (leafUplinkEth spine) (p2pPrefix topo spine leaf ++ "::0")⟩

def downlinkSid (topo : Topo) (plane spine leaf : Nat) : LocalSid :=
  .frr ⟨spineUaSid plane leaf, .uA (spineDownlinkEth leaf) (p2pPrefix topo spine leaf ++ "::1")⟩

def decapSid (plane : Nat) : LocalSid := .frr ⟨greenUdtSid plane, .uDT6 greenVrf⟩

def hostSid (plane leaf : Nat) : LocalSid :=
  .frr ⟨leafHostUaSid plane 36, .uA "Ethernet36" (hostAnycastPrefix .yellow leaf ++ "::2")⟩

def localSid (plane : Nat) : LocalSid := .endDT6 (yellowUdtSid plane) (planeNic plane)

theorem sids_leaf (topo : Topo) (plane leaf : Nat) : (Node.leaf plane leaf).sids topo =
    .frr ⟨leafLocator plane leaf, .uN⟩ :: ((List.range topo.numSpines).map (uplinkSid topo plane leaf) ++
      [decapSid plane, hostSid plane leaf]) := by
  rw [Node.sids, writeLeafFrr, List.map_append, List.map_append, List.map_map]
  rfl

theorem sids_spine (topo : Topo) (plane spine : Nat) : (Node.spine plane spine).sids topo =
    .frr ⟨spineLocator plane spine, .uN⟩ ::
      (List.range topo.numLeaves).map (downlinkSid topo plane spine) := by
  rw [Node.sids, writeSpineFrr, List.map_append, List.map_map]
  rfl

theorem sids_host (topo : Topo) (host : Nat) : (Node.host .yellow host).sids topo =
    (List.range topo.numPlanes).map localSid := by
  simp only [Node.sids, hostExec, List.filterMap_append, List.filterMap_map]
  simp [localSid]

/-- A /48 SID covers the lists whose first function is its own. -/
theorem covers_eq (sid : LocalSid) {plane function : Nat}
    (read : prefixGroups sid.text = some ([0xfc00, plane, function, 0, 0, 0, 0, 0], 48))
    (isPlane current next : Nat) (rest : List Nat) (small : next < 65536) :
    sid.covers (0xfc00 :: isPlane :: current :: next :: rest) =
      decide (isPlane = plane ∧ current = function) := by
  have low : next / 65536 = 0 := Nat.div_eq_of_lt small
  rw [LocalSid.covers, read, Option.any_some, inPrefix]
  simp [low]

/-- The one index a filter of all indices keeps. -/
theorem filter_range_eq {bound index : Nat} {keep : Nat → Bool} (isIndex : index < bound)
    (only : ∀ other < bound, keep other = decide (other = index)) :
    (List.range bound).filter keep = [index] := by
  refine List.perm_singleton.mp ((List.perm_ext_iff_of_nodup (List.nodup_range.filter _)
    (List.nodup_singleton _)).mpr fun other => ?_)
  rw [List.mem_filter, List.mem_range, List.mem_singleton]
  constructor
  · rintro ⟨isOther, kept⟩
    rw [only other isOther] at kept
    exact of_decide_eq_true kept
  · rintro rfl
    exact ⟨isIndex, (only other isIndex).trans (decide_eq_true rfl)⟩

theorem matching_node {topo : Topo} {node : Node} (mem : node ∈ nodes topo) (iface : String)
    (packet : UsidPacket) : matching topo ⟨node.name, iface⟩ packet =
      (node.sids topo).filter (LocalSid.covers packet.outer) := by
  rw [matching, nodeNamed?_name mem]

theorem no_uplink (topo : Topo) {current : Nat} (other : current < 0xf000) :
    ((List.range topo.numSpines).filter fun spine => current = 0xf000 + spine) = [] :=
  List.filter_eq_nil_iff.mpr fun spine _ => by
    rw [decide_eq_true_eq]
    omega

section Sizes

variable {topo : Topo} (fits : Fits topo)

include fits

theorem covers_leaf {plane leaf : Nat} (isPlane : plane < topo.numPlanes)
    (isLeaf : leaf < topo.numLeaves) (current next : Nat) (rest : List Nat) (small : next < 65536) :
    ((Node.leaf plane leaf).sids topo).filter
      (LocalSid.covers (0xfc00 :: plane :: current :: next :: rest)) =
    (if current = 0x20 + leaf then [.frr ⟨leafLocator plane leaf, .uN⟩] else []) ++
      ((List.range topo.numSpines).filter fun spine => current = 0xf000 + spine).map
        (uplinkSid topo plane leaf) ++
      (if current = 0xd000 then [decapSid plane] else []) ++
      (if current = 0xe009 then [hostSid plane leaf] else []) := by
  have plane16 : plane < 16 := lt_of_lt_of_le isPlane fits.planes
  have leaf16 : leaf < 16 := lt_of_lt_of_le isLeaf fits.leaves
  have locator := covers_eq (.frr ⟨leafLocator plane leaf, .uN⟩)
    (prefixGroups_leafLocator plane16 leaf16) plane current next rest small
  have decap := covers_eq (decapSid plane) (prefixGroups_greenUdtSid plane16) plane current
    next rest small
  have toHost := covers_eq (hostSid plane leaf) (prefixGroups_leafHostUaSid plane16) plane
    current next rest small
  have uplinks : ((List.range topo.numSpines).map (uplinkSid topo plane leaf)).filter
      (LocalSid.covers (0xfc00 :: plane :: current :: next :: rest)) =
      ((List.range topo.numSpines).filter fun spine => current = 0xf000 + spine).map
        (uplinkSid topo plane leaf) := by
    rw [List.filter_map]
    refine congrArg (List.map (uplinkSid topo plane leaf)) (List.filter_congr fun spine mem => ?_)
    have spine16 : spine < 16 := by
      have bound := fits.spines
      have small := List.mem_range.mp mem
      omega
    have up := covers_eq (uplinkSid topo plane leaf spine)
      (prefixGroups_leafUaSid plane16 spine16) plane current next rest small
    rw [Function.comp_apply, up]
    simp
  rw [sids_leaf, List.filter_cons, List.filter_append, uplinks, List.filter_cons, List.filter_cons,
    List.filter_nil, locator, decap, toHost]
  simp only [true_and, decide_eq_true_eq]
  split_ifs <;> simp

/-- On a leaf only the uA SID of a spine matches a list that goes there. -/
theorem matching_uplink {plane leaf spine : Nat} (isPlane : plane < topo.numPlanes)
    (isLeaf : leaf < topo.numLeaves) (isSpine : spine < topo.numSpines) (iface : String)
    (next : Nat) (small : next < 65536) (rest inner : List Nat) :
    matching topo ⟨leafName plane leaf, iface⟩
      ⟨0xfc00 :: plane :: (0xf000 + spine) :: next :: rest, inner⟩ =
        [uplinkSid topo plane leaf spine] := by
  have leaf16 : leaf < 16 := lt_of_lt_of_le isLeaf fits.leaves
  have uplinks : ((List.range topo.numSpines).filter fun other => 0xf000 + spine = 0xf000 + other) =
      [spine] := filter_range_eq isSpine fun other _ => by simp [eq_comm]
  rw [show leafName plane leaf = (Node.leaf plane leaf).name from rfl,
    matching_node (leaf_mem_nodes isPlane isLeaf), covers_leaf fits isPlane isLeaf _ _ _ small,
    uplinks, if_neg (by omega), if_neg (by omega), if_neg (by omega)]
  rfl

/-- On a leaf only the uDT6 SID matches a list that ends in it. -/
theorem matching_decap {plane leaf : Nat} (isPlane : plane < topo.numPlanes)
    (isLeaf : leaf < topo.numLeaves) (iface : String) (rest inner : List Nat) :
    matching topo ⟨leafName plane leaf, iface⟩ ⟨0xfc00 :: plane :: 0xd000 :: 0 :: rest, inner⟩ =
      [decapSid plane] := by
  have leaf16 : leaf < 16 := lt_of_lt_of_le isLeaf fits.leaves
  rw [show leafName plane leaf = (Node.leaf plane leaf).name from rfl,
    matching_node (leaf_mem_nodes isPlane isLeaf),
    covers_leaf fits isPlane isLeaf _ _ _ (by decide), no_uplink topo (by decide),
    if_neg (by omega), if_pos rfl, if_neg (by decide)]
  rfl

/-- On a leaf only the host-facing uA SID matches a list that goes on to the host. -/
theorem matching_host {plane leaf : Nat} (isPlane : plane < topo.numPlanes)
    (isLeaf : leaf < topo.numLeaves) (iface : String) (rest inner : List Nat) :
    matching topo ⟨leafName plane leaf, iface⟩ ⟨0xfc00 :: plane :: 0xe009 :: 0xd001 :: rest, inner⟩ =
      [hostSid plane leaf] := by
  have leaf16 : leaf < 16 := lt_of_lt_of_le isLeaf fits.leaves
  rw [show leafName plane leaf = (Node.leaf plane leaf).name from rfl,
    matching_node (leaf_mem_nodes isPlane isLeaf),
    covers_leaf fits isPlane isLeaf _ _ _ (by decide), no_uplink topo (by decide),
    if_neg (by omega), if_neg (by decide), if_pos rfl]
  rfl

/-- On a spine only the uA SID of a leaf matches a list that goes there. -/
theorem matching_downlink {plane spine leaf : Nat} (isPlane : plane < topo.numPlanes)
    (isSpine : spine < topo.numSpines) (isLeaf : leaf < topo.numLeaves) (iface : String)
    (next : Nat) (small : next < 65536) (rest inner : List Nat) :
    matching topo ⟨spineName plane spine, iface⟩
      ⟨0xfc00 :: plane :: (0xe000 + leaf) :: next :: rest, inner⟩ =
        [downlinkSid topo plane spine leaf] := by
  have plane16 : plane < 16 := lt_of_lt_of_le isPlane fits.planes
  have spine16 : spine < 16 := by
    have bound := fits.spines
    omega
  have locator := covers_eq (.frr ⟨spineLocator plane spine, .uN⟩)
    (prefixGroups_spineLocator plane16 spine16) plane (0xe000 + leaf) next rest small
  have downlinks : (List.range topo.numLeaves).filter (LocalSid.covers
      (0xfc00 :: plane :: (0xe000 + leaf) :: next :: rest) ∘ downlinkSid topo plane spine) = [leaf] := by
    refine filter_range_eq isLeaf fun other isOther => ?_
    have other16 : other < 16 := lt_of_lt_of_le isOther fits.leaves
    rw [Function.comp_apply, covers_eq (downlinkSid topo plane spine other)
      (prefixGroups_spineUaSid plane16 other16) plane _ next rest small]
    simp [eq_comm]
  rw [show spineName plane spine = (Node.spine plane spine).name from rfl,
    matching_node (spine_mem_nodes isPlane isSpine), sids_spine, List.filter_cons, locator,
    if_neg (by simp; omega), List.filter_map, downlinks]
  rfl

/-- On a yellow host only the plane's own End.DT6 matches. -/
theorem matching_local {plane host : Nat} (isPlane : plane < topo.numPlanes)
    (isHost : host < topo.numLeaves) (iface : String) (rest inner : List Nat) :
    matching topo ⟨hostName Tenant.yellow.name host, iface⟩
      ⟨0xfc00 :: plane :: 0xd001 :: 0 :: rest, inner⟩ = [localSid plane] := by
  have locals : (List.range topo.numPlanes).filter (LocalSid.covers
      (0xfc00 :: plane :: 0xd001 :: 0 :: rest) ∘ localSid) = [plane] := by
    refine filter_range_eq isPlane fun other isOther => ?_
    have other16 : other < 16 := lt_of_lt_of_le isOther fits.planes
    rw [Function.comp_apply, covers_eq (localSid other)
      (prefixGroups_yellowUdtSid other16) plane _ 0 rest (by decide)]
    simp [eq_comm]
  rw [show hostName Tenant.yellow.name host = (Node.host .yellow host).name from rfl,
    matching_node (host_mem_nodes .yellow isHost), sids_host, List.filter_map, locals]
  rfl

end Sizes

/-! ## Neighbours -/

theorem linkIdx_lt {topo : Topo} (fits : Fits topo) {spine leaf : Nat}
    (isSpine : spine < topo.numSpines) (isLeaf : leaf < topo.numLeaves) :
    linkIdx topo spine leaf < 65536 := by
  have spines := fits.spines
  have leaves := fits.leaves
  have scaled : spine * topo.numLeaves ≤ 7 * 16 := Nat.mul_le_mul (by omega) leaves
  unfold linkIdx
  omega

theorem spine_hasAddr {topo : Topo} (fits : Fits topo) {plane spine leaf : Nat}
    (isPlane : plane < topo.numPlanes) (isSpine : spine < topo.numSpines)
    (isLeaf : leaf < topo.numLeaves) :
    hasAddr topo ⟨spineName plane spine, eth (leaf + 1)⟩ (linkGroups topo spine leaf 0) := by
  have inTable : IfaceKey.mk (spineDownlinkEth leaf) (some (p2pPrefix topo spine leaf ++ "::0/127")) ∈
      (writeSpineConfigDb topo plane spine).keys := by
    rw [writeSpineConfigDb, mem_assignAll, List.map_append, List.mem_append]
    refine Or.inr (List.mem_map.mpr ⟨(_, []), ?_, rfl⟩)
    refine List.mem_flatMap.mpr ⟨leaf, List.mem_range.mpr isLeaf, ?_⟩
    exact List.mem_cons_of_mem _ List.mem_cons_self
  exact hasAddr_of_mem (spine_mem_nodes isPlane isSpine)
    (mem_tableAddrs inTable (clabIface?_ethernet leaf))
    (prefixGroups_p2p (linkIdx_lt fits isSpine isLeaf) ['0'] (by decide) rfl)

theorem leaf_hasAddr {topo : Topo} (fits : Fits topo) {plane spine leaf : Nat}
    (isPlane : plane < topo.numPlanes) (isSpine : spine < topo.numSpines)
    (isLeaf : leaf < topo.numLeaves) :
    hasAddr topo ⟨leafName plane leaf, eth (spine + 1)⟩ (linkGroups topo spine leaf 1) := by
  have inTable : IfaceKey.mk (leafUplinkEth spine) (some (p2pPrefix topo spine leaf ++ "::1/127")) ∈
      (writeLeafConfigDb topo plane leaf).keys :=
    mem_leafKeys.mpr (Or.inr (Or.inl ⟨spine, isSpine, rfl, rfl⟩))
  exact hasAddr_of_mem (leaf_mem_nodes isPlane isLeaf)
    (mem_tableAddrs inTable (clabIface?_ethernet spine))
    (prefixGroups_p2p (linkIdx_lt fits isSpine isLeaf) ['1'] (by decide) rfl)

theorem host_addr_mem {topo : Topo} (tenant : Tenant) {plane : Nat} (isPlane : plane < topo.numPlanes)
    (host : Nat) : (eth (plane + 1), hostAnycastAddr tenant host ++ "/64") ∈
      (Node.host tenant host).addrs topo := by
  refine List.mem_filterMap.mpr ⟨.addrAdd (hostAnycastAddr tenant host ++ "/64") (planeNic plane), ?_, rfl⟩
  simp only [hostExec, List.mem_append, List.mem_map, List.mem_range]
  exact Or.inl (Or.inl (Or.inl (Or.inl ⟨plane, isPlane, rfl⟩)))

theorem prefixGroups_hostAddr (tenant : Tenant) {host : Nat} (small : host < 65536) :
    prefixGroups (hostAnycastAddr tenant host ++ "/64") = some (tenantGroups tenant host 2, 64) := by
  rw [hostAnycastAddr_eq, String.append_assoc]
  exact prefixGroups_anycast tenant small ['2'] ['6', '4'] (by decide)
    (List.cons_ne_nil _ _) (by decide) (by decide)

theorem host_hasAddr {topo : Topo} (fits : Fits topo) (tenant : Tenant) {plane host : Nat}
    (isPlane : plane < topo.numPlanes) (isHost : host < topo.numLeaves) :
    hasAddr topo ⟨hostName tenant.name host, eth (plane + 1)⟩ (tenantGroups tenant host 2) := by
  have small : host < 65536 := lt_of_lt_of_le isHost (fits.leaves.trans (by decide))
  exact hasAddr_of_mem (host_mem_nodes tenant isHost) (host_addr_mem tenant isPlane host)
    (prefixGroups_hostAddr tenant small)

section Sends

variable {topo : Topo} (fits : Fits topo) {plane : Nat} (isPlane : plane < topo.numPlanes)

include fits isPlane

/-- From a leaf to a spine. -/
theorem sendTo_spine {spine leaf : Nat} (isSpine : spine < topo.numSpines)
    (isLeaf : leaf < topo.numLeaves) :
    sendTo topo (leafName plane leaf) (eth (spine + 1)) (linkGroups topo spine leaf 0) =
      some ⟨spineName plane spine, eth (leaf + 1)⟩ := by
  have peer := (peer?_ends fits.spines (.fabric plane spine leaf)
    (mem_linkIds.mpr ⟨isPlane, isSpine, isLeaf⟩)).1
  rw [sendTo, show peer? topo ⟨leafName plane leaf, eth (spine + 1)⟩ = _ from peer]
  exact if_pos (spine_hasAddr fits isPlane isSpine isLeaf)

/-- From a spine to a leaf. -/
theorem sendTo_leaf {spine leaf : Nat} (isSpine : spine < topo.numSpines)
    (isLeaf : leaf < topo.numLeaves) :
    sendTo topo (spineName plane spine) (eth (leaf + 1)) (linkGroups topo spine leaf 1) =
      some ⟨leafName plane leaf, eth (spine + 1)⟩ := by
  have peer := (peer?_ends fits.spines (.fabric plane spine leaf)
    (mem_linkIds.mpr ⟨isPlane, isSpine, isLeaf⟩)).2
  rw [sendTo, show peer? topo ⟨spineName plane spine, eth (leaf + 1)⟩ = _ from peer]
  exact if_pos (leaf_hasAddr fits isPlane isSpine isLeaf)

/-- From a leaf to a host. -/
theorem sendTo_host (tenant : Tenant) {host : Nat} (isHost : host < topo.numLeaves) :
    sendTo topo (leafName plane host) (hostPort tenant) (tenantGroups tenant host 2) =
      some ⟨hostName tenant.name host, eth (plane + 1)⟩ := by
  have peer := (peer?_ends fits.spines (.uplink plane host tenant)
    (mem_linkIds.mpr ⟨isPlane, isHost⟩)).1
  rw [sendTo, hostPort_eq, show peer? topo ⟨leafName plane host,
    "eth" ++ toString (hostPortNumber tenant)⟩ = _ from peer]
  exact if_pos (host_hasAddr fits tenant isPlane isHost)

end Sends

/-! ## The green VRF -/

/-- Assignments to different keys are the entries. -/
theorem assignAll_entries {assignments : List (IfaceKey × List (String × String))}
    (nodup : (assignments.map Prod.fst).Nodup) : (assignAll assignments).entries = assignments := by
  have folded (table : IfaceTable) (fresh : ∀ key ∈ assignments.map Prod.fst, key ∉ table.keys) :
      (assignments.foldl (fun table assignment => table.set assignment.1 assignment.2) table).entries =
        table.entries ++ assignments := by
    induction assignments generalizing table with
    | nil => simp
    | cons assignment rest ih =>
        obtain ⟨absent, restNodup⟩ := List.nodup_cons.mp nodup
        have isFresh := fresh assignment.1 List.mem_cons_self
        rw [List.foldl_cons, ih restNodup, OrderedDict.entries_set_of_not_mem isFresh,
          List.append_assoc, List.singleton_append]
        intro key mem
        rw [OrderedDict.keys_set, if_neg isFresh, List.mem_append, not_or]
        refine ⟨fresh key (List.mem_cons_of_mem _ mem), fun same => ?_⟩
        rw [List.mem_singleton.mp same] at mem
        exact absent mem
  exact folded .empty fun _ _ => List.not_mem_nil

/-- The ports that have uplinks are not the hosts'. -/
theorem uplink_ne_hostPort {spine : Nat} (small : spine < 8) :
    leafUplinkEth spine ≠ "Ethernet32" ∧ leafUplinkEth spine ≠ "Ethernet36" := by
  constructor
  · intro same
    have number := numbered_injective (m := 32) same
    omega
  · intro same
    have number := numbered_injective (m := 36) same
    omega

theorem uplink_ne_loopback (spine : Nat) : leafUplinkEth spine ≠ "Loopback0" := by
  intro same
  have chars := congrArg (fun text : String => text.toList.head?) same
  rw [leafUplinkEth, String.toList_append] at chars
  exact absurd chars (by simp)

theorem port_of_loopback {v4 v6 : String} {key : IfaceKey}
    (mem : key ∈ (loopbackAssignments v4 v6).map Prod.fst) : key.port = "Loopback0" := by
  simp only [loopbackAssignments, List.map_cons, List.map_nil, List.mem_cons, List.not_mem_nil,
    or_false] at mem
  rcases mem with rfl | rfl | rfl <;> rfl

theorem port_of_uplink {topo : Topo} {leaf : Nat} {key : IfaceKey}
    (mem : key ∈ (uplinkAssignments topo leaf).map Prod.fst) :
    ∃ spine < topo.numSpines, key.port = leafUplinkEth spine := by
  obtain ⟨assignment, isUplink, rfl⟩ := List.mem_map.mp mem
  obtain ⟨spine, isSpine, inSpine⟩ := List.mem_flatMap.mp isUplink
  refine ⟨spine, List.mem_range.mp isSpine, ?_⟩
  simp only [List.mem_cons, List.not_mem_nil, or_false] at inSpine
  rcases inSpine with rfl | rfl <;> rfl

theorem port_of_hostPort {leaf : Nat} {key : IfaceKey}
    (mem : key ∈ (hostPortAssignments leaf).map Prod.fst) :
    key.port = "Ethernet32" ∨ key.port = "Ethernet36" := by
  simp only [hostPortAssignments, List.map_cons, List.map_nil, List.mem_cons, List.not_mem_nil,
    or_false] at mem
  rcases mem with rfl | rfl | rfl | rfl <;> simp

theorem leafAssignments_nodup {topo : Topo} (free : topo.numSpines ≤ 8) (plane leaf : Nat) :
    ((loopbackAssignments (leafLoopbackV4 plane leaf) (leafLoopback plane leaf) ++
      uplinkAssignments topo leaf ++ hostPortAssignments leaf).map Prod.fst).Nodup := by
  have loopbacks : leafLoopbackV4 plane leaf ++ "/32" ≠ leafLoopback plane leaf ++ "/128" :=
    suffix_ne '2' '8' rfl rfl (by decide)
  rw [List.map_append, List.map_append, List.nodup_append, List.nodup_append]
  refine ⟨⟨?_, ?_, ?_⟩, ?_, ?_⟩
  · simp [loopbackAssignments, loopbacks]
  · rw [uplinkAssignments, List.map_flatMap]
    refine nodup_flatMap_of_owner IfaceKey.port leafUplinkEth
      (List.nodup_range.imp fun {spine other} distinct same => ?_) (fun spine _ => by simp)
      fun spine _ key mem => ?_
    · have number := numbered_injective same
      omega
    · simp only [List.map_cons, List.map_nil, List.mem_cons, List.not_mem_nil, or_false] at mem
      rcases mem with rfl | rfl <;> rfl
  · rintro key isLoopback _ isUplink rfl
    obtain ⟨spine, _, uplink⟩ := port_of_uplink isUplink
    exact uplink_ne_loopback spine (uplink.symm.trans (port_of_loopback isLoopback))
  · simp [hostPortAssignments]
  · rintro key isFabric _ isHost rfl
    have hostPort := port_of_hostPort isHost
    rcases List.mem_append.mp isFabric with isLoopback | isUplink
    · rw [port_of_loopback isLoopback] at hostPort
      exact absurd hostPort (by decide)
    · obtain ⟨spine, isSpine, uplink⟩ := port_of_uplink isUplink
      obtain ⟨notGreen, notYellow⟩ := uplink_ne_hostPort (lt_of_lt_of_le isSpine free)
      rw [uplink] at hostPort
      exact hostPort.elim notGreen notYellow

theorem leafEntries {topo : Topo} (free : topo.numSpines ≤ 8) (plane leaf : Nat) :
    (writeLeafConfigDb topo plane leaf).entries =
      loopbackAssignments (leafLoopbackV4 plane leaf) (leafLoopback plane leaf) ++
        uplinkAssignments topo leaf ++ hostPortAssignments leaf :=
  assignAll_entries (leafAssignments_nodup free plane leaf)

/-- Only the green host's port is in the VRF. -/
theorem vrfPorts_eq {topo : Topo} (free : topo.numSpines ≤ 8) (plane leaf : Nat) :
    vrfPorts (writeLeafConfigDb topo plane leaf) greenVrf = ["Ethernet32"] := by
  rw [vrfPorts, leafEntries free, List.filterMap_append, List.filterMap_append, uplinkAssignments,
    List.filterMap_flatMap]
  simp [loopbackAssignments, hostPortAssignments]

/-- The green host's address is on the connected prefix of its port alone. -/
theorem connectedPorts_eq {topo : Topo} (fits : Fits topo) (plane : Nat) {leaf : Nat}
    (isLeaf : leaf < topo.numLeaves) :
    connectedPorts (writeLeafConfigDb topo plane leaf) greenVrf (tenantGroups .green leaf 2) =
      ["Ethernet32"] := by
  have small : leaf < 65536 := lt_of_lt_of_le isLeaf (fits.leaves.trans (by decide))
  have read : prefixGroups (hostAnycastPrefix .green leaf ++ "::1/64") =
      some (tenantGroups .green leaf 1, 64) :=
    prefixGroups_anycast .green small ['1'] ['6', '4'] (by decide)
      (List.cons_ne_nil _ _) (by decide) (by decide)
  have inside : inPrefix (tenantGroups .green leaf 1, 64) (tenantGroups .green leaf 2) := by
    simp [inPrefix, tenantGroups]
  have uplinks : ((uplinkAssignments topo leaf).map Prod.fst).filterMap (fun key =>
      if ["Ethernet32"].contains key.port ∧ ((key.addr.bind prefixGroups).any fun net =>
        inPrefix net (tenantGroups .green leaf 2)) then some key.port else none) = [] := by
    refine List.filterMap_eq_nil_iff.mpr fun key mem => if_neg ?_
    rintro ⟨isGreen, _⟩
    obtain ⟨spine, isSpine, uplink⟩ := port_of_uplink mem
    have notGreen := (uplink_ne_hostPort (lt_of_lt_of_le isSpine fits.spines)).1
    rw [uplink] at isGreen
    simp at isGreen
    exact notGreen isGreen
  rw [connectedPorts, vrfPorts_eq fits.spines, OrderedDict.keys, leafEntries fits.spines,
    List.map_append, List.map_append, List.filterMap_append, List.filterMap_append, uplinks]
  simp [loopbackAssignments, hostPortAssignments, read, inside]

/-! ## Single hops -/

/-- A uA SID whose port and nexthop are read passes the packet on along that port. -/
theorem act_ua {topo : Topo} {place next : Endpoint} {sid interface nexthop iface : String}
    {groups : List Nat} (isIface : clabIface? interface = some iface)
    (read : addrGroups nexthop = some groups)
    (sent : sendTo topo place.node iface groups = some next) (packet : UsidPacket) :
    act topo place (.frr ⟨sid, .uA interface nexthop⟩) packet =
      .pass next { packet with outer := shift packet.outer } := by
  have onward : uaNext topo place.node interface nexthop = some next := by
    unfold uaNext
    rw [isIface, Option.bind_some, read, Option.bind_some, sent]
  unfold act
  dsimp only
  rw [onward]

section Hops

variable {topo : Topo} (fits : Fits topo) {plane : Nat} (isPlane : plane < topo.numPlanes)

include fits isPlane

theorem act_uplink {spine leaf : Nat} (isSpine : spine < topo.numSpines)
    (isLeaf : leaf < topo.numLeaves) (iface : String) (packet : UsidPacket) :
    act topo ⟨leafName plane leaf, iface⟩ (uplinkSid topo plane leaf spine) packet =
      .pass ⟨spineName plane spine, eth (leaf + 1)⟩ { packet with outer := shift packet.outer } := by
  have nexthop : addrGroups (p2pPrefix topo spine leaf ++ "::0") =
      some (linkGroups topo spine leaf 0) :=
    addrGroups_p2p (linkIdx_lt fits isSpine isLeaf) ['0'] (by decide) rfl
  exact act_ua (clabIface?_ethernet spine) nexthop (sendTo_spine fits isPlane isSpine isLeaf) packet

theorem act_downlink {spine leaf : Nat} (isSpine : spine < topo.numSpines)
    (isLeaf : leaf < topo.numLeaves) (iface : String) (packet : UsidPacket) :
    act topo ⟨spineName plane spine, iface⟩ (downlinkSid topo plane spine leaf) packet =
      .pass ⟨leafName plane leaf, eth (spine + 1)⟩ { packet with outer := shift packet.outer } := by
  have nexthop : addrGroups (p2pPrefix topo spine leaf ++ "::1") =
      some (linkGroups topo spine leaf 1) :=
    addrGroups_p2p (linkIdx_lt fits isSpine isLeaf) ['1'] (by decide) rfl
  exact act_ua (clabIface?_ethernet leaf) nexthop (sendTo_leaf fits isPlane isSpine isLeaf) packet

theorem act_host {leaf : Nat} (isLeaf : leaf < topo.numLeaves) (iface : String) (packet : UsidPacket) :
    act topo ⟨leafName plane leaf, iface⟩ (hostSid plane leaf) packet =
      .pass ⟨hostName Tenant.yellow.name leaf, eth (plane + 1)⟩
        { packet with outer := shift packet.outer } := by
  have small : leaf < 65536 := lt_of_lt_of_le isLeaf (fits.leaves.trans (by decide))
  exact act_ua (clabIface?_ethernet 9) (addrGroups_anycast .yellow small)
    (sendTo_host fits isPlane .yellow isLeaf) packet

theorem act_decap {leaf : Nat} (isLeaf : leaf < topo.numLeaves) (iface : String) (outer : List Nat) :
    act topo ⟨leafName plane leaf, iface⟩ (decapSid plane) ⟨outer, tenantGroups .green leaf 2⟩ =
      .stop (.delivered ⟨leafName plane leaf, iface⟩
        ⟨hostName Tenant.green.name leaf, eth (plane + 1)⟩) := by
  have send := sendTo_host fits isPlane .green isLeaf
  rw [hostPort] at send
  have found : nodeNamed? topo (leafName plane leaf) = some (.leaf plane leaf) :=
    nodeNamed?_name (leaf_mem_nodes isPlane isLeaf)
  unfold decapSid act
  dsimp only
  unfold vrfLookup
  rw [found]
  dsimp only
  rw [connectedPorts_eq fits plane isLeaf]
  dsimp only
  rw [clabIface?_hostPorts.1, Option.bind_some, send]

theorem act_local {host : Nat} (isHost : host < topo.numLeaves) (iface : String) (outer : List Nat) :
    act topo ⟨hostName Tenant.yellow.name host, iface⟩ (localSid plane)
        ⟨outer, tenantGroups .yellow host 2⟩ =
      .stop (.delivered ⟨hostName Tenant.yellow.name host, iface⟩
        ⟨hostName Tenant.yellow.name host, iface⟩) := by
  have small : host < 65536 := lt_of_lt_of_le isHost (fits.leaves.trans (by decide))
  have found : nodeNamed? topo (hostName Tenant.yellow.name host) = some (.host .yellow host) :=
    nodeNamed?_name (host_mem_nodes .yellow isHost)
  have here : isLocal topo (hostName Tenant.yellow.name host) (tenantGroups .yellow host 2) = true := by
    rw [isLocal, found]
    refine List.any_eq_true.mpr ⟨_, host_addr_mem .yellow isPlane host, ?_⟩
    rw [prefixGroups_hostAddr .yellow small]
    simp
  unfold localSid act
  dsimp only
  rw [if_pos here]

end Hops

/-! ## Whole paths -/

/-- The nodes of a path, with the SID that is used on each. -/
def pathSids (topo : Topo) (tenant : Tenant) (plane spine src dst : Nat) : List (String × LocalSid) :=
  [(leafName plane src, uplinkSid topo plane src spine),
    (spineName plane spine, downlinkSid topo plane spine dst)] ++
  match tenant with
  | .green => [(leafName plane dst, decapSid plane)]
  | .yellow => [(leafName plane dst, hostSid plane dst),
      (hostName Tenant.yellow.name dst, localSid plane)]

/-- Where a path ends: green is decapsulated on the leaf, yellow on the host. -/
def pathEnd (tenant : Tenant) (plane spine dst : Nat) : Verdict :=
  let host : Endpoint := ⟨hostName tenant.name dst, planeNic plane⟩
  match tenant with
  | .green => .delivered ⟨leafName plane dst, eth (spine + 1)⟩ host
  | .yellow => .delivered host host

/-- The way to the destination's leaf is the same for both tenants: up to the spine and down. -/
theorem walk_through {topo : Topo} (fits : Fits topo) {plane spine src dst : Nat}
    (isPlane : plane < topo.numPlanes) (isSpine : spine < topo.numSpines)
    (isSrc : src < topo.numLeaves) (isDst : dst < topo.numLeaves) (iface : String)
    {function : Nat} (small : function < 65536) (argument : Nat) (inner : List Nat)
    {hops : List (Hop Endpoint LocalSid UsidPacket)} {verdict : Verdict}
    (last : (net topo).Walk ⟨leafName plane dst, eth (spine + 1)⟩
      ⟨[0xfc00, plane, function, argument, 0, 0, 0, 0], inner⟩ hops verdict) :
    ∃ up down, (net topo).Walk ⟨leafName plane src, iface⟩
        ⟨[0xfc00, plane, 0xf000 + spine, 0xe000 + dst, function, argument, 0, 0], inner⟩
        (up :: down :: hops) verdict ∧
      (up.place.node, up.segment) = (leafName plane src, uplinkSid topo plane src spine) ∧
      (down.place.node, down.segment) = (spineName plane spine, downlinkSid topo plane spine dst) := by
  have dst16 : dst < 16 := lt_of_lt_of_le isDst fits.leaves
  have down : (net topo).Walk _ _ _ _ := .pass
    (matching_downlink fits isPlane isSpine isDst (eth (src + 1)) function small
      [argument, 0, 0, 0] inner)
    (act_downlink fits isPlane isSpine isDst (eth (src + 1)) _) last
  have up : (net topo).Walk _ _ _ _ := .pass
    (matching_uplink fits isPlane isSrc isSpine iface (0xe000 + dst) (by omega)
      [function, argument, 0, 0] inner)
    (act_uplink fits isPlane isSpine isSrc iface _) down
  exact ⟨_, _, up, rfl, rfl⟩

/-- A packet with the uSID list of a path takes it. -/
theorem walk_path {topo : Topo} (fits : Fits topo) (tenant : Tenant) {plane spine src dst : Nat}
    (isPlane : plane < topo.numPlanes) (isSpine : spine < topo.numSpines)
    (isSrc : src < topo.numLeaves) (isDst : dst < topo.numLeaves) (iface : String) :
    ∃ hops, (net topo).Walk ⟨leafName plane src, iface⟩
        ⟨outerGroups tenant plane spine dst, tenantGroups tenant dst 2⟩ hops
        (pathEnd tenant plane spine dst) ∧
      hops.map (fun hop => (hop.place.node, hop.segment)) =
        pathSids topo tenant plane spine src dst := by
  cases tenant with
  | green =>
      have last : (net topo).Walk _ _ _ _ := .stop
        (matching_decap fits isPlane isDst (eth (spine + 1)) [0, 0, 0, 0] (tenantGroups .green dst 2))
        (act_decap fits isPlane isDst (eth (spine + 1)) _)
      obtain ⟨up, down, walk, onUp, onDown⟩ :=
        walk_through fits isPlane isSpine isSrc isDst iface (by decide) 0 _ last
      refine ⟨_, walk, ?_⟩
      rw [List.map_cons, List.map_cons, onUp, onDown]
      rfl
  | yellow =>
      have last : (net topo).Walk _ _ _ _ := .stop
        (matching_local fits isPlane isDst (eth (plane + 1)) [0, 0, 0, 0] (tenantGroups .yellow dst 2))
        (act_local fits isPlane isDst (eth (plane + 1)) _)
      have toHost : (net topo).Walk _ _ _ _ := .pass
        (matching_host fits isPlane isDst (eth (spine + 1)) [0, 0, 0, 0] (tenantGroups .yellow dst 2))
        (act_host fits isPlane isDst (eth (spine + 1)) _) last
      obtain ⟨up, down, walk, onUp, onDown⟩ :=
        walk_through fits isPlane isSpine isSrc isDst iface (by decide) 0xd001 _ toHost
      refine ⟨_, walk, ?_⟩
      rw [List.map_cons, List.map_cons, onUp, onDown]
      rfl

/-- On a walk that delivers, the nexthop of every uA SID is an address of the peer there. -/
theorem nexthop_of_delivered {topo : Topo} {entry decap host : Endpoint} {packet : UsidPacket}
    {hops : List (Hop Endpoint LocalSid UsidPacket)}
    (walk : (net topo).Walk entry packet hops (.delivered decap host))
    {hop : Hop Endpoint LocalSid UsidPacket} (mem : hop ∈ hops) {sid interface nexthop : String}
    (isUA : hop.segment = .frr ⟨sid, .uA interface nexthop⟩) :
    ∃ iface groups next, clabIface? interface = some iface ∧ addrGroups nexthop = some groups ∧
      peer? topo ⟨hop.place.node, iface⟩ = some next ∧ hasAddr topo next groups := by
  have sent : ∃ next, uaNext topo hop.place.node interface nexthop = some next := by
    have acted := walk.act_eq mem
    rw [isUA] at acted
    cases sending : uaNext topo hop.place.node interface nexthop with
    | some next => exact ⟨next, rfl⟩
    | none =>
        have lost : (net topo).act hop.place (.frr ⟨sid, .uA interface nexthop⟩) hop.packet =
            .stop .lost := by
          change act topo hop.place (.frr ⟨sid, .uA interface nexthop⟩) hop.packet = _
          rw [act, sending]
        rw [lost] at acted
        rcases acted with stopped | ⟨_, _, passed⟩
        · cases stopped
        · cases passed
  obtain ⟨next, sending⟩ := sent
  obtain ⟨iface, isIface, afterIface⟩ := Option.bind_eq_some_iff.mp sending
  obtain ⟨groups, read, afterRead⟩ := Option.bind_eq_some_iff.mp afterIface
  rw [sendTo] at afterRead
  cases linked : peer? topo ⟨hop.place.node, iface⟩ with
  | none =>
      rw [linked] at afterRead
      cases afterRead
  | some peer =>
      rw [linked] at afterRead
      dsimp only at afterRead
      split at afterRead
      · next present => exact ⟨iface, groups, peer, isIface, read, linked, present⟩
      · cases afterRead

/-- The uSID list of a path delivers along that path and no other. -/
theorem usid_path_delivers {topo : Topo} (fits : Fits topo) {tenant : Tenant}
    (known : tenant.name ∈ topo.tenants) {plane spine src dst : Nat}
    (isPlane : plane < topo.numPlanes) (isSpine : spine < topo.numSpines)
    (isSrc : src < topo.numLeaves) (isDst : dst < topo.numLeaves) :
    ∃ outer inner outerDst innerDst entry hops,
      topo.usidOuterDst tenant.name plane spine dst = .ok outer ∧
      Routes.buildSegs tenant plane spine dst = outer ∧ addrGroups outer = some outerDst ∧
      topo.innerAddr tenant.name dst = .ok inner ∧ addrGroups inner = some innerDst ∧
      peer? topo ⟨hostName tenant.name src, planeNic plane⟩ = some entry ∧
      (net topo).Walk entry ⟨outerDst, innerDst⟩ hops (pathEnd tenant plane spine dst) ∧
      hops.map (fun hop => (hop.place.node, hop.segment)) = pathSids topo tenant plane spine src dst ∧
      (∀ others verdict, (net topo).Walk entry ⟨outerDst, innerDst⟩ others verdict →
        others = hops ∧ verdict = pathEnd tenant plane spine dst) ∧
      (∀ hop ∈ hops, matching topo hop.place hop.packet = [hop.segment]) ∧
      (∀ hop ∈ hops, ∀ sid interface nexthop, hop.segment = .frr ⟨sid, .uA interface nexthop⟩ →
        ∃ iface groups next, clabIface? interface = some iface ∧ addrGroups nexthop = some groups ∧
          peer? topo ⟨hop.place.node, iface⟩ = some next ∧ hasAddr topo next groups) ∧
      hasAddr topo ⟨hostName tenant.name dst, planeNic plane⟩ innerDst := by
  have plane16 : plane < 16 := lt_of_lt_of_le isPlane fits.planes
  have spine16 : spine < 16 := lt_of_lt_of_le isSpine (fits.spines.trans (by decide))
  have dst16 : dst < 16 := lt_of_lt_of_le isDst fits.leaves
  have sameOuter : usidHead plane spine dst ++
      (if tenant.name = "green" then ":d000::" else ":e009:d001::") =
        Routes.buildSegs tenant plane spine dst := by
    cases tenant with
    | green => rfl
    | yellow => rfl
  have inner : addrGroups (String.ofList ([':'].intercalate (innerParts tenant.name dst))) =
      some (tenantGroups tenant dst 2) := by
    rw [addrGroups, ofText_inner, if_pos (by omega)]
    cases tenant with
    | green => rfl
    | yellow => rfl
  have entry := (peer?_ends fits.spines (.uplink plane src tenant)
    (mem_linkIds.mpr ⟨isPlane, isSrc⟩)).2
  obtain ⟨hops, walk, path⟩ := walk_path fits tenant isPlane isSpine isSrc isDst
    ("eth" ++ toString (hostPortNumber tenant))
  refine ⟨_, _, _, _, _, hops, ?_, rfl, addrGroups_buildSegs tenant plane16 spine16 dst16,
    innerAddr_ok known isDst, inner, entry, walk, path, fun _ _ other => walk.unique other,
    fun _ mem => walk.matching_eq mem, fun hop mem sid interface nexthop isUA => ?_,
    host_hasAddr fits tenant isPlane isDst⟩
  · rw [usidOuterDst_ok known isPlane isSpine isDst, sameOuter]
  · cases tenant with
    | green => exact nexthop_of_delivered walk mem isUA
    | yellow => exact nexthop_of_delivered walk mem isUA

theorem fits_default : Fits Topo.fourPlanes := ⟨by decide, by decide, by decide⟩

/-- Yellow, plane 2, spine 3, from host 1 to host 9: on the last leaf `e009` is the host. -/
theorem usid_path_yellow_nine :
    ∃ outerDst entry hops, addrGroups "fc00:0002:f003:e009:e009:d001::" = some outerDst ∧
      (net Topo.fourPlanes).Walk entry ⟨outerDst, tenantGroups .yellow 9 2⟩ hops
        (.delivered ⟨"yellow-host09", "eth3"⟩ ⟨"yellow-host09", "eth3"⟩) ∧
      hops.map (fun hop => hop.place.node) =
        ["p2-leaf01", "p2-spine03", "p2-leaf09", "yellow-host09"] := by
  have known : Tenant.yellow.name ∈ Topo.fourPlanes.tenants := by decide
  have isPlane : 2 < Topo.fourPlanes.numPlanes := by decide
  have isSpine : 3 < Topo.fourPlanes.numSpines := by decide
  have isSrc : 1 < Topo.fourPlanes.numLeaves := by decide
  have isDst : 9 < Topo.fourPlanes.numLeaves := by decide
  obtain ⟨outer, inner, outerDst, innerDst, entry, hops, _, segs, outerRead, innerOk, innerRead, _, walk,
    path, _⟩ := usid_path_delivers fits_default known isPlane isSpine isSrc isDst
  have innerText : inner = "2001:db8:cccc:09::2" := (Except.ok.inj innerOk).symm
  have innerGroups : addrGroups "2001:db8:cccc:09::2" = some (tenantGroups .yellow 9 2) := by decide
  rw [innerText, innerGroups] at innerRead
  obtain rfl := Option.some.inj innerRead
  refine ⟨outerDst, entry, hops, ?_, walk, ?_⟩
  · rw [← segs] at outerRead
    exact outerRead
  · have nodes := congrArg (List.map Prod.fst) path
    rw [List.map_map] at nodes
    exact nodes

end Srv6Fabric.Fabric

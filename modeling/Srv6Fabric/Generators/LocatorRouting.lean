import Srv6Fabric.Generators.Addressing
import Srv6Fabric.Library.ChoiceRouting

/-!
# Locator routes

A list of node SIDs names switches, not links: the way to each is that of the static routes,
which offer every spine.  A uN SID moves the list up and has the new destination looked up
again where it stands.  Whatever the choices, the list of a destination's leaf arrives there.
-/

namespace Srv6Fabric.Fabric

open Library SegmentRouting Topo IpAddress
open Routes (tenantNumber parseHextet_tenantGroup parseHextet_host)

/-! ## Routes -/

/-- The interfaces of the default VRF whose connected prefix an address is in. -/
def connectedIfaces (table : IfaceTable) (groups : List Nat) : List String :=
  table.keys.filterMap fun key =>
    if ¬ (vrfPorts table greenVrf).contains key.port ∧
      ((key.addr.bind prefixGroups).any fun net => inPrefix net groups) then clabIface? key.port
    else none

/-- The interface table of a switch. -/
def Node.table? (topo : Topo) : Node → Option IfaceTable
  | leaf plane index => some (writeLeafConfigDb topo plane index)
  | spine plane index => some (writeSpineConfigDb topo plane index)
  | host .. => none

/-- The neighbour that has a nexthop's address, on the interface that is connected to it. -/
def resolve (topo : Topo) (node : Node) (nexthop : String) : Option Endpoint := do
  let table ← node.table? topo
  let groups ← addrGroups nexthop
  match connectedIfaces table groups with
  | [iface] => sendTo topo node.name iface groups
  | _ => none

/-- The routes of a node, with the neighbour each goes by: the static routes of a switch, and
the `ip -6 route add` lines of a host. -/
def Node.routes (topo : Topo) : Node → List (String × Option Endpoint)
  | leaf plane index => (leafStaticRoutes topo plane index).map fun route =>
      (route.1, resolve topo (leaf plane index) route.2)
  | spine plane index => (spineStaticRoutes topo plane index).map fun route =>
      (route.1, resolve topo (spine plane index) route.2)
  | host tenant index => (hostExec topo tenant index).filterMap fun
      | .routeAdd dst gateway dev =>
          some (dst, (addrGroups gateway).bind (sendTo topo (host tenant index).name dev))
      | _ => none

/-- The routes that cover a destination, by the lengths of their prefixes. -/
def Node.covering (topo : Topo) (node : Node) (outer : List Nat) :
    List (Nat × Option Endpoint) :=
  (node.routes topo).filterMap fun route => do
    let net ← prefixGroups route.1
    if inPrefix net outer then some (net.2, route.2) else none

/-- What may come of a packet at a node: what its SID does, or else one of its longest routes.
A list that ends in a uN SID is lost here. -/
def routedChoices (topo : Topo) (place : Endpoint) (packet : UsidPacket) :
    List (Action Endpoint UsidPacket Verdict) :=
  match matching topo place packet with
  | [.frr ⟨_, .uN⟩] =>
      if (shift packet.outer).getD 2 0 = 0 then [.stop .lost]
      else [.pass place { packet with outer := shift packet.outer }]
  | [sid] => [act topo place sid packet]
  | _ :: _ => [.stop .lost]
  | [] =>
      match nodeNamed? topo place.node with
      | none => [.stop .lost]
      | some node => (longest (node.covering topo packet.outer)).map fun
          | some next => .pass next packet
          | none => .stop .lost

/-- The fabric with its locator routes. -/
def routed (topo : Topo) : ChoiceNet Endpoint UsidPacket Verdict where
  choices := routedChoices topo

/-! ## Nexthops -/

/-- The one index that a list over all indices yields something for. -/
theorem flatMap_range_eq {α : Type} {bound index : Nat} (isIndex : index < bound) {yield : Nat → List α}
    (others : ∀ other < bound, other ≠ index → yield other = []) :
    (List.range bound).flatMap yield = yield index := by
  induction bound with
  | zero => exact absurd isIndex (Nat.not_lt_zero _)
  | succ bound ih =>
      rw [List.range_succ, List.flatMap_append, List.flatMap_singleton]
      rcases Nat.lt_succ_iff_lt_or_eq.mp isIndex with below | rfl
      · rw [ih below fun other isOther => others other (Nat.lt_succ_of_lt isOther),
          others bound (Nat.lt_succ_self _) (by omega), List.append_nil]
      · have before : (List.range index).flatMap yield = [] :=
          List.flatMap_eq_nil_iff.mpr fun other mem =>
            others other (Nat.lt_succ_of_lt (List.mem_range.mp mem)) (List.mem_range.mp mem).ne
        rw [before, List.nil_append]

/-- An address of a link is on the network of that link alone. -/
theorem inPrefix_link {topo : Topo} {spine leaf other otherLeaf side otherSide : Nat} (isSide : side < 2)
    (isOtherSide : otherSide < 2) :
    inPrefix (linkGroups topo other otherLeaf otherSide, 127) (linkGroups topo spine leaf side) =
      decide (linkIdx topo spine leaf = linkIdx topo other otherLeaf) := by
  have low : side / 2 = 0 := Nat.div_eq_of_lt isSide
  have otherLow : otherSide / 2 = 0 := Nat.div_eq_of_lt isOtherSide
  simp [inPrefix, linkGroups, low, otherLow]

theorem inPrefix_tenant {topo : Topo} (tenant : Tenant) {spine leaf host side otherSide : Nat} :
    inPrefix (tenantGroups tenant host otherSide, 64) (linkGroups topo spine leaf side) = false := by
  cases tenant <;> simp [inPrefix, linkGroups, tenantGroups, tenantNumber]

theorem clabIface?_loopback : clabIface? "Loopback0" = none := by decide

theorem spineAssignments_nodup (topo : Topo) (plane spine : Nat) :
    ((loopbackAssignments (spineLoopbackV4 plane spine) (spineLoopback plane spine) ++
      downlinkAssignments topo spine).map Prod.fst).Nodup := by
  have loopbacks : spineLoopbackV4 plane spine ++ "/32" ≠ spineLoopback plane spine ++ "/128" :=
    suffix_ne '2' '8' rfl rfl (by decide)
  rw [List.map_append, List.nodup_append]
  refine ⟨?_, ?_, ?_⟩
  · simp [loopbackAssignments, loopbacks]
  · rw [downlinkAssignments, List.map_flatMap]
    refine nodup_flatMap_of_owner IfaceKey.port spineDownlinkEth
      (List.nodup_range.imp fun {leaf other} distinct same => ?_) (fun leaf _ => by simp)
      fun leaf _ key mem => ?_
    · have number := numbered_injective same
      omega
    · simp only [List.map_cons, List.map_nil, List.mem_cons, List.not_mem_nil, or_false] at mem
      rcases mem with rfl | rfl <;> rfl
  · rintro key isLoopback _ isDownlink rfl
    obtain ⟨assignment, inDownlinks, sameKey⟩ := List.mem_map.mp isDownlink
    obtain ⟨leaf, -, inLeaf⟩ := List.mem_flatMap.mp inDownlinks
    have port : key.port = leafUplinkEth leaf := by
      simp only [List.mem_cons, List.not_mem_nil, or_false] at inLeaf
      rcases inLeaf with rfl | rfl
      · exact (congrArg IfaceKey.port sameKey).symm
      · exact (congrArg IfaceKey.port sameKey).symm
    exact uplink_ne_loopback leaf (port.symm.trans (port_of_loopback isLoopback))

theorem spineEntries (topo : Topo) (plane spine : Nat) :
    (writeSpineConfigDb topo plane spine).entries =
      loopbackAssignments (spineLoopbackV4 plane spine) (spineLoopback plane spine) ++
        downlinkAssignments topo spine :=
  assignAll_entries (spineAssignments_nodup topo plane spine)

section Nexthops

variable {topo : Topo} (fits : Fits topo)

include fits

/-- The interface of a leaf toward a spine is the one that is connected to their link. -/
theorem connectedIfaces_leaf (plane : Nat) {spine leaf : Nat} (isSpine : spine < topo.numSpines)
    (isLeaf : leaf < topo.numLeaves) :
    connectedIfaces (writeLeafConfigDb topo plane leaf) (linkGroups topo spine leaf 0) =
      [eth (spine + 1)] := by
  have small : leaf < 65536 := lt_of_lt_of_le isLeaf (fits.leaves.trans (by decide))
  have yellow : prefixGroups (hostAnycastPrefix .yellow leaf ++ "::1/64") =
      some (tenantGroups .yellow leaf 1, 64) :=
    prefixGroups_anycast .yellow small ['1'] ['6', '4'] (by decide)
      (List.cons_ne_nil _ _) (by decide) (by decide)
  have uplinks : ((uplinkAssignments topo leaf).map Prod.fst).filterMap (fun key =>
      if ¬ ["Ethernet32"].contains key.port ∧ ((key.addr.bind prefixGroups).any fun net =>
        inPrefix net (linkGroups topo spine leaf 0)) then clabIface? key.port else none) =
      [eth (spine + 1)] := by
    have read {other : Nat} (isOther : other < topo.numSpines) :
        prefixGroups (p2pPrefix topo other leaf ++ "::1/127") =
          some (linkGroups topo other leaf 1, 127) :=
      prefixGroups_p2p (linkIdx_lt fits isOther isLeaf) ['1'] (by decide) rfl
    have notHost {other : Nat} (isOther : other < topo.numSpines) :
        leafUplinkEth other ≠ "Ethernet32" :=
      (uplink_ne_hostPort (lt_of_lt_of_le isOther fits.spines)).1
    rw [uplinkAssignments, List.map_flatMap, List.filterMap_flatMap]
    refine (flatMap_range_eq isSpine fun other isOther apart => ?_).trans ?_
    · have otherLink : linkIdx topo spine leaf ≠ linkIdx topo other leaf := by
        intro same
        have scaled : spine * topo.numLeaves = other * topo.numLeaves := Nat.add_right_cancel same
        exact apart (Nat.eq_of_mul_eq_mul_right (Nat.zero_lt_of_lt isLeaf) scaled).symm
      simp [read isOther, inPrefix_link, otherLink]
    · have port : clabIface? (leafUplinkEth spine) = some (eth (spine + 1)) := clabIface?_ethernet spine
      simp [read isSpine, inPrefix_link, notHost isSpine, port]
  rw [connectedIfaces, vrfPorts_eq fits.spines, OrderedDict.keys, leafEntries fits.spines,
    List.map_append, List.map_append, List.filterMap_append, List.filterMap_append, uplinks]
  simp [loopbackAssignments, hostPortAssignments, yellow, inPrefix_tenant, clabIface?_loopback]

/-- The interface of a spine toward a leaf is the one that is connected to their link. -/
theorem connectedIfaces_spine (plane : Nat) {spine leaf : Nat} (isSpine : spine < topo.numSpines)
    (isLeaf : leaf < topo.numLeaves) :
    connectedIfaces (writeSpineConfigDb topo plane spine) (linkGroups topo spine leaf 1) =
      [eth (leaf + 1)] := by
  have read {other : Nat} (isOther : other < topo.numLeaves) :
      prefixGroups (p2pPrefix topo spine other ++ "::0/127") =
        some (linkGroups topo spine other 0, 127) :=
    prefixGroups_p2p (linkIdx_lt fits isSpine isOther) ['0'] (by decide) rfl
  have noVrf : vrfPorts (writeSpineConfigDb topo plane spine) greenVrf = [] := by
    rw [vrfPorts, spineEntries, List.filterMap_append, downlinkAssignments, List.filterMap_flatMap]
    simp [loopbackAssignments]
  have downlinks : ((downlinkAssignments topo spine).map Prod.fst).filterMap (fun key =>
      if ¬ ([] : List String).contains key.port ∧ ((key.addr.bind prefixGroups).any fun net =>
        inPrefix net (linkGroups topo spine leaf 1)) then clabIface? key.port else none) =
      [eth (leaf + 1)] := by
    rw [downlinkAssignments, List.map_flatMap, List.filterMap_flatMap]
    refine (flatMap_range_eq isLeaf fun other isOther apart => ?_).trans ?_
    · have otherLink : linkIdx topo spine leaf ≠ linkIdx topo spine other := fun same =>
        apart (Nat.add_left_cancel same).symm
      simp [read isOther, inPrefix_link, otherLink]
    · have port : clabIface? (spineDownlinkEth leaf) = some (eth (leaf + 1)) := clabIface?_ethernet leaf
      simp [read isLeaf, inPrefix_link, port]
  rw [connectedIfaces, noVrf, OrderedDict.keys, spineEntries, List.map_append, List.filterMap_append,
    downlinks]
  simp [loopbackAssignments, clabIface?_loopback]

theorem resolve_leaf {plane spine leaf : Nat} (isPlane : plane < topo.numPlanes)
    (isSpine : spine < topo.numSpines) (isLeaf : leaf < topo.numLeaves) :
    resolve topo (.leaf plane leaf) (p2pPrefix topo spine leaf ++ "::0") =
      some ⟨spineName plane spine, eth (leaf + 1)⟩ := by
  have nexthop : addrGroups (p2pPrefix topo spine leaf ++ "::0") =
      some (linkGroups topo spine leaf 0) :=
    addrGroups_p2p (linkIdx_lt fits isSpine isLeaf) ['0'] (by decide) rfl
  simp only [resolve, Node.table?, nexthop, Option.bind_eq_bind, Option.bind_some,
    connectedIfaces_leaf fits plane isSpine isLeaf]
  exact sendTo_spine fits isPlane isSpine isLeaf

theorem resolve_spine {plane spine leaf : Nat} (isPlane : plane < topo.numPlanes)
    (isSpine : spine < topo.numSpines) (isLeaf : leaf < topo.numLeaves) :
    resolve topo (.spine plane spine) (p2pPrefix topo spine leaf ++ "::1") =
      some ⟨leafName plane leaf, eth (spine + 1)⟩ := by
  have nexthop : addrGroups (p2pPrefix topo spine leaf ++ "::1") =
      some (linkGroups topo spine leaf 1) :=
    addrGroups_p2p (linkIdx_lt fits isSpine isLeaf) ['1'] (by decide) rfl
  simp only [resolve, Node.table?, nexthop, Option.bind_eq_bind, Option.bind_some,
    connectedIfaces_spine fits plane isSpine isLeaf]
  exact sendTo_leaf fits isPlane isSpine isLeaf

/-- A host's gateway is its leaf's address on the port toward it. -/
theorem sendTo_gateway (tenant : Tenant) {plane host : Nat} (isPlane : plane < topo.numPlanes)
    (isHost : host < topo.numLeaves) :
    sendTo topo (hostName tenant.name host) (planeNic plane) (tenantGroups tenant host 1) =
      some ⟨leafName plane host, hostPort tenant⟩ := by
  have small : host < 65536 := lt_of_lt_of_le isHost (fits.leaves.trans (by decide))
  have peer := (peer?_ends fits.spines (.uplink plane host tenant)
    (mem_linkIds.mpr ⟨isPlane, isHost⟩)).2
  have port : clabIface? (hostFacingPort tenant) = some (hostPort tenant) := by
    cases tenant with
    | green => exact clabIface?_hostPorts.1
    | yellow => exact clabIface?_hostPorts.2
  have held : hasAddr topo ⟨leafName plane host, hostPort tenant⟩ (tenantGroups tenant host 1) :=
    hasAddr_of_mem (leaf_mem_nodes isPlane isHost)
      (mem_tableAddrs (gatewayKey_mem tenant plane host) port)
      (prefixGroups_anycast tenant small ['1'] ['6', '4'] (by decide) (List.cons_ne_nil _ _)
        (by decide) (by decide))
  rw [sendTo, show peer? topo ⟨hostName tenant.name host, planeNic plane⟩ = _ from peer]
  rw [hostPort_eq] at held ⊢
  exact if_pos held

end Nexthops

/-! ## Single hops -/

/-- A /48 of a plane's block covers the lists whose first function is its own. -/
theorem inPrefix_locator (plane function isPlane current next : Nat) (rest : List Nat)
    (small : next < 65536) :
    inPrefix ([0xfc00, plane, function, 0, 0, 0, 0, 0], 48)
        (0xfc00 :: isPlane :: current :: next :: rest) =
      decide (isPlane = plane ∧ current = function) := by
  have low : next / 65536 = 0 := Nat.div_eq_of_lt small
  simp [inPrefix, low]

/-- Where no SID matches and the routes that cover the destination have one length, a packet may
take any of them. -/
theorem mem_choices {topo : Topo} {node : Node} (isNode : node ∈ nodes topo) {iface : String}
    {packet : UsidPacket} (unmatched : matching topo ⟨node.name, iface⟩ packet = []) (length : Nat)
    (ways : Endpoint → Prop)
    (covering : ∀ route, route ∈ node.covering topo packet.outer ↔
      ∃ next, ways next ∧ route = (length, some next)) (choice : Action Endpoint UsidPacket Verdict) :
    choice ∈ (routed topo).choices ⟨node.name, iface⟩ packet ↔
      ∃ next, ways next ∧ choice = .pass next packet := by
  have equal : ∀ route ∈ node.covering topo packet.outer, route.1 = length := by
    intro route mem
    obtain ⟨next, -, rfl⟩ := (covering route).mp mem
    rfl
  change choice ∈ routedChoices topo ⟨node.name, iface⟩ packet ↔ _
  rw [routedChoices, unmatched, nodeNamed?_name isNode]
  dsimp only
  rw [longest_of_equal equal, List.map_map, List.mem_map]
  constructor
  · rintro ⟨route, mem, rfl⟩
    obtain ⟨next, isWay, rfl⟩ := (covering route).mp mem
    exact ⟨next, isWay, rfl⟩
  · rintro ⟨next, isWay, rfl⟩
    exact ⟨(length, some next), (covering _).mpr ⟨next, isWay, rfl⟩, rfl⟩

theorem mem_covering {topo : Topo} {node : Node} {outer : List Nat} {route : Nat × Option Endpoint} :
    route ∈ node.covering topo outer ↔ ∃ text via net, (text, via) ∈ node.routes topo ∧
      prefixGroups text = some net ∧ inPrefix net outer ∧ route = (net.2, via) := by
  rw [Node.covering, List.mem_filterMap]
  constructor
  · rintro ⟨⟨text, via⟩, mem, found⟩
    obtain ⟨net, read, kept⟩ := Option.bind_eq_some_iff.mp found
    split at kept
    · next inside => exact ⟨text, via, net, mem, read, inside, (Option.some.inj kept).symm⟩
    · cases kept
  · rintro ⟨text, via, net, mem, read, inside, rfl⟩
    exact ⟨(text, via), mem, Option.bind_eq_some_iff.mpr ⟨net, read, if_pos inside⟩⟩

/-- The routes of a host: its planes' blocks, and its tenant's prefix. -/
theorem hostExec_routes {topo : Topo} {tenant : Tenant} {host : Nat} {dst gateway dev : String}
    (mem : .routeAdd dst gateway dev ∈ hostExec topo tenant host) :
    (∃ plane < topo.numPlanes, dst = planeAggregate plane ∧ dev = planeNic plane) ∨
      dst = tenantPrefix tenant ∧ dev = "eth1" := by
  simp only [hostExec, List.mem_append, List.mem_map, List.mem_range, ExecLine.routeAdd.injEq,
    List.mem_singleton, reduceCtorEq, and_false, exists_false, false_or] at mem
  rcases mem with ((loopback | ⟨plane, isPlane, same, _, dev⟩) | ⟨same, _, dev⟩) | localSid
  · split at loopback
    · cases List.mem_singleton.mp loopback
    · cases loopback
  · exact Or.inl ⟨plane, isPlane, same.symm, dev.symm⟩
  · exact Or.inr ⟨same, dev⟩
  · split at localSid
    · obtain ⟨_, _, other⟩ := List.mem_map.mp localSid
      cases other
    · cases localSid

theorem mem_routes_host {topo : Topo} (tenant : Tenant) {host : Nat} {text : String}
    {via : Option Endpoint} :
    (text, via) ∈ (Node.host tenant host).routes topo ↔ ∃ dst gateway dev,
      .routeAdd dst gateway dev ∈ hostExec topo tenant host ∧ text = dst ∧
        via = (addrGroups gateway).bind (sendTo topo (hostName tenant.name host) dev) := by
  rw [Node.routes, List.mem_filterMap]
  constructor
  · rintro ⟨line, mem, read⟩
    cases line with
    | addrAdd addr dev => cases read
    | routeAdd dst gateway dev =>
        obtain ⟨rfl, rfl⟩ := Prod.mk.inj (Option.some.inj read)
        exact ⟨dst, gateway, dev, mem, rfl, rfl⟩
    | endDT6 sid dev => cases read
  · rintro ⟨dst, gateway, dev, mem, rfl, rfl⟩
    exact ⟨_, mem, rfl⟩

/-- A host has no SID for a locator. -/
theorem unmatched_host {topo : Topo} (fits : Fits topo) (tenant : Tenant) {plane host : Nat}
    (isHost : host < topo.numLeaves) (iface : String) {current : Nat} (other : current ≠ 0xd001)
    {next : Nat} (small : next < 65536) (rest inner : List Nat) :
    matching topo ⟨hostName tenant.name host, iface⟩
      ⟨0xfc00 :: plane :: current :: next :: rest, inner⟩ = [] := by
  rw [show hostName tenant.name host = (Node.host tenant host).name from rfl,
    matching_node (host_mem_nodes tenant isHost)]
  cases tenant with
  | green =>
      have none : (Node.host .green host).sids topo = [] := by
        simp [Node.sids, hostExec, List.filterMap_append, List.filterMap_map]
      rw [none]
      rfl
  | yellow =>
      rw [sids_host]
      refine List.filter_eq_nil_iff.mpr fun sid mem => ?_
      obtain ⟨other, isOther, rfl⟩ := List.mem_map.mp mem
      have other16 : other < 16 := lt_of_lt_of_le (List.mem_range.mp isOther) fits.planes
      rw [covers_eq (localSid other) (prefixGroups_yellowUdtSid other16) plane current next rest small,
        decide_eq_true_eq]
      omega

/-- A uN SID moves the list up where it stands. -/
theorem choices_uN {topo : Topo} {place : Endpoint} {sid : String} {plane function next : Nat}
    {rest inner : List Nat}
    (only : matching topo place ⟨0xfc00 :: plane :: function :: next :: rest, inner⟩ =
      [.frr ⟨sid, .uN⟩]) (more : next ≠ 0) (choice : Action Endpoint UsidPacket Verdict) :
    choice ∈ (routed topo).choices place ⟨0xfc00 :: plane :: function :: next :: rest, inner⟩ ↔
      ∃ way, way = place ∧
        choice = .pass way ⟨0xfc00 :: plane :: next :: (rest ++ [0]), inner⟩ := by
  change choice ∈ routedChoices topo place _ ↔ _
  rw [routedChoices, only]
  dsimp only
  rw [if_neg (by simpa [shift] using more), List.mem_singleton]
  simp [shift]

section Hops

variable {topo : Topo} (fits : Fits topo) {plane : Nat} (isPlane : plane < topo.numPlanes)

include fits isPlane

theorem mem_routes_leaf {leaf : Nat} (isLeaf : leaf < topo.numLeaves) {text : String}
    {via : Option Endpoint} :
    (text, via) ∈ (Node.leaf plane leaf).routes topo ↔ ∃ spine < topo.numSpines,
      via = some ⟨spineName plane spine, eth (leaf + 1)⟩ ∧
        (text = spineLocator plane spine ∨
          ∃ other < topo.numLeaves, other ≠ leaf ∧ text = leafLocator plane other) := by
  simp only [Node.routes, leafStaticRoutes, List.map_append, List.map_map, List.map_flatMap,
    List.mem_append, List.mem_map, List.mem_flatMap, List.mem_filter, List.mem_range,
    Function.comp_apply, decide_eq_true_eq, Prod.mk.injEq]
  constructor
  · rintro (⟨spine, isSpine, rfl, rfl⟩ | ⟨other, ⟨isOther, apart⟩, spine, isSpine, rfl, rfl⟩)
    · exact ⟨spine, isSpine, resolve_leaf fits isPlane isSpine isLeaf, Or.inl rfl⟩
    · exact ⟨spine, isSpine, resolve_leaf fits isPlane isSpine isLeaf,
        Or.inr ⟨other, isOther, apart, rfl⟩⟩
  · rintro ⟨spine, isSpine, rfl, rfl | ⟨other, isOther, apart, rfl⟩⟩
    · exact Or.inl ⟨spine, isSpine, rfl, resolve_leaf fits isPlane isSpine isLeaf⟩
    · exact Or.inr ⟨other, ⟨isOther, apart⟩, spine, isSpine, rfl,
        resolve_leaf fits isPlane isSpine isLeaf⟩

theorem mem_routes_spine {spine : Nat} (isSpine : spine < topo.numSpines) {text : String}
    {via : Option Endpoint} :
    (text, via) ∈ (Node.spine plane spine).routes topo ↔ ∃ leaf < topo.numLeaves,
      via = some ⟨leafName plane leaf, eth (spine + 1)⟩ ∧ text = leafLocator plane leaf := by
  simp only [Node.routes, spineStaticRoutes, List.map_map, List.mem_map, List.mem_range,
    Function.comp_apply, Prod.mk.injEq]
  constructor
  · rintro ⟨leaf, isLeaf, rfl, rfl⟩
    exact ⟨leaf, isLeaf, resolve_spine fits isPlane isSpine isLeaf, rfl⟩
  · rintro ⟨leaf, isLeaf, rfl, rfl⟩
    exact ⟨leaf, isLeaf, rfl, resolve_spine fits isPlane isSpine isLeaf⟩

/-- What a leaf's static routes offer for a node SID. -/
theorem covering_leaf {leaf : Nat} (isLeaf : leaf < topo.numLeaves) {current next : Nat}
    (small : next < 65536) (rest : List Nat) (route : Nat × Option Endpoint) :
    route ∈ (Node.leaf plane leaf).covering topo (0xfc00 :: plane :: current :: next :: rest) ↔
      ∃ spine < topo.numSpines, route = (48, some ⟨spineName plane spine, eth (leaf + 1)⟩) ∧
        (current = 0x10 + spine ∨ ∃ other < topo.numLeaves, other ≠ leaf ∧ current = 0x20 + other) := by
  have plane16 : plane < 16 := lt_of_lt_of_le isPlane fits.planes
  have spine16 {spine : Nat} (isSpine : spine < topo.numSpines) : spine < 16 :=
    lt_of_lt_of_le isSpine (fits.spines.trans (by decide))
  have leaf16 {other : Nat} (isOther : other < topo.numLeaves) : other < 16 :=
    lt_of_lt_of_le isOther fits.leaves
  rw [mem_covering]
  constructor
  · rintro ⟨text, via, net, mem, read, inside, rfl⟩
    obtain ⟨spine, isSpine, rfl, named⟩ := (mem_routes_leaf fits isPlane isLeaf).mp mem
    rcases named with rfl | ⟨other, isOther, apart, rfl⟩
    · rw [prefixGroups_spineLocator plane16 (spine16 isSpine)] at read
      obtain rfl := Option.some.inj read
      rw [inPrefix_locator _ _ _ _ _ _ small] at inside
      exact ⟨spine, isSpine, rfl, Or.inl (of_decide_eq_true inside).2⟩
    · rw [prefixGroups_leafLocator plane16 (leaf16 isOther)] at read
      obtain rfl := Option.some.inj read
      rw [inPrefix_locator _ _ _ _ _ _ small] at inside
      exact ⟨spine, isSpine, rfl, Or.inr ⟨other, isOther, apart, (of_decide_eq_true inside).2⟩⟩
  · rintro ⟨spine, isSpine, rfl, rfl | ⟨other, isOther, apart, rfl⟩⟩
    · refine ⟨_, _, _, (mem_routes_leaf fits isPlane isLeaf).mpr ⟨spine, isSpine, rfl, Or.inl rfl⟩,
        prefixGroups_spineLocator plane16 (spine16 isSpine), ?_, rfl⟩
      rw [inPrefix_locator _ _ _ _ _ _ small]
      exact decide_eq_true ⟨rfl, rfl⟩
    · refine ⟨_, _, _, (mem_routes_leaf fits isPlane isLeaf).mpr
        ⟨spine, isSpine, rfl, Or.inr ⟨other, isOther, apart, rfl⟩⟩,
        prefixGroups_leafLocator plane16 (leaf16 isOther), ?_, rfl⟩
      rw [inPrefix_locator _ _ _ _ _ _ small]
      exact decide_eq_true ⟨rfl, rfl⟩

/-- What a spine's static routes offer for a leaf's node SID. -/
theorem covering_spine {spine leaf : Nat} (isSpine : spine < topo.numSpines)
    (isLeaf : leaf < topo.numLeaves) {next : Nat} (small : next < 65536) (rest : List Nat)
    (route : Nat × Option Endpoint) :
    route ∈ (Node.spine plane spine).covering topo
        (0xfc00 :: plane :: (0x20 + leaf) :: next :: rest) ↔
      route = (48, some ⟨leafName plane leaf, eth (spine + 1)⟩) := by
  have plane16 : plane < 16 := lt_of_lt_of_le isPlane fits.planes
  have leaf16 {other : Nat} (isOther : other < topo.numLeaves) : other < 16 :=
    lt_of_lt_of_le isOther fits.leaves
  rw [mem_covering]
  constructor
  · rintro ⟨text, via, net, mem, read, inside, rfl⟩
    obtain ⟨other, isOther, rfl, rfl⟩ := (mem_routes_spine fits isPlane isSpine).mp mem
    rw [prefixGroups_leafLocator plane16 (leaf16 isOther)] at read
    obtain rfl := Option.some.inj read
    rw [inPrefix_locator _ _ _ _ _ _ small] at inside
    rw [Nat.add_left_cancel (of_decide_eq_true inside).2]
  · rintro rfl
    refine ⟨_, _, _, (mem_routes_spine fits isPlane isSpine).mpr ⟨leaf, isLeaf, rfl, rfl⟩,
      prefixGroups_leafLocator plane16 (leaf16 isLeaf), ?_, rfl⟩
    rw [inPrefix_locator _ _ _ _ _ _ small]
    exact decide_eq_true ⟨rfl, rfl⟩

/-- A host's routes offer the leaf of the plane for every SID of it. -/
theorem covering_host (tenant : Tenant) {host : Nat} (isHost : host < topo.numLeaves) {current : Nat}
    (small : current < 65536) (rest : List Nat) (route : Nat × Option Endpoint) :
    route ∈ (Node.host tenant host).covering topo (0xfc00 :: plane :: current :: rest) ↔
      route = (32, some ⟨leafName plane host, hostPort tenant⟩) := by
  have host16 : host < 65536 := lt_of_lt_of_le isHost (fits.leaves.trans (by decide))
  have via : (addrGroups (hostAnycastPrefix tenant host ++ "::1")).bind
      (sendTo topo (hostName tenant.name host) (planeNic plane)) =
        some ⟨leafName plane host, hostPort tenant⟩ := by
    rw [addrGroups_gateway tenant host16, Option.bind_some]
    exact sendTo_gateway fits tenant isPlane isHost
  have low : current / 65536 = 0 := Nat.div_eq_of_lt small
  have inBlock (other : Nat) : inPrefix ([0xfc00, other, 0, 0, 0, 0, 0, 0], 32)
      (0xfc00 :: plane :: current :: rest) = decide (plane = other) := by
    simp [inPrefix, low]
  have notTenant : inPrefix ([0x2001, 0xdb8, tenantNumber tenant, 0, 0, 0, 0, 0], 48)
      (0xfc00 :: plane :: current :: rest) = false := by
    simp [inPrefix]
  rw [mem_covering]
  constructor
  · rintro ⟨text, _, net, mem, read, inside, rfl⟩
    obtain ⟨dst, gateway, dev, isRoute, rfl, rfl⟩ := (mem_routes_host tenant).mp mem
    obtain rfl := hostExec_gateway isRoute
    rcases hostExec_routes isRoute with ⟨other, isOther, rfl, rfl⟩ | ⟨rfl, rfl⟩
    · rw [prefixGroups_planeAggregate (lt_of_lt_of_le isOther fits.planes)] at read
      obtain rfl := Option.some.inj read
      rw [inBlock] at inside
      obtain rfl := of_decide_eq_true inside
      rw [via]
    · rw [prefixGroups_tenantPrefix] at read
      obtain rfl := Option.some.inj read
      rw [notTenant] at inside
      cases inside
  · rintro rfl
    refine ⟨_, _, _, (mem_routes_host tenant).mpr
      ⟨_, _, _, planeRoute_mem tenant isPlane host, rfl, rfl⟩,
      prefixGroups_planeAggregate (lt_of_lt_of_le isPlane fits.planes), ?_, by rw [via]⟩
    rw [inBlock]
    exact decide_eq_true rfl

/-! ## What matches a node SID -/

/-- A leaf has no SID for another switch's locator. -/
theorem unmatched_leaf {leaf : Nat} (isLeaf : leaf < topo.numLeaves) (iface : String) {current : Nat}
    (low : current < 0x30) (other : current ≠ 0x20 + leaf) {next : Nat} (small : next < 65536)
    (rest inner : List Nat) :
    matching topo ⟨leafName plane leaf, iface⟩
      ⟨0xfc00 :: plane :: current :: next :: rest, inner⟩ = [] := by
  rw [show leafName plane leaf = (Node.leaf plane leaf).name from rfl,
    matching_node (leaf_mem_nodes isPlane isLeaf), covers_leaf fits isPlane isLeaf _ _ _ small,
    no_uplink topo (by omega), if_neg other, if_neg (by omega), if_neg (by omega)]
  rfl

/-- On a leaf its own locator is the uN SID. -/
theorem matching_leaf_uN {leaf : Nat} (isLeaf : leaf < topo.numLeaves) (iface : String) {next : Nat}
    (small : next < 65536) (rest inner : List Nat) :
    matching topo ⟨leafName plane leaf, iface⟩
      ⟨0xfc00 :: plane :: (0x20 + leaf) :: next :: rest, inner⟩ =
        [.frr ⟨leafLocator plane leaf, .uN⟩] := by
  have leaf16 : leaf < 16 := lt_of_lt_of_le isLeaf fits.leaves
  rw [show leafName plane leaf = (Node.leaf plane leaf).name from rfl,
    matching_node (leaf_mem_nodes isPlane isLeaf), covers_leaf fits isPlane isLeaf _ _ _ small,
    no_uplink topo (by omega), if_pos rfl, if_neg (by omega), if_neg (by omega)]
  rfl

/-- What a spine has for a node SID: its own uN SID, or nothing. -/
theorem matching_spine {spine : Nat} (isSpine : spine < topo.numSpines) (iface : String)
    {current : Nat} (low : current < 0x30) {next : Nat} (small : next < 65536) (rest inner : List Nat) :
    matching topo ⟨spineName plane spine, iface⟩
      ⟨0xfc00 :: plane :: current :: next :: rest, inner⟩ =
        if current = 0x10 + spine then [.frr ⟨spineLocator plane spine, .uN⟩] else [] := by
  have plane16 : plane < 16 := lt_of_lt_of_le isPlane fits.planes
  have spine16 : spine < 16 := lt_of_lt_of_le isSpine (fits.spines.trans (by decide))
  have locator := covers_eq (.frr ⟨spineLocator plane spine, .uN⟩)
    (prefixGroups_spineLocator plane16 spine16) plane current next rest small
  have downlinks : ((List.range topo.numLeaves).map (downlinkSid topo plane spine)).filter
      (LocalSid.covers (0xfc00 :: plane :: current :: next :: rest)) = [] := by
    refine List.filter_eq_nil_iff.mpr fun sid mem => ?_
    obtain ⟨leaf, isLeaf, rfl⟩ := List.mem_map.mp mem
    have leaf16 : leaf < 16 := lt_of_lt_of_le (List.mem_range.mp isLeaf) fits.leaves
    rw [covers_eq (downlinkSid topo plane spine leaf) (prefixGroups_spineUaSid plane16 leaf16) plane
      current next rest small, decide_eq_true_eq]
    omega
  rw [show spineName plane spine = (Node.spine plane spine).name from rfl,
    matching_node (spine_mem_nodes isPlane isSpine), sids_spine, List.filter_cons, locator, downlinks]
  simp

/-! ## Ways -/

/-- From a host to its leaf. -/
theorem choices_host (tenant : Tenant) {host : Nat} (isHost : host < topo.numLeaves) (iface : String)
    {current next : Nat} (other : current ≠ 0xd001) (word : current < 65536) (small : next < 65536)
    (rest inner : List Nat) (choice : Action Endpoint UsidPacket Verdict) :
    choice ∈ (routed topo).choices ⟨hostName tenant.name host, iface⟩
        ⟨0xfc00 :: plane :: current :: next :: rest, inner⟩ ↔
      ∃ way, way = ⟨leafName plane host, hostPort tenant⟩ ∧
        choice = .pass way ⟨0xfc00 :: plane :: current :: next :: rest, inner⟩ :=
  mem_choices (host_mem_nodes tenant isHost)
    (unmatched_host fits tenant isHost iface other small rest inner) 32
    (· = ⟨leafName plane host, hostPort tenant⟩)
    (fun route => (covering_host fits isPlane tenant isHost word (next :: rest) route).trans
      ⟨fun same => ⟨_, rfl, same⟩, fun ⟨_, isWay, same⟩ => isWay ▸ same⟩) choice

/-- From a leaf toward another leaf: to any spine. -/
theorem choices_leaf {src dst : Nat} (isSrc : src < topo.numLeaves) (isDst : dst < topo.numLeaves)
    (apart : src ≠ dst) (iface : String) {next : Nat} (small : next < 65536) (rest inner : List Nat)
    (choice : Action Endpoint UsidPacket Verdict) :
    choice ∈ (routed topo).choices ⟨leafName plane src, iface⟩
        ⟨0xfc00 :: plane :: (0x20 + dst) :: next :: rest, inner⟩ ↔
      ∃ way, (∃ spine < topo.numSpines, way = ⟨spineName plane spine, eth (src + 1)⟩) ∧
        choice = .pass way ⟨0xfc00 :: plane :: (0x20 + dst) :: next :: rest, inner⟩ := by
  have dst16 : dst < 16 := lt_of_lt_of_le isDst fits.leaves
  refine mem_choices (leaf_mem_nodes isPlane isSrc)
    (unmatched_leaf fits isPlane isSrc iface (by omega) (by omega) small rest inner) 48 _
    (fun route => (covering_leaf fits isPlane isSrc small rest route).trans ?_) choice
  constructor
  · rintro ⟨spine, isSpine, rfl, -⟩
    exact ⟨_, ⟨spine, isSpine, rfl⟩, rfl⟩
  · rintro ⟨_, ⟨spine, isSpine, rfl⟩, rfl⟩
    exact ⟨spine, isSpine, rfl, Or.inr ⟨dst, isDst, apart.symm, rfl⟩⟩

/-- From a leaf toward a spine: over their link. -/
theorem choices_leaf_spine {leaf spine : Nat} (isLeaf : leaf < topo.numLeaves)
    (isSpine : spine < topo.numSpines) (iface : String) {next : Nat} (small : next < 65536)
    (rest inner : List Nat) (choice : Action Endpoint UsidPacket Verdict) :
    choice ∈ (routed topo).choices ⟨leafName plane leaf, iface⟩
        ⟨0xfc00 :: plane :: (0x10 + spine) :: next :: rest, inner⟩ ↔
      ∃ way, way = ⟨spineName plane spine, eth (leaf + 1)⟩ ∧
        choice = .pass way ⟨0xfc00 :: plane :: (0x10 + spine) :: next :: rest, inner⟩ := by
  have spine8 : spine < 8 := lt_of_lt_of_le isSpine fits.spines
  refine mem_choices (leaf_mem_nodes isPlane isLeaf)
    (unmatched_leaf fits isPlane isLeaf iface (by omega) (by omega) small rest inner) 48 _
    (fun route => (covering_leaf fits isPlane isLeaf small rest route).trans ?_) choice
  constructor
  · rintro ⟨other, isOther, rfl, same | ⟨otherLeaf, -, -, same⟩⟩
    · obtain rfl := Nat.add_left_cancel same
      exact ⟨_, rfl, rfl⟩
    · omega
  · rintro ⟨_, rfl, rfl⟩
    exact ⟨spine, isSpine, rfl, Or.inl rfl⟩

/-- From a spine to a leaf. -/
theorem choices_spine {spine leaf : Nat} (isSpine : spine < topo.numSpines)
    (isLeaf : leaf < topo.numLeaves) (iface : String) {next : Nat} (small : next < 65536)
    (rest inner : List Nat) (choice : Action Endpoint UsidPacket Verdict) :
    choice ∈ (routed topo).choices ⟨spineName plane spine, iface⟩
        ⟨0xfc00 :: plane :: (0x20 + leaf) :: next :: rest, inner⟩ ↔
      ∃ way, way = ⟨leafName plane leaf, eth (spine + 1)⟩ ∧
        choice = .pass way ⟨0xfc00 :: plane :: (0x20 + leaf) :: next :: rest, inner⟩ := by
  have leaf16 : leaf < 16 := lt_of_lt_of_le isLeaf fits.leaves
  have spine8 : spine < 8 := lt_of_lt_of_le isSpine fits.spines
  have unmatched : matching topo ⟨spineName plane spine, iface⟩
      ⟨0xfc00 :: plane :: (0x20 + leaf) :: next :: rest, inner⟩ = [] := by
    rw [matching_spine fits isPlane isSpine iface (by omega) small rest inner, if_neg (by omega)]
  exact mem_choices (spine_mem_nodes isPlane isSpine) unmatched 48
    (· = ⟨leafName plane leaf, eth (spine + 1)⟩)
    (fun route => (covering_spine fits isPlane isSpine isLeaf small rest route).trans
      ⟨fun same => ⟨_, rfl, same⟩, fun ⟨_, isWay, same⟩ => isWay ▸ same⟩) choice

end Hops

/-! ## Walks without node SIDs -/

/-- A walk that delivers passes no uN SID, so nothing is left to choose on it. -/
theorem settles_of_delivered {topo : Topo} {place : Endpoint} {packet : UsidPacket}
    {hops : List (Hop Endpoint LocalSid UsidPacket)} {verdict : Verdict}
    (walk : (net topo).Walk place packet hops verdict) (delivers : verdict ≠ .lost) :
    (routed topo).Settles (· = verdict) hops.length place packet ∧
      (routed topo).Outcome place packet hops.length verdict := by
  refine ChoiceNet.settles_of_walk walk fun hop mem => ?_
  have only : matching topo hop.place hop.packet = [hop.segment] := walk.matching_eq mem
  have acted : act topo hop.place hop.segment hop.packet = .stop verdict ∨
      ∃ next carried, act topo hop.place hop.segment hop.packet = .pass next carried :=
    walk.act_eq mem
  change routedChoices topo hop.place hop.packet = [act topo hop.place hop.segment hop.packet]
  rw [routedChoices, only]
  obtain ⟨place, packet, segment⟩ := hop
  cases segment with
  | endDT6 sid dev => rfl
  | frr line =>
      obtain ⟨sid, behavior⟩ := line
      cases behavior with
      | uA interface nexthop => rfl
      | uDT6 vrf => rfl
      | uN =>
          rcases acted with lost | ⟨_, _, passed⟩
          · exact absurd (Action.stop.inj lost).symm delivers
          · cases passed

/-! ## Lists of node SIDs -/

/-- What the last leaf is asked for: the green VRF, or the yellow host and its End.DT6. -/
def lastFunctions : Tenant → List Nat
  | .green => [0xd000, 0]
  | .yellow => [0xe009, 0xd001]

/-- The list that names the destination's leaf. -/
def looseGroups (tenant : Tenant) (plane dst : Nat) : List Nat :=
  [0xfc00, plane, 0x20 + dst] ++ lastFunctions tenant ++ [0, 0, 0]

/-- The list that names a spine and the destination's leaf. -/
def pinnedGroups (tenant : Tenant) (plane spine dst : Nat) : List Nat :=
  [0xfc00, plane, 0x10 + spine, 0x20 + dst] ++ lastFunctions tenant ++ [0, 0]

/-- Where a packet ends that comes to the destination's leaf by an interface. -/
def leafEnd (tenant : Tenant) (plane dst : Nat) (iface : String) : Verdict :=
  let host : Endpoint := ⟨hostName tenant.name dst, planeNic plane⟩
  match tenant with
  | .green => .delivered ⟨leafName plane dst, iface⟩ host
  | .yellow => .delivered host host

theorem leafEnd_eth (tenant : Tenant) (plane spine dst : Nat) :
    leafEnd tenant plane dst (eth (spine + 1)) = pathEnd tenant plane spine dst := by
  cases tenant <;> rfl

/-- The head of the list, and what is left of it behind the leaf. -/
theorem looseGroups_eq (tenant : Tenant) (plane dst : Nat) : ∃ next rest, next < 65536 ∧ next ≠ 0 ∧
    looseGroups tenant plane dst = 0xfc00 :: plane :: (0x20 + dst) :: next :: rest ∧
    0xfc00 :: plane :: next :: (rest ++ [0]) =
      [0xfc00, plane] ++ lastFunctions tenant ++ 0 :: [0, 0, 0] := by
  cases tenant with
  | green => exact ⟨0xd000, [0, 0, 0, 0], by decide, by decide, rfl, rfl⟩
  | yellow => exact ⟨0xe009, [0xd001, 0, 0, 0], by decide, by decide, rfl, rfl⟩

section Lists

variable {topo : Topo} (fits : Fits topo) (tenant : Tenant) {plane : Nat}
  (isPlane : plane < topo.numPlanes)

include fits isPlane

/-- From the last functions on the list is the one of a path. -/
theorem last_settles {dst : Nat} (isDst : dst < topo.numLeaves) (iface : String) (more : List Nat) :
    (routed topo).Settles (· = leafEnd tenant plane dst iface) 2 ⟨leafName plane dst, iface⟩
        ⟨[0xfc00, plane] ++ lastFunctions tenant ++ 0 :: more, tenantGroups tenant dst 2⟩ ∧
      ∃ steps, (routed topo).Outcome ⟨leafName plane dst, iface⟩
        ⟨[0xfc00, plane] ++ lastFunctions tenant ++ 0 :: more, tenantGroups tenant dst 2⟩ steps
        (leafEnd tenant plane dst iface) := by
  cases tenant with
  | green =>
      have walk : (net topo).Walk _ _ _ _ := .stop
        (matching_decap fits isPlane isDst iface (0 :: more) (tenantGroups .green dst 2))
        (act_decap fits isPlane isDst iface _)
      obtain ⟨settles, outcome⟩ := settles_of_delivered walk (by simp)
      exact ⟨settles.mono (by simp) fun _ same => same, _, outcome⟩
  | yellow =>
      have last : (net topo).Walk _ _ _ _ := .stop
        (matching_local fits isPlane isDst (eth (plane + 1)) (more ++ [0]) (tenantGroups .yellow dst 2))
        (act_local fits isPlane isDst (eth (plane + 1)) _)
      have walk : (net topo).Walk _ _ _ _ := .pass
        (matching_host fits isPlane isDst iface (0 :: more) (tenantGroups .yellow dst 2))
        (act_host fits isPlane isDst iface _) last
      obtain ⟨settles, outcome⟩ := settles_of_delivered walk (by simp)
      exact ⟨settles.mono (by simp) fun _ same => same, _, outcome⟩

/-- On its leaf the list's first function is the leaf's own. -/
theorem leaf_settles {dst : Nat} (isDst : dst < topo.numLeaves) (iface : String) :
    (routed topo).Settles (· = leafEnd tenant plane dst iface) 3 ⟨leafName plane dst, iface⟩
        ⟨looseGroups tenant plane dst, tenantGroups tenant dst 2⟩ ∧
      ∃ steps, (routed topo).Outcome ⟨leafName plane dst, iface⟩
        ⟨looseGroups tenant plane dst, tenantGroups tenant dst 2⟩ steps
        (leafEnd tenant plane dst iface) := by
  obtain ⟨next, rest, small, more, list, left⟩ := looseGroups_eq tenant plane dst
  have choices := choices_uN
    (matching_leaf_uN fits isPlane isDst iface small rest (tenantGroups tenant dst 2)) more
  rw [left] at choices
  obtain ⟨settles, steps, outcome⟩ := last_settles fits tenant isPlane isDst iface [0, 0, 0]
  rw [list]
  refine ⟨.pass (· = ⟨leafName plane dst, iface⟩) ⟨_, rfl⟩ choices ?_, steps + 1,
    .pass ((choices _).mpr ⟨_, rfl, rfl⟩) outcome⟩
  rintro _ rfl
  exact settles

/-- From a spine it goes down to its leaf. -/
theorem spine_settles {spine dst : Nat} (isSpine : spine < topo.numSpines)
    (isDst : dst < topo.numLeaves) (iface : String) :
    (routed topo).Settles (· = pathEnd tenant plane spine dst) 4 ⟨spineName plane spine, iface⟩
        ⟨looseGroups tenant plane dst, tenantGroups tenant dst 2⟩ ∧
      ∃ steps, (routed topo).Outcome ⟨spineName plane spine, iface⟩
        ⟨looseGroups tenant plane dst, tenantGroups tenant dst 2⟩ steps
        (pathEnd tenant plane spine dst) := by
  obtain ⟨settles, steps, outcome⟩ := leaf_settles fits tenant isPlane isDst (eth (spine + 1))
  rw [leafEnd_eth] at settles outcome
  obtain ⟨next, rest, small, -, list, -⟩ := looseGroups_eq tenant plane dst
  have choices := choices_spine fits isPlane isSpine isDst iface small rest (tenantGroups tenant dst 2)
  rw [← list] at choices
  refine ⟨.pass (· = ⟨leafName plane dst, eth (spine + 1)⟩) ⟨_, rfl⟩ choices ?_, steps + 1,
    .pass ((choices _).mpr ⟨_, rfl, rfl⟩) outcome⟩
  rintro _ rfl
  exact settles

/-- From another leaf it goes up to a spine, whichever that is. -/
theorem other_leaf_settles (some_ : 0 < topo.numSpines) {src dst : Nat} (isSrc : src < topo.numLeaves)
    (isDst : dst < topo.numLeaves) (apart : src ≠ dst) (iface : String) :
    (routed topo).Settles (fun verdict => ∃ spine < topo.numSpines,
          verdict = pathEnd tenant plane spine dst) 5 ⟨leafName plane src, iface⟩
        ⟨looseGroups tenant plane dst, tenantGroups tenant dst 2⟩ ∧
      ∀ spine < topo.numSpines, ∃ steps, (routed topo).Outcome ⟨leafName plane src, iface⟩
        ⟨looseGroups tenant plane dst, tenantGroups tenant dst 2⟩ steps
        (pathEnd tenant plane spine dst) := by
  obtain ⟨next, rest, small, -, list, -⟩ := looseGroups_eq tenant plane dst
  have choices := choices_leaf fits isPlane isSrc isDst apart iface small rest
    (tenantGroups tenant dst 2)
  rw [← list] at choices
  refine ⟨.pass _ ⟨_, 0, some_, rfl⟩ choices ?_, fun spine isSpine => ?_⟩
  · rintro _ ⟨spine, isSpine, rfl⟩
    exact (spine_settles fits tenant isPlane isSpine isDst _).1.mono (Nat.le_refl _)
      fun _ same => ⟨spine, isSpine, same⟩
  · obtain ⟨-, steps, outcome⟩ := spine_settles fits tenant isPlane isSpine isDst (eth (src + 1))
    exact ⟨steps + 1, .pass ((choices _).mpr ⟨_, ⟨spine, isSpine, rfl⟩, rfl⟩) outcome⟩

/-- A list that names a spine too has it for its only way. -/
theorem pinned_settles {spine src dst : Nat} (isSpine : spine < topo.numSpines)
    (isSrc : src < topo.numLeaves) (isDst : dst < topo.numLeaves) (iface : String) :
    (routed topo).Settles (· = pathEnd tenant plane spine dst) 7
        ⟨hostName tenant.name src, iface⟩
        ⟨pinnedGroups tenant plane spine dst, tenantGroups tenant dst 2⟩ := by
  have spine8 : spine < 8 := lt_of_lt_of_le isSpine fits.spines
  have dst16 : dst < 16 := lt_of_lt_of_le isDst fits.leaves
  have small : 0x20 + dst < 65536 := by omega
  have list : pinnedGroups tenant plane spine dst = 0xfc00 :: plane :: (0x10 + spine) ::
      (0x20 + dst) :: (lastFunctions tenant ++ [0, 0]) := rfl
  have spineLow : 0x10 + spine < 0x30 := by omega
  have onSpine := matching_spine fits isPlane isSpine (eth (src + 1)) spineLow small
    (lastFunctions tenant ++ [0, 0]) (tenantGroups tenant dst 2)
  rw [if_pos rfl] at onSpine
  have left : (lastFunctions tenant ++ [0, 0]) ++ [0] = lastFunctions tenant ++ [0, 0, 0] :=
    List.append_assoc _ _ _
  have shifted := choices_uN onSpine (by omega)
  rw [left] at shifted
  rw [list]
  refine .pass (· = _) ⟨_, rfl⟩ (choices_host fits isPlane tenant isSrc iface (by omega) (by omega) small _ _) ?_
  rintro _ rfl
  refine .pass (· = _) ⟨_, rfl⟩ (choices_leaf_spine fits isPlane isSrc isSpine _ small _ _) ?_
  rintro _ rfl
  refine .pass (· = _) ⟨_, rfl⟩ shifted ?_
  rintro _ rfl
  exact (spine_settles fits tenant isPlane isSpine isDst _).1

end Lists

end Srv6Fabric.Fabric

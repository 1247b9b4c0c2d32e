import Srv6Fabric.Library.OrderedDict
import Srv6Fabric.Usid

/-!
# The generated fabric

What `fabric.py` writes for a topology: names, addresses and SIDs, the `INTERFACE` tables
of `config_db.json`, the static SIDs of `frr.conf`, and the links and host commands of
`topology.clab.yaml`.  A line of a file is the record of its varying texts.
-/

namespace Srv6Fabric.Fabric

open Library Topo

/-! ## Names and addresses -/

/-- At least `width` hexadecimal digits, as `:0<width>x` prints them. -/
def paddedHex (width number : Nat) : String :=
  let digits := Nat.toDigits 16 number
  String.ofList (List.replicate (width - digits.length) '0' ++ digits)

/-- `plane_block_prefix`. -/
def planeBlockPrefix (plane : Nat) : String := "fc00:000" ++ hexDigits plane

/-- `plane_aggregate`. -/
def planeAggregate (plane : Nat) : String := planeBlockPrefix plane ++ "::/32"

/-- `link_idx`. -/
def linkIdx (topo : Topo) (spine leaf : Nat) : Nat := spine * topo.numLeaves + leaf

/-- `p2p_prefix`: the same in every plane. -/
def p2pPrefix (topo : Topo) (spine leaf : Nat) : String :=
  "2001:db8:fab:" ++ paddedHex 4 (linkIdx topo spine leaf)

/-- `spine_name`. -/
def spineName (plane spine : Nat) : String := "p" ++ toString plane ++ "-spine" ++ twoDigits spine

/-- `leaf_name`. -/
def leafName (plane leaf : Nat) : String := "p" ++ toString plane ++ "-leaf" ++ twoDigits leaf

/-- `spine_locator`. -/
def spineLocator (plane spine : Nat) : String :=
  planeBlockPrefix plane ++ ":1" ++ hexDigits spine ++ "::/48"

/-- `spine_loopback`. -/
def spineLoopback (plane spine : Nat) : String :=
  planeBlockPrefix plane ++ ":1" ++ hexDigits spine ++ "::1"

/-- `spine_loopback_v4`. -/
def spineLoopbackV4 (plane spine : Nat) : String :=
  "10.0." ++ toString plane ++ "." ++ toString (spine + 1)

/-- `leaf_locator`. -/
def leafLocator (plane leaf : Nat) : String :=
  planeBlockPrefix plane ++ ":2" ++ hexDigits leaf ++ "::/48"

/-- `leaf_loopback`. -/
def leafLoopback (plane leaf : Nat) : String :=
  planeBlockPrefix plane ++ ":2" ++ hexDigits leaf ++ "::1"

/-- `leaf_loopback_v4`. -/
def leafLoopbackV4 (plane leaf : Nat) : String :=
  "10.1." ++ toString plane ++ "." ++ toString (leaf + 1)

/-- `leaf_uplink_eth`. -/
def leafUplinkEth (spine : Nat) : String := "Ethernet" ++ toString (spine * 4)

/-- `spine_downlink_eth`. -/
def spineDownlinkEth (leaf : Nat) : String := "Ethernet" ++ toString (leaf * 4)

/-- `leaf_ua_sid`. -/
def leafUaSid (plane spine : Nat) : String :=
  planeBlockPrefix plane ++ ":f00" ++ hexDigits spine ++ "::/48"

/-- `spine_ua_sid`. -/
def spineUaSid (plane leaf : Nat) : String :=
  planeBlockPrefix plane ++ ":e00" ++ hexDigits leaf ++ "::/48"

/-- `leaf_host_ua_sid`: the function is the ordinal of the port. -/
def leafHostUaSid (plane ethPortNum : Nat) : String :=
  planeBlockPrefix plane ++ ":e" ++ paddedHex 3 (ethPortNum / 4) ++ "::/48"

/-- `green_udt_sid`. -/
def greenUdtSid (plane : Nat) : String := planeBlockPrefix plane ++ ":" ++ paddedHex 4 0xd000 ++ "::/48"

/-- `yellow_udt_sid`. -/
def yellowUdtSid (plane : Nat) : String := planeBlockPrefix plane ++ ":" ++ paddedHex 4 0xd001 ++ "::/48"

/-- `green_host_anycast_prefix` and `yellow_host_anycast_prefix`. -/
def hostAnycastPrefix (tenant : Tenant) (host : Nat) : String :=
  match tenant with
  | .green => "2001:db8:bbbb:" ++ twoHexDigits host
  | .yellow => "2001:db8:cccc:" ++ twoHexDigits host

/-- `green_host_anycast_addr` and `yellow_host_anycast_addr`. -/
def hostAnycastAddr (tenant : Tenant) (host : Nat) : String :=
  match tenant with
  | .green => "2001:db8:bbbb:" ++ twoHexDigits host ++ "::2"
  | .yellow => "2001:db8:cccc:" ++ twoHexDigits host ++ "::2"

/-- `GREEN_VRF`. -/
def greenVrf : String := "Vrf-green"

/-! ## `config_db.json` -/

/-- A key of an `INTERFACE` table: `port` or `port|addr`. -/
structure IfaceKey where
  port : String
  addr : Option String := none
  deriving DecidableEq, Repr

/-- An `INTERFACE` table; the values are the attributes. -/
abbrev IfaceTable := OrderedDict IfaceKey (List (String × String))

/-- A dict after assignments to it: an equal key is overwritten. -/
def assignAll (assignments : List (IfaceKey × List (String × String))) : IfaceTable :=
  assignments.foldl (fun table assignment => table.set assignment.1 assignment.2) .empty

def loopbackAssignments (v4 v6 : String) : List (IfaceKey × List (String × String)) :=
  [({ port := "Loopback0" }, []), ({ port := "Loopback0", addr := v4 ++ "/32" }, []),
    ({ port := "Loopback0", addr := v6 ++ "/128" }, [])]

/-- The uplinks of a leaf. -/
def uplinkAssignments (topo : Topo) (leaf : Nat) : List (IfaceKey × List (String × String)) :=
  (List.range topo.numSpines).flatMap fun spine =>
    [({ port := leafUplinkEth spine }, []),
      ({ port := leafUplinkEth spine, addr := p2pPrefix topo spine leaf ++ "::1/127" }, [])]

/-- The host-facing ports of a leaf. -/
def hostPortAssignments (leaf : Nat) : List (IfaceKey × List (String × String)) :=
  [({ port := "Ethernet32" }, [("vrf_name", greenVrf)]),
    ({ port := "Ethernet32", addr := hostAnycastPrefix .green leaf ++ "::1/64" }, []),
    ({ port := "Ethernet36" }, []),
    ({ port := "Ethernet36", addr := hostAnycastPrefix .yellow leaf ++ "::1/64" }, [])]

/-- `write_leaf_config_db`, the `INTERFACE` table. -/
def writeLeafConfigDb (topo : Topo) (plane leaf : Nat) : IfaceTable :=
  assignAll (loopbackAssignments (leafLoopbackV4 plane leaf) (leafLoopback plane leaf) ++
    uplinkAssignments topo leaf ++ hostPortAssignments leaf)

/-- The downlinks of a spine. -/
def downlinkAssignments (topo : Topo) (spine : Nat) : List (IfaceKey × List (String × String)) :=
  (List.range topo.numLeaves).flatMap fun leaf =>
    [({ port := spineDownlinkEth leaf }, []),
      ({ port := spineDownlinkEth leaf, addr := p2pPrefix topo spine leaf ++ "::0/127" }, [])]

/-- `write_spine_config_db`, the `INTERFACE` table. -/
def writeSpineConfigDb (topo : Topo) (plane spine : Nat) : IfaceTable :=
  assignAll (loopbackAssignments (spineLoopbackV4 plane spine) (spineLoopback plane spine) ++
    downlinkAssignments topo spine)

/-! ## `frr.conf` -/

/-- What a static SID does. -/
inductive SidBehavior where
  | uN
  | uA (interface nexthop : String)
  | uDT6 (vrf : String)
  deriving DecidableEq, Repr

/-- A line `sid <sid> locator MAIN behavior <behavior>`. -/
structure SidLine where
  sid : String
  behavior : SidBehavior
  deriving DecidableEq, Repr

/-- `write_leaf_frr`, the `static-sids` block. -/
def writeLeafFrr (topo : Topo) (plane leaf : Nat) : List SidLine :=
  [⟨leafLocator plane leaf, .uN⟩] ++
    (List.range topo.numSpines).map (fun spine => ⟨leafUaSid plane spine,
      .uA (leafUplinkEth spine) (p2pPrefix topo spine leaf ++ "::0")⟩) ++
    [⟨greenUdtSid plane, .uDT6 greenVrf⟩,
      ⟨leafHostUaSid plane 36, .uA "Ethernet36" (hostAnycastPrefix .yellow leaf ++ "::2")⟩]

/-- `write_spine_frr`, the `static-sids` block. -/
def writeSpineFrr (topo : Topo) (plane spine : Nat) : List SidLine :=
  [⟨spineLocator plane spine, .uN⟩] ++
    (List.range topo.numLeaves).map fun leaf => ⟨spineUaSid plane leaf,
      .uA (spineDownlinkEth leaf) (p2pPrefix topo spine leaf ++ "::1")⟩

/-! ## `topology.clab.yaml` -/

/-- A command of a host's `exec` list. -/
inductive ExecLine where
  /-- `ip -6 addr add <addr> dev <dev> nodad` -/
  | addrAdd (addr dev : String)
  /-- `ip -6 route add <dst> via <gateway> dev <dev>` -/
  | routeAdd (dst gateway dev : String)
  /-- `ip -6 route add <sid> dev <dev> encap seg6local action End.DT6 table 0` -/
  | endDT6 (sid dev : String)
  deriving DecidableEq, Repr

def tenantPrefix : Tenant → String
  | .green => "2001:db8:bbbb::/48"
  | .yellow => "2001:db8:cccc::/48"

/-- The `exec` list of a host. -/
def hostExec (topo : Topo) (tenant : Tenant) (host : Nat) : List ExecLine :=
  let planes := List.range topo.numPlanes
  let gateway := hostAnycastPrefix tenant host ++ "::1"
  planes.map (fun plane => .addrAdd (hostAnycastAddr tenant host ++ "/64") (planeNic plane)) ++
    (if tenant = .yellow then [.addrAdd (hostAnycastAddr tenant host ++ "/128") "lo"] else []) ++
    planes.map (fun plane => .routeAdd (planeAggregate plane) gateway (planeNic plane)) ++
    [.routeAdd (tenantPrefix tenant) gateway "eth1"] ++
    (if tenant = .yellow then planes.map fun plane => .endDT6 (yellowUdtSid plane) (planeNic plane)
      else [])

/-- One end of a link, `node:interface`. -/
structure Endpoint where
  node : String
  iface : String
  deriving DecidableEq, Repr

/-- A line `- endpoints: [...]`. -/
abbrev Link := Endpoint × Endpoint

def fabricLink (plane spine leaf : Nat) : Link :=
  (⟨leafName plane leaf, "eth" ++ toString (spine + 1)⟩,
    ⟨spineName plane spine, "eth" ++ toString (leaf + 1)⟩)

/-- The leaf's interface toward a host. -/
def hostPort : Tenant → String
  | .green => "eth9"
  | .yellow => "eth10"

def hostLink (plane host : Nat) (tenant : Tenant) : Link :=
  (⟨leafName plane host, hostPort tenant⟩,
    ⟨hostName tenant.name host, "eth" ++ toString (plane + 1)⟩)

/-- `write_topology_yaml`, the `links` section. -/
def links (topo : Topo) : List Link :=
  ((List.range topo.numPlanes).flatMap fun plane => (List.range topo.numSpines).flatMap fun spine =>
    (List.range topo.numLeaves).map (fabricLink plane spine)) ++
  ((List.range topo.numPlanes).flatMap fun plane => (List.range topo.numLeaves).flatMap fun host =>
    [hostLink plane host .green, hostLink plane host .yellow])

end Srv6Fabric.Fabric

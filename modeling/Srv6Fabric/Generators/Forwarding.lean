import Srv6Fabric.AddressText
import Srv6Fabric.Generators.Wiring
import Srv6Fabric.Library.SegmentRouting

/-!
# Forwarding

The generated files read as a network.  A static uA SID shifts the uSID list and sends the
packet to its nexthop, which must be the address of the peer on the link of its port; a
uDT6 SID decapsulates and looks the inner destination up among the connected prefixes of its
VRF; a host's End.DT6 decapsulates into the local table.
-/

namespace Srv6Fabric.Fabric

open Library SegmentRouting Topo IpAddress

/-! ## Reading the files -/

/-- The groups of an address text. -/
def addrGroups (text : String) : Option (List Nat) :=
  match ofText text with
  | some (.v6 groups none) => some groups
  | _ => none

/-- The groups and the length of a prefix text. -/
def prefixGroups (text : String) : Option (List Nat × Nat) :=
  match readPrefix text with
  | some (.v6 groups none, length) => some (groups, length)
  | _ => none

/-- Whether an address is inside a prefix: the whole groups, then the bits of the next one. -/
def inPrefix (net : List Nat × Nat) (addr : List Nat) : Bool :=
  let whole := net.2 / 16
  let unused := 2 ^ (16 - net.2 % 16)
  addr.take whole = net.1.take whole && addr.getD whole 0 / unused = net.1.getD whole 0 / unused

/-- All nodes, in the order they are written. -/
def nodes (topo : Topo) : List Node :=
  ((List.range topo.numPlanes).flatMap fun plane =>
    (List.range topo.numSpines).map (Node.spine plane) ++
      (List.range topo.numLeaves).map (Node.leaf plane)) ++
  [Tenant.green, Tenant.yellow].flatMap fun tenant =>
    (List.range topo.numLeaves).map (Node.host tenant)

def nodeNamed? (topo : Topo) (name : String) : Option Node :=
  (nodes topo).find? fun node => node.name = name

/-- A SID that is configured somewhere. -/
inductive LocalSid where
  | frr (line : SidLine)
  | endDT6 (sid dev : String)
  deriving DecidableEq

def LocalSid.text : LocalSid → String
  | frr line => line.sid
  | endDT6 sid _ => sid

/-- Interface `Ethernet<4k>` of a switch is its container's `eth<k+1>`. -/
def clabIface? (port : String) : Option String :=
  if port.toList.take 8 = "Ethernet".toList then
    some ("eth" ++ toString (Nat.ofDigitChars 10 (port.toList.drop 8) 0 / 4 + 1))
  else none

/-- The addresses of an interface table, with their container interfaces. -/
def tableAddrs (table : IfaceTable) : List (String × String) :=
  table.keys.filterMap fun key => do return (← clabIface? key.port, ← key.addr)

namespace Node

def sids (topo : Topo) : Node → List LocalSid
  | leaf plane index => (writeLeafFrr topo plane index).map .frr
  | spine plane index => (writeSpineFrr topo plane index).map .frr
  | host tenant index => (hostExec topo tenant index).filterMap fun
      | .endDT6 sid dev => some (.endDT6 sid dev)
      | _ => none

/-- Interfaces and their addresses. -/
def addrs (topo : Topo) : Node → List (String × String)
  | leaf plane index => tableAddrs (writeLeafConfigDb topo plane index)
  | spine plane index => tableAddrs (writeSpineConfigDb topo plane index)
  | host tenant index => (hostExec topo tenant index).filterMap fun
      | .addrAdd addr dev => some (dev, addr)
      | _ => none

end Node

/-- The other end of the link at an interface. -/
def peer? (topo : Topo) (place : Endpoint) : Option Endpoint :=
  (links topo).findSome? fun link =>
    if link.1 = place then some link.2 else if link.2 = place then some link.1 else none

def hasAddr (topo : Topo) (place : Endpoint) (groups : List Nat) : Bool :=
  match nodeNamed? topo place.node with
  | some node => (node.addrs topo).any fun addr =>
      addr.1 = place.iface && (prefixGroups addr.2).map Prod.fst = some groups
  | none => false

/-- An address of any interface. -/
def isLocal (topo : Topo) (name : String) (groups : List Nat) : Bool :=
  match nodeNamed? topo name with
  | some node => (node.addrs topo).any fun addr => (prefixGroups addr.2).map Prod.fst = some groups
  | none => false

/-! ## Forwarding -/

/-- The destinations of the outer and the inner header. -/
structure UsidPacket where
  outer : List Nat
  inner : List Nat
  deriving DecidableEq

/-- The uSID list moves up by one after its 32-bit block. -/
def shift (outer : List Nat) : List Nat := outer.take 2 ++ outer.drop 3 ++ [0]

inductive Verdict where
  | lost
  /-- Decapsulated at a place, the inner destination an address of a host's interface. -/
  | delivered (decap host : Endpoint)
  deriving DecidableEq

/-- Over the link of an interface to a neighbour that has the address. -/
def sendTo (topo : Topo) (name iface : String) (groups : List Nat) : Option Endpoint :=
  match peer? topo ⟨name, iface⟩ with
  | some next => if hasAddr topo next groups then some next else none
  | none => none

/-- The ports of a VRF. -/
def vrfPorts (table : IfaceTable) (vrf : String) : List String :=
  table.entries.filterMap fun entry =>
    if entry.1.addr = none ∧ entry.2.contains ("vrf_name", vrf) then some entry.1.port else none

/-- The ports of a VRF whose connected prefix an address is in. -/
def connectedPorts (table : IfaceTable) (vrf : String) (groups : List Nat) : List String :=
  table.keys.filterMap fun key =>
    if (vrfPorts table vrf).contains key.port ∧
      ((key.addr.bind prefixGroups).any fun net => inPrefix net groups) then some key.port
    else none

/-- Where a VRF lookup sends the inner packet. -/
def vrfLookup (topo : Topo) (name vrf : String) (groups : List Nat) : Option Endpoint :=
  match nodeNamed? topo name with
  | some (.leaf plane leaf) =>
      match connectedPorts (writeLeafConfigDb topo plane leaf) vrf groups with
      | [port] => (clabIface? port).bind fun iface => sendTo topo name iface groups
      | _ => none
  | _ => none

/-- Where a uA SID sends a packet. -/
def uaNext (topo : Topo) (name interface nexthop : String) : Option Endpoint :=
  (clabIface? interface).bind fun iface => (addrGroups nexthop).bind (sendTo topo name iface)

/-- What a SID does.  A uN SID would go on by the locator routes, which no uSID list built
for a path gets to. -/
def act (topo : Topo) (place : Endpoint) (sid : LocalSid) (packet : UsidPacket) :
    Action Endpoint UsidPacket Verdict :=
  match sid with
  | .frr ⟨_, .uN⟩ => .stop .lost
  | .frr ⟨_, .uA interface nexthop⟩ =>
      match uaNext topo place.node interface nexthop with
      | some next => .pass next { packet with outer := shift packet.outer }
      | none => .stop .lost
  | .frr ⟨_, .uDT6 vrf⟩ =>
      match vrfLookup topo place.node vrf packet.inner with
      | some host => .stop (.delivered place host)
      | none => .stop .lost
  | .endDT6 _ _ =>
      .stop (if isLocal topo place.node packet.inner then .delivered place place else .lost)

/-- Whether a SID's prefix covers a destination. -/
def LocalSid.covers (outer : List Nat) (sid : LocalSid) : Bool :=
  (prefixGroups sid.text).any fun net => inPrefix net outer

def matching (topo : Topo) (place : Endpoint) (packet : UsidPacket) : List LocalSid :=
  match nodeNamed? topo place.node with
  | some node => (node.sids topo).filter (LocalSid.covers packet.outer)
  | none => []

/-- The fabric as a network. -/
def net (topo : Topo) : Net Endpoint LocalSid UsidPacket Verdict where
  matching := matching topo
  act := act topo

end Srv6Fabric.Fabric

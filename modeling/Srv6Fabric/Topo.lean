import Mathlib.Algebra.Order.Ring.Nat
import Mathlib.Data.List.Dedup
import Srv6Fabric.PyStr

/-!
# Topology constants and flow identity

The module-level constants `topo.py` loads are one record, so that every result
ranges over all topologies.
-/

namespace Srv6Fabric

structure Topo where
  numPlanes : Nat
  numSpines : Nat
  numLeaves : Nat
  tenants : List String
  clabTopologyName : String
  deriving DecidableEq, Repr

namespace Topo

/-- The `4p-8x16` topology, the default one. -/
def fourPlanes : Topo := ⟨4, 8, 16, ["green", "yellow"], "sonic-docker-4p-8x16"⟩

/-- The `2p-4x8` topology. -/
def twoPlanes : Topo := ⟨2, 4, 8, ["green", "yellow"], "sonic-docker-2p-4x8"⟩

/-- `TENANT_ID`: position in `TENANTS` plus one, the last position for a repeated name. -/
def tenantId (topo : Topo) (tenant : String) : Except PyError Nat :=
  match topo.tenants.reverse.findIdx? (· == tenant) with
  | some back => .ok (topo.tenants.length - back)
  | none =>
      let registry := topo.tenants.dedup.mergeSort fun name other => decide (name ≤ other)
      .error (.valueError (s!"tenant {pyRepr tenant} not in registry {pyReprList registry}; "
        ++ "update topology yaml or tenants tuple"))

/-- `PLANE_NIC`. -/
def planeNic (plane : Nat) : String := s!"eth{plane + 1}"

/-- Two decimal digits, as `:02d` prints them. -/
def twoDigits (number : Nat) : String :=
  if number < 10 then s!"0{number}" else s!"{number}"

/-- `host_name`. -/
def hostName (tenant : String) (hostId : Nat) : String :=
  s!"{tenant}-host{twoDigits hostId}"

/-! ## Addresses -/

/-- At least two hexadecimal digits, as `:02x` prints them. -/
def twoHexDigits (number : Nat) : String :=
  if number < 16 then String.ofList ('0' :: Nat.toDigits 16 number)
  else String.ofList (Nat.toDigits 16 number)

/-- `_check_tenant`. -/
def checkTenant (topo : Topo) (tenant : String) : Except PyError Unit :=
  if tenant ∈ topo.tenants then .ok ()
  else .error (.valueError
    s!"tenant must be one of {pyReprTuple topo.tenants}, got {pyRepr tenant}")

/-- `_check_host`. -/
def checkHost (topo : Topo) (hostId : Int) : Except PyError Nat :=
  if 0 ≤ hostId ∧ hostId < topo.numLeaves then .ok hostId.toNat
  else .error (.valueError
    s!"host id must be 0..{(topo.numLeaves : Int) - 1}, got {hostId}")

/-- `green_anycast_addr`. -/
def greenAnycastAddr (topo : Topo) (hostId : Int) : Except PyError String := do
  let hostId ← topo.checkHost hostId
  .ok ("2001:db8:bbbb:" ++ twoHexDigits hostId ++ "::2")

/-- `yellow_anycast_addr`. -/
def yellowAnycastAddr (topo : Topo) (hostId : Int) : Except PyError String := do
  let hostId ← topo.checkHost hostId
  .ok ("2001:db8:cccc:" ++ twoHexDigits hostId ++ "::2")

/-- `inner_addr`. -/
def innerAddr (topo : Topo) (tenant : String) (hostId : Int) : Except PyError String := do
  topo.checkTenant tenant
  if tenant = "green" then topo.greenAnycastAddr hostId else topo.yellowAnycastAddr hostId

end Topo

/-- Identity tuple of a flow; addresses are the inner tenant addresses. -/
structure FlowKey where
  srcAddr : String
  dstAddr : String
  srcPort : Nat
  dstPort : Nat
  deriving DecidableEq, Repr

namespace FlowKey

/-- One round of 64-bit FNV-1a. -/
def fnvRound (hash : Nat) (byte : UInt8) : Nat :=
  ((hash ^^^ byte.toNat) * 0x100000001b3) % 2 ^ 64

/-- FNV-1a over the canonical tuple string. -/
def hash5 (flow : FlowKey) : Nat :=
  let text := s!"{flow.srcAddr}|{flow.dstAddr}|{flow.srcPort}|{flow.dstPort}|17"
  text.toUTF8.data.toList.foldl fnvRound 0xcbf29ce484222325

/-- Host 0 to host 7 of the green tenant, from and to `SPRAY_PORT`. -/
def greenFlow : FlowKey := ⟨"2001:db8:bbbb:00::2", "2001:db8:bbbb:07::2", 9999, 9999⟩

end FlowKey

end Srv6Fabric

import Srv6Fabric.Topo

/-!
# Transit spines and outer destinations

Which spine a pair of hosts crosses, the compressed uSID list that says so, and what a
sender works out of both before its first packet.
-/

namespace Srv6Fabric

/-- The two tenants the fabric carries. -/
inductive Tenant where
  | green
  | yellow
  deriving DecidableEq, Repr

namespace Tenant

def name : Tenant → String
  | green => "green"
  | yellow => "yellow"

theorem name_injective {tenant other : Tenant} (same : tenant.name = other.name) :
    tenant = other := by
  cases tenant <;> cases other <;> first | rfl | exact absurd same (by decide)

end Tenant

namespace Topo

/-- `REFERENCE_PAIRS_SPINES`. -/
def referencePairsSpines : List ((Nat × Nat) × Nat) :=
  [((0, 15), 0), ((1, 14), 2), ((2, 13), 4), ((3, 12), 6),
    ((4, 11), 1), ((5, 10), 3), ((6, 9), 5), ((7, 8), 7)]

/-- `spine_for`, over the ids as they are given: nothing has checked them yet. -/
def spineFor (topo : Topo) (srcId dstId : Int) : Int :=
  let (a, b) := if srcId < dstId then (srcId, dstId) else (dstId, srcId)
  match referencePairsSpines.find? fun entry => ((entry.1.1 : Int), (entry.1.2 : Int)) = (a, b) with
  | some entry => entry.2
  | none => (a * topo.numLeaves + b) % topo.numSpines

/-- `_check_plane`. -/
def checkPlane (topo : Topo) (plane : Int) : Except PyError Nat :=
  if 0 ≤ plane ∧ plane < topo.numPlanes then .ok plane.toNat
  else .error (.valueError s!"plane must be 0..{(topo.numPlanes : Int) - 1}, got {plane}")

/-- `_check_spine`. -/
def checkSpine (topo : Topo) (spine : Int) : Except PyError Nat :=
  if 0 ≤ spine ∧ spine < topo.numSpines then .ok spine.toNat
  else .error (.valueError s!"spine must be 0..{(topo.numSpines : Int) - 1}, got {spine}")

/-- Hexadecimal digits, as `:x` prints them. -/
def hexDigits (number : Nat) : String := String.ofList (Nat.toDigits 16 number)

/-- `usid_outer_dst`. -/
def usidOuterDst (topo : Topo) (tenant : String) (plane spine dstLeaf : Int) :
    Except PyError String := do
  topo.checkTenant tenant
  let plane ← topo.checkPlane plane
  let spine ← topo.checkSpine spine
  let dstLeaf ← topo.checkHost dstLeaf
  let head := "fc00:000" ++ hexDigits plane ++ ":f00" ++ hexDigits spine ++ ":e00" ++
    hexDigits dstLeaf
  .ok (if tenant = "green" then head ++ ":d000::" else head ++ ":e009:d001::")

/-- `host_underlay_addr`: the plane is checked and then ignored. -/
def hostUnderlayAddr (topo : Topo) (tenant : String) (plane hostId : Int) :
    Except PyError String := do
  topo.checkTenant tenant
  let _ ← topo.checkPlane plane
  let _ ← topo.checkHost hostId
  topo.innerAddr tenant hostId

end Topo

/-- One direction of a flow. -/
structure FlowEndpoint where
  tenant : String
  srcId : Int
  dstId : Int
  srcPort : Nat := 9999
  dstPort : Nat := 9999
  deriving DecidableEq, Repr

namespace FlowEndpoint

/-- `to_flow_key`. -/
def toFlowKey (topo : Topo) (flow : FlowEndpoint) : Except PyError FlowKey := do
  let srcAddr ← topo.innerAddr flow.tenant flow.srcId
  let dstAddr ← topo.innerAddr flow.tenant flow.dstId
  .ok ⟨srcAddr, dstAddr, flow.srcPort, flow.dstPort⟩

end FlowEndpoint

/-- What `run_sender` has worked out when its loop starts. -/
structure SenderSetup where
  spine : Int
  srcInner : String
  dstInner : String
  flowKey : FlowKey
  /-- `plane_meta`: source and destination of the outer header, plane by plane. -/
  planeMeta : List (String × String)
  deriving DecidableEq, Repr

/-- The outer header of one plane. -/
def planeHeader (topo : Topo) (flow : FlowEndpoint) (spine : Int) (plane : Nat) :
    Except PyError (String × String) := do
  let srcUnderlay ← topo.hostUnderlayAddr flow.tenant plane flow.srcId
  let dstOuter ← topo.usidOuterDst flow.tenant plane spine flow.dstId
  .ok (srcUnderlay, dstOuter)

/-- `run_sender` up to its loop; opening the sockets is left out. -/
def runSenderSetup (topo : Topo) (flow : FlowEndpoint) : Except PyError SenderSetup :=
  if flow.srcId = flow.dstId then
    .error (.valueError s!"src and dst must differ (both {flow.srcId})")
  else do
    let spine := topo.spineFor flow.srcId flow.dstId
    let srcInner ← topo.innerAddr flow.tenant flow.srcId
    let dstInner ← topo.innerAddr flow.tenant flow.dstId
    let flowKey ← flow.toFlowKey topo
    let planeMeta ← (List.range topo.numPlanes).mapM (planeHeader topo flow spine)
    .ok { spine, srcInner, dstInner, flowKey, planeMeta }

/-! ## Accepted arguments -/

namespace Topo

theorem checkTenant_ok {topo : Topo} {tenant : String} (known : tenant ∈ topo.tenants) :
    topo.checkTenant tenant = .ok () := if_pos known

theorem checkPlane_ok {topo : Topo} {plane : Nat} (inRange : plane < topo.numPlanes) :
    topo.checkPlane plane = .ok plane :=
  if_pos ⟨Int.natCast_nonneg _, Int.ofNat_lt.mpr inRange⟩

theorem checkHost_ok {topo : Topo} {hostId : Nat} (inRange : hostId < topo.numLeaves) :
    topo.checkHost hostId = .ok hostId :=
  if_pos ⟨Int.natCast_nonneg _, Int.ofNat_lt.mpr inRange⟩

theorem checkSpine_ok {topo : Topo} {spine : Nat} (inRange : spine < topo.numSpines) :
    topo.checkSpine spine = .ok spine :=
  if_pos ⟨Int.natCast_nonneg _, Int.ofNat_lt.mpr inRange⟩

/-- The uSID list of a path, up to the function the last leaf is asked for. -/
def usidHead (plane spine dstLeaf : Nat) : String :=
  "fc00:000" ++ hexDigits plane ++ ":f00" ++ hexDigits spine ++ ":e00" ++ hexDigits dstLeaf

theorem usidOuterDst_ok {topo : Topo} {tenant : String} {plane spine dstLeaf : Nat}
    (known : tenant ∈ topo.tenants) (isPlane : plane < topo.numPlanes)
    (isSpine : spine < topo.numSpines) (isHost : dstLeaf < topo.numLeaves) :
    topo.usidOuterDst tenant plane spine dstLeaf =
      .ok (usidHead plane spine dstLeaf ++ if tenant = "green" then ":d000::" else ":e009:d001::") := by
  rw [usidOuterDst, bind_of_ok (checkTenant_ok known), bind_of_ok (checkPlane_ok isPlane),
    bind_of_ok (checkSpine_ok isSpine), bind_of_ok (checkHost_ok isHost)]
  split
  · rfl
  · rfl

end Topo

end Srv6Fabric

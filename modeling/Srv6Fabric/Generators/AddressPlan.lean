import Srv6Fabric.Generators.Delivery

/-!
# The address plan and its runtime copies

The generator gives every host one address for all its NICs, and every leaf one gateway
for each tenant; `topo.py` and `routes.py` spell both again.  The host addresses agree.
The gateway of the yellow tenant still carries the plane, as the retired underlay did, so
it names the configured one on plane 0 only.
-/

namespace Srv6Fabric

namespace Topo

/-- `host_probe_peer_addr`. -/
def hostProbePeerAddr (topo : Topo) (tenant : String) (plane hostId : Int) :
    Except PyError String := do
  topo.checkTenant tenant
  let _ ← topo.checkPlane plane
  let _ ← topo.checkHost hostId
  topo.innerAddr tenant hostId

/-- `leaf_gateway_addr`. -/
def leafGatewayAddr (topo : Topo) (tenant : String) (plane hostId : Int) :
    Except PyError String := do
  topo.checkTenant tenant
  let plane ← topo.checkPlane plane
  let hostId ← topo.checkHost hostId
  if tenant = "green" then .ok ("2001:db8:bbbb:" ++ twoHexDigits hostId ++ "::1")
  else .ok ("2001:db8:cccc:" ++ hexDigits plane ++ twoHexDigits hostId ++ "::1")

end Topo

namespace Fabric

open Topo IpAddress
open Routes (tenantNumber parseHextet_tenantGroup parseHextet_host)

/-- The port of a leaf that faces a tenant's host. -/
def hostFacingPort : Tenant → String
  | .green => "Ethernet32"
  | .yellow => "Ethernet36"

/-- The three host address helpers return the one address the generator puts on the host's
NIC of the plane. -/
structure NamesHost (topo : Topo) (tenant : Tenant) (plane host : Nat) : Prop where
  named : ∃ text, topo.innerAddr tenant.name host = .ok text ∧
    topo.hostProbePeerAddr tenant.name plane host = .ok text ∧
    Routes.innerAddr tenant host = text ∧
    ∀ addr, .addrAdd addr (planeNic plane) ∈ hostExec topo tenant host ↔ addr = text ++ "/64"

/-- The gateway helper returns the address of the leaf's host-facing port, and the one the
host's route through the plane uses. -/
structure NamesGateway (topo : Topo) (tenant : Tenant) (plane host : Nat) : Prop where
  named : ∃ text groups, topo.leafGatewayAddr tenant.name plane host = .ok text ∧
    addrGroups text = some groups ∧
    (∃ addr, IfaceKey.mk (hostFacingPort tenant) (some addr) ∈ (writeLeafConfigDb topo plane host).keys ∧
      prefixGroups addr = some (groups, 64)) ∧
    ∃ gateway, .routeAdd (planeAggregate plane) gateway (planeNic plane) ∈ hostExec topo tenant host ∧
      addrGroups gateway = some groups

/-! ## What the generator writes -/

theorem planeNic_ne_lo (plane : Nat) : planeNic plane ≠ "lo" := by
  intro same
  have chars := congrArg (fun text : String => text.toList.head?) same
  change ("eth" ++ toString (plane + 1)).toList.head? = some 'l' at chars
  rw [String.toList_append] at chars
  exact absurd (Option.some.inj chars) (by decide)

/-- The host's address on a plane's NIC is its anycast address, and no other. -/
theorem mem_hostExec_addrAdd {topo : Topo} {tenant : Tenant} {plane host : Nat}
    (isPlane : plane < topo.numPlanes) {addr : String} :
    .addrAdd addr (planeNic plane) ∈ hostExec topo tenant host ↔
      addr = hostAnycastAddr tenant host ++ "/64" := by
  constructor
  · intro mem
    simp only [hostExec, List.mem_append, List.mem_map, List.mem_range, ExecLine.addrAdd.injEq,
      List.mem_singleton, reduceCtorEq, and_false, exists_false, or_false] at mem
    rcases mem with (⟨_, _, same, _⟩ | loopback) | localSid
    · exact same.symm
    · split at loopback
      · exact absurd (ExecLine.addrAdd.inj (List.mem_singleton.mp loopback)).2 (planeNic_ne_lo plane)
      · cases loopback
    · split at localSid
      · obtain ⟨_, _, other⟩ := List.mem_map.mp localSid
        cases other
      · cases localSid
  · rintro rfl
    simp only [hostExec, List.mem_append, List.mem_map, List.mem_range]
    exact Or.inl (Or.inl (Or.inl (Or.inl ⟨plane, isPlane, rfl⟩)))

theorem addrGroups_gateway (tenant : Tenant) {host : Nat} (small : host < 65536) :
    addrGroups (hostAnycastPrefix tenant host ++ "::1") = some (tenantGroups tenant host 1) := by
  refine addrGroups_net _ (parseHextet_tenantGroup tenant) (parseHextet_host small)
    (by decide : parseHextet ['1'] = some 1) ?_
  rw [String.toList_append, hostAnycastPrefix_toList, netText]
  simp

/-- Every route of a host goes over its leaf's address. -/
theorem hostExec_gateway {topo : Topo} {tenant : Tenant} {host : Nat} {dst gateway dev : String}
    (mem : .routeAdd dst gateway dev ∈ hostExec topo tenant host) :
    gateway = hostAnycastPrefix tenant host ++ "::1" := by
  simp only [hostExec, List.mem_append, List.mem_map, List.mem_range, ExecLine.routeAdd.injEq,
    List.mem_singleton, reduceCtorEq, and_false, exists_false, false_or] at mem
  rcases mem with ((loopback | ⟨_, _, _, same, _⟩) | ⟨_, same, _⟩) | localSid
  · split at loopback
    · cases List.mem_singleton.mp loopback
    · cases loopback
  · exact same.symm
  · exact same
  · split at localSid
    · obtain ⟨_, _, other⟩ := List.mem_map.mp localSid
      cases other
    · cases localSid

theorem planeRoute_mem {topo : Topo} (tenant : Tenant) {plane : Nat} (isPlane : plane < topo.numPlanes)
    (host : Nat) : .routeAdd (planeAggregate plane) (hostAnycastPrefix tenant host ++ "::1")
      (planeNic plane) ∈ hostExec topo tenant host := by
  simp only [hostExec, List.mem_append, List.mem_map, List.mem_range]
  exact Or.inl (Or.inl (Or.inr ⟨plane, isPlane, rfl⟩))

theorem gatewayKey_mem {topo : Topo} (tenant : Tenant) (plane host : Nat) :
    IfaceKey.mk (hostFacingPort tenant) (some (hostAnycastPrefix tenant host ++ "::1/64")) ∈
      (writeLeafConfigDb topo plane host).keys := by
  cases tenant with
  | green => exact mem_leafKeys.mpr (Or.inr (Or.inr (Or.inl ⟨rfl, rfl⟩)))
  | yellow => exact mem_leafKeys.mpr (Or.inr (Or.inr (Or.inr ⟨rfl, rfl⟩)))

/-! ## What the helpers return -/

/-- The fourth group of the gateway's text. -/
def gatewayGroup (tenant : Tenant) (plane host : Nat) : Nat :=
  match tenant with
  | .green => host
  | .yellow => 256 * plane + host

/-- The plane and the host's two digits make one group. -/
theorem parseHextet_planeHost {plane host : Nat} (isPlane : plane < 16) (isHost : host < 16) :
    parseHextet (Nat.toDigits 16 plane ++ (twoHexDigits host).toList) =
      some (256 * plane + host) := by
  have onePlane : parseHextet (Nat.toDigits 16 plane) = some plane :=
    parseHextet_toDigits (by omega)
  have short : (Nat.toDigits 16 plane).length = 1 := by
    rw [Nat.toDigits_of_lt_base isPlane, List.length_singleton]
  have withZero := parseHextet_snoc _ plane onePlane (by omega) (show 0 < 16 from by decide)
  have withHost := parseHextet_snoc _ _ withZero (by simp [short]) isHost
  rw [twoHexDigits_toList, if_pos isHost, ← Nat.toDigits_of_lt_base isHost]
  rw [List.append_assoc] at withHost
  refine Eq.trans (congrArg parseHextet ?_) (withHost.trans (congrArg some (by omega)))
  rw [Nat.toDigits_of_lt_base isHost]
  rfl

theorem leafGatewayAddr_ok {topo : Topo} {tenant : Tenant} {plane host : Nat}
    (known : tenant.name ∈ topo.tenants) (isPlane : plane < topo.numPlanes)
    (isHost : host < topo.numLeaves) (plane16 : plane < 16) (host16 : host < 16) :
    ∃ text, topo.leafGatewayAddr tenant.name plane host = .ok text ∧
      addrGroups text = some [0x2001, 0xdb8, tenantNumber tenant, gatewayGroup tenant plane host,
        0, 0, 0, 1] := by
  rw [leafGatewayAddr, bind_of_ok (Topo.checkTenant_ok known), bind_of_ok (Topo.checkPlane_ok isPlane),
    bind_of_ok (checkHost_ok isHost)]
  cases tenant with
  | green =>
      exact ⟨_, if_pos rfl, addrGroups_gateway .green (by omega)⟩
  | yellow =>
      refine ⟨_, if_neg (by decide), addrGroups_net _ (parseHextet_tenantGroup .yellow)
        (parseHextet_planeHost plane16 host16) (by decide : parseHextet ['1'] = some 1) ?_⟩
      rw [String.toList_append, String.toList_append, String.toList_append, netText, hexDigits,
        String.toList_ofList]
      simp
      rfl

/-! ## Agreement -/

section OneDigit

variable {topo : Topo} {tenant : Tenant} {plane host : Nat} (known : tenant.name ∈ topo.tenants)
  (isPlane : plane < topo.numPlanes) (isHost : host < topo.numLeaves)

include known isPlane isHost

/-- The host address is the generated one, whichever helper is asked. -/
theorem namesHost : NamesHost topo tenant plane host := by
  have inner : topo.innerAddr tenant.name host = .ok (Routes.innerAddr tenant host) := by
    rw [innerAddr_ok known isHost, Routes.innerAddr_eq]
  have same : Routes.innerAddr tenant host = hostAnycastAddr tenant host := by
    cases tenant with
    | green => rfl
    | yellow => rfl
  refine ⟨_, inner, ?_, rfl, fun addr => ?_⟩
  · rw [hostProbePeerAddr, bind_of_ok (Topo.checkTenant_ok known),
      bind_of_ok (Topo.checkPlane_ok isPlane), bind_of_ok (Topo.checkHost_ok isHost), inner]
  · rw [same]
    exact mem_hostExec_addrAdd isPlane

/-- The gateway is the generated one where the text leaves the plane out, or the plane is 0. -/
theorem namesGateway_iff (plane16 : plane < 16) (host16 : host < 16) :
    NamesGateway topo tenant plane host ↔ tenant = .green ∨ plane = 0 := by
  obtain ⟨text, returned, groups⟩ := leafGatewayAddr_ok known isPlane isHost plane16 host16
  constructor
  · rintro ⟨otherText, named, sameText, isNamed, -, gateway, isRoute, routed⟩
    obtain rfl := Except.ok.inj (returned.symm.trans sameText)
    rw [hostExec_gateway isRoute, addrGroups_gateway tenant (by omega)] at routed
    have same := groups.symm.trans (isNamed.trans routed.symm)
    cases tenant with
    | green => exact Or.inl rfl
    | yellow =>
        have hosts : gatewayGroup .yellow plane host = host := by simpa [tenantGroups] using same
        simp only [gatewayGroup] at hosts
        omega
  · intro plain
    have asConfigured : gatewayGroup tenant plane host = host := by
      rcases plain with rfl | rfl
      · rfl
      · cases tenant with
        | green => rfl
        | yellow => simp [gatewayGroup]
    rw [asConfigured] at groups
    refine ⟨text, tenantGroups tenant host 1, returned, groups,
      ⟨_, gatewayKey_mem tenant plane host, ?_⟩,
      ⟨_, planeRoute_mem tenant isPlane host, addrGroups_gateway tenant (by omega)⟩⟩
    exact prefixGroups_anycast tenant (by omega) ['1'] ['6', '4'] (by decide) (List.cons_ne_nil _ _)
      (by decide) (by decide)

end OneDigit

/-- With one hexadecimal digit per index, the helpers name what is configured for the green
tenant on every plane and for the yellow tenant on plane 0. -/
theorem names_configured_iff (topo : Topo) (planes : topo.numPlanes ≤ 16) (leaves : topo.numLeaves ≤ 16)
    (tenant : Tenant) (known : tenant.name ∈ topo.tenants) (plane : Nat)
    (isPlane : plane < topo.numPlanes) (host : Nat) (isHost : host < topo.numLeaves) :
    NamesHost topo tenant plane host ∧ NamesGateway topo tenant plane host ↔
      tenant = .green ∨ plane = 0 := by
  have plane16 : plane < 16 := lt_of_lt_of_le isPlane planes
  have host16 : host < 16 := lt_of_lt_of_le isHost leaves
  rw [namesGateway_iff known isPlane isHost plane16 host16]
  exact and_iff_right (namesHost known isPlane isHost)

/-- Plane 3 of the shipped topology, for both tenants' host 7. -/
theorem names_configured_fourPlanes :
    (NamesHost fourPlanes .green 3 7 ∧ NamesGateway fourPlanes .green 3 7 ↔
      Tenant.green = .green ∨ 3 = 0) ∧
    (NamesHost fourPlanes .yellow 3 7 ∧ NamesGateway fourPlanes .yellow 3 7 ↔
      Tenant.yellow = .green ∨ 3 = 0) :=
  ⟨names_configured_iff fourPlanes (by decide) (by decide) .green (by decide) 3 (by decide) 7
      (by decide),
    names_configured_iff fourPlanes (by decide) (by decide) .yellow (by decide) 3 (by decide) 7
      (by decide)⟩

/-- The yellow host 5's gateway on plane 2 is not the one its route uses. -/
theorem yellow_gateway_differs :
    fourPlanes.leafGatewayAddr "yellow" 2 5 = .ok "2001:db8:cccc:205::1" ∧
      .routeAdd "fc00:0002::/32" "2001:db8:cccc:05::1" "eth3" ∈ hostExec fourPlanes .yellow 5 ∧
      ¬ NamesGateway fourPlanes .yellow 2 5 := by
  refine ⟨by decide, by decide, fun names => ?_⟩
  have plain := (namesGateway_iff (by decide) (by decide) (by decide) (by decide) (by decide)).mp names
  exact absurd plain (by decide)

end Fabric

end Srv6Fabric

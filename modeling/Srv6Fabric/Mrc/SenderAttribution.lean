import Srv6Fabric.Mrc.ReceiveLedgers

/-!
# Whose address it is

`host_id_from_inner_addr` is documented as the reverse of `inner_addr`.  It looks at five of the
eight groups, takes host ids up to 15 and knows two tenants; `inner_addr` writes zeros into the
other three groups and takes the hosts and the tenants of the topology.
-/

namespace Srv6Fabric.Topo

/-- Two texts of one address. -/
def SameAddress (text other : String) : Prop :=
  ∃ address, IpAddress.ofText text = some address ∧ IpAddress.ofText other = some address

/-- On this string `host_id_from_inner_addr` is the inverse of `inner_addr`. -/
def ReversesInnerAddr (topo : Topo) (addr : String) : Prop :=
  ∀ (tenant : String) (hostId : Nat),
    hostIdFromInnerAddr addr = some (tenant, hostId) ↔
      ∃ text, topo.innerAddr tenant hostId = .ok text ∧ SameAddress addr text

/-! ## The two functions on groups -/

/-- The third group of the addresses of a tenant. -/
def network : Tenant → Nat
  | .green => 0xbbbb
  | .yellow => 0xcccc

/-- The groups `host_id_from_inner_addr` takes for a host of the tenant. -/
def attributedGroups (tenant : Tenant) (hostId : Nat) (fourth fifth sixth : Nat) : List Nat :=
  [0x2001, 0xdb8, network tenant, hostId, fourth, fifth, sixth, 2]

/-- The network `inner_addr` puts the hosts of a tenant in: yellow's for all but green. -/
def networkOf (tenant : String) : Tenant := if tenant = "green" then .green else .yellow

theorem networkOf_name (tenant : Tenant) : networkOf tenant.name = tenant := by
  cases tenant with
  | green => rfl
  | yellow => rfl

theorem innerGroups_eq (tenant : String) (hostId : Nat) :
    innerGroups tenant hostId = attributedGroups (networkOf tenant) hostId 0 0 0 := by
  unfold innerGroups networkOf
  split
  · rfl
  · rfl

theorem attributedGroups_inj {tenant other : Tenant}
    {hostId fourth fifth sixth otherId fourth' fifth' sixth' : Nat}
    (same : attributedGroups tenant hostId fourth fifth sixth =
      attributedGroups other otherId fourth' fifth' sixth') :
    tenant = other ∧ hostId = otherId ∧ fourth = fourth' ∧ fifth = fifth' ∧ sixth = sixth' := by
  have networks : network tenant = network other → tenant = other := by
    cases tenant <;> cases other <;> first | exact fun _ => rfl | exact fun same => nomatch same
  simp only [attributedGroups, List.cons.injEq, and_true, true_and] at same
  exact ⟨networks same.1, same.2⟩

/-- The strings that are an address `inner_addr` writes. -/
theorem innerAddr_writes_iff (topo : Topo) (addr tenant : String) (hostId : Nat) :
    (∃ text, topo.innerAddr tenant hostId = .ok text ∧ SameAddress addr text) ↔
      tenant ∈ topo.tenants ∧ hostId < topo.numLeaves ∧
        IpAddress.ofText addr =
          some (.v6 (attributedGroups (networkOf tenant) hostId 0 0 0) none) := by
  constructor
  · rintro ⟨text, built, address, isAddr, isText⟩
    obtain ⟨known, inRange⟩ := of_innerAddr_ok built
    rw [innerAddr_ok known inRange] at built
    obtain rfl := Except.ok.inj built
    rw [ofText_inner] at isText
    split at isText
    · rw [← innerGroups_eq, isText]
      exact ⟨known, inRange, isAddr⟩
    · cases isText
  · rintro ⟨known, inRange, isAddr⟩
    have small : hostId < 65536 := IpAddress.ofText_v6_lt isAddr hostId (by simp [attributedGroups])
    refine ⟨_, innerAddr_ok known inRange, _, isAddr, ?_⟩
    rw [ofText_inner, if_pos small, innerGroups_eq]

/-- The strings `host_id_from_inner_addr` attributes to a host. -/
theorem hostIdFromInnerAddr_eq_some_iff (addr tenant : String) (hostId : Nat) :
    hostIdFromInnerAddr addr = some (tenant, hostId) ↔
      ∃ owner : Tenant, owner.name = tenant ∧ hostId ≤ 15 ∧ ∃ fourth fifth sixth,
        IpAddress.ofText addr = some (.v6 (attributedGroups owner hostId fourth fifth sixth) none) := by
  constructor
  · intro found
    unfold hostIdFromInnerAddr at found
    split at found
    · next first second third host fourth fifth sixth last read =>
      split at found
      · cases found
      · next start =>
        obtain ⟨rfl, rfl⟩ : first = 0x2001 ∧ second = 0xdb8 := by simpa [not_or] using start
        split at found
        · next green =>
          obtain ⟨rfl, rfl⟩ := green
          split at found
          · next small =>
            cases found
            exact ⟨.green, rfl, small, fourth, fifth, sixth, read⟩
          · cases found
        · split at found
          · next yellow =>
            obtain ⟨rfl, rfl⟩ := yellow
            split at found
            · next small =>
              cases found
              exact ⟨.yellow, rfl, small, fourth, fifth, sixth, read⟩
            · cases found
          · cases found
    · cases found
  · rintro ⟨owner, rfl, small, fourth, fifth, sixth, read⟩
    rw [hostIdFromInnerAddr, read]
    cases owner with
    | green => exact if_pos small
    | yellow => exact if_pos small

/-! ## Where they agree -/

/-- The tenants whose hosts have addresses in the network. -/
def networkTenants (topo : Topo) (network : Tenant) : List String :=
  topo.tenants.filter fun tenant => networkOf tenant = network

theorem mem_networkTenants {topo : Topo} {network : Tenant} {tenant : String} :
    tenant ∈ topo.networkTenants network ↔ tenant ∈ topo.tenants ∧ networkOf tenant = network := by
  rw [networkTenants, List.mem_filter, decide_eq_true_iff]

/-- The groups, bound and tenants that `host_id_from_inner_addr` does not look at are as it
supposes, for an address in one of the two networks with 2 as its last group. -/
def Attributable (topo : Topo) (addr : String) : Prop :=
  ∀ (owner : Tenant) (hostId fourth fifth sixth : Nat),
    IpAddress.ofText addr = some (.v6 (attributedGroups owner hostId fourth fifth sixth) none) →
      if hostId ≤ 15 then
        hostId < topo.numLeaves ∧ fourth = 0 ∧ fifth = 0 ∧ sixth = 0 ∧
          ∀ tenant, tenant ∈ topo.networkTenants owner ↔ tenant = owner.name
      else
        hostId < topo.numLeaves → fourth = 0 → fifth = 0 → sixth = 0 →
          topo.networkTenants owner = []

theorem ReversesInnerAddr.attributable {topo : Topo} {addr : String}
    (reverses : topo.ReversesInnerAddr addr) : topo.Attributable addr := by
  intro owner hostId fourth fifth sixth read
  split
  · next small =>
    have attributed : hostIdFromInnerAddr addr = some (owner.name, hostId) :=
      (hostIdFromInnerAddr_eq_some_iff _ _ _).mpr ⟨owner, rfl, small, fourth, fifth, sixth, read⟩
    obtain ⟨known, inRange, written⟩ :=
      (innerAddr_writes_iff _ _ _ _).mp ((reverses _ _).mp attributed)
    obtain ⟨-, -, rfl, rfl, rfl⟩ := attributedGroups_inj
      (IpAddress.v6.inj (Option.some.inj (read.symm.trans written))).1
    refine ⟨inRange, rfl, rfl, rfl, fun tenant => ⟨fun mem => ?_, ?_⟩⟩
    · obtain ⟨listed, rfl⟩ := mem_networkTenants.mp mem
      have there := (reverses tenant hostId).mpr
        ((innerAddr_writes_iff _ _ _ _).mpr ⟨listed, inRange, read⟩)
      exact (Prod.mk.inj (Option.some.inj (there.symm.trans attributed))).1
    · rintro rfl
      exact mem_networkTenants.mpr ⟨known, networkOf_name owner⟩
  · next large =>
    rintro inRange rfl rfl rfl
    refine List.eq_nil_iff_forall_not_mem.mpr fun tenant mem => ?_
    obtain ⟨listed, rfl⟩ := mem_networkTenants.mp mem
    have there := (reverses tenant hostId).mpr
      ((innerAddr_writes_iff _ _ _ _).mpr ⟨listed, inRange, read⟩)
    obtain ⟨_, _, small, _⟩ := (hostIdFromInnerAddr_eq_some_iff _ _ _).mp there
    exact large small

/-- `host_id_from_inner_addr` is the inverse of `inner_addr` on the strings that are no address it
could take for an inner one, and on those where what it does not look at is as it supposes. -/
theorem reversesInnerAddr_iff (topo : Topo) (addr : String) :
    topo.ReversesInnerAddr addr ↔ topo.Attributable addr := by
  refine ⟨ReversesInnerAddr.attributable, fun attributable tenant hostId => ?_⟩
  rw [hostIdFromInnerAddr_eq_some_iff, innerAddr_writes_iff]
  constructor
  · rintro ⟨owner, rfl, small, fourth, fifth, sixth, read⟩
    have fits := attributable owner hostId fourth fifth sixth read
    rw [if_pos small] at fits
    obtain ⟨inRange, rfl, rfl, rfl, only⟩ := fits
    rw [networkOf_name]
    exact ⟨(mem_networkTenants.mp ((only owner.name).mpr rfl)).1, inRange, read⟩
  · rintro ⟨known, inRange, read⟩
    have fits := attributable _ _ _ _ _ read
    have mem : tenant ∈ topo.networkTenants (networkOf tenant) := mem_networkTenants.mpr ⟨known, rfl⟩
    split at fits
    · next small => exact ⟨_, ((fits.2.2.2.2 tenant).mp mem).symm, small, 0, 0, 0, read⟩
    · rw [fits inRange rfl rfl rfl] at mem
      cases mem

/-- An address of no host is attributed to green host 5, and with eight leaves that of a ninth
is; with seventeen, host 16 is nobody's. -/
theorem foreign_address_attributed :
    (hostIdFromInnerAddr "2001:db8:bbbb:5:1:2:3:2" = some ("green", 5) ∧
      ¬ fourPlanes.ReversesInnerAddr "2001:db8:bbbb:5:1:2:3:2") ∧
    (hostIdFromInnerAddr "2001:db8:bbbb:08::2" = some ("green", 8) ∧
      ¬ twoPlanes.ReversesInnerAddr "2001:db8:bbbb:08::2") ∧
    (hostIdFromInnerAddr "2001:db8:bbbb:10::2" = none ∧
      ¬ ReversesInnerAddr { fourPlanes with numLeaves := 17 } "2001:db8:bbbb:10::2") := by
  refine ⟨⟨by decide +kernel, fun reverses => ?_⟩, ⟨by decide +kernel, fun reverses => ?_⟩,
    ⟨by decide +kernel, fun reverses => ?_⟩⟩
  · have fits := reverses.attributable .green 5 1 2 3 (by decide +kernel)
    rw [if_pos (by decide)] at fits
    exact absurd fits.2.1 (by decide)
  · have fits := reverses.attributable .green 8 0 0 0 (by decide +kernel)
    rw [if_pos (by decide)] at fits
    exact absurd fits.1 (by decide)
  · have fits := reverses.attributable .green 16 0 0 0 (by decide +kernel)
    rw [if_neg (by decide)] at fits
    exact absurd (fits (by decide) rfl rfl rfl) (by decide)

end Srv6Fabric.Topo

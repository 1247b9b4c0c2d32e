import Srv6Fabric.Generators.LocatorRouting
import Srv6Fabric.RouteExpansion
import Srv6Fabric.RouteListing
import Srv6Fabric.RouteTables
import Srv6Fabric.SpineChoice

/-!
# Delivery by installed routes

What an applied route set does to the packets of a host: the kernel sends a packet by the
longest prefix that covers its destination and the lowest metric among these, on the device
the sender bound itself to if it did.  The list found there takes the packet over the pair's
spine on that plane, if the spine exists.
-/

namespace Srv6Fabric.Routes

open Library SegmentRouting IpAddress Fabric

/-! ## Which route is used -/

namespace FibKey

/-- Whether a route's prefix covers an address. -/
def covers (key : FibKey) (addr : List Nat) : Bool :=
  match key.dst with
  | (.v6 groups none, length) => inPrefix (groups, length) addr
  | _ => false

/-- A route may carry packets to an address that leave by a device, if one is bound. -/
def Applies (key : FibKey) (addr : List Nat) (oif : Option String) : Prop :=
  key.covers addr ∧ ∀ dev ∈ oif, key.dev = dev

/-- A route is no better than another one: its prefix is shorter, or its metric no lower. -/
def Yields (key other : FibKey) : Prop :=
  key.dst.2 < other.dst.2 ∨ key.dst.2 = other.dst.2 ∧ other.metric ≤ key.metric

end FibKey

/-- The kernel's choice among the routes of a host, and the list it finds there. -/
structure SendsBy (fib : Fib) (addr : List Nat) (oif : Option String) (key : FibKey) (segs : String) :
    Prop where
  held : fib.lookup key = some segs
  applies : key.Applies addr oif
  best : ∀ other ∈ fib, other.Applies addr oif → other.Yields key

/-- Tables that agree on the routes that cover an address send alike. -/
theorem SendsBy.congr {fib other : Fib} {addr : List Nat}
    (agree : ∀ key : FibKey, key.covers addr → fib.lookup key = other.lookup key)
    {oif : Option String} {key : FibKey} {segs : String} (sends : SendsBy fib addr oif key segs) :
    SendsBy other addr oif key segs := by
  refine ⟨?_, sends.applies, fun rival isHeld applies => sends.best rival ?_ applies⟩
  · rw [← agree key sends.applies.1]
    exact sends.held
  · rw [← Finmap.lookup_isSome, agree rival applies.1]
    exact Finmap.lookup_isSome.mpr isHeld

/-! ## The keys of a spec -/

/-- The key of the route to a host on a plane. -/
def slotKey (tenant : Tenant) (dst plane : Nat) : FibKey :=
  ⟨(.v6 (innerGroups tenant.name dst) none, 128), Topo.planeNic plane, 100 + plane⟩

theorem innerGroups_eq (tenant : Tenant) (dst : Nat) :
    innerGroups tenant.name dst = tenantGroups tenant dst 2 := by
  cases tenant with
  | green => rfl
  | yellow => rfl

theorem tenantGroups_injective {tenant other : Tenant} {dst otherDst side : Nat}
    (same : tenantGroups tenant dst side = tenantGroups other otherDst side) :
    tenant = other ∧ dst = otherDst := by
  simp only [tenantGroups, List.cons.injEq, true_and, and_true] at same
  refine ⟨?_, same.2⟩
  cases tenant <;> cases other <;> first | rfl | exact absurd same.1 (by decide)

/-- A route to a host covers that host's address and no other. -/
theorem slotKey_covers {tenant other : Tenant} {dst otherDst plane : Nat} :
    (slotKey tenant dst plane).covers (tenantGroups other otherDst 2) ↔
      tenant = other ∧ dst = otherDst := by
  have whole : (slotKey tenant dst plane).covers (tenantGroups other otherDst 2) =
      inPrefix (innerGroups tenant.name dst, 128) (tenantGroups other otherDst 2) := rfl
  rw [whole, innerGroups_eq]
  constructor
  · intro inside
    have groups : tenantGroups other otherDst 2 = tenantGroups tenant dst 2 := by
      simpa [inPrefix, tenantGroups] using inside
    obtain ⟨tenants, dsts⟩ := tenantGroups_injective groups
    exact ⟨tenants.symm, dsts.symm⟩
  · rintro ⟨rfl, rfl⟩
    simp [inPrefix]

namespace Pair

variable {topo : Topo}

/-- The pair has a route from one host to another. -/
def Joins (pair : Pair topo) (tenant : Tenant) (src dst : Nat) : Prop :=
  pair.key.tenant = tenant ∧
    (((pair.key.a : Nat) = src ∧ (pair.key.b : Nat) = dst) ∨
      ((pair.key.b : Nat) = src ∧ (pair.key.a : Nat) = dst))

theorem Joins.key_eq {pair other : Pair topo} {tenant : Tenant} {src dst : Nat}
    (joins : pair.Joins tenant src dst) (otherJoins : other.Joins tenant src dst) :
    pair.key = other.key := by
  obtain ⟨tenants, ends⟩ := joins
  obtain ⟨otherTenants, otherEnds⟩ := otherJoins
  have ordered : (pair.key.a : Nat) < pair.key.b := pair.key.ordered
  have otherOrdered : (other.key.a : Nat) < other.key.b := other.key.ordered
  obtain ⟨⟨_, _, _, _⟩, _, _⟩ := pair
  obtain ⟨⟨_, _, _, _⟩, _, _⟩ := other
  simp only [PairKey.mk.injEq]
  dsimp only at ends otherEnds ordered otherOrdered
  exact ⟨tenants.trans otherTenants.symm, Fin.ext (by omega), Fin.ext (by omega)⟩

theorem Joins.isLeaf {pair : Pair topo} {tenant : Tenant} {src dst : Nat}
    (joins : pair.Joins tenant src dst) : src < topo.numLeaves ∧ dst < topo.numLeaves := by
  rcases joins.2 with ⟨rfl, rfl⟩ | ⟨rfl, rfl⟩
  · exact ⟨pair.key.a.isLt, pair.key.b.isLt⟩
  · exact ⟨pair.key.b.isLt, pair.key.a.isLt⟩

theorem fibKey?_route (pair : Pair topo) (leaves : topo.numLeaves ≤ 65536)
    (srcId dstId : Fin topo.numLeaves) (plane : Fin topo.numPlanes) :
    fibKey? (pair.route srcId dstId plane) = some (slotKey pair.key.tenant dstId plane) := by
  rw [fibKey?, route, readPrefix_inner, if_pos (lt_of_lt_of_le dstId.isLt leaves)]
  rfl

/-- The routes of a pair that start at a host, by the hosts they go to. -/
theorem mem_routes_joins {pair : Pair topo} (leaves : topo.numLeaves ≤ 65536) {tenant : Tenant}
    {src : Nat} {key : FibKey} {segs : String} :
    (∃ route ∈ pair.routes, route.onHost = hostName tenant src ∧ fibKey? route = some key ∧
        route.segs = segs) ↔
      ∃ dst, pair.Joins tenant src dst ∧ ∃ plane ∈ pair.planes.planes,
        key = slotKey tenant dst plane ∧ segs = buildSegs tenant plane pair.spine dst := by
  have read := pair.fibKey?_route leaves
  constructor
  · rintro ⟨_, mem, onHost, found, rfl⟩
    obtain ⟨srcId, dstId, plane, direction, isPlane, rfl⟩ := mem_routes.mp mem
    obtain ⟨tenants, srcs⟩ := hostName_injective onHost
    obtain rfl := Tenant.name_injective tenants
    rw [read] at found
    refine ⟨dstId, ⟨rfl, ?_⟩, plane, isPlane, (Option.some.inj found).symm, rfl⟩
    simp only [List.mem_cons, List.not_mem_nil, or_false, Prod.mk.injEq] at direction
    rcases direction with ⟨rfl, rfl⟩ | ⟨rfl, rfl⟩
    · exact Or.inl ⟨srcs, rfl⟩
    · exact Or.inr ⟨srcs, rfl⟩
  · rintro ⟨dst, ⟨rfl, ends⟩, plane, isPlane, rfl, rfl⟩
    rcases ends with ⟨rfl, rfl⟩ | ⟨rfl, rfl⟩
    · exact ⟨_, mem_routes.mpr ⟨_, _, plane, List.mem_cons_self, isPlane, rfl⟩, rfl, read _ _ _, rfl⟩
    · exact ⟨_, mem_routes.mpr ⟨_, _, plane, List.mem_cons_of_mem _ List.mem_cons_self, isPlane, rfl⟩,
        rfl, read _ _ _, rfl⟩

end Pair

/-! ## The tables of an applied spec -/

/-- The routes of a host once `_run_parallel` has replaced all of a list. -/
def replaced (order : List Route) (fibs : Fibs) (host : String) : Fib :=
  (runParallel routeReplace order fibs).1 host

section Applied

variable {topo : Topo} {doc : List (Scalar × Yaml)} {pairs : List (Pair topo)}
  (leaves : topo.numLeaves ≤ 65536) (expanded : expandSpec topo doc = .ok pairs) (fibs : Fibs)
  {order : List Route} (isOrder : order.Perm (specRoutes pairs))

theorem mem_writes {routes : List Route} {host : String} {key : FibKey} {segs : String} :
    ((host, key), segs) ∈ routes.filterMap write? ↔
      ∃ route ∈ routes, route.onHost = host ∧ fibKey? route = some key ∧ route.segs = segs := by
  rw [List.mem_filterMap]
  refine exists_congr fun route => and_congr_right fun _ => ?_
  rw [write?, storeKey?, Option.map_map, Option.map_eq_some_iff]
  constructor
  · rintro ⟨found, isKey, same⟩
    obtain ⟨keys, rfl⟩ := Prod.mk.inj same
    obtain ⟨rfl, rfl⟩ := Prod.mk.inj keys
    exact ⟨rfl, isKey, rfl⟩
  · rintro ⟨rfl, isKey, rfl⟩
    exact ⟨key, isKey, rfl⟩

include leaves

/-- What a spec writes on a host. -/
theorem mem_writes_spec {tenant : Tenant} {src : Nat} {key : FibKey} {segs : String} :
    ((hostName tenant src, key), segs) ∈ (specRoutes pairs).filterMap write? ↔
      ∃ pair ∈ pairs, ∃ dst, pair.Joins tenant src dst ∧ ∃ plane ∈ pair.planes.planes,
        key = slotKey tenant dst plane ∧ segs = buildSegs tenant plane pair.spine dst := by
  rw [mem_writes]
  constructor
  · rintro ⟨route, mem, onHost⟩
    obtain ⟨pair, isPair, inRoutes⟩ := List.mem_flatMap.mp mem
    exact ⟨pair, isPair, (Pair.mem_routes_joins leaves).mp ⟨route, inRoutes, onHost⟩⟩
  · rintro ⟨pair, isPair, joined⟩
    obtain ⟨route, inRoutes, onHost⟩ := (Pair.mem_routes_joins leaves).mpr joined
    exact ⟨route, List.mem_flatMap.mpr ⟨pair, isPair, inRoutes⟩, onHost⟩

include expanded isOrder

theorem lookup_applied {tenant : Tenant} {src dst : Nat} {pair : Pair topo} (isPair : pair ∈ pairs)
    (joins : pair.Joins tenant src dst) {plane : Fin topo.numPlanes}
    (isPlane : plane ∈ pair.planes.planes) :
    (replaced order fibs (hostName tenant src)).lookup (slotKey tenant dst plane) =
      some (buildSegs tenant plane pair.spine dst) := by
  have writeKeys : ((order.filterMap write?).map Prod.fst).Nodup := by
    rw [writes_keys]
    exact ((isOrder.filterMap _).nodup_iff).mpr (specRoutes_keys expanded).2
  have written := (isOrder.filterMap write?).mem_iff.mpr
    ((mem_writes_spec leaves).mpr ⟨pair, isPair, dst, joins, plane, isPlane, rfl, rfl⟩)
  have stored := congrFun (held_replaceAll order fibs) (hostName tenant src, slotKey tenant dst plane)
  rw [KeyedWrites.putAll_of_mem writeKeys written] at stored
  exact stored

omit expanded in
/-- The frame: a key of no pair keeps its list. -/
theorem lookup_unwritten {tenant : Tenant} {src : Nat} {key : FibKey}
    (unwritten : ∀ pair ∈ pairs, ∀ dst, pair.Joins tenant src dst → ∀ plane ∈ pair.planes.planes,
      key ≠ slotKey tenant dst plane) :
    (replaced order fibs (hostName tenant src)).lookup key =
      (fibs (hostName tenant src)).lookup key := by
  have absent : (hostName tenant src, key) ∉ (order.filterMap write?).map Prod.fst := by
    intro mem
    obtain ⟨⟨_, segs⟩, written, rfl⟩ := List.mem_map.mp mem
    obtain ⟨pair, isPair, dst, joins, plane, isPlane, same, -⟩ :=
      (mem_writes_spec leaves).mp ((isOrder.filterMap write?).mem_iff.mp written)
    exact unwritten pair isPair dst joins plane isPlane same
  have stored := congrFun (held_replaceAll order fibs) (hostName tenant src, key)
  rw [KeyedWrites.putAll_of_not_mem absent] at stored
  exact stored

omit leaves isOrder in
theorem joins_unique {pair other : Pair topo} (isPair : pair ∈ pairs) (isOther : other ∈ pairs)
    {tenant : Tenant} {src dst : Nat} (joins : pair.Joins tenant src dst)
    (otherJoins : other.Joins tenant src dst) : other = pair :=
  List.inj_on_of_nodup_map (expandSpec_nodup expanded) isOther isPair (otherJoins.key_eq joins)

/-- A route that covers an address of a pair is one of the pair's, or was there before. -/
theorem lookup_covering {tenant : Tenant} {src dst : Nat} {pair : Pair topo} (isPair : pair ∈ pairs)
    (joins : pair.Joins tenant src dst) {key : FibKey}
    (covers : key.covers (tenantGroups tenant dst 2)) :
    (∃ plane ∈ pair.planes.planes, key = slotKey tenant dst plane) ∨
      (replaced order fibs (hostName tenant src)).lookup key =
        (fibs (hostName tenant src)).lookup key := by
  by_cases isSlot : ∃ plane ∈ pair.planes.planes, key = slotKey tenant dst plane
  · exact Or.inl isSlot
  · refine Or.inr (lookup_unwritten leaves fibs isOrder fun other isOther _ otherJoins plane isPlane
      same => isSlot ?_)
    subst same
    obtain ⟨-, rfl⟩ := slotKey_covers.mp covers
    obtain rfl := joins_unique expanded isPair isOther joins otherJoins
    exact ⟨plane, isPlane, rfl⟩

/-- Between the hosts of a pair a packet leaves by the lowest plane it may leave by. -/
theorem sends_joined {tenant : Tenant} {src dst : Nat} {pair : Pair topo} (isPair : pair ∈ pairs)
    (joins : pair.Joins tenant src dst)
    (shorter : ∀ key ∈ fibs (hostName tenant src), key.covers (tenantGroups tenant dst 2) →
      key.dst.2 < 128) (oif : Option String)
    (allowed : ∃ plane ∈ pair.planes.planes, ∀ dev ∈ oif, Topo.planeNic plane = dev)
    (key : FibKey) (segs : String) :
    SendsBy (replaced order fibs (hostName tenant src)) (tenantGroups tenant dst 2) oif key segs ↔
      ∃ plane ∈ pair.planes.planes, (∀ dev ∈ oif, Topo.planeNic plane = dev) ∧
        (∀ other ∈ pair.planes.planes, (∀ dev ∈ oif, Topo.planeNic other = dev) → plane ≤ other) ∧
        key = slotKey tenant dst plane ∧ segs = buildSegs tenant plane pair.spine dst := by
  have covers (plane : Fin topo.numPlanes) :
      (slotKey tenant dst plane).covers (tenantGroups tenant dst 2) := slotKey_covers.mpr ⟨rfl, rfl⟩
  have installed (plane : Fin topo.numPlanes) (isPlane : plane ∈ pair.planes.planes) :=
    lookup_applied leaves expanded fibs isOrder isPair joins isPlane
  have present (plane : Fin topo.numPlanes) (isPlane : plane ∈ pair.planes.planes) :
      slotKey tenant dst plane ∈ replaced order fibs (hostName tenant src) :=
    Finmap.mem_of_lookup_eq_some (installed plane isPlane)
  -- every other route that covers the address is older and shorter
  have others {other : FibKey}
      (isHeld : other ∈ replaced order fibs (hostName tenant src))
      (otherCovers : other.covers (tenantGroups tenant dst 2)) :
      (∃ plane ∈ pair.planes.planes, other = slotKey tenant dst plane) ∨ other.dst.2 < 128 := by
    refine (lookup_covering leaves expanded fibs isOrder isPair joins otherCovers).imp id fun same => ?_
    refine shorter other ?_ otherCovers
    rw [← Finmap.lookup_isSome, ← same]
    exact Finmap.lookup_isSome.mpr isHeld
  constructor
  · rintro ⟨isHeld, ⟨keyCovers, onDev⟩, best⟩
    obtain ⟨first, isFirst, firstAllowed⟩ := allowed
    rcases others (Finmap.mem_of_lookup_eq_some isHeld) keyCovers with ⟨plane, isPlane, rfl⟩ | short
    · refine ⟨plane, isPlane, onDev, fun other isOther otherAllowed => ?_, rfl, ?_⟩
      · rcases best _ (present other isOther) ⟨covers other, otherAllowed⟩ with longer | ⟨-, metric⟩
        · exact absurd longer (lt_irrefl 128)
        · exact Nat.le_of_add_le_add_left metric
      · exact Option.some.inj (isHeld.symm.trans (installed plane isPlane))
    · exfalso
      rcases best _ (present first isFirst) ⟨covers first, firstAllowed⟩ with longer | ⟨same, -⟩
      · exact absurd (longer.trans short) (lt_irrefl 128)
      · exact absurd short (Nat.not_lt.mpr (Nat.le_of_eq same))
  · rintro ⟨plane, isPlane, onDev, lowest, rfl, rfl⟩
    refine ⟨installed plane isPlane, ⟨covers plane, onDev⟩, fun other isHeld applies => ?_⟩
    rcases others isHeld applies.1 with ⟨otherPlane, isOther, rfl⟩ | short
    · exact Or.inr ⟨rfl, Nat.add_le_add_left (lowest otherPlane isOther applies.2) 100⟩
    · exact Or.inl short

omit expanded in
/-- Between hosts of no pair nothing changes. -/
theorem sends_unjoined {tenant : Tenant} {src dst : Nat}
    (unjoined : ∀ pair ∈ pairs, ¬ pair.Joins tenant src dst) (oif : Option String) (key : FibKey)
    (segs : String) :
    SendsBy (replaced order fibs (hostName tenant src)) (tenantGroups tenant dst 2) oif key segs ↔
      SendsBy (fibs (hostName tenant src)) (tenantGroups tenant dst 2) oif key segs := by
  have agree (key : FibKey) (covers : key.covers (tenantGroups tenant dst 2)) :
      (replaced order fibs (hostName tenant src)).lookup key =
        (fibs (hostName tenant src)).lookup key := by
    refine lookup_unwritten leaves fibs isOrder fun pair isPair otherDst joins plane _ same => ?_
    subst same
    obtain ⟨-, rfl⟩ := slotKey_covers.mp covers
    exact unjoined pair isPair joins
  exact ⟨.congr agree, .congr fun key covers => (agree key covers).symm⟩

end Applied

/-! ## The lists on the wire -/

section Lists

variable {topo : Topo} (fits : Fits topo) (tenant : Tenant) {plane src dst : Nat}
  (isPlane : plane < topo.numPlanes) (isSrc : src < topo.numLeaves) (isDst : dst < topo.numLeaves)
  (iface : String)

theorem outerGroups_eq (plane spine dst : Nat) : ∃ rest,
    outerGroups tenant plane spine dst =
      0xfc00 :: plane :: (0xf000 + spine) :: (0xe000 + dst) :: rest := by
  cases tenant with
  | green => exact ⟨_, rfl⟩
  | yellow => exact ⟨_, rfl⟩

include fits isPlane isSrc isDst

/-- The list of a path leaves a host by the plane's NIC. -/
theorem choices_outer {spine : Nat} (small : spine < 16) (inner : List Nat)
    (choice : Action Endpoint UsidPacket Verdict) :
    choice ∈ (routed topo).choices ⟨hostName tenant src, iface⟩
        ⟨outerGroups tenant plane spine dst, inner⟩ ↔
      ∃ way, way = ⟨leafName plane src, hostPort tenant⟩ ∧
        choice = .pass way ⟨outerGroups tenant plane spine dst, inner⟩ := by
  have dst16 : dst < 16 := lt_of_lt_of_le isDst fits.leaves
  obtain ⟨rest, list⟩ := outerGroups_eq tenant plane spine dst
  rw [list]
  exact choices_host fits isPlane tenant isSrc iface (by omega) (by omega) (by omega) rest inner choice

theorem outer_settles {spine : Nat} (isSpine : spine < topo.numSpines) :
    (routed topo).Settles (· = pathEnd tenant plane spine dst) 5 ⟨hostName tenant src, iface⟩
      ⟨outerGroups tenant plane spine dst, tenantGroups tenant dst 2⟩ := by
  have spine8 : spine < 8 := lt_of_lt_of_le isSpine fits.spines
  refine .pass (· = _) ⟨_, rfl⟩
    (choices_outer fits tenant isPlane isSrc isDst iface (by omega) (tenantGroups tenant dst 2)) ?_
  rintro _ rfl
  obtain ⟨hops, walk, path⟩ := walk_path fits tenant isPlane isSpine isSrc isDst (hostPort tenant)
  have length : hops.length ≤ 4 := by
    rw [← List.length_map, path]
    cases tenant with
    | green => exact Nat.le_succ 3
    | yellow => exact Nat.le_refl 4
  have delivers : pathEnd tenant plane spine dst ≠ .lost := by
    cases tenant with
    | green => simp [pathEnd]
    | yellow => simp [pathEnd]
  exact (settles_of_delivered walk delivers).1.mono length fun _ same => same

/-- A list that asks for a spine the leaf does not have is dropped there. -/
theorem outer_dropped {spine : Nat} (missing : topo.numSpines ≤ spine) (small : spine < 16)
    (inner : List Nat) (steps : Nat) (verdict : Verdict) :
    ¬ (routed topo).Outcome ⟨hostName tenant src, iface⟩
      ⟨outerGroups tenant plane spine dst, inner⟩ steps verdict := by
  have src16 : src < 16 := lt_of_lt_of_le isSrc fits.leaves
  have dst16 : dst < 16 := lt_of_lt_of_le isDst fits.leaves
  have spines8 : topo.numSpines ≤ 8 := fits.spines
  have up := choices_outer fits tenant isPlane isSrc isDst iface small inner
  obtain ⟨rest, list⟩ := outerGroups_eq tenant plane spine dst
  rw [list] at up ⊢
  have noUplink : ((List.range topo.numSpines).filter fun other =>
      0xf000 + spine = 0xf000 + other) = [] := by
    refine List.filter_eq_nil_iff.mpr fun other mem => ?_
    have isOther := List.mem_range.mp mem
    rw [decide_eq_true_eq]
    omega
  have unmatched : matching topo ⟨leafName plane src, hostPort tenant⟩
      ⟨0xfc00 :: plane :: (0xf000 + spine) :: (0xe000 + dst) :: rest, inner⟩ = [] := by
    rw [show leafName plane src = (Node.leaf plane src).name from rfl,
      matching_node (leaf_mem_nodes isPlane isSrc), covers_leaf fits isPlane isSrc _ _ _ (by omega),
      noUplink, if_neg (by omega), if_neg (by omega), if_neg (by omega)]
    rfl
  have stuck := mem_choices (leaf_mem_nodes isPlane isSrc) unmatched 48 (fun _ => False) fun route =>
    (covering_leaf fits isPlane isSrc (by omega) rest route).trans ⟨?_, fun ⟨_, no, _⟩ => no.elim⟩
  · intro outcome
    cases outcome with
    | stop chosen =>
        obtain ⟨_, -, same⟩ := (up _).mp chosen
        cases same
    | pass chosen rest =>
        obtain ⟨_, rfl, same⟩ := (up _).mp chosen
        cases same
        cases rest with
        | stop chosen =>
            obtain ⟨_, no, -⟩ := (stuck _).mp chosen
            exact no
        | pass chosen _ =>
            obtain ⟨_, no, -⟩ := (stuck _).mp chosen
            exact no
  · rintro ⟨other, isOther, -, same | ⟨leaf, isLeaf, -, same⟩⟩
    · omega
    · have leaf16 : leaf < 16 := lt_of_lt_of_le isLeaf fits.leaves
      omega

end Lists

theorem planeNic_injective {plane other : Nat} (same : Topo.planeNic plane = Topo.planeNic other) :
    plane = other :=
  Nat.add_right_cancel (numbered_injective
    (show "eth" ++ toString (plane + 1) = "eth" ++ toString (other + 1) from same))

/-- A pair's spine takes one hex digit, also one that does not exist. -/
theorem pair_spine_lt {topo : Topo} (fits : Fits topo) (some_ : 0 < topo.numSpines)
    {doc : List (Scalar × Yaml)} {pairs : List (Pair topo)} (expanded : expandSpec topo doc = .ok pairs)
    {pair : Pair topo} (isPair : pair ∈ pairs) : pair.spine < 16 := by
  have spines8 : topo.numSpines ≤ 8 := fits.spines
  have table (lo hi : Nat) : spineFor topo lo hi < 16 := by
    unfold spineFor
    dsimp only
    split
    · next held =>
      have bound := (reference_bounds held).2
      omega
    · have bound := Nat.mod_lt ((if lo < hi then (lo, hi) else (hi, lo)).1 * topo.numLeaves +
        (if lo < hi then (lo, hi) else (hi, lo)).2) some_
      omega
  rcases expandSpec_spine expanded isPair with auto | named
  · rw [auto]
    exact table _ _
  · omega

/-! ## From the spec to the destination -/

end Srv6Fabric.Routes

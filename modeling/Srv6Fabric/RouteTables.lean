import Mathlib.Data.Finmap
import Srv6Fabric.Library.KeyedWrites
import Srv6Fabric.RouteAddresses

/-!
# Installed routes

`routes apply` and `routes delete` run one `ip -6 route` command for each route of the
spec, sixteen at a time and in whatever order they complete.  A FIB is keyed by what `ip`
reads of a destination, by device and by metric.
-/

namespace Srv6Fabric.Routes

open Library IpAddress

/-! ## The kernel's tables -/

structure FibKey where
  dst : IpAddress × Nat
  dev : String
  metric : Nat
  deriving DecidableEq

/-- The routes of one host: the segment list under each key. -/
abbrev Fib := Finmap fun _ : FibKey => String

/-- The FIB of every host, by the host's name. -/
abbrev Fibs := String → Fib

/-- The key a command is about; there is none if `ip` cannot read the destination. -/
def fibKey? (route : Route) : Option FibKey :=
  (readPrefix route.dst).map fun dst => ⟨dst, route.dev, route.metric⟩

/-- What a command leaves behind: the exit code, and whether its output says `No such`. -/
structure IpResult where
  rc : Nat
  noSuch : Bool
  deriving DecidableEq

/-- `ip -6 route replace` sets a key. -/
def ipRouteReplace (route : Route) (fib : Fib) : Fib × IpResult :=
  match fibKey? route with
  | some key => (fib.insert key route.segs, ⟨0, false⟩)
  | none => (fib, ⟨1, false⟩)

/-- `ip -6 route del` removes a key, and complains if it is absent. -/
def ipRouteDel (route : Route) (fib : Fib) : Fib × IpResult :=
  match fibKey? route with
  | some key => if key ∈ fib then (fib.erase key, ⟨0, false⟩) else (fib, ⟨2, true⟩)
  | none => (fib, ⟨1, false⟩)

/-! ## The commands -/

/-- `route_replace`. -/
def routeReplace (route : Route) (fibs : Fibs) : Fibs × Nat :=
  let (fib, result) := ipRouteReplace route (fibs route.onHost)
  (Function.update fibs route.onHost fib, result.rc)

/-- `route_delete`: an absent route counts as deleted. -/
def routeDelete (route : Route) (fibs : Fibs) : Fibs × Nat :=
  let (fib, result) := ipRouteDel route (fibs route.onHost)
  (Function.update fibs route.onHost fib, if result.rc ≠ 0 ∧ result.noSuch then 0 else result.rc)

/-- `_run_parallel`, the commands in the order they complete; the count is of failures. -/
def runParallel (run : Route → Fibs → Fibs × Nat) (order : List Route) (fibs : Fibs) : Fibs × Nat :=
  order.foldl (fun (fibs, failures) route =>
    let (fibs, rc) := run route fibs
    (fibs, if rc ≠ 0 then failures + 1 else failures)) (fibs, 0)

/-- `[r for p in pairs for r in p.routes()]`. -/
def specRoutes {topo : Topo} (pairs : List (Pair topo)) : List Route := pairs.flatMap Pair.routes

/-! ## Keys -/

/-- A route as tenant, source, destination and plane. -/
structure Slot where
  tenant : Tenant
  src : Nat
  dst : Nat
  plane : Nat

namespace Slot

/-- The destination is a text, as it is on the command line. -/
def textKey (slot : Slot) : String × String × Nat :=
  (hostName slot.tenant slot.src, innerRouteDst slot.tenant slot.dst, 100 + slot.plane)

def storeKey? (slot : Slot) : Option (String × FibKey) :=
  (readPrefix (innerRouteDst slot.tenant slot.dst)).map fun dst =>
    (hostName slot.tenant slot.src, ⟨dst, Topo.planeNic slot.plane, 100 + slot.plane⟩)

end Slot

namespace Pair

variable {topo : Topo}

def slot (pair : Pair topo) (srcId dstId : Fin topo.numLeaves) (plane : Fin topo.numPlanes) : Slot :=
  ⟨pair.key.tenant, srcId, dstId, plane⟩

def slots (pair : Pair topo) : List Slot :=
  [(pair.key.a, pair.key.b), (pair.key.b, pair.key.a)].flatMap fun direction =>
    pair.planes.planes.map (pair.slot direction.1 direction.2)

/-- A slot says which pair it is of. -/
theorem of_mem_slots {pair : Pair topo} {slot : Slot} (mem : slot ∈ pair.slots) :
    slot.tenant = pair.key.tenant ∧ min slot.src slot.dst = pair.key.a ∧
      max slot.src slot.dst = pair.key.b := by
  have ordered : (pair.key.a : Nat) < pair.key.b := pair.key.ordered
  obtain ⟨direction, isDirection, inPlanes⟩ := List.mem_flatMap.mp mem
  obtain ⟨plane, _, rfl⟩ := List.mem_map.mp inPlanes
  simp only [List.mem_cons, List.not_mem_nil, or_false] at isDirection
  rcases isDirection with rfl | rfl
  · exact ⟨rfl, min_eq_left ordered.le, max_eq_right ordered.le⟩
  · exact ⟨rfl, min_eq_right ordered.le, max_eq_left ordered.le⟩

theorem slots_nodup (pair : Pair topo) : pair.slots.Nodup := by
  have ordered : (pair.key.a : Nat) ≠ pair.key.b := (show (pair.key.a : Nat) < pair.key.b from
    pair.key.ordered).ne
  refine List.nodup_flatMap.mpr ⟨fun direction _ => ?_, ?_⟩
  · refine List.Nodup.map (fun plane other same => ?_) (pair.planes.increasing.imp ne_of_lt)
    exact Fin.ext (Slot.mk.inj same).2.2.2
  · refine List.pairwise_pair.mpr ?_
    intro slot inFirst inSecond
    obtain ⟨plane, _, rfl⟩ := List.mem_map.mp inFirst
    obtain ⟨other, _, same⟩ := List.mem_map.mp inSecond
    exact ordered (Slot.mk.inj same).2.1.symm

end Pair

theorem slots_nodup {topo : Topo} {pairs : List (Pair topo)} (nodup : (pairs.map Pair.key).Nodup) :
    (pairs.flatMap Pair.slots).Nodup := by
  refine List.nodup_flatMap.mpr ⟨fun pair _ => pair.slots_nodup, ?_⟩
  refine (List.pairwise_map.mp nodup).imp fun {pair other} distinct slot inFirst inSecond => distinct ?_
  obtain ⟨tenant, a, b⟩ := pair.of_mem_slots inFirst
  obtain ⟨otherTenant, otherA, otherB⟩ := other.of_mem_slots inSecond
  obtain ⟨⟨_, _, _, _⟩, _, _⟩ := pair
  obtain ⟨⟨_, _, _, _⟩, _, _⟩ := other
  simp only [PairKey.mk.injEq]
  exact ⟨tenant.symm.trans otherTenant, Fin.ext (a.symm.trans otherA), Fin.ext (b.symm.trans otherB)⟩

/-- The routes of a spec, slot by slot. -/
theorem map_specRoutes {topo : Topo} {α : Type} (pairs : List (Pair topo)) {ofRoute : Route → α}
    (ofSlot : Slot → α)
    (same : ∀ (pair : Pair topo) (srcId dstId : Fin topo.numLeaves) (plane : Fin topo.numPlanes),
      ofRoute (pair.route srcId dstId plane) = ofSlot (pair.slot srcId dstId plane)) :
    (specRoutes pairs).map ofRoute = (pairs.flatMap Pair.slots).map ofSlot := by
  rw [specRoutes, List.map_flatMap, List.map_flatMap]
  congr 1
  funext pair
  rw [Pair.routes, Pair.slots, List.map_flatMap, List.map_flatMap]
  congr 1
  funext direction
  rw [List.map_map, List.map_map]
  exact List.map_congr_left fun plane _ => same pair direction.1 direction.2 plane

/-! ## Addresses -/

/-- `:02x` keeps different numbers apart. -/
theorem twoHexDigits_injective {n m : Nat} (same : Topo.twoHexDigits n = Topo.twoHexDigits m) :
    n = m := by
  have value (n : Nat) : ((Topo.twoHexDigits n).toList.mapM hexValue?).map
      (List.foldl (fun total digit => 16 * total + digit) 0) = some n := by
    obtain ⟨digits, read, folded⟩ := mapM_hexValue?_toDigits n
    rw [twoHexDigits_toList]
    split
    · next small =>
      rw [List.mapM_cons, List.mapM_cons, hexValue?_digitChar small]
      simp [hexValue?]
    · rw [read, Option.map_some, folded]
  have values := value n
  rw [same, value m] at values
  exact (Option.some.inj values).symm

theorem innerRouteDst_injective {tenant : Tenant} {hostId other : Nat}
    (same : innerRouteDst tenant hostId = innerRouteDst tenant other) : hostId = other := by
  have addrs : innerAddr tenant hostId = innerAddr tenant other := by
    have chars := congrArg String.toList same
    rw [innerRouteDst, innerRouteDst, String.toList_append, String.toList_append] at chars
    exact String.toList_inj.mp (List.append_cancel_right chars)
  rw [innerAddr_eq, innerAddr_eq] at addrs
  have parts := congrArg (fun text : String => text.toList.splitOn ':') addrs
  rw [String.toList_ofList, String.toList_ofList, splitOn_innerParts, splitOn_innerParts] at parts
  simp only [innerParts, List.cons.injEq, true_and, and_true] at parts
  exact twoHexDigits_injective (String.toList_inj.mp parts)

theorem innerGroups_injective {tenant : Tenant} {hostId other : Nat}
    (same : innerGroups tenant.name hostId = innerGroups tenant.name other) : hostId = other := by
  simpa [innerGroups] using same

namespace Slot

theorem textKey_injective {slot other : Slot} (same : slot.textKey = other.textKey) :
    slot = other := by
  obtain ⟨hosts, dsts, metrics⟩ := (Prod.mk.inj same).imp id Prod.mk.inj
  obtain ⟨tenants, srcs⟩ := hostName_injective hosts
  have tenants := Tenant.name_injective tenants
  rw [tenants] at dsts
  cases slot
  cases other
  exact Slot.mk.injEq .. ▸ ⟨tenants, srcs, innerRouteDst_injective dsts, Nat.add_left_cancel metrics⟩

/-- Two slots with a key in common are the same. -/
theorem eq_of_storeKey {slot other : Slot} {key : String × FibKey}
    (held : slot.storeKey? = some key) (otherHeld : other.storeKey? = some key) : slot = other := by
  rw [storeKey?, readPrefix_inner] at held otherHeld
  split at held
  · split at otherHeld
    · obtain ⟨hosts, keys⟩ := Prod.mk.inj (Option.some.inj (held.trans otherHeld.symm))
      obtain ⟨dsts, _, metrics⟩ := FibKey.mk.inj keys
      obtain ⟨tenants, srcs⟩ := hostName_injective hosts
      have tenants := Tenant.name_injective tenants
      rw [tenants] at dsts
      have groups := (IpAddress.v6.inj (Prod.mk.inj dsts).1).1
      cases slot
      cases other
      exact Slot.mk.injEq .. ▸ ⟨tenants, srcs, innerGroups_injective groups, Nat.add_left_cancel metrics⟩
    · cases otherHeld
  · cases held

end Slot

/-! ## Stores -/

/-- All FIBs as one store. -/
def held (fibs : Fibs) (key : String × FibKey) : Option String := (fibs key.1).lookup key.2

theorem held_injective {fibs others : Fibs} (same : held fibs = held others) : fibs = others := by
  funext host
  exact Finmap.ext_lookup fun key => congrFun same (host, key)

/-- The key of a route among all hosts. -/
def storeKey? (route : Route) : Option (String × FibKey) :=
  (fibKey? route).map fun key => (route.onHost, key)

/-- What a replaced route writes. -/
def write? (route : Route) : Option ((String × FibKey) × String) :=
  (storeKey? route).map fun key => (key, route.segs)

theorem held_update (fibs : Fibs) (host : String) (fib : Fib) (key : String × FibKey) :
    held (Function.update fibs host fib) key =
      if key.1 = host then fib.lookup key.2 else held fibs key := by
  unfold held
  split
  · next same => rw [same, Function.update_self]
  · next other => rw [Function.update_of_ne other]

/-- Replacing a route writes its key and no other. -/
theorem held_routeReplace (route : Route) (fibs : Fibs) :
    held (routeReplace route fibs).1 = KeyedWrites.putAll (write? route).toList (held fibs) := by
  rw [routeReplace, ipRouteReplace, write?, storeKey?]
  cases fibKey? route with
  | none =>
      dsimp only [Option.map_none, Option.toList_none]
      rw [Function.update_eq_self]
      rfl
  | some fibKey =>
      dsimp only [Option.map_some, Option.toList_some]
      funext key
      change _ = Function.update (held fibs) (route.onHost, fibKey) (some route.segs) key
      rw [held_update]
      by_cases same : key = (route.onHost, fibKey)
      · rw [same, if_pos rfl, Finmap.lookup_insert, Function.update_self]
      · rw [Function.update_of_ne same]
        split
        · next sameHost =>
          have otherKey : key.2 ≠ fibKey := fun sameKey => same (Prod.ext sameHost sameKey)
          rw [Finmap.lookup_insert_of_ne _ otherKey, held, sameHost]
        · rfl

/-- Deleting a route drops its key and no other, also if it is absent. -/
theorem held_routeDelete (route : Route) (fibs : Fibs) :
    held (routeDelete route fibs).1 = KeyedWrites.dropAll (storeKey? route).toList (held fibs) := by
  rw [routeDelete, ipRouteDel, storeKey?]
  cases fibKey? route with
  | none =>
      dsimp only [Option.map_none, Option.toList_none]
      rw [Function.update_eq_self]
      rfl
  | some fibKey =>
      dsimp only [Option.map_some, Option.toList_some]
      funext key
      change _ = Function.update (held fibs) (route.onHost, fibKey) none key
      split
      · rw [held_update]
        by_cases same : key = (route.onHost, fibKey)
        · rw [same, if_pos rfl, Finmap.lookup_erase, Function.update_self]
        · rw [Function.update_of_ne same]
          split
          · next sameHost =>
            have otherKey : key.2 ≠ fibKey := fun sameKey => same (Prod.ext sameHost sameKey)
            rw [Finmap.lookup_erase_ne otherKey, held, sameHost]
          · rfl
      · next absent =>
        rw [Function.update_eq_self]
        by_cases same : key = (route.onHost, fibKey)
        · rw [same, Function.update_self]
          exact Finmap.lookup_eq_none.mpr absent
        · rw [Function.update_of_ne same]

/-- A run folds the single commands over the FIBs. -/
theorem runParallel_fst (run : Route → Fibs → Fibs × Nat) (order : List Route) (fibs : Fibs) :
    (runParallel run order fibs).1 = order.foldl (fun fibs route => (run route fibs).1) fibs := by
  have counted (failures : Nat) : (order.foldl (fun (fibs, failures) route =>
      let (fibs, rc) := run route fibs
      (fibs, if rc ≠ 0 then failures + 1 else failures)) (fibs, failures)).1 =
        order.foldl (fun fibs route => (run route fibs).1) fibs := by
    induction order generalizing fibs failures with
    | nil => rfl
    | cons route rest ih => exact ih _ _
  exact counted 0

theorem held_replaceAll (order : List Route) (fibs : Fibs) :
    held (runParallel routeReplace order fibs).1 =
      KeyedWrites.putAll (order.filterMap write?) (held fibs) := by
  rw [runParallel_fst]
  induction order generalizing fibs with
  | nil => rfl
  | cons route rest ih =>
      rw [List.foldl_cons, ih, held_routeReplace, List.filterMap_cons]
      cases write? route with
      | none => rfl
      | some write => rfl

theorem held_deleteAll (order : List Route) (fibs : Fibs) :
    held (runParallel routeDelete order fibs).1 =
      KeyedWrites.dropAll (order.filterMap storeKey?) (held fibs) := by
  rw [runParallel_fst]
  induction order generalizing fibs with
  | nil => rfl
  | cons route rest ih =>
      rw [List.foldl_cons, ih, held_routeDelete, List.filterMap_cons]
      cases storeKey? route with
      | none => rfl
      | some key => rfl

/-! ## Whole specs -/

theorem writes_keys (routes : List Route) :
    (routes.filterMap write?).map Prod.fst = routes.filterMap storeKey? := by
  rw [List.map_filterMap]
  congr 1
  funext route
  unfold write?
  cases storeKey? route with
  | none => rfl
  | some key => rfl

/-- No two routes of a spec have a key in common, as text or as `ip` reads it. -/
theorem specRoutes_keys {topo : Topo} {doc : List (Scalar × Yaml)} {pairs : List (Pair topo)}
    (expanded : expandSpec topo doc = .ok pairs) :
    ((specRoutes pairs).map fun route => (route.onHost, route.dst, route.metric)).Nodup ∧
      ((specRoutes pairs).filterMap storeKey?).Nodup := by
  have slots := slots_nodup (expandSpec_nodup expanded)
  constructor
  · rw [map_specRoutes pairs Slot.textKey fun _ _ _ _ => rfl]
    exact slots.map fun _ _ => Slot.textKey_injective
  · have mapped : (specRoutes pairs).map storeKey? = (pairs.flatMap Pair.slots).map Slot.storeKey? :=
      map_specRoutes pairs _ fun pair srcId dstId plane => by
        rw [storeKey?, fibKey?, Option.map_map]
        rfl
    change ((specRoutes pairs).filterMap (id ∘ storeKey?)).Nodup
    rw [← List.filterMap_map, mapped, List.filterMap_map]
    exact slots.filterMap fun _ _ _ first second => Slot.eq_of_storeKey first second

theorem runParallel_snd {run : Route → Fibs → Fibs × Nat} {order : List Route}
    (succeeds : ∀ route ∈ order, ∀ fibs, (run route fibs).2 = 0) (fibs : Fibs) :
    (runParallel run order fibs).2 = 0 := by
  unfold runParallel
  induction order generalizing fibs with
  | nil => rfl
  | cons route rest ih =>
      have code := succeeds route List.mem_cons_self fibs
      rw [List.foldl_cons]
      dsimp only
      rw [code, if_neg (by decide)]
      exact ih (fun other mem => succeeds other (List.mem_cons_of_mem _ mem)) _

/-- While host ids fit the group they are written into, every command of a spec succeeds. -/
theorem specRoutes_succeed {topo : Topo} (fits : topo.numLeaves ≤ 65536) (pairs : List (Pair topo))
    (order : List Route) (isOrder : order.Perm (specRoutes pairs)) (fibs : Fibs) :
    (runParallel routeReplace order fibs).2 = 0 ∧ (runParallel routeDelete order fibs).2 = 0 := by
  have readable : ∀ route ∈ order, ∃ key, fibKey? route = some key := by
    intro route mem
    obtain ⟨pair, _, inRoutes⟩ := List.mem_flatMap.mp (isOrder.mem_iff.mp mem)
    obtain ⟨direction, _, inPlanes⟩ := List.mem_flatMap.mp inRoutes
    obtain ⟨plane, _, rfl⟩ := List.mem_map.mp inPlanes
    have small : (direction.2 : Nat) < 65536 := lt_of_lt_of_le direction.2.isLt fits
    rw [fibKey?, Pair.route, readPrefix_inner, if_pos small]
    exact ⟨_, rfl⟩
  constructor
  · refine runParallel_snd (fun route mem fibs => ?_) fibs
    obtain ⟨key, found⟩ := readable route mem
    rw [routeReplace, ipRouteReplace, found]
  · refine runParallel_snd (fun route mem fibs => ?_) fibs
    obtain ⟨key, found⟩ := readable route mem
    rw [routeDelete, ipRouteDel, found]
    dsimp only
    split
    · rfl
    · rfl

end Srv6Fabric.Routes

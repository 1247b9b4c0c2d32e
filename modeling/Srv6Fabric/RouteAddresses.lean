import Srv6Fabric.HostIdentity
import Srv6Fabric.Routes

/-!
# Addresses of routes

The groups of the addresses a route is written with, and the canonical texts of these
groups.
-/

namespace Srv6Fabric

namespace IpAddress

/-! ## Network texts -/

/-- The text of an address in a tenant's or a link's network. -/
def netText (third fourth last : List Char) : List Char :=
  ['2', '0', '0', '1', ':', 'd', 'b', '8', ':'] ++ third ++ [':'] ++ fourth ++ [':', ':'] ++ last

theorem netText_spelled {third fourth last : List Char} {network host suffix : Nat}
    (networkRead : parseHextet third = some network) (hostRead : parseHextet fourth = some host)
    (suffixRead : parseHextet last = some suffix) :
    Spelled [['2', '0', '0', '1'], ['d', 'b', '8'], third, fourth] [last]
      [0x2001, 0xdb8, network, host] [suffix] := by
  refine ⟨List.cons_ne_nil _ _, by simp, ?_, ?_⟩
  · rw [List.mapM_cons, List.mapM_cons, List.mapM_cons, List.mapM_cons, networkRead, hostRead,
      show parseHextet ['2', '0', '0', '1'] = some 0x2001 from by decide,
      show parseHextet ['d', 'b', '8'] = some 0xdb8 from by decide]
    simp
  · rw [List.mapM_cons, suffixRead]
    simp

theorem netText_eq (third fourth last : List Char) : netText third fourth last =
    compressedText [['2', '0', '0', '1'], ['d', 'b', '8'], third, fourth] [last] := by
  simp [netText, compressedText]

end IpAddress

namespace Routes

open IpAddress

/-! ## Destinations -/

/-- The third group of a tenant's addresses. -/
def tenantNumber : Tenant → Nat
  | .green => 0xbbbb
  | .yellow => 0xcccc

theorem parseHextet_tenantGroup (tenant : Tenant) :
    parseHextet (tenantGroup tenant.name) = some (tenantNumber tenant) := by
  cases tenant with
  | green => decide
  | yellow => decide

theorem parseHextet_host {host : Nat} (small : host < 65536) :
    parseHextet (Topo.twoHexDigits host).toList = some host := by
  rw [parseHextet_twoHexDigits, if_pos small]

theorem innerAddr_eq (tenant : Tenant) (hostId : Nat) :
    innerAddr tenant hostId = String.ofList ([':'].intercalate (innerParts tenant.name hostId)) := by
  cases tenant with
  | green => exact innerText ['b', 'b', 'b', 'b'] rfl hostId
  | yellow => exact innerText ['c', 'c', 'c', 'c'] rfl hostId

/-- The destination of a route is a host address, unless its host id takes five digits. -/
theorem readPrefix_inner (tenant : Tenant) (hostId : Nat) :
    readPrefix (innerRouteDst tenant hostId) =
      if hostId < 65536 then some (.v6 (innerGroups tenant.name hostId) none, 128) else none := by
  have shaped := inner_shaped tenant.name hostId
  have shape : innerRouteDst tenant hostId = String.ofList (compressedText [['2', '0', '0', '1'],
      ['d', 'b', '8'], tenantGroup tenant.name, (Topo.twoHexDigits hostId).toList] [['2']] ++
        '/' :: ['1', '2', '8']) := by
    rw [← intercalate_innerParts, ← String.toList_inj, String.toList_ofList, innerRouteDst,
      innerAddr_eq, String.toList_append, String.toList_ofList]
    rfl
  rw [shape, shaped.readPrefix_eq (List.cons_ne_nil _ _) (by decide), ← intercalate_innerParts,
    ofText_inner]
  split
  · rfl
  · rfl

/-- Its canonical text. -/
theorem str_innerGroups (tenant : String) (host : Nat) :
    (IpAddress.v6 (innerGroups tenant host) none).str =
      String.ofList ([':'].intercalate (canonicalParts tenant host)) := by
  change String.ofList ([':'].intercalate (compress (innerGroups tenant host))) = _
  rw [compress_innerGroups]

/-! ## Segment lists -/

/-- The functions a leaf and a host are asked for at the end of a path. -/
def lastGroups : Tenant → List Nat
  | .green => [0xd000]
  | .yellow => [0xe009, 0xd001]

/-- The groups of a uSID list that are not zeros at its end. -/
def pathGroups (tenant : Tenant) (plane spine leaf : Nat) : List Nat :=
  [0xfc00, plane, 0xf000 + spine, 0xe000 + leaf] ++ lastGroups tenant

/-- The uSID list of a path, as groups. -/
def outerGroups (tenant : Tenant) (plane spine leaf : Nat) : List Nat :=
  match tenant with
  | .green => [0xfc00, plane, 0xf000 + spine, 0xe000 + leaf, 0xd000, 0, 0, 0]
  | .yellow => [0xfc00, plane, 0xf000 + spine, 0xe000 + leaf, 0xe009, 0xd001, 0, 0]

/-- The parts of a uSID list as a route spells them. -/
def pathParts (tenant : Tenant) (plane spine leaf : Nat) : List (List Char) :=
  [['f', 'c', '0', '0'], ['0', '0', '0'] ++ Nat.toDigits 16 plane,
    ['f', '0', '0'] ++ Nat.toDigits 16 spine, ['e', '0', '0'] ++ Nat.toDigits 16 leaf] ++
    (lastGroups tenant).map (Nat.toDigits 16)

theorem buildSegs_eq (tenant : Tenant) (plane spine leaf : Nat) :
    buildSegs tenant plane spine leaf =
      String.ofList (compressedText (pathParts tenant plane spine leaf) []) := by
  have green : (lastGroups .green).map (Nat.toDigits 16) = [['d', '0', '0', '0']] := by decide
  have yellow : (lastGroups .yellow).map (Nat.toDigits 16) =
      [['e', '0', '0', '9'], ['d', '0', '0', '1']] := by decide
  rw [← String.toList_inj, String.toList_ofList]
  cases tenant with
  | green => simp [buildSegs, Topo.hexDigits, compressedText, pathParts, green]
  | yellow => simp [buildSegs, Topo.hexDigits, compressedText, pathParts, yellow]

/-- A list whose parts are read one by one. -/
theorem mapM_parseHextet {groups : List Nat} (small : ∀ group ∈ groups, group < 65536) :
    (groups.map (Nat.toDigits 16)).mapM parseHextet = some groups := by
  induction groups with
  | nil => rfl
  | cons group rest ih =>
      obtain ⟨first, others⟩ := List.forall_mem_cons.mp small
      rw [List.map_cons, List.mapM_cons, parseHextet_toDigits first, ih others]
      rfl

theorem lastGroups_small (tenant : Tenant) : ∀ group ∈ lastGroups tenant, group < 65536 := by
  cases tenant with
  | green => decide
  | yellow => decide

theorem pathParts_spelled (tenant : Tenant) {plane spine leaf : Nat} (isPlane : plane < 16)
    (isSpine : spine < 16) (isLeaf : leaf < 16) :
    Spelled (pathParts tenant plane spine leaf) [] (pathGroups tenant plane spine leaf) [] := by
  have block := parseHextet_snoc ['0', '0', '0'] 0 (by decide) (by decide) isPlane
  have up := parseHextet_snoc ['f', '0', '0'] 0xf00 (by decide) (by decide) isSpine
  have down := parseHextet_snoc ['e', '0', '0'] 0xe00 (by decide) (by decide) isLeaf
  have first : parseHextet ['f', 'c', '0', '0'] = some 0xfc00 := by decide
  refine ⟨List.cons_ne_nil _ _, ?_, ?_, rfl⟩
  · cases tenant with
    | green => simp [pathParts, lastGroups]
    | yellow => simp [pathParts, lastGroups]
  · rw [pathParts, List.mapM_append, mapM_parseHextet (lastGroups_small tenant), List.mapM_cons,
      List.mapM_cons, List.mapM_cons, List.mapM_cons, List.mapM_nil, first, block, up, down, Nat.mul_zero,
      Nat.zero_add]
    rfl

theorem ofText_buildSegs (tenant : Tenant) {plane spine leaf : Nat} (isPlane : plane < 16)
    (isSpine : spine < 16) (isLeaf : leaf < 16) :
    ofText (buildSegs tenant plane spine leaf) =
      some (.v6 (outerGroups tenant plane spine leaf) none) := by
  rw [buildSegs_eq, (pathParts_spelled tenant isPlane isSpine isLeaf).ofText_eq]
  cases tenant with
  | green => rfl
  | yellow => rfl

/-- The zeros at the end are the longest run, so the plane keeps its own group. -/
theorem str_outerGroups (tenant : Tenant) (plane spine leaf : Nat) :
    (IpAddress.v6 (outerGroups tenant plane spine leaf) none).str =
      String.ofList (compressedText ((pathGroups tenant plane spine leaf).map (Nat.toDigits 16)) []) := by
  have nonempty : (pathGroups tenant plane spine leaf).map (Nat.toDigits 16) ≠ [] :=
    List.cons_ne_nil _ _
  change String.ofList ([':'].intercalate (compress (outerGroups tenant plane spine leaf))) = _
  rw [compressedText_eq nonempty, compress]
  by_cases zero : plane = 0
  · subst zero
    cases tenant with
    | green => simp [outerGroups, ZeroRun.next, compressedParts, pathGroups, lastGroups]
    | yellow => simp [outerGroups, ZeroRun.next, compressedParts, pathGroups, lastGroups]
  · cases tenant with
    | green => simp [outerGroups, ZeroRun.next, compressedParts, pathGroups, lastGroups, zero]
    | yellow => simp [outerGroups, ZeroRun.next, compressedParts, pathGroups, lastGroups, zero]

end Routes

end Srv6Fabric

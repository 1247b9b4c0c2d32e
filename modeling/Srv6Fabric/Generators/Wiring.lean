import Srv6Fabric.Generators.Fabric
import Srv6Fabric.HostIdentity

/-!
# Wiring

Every end of a generated link is a port of its own, and so is every port of a leaf's
interface table, as long as the uplinks stop below the host-facing ports.  Uplinks are
numbered by spine and host-facing ports are constants, so the ninth spine's uplink is the
green host's port.
-/

namespace Srv6Fabric.Fabric

open Library Topo

/-! ## Node names -/

inductive Node where
  | leaf (plane index : Nat)
  | spine (plane index : Nat)
  | host (tenant : Tenant) (index : Nat)
  deriving DecidableEq

namespace Node

def name : Node → String
  | leaf plane index => leafName plane index
  | spine plane index => spineName plane index
  | host tenant index => hostName tenant.name index

/-- The name up to its dash. -/
def front : Node → List Char
  | leaf plane _ => 'p' :: Nat.toDigits 10 plane
  | spine plane _ => 'p' :: Nat.toDigits 10 plane
  | host tenant _ => tenant.name.toList

/-- The name from its dash on. -/
def back : Node → List Char
  | leaf _ index => ['l', 'e', 'a', 'f'] ++ (twoDigits index).toList
  | spine _ index => ['s', 'p', 'i', 'n', 'e'] ++ (twoDigits index).toList
  | host _ index => ['h', 'o', 's', 't'] ++ (twoDigits index).toList

theorem name_toList (node : Node) :
    node.name.toList = ['-'].intercalate [node.front, node.back] := by
  cases node with
  | leaf plane index =>
      rw [name, leafName, String.toList_append, String.toList_append, String.toList_append]
      change (['p'] ++ (Nat.repr plane).toList ++ _) ++ _ = _
      rw [Nat.toList_repr]
      simp [front, back]
  | spine plane index =>
      rw [name, spineName, String.toList_append, String.toList_append, String.toList_append]
      change (['p'] ++ (Nat.repr plane).toList ++ _) ++ _ = _
      rw [Nat.toList_repr]
      simp [front, back]
  | host tenant index =>
      rw [name, hostName_toList]
      simp [front, back]

theorem dash_not_mem_digits {n : Nat} : '-' ∉ (twoDigits n).toList := fun mem =>
  Bool.false_ne_true (twoDigits_isDigit mem)

theorem dash_not_mem (node : Node) : '-' ∉ node.front ∧ '-' ∉ node.back := by
  have digits (plane : Nat) : '-' ∉ Nat.toDigits 10 plane := fun mem =>
    Bool.false_ne_true (Nat.isDigit_of_mem_toDigits (by decide) (by decide) mem)
  cases node with
  | leaf plane index => simp [front, back, digits, dash_not_mem_digits]
  | spine plane index => simp [front, back, digits, dash_not_mem_digits]
  | host tenant index =>
      cases tenant with
      | green => simp [front, back, Tenant.name, dash_not_mem_digits]
      | yellow => simp [front, back, Tenant.name, dash_not_mem_digits]

theorem twoDigits_injective {n m : Nat}
    (same : (twoDigits n).toList = (twoDigits m).toList) : n = m := by
  rw [← ofDigitChars_twoDigits n, same, ofDigitChars_twoDigits]

theorem name_injective {node other : Node} (same : node.name = other.name) : node = other := by
  have chars := congrArg (fun text : String => text.toList.splitOn '-') same
  have apart (node : Node) : ∀ part ∈ [node.front, node.back], '-' ∉ part := by
    intro part mem
    obtain ⟨inFront, inBack⟩ := node.dash_not_mem
    simp only [List.mem_cons, List.not_mem_nil, or_false] at mem
    rcases mem with rfl | rfl
    · exact inFront
    · exact inBack
  rw [name_toList, name_toList, List.splitOn_intercalate '-' (apart node) (List.cons_ne_nil _ _),
    List.splitOn_intercalate '-' (apart other) (List.cons_ne_nil _ _)] at chars
  obtain ⟨fronts, backs⟩ : node.front = other.front ∧ node.back = other.back := by
    simpa using chars
  have planes {plane otherPlane : Nat} (same : 'p' :: Nat.toDigits 10 plane =
      'p' :: Nat.toDigits 10 otherPlane) : plane = otherPlane := by
    rw [← Nat.ofDigitChars_ten_toDigits (n := plane), List.cons.inj same |>.2,
      Nat.ofDigitChars_ten_toDigits]
  cases node <;> cases other <;> simp only [front, back] at fronts backs
  case leaf.leaf => rw [planes fronts, twoDigits_injective (List.append_cancel_left backs)]
  case spine.spine => rw [planes fronts, twoDigits_injective (List.append_cancel_left backs)]
  case host.host =>
    rw [Tenant.name_injective (String.toList_inj.mp fronts),
      twoDigits_injective (List.append_cancel_left backs)]
  all_goals simp at backs

end Node

/-! ## Links -/

/-- A link by what it joins. -/
inductive LinkId where
  | fabric (plane spine leaf : Nat)
  | uplink (plane host : Nat) (tenant : Tenant)
  deriving DecidableEq

/-- An interface by its node and its number. -/
abbrev Nic := Node × Nat

def Nic.endpoint (nic : Nic) : Endpoint := ⟨nic.1.name, "eth" ++ toString nic.2⟩

/-- Numbered interfaces are as different as their numbers. -/
theorem numbered_injective {stem : String} {n m : Nat}
    (same : stem ++ toString n = stem ++ toString m) : n = m := by
  have chars := congrArg String.toList same
  rw [String.toList_append, String.toList_append] at chars
  have digits : (Nat.repr n).toList = (Nat.repr m).toList := List.append_cancel_left chars
  rw [Nat.toList_repr, Nat.toList_repr] at digits
  rw [← Nat.ofDigitChars_ten_toDigits (n := n), digits, Nat.ofDigitChars_ten_toDigits]

theorem Nic.endpoint_injective {nic other : Nic} (same : nic.endpoint = other.endpoint) :
    nic = other := by
  obtain ⟨names, ports⟩ := Endpoint.mk.inj same
  exact Prod.ext (Node.name_injective names) (numbered_injective ports)

/-- The number of the leaf's interface toward a host. -/
def hostPortNumber : Tenant → Nat
  | .green => 9
  | .yellow => 10

theorem hostPort_eq (tenant : Tenant) :
    hostPort tenant = "eth" ++ toString (hostPortNumber tenant) := by
  cases tenant with
  | green => decide
  | yellow => decide

namespace LinkId

/-- The leaf's end comes first. -/
def ends : LinkId → Nic × Nic
  | fabric plane spine leaf => ((.leaf plane leaf, spine + 1), (.spine plane spine, leaf + 1))
  | uplink plane host tenant =>
      ((.leaf plane host, hostPortNumber tenant), (.host tenant host, plane + 1))

def link (id : LinkId) : Link := (id.ends.1.endpoint, id.ends.2.endpoint)

theorem link_uplink (plane host : Nat) (tenant : Tenant) :
    (uplink plane host tenant).link = hostLink plane host tenant := by
  rw [hostLink, hostPort_eq]
  rfl

/-- The link of an interface, for leaves with at most eight uplinks. -/
def owner : Nic → LinkId
  | (.leaf plane leaf, number) =>
      if number = 9 then uplink plane leaf .green
      else if number = 10 then uplink plane leaf .yellow
      else fabric plane (number - 1) leaf
  | (.spine plane spine, number) => fabric plane spine (number - 1)
  | (.host tenant host, number) => uplink (number - 1) host tenant

/-- A fabric link is not one of a ninth spine. -/
def Low : LinkId → Prop
  | fabric _ spine _ => spine < 8
  | uplink .. => True

theorem owner_ends {id : LinkId} (low : id.Low) : owner id.ends.1 = id ∧ owner id.ends.2 = id := by
  cases id with
  | fabric plane spine leaf =>
      have small : spine < 8 := low
      refine ⟨?_, by simp [owner, ends]⟩
      dsimp only [owner, ends]
      rw [if_neg (by omega), if_neg (by omega), Nat.add_sub_cancel]
  | uplink plane host tenant =>
      cases tenant with
      | green => exact ⟨rfl, by simp [owner, ends]⟩
      | yellow => exact ⟨rfl, by simp [owner, ends]⟩

theorem ends_distinct (id : LinkId) : id.ends.1 ≠ id.ends.2 := by
  cases id with
  | fabric plane spine leaf => exact fun same => Node.noConfusion (congrArg Prod.fst same)
  | uplink plane host tenant => exact fun same => Node.noConfusion (congrArg Prod.fst same)

end LinkId

def linkIds (topo : Topo) : List LinkId :=
  ((List.range topo.numPlanes).flatMap fun plane => (List.range topo.numSpines).flatMap fun spine =>
    (List.range topo.numLeaves).map (LinkId.fabric plane spine)) ++
  ((List.range topo.numPlanes).flatMap fun plane => (List.range topo.numLeaves).flatMap fun host =>
    [.uplink plane host .green, .uplink plane host .yellow])

theorem links_eq (topo : Topo) : links topo = (linkIds topo).map LinkId.link := by
  rw [links, linkIds, List.map_append]
  simp only [List.map_flatMap, List.map_map, List.map_cons, List.map_nil, LinkId.link_uplink]
  rfl

theorem mem_linkIds {topo : Topo} {id : LinkId} : id ∈ linkIds topo ↔
    match id with
    | .fabric plane spine leaf =>
        plane < topo.numPlanes ∧ spine < topo.numSpines ∧ leaf < topo.numLeaves
    | .uplink plane host _ => plane < topo.numPlanes ∧ host < topo.numLeaves := by
  cases id with
  | fabric plane spine leaf => simp [linkIds]
  | uplink plane host tenant => cases tenant <;> simp [linkIds]

/-- Parts that name their whole do not meet. -/
theorem nodup_flatMap_of_owner {α β γ : Type} {wholes : List α} {parts : α → List β} (owner : β → γ)
    (name : α → γ) (nodup : wholes.Pairwise fun whole other => name whole ≠ name other)
    (inner : ∀ whole ∈ wholes, (parts whole).Nodup)
    (owned : ∀ whole ∈ wholes, ∀ part ∈ parts whole, owner part = name whole) :
    (wholes.flatMap parts).Nodup := by
  refine List.nodup_flatMap.mpr ⟨inner, nodup.imp_of_mem fun {whole other} isWhole isOther apart => ?_⟩
  intro part inWhole inOther
  exact apart ((owned whole isWhole part inWhole).symm.trans (owned other isOther part inOther))

/-- The plane, the spine or host, and the leaf of a link. -/
def LinkId.plane : LinkId → Nat
  | fabric plane _ _ => plane
  | uplink plane _ _ => plane

def LinkId.middle : LinkId → Nat
  | fabric _ spine _ => spine
  | uplink _ host _ => host

theorem linkIds_nodup (topo : Topo) : (linkIds topo).Nodup := by
  refine List.nodup_append.mpr ⟨?_, ?_, ?_⟩
  · refine nodup_flatMap_of_owner LinkId.plane id List.nodup_range
      (fun plane _ => ?_) fun plane _ link mem => ?_
    · refine nodup_flatMap_of_owner LinkId.middle id List.nodup_range
        (fun spine _ => ?_) fun spine _ link mem => ?_
      · exact List.nodup_range.map fun _ _ same => (LinkId.fabric.inj same).2.2
      · obtain ⟨leaf, _, rfl⟩ := List.mem_map.mp mem
        rfl
    · obtain ⟨spine, _, inSpine⟩ := List.mem_flatMap.mp mem
      obtain ⟨leaf, _, rfl⟩ := List.mem_map.mp inSpine
      rfl
  · refine nodup_flatMap_of_owner LinkId.plane id List.nodup_range
      (fun plane _ => ?_) fun plane _ link mem => ?_
    · refine nodup_flatMap_of_owner LinkId.middle id List.nodup_range
        (fun host _ => by simp) fun host _ link mem => ?_
      simp only [List.mem_cons, List.not_mem_nil, or_false] at mem
      rcases mem with rfl | rfl <;> rfl
    · obtain ⟨host, _, inHost⟩ := List.mem_flatMap.mp mem
      simp only [List.mem_cons, List.not_mem_nil, or_false] at inHost
      rcases inHost with rfl | rfl <;> rfl
  · rintro id inFabric other inUplinks rfl
    simp only [List.mem_flatMap, List.mem_map] at inFabric
    obtain ⟨plane, _, spine, _, leaf, _, rfl⟩ := inFabric
    simp at inUplinks

/-! ## Ends of links -/

/-- Every end of every link. -/
def endpoints (topo : Topo) : List Endpoint := (links topo).flatMap fun link => [link.1, link.2]

theorem endpoints_eq (topo : Topo) : endpoints topo =
    ((linkIds topo).flatMap fun id => [id.ends.1, id.ends.2]).map Nic.endpoint := by
  rw [endpoints, links_eq, List.flatMap_map, List.map_flatMap]
  rfl

theorem endpoints_nodup {topo : Topo} (free : topo.numSpines ≤ 8) : (endpoints topo).Nodup := by
  have low : ∀ id ∈ linkIds topo, id.Low := by
    intro id mem
    cases id with
    | fabric plane spine leaf => exact lt_of_lt_of_le (mem_linkIds.mp mem).2.1 free
    | uplink plane host tenant => trivial
  rw [endpoints_eq]
  refine List.Nodup.map (fun _ _ => Nic.endpoint_injective) ?_
  refine nodup_flatMap_of_owner LinkId.owner id (linkIds_nodup topo)
    (fun id _ => by simpa using id.ends_distinct) fun id mem nic isEnd => ?_
  obtain ⟨first, second⟩ := LinkId.owner_ends (low id mem)
  simp only [List.mem_cons, List.not_mem_nil, or_false] at isEnd
  rcases isEnd with rfl | rfl
  · exact first
  · exact second

/-- A ninth spine's uplink ends where the green host's does. -/
theorem endpoints_not_nodup {topo : Topo} (planes : 0 < topo.numPlanes) (leaves : 0 < topo.numLeaves)
    (ninth : 8 < topo.numSpines) : ¬ (endpoints topo).Nodup := by
  intro nodup
  rw [endpoints, links, List.flatMap_append] at nodup
  have inFabric : fabricLink 0 8 0 ∈ (List.range topo.numPlanes).flatMap fun plane =>
      (List.range topo.numSpines).flatMap fun spine =>
        (List.range topo.numLeaves).map (fabricLink plane spine) := by
    simp only [List.mem_flatMap, List.mem_map, List.mem_range]
    exact ⟨0, planes, 8, ninth, 0, leaves, rfl⟩
  have inUplinks : hostLink 0 0 .green ∈ (List.range topo.numPlanes).flatMap fun plane =>
      (List.range topo.numLeaves).flatMap fun host =>
        [hostLink plane host .green, hostLink plane host .yellow] := by
    simp only [List.mem_flatMap, List.mem_range]
    exact ⟨0, planes, 0, leaves, List.mem_cons_self⟩
  exact (List.nodup_append.mp nodup).2.2 ⟨leafName 0 0, "eth9"⟩
    (List.mem_flatMap.mpr ⟨_, inFabric, List.mem_cons_self⟩) ⟨leafName 0 0, "eth9"⟩
    (List.mem_flatMap.mpr ⟨_, inUplinks, List.mem_cons_self⟩) rfl

/-! ## Interface tables -/

theorem mem_assignAll {assignments : List (IfaceKey × List (String × String))} {key : IfaceKey} :
    key ∈ (assignAll assignments).keys ↔ key ∈ assignments.map Prod.fst := by
  have folded (table : IfaceTable) : key ∈ (assignments.foldl (fun table assignment =>
      table.set assignment.1 assignment.2) table).keys ↔
        key ∈ table.keys ∨ key ∈ assignments.map Prod.fst := by
    induction assignments generalizing table with
    | nil => simp
    | cons assignment rest ih =>
        rw [List.foldl_cons, ih, OrderedDict.keys_set, List.map_cons, List.mem_cons]
        split
        · next present =>
          constructor
          · rintro (held | later)
            · exact Or.inl held
            · exact Or.inr (Or.inr later)
          · rintro (held | rfl | later)
            · exact Or.inl held
            · exact Or.inl present
            · exact Or.inr later
        · rw [List.mem_append, List.mem_singleton, or_assoc]
  exact (folded .empty).trans (or_iff_right (List.not_mem_nil))

/-- The port of a spine in a leaf's table. -/
def IsUplink (topo : Topo) (plane leaf : Nat) (port : String) : Prop :=
  ∃ spine < topo.numSpines, IfaceKey.mk port (some (p2pPrefix topo spine leaf ++ "::1/127")) ∈
    (writeLeafConfigDb topo plane leaf).keys

/-- The port of a host in a leaf's table. -/
def IsHostFacing (topo : Topo) (plane leaf : Nat) (port : String) : Prop :=
  ∃ tenant, IfaceKey.mk port (some (hostAnycastPrefix tenant leaf ++ "::1/64")) ∈
    (writeLeafConfigDb topo plane leaf).keys

/-- The length that ends a prefix tells what it is the prefix of. -/
theorem suffix_ne {first second suffix other : String} (last otherLast : Char)
    (ends : suffix.toList.getLast? = some last) (otherEnds : other.toList.getLast? = some otherLast)
    (apart : last ≠ otherLast) : first ++ suffix ≠ second ++ other := by
  intro same
  have chars := congrArg (fun text : String => text.toList.getLast?) same
  rw [String.toList_append, String.toList_append, List.getLast?_append, List.getLast?_append, ends,
    otherEnds] at chars
  exact apart (Option.some.inj chars)

theorem mem_leafKeys {topo : Topo} {plane leaf : Nat} {port addr : String} :
    IfaceKey.mk port (some addr) ∈ (writeLeafConfigDb topo plane leaf).keys ↔
      port = "Loopback0" ∧ (addr = leafLoopbackV4 plane leaf ++ "/32" ∨
        addr = leafLoopback plane leaf ++ "/128") ∨
      (∃ spine < topo.numSpines, port = leafUplinkEth spine ∧
        addr = p2pPrefix topo spine leaf ++ "::1/127") ∨
      port = "Ethernet32" ∧ addr = hostAnycastPrefix .green leaf ++ "::1/64" ∨
      port = "Ethernet36" ∧ addr = hostAnycastPrefix .yellow leaf ++ "::1/64" := by
  rw [writeLeafConfigDb, mem_assignAll]
  simp [loopbackAssignments, uplinkAssignments, hostPortAssignments]
  rw [and_or_left, or_assoc]

theorem isUplink_iff {topo : Topo} {plane leaf : Nat} {port : String} :
    IsUplink topo plane leaf port ↔ ∃ spine < topo.numSpines, port = leafUplinkEth spine := by
  constructor
  · rintro ⟨spine, _, mem⟩
    rw [mem_leafKeys] at mem
    rcases mem with ⟨_, v4 | v6⟩ | ⟨other, small, isPort, _⟩ | ⟨_, green⟩ | ⟨_, yellow⟩
    · exact absurd v4 (suffix_ne '7' '2' rfl rfl (by decide))
    · exact absurd v6 (suffix_ne '7' '8' rfl rfl (by decide))
    · exact ⟨other, small, isPort⟩
    · exact absurd green (suffix_ne '7' '4' rfl rfl (by decide))
    · exact absurd yellow (suffix_ne '7' '4' rfl rfl (by decide))
  · rintro ⟨spine, small, rfl⟩
    refine ⟨spine, small, ?_⟩
    rw [mem_leafKeys]
    exact Or.inr (Or.inl ⟨spine, small, rfl, rfl⟩)

theorem isHostFacing_iff {topo : Topo} {plane leaf : Nat} {port : String} :
    IsHostFacing topo plane leaf port ↔ port = "Ethernet32" ∨ port = "Ethernet36" := by
  constructor
  · rintro ⟨tenant, mem⟩
    rw [mem_leafKeys] at mem
    rcases mem with ⟨_, v4 | v6⟩ | ⟨_, _, _, uplink⟩ | ⟨green, _⟩ | ⟨yellow, _⟩
    · exact absurd v4 (suffix_ne '4' '2' rfl rfl (by decide))
    · exact absurd v6 (suffix_ne '4' '8' rfl rfl (by decide))
    · exact absurd uplink (suffix_ne '4' '7' rfl rfl (by decide))
    · exact Or.inl green
    · exact Or.inr yellow
  · rintro (rfl | rfl)
    · refine ⟨.green, ?_⟩
      rw [mem_leafKeys]
      exact Or.inr (Or.inr (Or.inl ⟨rfl, rfl⟩))
    · refine ⟨.yellow, ?_⟩
      rw [mem_leafKeys]
      exact Or.inr (Or.inr (Or.inr ⟨rfl, rfl⟩))

/-! ## The generator -/

/-- No port is used twice: not in the wiring, and not in a leaf's interface table. -/
structure PortsUsedOnce (topo : Topo) : Prop where
  wiring : (endpoints topo).Nodup
  interfaces : ∀ plane < topo.numPlanes, ∀ leaf < topo.numLeaves, ∀ port,
    ¬ (IsUplink topo plane leaf port ∧ IsHostFacing topo plane leaf port)

theorem ports_used_once_iff (topo : Topo) (planes : 0 < topo.numPlanes)
    (leaves : 0 < topo.numLeaves) : PortsUsedOnce topo ↔ topo.numSpines ≤ 8 := by
  constructor
  · intro once
    by_contra many
    exact endpoints_not_nodup planes leaves (by omega) once.wiring
  · intro free
    refine ⟨endpoints_nodup free, fun plane _ leaf _ port both => ?_⟩
    obtain ⟨isUplink, isHostFacing⟩ := both
    obtain ⟨spine, small, rfl⟩ := isUplink_iff.mp isUplink
    rcases isHostFacing_iff.mp isHostFacing with green | yellow
    · have number := numbered_injective (m := 32) green
      omega
    · have number := numbered_injective (m := 36) yellow
      omega

/-- One plane with nine spines and one leaf. -/
def nineSpines : Topo := ⟨1, 9, 1, ["green", "yellow"], "sonic-docker-1p-9x1"⟩

/-- The uplink to the ninth spine is the green host's port, in both files. -/
theorem nine_spines_share_a_port :
    (fabricLink 0 8 0 ∈ links nineSpines ∧ hostLink 0 0 .green ∈ links nineSpines ∧
      (fabricLink 0 8 0).1 = (hostLink 0 0 .green).1) ∧
    (IsUplink nineSpines 0 0 "Ethernet32" ∧ IsHostFacing nineSpines 0 0 "Ethernet32") ∧
    ¬ PortsUsedOnce nineSpines := by
  refine ⟨⟨?_, ?_, by decide⟩, ⟨isUplink_iff.mpr ⟨8, by decide, by decide⟩,
    isHostFacing_iff.mpr (Or.inl rfl)⟩, fun once => ?_⟩
  · decide
  · decide
  · exact endpoints_not_nodup (by decide) (by decide) (by decide) once.wiring

/-- The default topology uses every port once. -/
theorem ports_used_once_default : 0 < Topo.fourPlanes.numPlanes ∧ 0 < Topo.fourPlanes.numLeaves ∧
    (PortsUsedOnce Topo.fourPlanes ↔ Topo.fourPlanes.numSpines ≤ 8) :=
  ⟨by decide, by decide, ports_used_once_iff Topo.fourPlanes (by decide) (by decide)⟩

end Srv6Fabric.Fabric

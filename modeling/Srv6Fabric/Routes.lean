import Srv6Fabric.Library.OrderedDict
import Srv6Fabric.Library.Sorting
import Srv6Fabric.Usid
import Srv6Fabric.Yaml

/-!
# Route sets

`routes.py`: the endpoint pairs a `RouteSet` document asks for, and the routes they
stand for.  A bool is the number it stands for, since all that becomes of an id or an index
is arithmetic, comparison and number formats.
-/

namespace Srv6Fabric

open Library

namespace Routes

/-! ## Address and SID helpers -/

/-- `inner_addr`. -/
def innerAddr (tenant : Tenant) (hostId : Nat) : String :=
  match tenant with
  | .green => "2001:db8:bbbb:" ++ Topo.twoHexDigits hostId ++ "::2"
  | .yellow => "2001:db8:cccc:" ++ Topo.twoHexDigits hostId ++ "::2"

/-- `inner_route_dst`. -/
def innerRouteDst (tenant : Tenant) (hostId : Nat) : String := innerAddr tenant hostId ++ "/128"

/-- `build_segs`. -/
def buildSegs (tenant : Tenant) (plane spine dstLeaf : Nat) : String :=
  let seg := "fc00:000" ++ Topo.hexDigits plane ++ ":f00" ++ Topo.hexDigits spine ++ ":e00" ++
    Topo.hexDigits dstLeaf
  match tenant with
  | .green => seg ++ ":d000::"
  | .yellow => seg ++ ":e009:d001::"

/-- `spine_for`. -/
def spineFor (topo : Topo) (lo hi : Nat) : Nat :=
  let (a, b) := if lo < hi then (lo, hi) else (hi, lo)
  match Topo.referencePairsSpines.lookup (a, b) with
  | some spine => spine
  | none => (a * topo.numLeaves + b) % topo.numSpines

/-- `host_name`. -/
def hostName (tenant : Tenant) (hostId : Nat) : String := Topo.hostName tenant.name hostId

/-! ## Spec model -/

/-- `_validate_spine`: `"auto"` or an index. -/
inductive SpineSpec (topo : Topo) where
  | auto
  | index (spine : Fin topo.numSpines)
  deriving DecidableEq

/-- `tuple(sorted(set(planes)))`. -/
structure PlaneSet (topo : Topo) where
  planes : List (Fin topo.numPlanes)
  increasing : planes.Pairwise (· < ·)
  deriving DecidableEq

/-- An endpoint pair as the document has it. -/
structure RawPair (topo : Topo) where
  tenant : Tenant
  src : Fin topo.numLeaves
  dst : Fin topo.numLeaves
  distinct : src ≠ dst
  spine : SpineSpec topo
  planes : PlaneSet topo
  deriving DecidableEq

/-- The key pairs are deduplicated by: the lower id comes first. -/
structure PairKey (topo : Topo) where
  tenant : Tenant
  a : Fin topo.numLeaves
  b : Fin topo.numLeaves
  ordered : a < b
  deriving DecidableEq

/-- `Pair`. -/
structure Pair (topo : Topo) where
  key : PairKey topo
  spine : Nat
  planes : PlaneSet topo
  deriving DecidableEq

/-- `Route`. -/
structure Route where
  onHost : String
  dst : String
  segs : String
  dev : String
  metric : Nat
  deriving DecidableEq, Repr

namespace Pair

variable {topo : Topo}

/-- The route of one direction on one plane. -/
def route (pair : Pair topo) (srcId dstId : Fin topo.numLeaves) (plane : Fin topo.numPlanes) :
    Route where
  onHost := hostName pair.key.tenant srcId
  dst := innerRouteDst pair.key.tenant dstId
  segs := buildSegs pair.key.tenant plane pair.spine dstId
  dev := Topo.planeNic plane
  metric := 100 + plane

/-- `Pair.routes`. -/
def routes (pair : Pair topo) : List Route :=
  [(pair.key.a, pair.key.b), (pair.key.b, pair.key.a)].flatMap fun direction =>
    pair.planes.planes.map (pair.route direction.1 direction.2)

end Pair

/-! ## Validators -/

/-- `raise ValueError(f"{ctx}: ..., got {v!r}")`. -/
def refuse {α : Type} (ctx expected : String) (value : Yaml) : Except PyError α := do
  let got ← value.repr
  .error (.valueError s!"{ctx}: {expected}, got {got}")

/-- The number of a value that passes `isinstance(v, int)`. -/
def asInt? : Yaml → Option Int
  | .scalar (.int number) => some number
  | .scalar (.bool value) => some (if value then 1 else 0)
  | _ => none

theorem toNat_lt_of_inRange {bound : Nat} {number : Int} (inRange : 0 ≤ number ∧ number < bound) :
    number.toNat < bound :=
  (Int.toNat_lt inRange.1).mpr inRange.2

def indexBelow? (bound : Nat) (number : Int) : Option (Fin bound) :=
  if inRange : 0 ≤ number ∧ number < bound then
    some ⟨number.toNat, toNat_lt_of_inRange inRange⟩
  else none

/-- `_validate_host_id`. -/
def validateHostId (topo : Topo) (value : Yaml) (ctx : String) :
    Except PyError (Fin topo.numLeaves) :=
  match (asInt? value).bind (indexBelow? topo.numLeaves) with
  | some hostId => .ok hostId
  | none => refuse ctx s!"expected int 0..{(topo.numLeaves : Int) - 1}" value

/-- `_validate_tenant`. -/
def validateTenant (value : Yaml) (ctx : String) : Except PyError Tenant :=
  match value with
  | .scalar (.str "green") => .ok .green
  | .scalar (.str "yellow") => .ok .yellow
  | _ => refuse ctx "tenant must be 'green' or 'yellow'" value

/-- `sorted(set(planes))`. -/
def sortedSet {bound : Nat} (planes : List (Fin bound)) : List (Fin bound) :=
  planes.dedup.mergeSort fun plane other => plane ≤ other

theorem sortedSet_increasing {bound : Nat} (planes : List (Fin bound)) :
    (sortedSet planes).Pairwise (· < ·) :=
  pairwise_lt_mergeSort (List.nodup_dedup planes)

/-- `_validate_planes`. -/
def validatePlanes (topo : Topo) (value : Yaml) (ctx : String) : Except PyError (PlaneSet topo) :=
  match value with
  | .list items =>
      if items.any fun item => (asInt? item).isNone then
        refuse ctx "planes must be a list of ints" value
      else do
        let plane? := fun item => (asInt? item).bind (indexBelow? topo.numPlanes)
        let bad := items.filter fun item => (plane? item).isNone
        if bad.isEmpty then
          return ⟨sortedSet (items.filterMap plane?), sortedSet_increasing _⟩
        else
          let shown ← (Yaml.list bad).repr
          .error (.valueError
            s!"{ctx}: plane(s) out of range 0..{(topo.numPlanes : Int) - 1}: {shown}")
  | _ => refuse ctx "planes must be a list of ints" value

/-- `_validate_spine`. -/
def validateSpine (topo : Topo) (value : Yaml) (ctx : String) : Except PyError (SpineSpec topo) :=
  match value with
  | .scalar (.str "auto") => .ok .auto
  | _ =>
      match (asInt? value).bind (indexBelow? topo.numSpines) with
      | some spine => .ok (.index spine)
      | none => refuse ctx s!"spine must be 'auto' or int 0..{(topo.numSpines : Int) - 1}" value

/-- `_as_id_list`. -/
def asIdList (topo : Topo) (value : Yaml) (ctx : String) :
    Except PyError (List (Fin topo.numLeaves)) :=
  match asInt? value, value with
  | some _, _ => do return [← validateHostId topo value ctx]
  | none, .list items =>
      items.zipIdx.mapM fun (item, index) => validateHostId topo item s!"{ctx}[{index}]"
  | none, _ => refuse ctx "expected int or list of ints" value

/-! ## Expansion -/

/-- `d.get(name)`. -/
def getOrNull (entries : List (Scalar × Yaml)) (name : String) : Yaml :=
  (Yaml.get? entries name).getD (.scalar .null)

/-- `PLANES_ALL`. -/
def planesAll (topo : Topo) : Yaml :=
  .list ((List.range topo.numPlanes).map fun plane => .scalar (.int plane))

/-- The part of an entry that explicit pairs and meshes share. -/
structure EntryHead (topo : Topo) where
  spine : SpineSpec topo
  planes : PlaneSet topo

/-- The `spine` and the `planes` of an entry, read in this order. -/
def entryHead (topo : Topo) (entries : List (Scalar × Yaml)) (ctx : String) :
    Except PyError (EntryHead topo) := do
  let spine ← validateSpine topo ((Yaml.get? entries "spine").getD (.scalar (.str "auto")))
    s!"{ctx}.spine"
  let planes ← validatePlanes topo ((Yaml.get? entries "planes").getD (planesAll topo))
    s!"{ctx}.planes"
  return ⟨spine, planes⟩

/-- A pair is kept unless it is a self-pair. -/
def rawPair {topo : Topo} (tenant : Tenant) (head : EntryHead topo)
    (src dst : Fin topo.numLeaves) : List (RawPair topo) :=
  if same : src = dst then [] else [⟨tenant, src, dst, same, head.spine, head.planes⟩]

/-- One entry of `spec.pairs`. -/
def explicitPair (topo : Topo) (entry : Yaml) (ctx : String) :
    Except PyError (List (RawPair topo)) :=
  match entry with
  | .dict entries => do
      let tenant ← validateTenant (getOrNull entries "tenant") s!"{ctx}.tenant"
      let src ← validateHostId topo (getOrNull entries "src") s!"{ctx}.src"
      let dst ← validateHostId topo (getOrNull entries "dst") s!"{ctx}.dst"
      let head ← entryHead topo entries ctx
      return rawPair tenant head src dst
  | _ => .error (.valueError s!"{ctx}: expected mapping")

/-- One entry of `spec.mesh`. -/
def meshPairs (topo : Topo) (entry : Yaml) (ctx : String) : Except PyError (List (RawPair topo)) :=
  match entry with
  | .dict entries => do
      let tenant ← validateTenant (getOrNull entries "tenant") s!"{ctx}.tenant"
      let srcs ← asIdList topo (getOrNull entries "src") s!"{ctx}.src"
      let dsts ← asIdList topo (getOrNull entries "dst") s!"{ctx}.dst"
      let head ← entryHead topo entries ctx
      return srcs.flatMap fun src => dsts.flatMap (rawPair tenant head src)
  | _ => .error (.valueError s!"{ctx}: expected mapping")

/-- `enumerate(spec.get(name, []) or [])`. -/
def sectionItems (spec : List (Scalar × Yaml)) (name : String) :
    Except PyError (List (Yaml × Nat)) :=
  match Yaml.get? spec name with
  | none => .ok []
  | some value => do
      if value.truthy then return (← value.iterate).zipIdx else return []

def rawPairs (topo : Topo) (spec : List (Scalar × Yaml)) : Except PyError (List (RawPair topo)) := do
  let explicit ← (← sectionItems spec "pairs").mapM fun (entry, index) =>
    explicitPair topo entry s!"spec.pairs[{index}]"
  let meshes ← (← sectionItems spec "mesh").mapM fun (entry, index) =>
    meshPairs topo entry s!"spec.mesh[{index}]"
  return explicit.flatten ++ meshes.flatten

namespace RawPair

variable {topo : Topo}

/-- The pair with its ids in order. -/
def key (raw : RawPair topo) : PairKey topo :=
  if ordered : raw.src < raw.dst then ⟨raw.tenant, raw.src, raw.dst, ordered⟩
  else ⟨raw.tenant, raw.dst, raw.src, lt_of_le_of_ne (not_lt.mp ordered) raw.distinct.symm⟩

end RawPair

/-- `canonical`: the last entry of a pair wins. -/
def canonical {topo : Topo} (raws : List (RawPair topo)) :
    OrderedDict (PairKey topo) (SpineSpec topo × PlaneSet topo) :=
  raws.foldl (fun dict raw => dict.set raw.key (raw.spine, raw.planes)) .empty

/-- `sorted` of the entries; no two keys are the same, so the values are not compared. -/
def keyLe {topo : Topo} (key other : PairKey topo) : Bool :=
  key.tenant.name < other.tenant.name || key.tenant.name = other.tenant.name &&
    (key.a < other.a || key.a = other.a && key.b ≤ other.b)

/-- The pair of an entry, with its spine chosen. -/
def toPair {topo : Topo} (entry : PairKey topo × SpineSpec topo × PlaneSet topo) : Pair topo where
  key := entry.1
  spine :=
    match entry.2.1 with
    | .auto => spineFor topo entry.1.a entry.1.b
    | .index spine => spine
  planes := entry.2.2

/-- `apiVersion` and `kind`. -/
def checkHeader (doc : List (Scalar × Yaml)) : Except PyError Unit := do
  match getOrNull doc "apiVersion" with
  | .scalar (.str "srv6-lab/v1") => .ok ()
  | other => do
      let got ← other.repr
      .error (.valueError s!"unsupported apiVersion: {got} (want 'srv6-lab/v1')")
  match getOrNull doc "kind" with
  | .scalar (.str "RouteSet") => .ok ()
  | other => do
      let got ← other.repr
      .error (.valueError s!"unsupported kind: {got} (want 'RouteSet')")

/-- `spec_doc.get("spec") or {}`. -/
def specOf (doc : List (Scalar × Yaml)) : Except PyError (List (Scalar × Yaml)) :=
  match getOrNull doc "spec" with
  | .dict entries => .ok entries
  | other => if other.truthy then .error (.valueError "spec: must be a mapping") else .ok []

/-- `expand_spec`. -/
def expandSpec (topo : Topo) (doc : List (Scalar × Yaml)) : Except PyError (List (Pair topo)) := do
  checkHeader doc
  let spec ← specOf doc
  let raws ← rawPairs topo spec
  if raws.isEmpty then .error (.valueError "spec contained no pairs (after self-pair removal)")
  else .ok (((canonical raws).entries.mergeSort fun entry other => keyLe entry.1 other.1).map toPair)

/-! ## Expanded pairs -/

theorem expandSpec_ok {topo : Topo} {doc : List (Scalar × Yaml)} {pairs : List (Pair topo)}
    (expanded : expandSpec topo doc = .ok pairs) :
    ∃ raws, pairs = ((canonical raws).entries.mergeSort fun entry other =>
      keyLe entry.1 other.1).map toPair := by
  obtain ⟨_, _, afterHeader⟩ := bind_eq_ok expanded
  obtain ⟨spec, _, afterSpec⟩ := bind_eq_ok afterHeader
  obtain ⟨raws, _, sorted⟩ := bind_eq_ok afterSpec
  split at sorted
  · cases sorted
  · exact ⟨raws, (Except.ok.inj sorted).symm⟩

/-- Every pair comes once. -/
theorem expandSpec_nodup {topo : Topo} {doc : List (Scalar × Yaml)} {pairs : List (Pair topo)}
    (expanded : expandSpec topo doc = .ok pairs) : (pairs.map Pair.key).Nodup := by
  obtain ⟨raws, rfl⟩ := expandSpec_ok expanded
  rw [List.map_map]
  exact (((List.mergeSort_perm _ _).map Prod.fst).nodup_iff).mpr (canonical raws).nodup

/-- The spine of a pair is the one `spine_for` names, or one the document names. -/
theorem expandSpec_spine {topo : Topo} {doc : List (Scalar × Yaml)} {pairs : List (Pair topo)}
    (expanded : expandSpec topo doc = .ok pairs) {pair : Pair topo} (mem : pair ∈ pairs) :
    pair.spine = spineFor topo pair.key.a pair.key.b ∨ pair.spine < topo.numSpines := by
  obtain ⟨raws, rfl⟩ := expandSpec_ok expanded
  obtain ⟨⟨key, spec, planes⟩, _, rfl⟩ := List.mem_map.mp mem
  cases spec with
  | auto => exact Or.inl rfl
  | index spine => exact Or.inr spine.isLt

/-! ## A document -/

/-- A route set that asks for one pair and leaves the rest to the defaults. -/
def onePairDoc (src dst : Int) : List (Scalar × Yaml) :=
  [(.str "apiVersion", .scalar (.str "srv6-lab/v1")), (.str "kind", .scalar (.str "RouteSet")),
    (.str "spec", .dict [(.str "pairs", .list [.dict [(.str "tenant", .scalar (.str "green")),
      (.str "src", .scalar (.int src)), (.str "dst", .scalar (.int dst))]])])]

/-- The reference pair of hosts 0 and 15, over all planes. -/
def outerPair : Pair Topo.fourPlanes :=
  toPair (⟨.green, ⟨0, by decide⟩, ⟨15, by decide⟩, by decide⟩, .auto,
    ⟨sortedSet [⟨0, by decide⟩, ⟨1, by decide⟩, ⟨2, by decide⟩, ⟨3, by decide⟩],
      sortedSet_increasing _⟩)

theorem expandSpec_outerPair : expandSpec Topo.fourPlanes (onePairDoc 15 0) = .ok [outerPair] := by
  have expanded : expandSpec Topo.fourPlanes (onePairDoc 15 0) =
      .ok ((List.mergeSort [(outerPair.key, SpineSpec.auto, outerPair.planes)] fun entry other =>
        keyLe entry.1 other.1).map toPair) := rfl
  rw [expanded, List.mergeSort_singleton]
  rfl

end Routes

end Srv6Fabric

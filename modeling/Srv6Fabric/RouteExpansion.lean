import Mathlib.Data.Prod.Lex
import Mathlib.Data.String.Basic
import Srv6Fabric.Library.DocumentOrder
import Srv6Fabric.Routes

/-!
# What a route set asks for

The pairs a `RouteSet` document names, place by place: an entry of `spec.pairs` names one, and
an entry of `spec.mesh` one for each source and each destination.  `expand_spec` returns each
pair that is named in either direction, as the last place that names it has it.
-/

namespace Srv6Fabric.Routes

open Library

/-! ## The document -/

/-- The entries of `spec`. -/
def specEntries (doc : List (Scalar × Yaml)) : List (Scalar × Yaml) :=
  match getOrNull doc "spec" with
  | .dict entries => entries
  | _ => []

/-- The items of a section of `spec`. -/
def listed (doc : List (Scalar × Yaml)) (name : String) : List Yaml :=
  match Yaml.get? (specEntries doc) name with
  | some (.list items) => items
  | _ => []

/-- The ids of a mesh: a list of them, or a single one. -/
def listedIds (value : Yaml) : List Yaml :=
  match asInt? value, value with
  | some _, _ => [value]
  | none, .list items => items
  | none, _ => []

/-- The value is an index. -/
def IsIndex {bound : Nat} (value : Yaml) (index : Fin bound) : Prop :=
  asInt? value = some (index : Int)

/-- The spine an entry asks for: `"auto"` when it says nothing. -/
def SpineSaid {topo : Topo} (entry : List (Scalar × Yaml)) : SpineSpec topo → Prop
  | .auto => Yaml.get? entry "spine" = none ∨ Yaml.get? entry "spine" = some (.scalar (.str "auto"))
  | .index spine => ∃ value, Yaml.get? entry "spine" = some value ∧ IsIndex value spine

/-- A plane an entry asks for: any when it says nothing. -/
def PlaneSaid {topo : Topo} (entry : List (Scalar × Yaml)) (plane : Fin topo.numPlanes) : Prop :=
  match Yaml.get? entry "planes" with
  | none => True
  | some (.list items) => ∃ item ∈ items, IsIndex item plane
  | some _ => False

/-- What an entry says of its pairs besides the ids. -/
structure Describes {topo : Topo} (entry : List (Scalar × Yaml)) (raw : RawPair topo) : Prop where
  tenant : getOrNull entry "tenant" = .scalar (.str raw.tenant.name)
  spine : SpineSaid entry raw.spine
  planes : ∀ plane, plane ∈ raw.planes.planes ↔ PlaneSaid entry plane

/-- The pairs the document names, each at its place: `pairs` before `mesh`, entry by entry, and
in a mesh source by source. -/
inductive Occurs {topo : Topo} (doc : List (Scalar × Yaml)) : List Nat → RawPair topo → Prop where
  | pair {index : Nat} {entry : List (Scalar × Yaml)} {raw : RawPair topo}
      (isEntry : (listed doc "pairs")[index]? = some (.dict entry))
      (describes : Describes entry raw)
      (src : IsIndex (getOrNull entry "src") raw.src)
      (dst : IsIndex (getOrNull entry "dst") raw.dst) : Occurs doc [0, index] raw
  | mesh {index srcIndex dstIndex : Nat} {entry : List (Scalar × Yaml)} {raw : RawPair topo}
      {src dst : Yaml}
      (isEntry : (listed doc "mesh")[index]? = some (.dict entry))
      (describes : Describes entry raw)
      (isSrc : (listedIds (getOrNull entry "src"))[srcIndex]? = some src)
      (isDst : (listedIds (getOrNull entry "dst"))[dstIndex]? = some dst)
      (src : IsIndex src raw.src) (dst : IsIndex dst raw.dst) :
      Occurs doc [1, index, srcIndex, dstIndex] raw

/-- The pair is named in either direction. -/
def RawPair.Names {topo : Topo} (raw : RawPair topo) (key : PairKey topo) : Prop :=
  raw.tenant = key.tenant ∧
    (raw.src = key.a ∧ raw.dst = key.b ∨ raw.src = key.b ∧ raw.dst = key.a)

/-- The order by tenant, lower id and higher id. -/
def PairKey.Before {topo : Topo} (key other : PairKey topo) : Prop :=
  key.tenant.name < other.tenant.name ∨ key.tenant = other.tenant ∧
    (key.a < other.a ∨ key.a = other.a ∧ key.b < other.b)

/-- The pair is as the occurrence has it. -/
structure Pair.IsAs {topo : Topo} (pair : Pair topo) (raw : RawPair topo) : Prop where
  spine : pair.spine =
    match raw.spine with
    | .auto => spineFor topo pair.key.a pair.key.b
    | .index spine => spine
  planes : pair.planes.planes = raw.planes.planes

/-- The pairs are exactly those the document names. -/
structure Expands {topo : Topo} (doc : List (Scalar × Yaml)) (pairs : List (Pair topo)) : Prop where
  increasing : pairs.Pairwise fun pair other => pair.key.Before other.key
  inRange : ∀ pair ∈ pairs, (pair.key.a : Nat) < pair.key.b ∧ (pair.key.b : Nat) < topo.numLeaves ∧
    pair.planes.planes.Pairwise (· < ·)
  present : ∀ key, (∃ pair ∈ pairs, pair.key = key) ↔
    ∃ place raw, Occurs doc place raw ∧ raw.Names key
  last : ∀ pair ∈ pairs, ∃ place raw, Occurs doc place raw ∧ raw.Names pair.key ∧
    (∀ later (other : RawPair topo), Occurs doc later other → other.Names pair.key →
      later ≤ place) ∧
    pair.IsAs raw

/-! ## Fields -/

theorem indexBelow?_eq_some_iff {bound : Nat} {number : Int} {index : Fin bound} :
    indexBelow? bound number = some index ↔ number = index := by
  unfold indexBelow?
  split
  · next inRange =>
    rw [Option.some.injEq, Fin.ext_iff]
    constructor
    · rintro same
      rw [← same]
      exact (Int.toNat_of_nonneg inRange.1).symm
    · rintro rfl
      rfl
  · next outside =>
    refine iff_of_false nofun ?_
    rintro rfl
    exact outside ⟨Int.natCast_nonneg _, Int.ofNat_lt.mpr index.isLt⟩

/-- A value is read as the index it is. -/
theorem isIndex_iff {bound : Nat} {value : Yaml} {index : Fin bound} :
    (asInt? value).bind (indexBelow? bound) = some index ↔ IsIndex value index := by
  unfold IsIndex
  cases asInt? value with
  | none => exact iff_of_false nofun nofun
  | some number =>
      rw [Option.bind_some, indexBelow?_eq_some_iff, Option.some.injEq]

/-- A value is at most one index. -/
theorem IsIndex.eq_iff {bound : Nat} {value : Yaml} {index other : Fin bound}
    (isIndex : IsIndex value index) : IsIndex value other ↔ other = index := by
  refine ⟨fun isOther => ?_, ?_⟩
  · exact Option.some.inj ((isIndex_iff.mpr isOther).symm.trans (isIndex_iff.mpr isIndex))
  · rintro rfl
    exact isIndex

theorem refuse_ne_ok {α : Type} {ctx expected : String} {value : Yaml} {result : α} :
    refuse ctx expected value ≠ .ok result := by
  intro returned
  obtain ⟨_, _, raised⟩ := bind_eq_ok returned
  cases raised

theorem validateHostId_ok {topo : Topo} {value : Yaml} {ctx : String} {hostId : Fin topo.numLeaves}
    (valid : validateHostId topo value ctx = .ok hostId) : IsIndex value hostId := by
  unfold validateHostId at valid
  split at valid
  · next found =>
    obtain rfl := Except.ok.inj valid
    exact isIndex_iff.mp found
  · exact absurd valid refuse_ne_ok

theorem validateTenant_ok {value : Yaml} {ctx : String} {tenant : Tenant}
    (valid : validateTenant value ctx = .ok tenant) : value = .scalar (.str tenant.name) := by
  unfold validateTenant at valid
  split at valid
  · obtain rfl := Except.ok.inj valid
    rfl
  · obtain rfl := Except.ok.inj valid
    rfl
  · exact absurd valid refuse_ne_ok

theorem spineSaid_iff {topo : Topo} {entry : List (Scalar × Yaml)} {ctx : String}
    {spine : SpineSpec topo} (valid : validateSpine topo
      ((Yaml.get? entry "spine").getD (.scalar (.str "auto"))) ctx = .ok spine)
    {said : SpineSpec topo} : SpineSaid entry said ↔ said = spine := by
  unfold SpineSaid
  cases held : Yaml.get? entry "spine" with
  | none =>
      rw [held] at valid
      obtain rfl := Except.ok.inj valid
      cases said with
      | auto => exact iff_of_true (Or.inl rfl) rfl
      | index spine => exact iff_of_false nofun nofun
  | some value =>
      rw [held, Option.getD_some] at valid
      unfold validateSpine at valid
      split at valid
      · obtain rfl := Except.ok.inj valid
        cases said with
        | auto => exact iff_of_true (Or.inr rfl) rfl
        | index spine =>
            refine iff_of_false ?_ nofun
            rintro ⟨_, isAuto, isIndex⟩
            cases isAuto
            cases isIndex
      · next notAuto =>
        split at valid
        · next spine found =>
          obtain rfl := Except.ok.inj valid
          cases said with
          | auto =>
              refine iff_of_false ?_ nofun
              rintro (absent | isAuto)
              · cases absent
              · exact notAuto (Option.some.inj isAuto)
          | index other =>
              dsimp only
              rw [SpineSpec.index.injEq]
              constructor
              · rintro ⟨_, same, isIndex⟩
                obtain rfl := Option.some.inj same
                exact Option.some.inj ((isIndex_iff.mpr isIndex).symm.trans found)
              · rintro rfl
                exact ⟨value, rfl, isIndex_iff.mp found⟩
        · exact absurd valid refuse_ne_ok

theorem mem_sortedSet {bound : Nat} {planes : List (Fin bound)} {plane : Fin bound} :
    plane ∈ sortedSet planes ↔ plane ∈ planes := by
  rw [sortedSet, (List.mergeSort_perm _ _).mem_iff, List.mem_dedup]

theorem planeSaid_iff {topo : Topo} {entry : List (Scalar × Yaml)} {ctx : String}
    {planes : PlaneSet topo} (valid : validatePlanes topo
      ((Yaml.get? entry "planes").getD (planesAll topo)) ctx = .ok planes)
    {plane : Fin topo.numPlanes} : plane ∈ planes.planes ↔ PlaneSaid entry plane := by
  have read {items : List Yaml} (valid : validatePlanes topo (.list items) ctx = .ok planes) :
      plane ∈ planes.planes ↔ ∃ item ∈ items, IsIndex item plane := by
    unfold validatePlanes at valid
    dsimp only at valid
    split at valid
    · exact absurd valid refuse_ne_ok
    · split at valid
      · obtain rfl := Except.ok.inj valid
        rw [mem_sortedSet, List.mem_filterMap]
        exact exists_congr fun item => and_congr_right fun _ => isIndex_iff
      · obtain ⟨_, _, raised⟩ := bind_eq_ok valid
        cases raised
  unfold PlaneSaid
  cases held : Yaml.get? entry "planes" with
  | none =>
      rw [held] at valid
      refine (read valid).trans (iff_of_true ⟨.scalar (.int plane), ?_, rfl⟩ trivial)
      simp
  | some value =>
      rw [held, Option.getD_some] at valid
      cases value with
      | list items => exact read valid
      | scalar value => exact absurd valid refuse_ne_ok
      | dict entries => exact absurd valid refuse_ne_ok

theorem PlaneSet.ext_mem {topo : Topo} {planes other : PlaneSet topo}
    (same : ∀ plane, plane ∈ planes.planes ↔ plane ∈ other.planes) : planes = other := by
  obtain ⟨planes, increasing⟩ := planes
  obtain ⟨others, othersIncreasing⟩ := other
  have perm : planes.Perm others := (List.perm_ext_iff_of_nodup
    (increasing.imp ne_of_lt) (othersIncreasing.imp ne_of_lt)).mpr same
  obtain rfl : planes = others := perm.eq_of_pairwise
    (fun _ _ _ _ before after => absurd before (lt_asymm after)) increasing othersIncreasing
  rfl

theorem asIdList_ok {topo : Topo} {value : Yaml} {ctx : String} {ids : List (Fin topo.numLeaves)}
    (valid : asIdList topo value ctx = .ok ids) :
    List.Forall₂ (fun value id => IsIndex value id) (listedIds value) ids := by
  unfold asIdList at valid
  unfold listedIds
  cases isInt : asInt? value with
  | some number =>
      rw [isInt] at valid
      obtain ⟨id, isId, single⟩ := bind_eq_ok valid
      obtain rfl := Except.ok.inj single
      exact .cons (validateHostId_ok isId) .nil
  | none =>
      rw [isInt] at valid
      cases value with
      | list items =>
          have visits := (mapM_eq_ok valid).imp fun _ _ => validateHostId_ok
          have values : items.zipIdx.map Prod.fst = items := List.zipIdx_map_fst 0 items
          rw [← List.forall₂_map_left_iff, values] at visits
          exact visits
      | scalar value => exact absurd valid refuse_ne_ok
      | dict entries => exact absurd valid refuse_ne_ok

/-! ## Entries -/

/-- The tenant, spine and planes of an entry that has been read are those it says. -/
theorem describes_iff {topo : Topo} {entry : List (Scalar × Yaml)} {ctx headCtx : String}
    {tenant : Tenant} {head : EntryHead topo}
    (isTenant : validateTenant (getOrNull entry "tenant") ctx = .ok tenant)
    (isHead : entryHead topo entry headCtx = .ok head) {raw : RawPair topo} :
    Describes entry raw ↔
      raw.tenant = tenant ∧ raw.spine = head.spine ∧ raw.planes = head.planes := by
  have tenantSaid := validateTenant_ok isTenant
  obtain ⟨spine, spineValid, afterSpine⟩ := bind_eq_ok isHead
  obtain ⟨planes, planesValid, built⟩ := bind_eq_ok afterSpine
  obtain rfl := Except.ok.inj built
  constructor
  · rintro ⟨tenantSame, spineSame, planesSame⟩
    rw [tenantSaid] at tenantSame
    have sameName : tenant.name = raw.tenant.name := by simpa using tenantSame
    refine ⟨(Tenant.name_injective sameName).symm, (spineSaid_iff spineValid).mp spineSame, ?_⟩
    exact PlaneSet.ext_mem fun plane => (planesSame plane).trans (planeSaid_iff planesValid).symm
  · rintro ⟨rfl, sameSpine, samePlanes⟩
    refine ⟨tenantSaid, ?_, fun plane => ?_⟩
    · rw [sameSpine]
      exact (spineSaid_iff spineValid).mpr rfl
    · rw [samePlanes]
      exact planeSaid_iff planesValid

/-- A pair that is kept stands at the place itself. -/
theorem lists_rawPair {topo : Topo} (tenant : Tenant) (head : EntryHead topo)
    (src dst : Fin topo.numLeaves) :
    Lists (fun place (raw : RawPair topo) => place = [] ∧
      (raw.tenant = tenant ∧ raw.spine = head.spine ∧ raw.planes = head.planes) ∧
      raw.src = src ∧ raw.dst = dst) (rawPair tenant head src dst) := by
  unfold rawPair
  split
  · next same =>
    refine Lists.nil ?_
    rintro place raw ⟨-, -, isSrc, isDst⟩
    exact raw.distinct (isSrc.trans (same.trans isDst.symm))
  · next distinct =>
    refine (Lists.singleton _).congr fun place raw => and_congr_right fun _ => ?_
    constructor
    · rintro rfl
      exact ⟨⟨rfl, rfl, rfl⟩, rfl, rfl⟩
    · rintro ⟨⟨rfl, sameSpine, samePlanes⟩, rfl, rfl⟩
      obtain ⟨tenant, src, dst, distinct, spine, planes⟩ := raw
      obtain rfl : spine = head.spine := sameSpine
      obtain rfl : planes = head.planes := samePlanes
      rfl

theorem explicitPair_ok {topo : Topo} {entry : Yaml} {ctx : String} {raws : List (RawPair topo)}
    (returned : explicitPair topo entry ctx = .ok raws) :
    ∃ entries, entry = .dict entries ∧
      Lists (fun place raw => place = [] ∧ Describes entries raw ∧
        IsIndex (getOrNull entries "src") raw.src ∧
        IsIndex (getOrNull entries "dst") raw.dst) raws := by
  cases entry with
  | scalar value => cases returned
  | list items => cases returned
  | dict entries =>
      refine ⟨entries, rfl, ?_⟩
      obtain ⟨tenant, isTenant, afterTenant⟩ := bind_eq_ok returned
      obtain ⟨src, isSrc, afterSrc⟩ := bind_eq_ok afterTenant
      obtain ⟨dst, isDst, afterDst⟩ := bind_eq_ok afterSrc
      obtain ⟨head, isHead, built⟩ := bind_eq_ok afterDst
      obtain rfl := Except.ok.inj built
      refine (lists_rawPair tenant head src dst).congr fun place raw => ?_
      rw [describes_iff isTenant isHead, (validateHostId_ok isSrc).eq_iff,
        (validateHostId_ok isDst).eq_iff]

/-- A mesh names a pair for each source and each destination. -/
theorem meshPairs_ok {topo : Topo} {entry : Yaml} {ctx : String} {raws : List (RawPair topo)}
    (returned : meshPairs topo entry ctx = .ok raws) :
    ∃ entries, entry = .dict entries ∧
      Lists (fun place raw => ∃ srcIndex dstIndex src dst, place = [srcIndex, dstIndex] ∧
        (listedIds (getOrNull entries "src"))[srcIndex]? = some src ∧
        (listedIds (getOrNull entries "dst"))[dstIndex]? = some dst ∧
        Describes entries raw ∧ IsIndex src raw.src ∧ IsIndex dst raw.dst) raws := by
  cases entry with
  | scalar value => cases returned
  | list items => cases returned
  | dict entries =>
      refine ⟨entries, rfl, ?_⟩
      obtain ⟨tenant, isTenant, afterTenant⟩ := bind_eq_ok returned
      obtain ⟨srcs, areSrcs, afterSrcs⟩ := bind_eq_ok afterTenant
      obtain ⟨dsts, areDsts, afterDsts⟩ := bind_eq_ok afterSrcs
      obtain ⟨head, isHead, built⟩ := bind_eq_ok afterDsts
      obtain rfl := Except.ok.inj built
      have kept (src dst : Fin topo.numLeaves) {value : Yaml} (isDst : IsIndex value dst) :
          Lists (fun place raw => place = [] ∧ Describes entries raw ∧ raw.src = src ∧
            IsIndex value raw.dst) (rawPair tenant head src dst) := by
        refine (lists_rawPair tenant head src dst).congr fun place raw => ?_
        rw [describes_iff isTenant isHead, isDst.eq_iff]
      have fromSrc (src : Fin topo.numLeaves) {value : Yaml} (isSrc : IsIndex value src) :
          Lists (fun place raw => ∃ dstIndex dst rest, place = dstIndex :: rest ∧
            (listedIds (getOrNull entries "dst"))[dstIndex]? = some dst ∧
            rest = [] ∧ Describes entries raw ∧ IsIndex value raw.src ∧ IsIndex dst raw.dst)
            (dsts.flatMap (rawPair tenant head src)) := by
        rw [List.flatMap_def]
        refine Lists.congr (Lists.flatten (List.forall₂_map_right_iff.mpr
          ((asIdList_ok areDsts).imp fun value dst isDst => kept src dst isDst))) fun place raw => ?_
        rw [isSrc.eq_iff]
      rw [List.flatMap_def]
      refine Lists.congr (Lists.flatten (List.forall₂_map_right_iff.mpr
        ((asIdList_ok areSrcs).imp fun value src isSrc => fromSrc src isSrc))) fun place raw => ?_
      constructor
      · rintro ⟨srcIndex, src, _, rfl, isSrc, dstIndex, dst, _, rfl, isDst, rfl, named⟩
        exact ⟨srcIndex, dstIndex, src, dst, rfl, isSrc, isDst, named⟩
      · rintro ⟨srcIndex, dstIndex, src, dst, rfl, isSrc, isDst, named⟩
        exact ⟨srcIndex, src, _, rfl, isSrc, dstIndex, dst, _, rfl, isDst, rfl, named⟩

/-! ## Sections -/

/-- Only a list holds anything but scalars. -/
theorem walked_scalars {value : Yaml} {walked : List Yaml} (iterated : value.iterate = .ok walked)
    (notList : ∀ items, value ≠ .list items) : ∀ item ∈ walked, ∃ scalar, item = .scalar scalar := by
  unfold Yaml.iterate at iterated
  split at iterated
  · obtain rfl := Except.ok.inj iterated
    intro item mem
    obtain ⟨char, -, rfl⟩ := List.mem_map.mp mem
    exact ⟨_, rfl⟩
  · exact absurd rfl (notList _)
  · obtain rfl := Except.ok.inj iterated
    intro item mem
    obtain ⟨entry, -, rfl⟩ := List.mem_map.mp mem
    exact ⟨_, rfl⟩
  · cases iterated

theorem no_mappings {β : Type} {holds : List (Scalar × Yaml) → β → Prop} {walked : List Yaml}
    {values : List β} (scalars : ∀ item ∈ walked, ∃ scalar, item = .scalar scalar)
    (mappings : List.Forall₂ (fun item value => ∃ entries, item = Yaml.dict entries ∧
      holds entries value) walked values) :
    List.Forall₂ (fun item value => ∃ entries, item = Yaml.dict entries ∧ holds entries value)
      [] values := by
  cases mappings with
  | nil => exact .nil
  | cons mapping _ =>
      obtain ⟨scalar, rfl⟩ := scalars _ List.mem_cons_self
      obtain ⟨entries, same, -⟩ := mapping
      cases same

/-- The items of a section that are mappings are those of a list. -/
theorem forall₂_listed {β : Type} {doc : List (Scalar × Yaml)} {name : String}
    {holds : List (Scalar × Yaml) → β → Prop} {items : List (Yaml × Nat)} {values : List β}
    (isSection : sectionItems (specEntries doc) name = .ok items)
    (each : List.Forall₂ (fun item value => ∃ entries, item.1 = .dict entries ∧ holds entries value)
      items values) :
    List.Forall₂ (fun item value => ∃ entries, item = .dict entries ∧ holds entries value)
      (listed doc name) values := by
  unfold sectionItems at isSection
  unfold listed
  cases held : Yaml.get? (specEntries doc) name with
  | none =>
      rw [held] at isSection
      obtain rfl := Except.ok.inj isSection
      cases each
      exact .nil
  | some value =>
      rw [held] at isSection
      dsimp only at isSection ⊢
      split at isSection
      · obtain ⟨walked, iterated, indexed⟩ := bind_eq_ok isSection
        obtain rfl := Except.ok.inj indexed
        have walks : List.Forall₂ (fun item value => ∃ entries, item = Yaml.dict entries ∧
            holds entries value) (walked.zipIdx.map Prod.fst) values :=
          List.forall₂_map_left_iff.mpr each
        rw [List.zipIdx_map_fst] at walks
        cases value with
        | list items =>
            obtain rfl := Except.ok.inj iterated
            exact walks
        | scalar value => exact no_mappings (walked_scalars iterated nofun) walks
        | dict entries => exact no_mappings (walked_scalars iterated nofun) walks
      · next falsy =>
        obtain rfl := Except.ok.inj isSection
        cases each
        cases value with
        | list items =>
            cases items with
            | nil => exact .nil
            | cons item rest => exact absurd rfl falsy
        | scalar value => exact .nil
        | dict entries => exact .nil

/-- The items of a section are read one by one, and each is a mapping. -/
theorem section_ok {topo : Topo} {doc : List (Scalar × Yaml)} {name : String}
    {visit : Yaml → Nat → Except PyError (List (RawPair topo))}
    {occurs : List (Scalar × Yaml) → List Nat → RawPair topo → Prop}
    (reads : ∀ {item index raws}, visit item index = .ok raws →
      ∃ entries, item = .dict entries ∧ Lists (occurs entries) raws)
    {items : List (Yaml × Nat)} (isSection : sectionItems (specEntries doc) name = .ok items)
    {raws : List (List (RawPair topo))}
    (visited : items.mapM (fun item => visit item.1 item.2) = .ok raws) :
    Lists (fun place raw => ∃ index entries rest, place = index :: rest ∧
      (listed doc name)[index]? = some (.dict entries) ∧ occurs entries rest raw) raws.flatten := by
  have each := (mapM_eq_ok visited).imp fun _ _ => reads
  have values : List.Forall₂ (fun item raws => ∃ entries, item = Yaml.dict entries ∧
      Lists (occurs entries) raws) (listed doc name) raws :=
    forall₂_listed isSection each
  have mappings : List.Forall₂ (fun item raws => Lists (fun place raw => ∃ entries,
      item = Yaml.dict entries ∧ occurs entries place raw) raws) (listed doc name) raws := by
    refine values.imp ?_
    rintro _ raws ⟨entries, rfl, lists⟩
    refine lists.congr fun place raw => ⟨fun here => ⟨entries, rfl, here⟩, ?_⟩
    rintro ⟨_, ⟨⟩, here⟩
    exact here
  refine (Lists.flatten mappings).congr fun place raw => ?_
  constructor
  · rintro ⟨index, _, rest, rfl, isItem, entries, rfl, here⟩
    exact ⟨index, entries, rest, rfl, isItem, here⟩
  · rintro ⟨index, entries, rest, rfl, isItem, here⟩
    exact ⟨index, _, rest, rfl, isItem, entries, rfl, here⟩

theorem specOf_ok {doc spec : List (Scalar × Yaml)} (read : specOf doc = .ok spec) :
    spec = specEntries doc := by
  unfold specOf at read
  unfold specEntries
  have falsy {other : Yaml} (isOther : (if other.truthy then
      Except.error (PyError.valueError "spec: must be a mapping") else .ok []) = Except.ok spec) :
      spec = [] := by
    split at isOther
    · cases isOther
    · exact (Except.ok.inj isOther).symm
  cases held : getOrNull doc "spec" with
  | dict entries =>
      rw [held] at read
      exact (Except.ok.inj read).symm
  | scalar value =>
      rw [held] at read
      exact falsy read
  | list items =>
      rw [held] at read
      exact falsy read

/-- The raw pairs are those the document names, in document order. -/
theorem rawPairs_ok {topo : Topo} {doc : List (Scalar × Yaml)} {raws : List (RawPair topo)}
    (read : rawPairs topo (specEntries doc) = .ok raws) : Lists (Occurs doc) raws := by
  obtain ⟨pairItems, isPairs, afterPairs⟩ := bind_eq_ok read
  obtain ⟨explicit, visitedPairs, afterVisit⟩ := bind_eq_ok afterPairs
  obtain ⟨meshItems, isMesh, afterMesh⟩ := bind_eq_ok afterVisit
  obtain ⟨meshes, visitedMeshes, joined⟩ := bind_eq_ok afterMesh
  obtain rfl := Except.ok.inj joined
  have explicitListed := @section_ok topo doc "pairs"
    (fun entry index => explicitPair topo entry s!"spec.pairs[{index}]") _
    (fun returned => explicitPair_ok returned) pairItems isPairs explicit visitedPairs
  have meshesListed := @section_ok topo doc "mesh"
    (fun entry index => meshPairs topo entry s!"spec.mesh[{index}]") _
    (fun returned => meshPairs_ok returned) meshItems isMesh meshes visitedMeshes
  have both : [explicit.flatten, meshes.flatten].flatten = explicit.flatten ++ meshes.flatten := by
    simp
  rw [← both]
  refine Lists.congr (@Lists.flatten _ _ _ _ (fun node => node)
    (.cons explicitListed (.cons meshesListed .nil))) fun place raw => ?_
  constructor
  · rintro ⟨index, node, rest, rfl, isNode, here⟩
    match index with
    | 0 =>
        obtain rfl := Option.some.inj isNode
        obtain ⟨index, entries, _, rfl, isEntry, rfl, describes, src, dst⟩ := here
        exact .pair isEntry describes src dst
    | 1 =>
        obtain rfl := Option.some.inj isNode
        obtain ⟨index, entries, _, rfl, isEntry, srcIndex, dstIndex, src, dst, rfl, isSrc, isDst,
          describes, srcId, dstId⟩ := here
        exact .mesh isEntry describes isSrc isDst srcId dstId
    | _ + 2 => cases isNode
  · rintro (⟨isEntry, describes, src, dst⟩ | ⟨isEntry, describes, isSrc, isDst, src, dst⟩)
    · exact ⟨0, _, _, rfl, rfl, _, _, _, rfl, isEntry, rfl, describes, src, dst⟩
    · exact ⟨1, _, _, rfl, rfl, _, _, _, rfl, isEntry, _, _, _, _, rfl, isSrc, isDst, describes,
        src, dst⟩

/-! ## The result -/

/-- A pair has the key it names. -/
theorem RawPair.key_eq_iff {topo : Topo} {raw : RawPair topo} {key : PairKey topo} :
    raw.key = key ↔ raw.Names key := by
  unfold RawPair.key RawPair.Names
  obtain ⟨tenant, a, b, ordered⟩ := key
  dsimp only
  split
  · next before =>
    rw [PairKey.mk.injEq]
    refine and_congr_right fun _ => ?_
    constructor
    · exact Or.inl
    · rintro (same | ⟨rfl, rfl⟩)
      · exact same
      · exact absurd before (lt_asymm ordered)
  · next notBefore =>
    rw [PairKey.mk.injEq]
    refine and_congr_right fun _ => ?_
    constructor
    · exact fun same => Or.inr same.symm
    · rintro (⟨rfl, rfl⟩ | ⟨isSrc, isDst⟩)
      · exact absurd ordered notBefore
      · exact ⟨isDst, isSrc⟩

/-- The place of a key in the order. -/
def PairKey.rank {topo : Topo} (key : PairKey topo) :
    Lex (String × Lex (Fin topo.numLeaves × Fin topo.numLeaves)) :=
  toLex (key.tenant.name, toLex (key.a, key.b))

theorem keyLe_eq {topo : Topo} (key other : PairKey topo) :
    keyLe key other = decide (key.rank ≤ other.rank) := by
  unfold keyLe PairKey.rank
  rw [Bool.eq_iff_iff, decide_eq_true_iff, Prod.Lex.toLex_le_toLex, Prod.Lex.toLex_le_toLex]
  simp only [Bool.or_eq_true, Bool.and_eq_true, decide_eq_true_iff]

theorem PairKey.rank_lt_iff {topo : Topo} {key other : PairKey topo} :
    key.rank < other.rank ↔ key.Before other := by
  unfold PairKey.rank PairKey.Before
  rw [Prod.Lex.toLex_lt_toLex, Prod.Lex.toLex_lt_toLex]
  have sameTenant : key.tenant.name = other.tenant.name ↔ key.tenant = other.tenant :=
    ⟨Tenant.name_injective, congrArg Tenant.name⟩
  rw [sameTenant]

theorem PairKey.rank_injective {topo : Topo} : Function.Injective (@PairKey.rank topo) := by
  rintro ⟨tenant, a, b, ordered⟩ ⟨other, otherA, otherB, otherOrdered⟩ same
  obtain ⟨sameName, sameIds⟩ := Prod.mk.inj (toLex.injective same)
  obtain ⟨rfl, rfl⟩ := Prod.mk.inj (toLex.injective sameIds)
  obtain rfl := Tenant.name_injective sameName
  rfl

/-- The last pair with a key wins. -/
theorem canonical_find? {topo : Topo} (raws : List (RawPair topo)) (key : PairKey topo) :
    (canonical raws).find? key =
      (raws.reverse.find? fun raw => raw.key = key).map fun raw => (raw.spine, raw.planes) := by
  rw [canonical, OrderedDict.find?_foldl_set]
  exact Option.or_none

/-- The entries of a dictionary by rank of their keys. -/
theorem sorted_before {topo : Topo}
    (dict : OrderedDict (PairKey topo) (SpineSpec topo × PlaneSet topo)) :
    (dict.entries.mergeSort fun entry other => keyLe entry.1 other.1).Pairwise
      fun entry other => entry.1.Before other.1 := by
  have nodup : (dict.entries.map fun entry => entry.1.rank).Nodup := by
    have ranks := dict.nodup.map PairKey.rank_injective
    rwa [List.map_map] at ranks
  exact (pairwise_rank_lt_mergeSort (fun entry other => keyLe_eq entry.1 other.1) nodup).imp
    PairKey.rank_lt_iff.mp

/-- A route set expands to exactly the pairs its document names: sorted, each once, with the
spine and the planes of the last place that names it. -/
theorem expandSpec_exact {topo : Topo} {doc : List (Scalar × Yaml)} {pairs : List (Pair topo)}
    (expanded : expandSpec topo doc = .ok pairs) : Expands doc pairs := by
  obtain ⟨_, _, afterHeader⟩ := bind_eq_ok expanded
  obtain ⟨spec, isSpec, afterSpec⟩ := bind_eq_ok afterHeader
  obtain ⟨raws, isRaws, sorted⟩ := bind_eq_ok afterSpec
  obtain rfl := specOf_ok isSpec
  have lists := rawPairs_ok isRaws
  obtain rfl : pairs = ((canonical raws).entries.mergeSort fun entry other =>
      keyLe entry.1 other.1).map toPair := by
    split at sorted
    · cases sorted
    · exact (Except.ok.inj sorted).symm
  have mem_iff (entry : PairKey topo × SpineSpec topo × PlaneSet topo) :
      entry ∈ ((canonical raws).entries.mergeSort fun entry other => keyLe entry.1 other.1) ↔
        (raws.reverse.find? fun raw => raw.key = entry.1).map (fun raw => (raw.spine, raw.planes)) =
          some entry.2 := by
    rw [(List.mergeSort_perm _ _).mem_iff, ← canonical_find?, OrderedDict.find?_eq_some_iff]
  refine ⟨?_, ?_, fun key => ?_, ?_⟩
  · exact List.pairwise_map.mpr (sorted_before _)
  · rintro pair -
    exact ⟨pair.key.ordered, pair.key.b.isLt, pair.planes.increasing⟩
  · have found : (∃ place raw, Occurs doc place raw ∧ raw.Names key) ↔
        (raws.reverse.find? fun raw => raw.key = key).isSome := by
      rw [List.find?_isSome]
      constructor
      · rintro ⟨place, raw, occurs, names⟩
        exact ⟨raw, List.mem_reverse.mpr (lists.mem_iff.mpr ⟨place, occurs⟩),
          decide_eq_true (RawPair.key_eq_iff.mpr names)⟩
      · rintro ⟨raw, mem, isKey⟩
        obtain ⟨place, occurs⟩ := lists.mem_iff.mp (List.mem_reverse.mp mem)
        exact ⟨place, raw, occurs, RawPair.key_eq_iff.mp (of_decide_eq_true isKey)⟩
    rw [found, Option.isSome_iff_exists]
    constructor
    · rintro ⟨_, mem, rfl⟩
      obtain ⟨entry, isEntry, rfl⟩ := List.mem_map.mp mem
      obtain ⟨raw, last, -⟩ := Option.map_eq_some_iff.mp ((mem_iff entry).mp isEntry)
      exact ⟨raw, last⟩
    · rintro ⟨raw, last⟩
      refine ⟨toPair (key, raw.spine, raw.planes), List.mem_map_of_mem ((mem_iff _).mpr ?_), rfl⟩
      rw [last]
      rfl
  · intro pair mem
    obtain ⟨⟨key, spine, planes⟩, isEntry, rfl⟩ := List.mem_map.mp mem
    obtain ⟨raw, last, same⟩ := Option.map_eq_some_iff.mp ((mem_iff _).mp isEntry)
    obtain ⟨rfl, rfl⟩ := Prod.mk.inj same
    obtain ⟨place, occurs, latest⟩ := lists.find?_reverse last
    have isKey : raw.key = key := by simpa using List.find?_some last
    refine ⟨place, raw, occurs, RawPair.key_eq_iff.mp isKey, ?_, rfl, rfl⟩
    intro later other there names
    exact latest later other there (decide_eq_true (RawPair.key_eq_iff.mpr names))

/-- The reference pair, from a document that names it backwards and leaves the rest out. -/
theorem expandSpec_exact_outerPair : Expands (onePairDoc 15 0) [outerPair] :=
  expandSpec_exact expandSpec_outerPair

end Srv6Fabric.Routes

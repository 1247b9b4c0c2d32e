import Srv6Fabric.Mrc.CliAgreement

/-!
# Tunables in the environment

The `mrc:` block on its way into a container: the JSON text the orchestrator writes, and
the configurations the agents read from it.  `json` is a parameter.  A dataclass instance is
its fields by name, since the loader passes on whatever the JSON holds.
-/

namespace Srv6Fabric.Mrc

open Library OrderedDict

/-! ## JSON -/

/-- What `json.loads` raises; only a `JSONDecodeError` is caught. -/
inductive JsonError where
  | decode (message : String)
  | other (error : PyError)

structure Json where
  dumps : List (String × Scalar) → String
  loads : String → Except JsonError Yaml

/-- An object is written as a text that is read back as the object. -/
def Json.RoundTrips (json : Json) (payload : List (String × Scalar)) : Prop :=
  json.dumps payload ≠ "" ∧ json.loads (json.dumps payload) =
    .ok (.dict (payload.map fun entry => (.str entry.1, .scalar entry.2)))

/-! ## Writing -/

namespace MrcSpec

/-- The fields of the dataclass, `None` where unset. -/
def attributes (spec : MrcSpec) : List (String × Option Scalar) :=
  [("probe_interval_ms", spec.probeIntervalMs.map .int),
    ("probe_timeout_ms", spec.probeTimeoutMs.map .int),
    ("loss_window_ms", spec.lossWindowMs.map .int),
    ("max_window_skew_ms", spec.maxWindowSkewMs.map .int),
    ("probe_fail_threshold", spec.probeFailThreshold.map .int),
    ("probe_recover_threshold", spec.probeRecoverThreshold.map .int),
    ("loss_threshold", spec.lossThreshold.map .float),
    ("loss_demote_consecutive", spec.lossDemoteConsecutive.map .int),
    ("min_active_planes", spec.minActivePlanes.map .int),
    ("rtt_ring_size", spec.rttRingSize.map .int)]

/-- `getattr(self, fname)`. -/
def getattr (spec : MrcSpec) (fname : String) : Option Scalar :=
  (findEntry fname spec.attributes).join

/-- The names `to_env_json` goes through. -/
def envFields : List String :=
  ["probe_interval_ms", "probe_timeout_ms", "loss_window_ms", "max_window_skew_ms",
    "probe_fail_threshold", "probe_recover_threshold", "loss_threshold", "loss_demote_consecutive",
    "min_active_planes", "rtt_ring_size"]

/-- The payload, with sorted keys. -/
def payload (spec : MrcSpec) : List (String × Scalar) :=
  (envFields.filterMap fun fname => (spec.getattr fname).map fun value => (fname, value)).mergeSort
    fun entry other => decide (entry.1 ≤ other.1)

/-- `to_env_json`. -/
def toEnvJson (json : Json) (spec : MrcSpec) : String := json.dumps spec.payload

end MrcSpec

/-- `_mrc_env`. -/
def Orchestrator.mrcEnv (json : Json) (mrc : Option MrcSpec) : Option (List (String × String)) :=
  mrc.map fun spec => [("SRV6_MRC_CONFIG_JSON", spec.toEnvJson json)]

/-! ## Dataclasses -/

/-- The fields of a dataclass by name. -/
abbrev Fields := List (String × Yaml)

/-- The call of a dataclass whose fields all have defaults. -/
def construct (className : String) (defaults kwargs : Fields) : Except PyError Fields :=
  match kwargs.find? fun entry => !(defaults.map Prod.fst).contains entry.1 with
  | some (name, _) => .error (.typeError
      s!"{className}.__init__() got an unexpected keyword argument {pyRepr name}")
  | none => .ok (defaults.map fun (name, default) => (name, (findEntry name kwargs).getD default))

/-- The defaults of `AgentConfig`. -/
def agentDefaults : Fields :=
  [("probe_interval_ms", .scalar (.int 200)), ("probe_timeout_ms", .scalar (.int 100)),
    ("loss_window_ms", .scalar (.int 200)), ("max_window_skew_ms", .scalar (.int 500)),
    ("use_loopback", .scalar (.bool false))]

/-- The defaults of `EVStateConfig`. -/
def evStateDefaults : Fields :=
  [("probe_fail_threshold", .scalar (.int 3)), ("probe_recover_threshold", .scalar (.int 5)),
    ("loss_threshold", .scalar (.float (PyFloat.round (5 / 100)))),
    ("loss_demote_consecutive", .scalar (.int 2)), ("min_active_planes", .scalar .null),
    ("rtt_ring_size", .scalar (.int 64))]

/-- `v <= 0`. -/
def notPositive : Yaml → Except PyError Bool
  | .scalar (.int value) => .ok (decide (value ≤ 0))
  | .scalar (.bool value) => .ok !value
  | .scalar (.float value) => .ok value.isNonPositive
  | other => .error (.typeError
      s!"'<=' not supported between instances of '{other.className}' and 'int'")

/-- `AgentConfig.__post_init__`. -/
def agentPostInit (fields : Fields) : Except PyError Unit :=
  ["probe_interval_ms", "probe_timeout_ms", "loss_window_ms", "max_window_skew_ms"].forM fun f => do
    let value := (findEntry f fields).getD (.scalar .null)
    if ← notPositive value then .error (.valueError s!"{f} must be positive, got {← value.toStr}")

/-- `AgentConfig(**kwargs)`. -/
def agentConfig (kwargs : Fields) : Except PyError Fields := do
  let fields ← construct "AgentConfig" agentDefaults kwargs
  agentPostInit fields
  return fields

/-- `EVStateConfig(**kwargs)`. -/
def evStateConfig (kwargs : Fields) : Except PyError Fields :=
  construct "EVStateConfig" evStateDefaults kwargs

/-! ## Reading -/

/-- `MRC_CONFIG_ENV`. -/
def mrcConfigEnv : String := "SRV6_MRC_CONFIG_JSON"

/-- `_AGENT_CONFIG_FIELDS`. -/
def agentConfigFields : List String :=
  ["probe_interval_ms", "probe_timeout_ms", "loss_window_ms", "max_window_skew_ms"]

/-- `_EV_STATE_CONFIG_FIELDS`. -/
def evStateConfigFields : List String :=
  ["probe_fail_threshold", "probe_recover_threshold", "loss_threshold", "loss_demote_consecutive",
    "min_active_planes", "rtt_ring_size"]

/-- `{k: payload[k] for k in payload if k in names}`. -/
def kwargsOf (names : List String) (payload : List (Scalar × Yaml)) : Fields :=
  payload.filterMap fun (key, value) =>
    match key with
    | .str name => if name ∈ names then some (name, value) else none
    | _ => none

/-- `load_configs_from_env` on a payload that is an object. -/
def loadPayload (payload : List (Scalar × Yaml)) : Except PyError (Fields × Option Fields) := do
  let known := agentConfigFields ++ evStateConfigFields
  let unknown := (payload.map Prod.fst).filter fun key => !(known.map Scalar.str).contains key
  if unknown ≠ [] then
    let shown ← (← Scalar.sorted unknown).mapM Scalar.repr
    .error (.valueError (mrcConfigEnv ++ " has unknown keys [" ++ ", ".intercalate shown ++
      "]; known: " ++ pyReprList (Scenario.sortedNames known)))
  let agentKwargs := kwargsOf agentConfigFields payload
  let evKwargs := kwargsOf evStateConfigFields payload
  let evCfg ← if evKwargs.isEmpty then pure none else some <$> evStateConfig evKwargs
  return (← agentConfig agentKwargs, evCfg)

/-- `load_configs_from_env`. -/
def loadConfigsFromEnv (json : Json) (environ : List (String × String))
    (envValue : Option String) : Except PyError (Fields × Option Fields) :=
  match envValue.or (findEntry mrcConfigEnv environ) with
  | none | some "" => do return (← agentConfig [], none)
  | some text =>
      match json.loads text with
      | .error (.decode message) =>
          .error (.valueError s!"{mrcConfigEnv} is not valid JSON: {message}")
      | .error (.other error) => .error error
      | .ok (.dict payload) => loadPayload payload
      | .ok other =>
          .error (.valueError s!"{mrcConfigEnv} must encode a JSON object, got {other.className}")

/-! ## Accepted blocks -/

/-- `x == y` of two scalars. -/
def equal : Scalar → Scalar → Bool
  | .float .nan, _ => false
  | _, .float .nan => false
  | x, y => x = y || (x.rank.isSome && x.rank = y.rank)

/-- A value of the block, and what became of it. -/
def Same (given : Yaml) (carried : Scalar) : Prop :=
  ∃ value, given = .scalar value ∧ equal carried value

/-- The same positive integer. -/
def SameInt (given : Yaml) (carried : Scalar) : Prop :=
  ∃ number, 0 < number ∧ given = .scalar (.int number) ∧ carried = .int number

theorem SameInt.same {given : Yaml} {carried : Scalar} (same : SameInt given carried) :
    Same given carried := by
  obtain ⟨number, _, rfl, rfl⟩ := same
  exact ⟨.int number, rfl, by simp [equal]⟩

theorem positiveInt_given {entries : Scenario.Entries} {path name : String} {found : Option Int}
    (accepted : Scenario.positiveInt entries path name = .ok found) :
    Option.Rel SameInt (Yaml.get? entries name) (found.map .int) := by
  unfold Scenario.positiveInt at accepted
  split at accepted
  · next absent =>
    obtain rfl := Except.ok.inj accepted
    rw [absent]
    exact .none
  · next number present =>
    split at accepted
    · next positive =>
      obtain rfl := Except.ok.inj accepted
      rw [present]
      exact .some ⟨number, positive, rfl, rfl⟩
    · exact absurd accepted Scenario.refuse_ne_ok
  · exact absurd accepted Scenario.refuse_ne_ok

/-- A ratio in range is the number that was given. -/
theorem same_ratio {value : Scalar} {x : PyFloat} (converted : (Yaml.scalar value).toFloat = .ok x)
    (number : (∃ n, value = .int n) ∨ ∃ y, value = .float y) (nonneg : x.isNonNegative)
    (small : x.atMostOne) : Same (.scalar value) (.float x) := by
  refine ⟨value, rfl, ?_⟩
  rcases number with ⟨n, rfl⟩ | ⟨y, rfl⟩
  · obtain ⟨represented, rfl⟩ := PyFloat.ofInt_unit converted nonneg small
    simp [equal, Scalar.rank]
  · obtain rfl := Except.ok.inj converted
    cases y with
    | nan => cases nonneg
    | finite _ _ => simp [equal]
    | negZero => simp [equal]
    | inf _ => simp [equal]

theorem ratio_given {entries : Scenario.Entries} {path name : String} {found : Option PyFloat}
    (accepted : Scenario.ratio entries path name = .ok found) :
    Option.Rel Same (Yaml.get? entries name) (found.map .float) := by
  have checked {value : Scalar} (number : (∃ n, value = .int n) ∨ ∃ y, value = .float y)
      (inRange : ((Yaml.scalar value).toFloat >>= fun x =>
        if x.isNonNegative && x.atMostOne then .ok (some x)
        else (Yaml.scalar value).toStr >>= fun shown =>
          Scenario.fail s!"{path}.{name}" s!"must be in [0.0, 1.0], got {shown}") = .ok found) :
      Option.Rel Same (some (.scalar value)) (found.map .float) := by
    obtain ⟨x, converted, afterFloat⟩ := bind_eq_ok inRange
    split at afterFloat
    · next fits =>
      rw [Bool.and_eq_true] at fits
      obtain rfl := Except.ok.inj afterFloat
      exact .some (same_ratio converted number fits.1 fits.2)
    · exact absurd afterFloat Scenario.refuse_ne_ok
  unfold Scenario.ratio at accepted
  dsimp only at accepted
  split at accepted
  · next absent =>
    obtain rfl := Except.ok.inj accepted
    rw [absent]
    exact .none
  · next n present =>
    rw [present]
    exact checked (Or.inl ⟨n, rfl⟩) accepted
  · next y present =>
    rw [present]
    exact checked (Or.inr ⟨y, rfl⟩) accepted
  · exact absurd accepted Scenario.refuse_ne_ok

/-- What the validator stores is what the block has. -/
theorem mrcSpec_given {path : String} {block : Scenario.Entries} {spec : MrcSpec}
    (accepted : Scenario.validateMrc path (.dict block) = .ok spec) :
    (∀ name ∈ Scenario.mrcPositiveIntFields,
        Option.Rel SameInt (Yaml.get? block name) (spec.getattr name)) ∧
      ∀ name ∈ Scenario.mrcRatioFields,
        Option.Rel Same (Yaml.get? block name) (spec.getattr name) := by
  have parts := Scenario.acceptedMrc accepted
  constructor
  · simp only [Scenario.mrcPositiveIntFields, List.forall_mem_cons, List.not_mem_nil, false_imp_iff,
      implies_true, and_true]
    exact ⟨positiveInt_given parts.interval, positiveInt_given parts.timeout,
      positiveInt_given parts.window, positiveInt_given parts.skew, positiveInt_given parts.failures,
      positiveInt_given parts.recoveries, positiveInt_given parts.consecutive,
      positiveInt_given parts.active, positiveInt_given parts.ring⟩
  · exact List.forall_mem_singleton.mpr (ratio_given parts.loss)

/-! ## The trip -/

/-- The block of a document; a missing one and `null` have no keys. -/
def mrcBlock (entries : Scenario.Entries) : Scenario.Entries :=
  match Yaml.get? entries "mrc" with
  | some (.dict block) => block
  | _ => []

/-- What a spec holds of a block, tunable by tunable. -/
structure Holds (block : Scenario.Entries) (spec : MrcSpec) : Prop where
  positive : ∀ name ∈ Scenario.mrcPositiveIntFields,
    Option.Rel SameInt (Yaml.get? block name) (spec.getattr name)
  ratios : ∀ name ∈ Scenario.mrcRatioFields,
    Option.Rel Same (Yaml.get? block name) (spec.getattr name)
  known : ∀ entry ∈ block, ∃ name ∈ MrcSpec.envFields, entry.1 = .str name

namespace Holds

variable {block : Scenario.Entries} {spec : MrcSpec}

theorem same (holds : Holds block spec) {name : String} (mem : name ∈ MrcSpec.envFields) :
    Option.Rel Same (Yaml.get? block name) (spec.getattr name) := by
  have groups : ∀ name ∈ MrcSpec.envFields,
      name ∈ Scenario.mrcPositiveIntFields ++ Scenario.mrcRatioFields := by decide
  rcases List.mem_append.mp (groups name mem) with positive | ratio
  · have given := holds.positive name positive
    generalize Yaml.get? block name = present, spec.getattr name = carried at given ⊢
    cases given with
    | none => exact .none
    | some same => exact .some same.same
  · exact holds.ratios name ratio

/-- A tunable of the agent is a positive integer if it is set. -/
theorem agent_positive (holds : Holds block spec) {name : String} (mem : name ∈ agentConfigFields)
    {value : Scalar} (isSet : spec.getattr name = some value) : ∃ n, value = .int n ∧ 0 < n := by
  have group : ∀ name ∈ agentConfigFields, name ∈ Scenario.mrcPositiveIntFields := by decide
  have given := holds.positive name (group name mem)
  rw [isSet] at given
  generalize Yaml.get? block name = present at given
  cases given with
  | some same =>
      obtain ⟨n, positive, -, carried⟩ := same
      exact ⟨n, carried, positive⟩

end Holds

theorem requireKeys_known {entries : Scenario.Entries} {path : String} {required optional : List String}
    (accepted : Scenario.requireKeys entries path required optional = .ok ()) :
    ∀ entry ∈ entries, ∃ name ∈ required ++ optional, entry.1 = .str name := by
  unfold Scenario.requireKeys at accepted
  dsimp only at accepted
  split at accepted
  · obtain ⟨_, failed, -⟩ := bind_eq_ok accepted
    exact absurd failed Scenario.fail_ne_ok
  split at accepted
  · obtain ⟨_, -, afterSorted⟩ := bind_eq_ok accepted
    obtain ⟨_, -, failed⟩ := bind_eq_ok afterSorted
    exact absurd failed Scenario.fail_ne_ok
  · next noExtra =>
    rw [not_not, List.filter_eq_nil_iff] at noExtra
    intro entry mem
    have isKnown := noExtra entry.1 (List.mem_map_of_mem mem)
    rw [Bool.not_eq_true', Bool.not_eq_false, List.contains_iff_mem] at isKnown
    obtain ⟨name, isName, same⟩ := List.mem_map.mp isKnown
    exact ⟨name, isName, same.symm⟩

theorem holds_of_validated {path : String} {value : Yaml} {spec : MrcSpec}
    (accepted : Scenario.validateMrc path value = .ok spec) :
    Holds (match value with | .dict block => block | _ => []) spec := by
  have empty : Holds [] {} := by
    have positive : ∀ name ∈ Scenario.mrcPositiveIntFields, ({} : MrcSpec).getattr name = none := by
      decide
    have ratio : ∀ name ∈ Scenario.mrcRatioFields, ({} : MrcSpec).getattr name = none := by decide
    refine ⟨fun name mem => ?_, fun name mem => ?_, fun entry mem => absurd mem List.not_mem_nil⟩
    · rw [positive name mem]
      exact .none
    · rw [ratio name mem]
      exact .none
  unfold Scenario.validateMrc at accepted
  split at accepted
  · obtain rfl := Except.ok.inj accepted
    exact empty
  · next block =>
    obtain ⟨positive, ratios⟩ := mrcSpec_given accepted
    have keysOk := (Scenario.acceptedMrc accepted).keys
    have names : ∀ name ∈ [] ++ (Scenario.mrcPositiveIntFields ++ Scenario.mrcRatioFields),
        name ∈ MrcSpec.envFields := by decide
    refine ⟨positive, ratios, fun entry mem => ?_⟩
    obtain ⟨name, isName, same⟩ := requireKeys_known keysOk entry mem
    exact ⟨name, names name isName, same⟩
  · exact absurd accepted Scenario.fail_ne_ok

/-! ### The payload -/

theorem mem_payload {spec : MrcSpec} {name : String} {value : Scalar} :
    (name, value) ∈ spec.payload ↔ name ∈ MrcSpec.envFields ∧ spec.getattr name = some value := by
  rw [MrcSpec.payload, List.mem_mergeSort, List.mem_filterMap]
  constructor
  · rintro ⟨fname, mem, found⟩
    obtain ⟨value, isSet, same⟩ := Option.map_eq_some_iff.mp found
    obtain ⟨rfl, rfl⟩ := Prod.mk.inj same
    exact ⟨mem, isSet⟩
  · rintro ⟨mem, isSet⟩
    exact ⟨name, mem, by rw [isSet]; rfl⟩

theorem payload_nodup (spec : MrcSpec) : (spec.payload.map Prod.fst).Nodup := by
  have names (fnames : List String) : (fnames.filterMap fun fname =>
      (spec.getattr fname).map fun value => (fname, value)).map Prod.fst =
        fnames.filter fun fname => (spec.getattr fname).isSome := by
    induction fnames with
    | nil => rfl
    | cons fname rest ih =>
        rw [List.filterMap_cons, List.filter_cons]
        cases spec.getattr fname with
        | none => exact ih
        | some value => exact congrArg (fname :: ·) ih
  have sorted := (List.mergeSort_perm (MrcSpec.envFields.filterMap fun fname =>
    (spec.getattr fname).map fun value => (fname, value)) fun entry other =>
      decide (entry.1 ≤ other.1)).map Prod.fst
  rw [MrcSpec.payload, sorted.nodup_iff, names]
  exact (by decide : MrcSpec.envFields.Nodup).filter _

theorem kwargsOf_payload (names : List String) (payload : List (String × Scalar)) :
    kwargsOf names (payload.map fun entry => (.str entry.1, .scalar entry.2)) =
      (payload.filter fun entry => entry.1 ∈ names).map fun entry => (entry.1, .scalar entry.2) := by
  induction payload with
  | nil => rfl
  | cons entry rest ih =>
      rw [kwargsOf] at ih ⊢
      rw [List.map_cons, List.filterMap_cons, ih, List.filter_cons]
      by_cases mem : entry.1 ∈ names
      · simp [mem]
      · simp [mem]

/-- A keyword argument is an attribute that is set. -/
theorem findEntry_kwargs (spec : MrcSpec) {names : List String} {name : String} (mem : name ∈ names)
    (known : ∀ name ∈ names, name ∈ MrcSpec.envFields) :
    findEntry name (kwargsOf names (spec.payload.map fun entry => (.str entry.1, .scalar entry.2))) =
      (spec.getattr name).map .scalar := by
  have nodup : ((kwargsOf names (spec.payload.map fun entry =>
      (.str entry.1, .scalar entry.2))).map Prod.fst).Nodup := by
    rw [kwargsOf_payload, List.map_map]
    exact (payload_nodup spec).sublist (List.filter_sublist.map Prod.fst)
  have mem_iff (value : Yaml) : (name, value) ∈ kwargsOf names (spec.payload.map fun entry =>
      (.str entry.1, .scalar entry.2)) ↔ ∃ scalar, spec.getattr name = some scalar ∧
        value = .scalar scalar := by
    rw [kwargsOf_payload, List.mem_map]
    constructor
    · rintro ⟨⟨fname, scalar⟩, kept, same⟩
      obtain ⟨rfl, rfl⟩ := Prod.mk.inj same
      exact ⟨scalar, (mem_payload.mp (List.mem_of_mem_filter kept)).2, rfl⟩
    · rintro ⟨scalar, isSet, rfl⟩
      exact ⟨(name, scalar), List.mem_filter.mpr
        ⟨mem_payload.mpr ⟨known name mem, isSet⟩, decide_eq_true mem⟩, rfl⟩
  cases isSet : spec.getattr name with
  | none =>
      rw [Option.map_none, Option.eq_none_iff_forall_not_mem]
      intro value found
      obtain ⟨scalar, other, -⟩ := (mem_iff value).mp (mem_of_findEntry found)
      rw [isSet] at other
      cases other
  | some scalar => exact findEntry_of_mem nodup ((mem_iff _).mpr ⟨scalar, isSet, rfl⟩)

/-! ### The dataclasses -/

theorem forM_ok {α : Type} {visit : α → Except PyError Unit} {items : List α}
    (visits : ∀ item ∈ items, visit item = .ok ()) : items.forM visit = .ok () := by
  induction items with
  | nil => rfl
  | cons item rest ih =>
      obtain ⟨visited, others⟩ := List.forall_mem_cons.mp visits
      exact (bind_of_ok visited).trans (ih others)

theorem agentPostInit_ok {fields : Fields} (positive : ∀ f ∈ agentConfigFields,
    ∃ n, findEntry f fields = some (.scalar (.int n)) ∧ 0 < n) : agentPostInit fields = .ok () := by
  refine forM_ok fun f mem => ?_
  obtain ⟨n, found, above⟩ := positive f mem
  have isPositive : notPositive (.scalar (.int n)) = .ok false :=
    congrArg Except.ok (decide_eq_false (not_le.mpr above))
  rw [found, Option.getD_some]
  exact (bind_of_ok isPositive).trans rfl

/-- The fields of an instance that is built with some arguments. -/
def filled (defaults kwargs : Fields) : Fields :=
  defaults.map fun (name, default) => (name, (findEntry name kwargs).getD default)

theorem construct_ok {className : String} {defaults kwargs : Fields}
    (known : ∀ entry ∈ kwargs, entry.1 ∈ defaults.map Prod.fst) :
    construct className defaults kwargs = .ok (filled defaults kwargs) := by
  have noStranger : kwargs.find? (fun entry => !(defaults.map Prod.fst).contains entry.1) = none := by
    rw [List.find?_eq_none]
    intro entry mem
    rw [List.contains_iff_mem.mpr (known entry mem)]
    exact Bool.false_ne_true
  rw [construct, noStranger]
  rfl

theorem findEntry_filled {defaults kwargs : Fields} (nodup : (defaults.map Prod.fst).Nodup)
    {name : String} {default : Yaml} (mem : (name, default) ∈ defaults) :
    findEntry name (filled defaults kwargs) = some ((findEntry name kwargs).getD default) := by
  refine findEntry_of_mem ?_ (List.mem_map_of_mem mem)
  rw [filled, List.map_map]
  exact nodup

/-- A field has the block's value, or its default. -/
def Carried (block : Scenario.Entries) (default field : String × Yaml) : Prop :=
  field.1 = default.1 ∧
    match Yaml.get? block default.1 with
    | none => field.2 = default.2
    | some given => ∃ carried, field.2 = .scalar carried ∧ Same given carried

/-- The keyword arguments a loader takes from a spec's payload. -/
def loaded (names : List String) (spec : MrcSpec) : Fields :=
  kwargsOf names (spec.payload.map fun entry => (.str entry.1, .scalar entry.2))

section Trip

variable {block : Scenario.Entries} {spec : MrcSpec}

theorem name_of_mem_loaded {names : List String} {entry : String × Yaml}
    (mem : entry ∈ loaded names spec) : entry.1 ∈ names := by
  rw [loaded, kwargsOf_payload] at mem
  obtain ⟨_, kept, rfl⟩ := List.mem_map.mp mem
  exact of_decide_eq_true (List.mem_filter.mp kept).2

theorem carried_loaded (holds : Holds block spec) {names : List String}
    (known : ∀ name ∈ names, name ∈ MrcSpec.envFields) (defaults : Fields)
    (groups : ∀ entry ∈ defaults, entry.1 ∈ names ∨ entry.1 ∉ MrcSpec.envFields) :
    List.Forall₂ (Carried block) defaults (filled defaults (loaded names spec)) := by
  rw [filled, List.forall₂_map_right_iff, List.forall₂_same]
  rintro ⟨name, default⟩ mem
  refine ⟨rfl, ?_⟩
  dsimp only
  rcases groups _ mem with isName | stranger
  · rw [loaded, findEntry_kwargs spec isName known]
    have same := holds.same (known name isName)
    generalize Yaml.get? block name = present, spec.getattr name = carried at same ⊢
    cases same with
    | none => rfl
    | some same => exact ⟨_, rfl, same⟩
  · have absent : Yaml.get? block name = none := by
      rw [Yaml.get?, Option.map_eq_none_iff, List.find?_eq_none]
      intro entry isEntry same
      obtain ⟨other, isKnown, spelled⟩ := holds.known entry isEntry
      obtain rfl := Scalar.str.inj (spelled.symm.trans (of_decide_eq_true same))
      exact stranger isKnown
    have unset : findEntry name (loaded names spec) = none := by
      rw [Option.eq_none_iff_forall_not_mem]
      exact fun value found => stranger (known name (name_of_mem_loaded (mem_of_findEntry found)))
    rw [absent, unset]
    rfl

/-- A cadence is positive, given or not. -/
theorem agent_filled_positive (holds : Holds block spec) : ∀ f ∈ agentConfigFields,
    ∃ n, findEntry f (filled agentDefaults (loaded agentConfigFields spec)) =
      some (.scalar (.int n)) ∧ 0 < n := by
  have known : ∀ name ∈ agentConfigFields, name ∈ MrcSpec.envFields := by decide
  have nodup : (agentDefaults.map Prod.fst).Nodup := by decide
  have value {f : String} (mem : f ∈ agentConfigFields) {d : Int} (positive : 0 < d)
      (isField : (f, .scalar (.int d)) ∈ agentDefaults) :
      ∃ n, findEntry f (filled agentDefaults (loaded agentConfigFields spec)) =
        some (.scalar (.int n)) ∧ 0 < n := by
    rw [findEntry_filled nodup isField, loaded, findEntry_kwargs spec mem known]
    cases isSet : spec.getattr f with
    | none => exact ⟨d, rfl, positive⟩
    | some scalar =>
        obtain ⟨n, rfl, above⟩ := holds.agent_positive mem isSet
        exact ⟨n, rfl, above⟩
  intro f mem
  have cases := mem
  simp only [agentConfigFields, List.mem_cons, List.not_mem_nil, or_false] at cases
  rcases cases with rfl | rfl | rfl | rfl
  · exact value mem (by decide : (0 : Int) < 200) (.head _)
  · exact value mem (by decide : (0 : Int) < 100) (.tail _ (.head _))
  · exact value mem (by decide : (0 : Int) < 200) (.tail _ (.tail _ (.head _)))
  · exact value mem (by decide : (0 : Int) < 500) (.tail _ (.tail _ (.tail _ (.head _))))

theorem loadPayload_ok (holds : Holds block spec) :
    ∃ agent ev, loadPayload (spec.payload.map fun entry => (.str entry.1, .scalar entry.2)) =
        .ok (agent, ev) ∧
      List.Forall₂ (Carried block) agentDefaults agent ∧
      List.Forall₂ (Carried block) evStateDefaults (ev.getD evStateDefaults) := by
  have agentKnown : ∀ name ∈ agentConfigFields, name ∈ MrcSpec.envFields := by decide
  have evKnown : ∀ name ∈ evStateConfigFields, name ∈ MrcSpec.envFields := by decide
  have agentNames : ∀ name ∈ agentConfigFields, name ∈ agentDefaults.map Prod.fst := by decide
  have evNames : ∀ name ∈ evStateConfigFields, name ∈ evStateDefaults.map Prod.fst := by decide
  have agentCarried := carried_loaded holds agentKnown agentDefaults (by decide)
  have evCarried := carried_loaded holds evKnown evStateDefaults (by decide)
  have agentBuilt : agentConfig (loaded agentConfigFields spec) =
      .ok (filled agentDefaults (loaded agentConfigFields spec)) := by
    rw [agentConfig, bind_of_ok (construct_ok fun entry mem => agentNames _ (name_of_mem_loaded mem)),
      bind_of_ok (agentPostInit_ok (agent_filled_positive holds))]
    rfl
  have evBuilt : evStateConfig (loaded evStateConfigFields spec) =
      .ok (filled evStateDefaults (loaded evStateConfigFields spec)) :=
    construct_ok fun entry mem => evNames _ (name_of_mem_loaded mem)
  have noUnknown : ((spec.payload.map fun entry => (Scalar.str entry.1, Yaml.scalar entry.2)).map
      Prod.fst).filter (fun key =>
        !((agentConfigFields ++ evStateConfigFields).map Scalar.str).contains key) = [] := by
    have all : ∀ name ∈ MrcSpec.envFields, name ∈ agentConfigFields ++ evStateConfigFields := by decide
    rw [List.filter_eq_nil_iff, List.map_map, List.forall_mem_map]
    intro entry mem
    have isKnown := List.mem_map_of_mem (f := Scalar.str) (all _ (mem_payload.mp mem).1)
    rw [Function.comp_apply, List.contains_iff_mem.mpr isKnown]
    exact Bool.false_ne_true
  by_cases empty : (loaded evStateConfigFields spec).isEmpty
  · rw [List.isEmpty_iff.mp empty] at evCarried
    refine ⟨_, none, ?_, agentCarried, evCarried⟩
    unfold loadPayload
    dsimp only
    rw [noUnknown, if_neg (not_not.mpr rfl)]
    exact (if_pos empty).trans (bind_of_ok agentBuilt)
  · refine ⟨_, some (filled evStateDefaults (loaded evStateConfigFields spec)), ?_, agentCarried,
      evCarried⟩
    unfold loadPayload
    dsimp only
    rw [noUnknown, if_neg (not_not.mpr rfl)]
    have wrapped := congrArg (some <$> ·) evBuilt
    exact (if_neg empty).trans ((bind_of_ok wrapped).trans (bind_of_ok agentBuilt))

end Trip

/-- Without a block every field has its default. -/
theorem carried_nil (defaults : Fields) : List.Forall₂ (Carried []) defaults defaults :=
  List.forall₂_same.mpr fun _ _ => ⟨rfl, rfl⟩

/-- The block of an accepted document, if it has one. -/
theorem mrc_of_validated {topo : Topo} {entries : Scenario.Entries} {scenario : Scenario}
    (accepted : Scenario.validate topo (.dict entries) = .ok scenario) :
    scenario.mrc = none ∧ mrcBlock entries = [] ∨
      ∃ spec, scenario.mrc = some spec ∧ Holds (mrcBlock entries) spec := by
  obtain ⟨others, same, parts⟩ := Scenario.acceptedDocument accepted
  obtain rfl := Yaml.dict.inj same
  have mrcOk := parts.mrc
  rw [mrcBlock]
  cases present : Yaml.get? entries "mrc" with
  | none =>
      rw [present] at mrcOk
      exact Or.inl ⟨(Except.ok.inj mrcOk).symm, rfl⟩
  | some value =>
      rw [present] at mrcOk
      obtain ⟨spec, specOk, found⟩ := bind_eq_ok mrcOk
      refine Or.inr ⟨spec, (Except.ok.inj found).symm, ?_⟩
      have holds := holds_of_validated specOk
      cases value with
      | dict block => exact holds
      | scalar _ => exact holds
      | list _ => exact holds

/-- No tunable is lost or changed between the document and the agents. -/
theorem tunables_survive {topo : Topo} {entries : Scenario.Entries} {scenario : Scenario}
    (accepted : Scenario.validate topo (.dict entries) = .ok scenario) {json : Json}
    (roundTrips : ∀ spec ∈ scenario.mrc, json.RoundTrips spec.payload) :
    ∃ agent ev, loadConfigsFromEnv json ((Orchestrator.mrcEnv json scenario.mrc).getD []) none =
        .ok (agent, ev) ∧
      List.Forall₂ (Carried (mrcBlock entries)) agentDefaults agent ∧
      List.Forall₂ (Carried (mrcBlock entries)) evStateDefaults (ev.getD evStateDefaults) ∧
      ∀ entry ∈ mrcBlock entries, ∃ name ∈ MrcSpec.envFields, entry.1 = .str name := by
  rcases mrc_of_validated accepted with ⟨noMrc, noBlock⟩ | ⟨spec, isMrc, holds⟩
  · rw [noMrc, noBlock]
    exact ⟨agentDefaults, none, rfl, carried_nil _, carried_nil _,
      fun _ mem => absurd mem List.not_mem_nil⟩
  · obtain ⟨nonempty, read⟩ := roundTrips spec isMrc
    obtain ⟨agent, ev, loads, agentCarried, evCarried⟩ := loadPayload_ok holds
    refine ⟨agent, ev, ?_, agentCarried, evCarried, holds.known⟩
    rw [isMrc]
    have found : (none : Option String).or (findEntry mrcConfigEnv
        ((Orchestrator.mrcEnv json (some spec)).getD [])) = some (json.dumps spec.payload) := rfl
    rw [loadConfigsFromEnv, found]
    split
    · next absent => cases absent
    · next empty => exact absurd (Option.some.inj empty) nonempty
    · next text _ isText =>
      obtain rfl := Option.some.inj isText
      rw [read]
      exact loads

/-- A document that tunes the probe interval and the loss threshold. -/
def tunedFlow : Scenario.Entries :=
  [(.str "name", .scalar (.str "smoke")), (.str "flows", .list [.dict [
    (.str "pairs", .scalar (.str "green-pairs-4")), (.str "policy", .scalar (.str "round_robin")),
    (.str "rate", .scalar (.str "1000pps")), (.str "duration", .scalar (.str "500ms"))]]),
    (.str "mrc", .dict [(.str "probe_interval_ms", .scalar (.int 50)),
      (.str "loss_threshold", .scalar (.float (.finite 1 isBinary64_one)))])]

/-- What the validator stores of it. -/
def tunedSpec : MrcSpec :=
  { probeIntervalMs := some 50, lossThreshold := some (.finite 1 isBinary64_one) }

/-- What `json` does with the two tunables. -/
def twoTunables : Json where
  dumps _ := "\x7b\"loss_threshold\": 1.0, \"probe_interval_ms\": 50\x7d"
  loads text :=
    if text = "\x7b\"loss_threshold\": 1.0, \"probe_interval_ms\": 50\x7d" then
      .ok (.dict [(.str "loss_threshold", .scalar (.float (.finite 1 isBinary64_one))),
        (.str "probe_interval_ms", .scalar (.int 50))])
    else .error (.decode "Expecting value: line 1 column 1 (char 0)")

theorem tunedSpec_payload : tunedSpec.payload =
    [("loss_threshold", .float (.finite 1 isBinary64_one)), ("probe_interval_ms", .int 50)] := by
  have present : MrcSpec.envFields.filterMap (fun fname =>
      (tunedSpec.getattr fname).map fun value => (fname, value)) =
        [("probe_interval_ms", .int 50), ("loss_threshold", .float (.finite 1 isBinary64_one))] := rfl
  rw [MrcSpec.payload, present]
  simp [List.mergeSort, List.MergeSort.Internal.splitInTwo]

/-- The interval and the threshold arrive. -/
theorem tunables_survive_two : ∃ scenario,
    Scenario.validate Topo.twoPlanes (.dict tunedFlow) = .ok scenario ∧
      ∃ agent ev, loadConfigsFromEnv twoTunables
          ((Orchestrator.mrcEnv twoTunables scenario.mrc).getD []) none = .ok (agent, ev) ∧
        List.Forall₂ (Carried (mrcBlock tunedFlow)) agentDefaults agent ∧
        List.Forall₂ (Carried (mrcBlock tunedFlow)) evStateDefaults (ev.getD evStateDefaults) ∧
        ∀ entry ∈ mrcBlock tunedFlow, ∃ name ∈ MrcSpec.envFields, entry.1 = .str name := by
  have stored : (Scenario.validate Topo.twoPlanes (.dict tunedFlow)).map Scenario.mrc =
      .ok (some tunedSpec) := rfl
  obtain ⟨scenario, accepted⟩ : ∃ scenario,
      Scenario.validate Topo.twoPlanes (.dict tunedFlow) = .ok scenario := ⟨_, rfl⟩
  rw [accepted] at stored
  have isMrc : scenario.mrc = some tunedSpec := Except.ok.inj stored
  refine ⟨scenario, accepted, tunables_survive accepted fun spec isSpec => ?_⟩
  obtain rfl := Option.some.inj (isMrc.symm.trans isSpec)
  rw [Json.RoundTrips, tunedSpec_payload]
  exact ⟨by decide, rfl⟩

end Srv6Fabric.Mrc

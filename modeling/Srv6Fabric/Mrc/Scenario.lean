import Srv6Fabric.Netem.Fault
import Srv6Fabric.PolicySpec

/-!
# The scenario validator

`validate` turns a parsed YAML document into a `Scenario` or raises at the first problem.
The topology constants the module imports are a parameter.
-/

namespace Srv6Fabric.Mrc

/-- One src/dst pair to be run as a flow. -/
structure FlowPair where
  tenant : String
  src : PyInt
  dst : PyInt
  deriving DecidableEq

/-- One `flows:` entry, expanded to its concrete pair list. -/
structure FlowSpec where
  pairs : List FlowPair
  policySpec : Yaml
  ratePps : PyInt
  durationS : PyFloat
  policyLabel : String

/-- One `faults:` entry. -/
structure FaultSpec where
  kind : String
  target : String
  spec : String
  deriving DecidableEq

structure ReportSpec where
  out : Option String
  deriving DecidableEq

/-- The tunables of an `mrc:` block; absent ones keep their defaults. -/
structure MrcSpec where
  probeIntervalMs : Option Int := none
  probeTimeoutMs : Option Int := none
  lossWindowMs : Option Int := none
  maxWindowSkewMs : Option Int := none
  probeFailThreshold : Option Int := none
  probeRecoverThreshold : Option Int := none
  lossThreshold : Option PyFloat := none
  lossDemoteConsecutive : Option Int := none
  minActivePlanes : Option Int := none
  rttRingSize : Option Int := none
  deriving DecidableEq

structure Scenario where
  name : String
  description : String
  flows : List FlowSpec
  faults : List FaultSpec
  report : ReportSpec
  mrc : Option MrcSpec

namespace Scenario

/-- The entries of a mapping. -/
abbrev Entries := List (Scalar × Yaml)

/-! ## Named pair sets -/

/-- `_REFERENCE_PAIRS`. -/
def referencePairs : List (Int × Int) :=
  [(0, 15), (1, 14), (2, 13), (3, 12), (4, 11), (5, 10), (6, 9), (7, 8)]

/-- `_REFERENCE_PAIRS_4`. -/
def referencePairs4 : List (Int × Int) := [(0, 7), (1, 6), (2, 5), (3, 4)]

def pairsOf (tenant : String) (pairs : List (Int × Int)) : List FlowPair :=
  pairs.map fun (src, dst) => ⟨tenant, .int src, .int dst⟩

/-- `NAMED_PAIR_SETS`. -/
def namedPairSets : List (String × List FlowPair) :=
  [("green-pairs-8", pairsOf "green" referencePairs),
    ("yellow-pairs-8", pairsOf "yellow" referencePairs),
    ("green-pairs-4", pairsOf "green" referencePairs4),
    ("yellow-pairs-4", pairsOf "yellow" referencePairs4),
    ("green-00-15", pairsOf "green" [(0, 15)]),
    ("yellow-00-15", pairsOf "yellow" [(0, 15)])]

/-! ## Primitive helpers -/

/-- `raise ScenarioError(path, msg)`. -/
def fail {α : Type} (path message : String) : Except PyError α :=
  .error (.scenarioError path message)

/-- `except ValueError as e: raise ScenarioError(path, str(e))`. -/
def atPath {α : Type} (path : String) : Except PyError α → Except PyError α
  | .error (.valueError message) => fail path message
  | other => other

def sortedNames (names : List String) : List String :=
  names.mergeSort fun name other => decide (name ≤ other)

def requireKeys (entries : Entries) (path : String) (required optional : List String) :
    Except PyError Unit := do
  let keys := entries.map Prod.fst
  let missing := required.filter fun name => !keys.contains (.str name)
  if missing ≠ [] then
    fail path s!"missing required key(s): {pyReprList (sortedNames missing)}"
  let extra := keys.filter fun key => !((required ++ optional).map Scalar.str).contains key
  if extra ≠ [] then
    let shown ← (← Scalar.sorted extra).mapM Scalar.repr
    fail path (s!"unknown key(s): [" ++ ", ".intercalate shown ++ "]")

/-- `d[name]`; the callers have required the key. -/
def lookup (entries : Entries) (name : String) : Except PyError Yaml :=
  match Yaml.get? entries name with
  | some value => .ok value
  | none => .error (.keyError (pyRepr name))

/-- `_require_str`. -/
def requireStr (entries : Entries) (path name : String) : Except PyError String := do
  match ← lookup entries name with
  | .scalar (.str text) =>
      if text = "" then fail s!"{path}.{name}" "must be a non-empty string" else .ok text
  | _ => fail s!"{path}.{name}" "must be a non-empty string"

/-- `_opt_str`. -/
def optStr (entries : Entries) (path name default : String) : Except PyError String :=
  match Yaml.get? entries name with
  | none => .ok default
  | some (.scalar (.str text)) => .ok text
  | some _ => fail s!"{path}.{name}" "must be a string if present"

/-- `_require_choice`. -/
def requireChoice (entries : Entries) (path name : String) (choices : List String) :
    Except PyError String := do
  let value ← lookup entries name
  let refuse : Except PyError String := do
    fail s!"{path}.{name}" s!"must be one of {pyReprTuple choices}, got {← value.repr}"
  match value with
  | .scalar (.str text) => if choices.contains text then .ok text else refuse
  | _ => refuse

/-- A value that passes `isinstance(v, int)`. -/
def asInt? : Yaml → Option PyInt
  | .scalar (.int value) => some (.int value)
  | .scalar (.bool value) => some (.bool value)
  | _ => none

/-- `_require_host_id`. -/
def requireHostId (topo : Topo) (entries : Entries) (path name : String) :
    Except PyError PyInt := do
  let value ← lookup entries name
  let refuse : Except PyError PyInt := do
    fail s!"{path}.{name}"
      s!"must be int 0..{(topo.numLeaves : Int) - 1}, got {← value.repr}"
  match asInt? value with
  | some number => if 0 ≤ number.toInt ∧ number.toInt < topo.numLeaves then .ok number else refuse
  | none => refuse

/-! ## Rates and durations -/

/-- The text without the white space around it. -/
def stripped (text : List Char) : List Char := (text.dropWhile isSpace).rdropWhile isSpace

/-- `_RATE_RE`: the digits of a match. -/
def rateMatch (text : String) : Option (List Char) :=
  let body := text.toList.dropWhile isSpace
  let digits := body.takeWhile isDecimal
  let unit := (stripped (body.dropWhile isDecimal)).map caseFold
  if digits ≠ [] ∧ [[], ['p', 'p'], ['p', 'p', 's']].contains unit then some digits else none

def parseRate (path : String) (value : Yaml) : Except PyError PyInt :=
  let refuse : Except PyError PyInt := do
    fail path s!"must be a positive int or '<N>pps', got {← value.repr}"
  match asInt? value, value with
  | some number, _ => if 0 < number.toInt then .ok number else refuse
  | none, .scalar (.str text) =>
      match rateMatch text with
      | some digits => do return .int (← pyInt (String.ofList digits))
      | none => refuse
  | none, _ => refuse

/-- `_DUR_RE`: the number and the unit of a match. -/
def durationMatch (text : String) : Option (DecimalMatch × List Char) :=
  let found := decimalMatch (text.toList.dropWhile isSpace)
  let unit := stripped found.rest
  if found.whole ≠ [] ∧ [[], ['s'], ['m', 's']].contains (unit.map caseFold) then some (found, unit)
  else none

/-- `(m.group(2) or "").lower() == "ms"`. -/
def isMillis (unit : List Char) : Bool := unit.map Char.toLower = ['m', 's']

def parseDuration (path : String) (value : Yaml) : Except PyError PyFloat :=
  let refuse : Except PyError PyFloat := do
    fail path s!"must be a duration like '30s' or '500ms', got {← value.repr}"
  match value with
  | .scalar (.int number) => if 0 < number then PyFloat.ofInt number else refuse
  | .scalar (.bool number) => if number then PyFloat.ofInt 1 else refuse
  | .scalar (.float number) => if number.isPositive then .ok number else refuse
  | .scalar (.str text) =>
      match durationMatch text with
      | some (found, unit) => do
          let seconds ← Yaml.toFloat
            (.scalar (.str (String.ofList (found.whole ++ found.point ++ found.fraction))))
          .ok (if isMillis unit then seconds.div1000 else seconds)
      | none => refuse
  | _ => refuse

/-! ## Flows -/

/-- One entry of an explicit pair list. -/
def pairEntry (topo : Topo) (path : String) : Yaml → Except PyError FlowPair
  | .dict entries => do
      requireKeys entries path ["tenant", "src", "dst"] []
      let tenant ← requireChoice entries path "tenant" topo.tenants
      let src ← requireHostId topo entries path "src"
      let dst ← requireHostId topo entries path "dst"
      if src.toInt = dst.toInt then fail path "src and dst must differ"
      else .ok ⟨tenant, src, dst⟩
  | _ => fail path "pair entry must be a mapping"

/-- `enumerate(items)`, each item with its path. -/
def atIndices {α : Type} (path : String) (check : String → Yaml → Except PyError α)
    (items : List Yaml) : Except PyError (List α) :=
  items.zipIdx.mapM fun (item, i) => check s!"{path}[{i}]" item

/-- `_resolve_pairs`. -/
def resolvePairs (topo : Topo) (path : String) : Yaml → Except PyError (List FlowPair)
  | .scalar (.str name) =>
      match namedPairSets.find? (·.1 = name) with
      | some (_, pairs) => .ok pairs
      | none => fail path (s!"unknown named pair set {pyRepr name}; known: "
          ++ pyReprList (sortedNames (namedPairSets.map Prod.fst)))
  | .list items =>
      if items.isEmpty then fail path "pair list is empty"
      else atIndices path (pairEntry topo) items
  | _ => fail path "must be a named set string or list of \x7btenant,src,dst\x7d"

/-- `_policy_label`. -/
def policyLabel : Yaml → Except PyError String
  | .scalar (.str text) => .ok text
  | .dict [(key, value)] => do
      let kind ← key.toStr
      let inner ← match value with
        | .list _ => .ok "weights"
        | value => policyLabel value
      return kind ++ "(" ++ inner ++ ")"
  | spec => spec.repr

/-- `_validate_flow`. -/
def validateFlow (topo : Topo) (path : String) : Yaml → Except PyError FlowSpec
  | .dict entries => do
      requireKeys entries path ["pairs", "policy", "rate", "duration"] []
      let pairs ← resolvePairs topo s!"{path}.pairs" (← lookup entries "pairs")
      let policySpec ← lookup entries "policy"
      let _ ← atPath s!"{path}.policy" (policyFromSpec topo policySpec)
      let ratePps ← parseRate s!"{path}.rate" (← lookup entries "rate")
      let durationS ← parseDuration s!"{path}.duration" (← lookup entries "duration")
      let policyLabel ← policyLabel policySpec
      .ok { pairs, policySpec, ratePps, durationS, policyLabel }
  | _ => fail path "must be a mapping"

/-! ## Faults, report, MRC block -/

/-- `_validate_fault`. -/
def validateFault (topo : Topo) (path : String) : Yaml → Except PyError FaultSpec
  | .dict entries => do
      requireKeys entries path ["kind", "target", "spec"] []
      let kind ← requireStr entries path "kind"
      if kind ≠ "netem" then
        fail s!"{path}.kind"
          s!"unsupported fault kind {pyRepr kind}; only 'netem' is implemented"
      let target ← requireStr entries path "target"
      let spec ← requireStr entries path "spec"
      let _ ← atPath s!"{path}.target" (Netem.parseTarget topo target)
      let _ ← atPath s!"{path}.spec" (Netem.normalizeSpec spec)
      .ok { kind, target, spec }
  | _ => fail path "must be a mapping"

/-- `_validate_report`. -/
def validateReport (path : String) : Yaml → Except PyError ReportSpec
  | .scalar .null => .ok ⟨none⟩
  | .dict entries => do
      requireKeys entries path [] ["out"]
      match Yaml.get? entries "out" with
      | none => .ok ⟨none⟩
      | some (.scalar .null) => .ok ⟨none⟩
      | some (.scalar (.str out)) => .ok ⟨some out⟩
      | some _ => fail s!"{path}.out" "must be a string path"
  | _ => fail path "must be a mapping if present"

/-- `_MRC_POSITIVE_INT_FIELDS`. -/
def mrcPositiveIntFields : List String :=
  ["probe_interval_ms", "probe_timeout_ms", "loss_window_ms", "max_window_skew_ms",
    "probe_fail_threshold", "probe_recover_threshold", "loss_demote_consecutive",
    "min_active_planes", "rtt_ring_size"]

/-- `_MRC_RATIO_FIELDS`. -/
def mrcRatioFields : List String := ["loss_threshold"]

/-- One round of the loop over `_MRC_POSITIVE_INT_FIELDS`. -/
def positiveInt (entries : Entries) (path name : String) : Except PyError (Option Int) :=
  match Yaml.get? entries name with
  | none => .ok none
  | some (.scalar (.int value)) =>
      if 0 < value then .ok (some value)
      else do fail s!"{path}.{name}" s!"must be a positive int, got {← intStr value}"
  | some value => do fail s!"{path}.{name}" s!"must be a positive int, got {← value.repr}"

/-- One round of the loop over `_MRC_RATIO_FIELDS`. -/
def ratio (entries : Entries) (path name : String) : Except PyError (Option PyFloat) :=
  let check (value : Yaml) : Except PyError (Option PyFloat) := do
    let number ← value.toFloat
    if number.isNonNegative && number.atMostOne then .ok (some number)
    else fail s!"{path}.{name}" s!"must be in [0.0, 1.0], got {← value.toStr}"
  match Yaml.get? entries name with
  | none => .ok none
  | some (.scalar (.int value)) => check (.scalar (.int value))
  | some (.scalar (.float value)) => check (.scalar (.float value))
  | some value => do
      fail s!"{path}.{name}" s!"must be a number in [0.0, 1.0], got {← value.repr}"

/-- `_validate_mrc`. -/
def validateMrc (path : String) : Yaml → Except PyError MrcSpec
  | .scalar .null => .ok {}
  | .dict entries => do
      requireKeys entries path [] (mrcPositiveIntFields ++ mrcRatioFields)
      let probeIntervalMs ← positiveInt entries path "probe_interval_ms"
      let probeTimeoutMs ← positiveInt entries path "probe_timeout_ms"
      let lossWindowMs ← positiveInt entries path "loss_window_ms"
      let maxWindowSkewMs ← positiveInt entries path "max_window_skew_ms"
      let probeFailThreshold ← positiveInt entries path "probe_fail_threshold"
      let probeRecoverThreshold ← positiveInt entries path "probe_recover_threshold"
      let lossDemoteConsecutive ← positiveInt entries path "loss_demote_consecutive"
      let minActivePlanes ← positiveInt entries path "min_active_planes"
      let rttRingSize ← positiveInt entries path "rtt_ring_size"
      let lossThreshold ← ratio entries path "loss_threshold"
      .ok { probeIntervalMs, probeTimeoutMs, lossWindowMs, maxWindowSkewMs, probeFailThreshold,
            probeRecoverThreshold, lossThreshold, lossDemoteConsecutive, minActivePlanes,
            rttRingSize }
  | _ => fail path "must be a mapping if present"

/-! ## The document -/

/-- The value of `flows:`. -/
def flowItems (entries : Entries) : Except PyError (List Yaml) := do
  match ← lookup entries "flows" with
  | .list items => if items.isEmpty then fail "$.flows" "must be a non-empty list" else .ok items
  | _ => fail "$.flows" "must be a non-empty list"

/-- The value of `faults:`, nothing for a false value. -/
def faultItems (entries : Entries) : Except PyError (List Yaml) :=
  match Yaml.get? entries "faults" with
  | none => .ok []
  | some (.list items) => .ok items
  | some value => if value.truthy then fail "$.faults" "must be a list if present" else .ok []

def validate (topo : Topo) : Yaml → Except PyError Scenario
  | .dict entries => do
      requireKeys entries "$" ["name", "flows"] ["description", "faults", "report", "mrc"]
      let name ← requireStr entries "$" "name"
      let description ← optStr entries "$" "description" ""
      let flows ← atIndices "$.flows" (validateFlow topo) (← flowItems entries)
      let faults ← atIndices "$.faults" (validateFault topo) (← faultItems entries)
      let report ← validateReport "$.report"
        ((Yaml.get? entries "report").getD (.scalar .null))
      let mrc ← (Yaml.get? entries "mrc").mapM (validateMrc "$.mrc")
      .ok { name, description, flows, faults, report, mrc }
  | _ => fail "$" "scenario must be a mapping at top level"

end Scenario

end Srv6Fabric.Mrc

import Srv6Fabric.Library.Checks
import Srv6Fabric.Mrc.ScenarioRunnable
import Srv6Fabric.YamlPrinting

/-!
# What the validator checks

For each check of the validator, the condition on its input under which it accepts, and the
one under which an exception other than a `ScenarioError` escapes: keys that cannot be sorted,
weights that are no numbers, integers too large for a float or too long for `str`.
-/

namespace Srv6Fabric

open Library

/-- An integer `float` converts. -/
def FloatInt (n : Int) : Prop := |n| < 2 ^ 1024 - 2 ^ 970

/-- Distinct keys `sorted` compares. -/
def Sortable (keys : List Scalar) : Prop :=
  keys.length ≤ 1 ∨ (∀ key ∈ keys, key.rank.isSome) ∨ ∀ key ∈ keys, key.className = "str"

namespace Mrc.Scenario

/-- A refusal that prints the value. -/
def refuseShowing (value : Yaml) : Check where
  accepts := False
  escapes := ¬ ∀ n ∈ value.ints, ShortInt n

/-- A condition, and a refusal that prints the value. -/
def orShow (condition : Prop) (value : Yaml) : Check where
  accepts := condition
  escapes := ¬ condition ∧ (refuseShowing value).escapes

/-- A check of the value under a key that may be missing. -/
def ifPresent (check : Yaml → Check) (name : String) : Yaml → Check
  | .dict entries => ((Yaml.get? entries name).map check).getD .pass
  | _ => .pass

/-! ### Keys -/

/-- The keys the schema does not know; they are sorted and printed. -/
def unknownCheck (unknown : List Scalar) : Check where
  accepts := unknown = []
  escapes := ¬ (Sortable unknown ∧ ∀ n ∈ unknown.flatMap Scalar.ints, ShortInt n)

/-- A mapping with its required keys, and no unknown ones. -/
def keysCheck (required optional : List String) : Yaml → Check
  | .dict entries => .inOrder [
      .guard (∀ name ∈ required, Scalar.str name ∈ entries.map Prod.fst),
      unknownCheck ((entries.map Prod.fst).filter fun key =>
        !((required ++ optional).map Scalar.str).contains key)]
  | _ => .refuse

/-! ### Flows -/

def choiceCheck (choices : List String) (value : Yaml) : Check :=
  orShow (∃ text ∈ choices, value = .scalar (.str text)) value

def hostIdCheck (topo : Topo) (value : Yaml) : Check :=
  orShow (∃ number, asInt? value = some number ∧ 0 ≤ number.toInt ∧ number.toInt < topo.numLeaves)
    value

def pairCheck (topo : Topo) (pair : Yaml) : Check := .inOrder [
  keysCheck ["tenant", "src", "dst"] [] pair,
  choiceCheck topo.tenants (field "tenant" pair),
  hostIdCheck topo (field "src" pair),
  hostIdCheck topo (field "dst" pair),
  .guard ((asInt? (field "src" pair)).map PyInt.toInt ≠ (asInt? (field "dst" pair)).map PyInt.toInt)]

def pairsCheck (topo : Topo) : Yaml → Check
  | .scalar (.str name) => .guard (name ∈ namedPairSets.map Prod.fst)
  | .list [] => .refuse
  | .list pairs => .inOrder (pairs.map (pairCheck topo))
  | _ => .refuse

/-- `float(x)` of one weight. -/
def weightCheck : Yaml → Check
  | .scalar (.int n) => .trust (FloatInt n)
  | .scalar (.bool _) => .pass
  | .scalar (.float _) => .pass
  | .scalar (.str text) => .guard (PyFloat.ofText text).isSome
  | _ => .escape

/-- Weights `Weighted` takes. -/
def Proportions (topo : Topo) (items : List Yaml) : Prop :=
  ∃ weights, List.Forall₂ (fun item weight => Yaml.toFloat item = .ok weight) items weights ∧
    weights.length = topo.numPlanes ∧ weights.any PyFloat.isNegative = false ∧
    (weightSum weights).isNonPositive = false

def weightedCheck (topo : Topo) (value : Yaml) : Check :=
  match value.iterate with
  | .ok items => .inOrder [.inOrder (items.map weightCheck), .guard (Proportions topo items)]
  | .error _ => .escape

def policyCheck (topo : Topo) : Yaml → Check
  | .scalar (.str name) => .guard (name ∈ ["round_robin", "hash5tuple", "health_aware_mrc"])
  | .dict [(kind, value)] =>
      if kind = .str "weighted" then weightedCheck topo value
      else if kind = .str "health_aware" then policyCheck topo value
      else .refuse
  | _ => .refuse

def rateCheck : Yaml → Check
  | .scalar (.str text) =>
      match rateMatch text with
      | some digits => .trust (digits.length ≤ maxStrDigits)
      | none => .refuse
  | value => orShow (∃ number, asInt? value = some number ∧ 0 < number.toInt) value

def durationCheck : Yaml → Check
  | .scalar (.int n) => if 0 < n then .trust (FloatInt n) else refuseShowing (.scalar (.int n))
  | .scalar (.bool flag) => .guard flag
  | .scalar (.float number) => .guard number.isPositive
  | .scalar (.str text) => .guard (durationMatch text).isSome
  | value => refuseShowing value

/-- The integers the label of a policy prints. -/
def labelInts : Yaml → List Int
  | .scalar (.str _) => []
  | .dict [(key, .list _)] => key.ints
  | .dict [(key, value)] => key.ints ++ labelInts value
  | spec => spec.ints

def flowCheck (topo : Topo) (flow : Yaml) : Check := .inOrder [
  keysCheck ["pairs", "policy", "rate", "duration"] [] flow,
  pairsCheck topo (field "pairs" flow),
  policyCheck topo (field "policy" flow),
  rateCheck (field "rate" flow),
  durationCheck (field "duration" flow),
  .trust (∀ n ∈ labelInts (field "policy" flow), ShortInt n)]

/-! ### The rest of the document -/

/-- Texts `parse_target` and `normalize_spec` accept. -/
def NetemFault (topo : Topo) (fault : Yaml) : Prop :=
  ∃ target spec, field "kind" fault = .scalar (.str "netem") ∧
    field "target" fault = .scalar (.str target) ∧ field "spec" fault = .scalar (.str spec) ∧
    (∃ nics, Netem.parseTarget topo target = .ok nics) ∧
    ∃ tokens, Netem.normalizeSpec spec = .ok tokens

def faultCheck (topo : Topo) (fault : Yaml) : Check := .inOrder [
  keysCheck ["kind", "target", "spec"] [] fault,
  .guard (NetemFault topo fault)]

def reportCheck : Yaml → Check
  | .scalar .null => .pass
  | report => .inOrder [
      keysCheck [] ["out"] report,
      .guard (field "out" report = .scalar .null ∨ ∃ out, field "out" report = .scalar (.str out))]

def positiveIntCheck (value : Yaml) : Check := orShow (∃ n, 0 < n ∧ value = .scalar (.int n)) value

def ratioCheck : Yaml → Check
  | .scalar (.int n) => .inOrder [
      .trust (FloatInt n),
      orShow (0 ≤ n ∧ n ≤ 1) (.scalar (.int n))]
  | .scalar (.float number) => .guard (number.isNonNegative && number.atMostOne)
  | value => refuseShowing value

def mrcCheck : Yaml → Check
  | .scalar .null => .pass
  | mrc => .inOrder (
      keysCheck [] (mrcPositiveIntFields ++ mrcRatioFields) mrc ::
        (mrcPositiveIntFields.map fun name => ifPresent positiveIntCheck name mrc) ++
          mrcRatioFields.map fun name => ifPresent ratioCheck name mrc)

/-- The document, in the order of the validator. -/
def documentCheck (topo : Topo) (doc : Yaml) : Check := .inOrder [
  keysCheck ["name", "flows"] ["description", "faults", "report", "mrc"] doc,
  .guard (∃ name, name ≠ "" ∧ field "name" doc = .scalar (.str name)),
  ifPresent (fun value => .guard (∃ text, value = .scalar (.str text))) "description" doc,
  .guard (∃ flows, flows ≠ [] ∧ field "flows" doc = .list flows),
  .inOrder ((items (field "flows" doc)).map (flowCheck topo)),
  .guard ((field "faults" doc).truthy = false ∨ ∃ faults, field "faults" doc = .list faults),
  .inOrder ((items (field "faults" doc)).map (faultCheck topo)),
  reportCheck (field "report" doc),
  mrcCheck (field "mrc" doc)]

end Mrc.Scenario

end Srv6Fabric

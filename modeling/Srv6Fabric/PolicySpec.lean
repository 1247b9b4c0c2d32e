import Srv6Fabric.Topo
import Srv6Fabric.Yaml

/-!
# Policies named in a scenario

`policy_from_spec` builds a policy from a scenario's `policy:` value.  `Weighted` keeps
its weights as floats; the cumulative thresholds it derives from them are left out.
-/

namespace Srv6Fabric

/-- A spray policy before any packet; `HealthAwareMrcFactory` waits for its table. -/
inductive SprayPolicy where
  | roundRobin
  | hash5Tuple
  | weighted (weights : List PyFloat)
  | healthAware (inner : SprayPolicy)
  | healthAwareMrcFactory
  deriving DecidableEq

/-- `repr` of a tuple of floats. -/
def reprFloats : List PyFloat → String
  | [single] => "(" ++ single.str ++ ",)"
  | values => "(" ++ ", ".intercalate (values.map PyFloat.str) ++ ")"

/-- `sum(weights)`. -/
def weightSum (weights : List PyFloat) : PyFloat := weights.foldl PyFloat.add PyFloat.zero

/-- `Weighted.__post_init__`. -/
def SprayPolicy.makeWeighted (topo : Topo) (weights : List PyFloat) :
    Except PyError SprayPolicy :=
  if weights.length ≠ topo.numPlanes then
    .error (.valueError s!"weights must have {topo.numPlanes} entries, got {weights.length}")
  else if weights.any PyFloat.isNegative then
    .error (.valueError s!"weights must be >= 0, got {reprFloats weights}")
  else if (weightSum weights).isNonPositive then .error (.valueError "weights sum to zero")
  else .ok (.weighted weights)

/-- `policy_from_spec`. -/
def policyFromSpec (topo : Topo) : Yaml → Except PyError SprayPolicy
  | .scalar (.str text) =>
      if text = "round_robin" then .ok .roundRobin
      else if text = "hash5tuple" then .ok .hash5Tuple
      else if text = "health_aware_mrc" then .ok .healthAwareMrcFactory
      else .error (.valueError s!"unknown policy: {pyRepr text}")
  | .dict [(kind, value)] =>
      if kind = .str "weighted" then do
        let weights ← (← value.iterate).mapM Yaml.toFloat
        SprayPolicy.makeWeighted topo weights
      else if kind = .str "health_aware" then do
        let inner ← policyFromSpec topo value
        .ok (.healthAware inner)
      else do .error (.valueError s!"unknown policy kind: {← kind.repr}")
  | spec => do .error (.valueError s!"bad policy spec: {← spec.repr}")

example : policyFromSpec Topo.twoPlanes (.dict [(.str "weighted", .list
    [.scalar (.int 1), .scalar (.str "3e0")])]) =
    .ok (.weighted [PyFloat.round 1, PyFloat.round 3]) := by
  decide +kernel

end Srv6Fabric

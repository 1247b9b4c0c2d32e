import Srv6Fabric.Mrc.EvState
import Srv6Fabric.Mrc.Scenario

/-!
# The orchestrator's command lines

How `run.py` turns the flows of a scenario into the arguments of one sender each.
-/

namespace Srv6Fabric.Mrc

/-- One (src, dst, policy) triple resolved from a flow's pair list. -/
structure FlowRun where
  srcHost : String
  dstHost : String
  tenant : String
  srcId : PyInt
  dstId : PyInt
  policyCli : String
  ratePps : PyInt
  durationS : PyFloat
  deriving DecidableEq

namespace Orchestrator

/-- `policy_to_cli`. -/
def policyToCli : Yaml → Except PyError String
  | .scalar (.str text) => .ok text
  | .dict [(key, value)] =>
      if key = .str "weighted" then do
        let weights ← (← value.iterate).mapM Yaml.toStr
        .ok ("weighted:" ++ ",".intercalate weights)
      else if key = .str "health_aware" then
        .error (.notImplementedError ("health_aware policy: orchestrator-driven health probing "
          ++ "not yet wired into the spray.py CLI; use a plain policy "
          ++ "or `health_aware_mrc` for MRC-style health-aware spray."))
      else do
        let shown ← Yaml.repr (.dict [(key, value)])
        .error (.valueError s!"unsupported policy spec for CLI: {shown}")
  | spec => do .error (.valueError s!"unsupported policy spec for CLI: {← spec.repr}")

/-- The run of one pair of a flow. -/
def flowRun (flow : FlowSpec) (policyCli : String) (pair : FlowPair) : FlowRun where
  srcHost := Topo.hostName pair.tenant pair.src.toInt.toNat
  dstHost := Topo.hostName pair.tenant pair.dst.toInt.toNat
  tenant := pair.tenant
  srcId := pair.src
  dstId := pair.dst
  policyCli := policyCli
  ratePps := flow.ratePps
  durationS := flow.durationS

/-- The round of `expand_flows` for one flow. -/
def expandFlow (flow : FlowSpec) : Except PyError (List FlowRun) :=
  let refuse (message : String) : Except PyError (List FlowRun) := do
    let shown ← flow.policySpec.repr
    .error (.systemExit s!"mrc/run.py: cannot translate policy {shown}: {message}")
  match policyToCli flow.policySpec with
  | .ok policyCli => .ok (flow.pairs.map (flowRun flow policyCli))
  | .error (.valueError message) => refuse message
  | .error (.notImplementedError message) => refuse message
  | .error other => .error other

/-- `expand_flows`. -/
def expandFlows (scenario : Scenario) : Except PyError (List FlowRun) := do
  return (← scenario.flows.mapM expandFlow).flatten

/-- `str` of a value that passes `isinstance(v, int)`. -/
def intText : PyInt → Except PyError String
  | .int value => intStr value
  | .bool value => .ok (if value then "True" else "False")

/-- `_send_argv`. -/
def sendArgv (flow : FlowRun) : Except PyError (List String) := do
  let dst ← intText flow.dstId
  let rate ← intText flow.ratePps
  return ["spray", "--role", "send", "--dst-id", dst, "--rate", rate ++ "pps",
    "--duration", flow.durationS.str ++ "s", "--policy", flow.policyCli, "--json"]

/-- The table tunables of a sender: those `to_env_json` passes on, over the defaults. -/
def senderConfig (mrc : Option MrcSpec) : EVStateConfig :=
  let spec := mrc.getD {}
  let defaults : EVStateConfig := {}
  { probeFailThreshold := spec.probeFailThreshold.getD defaults.probeFailThreshold
    probeRecoverThreshold := spec.probeRecoverThreshold.getD defaults.probeRecoverThreshold
    lossThreshold := (spec.lossThreshold.map PyFloat.toRat).getD defaults.lossThreshold
    lossDemoteConsecutive := spec.lossDemoteConsecutive.getD defaults.lossDemoteConsecutive
    minActivePlanes := spec.minActivePlanes
    rttRingSize := spec.rttRingSize.getD defaults.rttRingSize }

end Orchestrator

end Srv6Fabric.Mrc

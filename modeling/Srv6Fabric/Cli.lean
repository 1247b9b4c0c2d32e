import Srv6Fabric.Mrc.EvState
import Srv6Fabric.PolicySpec

/-!
# The sender's command line

The parsers of `spray --role send`.  An option's value is the argument after its name.
-/

namespace Srv6Fabric.Cli

open Srv6Fabric.Mrc

/-- The text before the newline that `$` may skip. -/
def dollar (text : List Char) : List Char := if text.getLast? = some '\n' then text.dropLast else text

/-- `parse_rate`. -/
def parseRate (text : String) : Except PyError Nat :=
  let digits := text.toList.takeWhile isDecimal
  let rest := text.toList.dropWhile isDecimal
  let unit := (dollar (rest.dropWhile isSpace)).map caseFold
  if digits ≠ [] ∧ (unit ∈ [['p', 'p'], ['p', 'p', 's']] ∨ dollar rest = []) then
    pyInt (String.ofList digits)
  else .error (.argumentTypeError s!"bad --rate: {pyRepr text}")

/-- `parse_duration`.  Lowering ASCII letters is enough: no other letter lowers to one of
a unit. -/
def parseDuration (text : String) : Except PyError PyFloat :=
  let lowered := (strip text).toList.map Char.toLower
  if lowered ∈ [[], ['0'], ['0', 's']] then .ok PyFloat.zero
  else
    let found := decimalMatch lowered
    let unit := dollar found.rest
    if found.whole ≠ [] ∧ unit ∈ [[], ['s'], ['m', 's']] then do
      let seconds ← Yaml.toFloat
        (.scalar (.str (String.ofList (found.whole ++ found.point ++ found.fraction))))
      .ok (if unit = ['m', 's'] then seconds.div1000 else seconds)
    else .error (.argumentTypeError s!"bad --duration: {pyRepr (String.ofList lowered)}")

/-- A policy the sender can spray with. -/
inductive LivePolicy (numPlanes : Nat) where
  | plain (policy : SprayPolicy)
  | healthAwareMrc (table : EVStateTable numPlanes) (tenant : String)

/-- The end of `parse_policy`: the factory is bound to a table of the sender's tenant. -/
def bindPolicy (topo : Topo) (tenant : String) (evConfig : EVStateConfig) :
    SprayPolicy → Except PyError (LivePolicy topo.numPlanes)
  | .healthAwareMrcFactory => do
      let table ← EVStateTable.init [tenant] topo.numPlanes evConfig
      .ok (.healthAwareMrc table tenant)
  | policy => .ok (.plain policy)

/-- `parse_policy`. -/
def parsePolicy (topo : Topo) (tenant : String) (evConfig : EVStateConfig) (text : String) :
    Except PyError (LivePolicy topo.numPlanes) :=
  let chars := (strip text).toList
  if "weighted:".toList.isPrefixOf chars then do
    let weights ← ((chars.drop 9).splitOn ',').mapM fun weight =>
      Yaml.toFloat (.scalar (.str (String.ofList weight)))
    let policy ← policyFromSpec topo
      (.dict [(.str "weighted", .list (weights.map fun weight => .scalar (.float weight)))])
    .ok (.plain policy)
  else do bindPolicy topo tenant evConfig (← policyFromSpec topo (.scalar (.str (strip text))))

/-! ## Arguments -/

/-- The value after an option. -/
def argValue? (argv : List String) (option : String) : Option String :=
  (argv.dropWhile (· ≠ option))[1]?

/-- The parsed options of a sender. -/
structure SendArgs (numPlanes : Nat) where
  dstId : Nat
  rate : Nat
  duration : PyFloat
  policy : LivePolicy numPlanes

def parseSendArgs (topo : Topo) (tenant : String) (evConfig : EVStateConfig)
    (argv : List String) : Except PyError (SendArgs topo.numPlanes) := do
  let some dstText := argValue? argv "--dst-id"
    | .error (.systemExit "spray.py: --dst-id is required for --role send")
  let dstId ← pyInt dstText
  let rate ← parseRate ((argValue? argv "--rate").getD "1000pps")
  let duration ← parseDuration ((argValue? argv "--duration").getD "5s")
  let policy ← parsePolicy topo tenant evConfig
    ((argValue? argv "--policy").getD "round_robin")
  .ok { dstId, rate, duration, policy }

end Srv6Fabric.Cli

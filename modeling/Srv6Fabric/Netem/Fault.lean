import Srv6Fabric.PyStr
import Srv6Fabric.Topo

/-!
# Faults: targets and specs

Parsing of the `target:` and `spec:` strings of `netem.py`.  The three target
patterns are matched on the words of the stripped text: their separators are runs of
white space and their groups hold none.
-/

namespace Srv6Fabric.Netem

/-- One concrete veth endpoint. -/
structure NICTarget where
  container : String
  ifname : String
  deriving DecidableEq, Repr

/-- `NICTarget.__str__`. -/
def NICTarget.str (nic : NICTarget) : String := s!"{nic.container}:{nic.ifname}"

/-! ## Target parsing -/

/-- `_all_hosts`. -/
def allHosts (topo : Topo) : List String :=
  topo.tenants.flatMap fun tenant => (List.range topo.numLeaves).map (Topo.hostName tenant)

/-- A word of one or more decimal digits. -/
def isNumber (word : String) : Bool := word ≠ "" && word.toList.all isDecimal

/-- The two digits of a `(green|yellow)-host(\d{2})` name. -/
def hostDigits? (host : String) : Option String :=
  let rest :=
    if "green-host".toList.isPrefixOf host.toList then some (host.toList.drop 10)
    else if "yellow-host".toList.isPrefixOf host.toList then some (host.toList.drop 11)
    else none
  rest.bind fun digits =>
    if digits.length = 2 && digits.all isDecimal then some (String.ofList digits) else none

def validateHost (topo : Topo) (host : String) : Except PyError Unit :=
  match hostDigits? host with
  | none => .error (.valueError
      s!"host name {pyRepr host} must match '<green|yellow>-host<NN>'")
  | some digits => do
      let idx ← pyInt digits
      if idx < topo.numLeaves then .ok ()
      else .error (.valueError (s!"host name {pyRepr host}: id {idx} out of range "
        ++ s!"0..{(topo.numLeaves : Int) - 1}"))

/-- `parse_target`: the NICs a target covers. -/
def parseTarget (topo : Topo) (target : String) : Except PyError (List NICTarget) :=
  let unrecognized : Except PyError (List NICTarget) :=
    .error (.valueError (s!"unrecognized target {pyRepr target}; expected "
      ++ "'plane N', 'host NAME', or 'host NAME plane N'"))
  match split target with
  | ["plane", number] =>
      if isNumber number then do
        let plane ← pyInt number
        if plane < topo.numPlanes then
          .ok ((allHosts topo).map fun host => ⟨host, Topo.planeNic plane⟩)
        else .error (.valueError (s!"target 'plane {plane}': plane out of range "
          ++ s!"0..{(topo.numPlanes : Int) - 1}"))
      else unrecognized
  | ["host", host, "plane", number] =>
      if isNumber number then do
        let plane ← pyInt number
        validateHost topo host
        if plane < topo.numPlanes then .ok [⟨host, Topo.planeNic plane⟩]
        else .error (.valueError (s!"target '{strip target}': plane out of range "
          ++ s!"0..{(topo.numPlanes : Int) - 1}"))
      else unrecognized
  | ["host", host] => do
      validateHost topo host
      .ok ((List.range topo.numPlanes).map fun plane => ⟨host, Topo.planeNic plane⟩)
  | _ => unrecognized

/-! ## Spec parsing -/

/-- `sorted(_NETEM_ALLOWED_KEYWORDS)`. -/
def netemAllowedKeywords : List String :=
  ["blackhole", "corrupt", "delay", "distribution", "duplicate", "gap", "limit", "loss",
    "normal", "pareto", "paretonormal", "rate", "reorder"]

/-- `_NETEM_TOKEN_RE`, on a word without white space. -/
def netemToken (token : String) : Bool :=
  token.toList.all fun char => char.isAlphanum || char = '.' || char = '%'

/-- `normalize_spec`: the argv tokens of a netem spec. -/
def normalizeSpec (spec : String) : Except PyError (List String) :=
  match split spec with
  | [] => .error (.valueError s!"netem spec must be a non-empty string, got {pyRepr spec}")
  | ["blackhole"] => .ok ["loss", "100%"]
  | first :: rest =>
      match (first :: rest).find? fun token => !netemToken token with
      | some token => .error (.valueError s!"netem spec: bad token {pyRepr token}")
      | none =>
          if netemAllowedKeywords.contains first then .ok (first :: rest)
          else .error (.valueError (s!"netem spec: leading token {pyRepr first} not in "
            ++ pyReprList netemAllowedKeywords))

/-! ## Faults -/

/-- One scenario `faults:` entry; the last three fields are filled by `resolve`. -/
structure Fault where
  target : String
  spec : String
  nics : List NICTarget := []
  tokens : List String := []
  resolved : Bool := false
  deriving DecidableEq, Repr

/-- `Fault.resolve`. -/
def Fault.resolve (topo : Topo) (fault : Fault) : Except PyError Fault := do
  let nics ← parseTarget topo fault.target
  let tokens ← normalizeSpec fault.spec
  .ok { fault with nics, tokens, resolved := true }

example :
    Fault.resolve ⟨2, 1, 1, ["green", "yellow"], "lab"⟩ ⟨"plane 1", "blackhole", [], [], false⟩ =
    .ok ⟨"plane 1", "blackhole", [⟨"green-host00", "eth2"⟩, ⟨"yellow-host00", "eth2"⟩],
      ["loss", "100%"], true⟩ := by
  rfl

end Srv6Fabric.Netem

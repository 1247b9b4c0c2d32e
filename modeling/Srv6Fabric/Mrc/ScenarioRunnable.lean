import Srv6Fabric.Mrc.ScenarioAccepted

/-!
# Runnable scenarios

What the sender needs of a scenario: a rate, a duration that ends, hosts that exist.  The
validator checks these where a value is spelled as a number or an explicit pair, and lets
them pass in other spellings; the exceptions are exactly the ones named here.
-/

namespace Srv6Fabric.Mrc

open Scenario

/-- A flow over existing hosts that sends something and stops. -/
structure FlowSpec.Runnable (topo : Topo) (flow : FlowSpec) : Prop where
  rate : 1 ≤ flow.ratePps.toInt
  duration : flow.durationS.isPositive
  tenant : ∀ pair ∈ flow.pairs, pair.tenant ∈ topo.tenants
  distinct : ∀ pair ∈ flow.pairs, pair.src.toInt ≠ pair.dst.toInt
  hosts : ∀ pair ∈ flow.pairs, 0 ≤ pair.src.toInt ∧ pair.src.toInt < topo.numLeaves ∧
    0 ≤ pair.dst.toInt ∧ pair.dst.toInt < topo.numLeaves

/-- An interface of a host on a plane of the topology. -/
def NicExists (topo : Topo) (nic : Netem.NICTarget) : Prop :=
  nic.container ∈ Netem.allHosts topo ∧ ∃ plane < topo.numPlanes, nic.ifname = Topo.planeNic plane

/-- The fault's target covers existing interfaces only. -/
def FaultSpec.Runnable (topo : Topo) (fault : FaultSpec) : Prop :=
  ∃ nics, Netem.parseTarget topo fault.target = .ok nics ∧ ∀ nic ∈ nics, NicExists topo nic

structure Scenario.Runnable (topo : Topo) (scenario : Scenario) : Prop where
  flows : ∀ flow ∈ scenario.flows, flow.Runnable topo
  faults : ∀ fault ∈ scenario.faults, fault.Runnable topo

namespace Scenario

/-! ## The spellings that slip through -/

/-- A rate text whose number is zero. -/
def zeroRate : Yaml → Bool
  | .scalar (.str text) =>
      match rateMatch text with
      | some digits => digits.all fun digit => decimalValue? digit = some 0
      | none => false
  | _ => false

/-- A duration text whose number of seconds rounds to zero. -/
def vanishingDuration : Yaml → Bool
  | .scalar (.str text) =>
      match durationMatch text with
      | some (found, unit) =>
          PyFloat.decimalNumber found.whole found.fraction ≤
            (if isMillis unit then 1001 / 2 else 1 / 2) * (2 : ℚ) ^ (-1074 : Int)
      | none => false
  | _ => false

/-- The leaves a named pair set needs; the pairs of an explicit list are checked. -/
def leavesNeeded : Yaml → Nat
  | .scalar (.str name) => if name = "green-pairs-4" ∨ name = "yellow-pairs-4" then 8 else 16
  | _ => 0

/-- A target that does not spell a host's number with digits of another script. -/
def asciiTarget : Yaml → Bool
  | .scalar (.str text) =>
      match split text with
      | "host" :: host :: _ => host.toList.all fun char => char.toNat < 128
      | _ => true
  | _ => true

/-- The condition on one entry of `flows:`. -/
structure SoundFlow (topo : Topo) (flow : Yaml) : Prop where
  rate : zeroRate (field "rate" flow) = false
  duration : vanishingDuration (field "duration" flow) = false
  pairs : leavesNeeded (field "pairs" flow) ≤ topo.numLeaves

/-! ## Rates -/

theorem rateMatch_eq {text : String} {digits : List Char} (matched : rateMatch text = some digits) :
    digits ≠ [] ∧ ∀ char ∈ digits, isDecimal char := by
  unfold rateMatch at matched
  dsimp only at matched
  split at matched
  · next fits =>
    rw [← Option.some.inj matched]
    exact ⟨fits.1, fun char mem => List.mem_takeWhile_imp mem⟩
  · cases matched

theorem parseRate_ok {path : String} {value : Yaml} {rate : PyInt}
    (parsed : parseRate path value = .ok rate) : 1 ≤ rate.toInt ↔ zeroRate value = false := by
  unfold parseRate at parsed
  split at parsed
  · next number isNumber =>
    split at parsed
    · next positive =>
      obtain rfl := Except.ok.inj parsed
      refine iff_of_true positive ?_
      unfold zeroRate
      split
      · cases isNumber
      · rfl
    · exact absurd parsed refuse_ne_ok
  · next text noNumber =>
    split at parsed
    · next digits matched =>
      obtain ⟨n, converted, rateEq⟩ := bind_eq_ok parsed
      obtain rfl := Except.ok.inj rateEq
      rw [zeroRate, matched]
      have zero := (pyInt_eq_ok converted).2
      rw [PyInt.toInt, ← Bool.not_eq_true, List.all_eq_true]
      simp only [decide_eq_true_eq]
      rw [← zero]
      omega
    · exact absurd parsed refuse_ne_ok
  · exact absurd parsed refuse_ne_ok

/-! ## Durations -/

/-- The number of a matched duration as a float. -/
theorem toFloat_durationMatch {text : String} {found : DecimalMatch} {unit : List Char}
    (matched : durationMatch text = some (found, unit)) :
    Yaml.toFloat (.scalar (.str (String.ofList (found.whole ++ found.point ++ found.fraction)))) =
      .ok (PyFloat.round (PyFloat.decimalNumber found.whole found.fraction)) := by
  unfold durationMatch at matched
  dsimp only at matched
  split at matched
  · next fits =>
    obtain ⟨rfl, rfl⟩ := Prod.mk.inj (Option.some.inj matched)
    obtain ⟨decimal, pointed⟩ := decimalMatch_spec (text.toList.dropWhile isSpace)
    rw [Yaml.toFloat, PyFloat.ofText_decimal fits.1 decimal pointed]
  · cases matched

theorem isPositive_ofInt {n : Int} (positive : 0 < n) {seconds : PyFloat}
    (converted : PyFloat.ofInt n = .ok seconds) : seconds.isPositive := by
  have past : (PyFloat.round n).isPositive := by
    rw [PyFloat.isPositive_round (by exact_mod_cast positive.le)]
    calc (1 / 2 : ℚ) * 2 ^ (-1074 : Int) ≤ 1 / 2 * 1 :=
          mul_le_mul_of_nonneg_left (zpow_le_one_of_nonpos₀ one_le_two (by norm_num)) (by norm_num)
      _ < 1 := by norm_num
      _ ≤ n := by exact_mod_cast positive
  rwa [← PyFloat.round_of_ofInt converted]

theorem parseDuration_ok {path : String} {value : Yaml} {duration : PyFloat}
    (parsed : parseDuration path value = .ok duration) :
    duration.isPositive ↔ vanishingDuration value = false := by
  unfold parseDuration at parsed
  dsimp only at parsed
  split at parsed
  · split at parsed
    · next positive => exact iff_of_true (isPositive_ofInt positive parsed) rfl
    · exact absurd parsed refuse_ne_ok
  · split at parsed
    · exact iff_of_true (isPositive_ofInt one_pos parsed) rfl
    · exact absurd parsed refuse_ne_ok
  · split at parsed
    · next positive =>
      rw [← Except.ok.inj parsed]
      exact iff_of_true positive rfl
    · exact absurd parsed refuse_ne_ok
  · next text =>
    split at parsed
    · next found unit matched =>
      rw [vanishingDuration, matched]
      dsimp only
      rw [toFloat_durationMatch matched] at parsed
      obtain rfl := Except.ok.inj parsed
      have nonneg : 0 ≤ PyFloat.decimalNumber found.whole found.fraction := by
        unfold PyFloat.decimalNumber
        positivity
      split_ifs with millis
      · rw [PyFloat.isPositive_div1000 nonneg, decide_eq_false_iff_not, not_le]
      · rw [PyFloat.isPositive_round nonneg, decide_eq_false_iff_not, not_le]
    · exact absurd parsed refuse_ne_ok
  · exact absurd parsed refuse_ne_ok

/-! ## Pairs -/

/-- A pair of different existing hosts of a known tenant. -/
def PairExists (topo : Topo) (pair : FlowPair) : Prop :=
  pair.tenant ∈ topo.tenants ∧ pair.src.toInt ≠ pair.dst.toInt ∧
    0 ≤ pair.src.toInt ∧ pair.src.toInt < topo.numLeaves ∧
    0 ≤ pair.dst.toInt ∧ pair.dst.toInt < topo.numLeaves

theorem requireHostId_ok {topo : Topo} {entries : Entries} {path name : String} {number : PyInt}
    (required : requireHostId topo entries path name = .ok number) :
    0 ≤ number.toInt ∧ number.toInt < topo.numLeaves := by
  obtain ⟨value, -, checked⟩ := bind_eq_ok required
  dsimp only at checked
  split at checked
  · next found _ =>
    split at checked
    · next inRange => rwa [← Except.ok.inj checked]
    · exact absurd checked refuse_ne_ok
  · exact absurd checked refuse_ne_ok

theorem requireChoice_ok {entries : Entries} {path name choice : String} {choices : List String}
    (required : requireChoice entries path name choices = .ok choice) : choice ∈ choices := by
  obtain ⟨value, -, checked⟩ := bind_eq_ok required
  dsimp only at checked
  split at checked
  · next text =>
    split at checked
    · next known =>
      rw [← Except.ok.inj checked]
      exact List.contains_iff_mem.mp known
    · exact absurd checked refuse_ne_ok
  · exact absurd checked refuse_ne_ok

theorem pairEntry_ok {topo : Topo} {path : String} {value : Yaml} {pair : FlowPair}
    (accepted : pairEntry topo path value = .ok pair) : PairExists topo pair := by
  unfold pairEntry at accepted
  split at accepted
  · next entries =>
    obtain ⟨-, -, afterKeys⟩ := bind_eq_ok accepted
    obtain ⟨tenant, tenantOk, afterTenant⟩ := bind_eq_ok afterKeys
    obtain ⟨src, srcOk, afterSrc⟩ := bind_eq_ok afterTenant
    obtain ⟨dst, dstOk, afterDst⟩ := bind_eq_ok afterSrc
    split at afterDst
    · exact absurd afterDst fail_ne_ok
    · next distinct =>
      obtain rfl := Except.ok.inj afterDst
      obtain ⟨srcLow, srcHigh⟩ := requireHostId_ok srcOk
      obtain ⟨dstLow, dstHigh⟩ := requireHostId_ok dstOk
      exact ⟨requireChoice_ok tenantOk, distinct, srcLow, srcHigh, dstLow, dstHigh⟩
  · exact absurd accepted fail_ne_ok

/-- What holds of each accepted item holds of the list. -/
theorem atIndices_ok {α : Type} {path : String} {check : String → Yaml → Except PyError α}
    {items : List Yaml} {values : List α} (accepted : atIndices path check items = .ok values)
    {holds : α → Prop} {condition : Yaml → Prop}
    (each : ∀ itemPath item value, check itemPath item = .ok value →
      (holds value ↔ condition item)) :
    (∀ value ∈ values, holds value) ↔ ∀ item ∈ items, condition item := by
  have pointwise := mapM_eq_ok accepted
  rw [← List.zipIdx_map_fst 0 items, List.forall_mem_map]
  clear accepted
  generalize items.zipIdx = indexed at pointwise ⊢
  induction pointwise with
  | nil => simp
  | cons checked _ ih =>
      rw [List.forall_mem_cons, List.forall_mem_cons]
      exact and_congr (each _ _ _ checked) ih

section Topology

variable {topo : Topo}
  (known : ∀ tenant, tenant ∈ topo.tenants ↔ tenant = "green" ∨ tenant = "yellow")
include known

/-- A named set lies within the topology when it has the leaves. -/
theorem namedPairSets_exist {name : String} {pairs : List FlowPair}
    (mem : (name, pairs) ∈ namedPairSets) :
    (∀ pair ∈ pairs, PairExists topo pair) ↔
      leavesNeeded (.scalar (.str name)) ≤ topo.numLeaves := by
  simp only [namedPairSets, List.mem_cons, Prod.mk.injEq, List.not_mem_nil, or_false] at mem
  rcases mem with ⟨rfl, rfl⟩ | ⟨rfl, rfl⟩ | ⟨rfl, rfl⟩ | ⟨rfl, rfl⟩ | ⟨rfl, rfl⟩ | ⟨rfl, rfl⟩ <;>
  · simp [pairsOf, referencePairs, referencePairs4, PairExists, known, leavesNeeded, PyInt.toInt]
    omega

theorem resolvePairs_ok {path : String} {value : Yaml} {pairs : List FlowPair}
    (resolved : resolvePairs topo path value = .ok pairs) :
    (∀ pair ∈ pairs, PairExists topo pair) ↔ leavesNeeded value ≤ topo.numLeaves := by
  unfold resolvePairs at resolved
  split at resolved
  · next name =>
    split at resolved
    · next setName set found =>
      obtain rfl := Except.ok.inj resolved
      obtain rfl : setName = name := by simpa using List.find?_some found
      exact namedPairSets_exist known (List.mem_of_find?_eq_some found)
    · exact absurd resolved fail_ne_ok
  · next items =>
    split at resolved
    · exact absurd resolved fail_ne_ok
    · have every : (∀ pair ∈ pairs, PairExists topo pair) ↔ ∀ item ∈ items, True :=
        atIndices_ok resolved fun _ _ _ accepted => iff_true_intro (pairEntry_ok accepted)
      exact iff_of_true (every.mpr fun _ _ => trivial) (Nat.zero_le _)
  · exact absurd resolved fail_ne_ok

theorem validateFlow_ok {path : String} {value : Yaml} {flow : FlowSpec}
    (accepted : validateFlow topo path value = .ok flow) :
    flow.Runnable topo ↔ SoundFlow topo value := by
  have parts := acceptedFlow accepted
  have pairsIff := resolvePairs_ok known parts.pairs
  have rateIff := parseRate_ok parts.rate
  have durationIff := parseDuration_ok parts.duration
  constructor
  · rintro ⟨rate, duration, tenant, distinct, hosts⟩
    exact ⟨rateIff.mp rate, durationIff.mp duration, pairsIff.mp fun pair mem =>
      ⟨tenant pair mem, distinct pair mem, hosts pair mem⟩⟩
  · rintro ⟨rate, duration, pairs⟩
    have exist := pairsIff.mpr pairs
    exact ⟨rateIff.mpr rate, durationIff.mpr duration, fun pair mem => (exist pair mem).1,
      fun pair mem => (exist pair mem).2.1, fun pair mem => (exist pair mem).2.2⟩

end Topology

/-! ## Fault targets -/

/-- The characters of a text are ASCII. -/
def Ascii (text : String) : Prop := ∀ char ∈ text.toList, char.toNat < 128

theorem isDigit_of_ascii {char : Char} (decimal : isDecimal char) (ascii : char.toNat < 128) :
    ∃ value : Fin 10, char = (value : Nat).digitChar := by
  obtain ⟨value, valueEq⟩ := Option.isSome_iff_exists.mp decimal
  obtain ⟨first, found, rfl⟩ := Option.map_eq_some_iff.mp valueEq
  have inside := List.find?_some found
  simp only [Bool.and_eq_true, decide_eq_true_eq] at inside
  have starts : ∀ start ∈ decimalZeros, start = 48 ∨ 128 ≤ start := by decide
  rcases starts first (List.mem_of_find?_eq_some found) with rfl | past
  · have small : char.toNat - 48 < 10 := by omega
    refine ⟨⟨char.toNat - 48, small⟩, Char.toNat_inj.mp ?_⟩
    change char.toNat = (char.toNat - 48).digitChar.toNat
    rw [Nat.toNat_digitChar_of_lt_ten small]
    omega
  · omega

theorem twoDigits_pair (tens units : Fin 10) :
    (Topo.twoDigits (10 * tens + units)).toList =
        [(tens : Nat).digitChar, (units : Nat).digitChar] ∧
      pyInt (String.ofList [(tens : Nat).digitChar, (units : Nat).digitChar]) =
        .ok (10 * tens + units) := by
  revert tens units
  decide

theorem ascii_toDigits {number : Nat} {char : Char} (mem : char ∈ Nat.toDigits 10 number) :
    char.toNat < 128 := by
  have digit : char.isDigit := Nat.isDigit_of_mem_toDigits (by decide) (by decide) mem
  obtain ⟨small, same⟩ := PyFloat.digitChar_of_isDigit digit
  rw [← same, Nat.toNat_digitChar_of_lt_ten small]
  omega

theorem ascii_twoDigits (number : Nat) : Ascii (Topo.twoDigits number) := by
  intro char mem
  unfold Topo.twoDigits at mem
  split at mem
  · simp at mem
    rcases mem with leading | digit
    · rw [List.mem_singleton.mp (show char ∈ ['0'] from leading)]
      decide
    · exact ascii_toDigits digit
  · simp at mem
    exact ascii_toDigits mem

theorem hostDigits?_eq {host digits : String} (matched : Netem.hostDigits? host = some digits) :
    ∃ tenant tens units, (tenant = "green" ∨ tenant = "yellow") ∧
      host.toList = tenant.toList ++ "-host".toList ++ [tens, units] ∧
      digits = String.ofList [tens, units] ∧ isDecimal tens ∧ isDecimal units := by
  unfold Netem.hostDigits? at matched
  dsimp only at matched
  obtain ⟨rest, prefixed, checked⟩ := Option.bind_eq_some_iff.mp matched
  obtain ⟨two, digitsEq⟩ := Option.ite_none_right_eq_some.mp checked
  obtain rfl := Option.some.inj digitsEq
  rw [Bool.and_eq_true, decide_eq_true_eq] at two
  obtain ⟨tens, units, rfl⟩ := List.length_eq_two.mp two.1
  have decimal := List.all_eq_true.mp two.2
  have parts : ∃ tenant, (tenant = "green" ∨ tenant = "yellow") ∧
      host.toList = tenant.toList ++ "-host".toList ++ [tens, units] := by
    split at prefixed
    · next green =>
      obtain ⟨tail, whole⟩ := List.isPrefixOf_iff_prefix.mp green
      have tailEq := Option.some.inj prefixed
      rw [← whole] at tailEq ⊢
      refine ⟨"green", Or.inl rfl, ?_⟩
      rw [← tailEq]
      rfl
    · split at prefixed
      · next yellow =>
        obtain ⟨tail, whole⟩ := List.isPrefixOf_iff_prefix.mp yellow
        have tailEq := Option.some.inj prefixed
        rw [← whole] at tailEq ⊢
        refine ⟨"yellow", Or.inr rfl, ?_⟩
        rw [← tailEq]
        rfl
      · cases prefixed
  obtain ⟨tenant, named, hostEq⟩ := parts
  exact ⟨tenant, tens, units, named, hostEq, rfl, decimal tens (by simp), decimal units (by simp)⟩

theorem toList_hostName (tenant : String) (number : Nat) :
    (Topo.hostName tenant number).toList =
      tenant.toList ++ "-host".toList ++ (Topo.twoDigits number).toList := by
  change (tenant ++ "-host" ++ Topo.twoDigits number).toList = _
  rw [String.toList_append, String.toList_append]

theorem mem_allHosts {topo : Topo} {host : String} :
    host ∈ Netem.allHosts topo ↔
      ∃ tenant ∈ topo.tenants, ∃ number < topo.numLeaves, Topo.hostName tenant number = host := by
  simp [Netem.allHosts]

section Topology

variable {topo : Topo}
  (known : ∀ tenant, tenant ∈ topo.tenants ↔ tenant = "green" ∨ tenant = "yellow")
include known

/-- A host name that passes the check names a host when its digits are ASCII. -/
theorem mem_allHosts_of_validated {host : String} (validated : Netem.validateHost topo host = .ok ()) :
    host ∈ Netem.allHosts topo ↔ Ascii host := by
  unfold Netem.validateHost at validated
  split at validated
  · cases validated
  · next digits matched =>
    obtain ⟨idx, converted, bounded⟩ := bind_eq_ok validated
    obtain ⟨tenant, tens, units, named, hostEq, rfl, tensDecimal, unitsDecimal⟩ :=
      hostDigits?_eq matched
    rw [mem_allHosts]
    constructor
    · rintro ⟨owner, owned, number, -, rfl⟩ char mem
      rw [toList_hostName, List.mem_append, List.mem_append] at mem
      rcases mem with (inTenant | inHost) | inDigits
      · rcases (known owner).mp owned with rfl | rfl
        · exact (forall_mem_of_all rfl : Ascii "green") char inTenant
        · exact (forall_mem_of_all rfl : Ascii "yellow") char inTenant
      · exact (forall_mem_of_all rfl : Ascii "-host") char inHost
      · exact ascii_twoDigits number char inDigits
    · intro ascii
      unfold Ascii at ascii
      rw [hostEq] at ascii
      obtain ⟨x, rfl⟩ := isDigit_of_ascii tensDecimal (ascii tens (by simp))
      obtain ⟨y, rfl⟩ := isDigit_of_ascii unitsDecimal (ascii units (by simp))
      obtain ⟨spelled, value⟩ := twoDigits_pair x y
      obtain rfl := Except.ok.inj (converted.symm.trans value)
      split at bounded
      · next inRange =>
        refine ⟨tenant, (known tenant).mpr named, _, inRange, String.toList_inj.mp ?_⟩
        rw [toList_hostName, spelled, hostEq]
      · cases bounded

theorem parseTarget_ok (planes : 1 ≤ topo.numPlanes) {target : String}
    {nics : List Netem.NICTarget} (parsed : Netem.parseTarget topo target = .ok nics) :
    (∀ nic ∈ nics, NicExists topo nic) ↔ asciiTarget (.scalar (.str target)) := by
  unfold Netem.parseTarget at parsed
  rw [asciiTarget]
  dsimp only at parsed
  split at parsed
  · next number words =>
    rw [words]
    split at parsed
    · obtain ⟨plane, -, checked⟩ := bind_eq_ok parsed
      split at checked
      · next inRange =>
        rw [← Except.ok.inj checked]
        refine iff_of_true (fun nic mem => ?_) rfl
        obtain ⟨host, hostMem, rfl⟩ := List.mem_map.mp mem
        exact ⟨hostMem, plane, inRange, rfl⟩
      · cases checked
    · cases parsed
  · next host number words =>
    rw [words]
    split at parsed
    · obtain ⟨plane, -, afterPlane⟩ := bind_eq_ok parsed
      obtain ⟨_, validated, checked⟩ := bind_eq_ok afterPlane
      split at checked
      · next inRange =>
        rw [← Except.ok.inj checked, List.forall_mem_singleton, NicExists,
          mem_allHosts_of_validated known validated]
        simp only [List.all_eq_true, decide_eq_true_eq]
        exact and_iff_left ⟨plane, inRange, rfl⟩
      · cases checked
    · cases parsed
  · next host words =>
    rw [words]
    obtain ⟨_, validated, built⟩ := bind_eq_ok parsed
    rw [← Except.ok.inj built, List.forall_mem_map]
    simp only [List.all_eq_true, decide_eq_true_eq]
    change _ ↔ Ascii host
    rw [← mem_allHosts_of_validated known validated]
    constructor
    · intro every
      exact (every 0 (List.mem_range.mpr planes)).1
    · intro mem plane inRange
      exact ⟨mem, plane, List.mem_range.mp inRange, rfl⟩
  · cases parsed

theorem validateFault_ok (planes : 1 ≤ topo.numPlanes) {path : String} {value : Yaml}
    {fault : FaultSpec} (accepted : validateFault topo path value = .ok fault) :
    fault.Runnable topo ↔ asciiTarget (field "target" value) := by
  unfold validateFault at accepted
  split at accepted
  · next entries =>
    obtain ⟨-, -, afterKeys⟩ := bind_eq_ok accepted
    obtain ⟨kind, -, afterKind⟩ := bind_eq_ok afterKeys
    dsimp only at afterKind
    split at afterKind
    · obtain ⟨_, failed, -⟩ := bind_eq_ok afterKind
      exact absurd failed fail_ne_ok
    · obtain ⟨target, targetOk, afterTarget⟩ := bind_eq_ok afterKind
      obtain ⟨spec, -, afterSpec⟩ := bind_eq_ok afterTarget
      obtain ⟨nics, nicsOk, afterNics⟩ := bind_eq_ok afterSpec
      obtain ⟨tokens, -, built⟩ := bind_eq_ok afterNics
      obtain rfl := Except.ok.inj built
      have parsed := atPath_ok nicsOk
      rw [requireStr_ok targetOk, ← parseTarget_ok known planes parsed]
      constructor
      · rintro ⟨others, parsedAgain, exist⟩
        obtain rfl := Except.ok.inj (parsed.symm.trans parsedAgain)
        exact exist
      · intro exist
        exact ⟨nics, parsed, exist⟩
  · exact absurd accepted fail_ne_ok

end Topology

/-! ## Accepted documents -/

/-- An accepted document makes a runnable scenario exactly when no flow has a rate text of
zero, a duration text that rounds to zero or a named pair set larger than the topology, and
no fault spells a host's number with digits of another script. -/
theorem runnable_iff {topo : Topo}
    (tenants : ∀ tenant, tenant ∈ topo.tenants ↔ tenant = "green" ∨ tenant = "yellow")
    (planes : 1 ≤ topo.numPlanes) {doc : Yaml} {scenario : Scenario}
    (accepted : validate topo doc = .ok scenario) :
    scenario.Runnable topo ↔
      (∀ flow ∈ items (field "flows" doc), SoundFlow topo flow) ∧
        ∀ fault ∈ items (field "faults" doc), asciiTarget (field "target" fault) := by
  obtain ⟨entries, rfl, parts⟩ := acceptedDocument accepted
  have flowsIff : (∀ flow ∈ scenario.flows, flow.Runnable topo) ↔
      ∀ item ∈ items (field "flows" (.dict entries)), SoundFlow topo item :=
    atIndices_ok parts.flows fun _ _ _ => validateFlow_ok tenants
  have faultsIff : (∀ fault ∈ scenario.faults, fault.Runnable topo) ↔
      ∀ item ∈ items (field "faults" (.dict entries)), asciiTarget (field "target" item) :=
    atIndices_ok parts.faults fun _ _ _ => validateFault_ok tenants planes
  constructor
  · rintro ⟨flowsRun, faultsRun⟩
    exact ⟨flowsIff.mp flowsRun, faultsIff.mp faultsRun⟩
  · rintro ⟨flowsSound, faultsSound⟩
    exact ⟨flowsIff.mpr flowsSound, faultsIff.mpr faultsSound⟩

/-- A document of one round-robin flow. -/
def oneFlow (pairs rate duration : String) : Yaml :=
  .dict [(.str "name", .scalar (.str "smoke")), (.str "flows", .list [.dict [
    (.str "pairs", .scalar (.str pairs)), (.str "policy", .scalar (.str "round_robin")),
    (.str "rate", .scalar (.str rate)), (.str "duration", .scalar (.str duration))]])]

/-- The four pairs that fit the smaller topology. -/
theorem runnable_on_two_planes :
    ∃ scenario, validate Topo.twoPlanes (oneFlow "green-pairs-4" "1000pps" "500ms") = .ok scenario ∧
      scenario.Runnable Topo.twoPlanes := by
  obtain ⟨scenario, accepted⟩ : ∃ scenario, validate Topo.twoPlanes
      (oneFlow "green-pairs-4" "1000pps" "500ms") = .ok scenario := ⟨_, rfl⟩
  refine ⟨scenario, accepted, (runnable_iff (by simp [Topo.twoPlanes]) (by decide) accepted).mpr
    ⟨fun flow mem => ?_, by rintro fault ⟨⟩⟩⟩
  obtain rfl := List.mem_singleton.mp mem
  exact ⟨rfl, by decide +kernel, by decide⟩

/-- The eight pairs of the default topology are accepted on the smaller one. -/
theorem named_set_past_the_leaves :
    ∃ scenario, validate Topo.twoPlanes (oneFlow "green-pairs-8" "1000pps" "500ms") = .ok scenario ∧
      ¬ scenario.Runnable Topo.twoPlanes := by
  refine ⟨_, rfl, fun runnable => ?_⟩
  have hosts := (runnable.flows _ List.mem_cons_self).hosts ⟨"green", .int 0, .int 15⟩
    List.mem_cons_self
  exact absurd hosts (by decide)

end Scenario

end Srv6Fabric.Mrc

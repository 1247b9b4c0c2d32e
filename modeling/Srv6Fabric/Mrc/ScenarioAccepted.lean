import Srv6Fabric.Mrc.Scenario

/-!
# Accepted scenarios

What an accepted document has been checked for, part by part.
-/

namespace Srv6Fabric.Mrc.Scenario

/-- The value under a key of a mapping. -/
def field (name : String) : Yaml → Yaml
  | .dict entries => (Yaml.get? entries name).getD (.scalar .null)
  | _ => .scalar .null

def items : Yaml → List Yaml
  | .list items => items
  | _ => []

/-! ## Refusals -/

theorem fail_ne_ok {α : Type} {path message : String} {value : α} :
    (fail path message : Except PyError α) ≠ .ok value := by
  rintro ⟨⟩

/-- A refusal prints the value first, and raises either way. -/
theorem refuse_ne_ok {α : Type} {shown : Except PyError String} {path : String}
    {message : String → String} {value : α} :
    (shown >>= fun text => fail path (message text)) ≠ .ok value := by
  intro returned
  obtain ⟨text, -, failed⟩ := bind_eq_ok returned
  exact fail_ne_ok failed

theorem lookup_field {entries : Entries} {name : String} {value : Yaml}
    (found : lookup entries name = .ok value) : value = field name (.dict entries) := by
  unfold lookup at found
  split at found
  · next present =>
    rw [field, present]
    exact (Except.ok.inj found).symm
  · cases found

theorem atPath_ok {α : Type} {path : String} {outcome : Except PyError α} {value : α}
    (returned : atPath path outcome = .ok value) : outcome = .ok value := by
  unfold atPath at returned
  split at returned
  · cases returned
  · exact returned

theorem requireStr_ok {entries : Entries} {path name text : String}
    (required : requireStr entries path name = .ok text) :
    field name (.dict entries) = .scalar (.str text) := by
  obtain ⟨value, found, checked⟩ := bind_eq_ok required
  rw [← lookup_field found]
  split at checked
  · split at checked
    · exact absurd checked fail_ne_ok
    · rw [Except.ok.inj checked]
  · exact absurd checked fail_ne_ok

/-! ## Parts of a document -/

theorem flowItems_ok {entries : Entries} {flows : List Yaml}
    (found : flowItems entries = .ok flows) : flows = items (field "flows" (.dict entries)) := by
  obtain ⟨value, present, checked⟩ := bind_eq_ok found
  rw [← lookup_field present]
  split at checked
  · split at checked
    · exact absurd checked fail_ne_ok
    · exact (Except.ok.inj checked).symm
  · exact absurd checked fail_ne_ok

theorem faultItems_ok {entries : Entries} {faults : List Yaml}
    (found : faultItems entries = .ok faults) : faults = items (field "faults" (.dict entries)) := by
  unfold faultItems at found
  rw [field]
  split at found
  · next absent =>
    rw [absent]
    exact (Except.ok.inj found).symm
  · next listed present =>
    rw [present]
    exact (Except.ok.inj found).symm
  · next value notList present =>
    rw [present]
    split at found
    · exact absurd found fail_ne_ok
    · rw [← Except.ok.inj found]
      cases value with
      | list listed => exact absurd rfl (notList listed)
      | scalar _ => rfl
      | dict _ => rfl

/-! ## What has been checked -/

structure AcceptedFlow (topo : Topo) (path : String) (value : Yaml) (flow : FlowSpec) : Prop where
  pairs : resolvePairs topo s!"{path}.pairs" (field "pairs" value) = .ok flow.pairs
  policy : ∃ policy, policyFromSpec topo flow.policySpec = .ok policy
  rate : parseRate s!"{path}.rate" (field "rate" value) = .ok flow.ratePps
  duration : parseDuration s!"{path}.duration" (field "duration" value) = .ok flow.durationS

theorem acceptedFlow {topo : Topo} {path : String} {value : Yaml} {flow : FlowSpec}
    (accepted : validateFlow topo path value = .ok flow) : AcceptedFlow topo path value flow := by
  unfold validateFlow at accepted
  split at accepted
  · next entries =>
    obtain ⟨-, -, afterKeys⟩ := bind_eq_ok accepted
    obtain ⟨pairsValue, pairsFound, afterPairsValue⟩ := bind_eq_ok afterKeys
    obtain ⟨pairs, pairsOk, afterPairs⟩ := bind_eq_ok afterPairsValue
    obtain ⟨policySpec, -, afterSpec⟩ := bind_eq_ok afterPairs
    obtain ⟨policy, policyOk, afterPolicy⟩ := bind_eq_ok afterSpec
    obtain ⟨rateValue, rateFound, afterRateValue⟩ := bind_eq_ok afterPolicy
    obtain ⟨rate, rateOk, afterRate⟩ := bind_eq_ok afterRateValue
    obtain ⟨durationValue, durationFound, afterDurationValue⟩ := bind_eq_ok afterRate
    obtain ⟨duration, durationOk, afterDuration⟩ := bind_eq_ok afterDurationValue
    obtain ⟨label, -, built⟩ := bind_eq_ok afterDuration
    obtain rfl := Except.ok.inj built
    exact ⟨lookup_field pairsFound ▸ pairsOk, ⟨policy, atPath_ok policyOk⟩,
      lookup_field rateFound ▸ rateOk, lookup_field durationFound ▸ durationOk⟩
  · exact absurd accepted fail_ne_ok

structure AcceptedMrc (path : String) (entries : Entries) (spec : MrcSpec) : Prop where
  keys : requireKeys entries path [] (mrcPositiveIntFields ++ mrcRatioFields) = .ok ()
  interval : positiveInt entries path "probe_interval_ms" = .ok spec.probeIntervalMs
  timeout : positiveInt entries path "probe_timeout_ms" = .ok spec.probeTimeoutMs
  window : positiveInt entries path "loss_window_ms" = .ok spec.lossWindowMs
  skew : positiveInt entries path "max_window_skew_ms" = .ok spec.maxWindowSkewMs
  failures : positiveInt entries path "probe_fail_threshold" = .ok spec.probeFailThreshold
  recoveries : positiveInt entries path "probe_recover_threshold" = .ok spec.probeRecoverThreshold
  consecutive : positiveInt entries path "loss_demote_consecutive" = .ok spec.lossDemoteConsecutive
  active : positiveInt entries path "min_active_planes" = .ok spec.minActivePlanes
  ring : positiveInt entries path "rtt_ring_size" = .ok spec.rttRingSize
  loss : ratio entries path "loss_threshold" = .ok spec.lossThreshold

theorem acceptedMrc {path : String} {entries : Entries} {spec : MrcSpec}
    (accepted : validateMrc path (.dict entries) = .ok spec) : AcceptedMrc path entries spec := by
  obtain ⟨_, keysOk, afterKeys⟩ := bind_eq_ok accepted
  obtain ⟨interval, intervalOk, afterInterval⟩ := bind_eq_ok afterKeys
  obtain ⟨timeout, timeoutOk, afterTimeout⟩ := bind_eq_ok afterInterval
  obtain ⟨window, windowOk, afterWindow⟩ := bind_eq_ok afterTimeout
  obtain ⟨skew, skewOk, afterSkew⟩ := bind_eq_ok afterWindow
  obtain ⟨failures, failuresOk, afterFail⟩ := bind_eq_ok afterSkew
  obtain ⟨recover, recoverOk, afterRecover⟩ := bind_eq_ok afterFail
  obtain ⟨consecutive, consecutiveOk, afterConsecutive⟩ := bind_eq_ok afterRecover
  obtain ⟨active, activeOk, afterActive⟩ := bind_eq_ok afterConsecutive
  obtain ⟨ring, ringOk, afterRing⟩ := bind_eq_ok afterActive
  obtain ⟨loss, lossOk, built⟩ := bind_eq_ok afterRing
  obtain rfl := Except.ok.inj built
  exact ⟨keysOk, intervalOk, timeoutOk, windowOk, skewOk, failuresOk, recoverOk, consecutiveOk,
    activeOk, ringOk, lossOk⟩

structure AcceptedDocument (topo : Topo) (entries : Entries) (scenario : Scenario) : Prop where
  flows : atIndices "$.flows" (validateFlow topo) (items (field "flows" (.dict entries))) =
    .ok scenario.flows
  faults : atIndices "$.faults" (validateFault topo) (items (field "faults" (.dict entries))) =
    .ok scenario.faults
  mrc : (Yaml.get? entries "mrc").mapM (validateMrc "$.mrc") = .ok scenario.mrc

theorem acceptedDocument {topo : Topo} {doc : Yaml} {scenario : Scenario}
    (accepted : validate topo doc = .ok scenario) :
    ∃ entries, doc = .dict entries ∧ AcceptedDocument topo entries scenario := by
  unfold validate at accepted
  split at accepted
  · next entries =>
    obtain ⟨-, -, afterKeys⟩ := bind_eq_ok accepted
    obtain ⟨name, -, afterName⟩ := bind_eq_ok afterKeys
    obtain ⟨description, -, afterDescription⟩ := bind_eq_ok afterName
    obtain ⟨flowsRaw, flowsFound, afterFlowsRaw⟩ := bind_eq_ok afterDescription
    obtain ⟨flows, flowsOk, afterFlows⟩ := bind_eq_ok afterFlowsRaw
    obtain ⟨faultsRaw, faultsFound, afterFaultsRaw⟩ := bind_eq_ok afterFlows
    obtain ⟨faults, faultsOk, afterFaults⟩ := bind_eq_ok afterFaultsRaw
    obtain ⟨report, -, afterReport⟩ := bind_eq_ok afterFaults
    obtain ⟨mrc, mrcOk, built⟩ := bind_eq_ok afterReport
    obtain rfl := Except.ok.inj built
    rw [flowItems_ok flowsFound] at flowsOk
    rw [faultItems_ok faultsFound] at faultsOk
    exact ⟨entries, rfl, flowsOk, faultsOk, mrcOk⟩
  · exact absurd accepted fail_ne_ok

end Srv6Fabric.Mrc.Scenario

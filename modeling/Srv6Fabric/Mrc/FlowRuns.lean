import Srv6Fabric.Library.Sorting
import Srv6Fabric.Mrc.EnvConfig

/-!
# Running the flows

`run_flows` starts a receiver on every destination host, then one sender for each flow, and
collects a JSON record of each.  A command that fails costs its record and one line on
stderr.  An exception that is not caught costs all of them, and leaves receivers behind.
-/

namespace Srv6Fabric.Mrc.Orchestrator

open Library

/-! ## Subprocesses -/

/-- How `subprocess.run` ends.  After a timeout, what the child has written is there as bytes,
whatever `text` says, or as `None` where it has written nothing. -/
inductive Ran where
  | exited (rc : Int) (stdout stderr : String)
  | timedOut (stdout stderr : Option (List UInt8))
  | raised (error : PyError)

/-- How `communicate` of a receiver ends; after a timeout it is killed and asked again. -/
inductive Drained where
  | exited (rc : Int) (stdout stderr : String)
  | timedOut (stderr : String)
  | raised (error : PyError)

/-- What `docker` does: with the command of a receiver, with that of the sender of the flow at
some place, and with the receiver of a host when it is waited for. -/
structure Docker where
  popen : List String → Option PyError
  run : Nat → List String → Ran
  communicate : String → Drained

/-- The command line of `docker_exec` and `docker_exec_async`. -/
def dockerCommand (env : Option (List (String × String))) (container : String) (argv : List String) :
    List String :=
  let sorted := (env.getD []).mergeSort fun first second => first.1 ≤ second.1
  ["docker", "exec"] ++ sorted.flatMap (fun (name, value) => ["-e", name ++ "=" ++ value]) ++
    [container] ++ argv

structure ExecResult where
  rc : Int
  stdout : String
  stderr : String

/-- The result of `docker_exec`.  The stdout of a command that timed out is not read by anyone. -/
def execResult : Ran → Except PyError ExecResult
  | .exited rc stdout stderr => .ok ⟨rc, stdout, stderr⟩
  | .timedOut _ stderr =>
      -- `(e.stderr or "") + "\n[timed out]\n"`, where bytes cannot be added to
      if stderr.getD [] = [] then .ok ⟨-1, "", "\n[timed out]\n"⟩
      else .error (.typeError "can't concat str to bytes")
  | .raised error => .error error

/-! ## One sender, one receiver -/

/-- `text[:200]`. -/
def head200 (text : String) : String := String.ofList (text.toList.take 200)

/-- A line about a sender. -/
def sendFailure (flow : FlowRun) (text : String) : Yaml ⊕ String :=
  .inr (s!"sender {flow.srcHost}->{flow.dstHost} " ++ text)

/-- The body of the loop over the senders' results: a record, or a line about the failure. -/
def collectSender (json : Json) (flow : FlowRun) (res : ExecResult) :
    Except PyError (Yaml ⊕ String) :=
  if res.rc ≠ 0 then .ok (sendFailure flow s!"rc={res.rc} stderr={head200 (strip res.stderr)}")
  else
    match json.loads res.stdout with
    | .ok record => .ok (.inl record)
    | .error (.decode message) =>
        .ok (sendFailure flow s!"bad JSON: {message}: stdout={pyRepr (head200 res.stdout)}")
    | .error (.other error) => .error error

/-- One flow, from `_do_send` to the loop over the results. -/
def sendFlow (docker : Docker) (json : Json) (env : Option (List (String × String)))
    (entry : FlowRun × Nat) : Except PyError (Yaml ⊕ String) := do
  let argv ← sendArgv entry.1
  let res ← execResult (docker.run entry.2 (dockerCommand env entry.1.srcHost argv))
  collectSender json entry.1 res

/-- `_recv_argv`. -/
def recvArgv (idleTimeoutS : PyFloat) (mrc : Bool) : List String :=
  ["spray", "--role", "recv", "--idle-timeout", idleTimeoutS.str ++ "s", "--json"] ++
    if mrc then ["--mrc"] else []

/-- What the loop over the receivers does with one host. -/
def receiveHost (docker : Docker) (json : Json) (dst : String) : Except PyError (Yaml ⊕ String) :=
  match docker.communicate dst with
  | .raised error => .error error
  | .timedOut stderr => .ok (.inr
      s!"receiver on {dst} timed out (killed); stderr={head200 (strip stderr)}")
  | .exited rc stdout stderr =>
      if rc ≠ 0 then .ok (.inr s!"receiver on {dst} rc={rc} stderr={head200 (strip stderr)}")
      else
        let line := strip stdout
        if line = "" then .ok (.inr s!"receiver on {dst}: empty stdout")
        else
          match json.loads line with
          | .ok record => .ok (.inl record)
          | .error (.decode message) => .ok (.inr
              s!"receiver on {dst} bad JSON: {message}: stdout={pyRepr (head200 line)}")
          | .error (.other error) => .error error

/-! ## All flows -/

/-- `sorted({f.dst_host for f in flows})`. -/
def destinations (flows : List FlowRun) : List String :=
  (flows.map FlowRun.dstHost).dedup.mergeSort fun host other => host ≤ other

/-- The loop that spawns the receivers: those that it has spawned, and what stopped it. -/
def spawnAll (popen : String → Option PyError) : List String → List String × Option PyError
  | [] => ([], none)
  | dst :: rest =>
      match popen dst with
      | some error => ([], some error)
      | none =>
          let (spawned, error) := spawnAll popen rest
          (dst :: spawned, error)

/-- What `run_flows` leaves behind: the receivers it has spawned, those that have exited when it
ends, the lines on stderr, and the records or the exception. -/
structure FlowsRun where
  spawned : List String
  reaped : List String
  printed : List String
  result : Except PyError (List Yaml × List Yaml)

def records (outcomes : List (Yaml ⊕ String)) : List Yaml := outcomes.filterMap Sum.getLeft?

def failures (outcomes : List (Yaml ⊕ String)) : List String := outcomes.filterMap Sum.getRight?

/-- The hosts up to the first one whose record raises; all of them have been waited for. -/
def reapedHosts (docker : Docker) (json : Json) : List String → List String
  | [] => []
  | dst :: rest =>
      match receiveHost docker json dst with
      | .ok _ => dst :: reapedHosts docker json rest
      | .error _ => [dst]

/-- `run_flows`. -/
def runFlows (docker : Docker) (json : Json) (idleTimeoutS : PyFloat) (mrc : Option MrcSpec)
    (flows : List FlowRun) : FlowsRun :=
  let dsts := destinations flows
  let env := mrcEnv json mrc
  let argv := recvArgv idleTimeoutS mrc.isSome
  match spawnAll (fun dst => docker.popen (dockerCommand env dst argv)) dsts with
  | (spawned, some error) => ⟨spawned, [], [], .error error⟩
  | (spawned, none) =>
      match flows.zipIdx.mapM (sendFlow docker json env) with
      | .error error => ⟨spawned, [], [], .error error⟩
      | .ok sent =>
          let reaped := reapedHosts docker json spawned
          match spawned.mapM (receiveHost docker json) with
          | .error error => ⟨spawned, reaped, [], .error error⟩
          | .ok received =>
              ⟨spawned, reaped, failures sent ++ failures received,
                .ok (records sent, records received)⟩

/-! ## Accounting -/

theorem mem_destinations {flows : List FlowRun} {host : String} :
    host ∈ destinations flows ↔ ∃ flow ∈ flows, flow.dstHost = host := by
  rw [destinations, List.mem_mergeSort, List.mem_dedup, List.mem_map]

theorem nodup_destinations (flows : List FlowRun) : (destinations flows).Nodup :=
  (List.mergeSort_perm _ _).nodup_iff.mpr (List.nodup_dedup _)

/-- The receivers that are spawned are those before the first failure. -/
theorem spawnAll_cases (popen : String → Option PyError) (dsts : List String) :
    (spawnAll popen dsts = (dsts, none) ∧ ∀ dst ∈ dsts, popen dst = none) ∨
    ∃ spawned dst rest error, spawnAll popen dsts = (spawned, some error) ∧
      dsts = spawned ++ dst :: rest ∧ popen dst = some error := by
  induction dsts with
  | nil => exact Or.inl ⟨rfl, List.forall_mem_nil _⟩
  | cons dst rest ih =>
      rw [spawnAll]
      cases first : popen dst with
      | some error => exact Or.inr ⟨[], dst, rest, error, rfl, rfl, first⟩
      | none =>
          dsimp only
          rcases ih with ⟨ran, all⟩ | ⟨spawned, other, later, error, ran, split, raised⟩
          · rw [ran]
            exact Or.inl ⟨rfl, List.forall_mem_cons.mpr ⟨first, all⟩⟩
          · rw [ran]
            exact Or.inr ⟨dst :: spawned, other, later, error, rfl, by rw [split]; rfl, raised⟩

theorem reapedHosts_of_ok {docker : Docker} {json : Json} {dsts : List String}
    {received : List (Yaml ⊕ String)} (ran : dsts.mapM (receiveHost docker json) = .ok received) :
    reapedHosts docker json dsts = dsts := by
  induction dsts generalizing received with
  | nil => rfl
  | cons dst rest ih =>
      rw [List.mapM_cons] at ran
      obtain ⟨outcome, first, afterFirst⟩ := bind_eq_ok ran
      obtain ⟨later, restRan, -⟩ := bind_eq_ok afterFirst
      rw [reapedHosts, first, ih restRan]

theorem reapedHosts_prefix (docker : Docker) (json : Json) (dsts : List String) :
    reapedHosts docker json dsts <+: dsts := by
  induction dsts with
  | nil => exact List.prefix_rfl
  | cons dst rest ih =>
      rw [reapedHosts]
      cases receiveHost docker json dst with
      | ok _ => exact List.cons_prefix_cons.mpr ⟨rfl, ih⟩
      | error _ => exact List.cons_prefix_cons.mpr ⟨rfl, List.nil_prefix⟩

/-- Of each outcome, either the record or the line. -/
theorem length_records_add_failures (outcomes : List (Yaml ⊕ String)) :
    (records outcomes).length + (failures outcomes).length = outcomes.length := by
  induction outcomes with
  | nil => rfl
  | cons outcome rest ih =>
      rw [List.length_cons, ← ih, records, failures, List.filterMap_cons, List.filterMap_cons]
      cases outcome with
      | inl record => exact Nat.succ_add _ _
      | inr line => rfl

/-- The exceptions that a sender's command can end the run with. -/
theorem sendFlow_raises_iff {docker : Docker} {json : Json} {env : Option (List (String × String))}
    {flow : FlowRun} {index : Nat} {argv : List String} (built : sendArgv flow = .ok argv)
    (error : PyError) :
    sendFlow docker json env (flow, index) = .error error ↔
      match docker.run index (dockerCommand env flow.srcHost argv) with
      | .exited rc stdout _ => rc = 0 ∧ json.loads stdout = .error (.other error)
      | .timedOut _ stderr => stderr.getD [] ≠ [] ∧ error = .typeError "can't concat str to bytes"
      | .raised other => other = error := by
  unfold sendFlow
  rw [bind_of_ok built]
  dsimp only
  cases docker.run index (dockerCommand env flow.srcHost argv) with
  | exited rc stdout stderr =>
      change collectSender json flow ⟨rc, stdout, stderr⟩ = _ ↔ _
      unfold collectSender
      dsimp only
      by_cases failed : rc = 0
      · rw [if_neg (not_not.mpr failed)]
        cases json.loads stdout with
        | ok record => simp
        | error raised => cases raised <;> simp [failed]
      · simp [failed]
  | timedOut stdout stderr =>
      by_cases silent : stderr.getD [] = []
      · simp [execResult, silent, bind, Except.bind, collectSender]
      · simp [execResult, silent, bind, Except.bind, eq_comm]
  | raised other => simp [execResult, bind, Except.bind]

/-- No exception comes out of the three loops. -/
structure Caught (docker : Docker) (json : Json) (idleTimeoutS : PyFloat) (mrc : Option MrcSpec)
    (flows : List FlowRun) : Prop where
  spawned : ∀ dst ∈ destinations flows,
    docker.popen (dockerCommand (mrcEnv json mrc) dst (recvArgv idleTimeoutS mrc.isSome)) = none
  sent : ∀ entry ∈ flows.zipIdx, ∃ outcome,
    sendFlow docker json (mrcEnv json mrc) entry = .ok outcome
  received : ∀ dst ∈ destinations flows, ∃ outcome, receiveHost docker json dst = .ok outcome

section Run

variable (docker : Docker) (json : Json) (idleTimeoutS : PyFloat) (mrc : Option MrcSpec)
  (flows : List FlowRun)

/-- A run ends in the first of its three loops that raises, or goes through all of them. -/
theorem runFlows_cases :
    (∃ spawned dst rest error, destinations flows = spawned ++ dst :: rest ∧
      docker.popen (dockerCommand (mrcEnv json mrc) dst (recvArgv idleTimeoutS mrc.isSome)) =
        some error ∧
      runFlows docker json idleTimeoutS mrc flows = ⟨spawned, [], [], .error error⟩) ∨
    (∀ dst ∈ destinations flows,
      docker.popen (dockerCommand (mrcEnv json mrc) dst (recvArgv idleTimeoutS mrc.isSome)) = none) ∧
    ((∃ error, flows.zipIdx.mapM (sendFlow docker json (mrcEnv json mrc)) = .error error ∧
      runFlows docker json idleTimeoutS mrc flows = ⟨destinations flows, [], [], .error error⟩) ∨
    ∃ sent, flows.zipIdx.mapM (sendFlow docker json (mrcEnv json mrc)) = .ok sent ∧
      ((∃ error, (destinations flows).mapM (receiveHost docker json) = .error error ∧
        runFlows docker json idleTimeoutS mrc flows =
          ⟨destinations flows, reapedHosts docker json (destinations flows), [], .error error⟩) ∨
      ∃ received, (destinations flows).mapM (receiveHost docker json) = .ok received ∧
        runFlows docker json idleTimeoutS mrc flows = ⟨destinations flows, destinations flows,
          failures sent ++ failures received, .ok (records sent, records received)⟩)) := by
  unfold runFlows
  dsimp only
  rcases spawnAll_cases (fun dst => docker.popen (dockerCommand (mrcEnv json mrc) dst
      (recvArgv idleTimeoutS mrc.isSome))) (destinations flows) with
    ⟨ran, all⟩ | ⟨spawned, dst, rest, error, ran, split, raised⟩
  · rw [ran]
    dsimp only
    refine Or.inr ⟨all, ?_⟩
    cases sends : flows.zipIdx.mapM (sendFlow docker json (mrcEnv json mrc)) with
    | error error => exact Or.inl ⟨error, rfl, rfl⟩
    | ok sent =>
        refine Or.inr ⟨sent, rfl, ?_⟩
        dsimp only
        cases receives : (destinations flows).mapM (receiveHost docker json) with
        | error error => exact Or.inl ⟨error, rfl, rfl⟩
        | ok received =>
            refine Or.inr ⟨received, rfl, ?_⟩
            dsimp only
            rw [reapedHosts_of_ok receives]
  · rw [ran]
    exact Or.inl ⟨spawned, dst, rest, error, split, raised, rfl⟩

variable {docker json idleTimeoutS mrc flows}

/-- Every flow and every receiver leaves a record or a line. -/
theorem runFlows_of_caught (caught : Caught docker json idleTimeoutS mrc flows) :
    ∃ sent received,
      List.Forall₂ (fun entry outcome => sendFlow docker json (mrcEnv json mrc) entry = .ok outcome)
        flows.zipIdx sent ∧
      List.Forall₂ (fun dst outcome => receiveHost docker json dst = .ok outcome)
        (destinations flows) received ∧
      runFlows docker json idleTimeoutS mrc flows = ⟨destinations flows, destinations flows,
        failures sent ++ failures received, .ok (records sent, records received)⟩ ∧
      (records sent).length + (failures sent).length = flows.length ∧
      (records received).length + (failures received).length = (destinations flows).length := by
  rcases runFlows_cases docker json idleTimeoutS mrc flows with
    ⟨_, dst, rest, error, split, raised, -⟩ |
    ⟨-, ⟨error, raised, -⟩ | ⟨sent, sends, ⟨error, raised, -⟩ | ⟨received, receives, ran⟩⟩⟩
  · have isDst : dst ∈ destinations flows := by simp [split]
    rw [caught.spawned dst isDst] at raised
    cases raised
  · obtain ⟨sent, sends⟩ := exists_mapM_ok caught.sent
    rw [sends] at raised
    cases raised
  · obtain ⟨received, receives⟩ := exists_mapM_ok caught.received
    rw [receives] at raised
    cases raised
  · have sentPointwise := mapM_eq_ok sends
    have receivedPointwise := mapM_eq_ok receives
    refine ⟨sent, received, sentPointwise, receivedPointwise, ran, ?_, ?_⟩
    · rw [length_records_add_failures, ← sentPointwise.length_eq, List.length_zipIdx]
    · rw [length_records_add_failures, ← receivedPointwise.length_eq]

/-- An exception leaves no record and no line; one from a sender leaves all receivers behind. -/
theorem runFlows_of_escaped (escaped : ¬ Caught docker json idleTimeoutS mrc flows) :
    ∃ spawned reaped error,
      runFlows docker json idleTimeoutS mrc flows = ⟨spawned, reaped, [], .error error⟩ ∧
      reaped <+: spawned ∧ spawned <+: destinations flows ∧
      ∀ before entry after failure, flows.zipIdx = before ++ entry :: after →
        (∀ dst ∈ destinations flows, docker.popen (dockerCommand (mrcEnv json mrc) dst
          (recvArgv idleTimeoutS mrc.isSome)) = none) →
        (∀ earlier ∈ before, ∃ outcome,
          sendFlow docker json (mrcEnv json mrc) earlier = .ok outcome) →
        sendFlow docker json (mrcEnv json mrc) entry = .error failure →
        spawned = destinations flows ∧ reaped = [] ∧ error = failure := by
  rcases runFlows_cases docker json idleTimeoutS mrc flows with
    ⟨spawned, dst, rest, error, split, raised, ran⟩ |
    ⟨all, ⟨error, sends, ran⟩ | ⟨sent, sends, ⟨error, receives, ran⟩ | ⟨received, receives, -⟩⟩⟩
  · refine ⟨spawned, [], error, ran, List.nil_prefix, ⟨dst :: rest, split.symm⟩, ?_⟩
    intro _ _ _ _ _ none_ _ _
    have isDst : dst ∈ destinations flows := by simp [split]
    rw [none_ dst isDst] at raised
    cases raised
  · refine ⟨_, [], error, ran, List.nil_prefix, List.prefix_rfl, ?_⟩
    intro before entry after failure split _ earlier failed
    rw [split, mapM_eq_error earlier failed] at sends
    exact ⟨rfl, rfl, (Except.error.inj sends).symm⟩
  · refine ⟨_, _, error, ran, reapedHosts_prefix docker json _, List.prefix_rfl, ?_⟩
    intro before entry after failure split _ earlier failed
    rw [split, mapM_eq_error earlier failed] at sends
    cases sends
  · exact absurd ⟨all, fun entry => exists_of_mapM sends, fun dst => exists_of_mapM receives⟩ escaped

variable (docker json idleTimeoutS mrc flows)

/-- Each destination has one receiver.  If no exception comes out, all of them have exited, and
each flow and each receiver has left one record or one line on stderr; otherwise there is no
record and no line.  An exception from a sender leaves all receivers behind. -/
theorem run_flows_accounts :
    (destinations flows).Nodup ∧
    (∀ host, host ∈ destinations flows ↔ ∃ flow ∈ flows, flow.dstHost = host) ∧
    (Caught docker json idleTimeoutS mrc flows → ∃ sent received,
      List.Forall₂ (fun entry outcome => sendFlow docker json (mrcEnv json mrc) entry = .ok outcome)
        flows.zipIdx sent ∧
      List.Forall₂ (fun dst outcome => receiveHost docker json dst = .ok outcome)
        (destinations flows) received ∧
      runFlows docker json idleTimeoutS mrc flows = ⟨destinations flows, destinations flows,
        failures sent ++ failures received, .ok (records sent, records received)⟩ ∧
      (records sent).length + (failures sent).length = flows.length ∧
      (records received).length + (failures received).length = (destinations flows).length) ∧
    (¬ Caught docker json idleTimeoutS mrc flows → ∃ spawned reaped error,
      runFlows docker json idleTimeoutS mrc flows = ⟨spawned, reaped, [], .error error⟩ ∧
      reaped <+: spawned ∧ spawned <+: destinations flows ∧
      ∀ before entry after failure, flows.zipIdx = before ++ entry :: after →
        (∀ dst ∈ destinations flows, docker.popen (dockerCommand (mrcEnv json mrc) dst
          (recvArgv idleTimeoutS mrc.isSome)) = none) →
        (∀ earlier ∈ before, ∃ outcome,
          sendFlow docker json (mrcEnv json mrc) earlier = .ok outcome) →
        sendFlow docker json (mrcEnv json mrc) entry = .error failure →
        spawned = destinations flows ∧ reaped = [] ∧ error = failure) :=
  ⟨nodup_destinations flows, fun _ => mem_destinations, runFlows_of_caught, runFlows_of_escaped⟩

end Run

/-- A sender that complains and then hangs. -/
def hungSender : Docker where
  popen _ := none
  run _ _ := .timedOut none (some [33])
  communicate _ := .exited 0 "" ""

def firstToLast : FlowRun where
  srcHost := "green-host00"
  dstHost := "green-host15"
  tenant := "green"
  srcId := .int 0
  dstId := .int 15
  policyCli := "round_robin"
  ratePps := .int 100
  durationS := .zero

/-- What it has written ends the run, and the receiver is left behind. -/
theorem hung_sender_leaves_receiver :
    runFlows hungSender twoTunables .zero none [firstToLast] =
      ⟨["green-host15"], [], [], .error (.typeError "can't concat str to bytes")⟩ := by
  have raises : sendFlow hungSender twoTunables none (firstToLast, 0) =
      .error (.typeError "can't concat str to bytes") :=
    (sendFlow_raises_iff rfl _).mpr ⟨by decide, rfl⟩
  obtain ⟨-, -, -, escaped⟩ := run_flows_accounts hungSender twoTunables .zero none [firstToLast]
  obtain ⟨spawned, reaped, error, ran, -, -, leaves⟩ := escaped fun caught => by
    obtain ⟨outcome, returned⟩ := caught.sent (firstToLast, 0) List.mem_cons_self
    rw [mrcEnv, Option.map_none, raises] at returned
    cases returned
  obtain ⟨rfl, rfl, rfl⟩ := leaves [] (firstToLast, 0) [] _ rfl (fun _ _ => rfl)
    (List.forall_mem_nil _) raises
  rw [ran]
  simp [destinations, firstToLast]

end Srv6Fabric.Mrc.Orchestrator

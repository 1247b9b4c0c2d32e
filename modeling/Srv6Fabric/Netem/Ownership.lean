import Srv6Fabric.Library.StackDiscipline
import Srv6Fabric.Netem.Session

/-!
# A session deletes only what it added

The runner of a `Netem` object may also raise, as `subprocess.run` does when a binary is
missing; the session then stops where it is.  Over any sequence of uses of one object the
adds that returned 0 and the deletions keep a stack discipline, and `_applied` is its
stack.  With a runner that always returns these are the functions of `Session`.
-/

namespace Srv6Fabric.Netem.Raising

open Srv6Fabric.Library

/-- How a runner answers: with a result, or with an exception. -/
abbrev Reply := Except PyError RunResult

/-- Commands and the replies to them, oldest first. -/
abbrev Log := List (Command × Reply)

abbrev Runner := Log → Command → Reply

def Runner.exec (runner : Runner) (log : Log) (command : Command) : Log :=
  log ++ [(command, runner log command)]

/-! ## The session -/

def inspectNames (runner : Runner) (log : Log) : List String → Log × Except PyError (Option Nat)
  | [] => (log, .ok none)
  | name :: rest =>
      let command := Command.dockerInspect name
      let log' := runner.exec log command
      match runner log command >>= pidOf with
      | .error error => (log', .error error)
      | .ok (some pid) => (log', .ok (some pid))
      | .ok none => inspectNames runner log' rest

def resolveContainerPid (runner : Runner) (topo : Topo) (log : Log) (container : String) :
    Log × Except PyError Nat :=
  match inspectNames runner log [container, s!"clab-{topo.clabTopologyName}-{container}"] with
  | (log', .error error) => (log', .error error)
  | (log', .ok (some pid)) => (log', .ok pid)
  | (log', .ok none) => (log', .error (.runtimeError
      (s!"netem: cannot resolve PID for container {pyRepr container} (tried bare and "
        ++ s!"clab-{topo.clabTopologyName}- prefixes). Is the lab up?")))

structure Session where
  applied : List (Nat × String) := []
  log : Log := []

/-- `revert`: an entry is off the stack before its deletion runs. -/
def revertLoop (runner : Runner) (quiet : Bool) (log : Log) (invoked : List Command) :
    List (Nat × String) → Session × Except PyError (List Command)
  | [] => (⟨[], log⟩, .ok invoked)
  | (pid, ifname) :: applied =>
      let command := Command.tcDel pid ifname
      let log' := runner.exec log command
      match runner log command with
      | .error error => (⟨applied, log'⟩, .error error)
      | .ok result =>
          if result.returncode ≠ 0 ∧ quiet = false then
            (⟨applied, log'⟩, .error (.runtimeError
              s!"netem revert failed on pid={pid} dev={ifname}: {formatErr command result}"))
          else revertLoop runner quiet log' (invoked ++ [command]) applied

def revert (runner : Runner) (quiet : Bool) (session : Session) :
    Session × Except PyError (List Command) :=
  revertLoop runner quiet session.log [] session.applied

/-- The inner loop of `apply`; an exception of the cleanup replaces the one it is for. -/
def applyNics (runner : Runner) (topo : Topo) (dryRun : Bool) (tokens : List String)
    (session : Session) (invoked : List Command) :
    List NICTarget → Session × Except PyError (List Command)
  | [] => (session, .ok invoked)
  | nic :: rest =>
      if dryRun then
        applyNics runner topo dryRun tokens session
          (invoked ++ [Command.tcAdd 0 nic.ifname tokens]) rest
      else
        match resolveContainerPid runner topo session.log nic.container with
        | (log, .error error) => ({ session with log }, .error error)
        | (log, .ok pid) =>
            let command := Command.tcAdd pid nic.ifname tokens
            let log' := runner.exec log command
            match runner log command with
            | .error error => (⟨session.applied, log'⟩, .error error)
            | .ok result =>
                if result.returncode ≠ 0 then
                  match revert runner true ⟨session.applied, log'⟩ with
                  | (session', .error error) => (session', .error error)
                  | (session', .ok _) => (session', .error (.runtimeError
                      s!"netem apply failed on {nic.str}: {formatErr command result}"))
                else
                  applyNics runner topo dryRun tokens ⟨(pid, nic.ifname) :: session.applied, log'⟩
                    (invoked ++ [command]) rest

def applyFaults (runner : Runner) (topo : Topo) (dryRun : Bool) (session : Session)
    (invoked : List Command) : List Fault → Session × Except PyError (List Command)
  | [] => (session, .ok invoked)
  | fault :: rest =>
      match fault.ensureResolved topo with
      | .error error => (session, .error error)
      | .ok fault =>
          match applyNics runner topo dryRun fault.tokens session invoked fault.nics with
          | (session', .error error) => (session', .error error)
          | (session', .ok invoked') => applyFaults runner topo dryRun session' invoked' rest

def apply (runner : Runner) (topo : Topo) (dryRun : Bool) (faults : List Fault)
    (session : Session) : Session × Except PyError (List Command) :=
  applyFaults runner topo dryRun session [] faults

/-- One use of a `Netem` object; a `with` block enters and, unless that raised, exits. -/
inductive Use where
  | apply (dryRun : Bool)
  | revert (quiet : Bool)
  | enter
  | exit
  deriving DecidableEq, Repr

/-- The session after a use.  Resolving a fault again gives what its cached view holds, so
every use starts from the same faults. -/
def use (runner : Runner) (topo : Topo) (faults : List Fault) (session : Session) :
    Use → Session
  | .apply dryRun => (apply runner topo dryRun faults session).1
  | .revert quiet => (revert runner quiet session).1
  | .enter => (apply runner topo false faults session).1
  | .exit => (revert runner true session).1

def uses (runner : Runner) (topo : Topo) (faults : List Fault) (requests : List Use) : Session :=
  requests.foldl (use runner topo faults) {}

/-! ## The log replays to the stack -/

/-- What an entry of the log means for the qdiscs of this object. -/
def stackOp : Command × Reply → Option (StackOp (Nat × String))
  | (.tcAdd pid ifname _, .ok result) =>
      if result.returncode = 0 then some (.push (pid, ifname)) else none
  | (.tcDel pid ifname, _) => some (.pop (pid, ifname))
  | _ => none

/-- The successful adds of a log, less the deletions, are the stack. -/
abbrev Accounts (log : Log) (applied : List (Nat × String)) : Prop :=
  StackDiscipline.replay stackOp log = some applied

section Steps

variable {runner : Runner} {log : Log} {applied : List (Nat × String)}

theorem inspectNames_accounts (accounts : Accounts log applied) (names : List String) :
    Accounts (inspectNames runner log names).1 applied := by
  induction names generalizing log with
  | nil => exact accounts
  | cons name rest ih =>
      have one : Accounts (runner.exec log (.dockerInspect name)) applied :=
        StackDiscipline.replay_concat_of_none accounts rfl
      simp only [inspectNames]
      split
      · exact one
      · exact one
      · exact ih one

theorem resolveContainerPid_accounts (accounts : Accounts log applied) (topo : Topo)
    (container : String) :
    Accounts (resolveContainerPid runner topo log container).1 applied := by
  have inspected : Accounts (inspectNames runner log
      [container, s!"clab-{topo.clabTopologyName}-{container}"]).1 applied :=
    inspectNames_accounts accounts _
  unfold resolveContainerPid
  split <;> next found => rw [found] at inspected; exact inspected

/-- Every deletion is of the entry on top. -/
theorem revertLoop_accounts (accounts : Accounts log applied) (quiet : Bool) (invoked : List Command) :
    Accounts (revertLoop runner quiet log invoked applied).1.log
      (revertLoop runner quiet log invoked applied).1.applied := by
  induction applied generalizing log invoked with
  | nil => exact accounts
  | cons entry rest ih =>
      obtain ⟨pid, ifname⟩ := entry
      have popped : Accounts (runner.exec log (.tcDel pid ifname)) rest :=
        StackDiscipline.replay_concat_pop accounts rfl
      simp only [revertLoop]
      split
      · exact popped
      · split
        · exact popped
        · exact ih popped _

theorem revert_accounts {session : Session} (accounts : Accounts session.log session.applied)
    (quiet : Bool) :
    Accounts (revert runner quiet session).1.log (revert runner quiet session).1.applied :=
  revertLoop_accounts accounts quiet []

theorem applyNics_accounts {session : Session} (accounts : Accounts session.log session.applied)
    (topo : Topo) (dryRun : Bool) (tokens : List String) (invoked : List Command)
    (nics : List NICTarget) :
    let session' := (applyNics runner topo dryRun tokens session invoked nics).1
    Accounts session'.log session'.applied := by
  induction nics generalizing session invoked with
  | nil => exact accounts
  | cons nic rest ih =>
      have resolved := @resolveContainerPid_accounts runner _ _ accounts topo nic.container
      simp only [applyNics]
      split
      · exact ih accounts _
      rcases resolution : resolveContainerPid runner topo session.log nic.container with
        ⟨log', error | pid⟩ <;> rw [resolution] at resolved
      · exact resolved
      dsimp only
      set command := Command.tcAdd pid nic.ifname tokens with commandDef
      cases reply : runner log' command with
      | error error =>
          refine StackDiscipline.replay_concat_of_none resolved ?_
          rw [reply, commandDef]
          rfl
      | ok result =>
          dsimp only
          split
          · next refused =>
            have kept : Accounts (runner.exec log' command) session.applied := by
              refine StackDiscipline.replay_concat_of_none resolved ?_
              rw [reply, commandDef]
              exact if_neg refused
            have reverted :=
              @revert_accounts runner ⟨session.applied, runner.exec log' command⟩ kept true
            split <;> next outcome => rw [outcome] at reverted; exact reverted
          · next accepted =>
            refine ih ?_ _
            refine StackDiscipline.replay_concat_push resolved ?_
            rw [reply, commandDef]
            exact if_pos (not_not.mp accepted)

theorem applyFaults_accounts {session : Session} (accounts : Accounts session.log session.applied)
    (topo : Topo) (dryRun : Bool) (invoked : List Command) (faults : List Fault) :
    let session' := (applyFaults runner topo dryRun session invoked faults).1
    Accounts session'.log session'.applied := by
  induction faults generalizing session invoked with
  | nil => exact accounts
  | cons fault rest ih =>
      simp only [applyFaults]
      split
      · exact accounts
      · next fault' _ =>
        have step := @applyNics_accounts runner _ accounts topo dryRun fault'.tokens invoked
          fault'.nics
        split
        · next outcome =>
          rw [outcome] at step
          exact step
        · next invoked' outcome =>
          rw [outcome] at step
          exact ih step invoked'

end Steps

theorem use_accounts {session : Session} (accounts : Accounts session.log session.applied)
    (runner : Runner) (topo : Topo) (faults : List Fault) (request : Use) :
    let session' := use runner topo faults session request
    Accounts session'.log session'.applied := by
  cases request with
  | apply dryRun => exact applyFaults_accounts accounts topo dryRun [] faults
  | revert quiet => exact revert_accounts accounts quiet
  | enter => exact applyFaults_accounts accounts topo false [] faults
  | exit => exact revert_accounts accounts true

theorem uses_accounts (runner : Runner) (topo : Topo) (faults : List Fault) (requests : List Use) :
    let session := uses runner topo faults requests
    Accounts session.log session.applied := by
  intro session
  induction requests using List.reverseRecOn with
  | nil => rfl
  | append_singleton requests request ih =>
      have step : uses runner topo faults (requests ++ [request]) =
          use runner topo faults (uses runner topo faults requests) request := List.foldl_append
      simp only [session, step]
      exact use_accounts ih runner topo faults request

/-! ## Owners in the log -/

def DeletionAt (log : Log) (i : Nat) : Prop :=
  ∃ pid ifname reply, log[i]? = some (.tcDel pid ifname, reply)

def AdditionAt (log : Log) (j : Nat) : Prop :=
  ∃ pid ifname tokens result, log[j]? = some (.tcAdd pid ifname tokens, .ok result) ∧
    result.returncode = 0

/-- Every deletion has a successful add of its own: an earlier one for the same pid and
interface, not the add of any other deletion, and the newest one not deleted yet. -/
structure OwnDeletions (log : Log) (owner : Nat → Nat) : Prop where
  own : ∀ i pid ifname reply, log[i]? = some (.tcDel pid ifname, reply) →
    owner i < i ∧ ∃ tokens result,
      log[owner i]? = some (.tcAdd pid ifname tokens, .ok result) ∧ result.returncode = 0
  once : ∀ i i', DeletionAt log i → DeletionAt log i' → owner i = owner i' → i = i'
  newest : ∀ i, DeletionAt log i → ∀ j, owner i < j → j < i → AdditionAt log j →
    ∃ i' < i, DeletionAt log i' ∧ owner i' = j

theorem stackOp_pop_iff {entry : Command × Reply} {key : Nat × String} :
    stackOp entry = some (.pop key) ↔ entry.1 = .tcDel key.1 key.2 := by
  rcases entry with ⟨command | ⟨pid, ifname, tokens⟩ | ⟨pid, ifname⟩, error | result⟩
  · simp [stackOp]
  · simp [stackOp]
  · simp [stackOp]
  · by_cases accepted : result.returncode = 0 <;> simp [stackOp, accepted]
  · simp [stackOp, Prod.ext_iff]
  · simp [stackOp, Prod.ext_iff]

theorem stackOp_push_iff {entry : Command × Reply} {key : Nat × String} :
    stackOp entry = some (.push key) ↔
      ∃ tokens result, entry = (.tcAdd key.1 key.2 tokens, .ok result) ∧ result.returncode = 0 := by
  rcases entry with ⟨command | ⟨pid, ifname, tokens⟩ | ⟨pid, ifname⟩, error | result⟩
  · simp [stackOp]
  · simp [stackOp]
  · simp [stackOp]
  · by_cases accepted : result.returncode = 0 <;> simp [stackOp, accepted, Prod.ext_iff]
  · simp [stackOp]
  · simp [stackOp]

theorem opAt_pop_iff {log : Log} {i : Nat} {key : Nat × String} :
    StackDiscipline.opAt stackOp log i = some (.pop key) ↔
      ∃ reply, log[i]? = some (.tcDel key.1 key.2, reply) := by
  rw [StackDiscipline.opAt, Option.bind_eq_some_iff]
  constructor
  · rintro ⟨⟨command, reply⟩, held, popped⟩
    rw [stackOp_pop_iff] at popped
    obtain rfl : command = .tcDel key.1 key.2 := popped
    exact ⟨reply, held⟩
  · rintro ⟨reply, held⟩
    refine ⟨_, held, ?_⟩
    rw [stackOp_pop_iff]

theorem opAt_push_iff {log : Log} {j : Nat} {key : Nat × String} :
    StackDiscipline.opAt stackOp log j = some (.push key) ↔
      ∃ tokens result, log[j]? = some (.tcAdd key.1 key.2 tokens, .ok result) ∧
        result.returncode = 0 := by
  rw [StackDiscipline.opAt, Option.bind_eq_some_iff]
  constructor
  · rintro ⟨entry, held, pushed⟩
    rw [stackOp_push_iff] at pushed
    obtain ⟨tokens, result, rfl, accepted⟩ := pushed
    exact ⟨tokens, result, held, accepted⟩
  · rintro ⟨tokens, result, held, accepted⟩
    refine ⟨_, held, ?_⟩
    rw [stackOp_push_iff]
    exact ⟨tokens, result, rfl, accepted⟩

theorem popAt_iff {log : Log} {i : Nat} :
    StackDiscipline.PopAt stackOp log i ↔ DeletionAt log i := by
  simp only [StackDiscipline.PopAt, opAt_pop_iff, Prod.exists, DeletionAt]

theorem pushAt_iff {log : Log} {j : Nat} :
    StackDiscipline.PushAt stackOp log j ↔ AdditionAt log j := by
  simp only [StackDiscipline.PushAt, opAt_push_iff, Prod.exists, AdditionAt]

theorem ownDeletions_of_owns {log : Log} {owner : Nat → Nat}
    (owns : StackDiscipline.Owns stackOp log owner) : OwnDeletions log owner := by
  refine ⟨?_, ?_, ?_⟩
  · intro i pid ifname reply held
    obtain ⟨before, pushed⟩ := owns.own i (pid, ifname) (opAt_pop_iff.mpr ⟨reply, held⟩)
    exact ⟨before, opAt_push_iff.mp pushed⟩
  · intro i i' deletion deletion'
    exact owns.once i i' (popAt_iff.mpr deletion) (popAt_iff.mpr deletion')
  · intro i deletion j after before addition
    obtain ⟨i', less, pop, eq⟩ :=
      owns.newest i (popAt_iff.mpr deletion) j after before (pushAt_iff.mpr addition)
    exact ⟨i', less, popAt_iff.mp pop, eq⟩

/-! ## Uses that issue nothing -/

theorem applyNics_dryRun (runner : Runner) (topo : Topo) (tokens : List String) (session : Session)
    (invoked : List Command) (nics : List NICTarget) :
    (applyNics runner topo true tokens session invoked nics).1 = session := by
  induction nics generalizing invoked with
  | nil => rfl
  | cons nic rest ih =>
      rw [applyNics, if_pos rfl]
      exact ih _

theorem apply_dryRun (runner : Runner) (topo : Topo) (faults : List Fault) (session : Session) :
    (apply runner topo true faults session).1 = session := by
  unfold apply
  generalize ([] : List Command) = invoked
  induction faults generalizing invoked with
  | nil => rfl
  | cons fault rest ih =>
      simp only [applyFaults]
      split
      · rfl
      · next fault' _ =>
        have kept := applyNics_dryRun runner topo fault'.tokens session invoked fault'.nics
        split
        · next outcome =>
          rw [outcome] at kept
          exact kept
        · next invoked' outcome =>
          rw [outcome] at kept
          dsimp only at kept ⊢
          subst kept
          exact ih invoked'

theorem revertLoop_completed {runner : Runner} {quiet : Bool} {log : Log}
    {invoked commands : List Command} {applied : List (Nat × String)}
    (completed : (revertLoop runner quiet log invoked applied).2 = .ok commands) :
    (revertLoop runner quiet log invoked applied).1.applied = [] := by
  induction applied generalizing log invoked with
  | nil => rfl
  | cons entry rest ih =>
      simp only [revertLoop] at completed ⊢
      split at completed
      · cases completed
      · split at completed
        · cases completed
        · next refused => rw [if_neg refused]; exact ih completed

/-- A revert with nothing applied leaves the session alone. -/
theorem revert_of_nothing (runner : Runner) (quiet : Bool) {session : Session}
    (nothing : session.applied = []) : revert runner quiet session = (session, .ok []) := by
  obtain ⟨applied, log⟩ := session
  cases nothing
  rfl

/-- A `Netem` object deletes only what it added: after every sequence of uses, whatever the
runner answers, each deletion in its log has its own earlier add that returned 0, the
newest one still standing; a dry run changes nothing, and so does a revert after a
completed one. -/
theorem deletes_only_its_own (runner : Runner) (topo : Topo) (faults : List Fault)
    (requests : List Use) :
    let session := uses runner topo faults requests
    (∃ owner, OwnDeletions session.log owner) ∧
      (apply runner topo true faults session).1 = session ∧
      ∀ quiet again commands, (revert runner quiet session).2 = .ok commands →
        revert runner again (revert runner quiet session).1 =
          ((revert runner quiet session).1, .ok []) := by
  intro session
  obtain ⟨owner, standing, owns, -⟩ :=
    StackDiscipline.exists_owns stackOp (uses_accounts runner topo faults requests)
  refine ⟨⟨owner, ownDeletions_of_owns owns⟩, apply_dryRun runner topo faults session, ?_⟩
  intro quiet again commands completed
  exact revert_of_nothing runner again (revertLoop_completed completed)

/-- Two faults on one NIC, applied and reverted: two adds, and two deletions that own them. -/
theorem deletes_only_its_own_overlapping :
    let fault : Fault :=
      { target := "host green-host00 plane 0", spec := "loss 1%"
        nics := [⟨"green-host00", "eth1"⟩], tokens := ["loss", "1%"], resolved := true }
    let runner : Runner := fun _ _ => .ok ⟨0, "7", ""⟩
    let session := uses runner Topo.fourPlanes [fault, fault] [.apply false, .revert false]
    (session.log.map fun entry => entry.1) =
        [.dockerInspect "green-host00", .tcAdd 7 "eth1" ["loss", "1%"],
          .dockerInspect "green-host00", .tcAdd 7 "eth1" ["loss", "1%"],
          .tcDel 7 "eth1", .tcDel 7 "eth1"] ∧
      ∃ owner, OwnDeletions session.log owner := by
  intro fault runner session
  exact ⟨by decide +kernel, (deletes_only_its_own runner Topo.fourPlanes [fault, fault]
    [.apply false, .revert false]).1⟩

/-! ## Runners that return -/

/-- A runner that returns, asked about the results so far. -/
def ofReturning (runner : Netem.Runner) : Runner := fun log command =>
  .ok (runner (log.filterMap fun (asked, reply) => reply.toOption.map (asked, ·)) command)

/-- The log of a runner that returned every time. -/
def returned (log : Netem.Log) : Log := log.map fun (command, result) => (command, .ok result)

/-- A session and its outcome, as a runner that returns leaves them. -/
def ofSession {α : Type} (outcome : Netem.Session × α) : Session × α :=
  (⟨outcome.1.applied, returned outcome.1.log⟩, outcome.2)

section Returning

variable (runner : Netem.Runner) (topo : Topo)

@[simp] theorem ofReturning_returned (log : Netem.Log) (command : Command) :
    ofReturning runner (returned log) command = .ok (runner log command) := by
  have results : (returned log).filterMap (fun (asked, reply) => reply.toOption.map (asked, ·)) =
      log := by
    rw [returned, List.filterMap_map]
    exact List.filterMap_some
  rw [ofReturning, results]

@[simp] theorem exec_returned (log : Netem.Log) (command : Command) :
    (ofReturning runner).exec (returned log) command = returned (runner.exec log command) := by
  simp [Runner.exec, Netem.Runner.exec, returned]
  exact ofReturning_returned runner log command

theorem inspectNames_returned (log : Netem.Log) (names : List String) :
    inspectNames (ofReturning runner) (returned log) names =
      (returned (Netem.inspectNames runner log names).1, (Netem.inspectNames runner log names).2) := by
  induction names generalizing log with
  | nil => rfl
  | cons name rest ih =>
      have read : (Except.ok (runner log (.dockerInspect name)) >>= pidOf) =
        pidOf (runner log (.dockerInspect name)) := rfl
      simp only [inspectNames, Netem.inspectNames, ofReturning_returned, exec_returned, read]
      rcases pidOf (runner log (.dockerInspect name)) with error | pid | pid
      · rfl
      · exact ih _
      · rfl

theorem resolveContainerPid_returned (log : Netem.Log) (container : String) :
    resolveContainerPid (ofReturning runner) topo (returned log) container =
      (returned (Netem.resolveContainerPid runner topo log container).1,
        (Netem.resolveContainerPid runner topo log container).2) := by
  simp only [resolveContainerPid, Netem.resolveContainerPid, inspectNames_returned]
  rcases Netem.inspectNames runner log
    [container, s!"clab-{topo.clabTopologyName}-{container}"] with ⟨log', error | pid | pid⟩ <;> rfl

theorem revertLoop_returned (quiet : Bool) (log : Netem.Log) (invoked : List Command)
    (applied : List (Nat × String)) :
    revertLoop (ofReturning runner) quiet (returned log) invoked applied =
      ofSession (Netem.revertLoop runner quiet log invoked applied) := by
  induction applied generalizing log invoked with
  | nil => rfl
  | cons entry rest ih =>
      simp only [revertLoop, Netem.revertLoop, ofReturning_returned, exec_returned]
      split
      · rfl
      · exact ih _ _

theorem revert_returned (quiet : Bool) (session : Netem.Session) :
    revert (ofReturning runner) quiet ⟨session.applied, returned session.log⟩ =
      ofSession (Netem.revert runner quiet session) :=
  revertLoop_returned runner quiet session.log [] session.applied

/-- A quiet revert under a runner that returns completes. -/
theorem revertLoop_quiet_ok (log : Netem.Log) (invoked : List Command)
    (applied : List (Nat × String)) :
    ∃ commands, (Netem.revertLoop runner true log invoked applied).2 = .ok commands := by
  induction applied generalizing log invoked with
  | nil => exact ⟨invoked, rfl⟩
  | cons entry rest ih =>
      simp only [Netem.revertLoop, Bool.true_eq_false, and_false, if_false]
      exact ih _ _

theorem applyNics_returned (dryRun : Bool) (tokens : List String) (session : Netem.Session)
    (invoked : List Command) (nics : List NICTarget) :
    applyNics (ofReturning runner) topo dryRun tokens ⟨session.applied, returned session.log⟩ invoked
        nics =
      ofSession (Netem.applyNics runner topo dryRun tokens session invoked nics) := by
  induction nics generalizing session invoked with
  | nil => rfl
  | cons nic rest ih =>
      simp only [applyNics, Netem.applyNics]
      split
      · exact ih session _
      rw [resolveContainerPid_returned]
      rcases Netem.resolveContainerPid runner topo session.log nic.container with ⟨log', error | pid⟩
      · rfl
      dsimp only
      rw [ofReturning_returned, exec_returned]
      dsimp only
      split
      · obtain ⟨commands, completed⟩ := revertLoop_quiet_ok runner
          (runner.exec log' (.tcAdd pid nic.ifname tokens)) [] session.applied
        have reverted := revert_returned runner true
          ⟨session.applied, runner.exec log' (.tcAdd pid nic.ifname tokens)⟩
        rw [reverted, ofSession, Netem.revert, completed]
        rfl
      · exact ih ⟨(pid, nic.ifname) :: session.applied, _⟩ _

theorem applyFaults_returned (dryRun : Bool) (session : Netem.Session) (invoked : List Command)
    (faults : List Fault) :
    applyFaults (ofReturning runner) topo dryRun ⟨session.applied, returned session.log⟩ invoked
        faults =
      ofSession (Netem.applyFaults runner topo dryRun session invoked faults) := by
  induction faults generalizing session invoked with
  | nil => rfl
  | cons fault rest ih =>
      simp only [applyFaults, Netem.applyFaults]
      cases fault.ensureResolved topo with
      | error error => rfl
      | ok fault' =>
          dsimp only
          rw [applyNics_returned]
          rcases Netem.applyNics runner topo dryRun fault'.tokens session invoked fault'.nics with
            ⟨session', error | invoked'⟩
          · rfl
          · exact ih session' invoked'

/-- With a runner that returns, `apply` is the one of `Session`. -/
theorem apply_returned (dryRun : Bool) (faults : List Fault) (session : Netem.Session) :
    apply (ofReturning runner) topo dryRun faults ⟨session.applied, returned session.log⟩ =
      ofSession (Netem.apply runner topo dryRun faults session) :=
  applyFaults_returned runner topo dryRun session [] faults

end Returning

end Srv6Fabric.Netem.Raising

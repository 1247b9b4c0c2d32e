import Srv6Fabric.Netem.Fault

/-!
# Applying and reverting faults

`Netem.apply` and `Netem.revert`.  The runner is any function of the commands it has
answered so far, so every sequence of return codes and outputs is one.  The log of a
session is that history, oldest first; `_applied` is kept newest first.
-/

namespace Srv6Fabric.Netem

/-- The three commands a session runs. -/
inductive Command where
  | dockerInspect (container : String)
  | tcAdd (pid : Nat) (ifname : String) (tokens : List String)
  | tcDel (pid : Nat) (ifname : String)
  deriving DecidableEq, Repr

/-- `_docker_pid_cmd`, `_nsenter_tc_argv_add` and `_nsenter_tc_argv_del`. -/
def Command.argv : Command → List String
  | .dockerInspect container =>
      ["docker", "inspect", "-f", "\x7b\x7b.State.Pid\x7d\x7d", container]
  | .tcAdd pid ifname tokens =>
      ["nsenter", "-t", toString pid, "-n", "tc", "qdisc", "add", "dev", ifname, "root", "netem"]
        ++ tokens
  | .tcDel pid ifname =>
      ["nsenter", "-t", toString pid, "-n", "tc", "qdisc", "del", "dev", ifname, "root"]

/-- `subprocess.CompletedProcess`. -/
structure RunResult where
  returncode : Int
  stdout : String := ""
  stderr : String := ""
  deriving DecidableEq, Repr

/-- Commands and their results, oldest first. -/
abbrev Log := List (Command × RunResult)

abbrev Runner := Log → Command → RunResult

/-- The log after one more command. -/
def Runner.exec (runner : Runner) (log : Log) (command : Command) : Log :=
  log ++ [(command, runner log command)]

/-- `_format_err`. -/
def formatErr (command : Command) (result : RunResult) : String :=
  let err := strip result.stderr
  let out := strip result.stdout
  let quoted := " ".intercalate (command.argv.map shlexQuote)
  s!"\n  cmd: {quoted}\n  rc:  {result.returncode}"
    ++ (if err = "" then "" else s!"\n  err: {err}")
    ++ (if out = "" then "" else s!"\n  out: {out}")

/-! ## Container PIDs -/

/-- The positive PID an inspect result holds, if it holds one. -/
def pidOf (result : RunResult) : Except PyError (Option Nat) :=
  if result.returncode = 0 then
    let pidStr := strip result.stdout
    if allDigits pidStr then do
      let pid ← pyInt pidStr
      .ok (if 0 < pid then some pid else none)
    else .ok none
  else .ok none

/-- The loop of `resolve_container_pid` over the candidate names. -/
def inspectNames (runner : Runner) (log : Log) : List String → Log × Except PyError (Option Nat)
  | [] => (log, .ok none)
  | name :: rest =>
      let command := Command.dockerInspect name
      let log' := runner.exec log command
      match pidOf (runner log command) with
      | .error error => (log', .error error)
      | .ok (some pid) => (log', .ok (some pid))
      | .ok none => inspectNames runner log' rest

def resolveContainerPid (runner : Runner) (topo : Topo) (log : Log) (container : String) :
    Log × Except PyError Nat :=
  match inspectNames runner log [container, s!"clab-{topo.clabTopologyName}-{container}"] with
  | (log', .error error) => (log', .error error)
  | (log', .ok (some pid)) => (log', .ok pid)
  | (log', .ok none) => (log', .error (.runtimeError
      (s!"netem: cannot resolve PID for container {pyRepr container} (tried bare and "
        ++ s!"clab-{topo.clabTopologyName}- prefixes). Is the lab up?")))

/-! ## Sessions -/

/-- What a `Netem` object holds while its commands run. -/
structure Session where
  applied : List (Nat × String)
  log : Log
  deriving DecidableEq, Repr

/-- `revert`: pop and delete until the stack is empty or, unless `quiet`, a `tc del`
fails. -/
def revertLoop (runner : Runner) (quiet : Bool) (log : Log) (invoked : List Command) :
    List (Nat × String) → Session × Except PyError (List Command)
  | [] => (⟨[], log⟩, .ok invoked)
  | (pid, ifname) :: applied =>
      let command := Command.tcDel pid ifname
      let result := runner log command
      let log' := runner.exec log command
      if result.returncode ≠ 0 ∧ quiet = false then
        (⟨applied, log'⟩, .error (.runtimeError
          s!"netem revert failed on pid={pid} dev={ifname}: {formatErr command result}"))
      else revertLoop runner quiet log' (invoked ++ [command]) applied

def revert (runner : Runner) (quiet : Bool) (session : Session) :
    Session × Except PyError (List Command) :=
  revertLoop runner quiet session.log [] session.applied

/-- The inner loop of `apply`, over the NICs of one fault. -/
def applyNics (runner : Runner) (topo : Topo) (dryRun : Bool) (tokens : List String)
    (session : Session) (invoked : List Command) :
    List NICTarget → Session × Except PyError (List Command)
  | [] => (session, .ok invoked)
  | nic :: rest =>
      if dryRun then
        applyNics runner topo dryRun tokens session
          (invoked ++ [Command.tcAdd 0 nic.ifname tokens]) rest
      else
        match resolveContainerPid runner topo session.log nic.container with
        | (log, .error error) => ({ session with log }, .error error)
        | (log, .ok pid) =>
            let command := Command.tcAdd pid nic.ifname tokens
            let result := runner log command
            let log' := runner.exec log command
            if result.returncode ≠ 0 then
              ((revert runner true ⟨session.applied, log'⟩).1, .error (.runtimeError
                s!"netem apply failed on {nic.str}: {formatErr command result}"))
            else
              applyNics runner topo dryRun tokens ⟨(pid, nic.ifname) :: session.applied, log'⟩
                (invoked ++ [command]) rest

/-- `if not fault.resolved: fault.resolve()`. -/
def Fault.ensureResolved (topo : Topo) (fault : Fault) : Except PyError Fault :=
  if fault.resolved then .ok fault else fault.resolve topo

/-- The outer loop of `apply`. -/
def applyFaults (runner : Runner) (topo : Topo) (dryRun : Bool) (session : Session)
    (invoked : List Command) : List Fault → Session × Except PyError (List Command)
  | [] => (session, .ok invoked)
  | fault :: rest =>
      match fault.ensureResolved topo with
      | .error error => (session, .error error)
      | .ok fault =>
          match applyNics runner topo dryRun fault.tokens session invoked fault.nics with
          | (session', .error error) => (session', .error error)
          | (session', .ok invoked') => applyFaults runner topo dryRun session' invoked' rest

/-- `Netem.apply`; the commands it returns are those of its `invoked` list. -/
def apply (runner : Runner) (topo : Topo) (dryRun : Bool) (faults : List Fault)
    (session : Session) : Session × Except PyError (List Command) :=
  applyFaults runner topo dryRun session [] faults

/-! ## What a revert does -/

/-- A quiet revert deletes every entry of the stack and returns normally. -/
theorem revertLoop_quiet (runner : Runner) (log : Log) (invoked : List Command)
    (applied : List (Nat × String)) :
    (revertLoop runner true log invoked applied).1.applied = [] ∧
      ∃ suffix, (revertLoop runner true log invoked applied).1.log = log ++ suffix ∧
        suffix.map Prod.fst = applied.map fun entry => Command.tcDel entry.1 entry.2 := by
  induction applied generalizing log invoked with
  | nil => exact ⟨rfl, [], (List.append_nil log).symm, rfl⟩
  | cons entry rest ih =>
      obtain ⟨pid, ifname⟩ := entry
      obtain ⟨emptied, suffix, logEq, commands⟩ :=
        ih (runner.exec log (.tcDel pid ifname)) (invoked ++ [.tcDel pid ifname])
      simp only [revertLoop, Bool.true_eq_false, and_false, if_false]
      refine ⟨emptied, (.tcDel pid ifname, runner log (.tcDel pid ifname)) :: suffix, ?_, ?_⟩
      · rw [logEq, Runner.exec]
        simp
      · simp [commands]

/-- Inspecting containers only appends inspect commands to the log. -/
theorem inspectNames_log (runner : Runner) (log : Log) (names : List String) :
    ∃ suffix, (inspectNames runner log names).1 = log ++ suffix ∧
      ∀ entry ∈ suffix, ∃ container, entry.1 = Command.dockerInspect container := by
  induction names generalizing log with
  | nil => exact ⟨[], (List.append_nil log).symm, by simp⟩
  | cons name rest ih =>
      have one : ∃ suffix, runner.exec log (.dockerInspect name) = log ++ suffix ∧
          ∀ entry ∈ suffix, ∃ container, entry.1 = Command.dockerInspect container :=
        ⟨[_], rfl, by simp⟩
      simp only [inspectNames]
      split
      · exact one
      · exact one
      · obtain ⟨suffix, logEq, inspects⟩ := ih (runner.exec log (.dockerInspect name))
        refine ⟨(.dockerInspect name, runner log (.dockerInspect name)) :: suffix, ?_, ?_⟩
        · rw [logEq, Runner.exec]
          simp
        · rintro entry mem
          rcases List.mem_cons.mp mem with rfl | later
          · exact ⟨name, rfl⟩
          · exact inspects entry later

theorem resolveContainerPid_log (runner : Runner) (topo : Topo) (log : Log)
    (container : String) :
    ∃ suffix, (resolveContainerPid runner topo log container).1 = log ++ suffix ∧
      ∀ entry ∈ suffix, ∃ name, entry.1 = Command.dockerInspect name := by
  have inspected := inspectNames_log runner log
    [container, s!"clab-{topo.clabTopologyName}-{container}"]
  unfold resolveContainerPid
  split <;> next found => rw [found] at inspected; exact inspected

end Srv6Fabric.Netem

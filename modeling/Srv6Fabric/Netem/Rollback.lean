import Mathlib.Data.List.Basic
import Srv6Fabric.Netem.Session

/-!
# When a failed apply leaves nothing behind

`plan` is what a fault list asks for and `walk` how far the runner lets it get:
together they are `apply` without its cleanup.  `apply` cleans up after a refused
`tc add` and after nothing else, which decides when it is all-or-nothing.
-/

namespace Srv6Fabric.Netem

/-! ## Plan and walk -/

/-- The NICs to impair, in order, up to the first fault that does not parse, and the
error of that fault. -/
def plan (topo : Topo) : List Fault → List (NICTarget × List String) × Option PyError
  | [] => ([], none)
  | fault :: rest =>
      match fault.ensureResolved topo with
      | .error error => ([], some error)
      | .ok fault =>
          let later := plan topo rest
          (fault.nics.map (fun nic => (nic, fault.tokens)) ++ later.1, later.2)

inductive Halt where
  | finished
  | unresolved
  | refused
  deriving DecidableEq, Repr

/-- How a walk over a plan ends: the NICs impaired so far, newest first, and why it
went no further. -/
structure Walk where
  added : List (Nat × String)
  log : Log
  halt : Halt
  deriving DecidableEq, Repr

def walk (runner : Runner) (topo : Topo) (added : List (Nat × String)) (log : Log) :
    List (NICTarget × List String) → Walk
  | [] => ⟨added, log, .finished⟩
  | (nic, tokens) :: rest =>
      match resolveContainerPid runner topo log nic.container with
      | (log, .error _) => ⟨added, log, .unresolved⟩
      | (log, .ok pid) =>
          let command := Command.tcAdd pid nic.ifname tokens
          let log' := runner.exec log command
          if (runner log command).returncode ≠ 0 then ⟨added, log', .refused⟩
          else walk runner topo ((pid, nic.ifname) :: added) log' rest

section WalkStep

variable {runner : Runner} {topo : Topo} {added : List (Nat × String)} {log log' : Log}
  {nic : NICTarget} {tokens : List String} {rest : List (NICTarget × List String)}

theorem walk_cons : walk runner topo added log ((nic, tokens) :: rest) =
    match resolveContainerPid runner topo log nic.container with
    | (log, .error _) => ⟨added, log, .unresolved⟩
    | (log, .ok pid) =>
        if (runner log (.tcAdd pid nic.ifname tokens)).returncode ≠ 0 then
          ⟨added, runner.exec log (.tcAdd pid nic.ifname tokens), .refused⟩
        else walk runner topo ((pid, nic.ifname) :: added)
          (runner.exec log (.tcAdd pid nic.ifname tokens)) rest := rfl

theorem walk_unresolved {error : PyError}
    (resolved : resolveContainerPid runner topo log nic.container = (log', .error error)) :
    walk runner topo added log ((nic, tokens) :: rest) = ⟨added, log', .unresolved⟩ := by
  simp [walk_cons, resolved]

theorem walk_refused {pid : Nat}
    (resolved : resolveContainerPid runner topo log nic.container = (log', .ok pid))
    (refused : (runner log' (.tcAdd pid nic.ifname tokens)).returncode ≠ 0) :
    walk runner topo added log ((nic, tokens) :: rest) =
      ⟨added, runner.exec log' (.tcAdd pid nic.ifname tokens), .refused⟩ := by
  simp [walk_cons, resolved, refused]

theorem walk_accepted {pid : Nat}
    (resolved : resolveContainerPid runner topo log nic.container = (log', .ok pid))
    (accepted : (runner log' (.tcAdd pid nic.ifname tokens)).returncode = 0) :
    walk runner topo added log ((nic, tokens) :: rest) =
      walk runner topo ((pid, nic.ifname) :: added)
        (runner.exec log' (.tcAdd pid nic.ifname tokens)) rest := by
  simp [walk_cons, resolved, accepted]

/-- The three ways one step of a walk can go. -/
theorem walk_step_cases (runner : Runner) (topo : Topo) (log : Log) (nic : NICTarget)
    (tokens : List String) :
    (∃ log' error, resolveContainerPid runner topo log nic.container = (log', .error error)) ∨
    ∃ log' pid, resolveContainerPid runner topo log nic.container = (log', .ok pid) ∧
      ((runner log' (.tcAdd pid nic.ifname tokens)).returncode ≠ 0 ∨
        (runner log' (.tcAdd pid nic.ifname tokens)).returncode = 0) := by
  rcases resolveContainerPid runner topo log nic.container with ⟨log', error | pid⟩
  · exact Or.inl ⟨log', error, rfl⟩
  · exact Or.inr ⟨log', pid, rfl, ne_or_eq _ _⟩

end WalkStep

theorem walk_append (runner : Runner) (topo : Topo) (added : List (Nat × String)) (log : Log)
    (first second : List (NICTarget × List String)) :
    walk runner topo added log (first ++ second) =
      let reached := walk runner topo added log first
      if reached.halt = .finished then walk runner topo reached.added reached.log second
      else reached := by
  induction first generalizing added log with
  | nil => rfl
  | cons target rest ih =>
      obtain ⟨nic, tokens⟩ := target
      rw [List.cons_append]
      rcases walk_step_cases runner topo log nic tokens with
        ⟨log', error, resolved⟩ | ⟨log', pid, resolved, refused | accepted⟩
      · rw [walk_unresolved resolved, walk_unresolved resolved]
        rfl
      · rw [walk_refused resolved refused, walk_refused resolved refused]
        rfl
      · rw [walk_accepted resolved accepted, walk_accepted resolved accepted]
        exact ih _ _

/-- What a session is after a walk: the walk's own entries, or none if the walk was
refused and everything was reverted. -/
def Walk.settle (runner : Runner) (reached : Walk) : Session :=
  if reached.halt = .refused then (revert runner true ⟨reached.added, reached.log⟩).1
  else ⟨reached.added, reached.log⟩

theorem applyNics_eq_walk (runner : Runner) (topo : Topo) (tokens : List String)
    (session : Session) (invoked : List Command) (nics : List NICTarget) :
    let reached := walk runner topo session.applied session.log
      (nics.map fun nic => (nic, tokens))
    let outcome := applyNics runner topo false tokens session invoked nics
    outcome.1 = reached.settle runner ∧
      ((∃ commands, outcome.2 = .ok commands) ↔ reached.halt = .finished) := by
  induction nics generalizing session invoked with
  | nil => exact ⟨rfl, fun _ => rfl, fun _ => ⟨invoked, rfl⟩⟩
  | cons nic rest ih =>
      rw [List.map_cons]
      rcases walk_step_cases runner topo session.log nic tokens with
        ⟨log', error, resolved⟩ | ⟨log', pid, resolved, refused | accepted⟩
      · rw [walk_unresolved resolved]
        simp [applyNics, resolved, Walk.settle]
      · rw [walk_refused resolved refused]
        simp [applyNics, resolved, refused, Walk.settle]
      · rw [walk_accepted resolved accepted]
        simpa [applyNics, resolved, accepted] using
          ih ⟨(pid, nic.ifname) :: session.applied, _⟩ (invoked ++ [.tcAdd pid nic.ifname tokens])

/-- `apply` walks the plan; it returns normally when the walk finishes and the plan is
complete. -/
theorem applyFaults_eq_walk (runner : Runner) (topo : Topo) (session : Session)
    (invoked : List Command) (faults : List Fault) :
    let reached := walk runner topo session.applied session.log (plan topo faults).1
    let outcome := applyFaults runner topo false session invoked faults
    outcome.1 = reached.settle runner ∧
      ((∃ commands, outcome.2 = .ok commands) ↔
        reached.halt = .finished ∧ (plan topo faults).2 = none) := by
  induction faults generalizing session invoked with
  | nil => exact ⟨rfl, fun _ => ⟨rfl, rfl⟩, fun _ => ⟨invoked, rfl⟩⟩
  | cons fault rest ih =>
      cases parsed : fault.ensureResolved topo with
      | error error =>
          simp only [applyFaults, plan, parsed]
          refine ⟨rfl, ?_, ?_⟩
          · rintro ⟨commands, stopped⟩
            cases stopped
          · rintro ⟨-, complete⟩
            cases complete
      | ok fault =>
          simp only [applyFaults, plan, parsed, walk_append]
          obtain ⟨sessionEq, returned⟩ :=
            applyNics_eq_walk runner topo fault.tokens session invoked fault.nics
          set reached := walk runner topo session.applied session.log
            (fault.nics.map fun nic => (nic, fault.tokens)) with reachedDef
          cases looped : applyNics runner topo false fault.tokens session invoked fault.nics with
          | mk session' result =>
              rw [looped] at sessionEq returned
              cases result with
              | error error =>
                  have halted : reached.halt ≠ .finished := by
                    intro finished
                    obtain ⟨commands, impossible⟩ := returned.mpr finished
                    cases impossible
                  rw [if_neg halted]
                  refine ⟨sessionEq, ?_, ?_⟩
                  · rintro ⟨commands, stopped⟩
                    cases stopped
                  · rintro ⟨finished, -⟩
                    exact absurd finished halted
              | ok invoked' =>
                  have finished : reached.halt = .finished := returned.mp ⟨invoked', rfl⟩
                  have settled : session' = ⟨reached.added, reached.log⟩ := by
                    rw [show session' = reached.settle runner from sessionEq, Walk.settle,
                      if_neg (by rw [finished]; decide)]
                  rw [if_pos finished, settled]
                  exact ih ⟨reached.added, reached.log⟩ invoked'

/-! ## The commands of a walk -/

/-- Commands without a `tc del` whose successful `tc add` commands impaired `fresh`. -/
structure Records (commands : Log) (fresh : List (Nat × String)) : Prop where
  adds : ∀ pid ifname, (pid, ifname) ∈ fresh ↔ ∃ tokens result,
    (Command.tcAdd pid ifname tokens, result) ∈ commands ∧ result.returncode = 0
  noDel : ∀ pid ifname result, (Command.tcDel pid ifname, result) ∉ commands

namespace Records

variable {first later : Log} {fresh more : List (Nat × String)}

theorem append (early : Records first fresh) (late : Records later more) :
    Records (first ++ later) (more ++ fresh) := by
  constructor
  · intro pid ifname
    rw [List.mem_append, late.adds, early.adds]
    constructor
    · rintro (⟨tokens, result, mem, accepted⟩ | ⟨tokens, result, mem, accepted⟩)
      · exact ⟨tokens, result, List.mem_append_right first mem, accepted⟩
      · exact ⟨tokens, result, List.mem_append_left later mem, accepted⟩
    · rintro ⟨tokens, result, mem, accepted⟩
      rcases List.mem_append.mp mem with before | after
      · exact Or.inr ⟨tokens, result, before, accepted⟩
      · exact Or.inl ⟨tokens, result, after, accepted⟩
  · intro pid ifname result mem
    rcases List.mem_append.mp mem with before | after
    · exact early.noDel pid ifname result before
    · exact late.noDel pid ifname result after

/-- Inspecting containers impairs nothing. -/
theorem inspected
    (inspects : ∀ entry ∈ first, ∃ container, entry.1 = Command.dockerInspect container) :
    Records first [] := by
  constructor
  · intro pid ifname
    constructor
    · intro mem
      cases mem
    · rintro ⟨tokens, result, mem, -⟩
      obtain ⟨container, impossible⟩ := inspects _ mem
      cases impossible
  · intro pid ifname result mem
    obtain ⟨container, impossible⟩ := inspects _ mem
    cases impossible

variable {pid : Nat} {ifname : String} {tokens : List String} {result : RunResult}

theorem refused (failed : result.returncode ≠ 0) :
    Records [(.tcAdd pid ifname tokens, result)] [] := by
  constructor
  · intro pid' ifname'
    constructor
    · intro mem
      cases mem
    · rintro ⟨tokens', result', mem, accepted⟩
      cases List.mem_singleton.mp mem
      exact absurd accepted failed
  · intro pid' ifname' result' mem
    cases List.mem_singleton.mp mem

theorem accepted (succeeded : result.returncode = 0) :
    Records [(.tcAdd pid ifname tokens, result)] [(pid, ifname)] := by
  constructor
  · intro pid' ifname'
    constructor
    · intro mem
      cases List.mem_singleton.mp mem
      exact ⟨tokens, result, List.mem_singleton_self _, succeeded⟩
    · rintro ⟨tokens', result', mem, -⟩
      cases List.mem_singleton.mp mem
      exact List.mem_singleton_self _
  · intro pid' ifname' result' mem
    cases List.mem_singleton.mp mem

end Records

/-- A walk appends to the log; the entries it adds are those of its successful
`tc add` commands. -/
theorem walk_log (runner : Runner) (topo : Topo) (added : List (Nat × String)) (log : Log)
    (targets : List (NICTarget × List String)) :
    ∃ suffix fresh, (walk runner topo added log targets).log = log ++ suffix ∧
      (walk runner topo added log targets).added = fresh ++ added ∧ Records suffix fresh := by
  induction targets generalizing added log with
  | nil => exact ⟨[], [], (List.append_nil log).symm, rfl, .inspected (by simp)⟩
  | cons target rest ih =>
      obtain ⟨nic, tokens⟩ := target
      obtain ⟨inspects, inspectedLog, only⟩ := resolveContainerPid_log runner topo log nic.container
      rcases walk_step_cases runner topo log nic tokens with
        ⟨log', error, resolved⟩ | ⟨log', pid, resolved, refused | accepted⟩
      · rw [resolved] at inspectedLog
        rw [walk_unresolved resolved]
        exact ⟨inspects, [], inspectedLog, rfl, .inspected only⟩
      · rw [resolved] at inspectedLog
        rw [walk_refused resolved refused]
        refine ⟨inspects ++ [(.tcAdd pid nic.ifname tokens,
          runner log' (.tcAdd pid nic.ifname tokens))], [], ?_, rfl,
          (Records.inspected only).append (.refused refused)⟩
        rw [Runner.exec, show log' = log ++ inspects from inspectedLog, List.append_assoc]
      · rw [resolved] at inspectedLog
        rw [walk_accepted resolved accepted]
        obtain ⟨suffix, fresh, logEq, addedEq, records⟩ := ih ((pid, nic.ifname) :: added)
          (runner.exec log' (.tcAdd pid nic.ifname tokens))
        refine ⟨inspects ++ ([(.tcAdd pid nic.ifname tokens,
          runner log' (.tcAdd pid nic.ifname tokens))] ++ suffix), fresh ++ [(pid, nic.ifname)],
          ?_, ?_, ?_⟩
        · rw [logEq, Runner.exec, show log' = log ++ inspects from inspectedLog,
            List.append_assoc, List.append_assoc]
        · rw [addedEq, List.append_assoc]
          rfl
        · simpa using (Records.inspected only).append ((Records.accepted accepted).append records)

/-! ## All-or-nothing -/

/-- Every `tc add` of the list that succeeded is followed by a `tc del` for the same
NIC. -/
def Undone (commands : Log) : Prop :=
  ∀ pid ifname tokens result, (Command.tcAdd pid ifname tokens, result) ∈ commands →
    result.returncode = 0 → ∃ answer,
      [(Command.tcAdd pid ifname tokens, result), (Command.tcDel pid ifname, answer)].Sublist commands

/-- If `apply` on an empty session raises, what it added is undone and `_applied` is
empty. -/
def AllOrNothing (runner : Runner) (topo : Topo) (faults : List Fault) (log : Log) : Prop :=
  let outcome := apply runner topo false faults ⟨[], log⟩
  ∀ error, outcome.2 = .error error →
    Undone (outcome.1.log.drop log.length) ∧ outcome.1.applied = []

/-- Whatever stops the call, if anything does, it is a refused `tc add`, or nothing has
been added yet. -/
def StopsCleanly (runner : Runner) (topo : Topo) (faults : List Fault) (log : Log) : Prop :=
  let asked := plan topo faults
  let reached := walk runner topo [] log asked.1
  reached.halt = .refused ∨ reached.added = [] ∨ reached.halt = .finished ∧ asked.2 = none

/-- A walk followed by deletions is undone when these delete all that was added. -/
theorem undone_append_iff {adds deletes : Log} {added : List (Nat × String)}
    (records : Records adds added)
    (onlyDeletes : ∀ command ∈ deletes.map Prod.fst, ∃ pid ifname, command = .tcDel pid ifname) :
    Undone (adds ++ deletes) ↔
      ∀ entry ∈ added, Command.tcDel entry.1 entry.2 ∈ deletes.map Prod.fst := by
  constructor
  · rintro undone ⟨pid, ifname⟩ mem
    obtain ⟨tokens, result, recordedAdd, accepted⟩ := (records.adds pid ifname).mp mem
    obtain ⟨answer, ordered⟩ := undone pid ifname tokens result
      (List.mem_append_left deletes recordedAdd) accepted
    have present : (Command.tcDel pid ifname, answer) ∈ adds ++ deletes := ordered.subset (by simp)
    rcases List.mem_append.mp present with early | deleted
    · exact absurd early (records.noDel pid ifname answer)
    · exact List.mem_map_of_mem deleted
  · intro deleted pid ifname tokens result mem accepted
    rcases List.mem_append.mp mem with inAdds | inDeletes
    · have entry := (records.adds pid ifname).mpr ⟨tokens, result, inAdds, accepted⟩
      obtain ⟨⟨command, answer⟩, delMem, rfl⟩ := List.mem_map.mp (deleted _ entry)
      exact ⟨answer,
        (List.singleton_sublist.mpr inAdds).append (List.singleton_sublist.mpr delMem)⟩
    · obtain ⟨pid', ifname', impossible⟩ := onlyDeletes _ (List.mem_map_of_mem inDeletes)
      cases impossible

/-- `apply` is all-or-nothing exactly when a failing call stops at a refused `tc add`
or before the first success: a target or spec that does not parse, or a container that
cannot be resolved, after a success leaves the lab impaired. -/
theorem allOrNothing_iff (runner : Runner) (topo : Topo) (faults : List Fault) (log : Log) :
    AllOrNothing runner topo faults log ↔ StopsCleanly runner topo faults log := by
  obtain ⟨sessionEq, returned⟩ := applyFaults_eq_walk runner topo ⟨[], log⟩ [] faults
  obtain ⟨suffix, fresh, logEq, addedEq, records⟩ :=
    walk_log runner topo [] log (plan topo faults).1
  rw [List.append_nil] at addedEq
  simp only [AllOrNothing, StopsCleanly, apply]
  set reached := walk runner topo [] log (plan topo faults).1
  rw [sessionEq]
  constructor
  · intro holds
    by_contra stopped
    obtain ⟨notRefused, someAdded, notDone⟩ : reached.halt ≠ .refused ∧ reached.added ≠ [] ∧
        ¬ (reached.halt = .finished ∧ (plan topo faults).2 = none) := by
      simpa only [not_or] using stopped
    cases outcome : (applyFaults runner topo false ⟨[], log⟩ [] faults).2 with
    | ok commands => exact notDone (returned.mp ⟨commands, outcome⟩)
    | error error =>
        have emptied := (holds error outcome).2
        rw [Walk.settle, if_neg notRefused] at emptied
        exact someAdded emptied
  · rintro (refused | nothing | done) error raised
    · obtain ⟨emptied, deletes, deletedLog, commands⟩ :=
        revertLoop_quiet runner reached.log [] reached.added
      have settled : reached.settle runner =
          (revertLoop runner true reached.log [] reached.added).1 := by
        rw [Walk.settle, if_pos refused]
        rfl
      rw [settled]
      refine ⟨?_, emptied⟩
      rw [deletedLog, logEq, List.append_assoc, List.drop_left]
      refine (undone_append_iff (addedEq ▸ records) ?_).mpr ?_
      · intro command mem
        rw [commands] at mem
        obtain ⟨entry, -, rfl⟩ := List.mem_map.mp mem
        exact ⟨entry.1, entry.2, rfl⟩
      · intro entry mem
        rw [commands]
        exact List.mem_map_of_mem mem
    · have untouched : Undone suffix := by
        intro pid ifname tokens result mem accepted
        have impossible := (records.adds pid ifname).mpr ⟨tokens, result, mem, accepted⟩
        rw [← addedEq, nothing] at impossible
        cases impossible
      rw [Walk.settle]
      split
      · rw [revert, nothing, revertLoop, logEq, List.drop_left]
        exact ⟨untouched, rfl⟩
      · rw [logEq, List.drop_left]
        exact ⟨untouched, nothing⟩
    · obtain ⟨commands, impossible⟩ := returned.mpr done
      rw [impossible] at raised
      cases raised

/-- One host of the lab is up; the other container cannot be inspected. -/
def oneHostUp : Runner := fun _ command =>
  match command with
  | .dockerInspect "green-host00" => ⟨0, "4242\n", ""⟩
  | .dockerInspect _ => ⟨1, "", "Error: No such object"⟩
  | _ => ⟨0, "", ""⟩

/-- The fault on the host that is up stays in place when the next host is down. -/
theorem unresolved_container_leaves_fault :
    ¬ AllOrNothing oneHostUp ⟨4, 4, 16, ["green", "yellow"], "srv6"⟩
      [⟨"host green-host00 plane 0", "loss 5%", [], [], false⟩,
        ⟨"host green-host01 plane 0", "loss 5%", [], [], false⟩] [] := by
  intro holds
  have leftover := (holds _ rfl).2
  cases leftover

end Srv6Fabric.Netem

import Srv6Fabric.Netem.Rollback

/-!
# Tearing a live scenario down

The live path of `run_scenario`: apply, run the flows, and revert in a `finally` block
that prints an exception of `revert` and goes on.
-/

namespace Srv6Fabric.Netem

/-- One `faults:` entry of a scenario. -/
structure FaultSpec where
  kind : String
  target : String
  spec : String
  deriving DecidableEq, Repr

/-- `faults_for_netem`. -/
def faultsForNetem (faults : List FaultSpec) : List Fault :=
  faults.map fun fault => { target := fault.target, spec := fault.spec }

/-- How a live run ends: the session, the exception of `revert` it printed, if any,
and its own result. -/
structure LiveRun (ρ : Type) where
  session : Session
  revertFailure : Option PyError
  result : Except PyError ρ

/-- `run_scenario` past the dry-run branch.  `expandFlows` and `runFlows` return or
raise; neither uses the session's runner. -/
def runScenario {φ ρ σ : Type} (runner : Runner) (topo : Topo) (log : Log)
    (expandFlows : Except PyError φ) (runFlows : φ → Except PyError ρ) (fromRecords : ρ → σ)
    (faults : List FaultSpec) : LiveRun σ :=
  match expandFlows with
  | .error error => ⟨⟨[], log⟩, none, .error error⟩
  | .ok flows =>
      match apply runner topo false (faultsForNetem faults) ⟨[], log⟩ with
      | (session, .error error) => ⟨session, none, .error error⟩
      | (session, .ok _) =>
          match runFlows flows, revert runner false session with
          | outcome, (reverted, .ok _) => ⟨reverted, none, outcome.map fromRecords⟩
          | outcome, (reverted, .error error) => ⟨reverted, some error, outcome.map fromRecords⟩

/-! ## How far a revert gets -/

/-- The log after deleting the entries of a list, first one first. -/
def deleteAll (runner : Runner) (log : Log) : List (Nat × String) → Log
  | [] => log
  | entry :: rest => deleteAll runner (runner.exec log (.tcDel entry.1 entry.2)) rest

/-- The return code of deleting one entry. -/
def deletionCode (runner : Runner) (log : Log) (entry : Nat × String) : Int :=
  (runner log (.tcDel entry.1 entry.2)).returncode

/-- Deleting the entries of a list, first one first, never fails. -/
def deletesAll (runner : Runner) (log : Log) : List (Nat × String) → Prop
  | [] => True
  | entry :: rest =>
      deletionCode runner log entry = 0 ∧
        deletesAll runner (runner.exec log (.tcDel entry.1 entry.2)) rest

/-- When a deletion fails, every NIC still on the stack is one that has been deleted
already.  For a stack without repetition: no deletion but the last one fails. -/
def FailsLast (runner : Runner) (log : Log) (stack : List (Nat × String)) : Prop :=
  ∀ before entry after, stack = before ++ entry :: after → deletesAll runner log before →
    deletionCode runner (deleteAll runner log before) entry ≠ 0 →
    ∀ other ∈ after, other ∈ before ∨ other = entry

/-- A revert issues the deletions of a prefix of the stack: all of it, or up to and
with the first failing one. -/
theorem revertLoop_log (runner : Runner) (log : Log) (invoked : List Command)
    (stack : List (Nat × String)) :
    ∃ deleted rest suffix, stack = deleted ++ rest ∧
      (revertLoop runner false log invoked stack).1.log = log ++ suffix ∧
      suffix.map Prod.fst = deleted.map (fun entry => Command.tcDel entry.1 entry.2) ∧
      ((rest = [] ∧ deletesAll runner log deleted) ∨
        ∃ before entry, deleted = before ++ [entry] ∧ deletesAll runner log before ∧
          deletionCode runner (deleteAll runner log before) entry ≠ 0) := by
  induction stack generalizing log invoked with
  | nil => exact ⟨[], [], [], rfl, (List.append_nil log).symm, rfl, Or.inl ⟨rfl, trivial⟩⟩
  | cons entry stack ih =>
      obtain ⟨pid, ifname⟩ := entry
      rcases eq_or_ne (runner log (.tcDel pid ifname)).returncode 0 with deleted | failed
      · obtain ⟨gone, rest, suffix, split, logEq, commands, stopped⟩ :=
          ih (runner.exec log (.tcDel pid ifname)) (invoked ++ [.tcDel pid ifname])
        refine ⟨(pid, ifname) :: gone, rest,
          (.tcDel pid ifname, runner log (.tcDel pid ifname)) :: suffix, by rw [split]; rfl, ?_,
          by simp [commands], ?_⟩
        · simp only [revertLoop, deleted, ne_eq, not_true_eq_false, false_and, if_false]
          rw [logEq]
          simp [Runner.exec]
        · rcases stopped with ⟨finished, all⟩ | ⟨before, entry, goneEq, earlier, failed⟩
          · exact Or.inl ⟨finished, deleted, all⟩
          · exact Or.inr ⟨(pid, ifname) :: before, entry, by rw [goneEq]; rfl, ⟨deleted, earlier⟩,
              failed⟩
      · refine ⟨[(pid, ifname)], stack, [(.tcDel pid ifname, runner log (.tcDel pid ifname))], rfl,
          ?_, rfl, ?_⟩
        · simp [revertLoop, failed, Runner.exec]
        · exact Or.inr ⟨[], (pid, ifname), rfl, trivial, failed⟩

/-- Two prefixes that end at the first failing deletion are the same. -/
theorem first_failure_unique {runner : Runner} {log : Log} {before before' after after' :
    List (Nat × String)} {entry entry' : Nat × String}
    (same : before ++ entry :: after = before' ++ entry' :: after')
    (deleted : deletesAll runner log before) (deleted' : deletesAll runner log before')
    (failed : deletionCode runner (deleteAll runner log before) entry ≠ 0)
    (failed' : deletionCode runner (deleteAll runner log before') entry' ≠ 0) :
    before = before' ∧ entry = entry' ∧ after = after' := by
  induction before generalizing log before' with
  | nil =>
      cases before' with
      | nil =>
          obtain ⟨rfl, rfl⟩ := List.cons.inj same
          exact ⟨rfl, rfl, rfl⟩
      | cons first rest =>
          obtain ⟨rfl, -⟩ := List.cons.inj same
          exact absurd deleted'.1 failed
  | cons first rest ih =>
      cases before' with
      | nil =>
          obtain ⟨rfl, -⟩ := List.cons.inj same
          exact absurd deleted.1 failed'
      | cons first' rest' =>
          obtain ⟨rfl, tails⟩ := List.cons.inj same
          obtain ⟨rfl, rfl, rfl⟩ := ih tails deleted.2 deleted'.2 failed failed'
          exact ⟨rfl, rfl, rfl⟩

theorem deletionCode_of_deletesAll {runner : Runner} {log : Log}
    {before after : List (Nat × String)} {entry : Nat × String}
    (all : deletesAll runner log (before ++ entry :: after)) :
    deletionCode runner (deleteAll runner log before) entry = 0 := by
  induction before generalizing log with
  | nil => exact all.1
  | cons first rest ih => exact ih all.2

/-- A revert attempts to delete the whole stack exactly when its failures come last. -/
theorem revert_reaches_iff (runner : Runner) (log : Log) (stack : List (Nat × String)) :
    (∀ entry ∈ stack, Command.tcDel entry.1 entry.2 ∈
        ((revert runner false ⟨stack, log⟩).1.log.drop log.length).map Prod.fst) ↔
      FailsLast runner log stack := by
  obtain ⟨deleted, rest, suffix, split, logEq, commands, stopped⟩ :=
    revertLoop_log runner log [] stack
  have issued : ∀ entry : Nat × String, Command.tcDel entry.1 entry.2 ∈ suffix.map Prod.fst ↔
      entry ∈ deleted := by
    rintro ⟨pid, ifname⟩
    rw [commands, List.mem_map]
    constructor
    · rintro ⟨⟨pid', ifname'⟩, mem, same⟩
      cases same
      exact mem
    · intro mem
      exact ⟨_, mem, rfl⟩
  rw [revert, logEq, List.drop_left]
  simp only [issued]
  rcases stopped with ⟨finished, all⟩ | ⟨before', entry', deletedEq, earlier', failed'⟩
  · rw [finished, List.append_nil] at split
    constructor
    · intro _ before entry after stackEq _ failed
      rw [split] at stackEq
      exact absurd (deletionCode_of_deletesAll (stackEq ▸ all)) failed
    · rintro - entry mem
      rw [← split]
      exact mem
  · have stackEq' : stack = before' ++ entry' :: rest := by
      rw [split, deletedEq]
      simp
    constructor
    · intro reached before entry after stackEq earlier failed other later
      obtain ⟨rfl, rfl, rfl⟩ := first_failure_unique (stackEq.symm.trans stackEq') earlier earlier'
        failed failed'
      have mem := reached other (by rw [stackEq]; simp [later])
      rw [deletedEq] at mem
      simpa using mem
    · intro last entry mem
      rw [split, List.mem_append] at mem
      rcases mem with gone | later
      · exact gone
      · have seen := last before' entry' rest stackEq' earlier' failed' entry later
        rw [deletedEq]
        simpa using seen

/-! ## The finally block -/

/-- What the `finally` block leaves is what `revert` leaves. -/
theorem runScenario_session {φ ρ σ : Type} (runner : Runner) (topo : Topo) (log : Log)
    (flows : φ) (runFlows : φ → Except PyError ρ) (fromRecords : ρ → σ) (faults : List FaultSpec)
    {session : Session} {commands : List Command}
    (applied : apply runner topo false (faultsForNetem faults) ⟨[], log⟩ = (session, .ok commands)) :
    (runScenario runner topo log (.ok flows) runFlows fromRecords faults).session =
      (revert runner false session).1 := by
  simp only [runScenario, applied]
  rcases revert runner false session with ⟨reverted, error | invoked⟩ <;> rfl

/-- Once `apply` has returned, and however the flows end, a live run attempts to
delete every fault it put up exactly when the deletions that fail come last: the first
failing `tc del` ends the revert, and its exception is only printed. -/
theorem runScenario_undone_iff {φ ρ σ : Type} (runner : Runner) (topo : Topo) (log : Log)
    (flows : φ) (runFlows : φ → Except PyError ρ) (fromRecords : ρ → σ) (faults : List FaultSpec)
    {session : Session} {commands : List Command}
    (applied : apply runner topo false (faultsForNetem faults) ⟨[], log⟩ = (session, .ok commands)) :
    Undone ((runScenario runner topo log (.ok flows) runFlows fromRecords faults).session.log.drop
        log.length) ↔
      FailsLast runner session.log session.applied := by
  rw [runScenario_session runner topo log flows runFlows fromRecords faults applied,
    ← revert_reaches_iff]
  obtain ⟨sessionEq, returned⟩ :=
    applyFaults_eq_walk runner topo ⟨[], log⟩ [] (faultsForNetem faults)
  obtain ⟨suffix, fresh, logEq, addedEq, records⟩ :=
    walk_log runner topo [] log (plan topo (faultsForNetem faults)).1
  rw [List.append_nil] at addedEq
  rw [← apply, applied] at sessionEq returned
  have finished := (returned.mp ⟨commands, rfl⟩).1
  have settled : session = ⟨fresh, log ++ suffix⟩ := by
    rw [show session = _ from sessionEq, Walk.settle, if_neg (by rw [finished]; decide), logEq,
      addedEq]
  rw [settled]
  obtain ⟨deleted, rest, deletes, split, deletedLog, deleteCommands, -⟩ :=
    revertLoop_log runner (log ++ suffix) [] fresh
  rw [revert, deletedLog, List.append_assoc, List.drop_left, ← List.append_assoc, List.drop_left]
  refine undone_append_iff records ?_
  intro command mem
  rw [deleteCommands] at mem
  obtain ⟨entry, -, rfl⟩ := List.mem_map.mp mem
  exact ⟨entry.1, entry.2, rfl⟩

/-- Every command succeeds, except that the qdisc of `eth2` is gone at teardown. -/
def qdiscGone : Runner := fun _ command =>
  match command with
  | .dockerInspect _ => ⟨0, "4242\n", ""⟩
  | .tcDel _ "eth2" => ⟨2, "", "RTNETLINK answers: No such file or directory"⟩
  | _ => ⟨0, "", ""⟩

/-- With one NIC impaired the deletion that fails is the last one, and it is attempted. -/
theorem runScenario_undone_eth2_last :
    ∃ session commands,
      apply qdiscGone ⟨2, 4, 16, ["green", "yellow"], "srv6"⟩ false
        (faultsForNetem [⟨"netem", "host green-host00 plane 1", "loss 5%"⟩]) ⟨[], []⟩ =
          (session, .ok commands) ∧
      Undone ((runScenario qdiscGone ⟨2, 4, 16, ["green", "yellow"], "srv6"⟩ [] (.ok ())
        (fun _ => (.ok () : Except PyError Unit)) id
        [⟨"netem", "host green-host00 plane 1", "loss 5%"⟩]).session.log.drop 0) := by
  refine ⟨_, _, rfl, (runScenario_undone_iff qdiscGone ⟨2, 4, 16, ["green", "yellow"], "srv6"⟩ []
    () _ id _ rfl).mpr ?_⟩
  intro before entry after stackEq _ _ other later
  have short := congrArg List.length stackEq
  simp only [List.length_append, List.length_cons, List.length_nil] at short
  have nothing : after.length = 0 := by omega
  rw [List.length_eq_zero_iff.mp nothing] at later
  cases later

/-- With both NICs of a host impaired, the failing deletion of `eth2` comes first and
the fault on `eth1` stays. -/
theorem failed_deletion_leaves_fault :
    ¬ Undone ((runScenario qdiscGone ⟨2, 4, 16, ["green", "yellow"], "srv6"⟩ [] (.ok ())
      (fun _ => (.ok () : Except PyError Unit)) id
      [⟨"netem", "host green-host00", "loss 5%"⟩]).session.log.drop 0) := by
  have commands : (runScenario qdiscGone ⟨2, 4, 16, ["green", "yellow"], "srv6"⟩ [] (.ok ())
      (fun _ => (.ok () : Except PyError Unit)) id
      [⟨"netem", "host green-host00", "loss 5%"⟩]).session.log =
      [(.dockerInspect "green-host00", ⟨0, "4242\n", ""⟩),
        (.tcAdd 4242 "eth1" ["loss", "5%"], ⟨0, "", ""⟩),
        (.dockerInspect "green-host00", ⟨0, "4242\n", ""⟩),
        (.tcAdd 4242 "eth2" ["loss", "5%"], ⟨0, "", ""⟩),
        (.tcDel 4242 "eth2", ⟨2, "", "RTNETLINK answers: No such file or directory"⟩)] := by
    rfl
  rw [commands]
  intro undone
  obtain ⟨answer, ordered⟩ := undone 4242 "eth1" ["loss", "5%"] ⟨0, "", ""⟩ (by simp) rfl
  have present := ordered.subset (List.mem_cons_of_mem _ (List.mem_singleton_self _))
  simp at present

end Srv6Fabric.Netem

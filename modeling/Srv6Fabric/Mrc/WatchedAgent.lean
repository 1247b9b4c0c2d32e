import Srv6Fabric.Mrc.ProbeLedger
import Srv6Fabric.Mrc.ReceiveLoops

/-!
# Where a credited reply was sent

A run of the agent together with the history of its probes.  `_reply_rx_loop` looks the
probe up under the plane its payload names and never compares that with the socket it
serves, so a reply that strayed to another plane's socket still answers its probe.
-/

namespace Srv6Fabric.Mrc

open Srv6Fabric.Library

variable {numPlanes : Nat}

/-- The call of the agent's `ProbeClock` that one iteration makes. -/
def AgentAction.clockCall : AgentAction numPlanes → Option (ClockCall numPlanes)
  | .emit plane nowNs => some (.emit plane nowNs)
  | .sweep nowNs => some (.sweep nowNs)
  | .reply datagram nowNs =>
      match decodeProbeReply (datagram.take defaultRecvBufsize) with
      | .ok parsed => some (.reply parsed.reqId.toNat parsed.planeId.toNat parsed.txNs.toNat nowNs)
      | .error _ => none
  | _ => none

/-- A run of the agent and the history of its probes. -/
structure WatchedRun (numPlanes : Nat) extends AgentRun numPlanes where
  history : ProbeHistory numPlanes

/-- The history after one iteration. -/
def WatchedRun.recorded (run : WatchedRun numPlanes) (action : AgentAction numPlanes) :
    ProbeHistory numPlanes :=
  match action.clockCall with
  | some call => run.history.after run.agent.probeClock call
  | none => run.history

def WatchedRun.next (run : WatchedRun numPlanes) (action : AgentAction numPlanes) :
    Option (WatchedRun numPlanes) :=
  (run.toAgentRun.next action).map fun later => ⟨later, run.recorded action⟩

def watchedMachine (agent : SenderMrcAgent numPlanes) (startNs : Int) :
    Machine (WatchedRun numPlanes) (AgentAction numPlanes) where
  start := ⟨⟨agent, startNs⟩, fun _ => []⟩
  step := WatchedRun.next

/-! ## The agent's clock under its loops -/

theorem SenderMrcAgent.recordTimeouts_probeClock (agent : SenderMrcAgent numPlanes)
    (timeouts : List (Fin numPlanes × Nat)) :
    (agent.recordTimeouts timeouts).agent.probeClock = agent.probeClock := by
  induction timeouts generalizing agent with
  | nil => rfl
  | cons timeout rest ih =>
      obtain ⟨plane, reqId⟩ := timeout
      unfold SenderMrcAgent.recordTimeouts
      dsimp only
      split
      · rfl
      · next table called => exact ih { agent with table }

theorem SenderMrcAgent.replyRx_probeClock {agent : SenderMrcAgent numPlanes}
    {datagram : List UInt8} {reply : ProbeReply} (nowNs : Int)
    (decoded : decodeProbeReply (datagram.take defaultRecvBufsize) = .ok reply) :
    (agent.replyRx datagram nowNs).agent.probeClock =
      agent.probeClock.after
        (.reply reply.reqId.toNat reply.planeId.toNat reply.txNs.toNat nowNs) := by
  unfold replyRx ProbeClock.after
  rw [decoded]
  dsimp only
  cases agent.probeClock.matchReply reply.reqId.toNat reply.planeId.toNat reply.txNs.toNat nowNs with
  | error error => rfl
  | ok matched =>
      obtain ⟨probeClock, rtt⟩ := matched
      cases rtt with
      | none => rfl
      | some rttNs =>
          dsimp only
          split <;> rfl

/-- What an iteration does to the agent's clock is the one call it makes. -/
theorem AgentRun.next_probeClock {run later : AgentRun numPlanes} {action : AgentAction numPlanes}
    (stepped : run.next action = some later) :
    later.agent.probeClock =
      match action.clockCall with
      | some call => run.agent.probeClock.after call
      | none => run.agent.probeClock := by
  cases action with
  | sent plane =>
      obtain ⟨counters, rfl⟩ := next_sent stepped
      rfl
  | emit plane nowNs =>
      obtain ⟨probeClock, reqId, txNs, emitted, rfl⟩ := next_emit stepped
      simp only [AgentAction.clockCall, ProbeClock.after, emitted]
  | sweep nowNs =>
      obtain ⟨-, rfl⟩ := next_sweep stepped
      exact SenderMrcAgent.recordTimeouts_probeClock _ _
  | rotate nowNs =>
      obtain ⟨-, sentRing, rfl⟩ := next_rotate stepped
      rfl
  | reply datagram nowNs =>
      obtain ⟨-, rfl⟩ := next_reply stepped
      cases decoded : decodeProbeReply (datagram.take defaultRecvBufsize) with
      | error error =>
          simp only [AgentAction.clockCall, decoded, SenderMrcAgent.replyRx_undecodable decoded]
      | ok reply =>
          simp only [AgentAction.clockCall, decoded]
          exact SenderMrcAgent.replyRx_probeClock nowNs decoded
  | report datagram nowNs =>
      obtain ⟨-, rfl⟩ := next_report stepped
      unfold AgentAction.clockCall SenderMrcAgent.reportRx
      dsimp only
      split <;> rfl

/-! ## What holds of every watched run -/

/-- The agent is healthy, and its clock holds what the history says still waits. -/
structure WatchedRun.Faithful (run : WatchedRun numPlanes) : Prop where
  healthy : run.agent.Healthy run.nowNs
  tracks : Tracks run.agent.probeClock run.history

theorem WatchedRun.next_eq {run later : WatchedRun numPlanes} {action : AgentAction numPlanes}
    (stepped : run.next action = some later) :
    run.toAgentRun.next action = some later.toAgentRun ∧ later.history = run.recorded action := by
  obtain ⟨state, moved, rfl⟩ := Option.map_eq_some_iff.mp stepped
  exact ⟨moved, rfl⟩

theorem WatchedRun.Faithful.next {run later : WatchedRun numPlanes}
    {action : AgentAction numPlanes} (faithful : run.Faithful)
    (stepped : run.next action = some later) : later.Faithful := by
  obtain ⟨moved, recorded⟩ := WatchedRun.next_eq stepped
  refine ⟨AgentRun.next_healthy faithful.healthy moved, ?_⟩
  rw [AgentRun.next_probeClock moved, recorded, WatchedRun.recorded]
  cases action.clockCall with
  | none => exact faithful.tracks
  | some call => exact faithful.tracks.after call

section Constructed

variable {topo : Topo} {tenants : List String} {evCfg : EVStateConfig}
  {table : EVStateTable topo.numPlanes} {tenant : String} {srcId dstId : Int}
  {cfg : AgentConfig} {startNs : Int} {agent : SenderMrcAgent topo.numPlanes}

theorem init_faithful (built : EVStateTable.init tenants topo.numPlanes evCfg = .ok table)
    (constructed : SenderMrcAgent.init topo tenant srcId dstId table cfg startNs = .ok agent) :
    (watchedMachine agent startNs).start.Faithful := by
  refine ⟨init_healthy built constructed, ?_⟩
  obtain ⟨-, -, -, idle⟩ := init_agent constructed
  intro plane
  rw [show (watchedMachine agent startNs).start.agent.probeClock.outstanding plane = .empty from
    idle plane]
  exact List.Perm.refl _

theorem reachable_faithful (built : EVStateTable.init tenants topo.numPlanes evCfg = .ok table)
    (constructed : SenderMrcAgent.init topo tenant srcId dstId table cfg startNs = .ok agent)
    {run : WatchedRun topo.numPlanes} (reachable : (watchedMachine agent startNs).Reachable run) :
    run.Faithful :=
  Machine.Reachable.invariant (init_faithful built constructed)
    (fun _ _ _ faithful stepped => faithful.next stepped) reachable

end Constructed

/-! ## The reply loop of one plane -/

namespace SenderMrcAgent

/-- One iteration of `_reply_rx_loop(plane)`: the plane selects the socket the datagram is
read from, and nothing else. -/
def replyRxOn (agent : SenderMrcAgent numPlanes) (_plane : Fin numPlanes)
    (datagram : List UInt8) (nowNs : Int) : Iteration numPlanes :=
  agent.replyRx datagram nowNs

variable {agent : SenderMrcAgent numPlanes} {nowNs : Int} {datagram : List UInt8}

/-- A reply answers the probe its plane holds, or is stale. -/
theorem replyRx_eq {reply : ProbeReply} {index : Fin numPlanes} (healthy : agent.Healthy nowNs)
    (decoded : decodeProbeReply (datagram.take defaultRecvBufsize) = .ok reply)
    (names : (index : Nat) = reply.planeId.toNat) :
    let txNs : Int := reply.txNs.toNat
    if (agent.probeClock.outstanding index).find? reply.reqId.toNat = some txNs then
      ∃ probeClock table,
        agent.table.call (.probe agent.tenant (index : Nat) true (some (nowNs - txNs))) = .ok table ∧
        agent.replyRx datagram nowNs = ⟨{ agent with probeClock, table },
          [.probe agent.tenant (index : Nat) true (some (nowNs - txNs))], none⟩
    else ∃ probeClock, agent.replyRx datagram nowNs = ⟨{ agent with probeClock }, [], none⟩ := by
  intro txNs
  have matched := agent.probeClock.matchReply_fin reply.reqId.toNat index txNs nowNs
  rw [replyRx, decoded]
  dsimp only
  rw [← names, matched]
  split
  · next found =>
    have past := healthy.past index _ (OrderedDict.find?_eq_some_iff.mp found)
    have returned := EVStateTable.probeOk_returns healthy.serves.find? index (sub_nonneg.mpr past)
    dsimp only at returned ⊢
    rw [returned]
    exact ⟨_, _, rfl, rfl⟩
  · exact ⟨_, rfl⟩

/-- A reply is recorded exactly when its plane holds the probe it names. -/
theorem replyRx_calls {reply : ProbeReply} {index : Fin numPlanes} (healthy : agent.Healthy nowNs)
    (decoded : decodeProbeReply (datagram.take defaultRecvBufsize) = .ok reply)
    (names : (index : Nat) = reply.planeId.toNat) :
    (agent.replyRx datagram nowNs).calls =
      if (agent.probeClock.outstanding index).find? reply.reqId.toNat = some (reply.txNs.toNat : Int)
      then [.probe agent.tenant (index : Nat) true (some (nowNs - reply.txNs.toNat))]
      else [] := by
  have done := replyRx_eq healthy decoded names
  dsimp only at done
  split at done
  · next found =>
    obtain ⟨probeClock, table, -, outcome⟩ := done
    rw [outcome, if_pos found]
  · next stale =>
    obtain ⟨probeClock, outcome⟩ := done
    rw [outcome, if_neg stale]

/-- A reply for a plane out of range is never recorded. -/
theorem replyRx_calls_outside {reply : ProbeReply}
    (decoded : decodeProbeReply (datagram.take defaultRecvBufsize) = .ok reply)
    (outside : numPlanes ≤ reply.planeId.toNat) : (agent.replyRx datagram nowNs).calls = [] := by
  rw [replyRx, decoded]
  dsimp only
  rw [ProbeClock.matchReply, checkPlane_of_le outside]
  rfl

end SenderMrcAgent

/-- A probe of the list was waiting before, and has been answered after. -/
def Answers (before after : List SentProbe) : Prop :=
  ∃ (index : Nat) (probe : SentProbe) (rttNs : Int), before[index]? = some probe ∧
    probe.fate = .waiting ∧ after[index]? = some { probe with fate := .answered rttNs }

theorem not_answers_self (probes : List SentProbe) : ¬ Answers probes probes := by
  rintro ⟨index, probe, rttNs, before, waits, after⟩
  rw [before, Option.some_inj] at after
  rw [after] at waits
  cases waits

theorem answers_resolve {probes : List SentProbe} {probe : SentProbe} {test : Nat × Int → Bool}
    (member : probe ∈ probes) (waits : probe.fate = .waiting) (hit : test probe.entry)
    (rttNs : Int) : Answers probes (probes.map (SentProbe.resolve (.answered rttNs) test)) := by
  obtain ⟨index, here⟩ := List.mem_iff_getElem?.mp member
  refine ⟨index, probe, rttNs, here, waits, ?_⟩
  rw [List.getElem?_map, here, Option.map_some, SentProbe.resolve, if_pos ⟨waits, hit⟩]

/-- The datagram is a reply to a probe of this plane that still waits. -/
def WatchedRun.Awaits (run : WatchedRun numPlanes) (datagram : List UInt8)
    (plane : Fin numPlanes) : Prop :=
  ∃ reply, decodeProbeReply (datagram.take defaultRecvBufsize) = .ok reply ∧
    reply.planeId.toNat = plane ∧
    ∃ probe ∈ run.history plane, probe.fate = .waiting ∧
      probe.entry = (reply.reqId.toNat, (reply.txNs.toNat : Int))

/-- In every reachable state of the agent, and for every datagram on the socket of a
plane: a success is recorded only for a probe sent on that plane exactly when the
datagram is not a reply to a waiting probe of another plane. -/
theorem reply_credits_own_plane_iff {topo : Topo} {tenants : List String} {evCfg : EVStateConfig}
    {table : EVStateTable topo.numPlanes} {tenant : String} {srcId dstId : Int}
    {cfg : AgentConfig} {startNs : Int} {agent : SenderMrcAgent topo.numPlanes}
    (built : EVStateTable.init tenants topo.numPlanes evCfg = .ok table)
    (constructed : SenderMrcAgent.init topo tenant srcId dstId table cfg startNs = .ok agent)
    {run : WatchedRun topo.numPlanes} (reachable : (watchedMachine agent startNs).Reachable run)
    (socket : Fin topo.numPlanes) (datagram : List UInt8) {nowNs : Int}
    (monotonic : run.nowNs ≤ nowNs) :
    (∀ call ∈ (run.agent.replyRxOn socket datagram nowNs).calls,
      Answers (run.history socket) (run.recorded (.reply datagram nowNs) socket)) ↔
      ∀ plane, run.Awaits datagram plane → plane = socket := by
  have faithful := reachable_faithful built constructed reachable
  have healthy := faithful.healthy.later monotonic
  unfold SenderMrcAgent.replyRxOn WatchedRun.Awaits
  cases decoded : decodeProbeReply (datagram.take defaultRecvBufsize) with
  | error error => simp [SenderMrcAgent.replyRx_undecodable decoded]
  | ok reply =>
      by_cases inRange : reply.planeId.toNat < topo.numPlanes
      · obtain ⟨index, names⟩ : ∃ index : Fin topo.numPlanes, (index : Nat) = reply.planeId.toNat :=
          ⟨⟨_, inRange⟩, rfl⟩
        rw [SenderMrcAgent.replyRx_calls healthy decoded names]
        by_cases found : (run.agent.probeClock.outstanding index).find? reply.reqId.toNat =
            some (reply.txNs.toNat : Int)
        · have waiting := (faithful.tracks.find?_iff index _ _).mp found
          have recorded : run.recorded (.reply datagram nowNs) socket =
              if socket = index then
                (run.history socket).map (SentProbe.resolve (.answered (nowNs - reply.txNs.toNat))
                  fun entry => entry.1 = reply.reqId.toNat)
              else run.history socket := by
            simp only [WatchedRun.recorded, AgentAction.clockCall, decoded, ProbeHistory.after,
              ← names, ProbeClock.matchReply_fin, if_pos found, Int.natCast_inj, Fin.val_inj]
          rw [if_pos found, List.forall_mem_singleton, recorded]
          constructor
          · intro answers plane awaited
            obtain ⟨_, ⟨⟩, there, -⟩ := awaited
            have here : plane = index := Fin.ext (there.symm.trans names.symm)
            rw [here]
            by_contra away
            rw [if_neg (Ne.symm away)] at answers
            exact not_answers_self _ answers
          · intro only
            have here : index = socket := only index ⟨reply, rfl, names.symm, waiting⟩
            rw [if_pos here.symm]
            obtain ⟨probe, member, waits, entry⟩ := waiting
            exact answers_resolve (here ▸ member) waits (by simp [entry]) _
        · rw [if_neg found]
          refine iff_of_true (by simp) fun plane awaited => ?_
          obtain ⟨_, ⟨⟩, there, waiting⟩ := awaited
          have here : plane = index := Fin.ext (there.symm.trans names.symm)
          rw [here] at waiting
          exact absurd ((faithful.tracks.find?_iff index _ _).mpr waiting) found
      · rw [SenderMrcAgent.replyRx_calls_outside decoded (not_lt.mp inRange)]
        refine iff_of_true (by simp) fun plane awaited => ?_
        obtain ⟨_, ⟨⟩, there, -⟩ := awaited
        exact absurd (there ▸ plane.isLt) inRange

/-- A PROBE on both planes at time 100. -/
def twoProbes : List (AgentAction 2) := (List.finRange 2).map fun plane => .emit plane 100

/-- The reply of plane 1 on its own socket. -/
theorem reply_on_own_socket : ∃ run,
    (watchedMachine (greenAgent 2 7) 0).run (watchedMachine (greenAgent 2 7) 0).start twoProbes =
      some run ∧
    ∀ call ∈ (run.agent.replyRxOn 1 (replyFor 1) 500).calls,
      Answers (run.history 1) (run.recorded (.reply (replyFor 1) 500) 1) := by
  obtain ⟨run, ran, now⟩ : ∃ run, (watchedMachine (greenAgent 2 7) 0).run
      (watchedMachine (greenAgent 2 7) 0).start twoProbes = some run ∧ run.nowNs = 100 :=
    ⟨_, rfl, rfl⟩
  refine ⟨run, ran, ?_⟩
  refine (reply_credits_own_plane_iff init_greenTable_two init_greenAgent_two ⟨twoProbes, ran⟩
    (1 : Fin 2) (replyFor 1) (by rw [now]; decide)).mpr ?_
  rintro plane ⟨reply, decoded, names, -⟩
  cases (replyFor_decodes 1).symm.trans decoded
  exact Fin.ext names.symm

/-- The reply of plane 0 on the socket of plane 1 is recorded as a success of plane 0, and
answers no probe of plane 1. -/
theorem stray_reply_is_credited :
    EVStateTable.init ["green"] Topo.twoPlanes.numPlanes {} = .ok (greenTable 2) ∧
    SenderMrcAgent.init Topo.twoPlanes "green" 0 7 (greenTable 2) {} 0 = .ok (greenAgent 2 7) ∧
    ∃ run, (watchedMachine (greenAgent 2 7) 0).run (watchedMachine (greenAgent 2 7) 0).start
      twoProbes = some run ∧
    (run.agent.replyRxOn 1 (replyFor 0) 500).calls = [.probe "green" 0 true (some 400)] ∧
    ¬ Answers (run.history 1) (run.recorded (.reply (replyFor 0) 500) 1) := by
  refine ⟨init_greenTable_two, init_greenAgent_two, ?_⟩
  have unmoved : ∃ run, (watchedMachine (greenAgent 2 7) 0).run
      (watchedMachine (greenAgent 2 7) 0).start twoProbes = some run ∧
      (run.agent.replyRxOn 1 (replyFor 0) 500).calls = [.probe "green" 0 true (some 400)] ∧
      run.recorded (.reply (replyFor 0) 500) 1 = run.history 1 := by
    refine ⟨_, rfl, ?_, ?_⟩ <;> decide +kernel
  obtain ⟨run, ran, credited, same⟩ := unmoved
  refine ⟨run, ran, credited, ?_⟩
  rw [same]
  exact not_answers_self _

end Srv6Fabric.Mrc

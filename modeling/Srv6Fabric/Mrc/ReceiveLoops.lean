import Srv6Fabric.Mrc.AgentRuns

/-!
# Which datagrams the receive loops survive

The decoders accept any `u8` plane, and neither loop body checks it before
`match_reply` or `apply_loss_report` does.  For every reachable agent this decides
exactly which datagrams end a receive thread or are half applied.
-/

namespace Srv6Fabric.Mrc

open Srv6Fabric.Library

variable {numPlanes : Nat}

/-- An iteration survives its datagram: no exception leaves the loop body, and a datagram
that is of no use is ignored. -/
structure Iteration.Survives (iteration : Iteration numPlanes) (agent : SenderMrcAgent numPlanes)
    (useful : Prop) : Prop where
  completes : iteration.raised = none
  ignores : ¬ useful → iteration.calls = [] ∧ iteration.agent.table = agent.table

namespace SenderMrcAgent

/-- The datagram is a PROBE_REPLY for a plane of the fabric. -/
def UsefulReply (numPlanes : Nat) (datagram : List UInt8) : Prop :=
  ∃ reply, decodeProbeReply (datagram.take defaultRecvBufsize) = .ok reply ∧
    reply.planeId.toNat < numPlanes

/-- The datagram is a LOSS_REPORT about planes of the fabric. -/
def UsefulReport (numPlanes : Nat) (datagram : List UInt8) : Prop :=
  ∃ report, decodeLossReport (datagram.take defaultRecvBufsize) = .ok report ∧
    ∀ record ∈ report.planes, record.planeId.toNat < numPlanes

variable {agent : SenderMrcAgent numPlanes} {nowNs : Int} {datagram : List UInt8}

/-! ## Replies -/

theorem replyRx_undecodable {error : PyError}
    (failed : decodeProbeReply (datagram.take defaultRecvBufsize) = .error error) :
    agent.replyRx datagram nowNs = { agent } := by
  obtain ⟨message, rfl⟩ := decodeProbeReply_error failed
  rw [replyRx, failed]

/-- `match_reply` refuses a plane out of range, and nothing catches that. -/
theorem replyRx_outOfRange {reply : ProbeReply}
    (decoded : decodeProbeReply (datagram.take defaultRecvBufsize) = .ok reply)
    (outside : numPlanes ≤ reply.planeId.toNat) :
    (agent.replyRx datagram nowNs).raised ≠ none := by
  have refused : agent.probeClock.matchReply reply.reqId.toNat reply.planeId.toNat
      reply.txNs.toNat nowNs = .error (.valueError
        s!"plane {(reply.planeId.toNat : Int)} out of range [0, {numPlanes})") := by
    rw [ProbeClock.matchReply, checkPlane_of_le outside]
    rfl
  rw [replyRx, decoded]
  dsimp only
  rw [refused]
  simp

/-- A reply for a plane in range is matched or stale; the RTT of a match is not negative
because no outstanding probe is from the future. -/
theorem replyRx_inRange {reply : ProbeReply} (healthy : agent.Healthy nowNs)
    (decoded : decodeProbeReply (datagram.take defaultRecvBufsize) = .ok reply)
    (inRange : reply.planeId.toNat < numPlanes) :
    (agent.replyRx datagram nowNs).raised = none := by
  set index : Fin numPlanes := ⟨reply.planeId.toNat, inRange⟩ with indexDef
  rw [replyRx, decoded]
  dsimp only
  cases matched : agent.probeClock.matchReply reply.reqId.toNat reply.planeId.toNat
      reply.txNs.toNat nowNs with
  | error error =>
      exfalso
      have checked : checkPlane numPlanes reply.planeId.toNat = .ok index := checkPlane_fin index
      rw [ProbeClock.matchReply, checked] at matched
      simp only [bind, Except.bind] at matched
      split at matched
      · cases matched
      · split at matched <;> cases matched
  | ok pair =>
      obtain ⟨probeClock, rtt⟩ := pair
      cases rtt with
      | none => rfl
      | some rttNs =>
          obtain ⟨plane, -, ⟨impossible, -⟩ | ⟨rttEq, mem, -⟩⟩ := ProbeClock.matchReply_ok matched
          · cases impossible
          · have past := healthy.past _ _ mem
            have nonneg : 0 ≤ rttNs := by
              rw [Option.some.inj rttEq]
              exact sub_nonneg.mpr past
            have returned := EVStateTable.probeOk_returns healthy.serves.find? index nonneg
            dsimp only
            rw [show ((reply.planeId.toNat : Nat) : Int) = ((index : Nat) : Int) from rfl, returned]

theorem replyRx_survives_iff (healthy : agent.Healthy nowNs) (datagram : List UInt8) :
    (agent.replyRx datagram nowNs).Survives agent (UsefulReply numPlanes datagram) ↔
      ∀ reply, decodeProbeReply (datagram.take defaultRecvBufsize) = .ok reply →
        reply.planeId.toNat < numPlanes := by
  constructor
  · intro survives reply decoded
    by_contra outside
    exact replyRx_outOfRange decoded (not_lt.mp outside) survives.completes
  · intro inRange
    cases decoded : decodeProbeReply (datagram.take defaultRecvBufsize) with
    | error error =>
        rw [replyRx_undecodable decoded]
        exact ⟨rfl, fun _ => ⟨rfl, rfl⟩⟩
    | ok reply =>
        have here := inRange reply decoded
        exact ⟨replyRx_inRange healthy decoded here, fun useless =>
          absurd ⟨reply, decoded, here⟩ useless⟩

/-! ## Reports -/

theorem reportRx_undecodable {error : PyError}
    (failed : decodeLossReport (datagram.take defaultRecvBufsize) = .error error) :
    agent.reportRx datagram nowNs = { agent } := by
  obtain ⟨message, rfl⟩ := decodeLossReport_error failed
  rw [reportRx, failed]

theorem reportRx_survives_iff (healthy : agent.Healthy nowNs) (datagram : List UInt8) :
    (agent.reportRx datagram nowNs).Survives agent (UsefulReport numPlanes datagram) ↔
      ∀ report, decodeLossReport (datagram.take defaultRecvBufsize) = .ok report →
        (∀ record ∈ report.planes, record.planeId.toNat < numPlanes) ∨
          ∀ record ∈ report.planes, Silent (agent.pairedWindow nowNs) record := by
  constructor
  · intro survives report decoded
    by_cases inRange : ∀ record ∈ report.planes, record.planeId.toNat < numPlanes
    · exact Or.inl inRange
    · right
      have useless : ¬ UsefulReport numPlanes datagram := by
        rintro ⟨other, decodedOther, planes⟩
        rw [decoded] at decodedOther
        cases decodedOther
        exact inRange planes
      obtain ⟨completes, ignores⟩ := survives
      obtain ⟨stats, fuseEq⟩ := agent.fuse_eq report nowNs
      rw [reportRx, decoded] at completes ignores
      dsimp only at completes ignores
      rw [fuseEq] at completes ignores
      exact silent_of_applyRecords completes (ignores useless).1
  · intro kinds
    cases decoded : decodeLossReport (datagram.take defaultRecvBufsize) with
    | error error =>
        rw [reportRx_undecodable decoded]
        exact ⟨rfl, fun _ => ⟨rfl, rfl⟩⟩
    | ok report =>
        obtain ⟨stats, fuseEq⟩ := agent.fuse_eq report nowNs
        rw [reportRx, decoded]
        dsimp only [fused]
        rw [fuseEq]
        rcases kinds report decoded with inRange | silent
        · refine ⟨?_, fun useless => absurd ⟨report, decoded, inRange⟩ useless⟩
          exact applyRecords_inRange healthy.serves rfl
            (fun window paired => (SentWindowRing.mem_of_findClosest paired).2) inRange
        · obtain ⟨after, unchanged⟩ := applyRecords_silent agent.tenant
            (show ({ table := agent.table, stats } : Fusion numPlanes).raised = none from rfl) silent
          rw [unchanged]
          exact ⟨rfl, fun _ => ⟨rfl, rfl⟩⟩

end SenderMrcAgent

open SenderMrcAgent

/-- Whatever an agent has been through, and whatever arrives at whatever later time: the
reply loop survives exactly the datagrams that name no plane out of range, the report
loop those and the reports whose records all stay silent. -/
theorem receive_loops_survive_iff {topo : Topo} {tenants : List String} {evCfg : EVStateConfig}
    {table : EVStateTable topo.numPlanes} {tenant : String} {srcId dstId : Int}
    {cfg : AgentConfig} {startNs : Int} {agent : SenderMrcAgent topo.numPlanes}
    (built : EVStateTable.init tenants topo.numPlanes evCfg = .ok table)
    (constructed : SenderMrcAgent.init topo tenant srcId dstId table cfg startNs = .ok agent)
    {run : AgentRun topo.numPlanes} (reachable : (agentMachine agent startNs).Reachable run)
    (datagram : List UInt8) {nowNs : Int} (monotonic : run.nowNs ≤ nowNs) :
    ((run.agent.replyRx datagram nowNs).Survives run.agent
        (UsefulReply topo.numPlanes datagram) ↔
      ∀ reply, decodeProbeReply (datagram.take defaultRecvBufsize) = .ok reply →
        reply.planeId.toNat < topo.numPlanes) ∧
    ((run.agent.reportRx datagram nowNs).Survives run.agent
        (UsefulReport topo.numPlanes datagram) ↔
      ∀ report, decodeLossReport (datagram.take defaultRecvBufsize) = .ok report →
        (∀ record ∈ report.planes, record.planeId.toNat < topo.numPlanes) ∨
          ∀ record ∈ report.planes, Silent (run.agent.pairedWindow nowNs) record) := by
  have healthy := (reachable_healthy built constructed reachable).later monotonic
  exact ⟨replyRx_survives_iff healthy datagram, reportRx_survives_iff healthy datagram⟩

/-- A PROBE_REPLY that names the given plane. -/
def replyFor (plane : Nat) : List UInt8 := pack (probeFields magicProbeReply 0 plane 100 0 1 0 9997)

theorem replyFor_decodes (plane : Fin 5) :
    decodeProbeReply ((replyFor plane).take defaultRecvBufsize) =
      .ok ⟨0, .ofNat plane, 100, 0, 1, 0, 9997⟩ := by
  revert plane
  decide

/-- A stale reply for the last plane does no harm to a fresh agent. -/
theorem receive_loops_survive_stale_reply :
    ((greenAgent 4 15).replyRx (replyFor 3) 500).Survives (greenAgent 4 15)
      (UsefulReply 4 (replyFor 3)) := by
  refine (receive_loops_survive_iff init_greenTable_four init_greenAgent_four
    (Machine.Reaches.refl _) (replyFor 3) (show (0 : Int) ≤ 500 by decide)).1.mpr ?_
  intro reply decoded
  cases (replyFor_decodes 3).symm.trans decoded
  decide

/-- A LOSS_REPORT about the first plane and about one past the last. -/
def halfOutside : List UInt8 :=
  pack (lossHdrFmt.zip [magicLossReport, lossReportVersion, 0, 2, 0]) ++
    encodeRecord ⟨0, 1, 2, 1⟩ ++ encodeRecord ⟨4, 1, 2, 1⟩

/-- One reply that names plane 4 of 4 ends a reply loop; one report that names it ends
the report loop after its first record was applied. -/
theorem plane_out_of_range_ends_loops :
    let agent := greenAgent 4 15
    SenderMrcAgent.init Topo.fourPlanes "green" 0 15 (greenTable 4) {} 0 = .ok agent ∧
      (agentMachine agent 0).Reachable ⟨agent, 0⟩ ∧
      ¬ (agent.replyRx (replyFor 4) 500).Survives agent (UsefulReply 4 (replyFor 4)) ∧
      (agent.reportRx halfOutside 500).raised = some (.valueError "plane 4 out of range [0, 4)") ∧
      (agent.reportRx halfOutside 500).calls = [.loss "green" 0 1 2] := by
  refine ⟨init_greenAgent_four, Machine.Reaches.refl _, ?_, by decide +kernel, by decide +kernel⟩
  intro survives
  exact replyRx_outOfRange (replyFor_decodes 4) (by decide) survives.completes

end Srv6Fabric.Mrc

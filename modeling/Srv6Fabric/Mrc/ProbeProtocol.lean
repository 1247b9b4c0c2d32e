import Srv6Fabric.Library.Machine
import Srv6Fabric.Mrc.Probe
import Srv6Fabric.Mrc.ProbeClock

/-!
# The probe protocol

One sender, one receiver, and a network that keeps every datagram it was ever given:
it may deliver any of them at any time, once, often or never, but none it was not
given.  Emit times are strictly increasing on each plane.  The signals are what the
sender's loops hand to the EV state table.
-/

namespace Srv6Fabric.Mrc.ProbeProtocol

open Srv6Fabric.Library

/-- The sender's identity fields, the same in every probe. -/
structure Identity where
  tenantId : Int
  srcId : Int
  replyPort : Int
  deriving DecidableEq, Repr

/-- One probe, as its `emit` call made it. -/
structure Emission where
  plane : Nat
  reqId : Nat
  txNs : Int
  deriving DecidableEq, Repr

/-- One `record_probe_result` call, with what it was derived from. -/
inductive Signal where
  | rtt (reply : ProbeReply) (nowNs rttNs : Int)
  | timeout (plane reqId : Nat) (txNs : Int)
  deriving DecidableEq, Repr

/-- The probe a signal is about. -/
def Signal.probe : Signal → Emission
  | .rtt reply _ _ => ⟨reply.planeId.toNat, reply.reqId.toNat, reply.txNs.toNat⟩
  | .timeout plane reqId txNs => ⟨plane, reqId, txNs⟩

structure State (numPlanes : Nat) where
  clock : ProbeClock numPlanes
  emitted : List Emission
  probesSent : List (List UInt8)
  repliesSent : List (List UInt8)
  signals : List Signal

inductive Action (numPlanes : Nat) where
  | emit (plane : Fin numPlanes) (nowNs : Int)
  | answer (payload : List UInt8)
  | process (payload : List UInt8) (nowNs : Int)
  | sweep (nowNs : Int)

/-! ## Steps -/

/-- The PROBE of an emission, in `_emit_loop`. -/
def Emission.payload (identity : Identity) (probe : Emission) : Except PyError (List UInt8) :=
  encodeProbe probe.reqId probe.plane probe.txNs identity.tenantId identity.srcId identity.replyPort

/-- The PROBE_REPLY `_probe_rx_loop` sends for a payload. -/
def answerProbe (payload : List UInt8) : Except PyError (List UInt8) := do
  let probe ← decodeProbe payload
  encodeProbeReply probe.reqId.toNat probe.planeId.toNat probe.txNs.toNat 0 probe.tenantId.toNat
    probe.srcId.toNat probe.replyPort.toNat

variable {numPlanes : Nat}

/-- One step.  A payload that does not encode is not sent; one that does not decode is
dropped; an exception of `match_reply` ends its loop. -/
def next (identity : Identity) (state : State numPlanes) :
    Action numPlanes → Option (State numPlanes)
  | .emit plane nowNs =>
      if ∀ earlier ∈ state.emitted, earlier.plane = plane → earlier.txNs < nowNs then
        match state.clock.emit (plane : Nat) nowNs with
        | .error _ => some state
        | .ok (clock, reqId, txNs) =>
            let probe : Emission := ⟨plane, reqId, txNs⟩
            some { state with
              clock
              emitted := state.emitted ++ [probe]
              probesSent := state.probesSent ++ (probe.payload identity).toOption.toList }
      else none
  | .answer payload =>
      if payload ∈ state.probesSent then
        some { state with
          repliesSent := state.repliesSent ++ (answerProbe payload).toOption.toList }
      else none
  | .process payload nowNs =>
      if payload ∈ state.repliesSent then
        match decodeProbeReply payload with
        | .error _ => some state
        | .ok reply =>
            match state.clock.matchReply reply.reqId.toNat reply.planeId.toNat reply.txNs.toNat
                nowNs with
            | .error _ => some state
            | .ok (clock, none) => some { state with clock }
            | .ok (clock, some rttNs) =>
                some { state with clock, signals := state.signals ++ [.rtt reply nowNs rttNs] }
      else none
  | .sweep nowNs =>
      some { state with
        clock := (state.clock.sweepTimeouts nowNs).1
        signals := state.signals ++
          (state.clock.expired nowNs).map fun (plane, reqId, txNs) => .timeout plane reqId txNs }

/-- The protocol from a fresh clock. -/
def protocol (identity : Identity) (clock : ProbeClock numPlanes) :
    Machine (State numPlanes) (Action numPlanes) where
  start := ⟨clock, [], [], [], []⟩
  step := next identity

/-! ## Echoes -/

/-- The payload is the receiver's answer to this probe. -/
def Emission.Echo (identity : Identity) (probe : Emission) (payload : List UInt8) : Prop :=
  ∃ sent, probe.payload identity = .ok sent ∧ answerProbe sent = .ok payload

/-- An echo names the probe it answers: plane, request id and emit time. -/
theorem Emission.Echo.names {identity : Identity} {probe : Emission} {payload : List UInt8}
    (echo : probe.Echo identity payload) {reply : ProbeReply}
    (decoded : decodeProbeReply payload = .ok reply) :
    reply.planeId.toNat = probe.plane ∧ reply.reqId.toNat = probe.reqId ∧
      (reply.txNs.toNat : Int) = probe.txNs := by
  obtain ⟨sent, encoded, answered⟩ := echo
  obtain ⟨received, receivedOk, reqId, plane, txNs, -⟩ := decodeProbe_of_encodeProbe encoded
  obtain ⟨echoed, echoedOk, echoedDecodes⟩ := encodeProbeReply_echo received
  simp only [answerProbe, receivedOk, bind, Except.bind] at answered
  rw [echoedOk] at answered
  have same : echoed = payload := Except.ok.inj answered
  rw [same, decoded] at echoedDecodes
  rw [Except.ok.inj echoedDecodes]
  exact ⟨by exact_mod_cast plane, by exact_mod_cast reqId, txNs⟩

/-! ## The invariant -/

structure Invariant (identity : Identity) (state : State numPlanes) : Prop where
  ordered : state.emitted.Pairwise fun earlier later =>
    earlier.plane = later.plane → earlier.txNs < later.txNs
  awaited : ∀ (plane : Fin numPlanes) entry, entry ∈ (state.clock.outstanding plane).entries →
    (⟨plane, entry.1, entry.2⟩ : Emission) ∈ state.emitted ∧
      (⟨plane, entry.1, entry.2⟩ : Emission) ∉ state.signals.map Signal.probe
  probes : ∀ payload ∈ state.probesSent, ∃ probe ∈ state.emitted,
    probe.payload identity = .ok payload
  replies : ∀ payload ∈ state.repliesSent, ∃ probe ∈ state.emitted, probe.Echo identity payload
  once : (state.signals.map Signal.probe).Nodup
  known : ∀ signal ∈ state.signals, signal.probe ∈ state.emitted
  echoed : ∀ reply nowNs rttNs, .rtt reply nowNs rttNs ∈ state.signals →
    ∃ probe ∈ state.emitted, ∃ payload, probe.Echo identity payload ∧
      decodeProbeReply payload = .ok reply ∧ rttNs = nowNs - probe.txNs

variable {identity : Identity} {state : State numPlanes}

theorem Invariant.emit (inv : Invariant identity state) {plane : Fin numPlanes} {nowNs : Int}
    (fresh : ∀ earlier ∈ state.emitted, earlier.plane = plane → earlier.txNs < nowNs)
    {clock : ProbeClock numPlanes} {reqId : Nat} {txNs : Int}
    (emitted : state.clock.emit (plane : Nat) nowNs = .ok (clock, reqId, txNs)) :
    let probe : Emission := ⟨plane, reqId, txNs⟩
    Invariant identity { state with
      clock
      emitted := state.emitted ++ [probe]
      probesSent := state.probesSent ++ (probe.payload identity).toOption.toList } := by
  intro probe
  obtain ⟨index, samePlane, rfl, -, entries⟩ := ProbeClock.emit_ok emitted
  have indexEq : index = plane := Fin.ext (by exact_mod_cast samePlane)
  subst indexEq
  refine ⟨?_, ?_, ?_, ?_, inv.once, ?_, ?_⟩
  · refine List.pairwise_append.mpr ⟨inv.ordered, List.pairwise_singleton _ _, ?_⟩
    intro earlier earlierMem later laterMem samePlane
    rw [List.mem_singleton.mp laterMem] at samePlane ⊢
    exact fresh earlier earlierMem samePlane
  · intro other entry mem
    rcases entries other entry mem with ⟨rfl, rfl⟩ | ⟨before, -⟩
    · refine ⟨List.mem_append_right _ (List.mem_singleton_self _), ?_⟩
      intro signalled
      obtain ⟨signal, signalMem, signalProbe⟩ := List.mem_map.mp signalled
      have earlier := fresh signal.probe (inv.known signal signalMem) (by rw [signalProbe])
      rw [signalProbe] at earlier
      exact lt_irrefl _ earlier
    · obtain ⟨wasEmitted, unsignalled⟩ := inv.awaited other entry before
      exact ⟨List.mem_append_left _ wasEmitted, unsignalled⟩
  · intro payload mem
    rcases List.mem_append.mp mem with before | new
    · obtain ⟨earlier, earlierMem, encoded⟩ := inv.probes payload before
      exact ⟨earlier, List.mem_append_left _ earlierMem, encoded⟩
    · refine ⟨probe, List.mem_append_right _ (List.mem_singleton_self _), ?_⟩
      cases encoded : probe.payload identity with
      | error error =>
          rw [encoded] at new
          cases new
      | ok sent =>
          rw [encoded] at new
          rw [List.mem_singleton.mp new]
  · intro payload mem
    obtain ⟨earlier, earlierMem, echo⟩ := inv.replies payload mem
    exact ⟨earlier, List.mem_append_left _ earlierMem, echo⟩
  · intro signal mem
    exact List.mem_append_left _ (inv.known signal mem)
  · intro reply nowNs rttNs mem
    obtain ⟨earlier, earlierMem, echo⟩ := inv.echoed reply nowNs rttNs mem
    exact ⟨earlier, List.mem_append_left _ earlierMem, echo⟩

theorem Invariant.answer (inv : Invariant identity state) {payload : List UInt8}
    (sent : payload ∈ state.probesSent) :
    Invariant identity { state with
      repliesSent := state.repliesSent ++ (answerProbe payload).toOption.toList } := by
  refine ⟨inv.ordered, inv.awaited, inv.probes, ?_, inv.once, inv.known, inv.echoed⟩
  intro reply mem
  rcases List.mem_append.mp mem with before | new
  · exact inv.replies reply before
  · obtain ⟨probe, probeMem, encoded⟩ := inv.probes payload sent
    refine ⟨probe, probeMem, payload, encoded, ?_⟩
    cases answered : answerProbe payload with
    | error error =>
        rw [answered] at new
        cases new
    | ok echoed =>
        rw [answered] at new
        rw [List.mem_singleton.mp new]

/-- A stale reply leaves the outstanding probes as they were. -/
theorem Invariant.stale (inv : Invariant identity state) {clock : ProbeClock numPlanes}
    (same : clock.outstanding = state.clock.outstanding) :
    Invariant identity { state with clock } := by
  refine ⟨inv.ordered, ?_, inv.probes, inv.replies, inv.once, inv.known, inv.echoed⟩
  intro plane entry mem
  rw [same] at mem
  exact inv.awaited plane entry mem

/-- A matched reply settles one awaited probe, the one it echoes. -/
theorem Invariant.matched (inv : Invariant identity state) {payload : List UInt8}
    (sent : payload ∈ state.repliesSent) {reply : ProbeReply}
    (decoded : decodeProbeReply payload = .ok reply) {clock : ProbeClock numPlanes}
    {nowNs rttNs : Int}
    (returned : state.clock.matchReply reply.reqId.toNat reply.planeId.toNat reply.txNs.toNat
      nowNs = .ok (clock, some rttNs)) :
    Invariant identity { state with
      clock, signals := state.signals ++ [.rtt reply nowNs rttNs] } := by
  obtain ⟨probe, probeMem, echo⟩ := inv.replies payload sent
  obtain ⟨planeEq, reqIdEq, txNsEq⟩ := echo.names decoded
  obtain ⟨index, indexEq, ⟨impossible, -⟩ | ⟨rttEq, held, rest⟩⟩ :=
    ProbeClock.matchReply_ok returned
  · cases impossible
  have indexNat : (index : Nat) = reply.planeId.toNat := by exact_mod_cast indexEq
  have settled : (Signal.rtt reply nowNs rttNs).probe =
      ⟨index, reply.reqId.toNat, reply.txNs.toNat⟩ := by
    rw [indexNat]
    rfl
  obtain ⟨wasEmitted, unsignalled⟩ := inv.awaited index _ held
  rw [← settled] at wasEmitted unsignalled
  refine ⟨inv.ordered, ?_, inv.probes, inv.replies, ?_, ?_, ?_⟩
  · intro plane entry mem
    obtain ⟨before, others⟩ := rest plane entry mem
    obtain ⟨entryEmitted, entryUnsignalled⟩ := inv.awaited plane entry before
    refine ⟨entryEmitted, ?_⟩
    rw [List.map_append, List.mem_append, not_or]
    refine ⟨entryUnsignalled, ?_⟩
    intro last
    have same := (List.mem_singleton.mp last).trans settled
    injection same with samePlane sameReqId
    exact others ⟨Fin.ext samePlane, sameReqId⟩
  · rw [List.map_append]
    exact List.nodup_append'.mpr ⟨inv.once, List.nodup_singleton _,
      List.disjoint_singleton.mpr unsignalled⟩
  · intro signal mem
    rcases List.mem_append.mp mem with before | last
    · exact inv.known signal before
    · rw [List.mem_singleton.mp last]
      exact wasEmitted
  · intro reply' nowNs' rttNs' mem
    rcases List.mem_append.mp mem with before | last
    · exact inv.echoed reply' nowNs' rttNs' before
    · cases List.mem_singleton.mp last
      refine ⟨probe, probeMem, payload, echo, decoded, ?_⟩
      rw [← txNsEq]
      exact Option.some.inj rttEq

/-- A sweep signals the probes it removes. -/
theorem Invariant.sweep (inv : Invariant identity state) (nowNs : Int) :
    Invariant identity { state with
      clock := (state.clock.sweepTimeouts nowNs).1
      signals := state.signals ++
        (state.clock.expired nowNs).map fun (plane, reqId, txNs) =>
          .timeout plane reqId txNs } := by
  have probes : ((state.clock.expired nowNs).map fun (plane, reqId, txNs) =>
      Signal.timeout plane reqId txNs).map Signal.probe =
      (state.clock.expired nowNs).map fun (plane, reqId, txNs) => ⟨plane, reqId, txNs⟩ := by
    rw [List.map_map]
    rfl
  have expired : ∀ probe : Emission,
      probe ∈ ((state.clock.expired nowNs).map fun (plane, reqId, txNs) =>
        Signal.timeout plane reqId txNs).map Signal.probe →
      ∃ (plane : Fin numPlanes) (entry : Nat × Int),
        (plane, entry) ∈ state.clock.expired nowNs ∧ probe = ⟨plane, entry.1, entry.2⟩ := by
    intro probe mem
    rw [probes] at mem
    obtain ⟨⟨plane, entry⟩, due, rfl⟩ := List.mem_map.mp mem
    exact ⟨plane, entry, due, rfl⟩
  refine ⟨inv.ordered, ?_, inv.probes, inv.replies, ?_, ?_, ?_⟩
  · intro plane entry mem
    obtain ⟨before, notDue⟩ := ProbeClock.mem_sweepTimeouts mem
    obtain ⟨wasEmitted, unsignalled⟩ := inv.awaited plane entry before
    refine ⟨wasEmitted, ?_⟩
    rw [List.map_append, List.mem_append, not_or]
    refine ⟨unsignalled, ?_⟩
    intro swept
    obtain ⟨plane', entry', due, same⟩ := expired _ swept
    injection same with samePlane sameReqId sameTxNs
    obtain rfl : plane = plane' := Fin.ext samePlane
    obtain rfl : entry = entry' := Prod.ext sameReqId sameTxNs
    exact notDue due
  · rw [List.map_append]
    refine List.nodup_append'.mpr ⟨inv.once, ?_, ?_⟩
    · rw [probes]
      refine (List.Nodup.of_map _ (ProbeClock.nodup_expired state.clock nowNs)).map ?_
      rintro ⟨plane, reqId, txNs⟩ ⟨plane', reqId', txNs'⟩ same
      injection same with samePlane sameReqId sameTxNs
      rw [Fin.ext samePlane, sameReqId, sameTxNs]
    · rw [List.disjoint_left]
      intro probe before swept
      obtain ⟨plane, entry, due, rfl⟩ := expired probe swept
      exact (inv.awaited plane entry (ProbeClock.mem_expired_iff.mp due).1).2 before
  · intro signal mem
    rcases List.mem_append.mp mem with before | swept
    · exact inv.known signal before
    · obtain ⟨plane, entry, due, same⟩ := expired signal.probe (List.mem_map_of_mem swept)
      rw [same]
      exact (inv.awaited plane entry (ProbeClock.mem_expired_iff.mp due).1).1
  · intro reply nowNs' rttNs mem
    rcases List.mem_append.mp mem with before | swept
    · exact inv.echoed reply nowNs' rttNs before
    · obtain ⟨_, _, impossible⟩ := List.mem_map.mp swept
      cases impossible

theorem Invariant.step (inv : Invariant identity state) {action : Action numPlanes}
    {later : State numPlanes} (stepped : next identity state action = some later) :
    Invariant identity later := by
  cases action with
  | emit plane nowNs =>
      simp only [next] at stepped
      split at stepped
      · next fresh =>
        split at stepped
        · cases stepped
          exact inv
        · next emitted =>
          cases stepped
          exact inv.emit fresh emitted
      · cases stepped
  | answer payload =>
      simp only [next] at stepped
      split at stepped
      · next sent =>
        cases stepped
        exact inv.answer sent
      · cases stepped
  | process payload nowNs =>
      simp only [next] at stepped
      split at stepped
      · next sent =>
        split at stepped
        · cases stepped
          exact inv
        · next reply decoded =>
          split at stepped
          · cases stepped
            exact inv
          · next clock returned =>
            cases stepped
            obtain ⟨index, -, ⟨-, same⟩ | ⟨impossible, -⟩⟩ := ProbeClock.matchReply_ok returned
            · exact inv.stale same
            · cases impossible
          · next clock rttNs returned =>
            cases stepped
            exact inv.matched sent decoded returned
      · cases stepped
  | sweep nowNs =>
      cases stepped
      exact inv.sweep nowNs

theorem Invariant.start {clock : ProbeClock numPlanes} {probeTimeoutNs maxOutstanding : Int}
    (built : ProbeClock.init numPlanes probeTimeoutNs maxOutstanding = .ok clock) :
    Invariant identity (protocol identity clock).start := by
  have blank : ∀ plane, clock.outstanding plane = .empty := by
    unfold ProbeClock.init at built
    repeat (split at built; · cases built)
    rw [← Except.ok.inj built]
    intro plane
    rfl
  refine ⟨List.Pairwise.nil, ?_, by simp [protocol], by simp [protocol], List.nodup_nil,
    by simp [protocol], by simp [protocol]⟩
  intro plane entry mem
  rw [show (protocol identity clock).start.clock = clock from rfl, blank plane] at mem
  cases mem

/-- Exactly-once attribution.  However the network drops, delays, reorders and
duplicates, and however often request ids are reused: no two probes are the same, every
signal is about an emitted probe, no probe has two signals, and an RTT is the one of
the probe whose echo was processed, on that probe's plane. -/
theorem signals_attributed_once {clock : ProbeClock numPlanes}
    {probeTimeoutNs maxOutstanding : Int}
    (built : ProbeClock.init numPlanes probeTimeoutNs maxOutstanding = .ok clock)
    {state : State numPlanes} (reachable : (protocol identity clock).Reachable state) :
    state.emitted.Nodup ∧
      (∀ signal ∈ state.signals, signal.probe ∈ state.emitted) ∧
      (∀ probe ∈ state.emitted, (state.signals.map Signal.probe).count probe ≤ 1) ∧
      ∀ reply nowNs rttNs, .rtt reply nowNs rttNs ∈ state.signals →
        ∃ probe ∈ state.emitted, (Signal.rtt reply nowNs rttNs).probe = probe ∧
          probe.plane = reply.planeId.toNat ∧ rttNs = nowNs - probe.txNs ∧
          ∃ payload, probe.Echo identity payload ∧ decodeProbeReply payload = .ok reply := by
  have inv : Invariant identity state :=
    Machine.Reachable.invariant (Invariant.start built) (fun _ _ _ inv stepped => inv.step stepped)
      reachable
  refine ⟨?_, inv.known, ?_, ?_⟩
  · refine inv.ordered.imp ?_
    intro earlier later increasing same
    exact absurd (increasing (by rw [same])) (by rw [same]; exact lt_irrefl _)
  · intro probe _
    exact List.nodup_iff_count_le_one.mp inv.once probe
  · intro reply nowNs rttNs mem
    obtain ⟨probe, probeMem, payload, echo, decoded, rttEq⟩ := inv.echoed reply nowNs rttNs mem
    obtain ⟨planeEq, reqIdEq, txNsEq⟩ := echo.names decoded
    refine ⟨probe, probeMem, ?_, planeEq.symm, rttEq, payload, echo, decoded⟩
    rw [Signal.probe, planeEq, reqIdEq, txNsEq]

/-- A probe, its answer, and the answer delivered twice. -/
def duplicatedReply : List (Action 2) :=
  let reply := pack (probeFields magicProbeReply 0 1 100 0 1 0 9997)
  [.emit 1 100, .answer (pack (probeFields magicProbe 0 1 100 0 1 0 9997)), .process reply 250,
    .process reply 300]

/-- The duplicate is stale: one signal. -/
theorem duplicated_reply_signals_once :
    ∃ (clock : ProbeClock 2) (state : State 2), ProbeClock.init 2 50000000 256 = .ok clock ∧
      (protocol ⟨1, 0, 9997⟩ clock).Reachable state ∧ state.emitted = [⟨1, 0, 100⟩] ∧
      (state.signals.map Signal.probe).count ⟨1, 0, 100⟩ ≤ 1 := by
  have completes : (((protocol ⟨1, 0, 9997⟩ ⟨50000000, 256, fun _ => {}, 0⟩).run
      ⟨⟨50000000, 256, fun _ => {}, 0⟩, [], [], [], []⟩ duplicatedReply).map State.emitted) =
      some [⟨1, 0, 100⟩] := by
    decide +kernel
  obtain ⟨state, ran, emittedEq⟩ := Option.map_eq_some_iff.mp completes
  have built : ProbeClock.init 2 50000000 256 = .ok ⟨50000000, 256, fun _ => {}, 0⟩ := rfl
  refine ⟨_, state, built, ⟨_, ran⟩, emittedEq, ?_⟩
  refine (signals_attributed_once built ⟨_, ran⟩).2.2.1 _ ?_
  rw [emittedEq]
  exact List.mem_singleton_self _

end Srv6Fabric.Mrc.ProbeProtocol

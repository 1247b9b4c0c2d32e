import Srv6Fabric.Mrc.LossCompute
import Srv6Fabric.Mrc.ProbeClock
import Srv6Fabric.Topo

/-!
# The sender agent

The state of a `SenderMrcAgent` and one iteration of each of its loops.  A clock read
is an argument.  An iteration is one step: it is given the datagram its socket
delivered, and says whether an exception left the loop body.
-/

namespace Srv6Fabric.Mrc

open Srv6Fabric.Library

/-- Cadences in milliseconds, all positive. -/
structure AgentConfig where
  probeIntervalMs : Int := 200
  probeTimeoutMs : Int := 100
  lossWindowMs : Int := 200
  maxWindowSkewMs : Int := 500
  positive : 0 < probeIntervalMs ∧ 0 < probeTimeoutMs ∧ 0 < lossWindowMs ∧ 0 < maxWindowSkewMs := by
    decide

/-- `AgentConfig(...)`: the first field that is not positive is named. -/
def AgentConfig.new (probeIntervalMs probeTimeoutMs lossWindowMs maxWindowSkewMs : Int) :
    Except PyError AgentConfig :=
  let refuse (name : String) (value : Int) : Except PyError AgentConfig :=
    .error (.valueError s!"{name} must be positive, got {value}")
  if interval : 0 < probeIntervalMs then
    if timeout : 0 < probeTimeoutMs then
      if window : 0 < lossWindowMs then
        if skew : 0 < maxWindowSkewMs then
          .ok ⟨probeIntervalMs, probeTimeoutMs, lossWindowMs, maxWindowSkewMs,
            interval, timeout, window, skew⟩
        else refuse "max_window_skew_ms" maxWindowSkewMs
      else refuse "loss_window_ms" lossWindowMs
    else refuse "probe_timeout_ms" probeTimeoutMs
  else refuse "probe_interval_ms" probeIntervalMs

/-- `SPRAY_REPORT_PORT`. -/
def sprayReportPort : Int := 9997

/-- `DEFAULT_RECV_BUFSIZE`: what is left of a longer datagram is lost. -/
def defaultRecvBufsize : Nat := 4096

structure SenderMrcAgent (numPlanes : Nat) where
  tenant : String
  tenantId : Nat
  srcId : Int
  dstId : Int
  table : EVStateTable numPlanes
  cfg : AgentConfig
  stats : LossFusionStats
  probeClock : ProbeClock numPlanes
  sentRing : SentWindowRing numPlanes
  currentWindowSent : Fin numPlanes → Nat
  currentWindowStartNs : Int
  currentWindowId : UInt16

/-- One iteration of a receive loop: the agent it leaves, the `record_*` calls it made
that returned, and the exception that left the loop body, if any. -/
structure Iteration (numPlanes : Nat) where
  agent : SenderMrcAgent numPlanes
  calls : List EVStateTable.Call := []
  raised : Option PyError := none

namespace SenderMrcAgent

variable {numPlanes : Nat}

/-- The constructor, for a table over the topology's planes. -/
def init (topo : Topo) (tenant : String) (srcId dstId : Int) (table : EVStateTable topo.numPlanes)
    (cfg : AgentConfig) (nowNs : Int) : Except PyError (SenderMrcAgent topo.numPlanes) :=
  if tenant ∉ table.tenants then
    .error (.valueError s!"tenant {pyRepr tenant} not in table {pyReprTuple table.tenants}")
  else do
    let tenantId ← topo.tenantId tenant
    let probeClock ← ProbeClock.init topo.numPlanes (cfg.probeTimeoutMs * 1000000) 256
    let sentRing ← SentWindowRing.init topo.numPlanes 16
    .ok { tenant, tenantId, srcId, dstId, table, cfg, probeClock, sentRing
          stats := {}
          currentWindowSent := fun _ => 0
          currentWindowStartNs := nowNs
          currentWindowId := 0 }

/-- Count one sent packet; a plane out of range is dropped. -/
def recordSent (agent : SenderMrcAgent numPlanes) (plane : Int) : SenderMrcAgent numPlanes :=
  match checkPlane numPlanes plane with
  | .ok index =>
      { agent with
        currentWindowSent :=
          Function.update agent.currentWindowSent index (agent.currentWindowSent index + 1) }
  | .error _ => agent

/-- The current window as `_rotate_window` closes it. -/
def closedWindow (agent : SenderMrcAgent numPlanes) (nowNs : Int) : SentWindow where
  startNs := agent.currentWindowStartNs
  endNs := nowNs
  sent := List.ofFn agent.currentWindowSent
  windowId := agent.currentWindowId

/-- `_rotate_window`: close the current window; a window without packets is not kept. -/
def rotateWindow (agent : SenderMrcAgent numPlanes) (nowNs : Int) :
    Except PyError (SenderMrcAgent numPlanes) :=
  let window := agent.closedWindow nowNs
  let opened := { agent with
    currentWindowSent := fun _ => 0
    currentWindowStartNs := nowNs
    currentWindowId := agent.currentWindowId + 1 }
  if window.sent.any (0 < ·) then do
    let sentRing ← agent.sentRing.push window
    .ok { opened with sentRing }
  else .ok opened

/-- One plane's turn in `_emit_loop`: the payload, unless it does not encode. -/
def emitProbe (agent : SenderMrcAgent numPlanes) (plane : Fin numPlanes) (nowNs : Int) :
    Except PyError (SenderMrcAgent numPlanes × Option (List UInt8)) := do
  let (probeClock, reqId, txNs) ← agent.probeClock.emit (plane : Nat) nowNs
  .ok ({ agent with probeClock },
    (encodeProbe reqId (plane : Nat) txNs agent.tenantId agent.srcId sprayReportPort).toOption)

/-- The loop of `_sweep_loop` over the timed-out probes. -/
def recordTimeouts (agent : SenderMrcAgent numPlanes) :
    List (Fin numPlanes × Nat) → Iteration numPlanes
  | [] => { agent }
  | (plane, _) :: rest =>
      let call : EVStateTable.Call := .probe agent.tenant (plane : Nat) false none
      match agent.table.call call with
      | .error error => { agent, raised := some error }
      | .ok table =>
          let later := recordTimeouts { agent with table } rest
          { later with calls := call :: later.calls }

/-- One iteration of `_sweep_loop`. -/
def sweep (agent : SenderMrcAgent numPlanes) (nowNs : Int) : Iteration numPlanes :=
  let (probeClock, timeouts) := agent.probeClock.sweepTimeouts nowNs
  recordTimeouts { agent with probeClock } timeouts

/-- One iteration of `_reply_rx_loop`. -/
def replyRx (agent : SenderMrcAgent numPlanes) (datagram : List UInt8) (nowNs : Int) :
    Iteration numPlanes :=
  match decodeProbeReply (datagram.take defaultRecvBufsize) with
  | .error (.probeDecodeError _) => { agent }
  | .error error => { agent, raised := some error }
  | .ok reply =>
      match agent.probeClock.matchReply reply.reqId.toNat reply.planeId.toNat reply.txNs.toNat
          nowNs with
      | .error error => { agent, raised := some error }
      | .ok (probeClock, none) => { agent := { agent with probeClock } }
      | .ok (probeClock, some rttNs) =>
          let call : EVStateTable.Call :=
            .probe agent.tenant reply.planeId.toNat true (some rttNs)
          match agent.table.call call with
          | .error error => { agent := { agent with probeClock }, raised := some error }
          | .ok table => { agent := { agent with probeClock, table }, calls := [call] }

/-- The window a report received now is paired with. -/
def pairedWindow (agent : SenderMrcAgent numPlanes) (nowNs : Int) : Option SentWindow :=
  agent.sentRing.findClosest nowNs (agent.cfg.maxWindowSkewMs * 1000000)

/-- `apply_loss_report` with the arguments of `_report_rx_loop`. -/
def fuse (agent : SenderMrcAgent numPlanes) (report : LossReport) (nowNs : Int) :
    Fusion numPlanes :=
  applyLossReport agent.table agent.tenant report agent.sentRing nowNs
    (agent.cfg.maxWindowSkewMs * 1000000) agent.stats

/-- What the loop goes on with after a report. -/
def fused (agent : SenderMrcAgent numPlanes) (report : LossReport) (nowNs : Int) :
    SenderMrcAgent numPlanes :=
  { agent with
    table := (agent.fuse report nowNs).table
    stats := (agent.fuse report nowNs).stats }

/-- One iteration of `_report_rx_loop`. -/
def reportRx (agent : SenderMrcAgent numPlanes) (datagram : List UInt8) (nowNs : Int) :
    Iteration numPlanes :=
  match decodeLossReport (datagram.take defaultRecvBufsize) with
  | .error (.probeDecodeError _) => { agent }
  | .error error => { agent, raised := some error }
  | .ok report =>
      { agent := agent.fused report nowNs
        calls := (agent.fuse report nowNs).calls
        raised := (agent.fuse report nowNs).raised }

end SenderMrcAgent

/-! ## A fresh agent of the green tenant under the defaults -/

def greenTable (numPlanes : Nat) : EVStateTable numPlanes where
  tenants := ["green"]
  cfg := {}
  minActive := ({} : EVStateConfig).resolveMinActive numPlanes
  planes := OrderedDict.empty.set "green" fun _ => {}
  weightsCache := OrderedDict.empty.set "green"
    (EVStateTable.normalizedWeights fun _ : Fin numPlanes => {})
  events := []

/-- Host 0, constructed at time 0. -/
def greenAgent (numPlanes : Nat) (dstId : Int) : SenderMrcAgent numPlanes where
  tenant := "green"
  tenantId := 1
  srcId := 0
  dstId := dstId
  table := greenTable numPlanes
  cfg := {}
  stats := {}
  probeClock := ⟨100000000, 256, fun _ => {}, 0⟩
  sentRing := .empty numPlanes 16
  currentWindowSent := fun _ => 0
  currentWindowStartNs := 0
  currentWindowId := 0

theorem init_greenTable_two :
    EVStateTable.init ["green"] Topo.twoPlanes.numPlanes {} = .ok (greenTable 2) := rfl

theorem init_greenAgent_two :
    SenderMrcAgent.init Topo.twoPlanes "green" 0 7 (greenTable 2) {} 0 = .ok (greenAgent 2 7) := rfl

theorem init_greenTable_four :
    EVStateTable.init ["green"] Topo.fourPlanes.numPlanes {} = .ok (greenTable 4) := rfl

theorem init_greenAgent_four :
    SenderMrcAgent.init Topo.fourPlanes "green" 0 15 (greenTable 4) {} 0 = .ok (greenAgent 4 15) :=
  rfl

end Srv6Fabric.Mrc

import Srv6Fabric.Mrc.Agent
import Srv6Fabric.Mrc.LossWindow

/-!
# The receiver agent

The state of a `ReceiverMrcAgent`, its data hook, one iteration of its probe loop, and
the report thread cut into the steps between which another thread can take a lock.
-/

namespace Srv6Fabric.Mrc

open Srv6Fabric.Library

/-- A flow key as `record_data` is handed it: a tuple of integers, or some other
hashable value. -/
inductive RecvFlowKey where
  | tuple (parts : List Int)
  | other (name : String)
  deriving DecidableEq, Repr

/-- The sender a flow key names: the first two parts of a tuple of two or more. -/
def RecvFlowKey.sender? : RecvFlowKey → Option (Int × Int)
  | .tuple (tenantId :: srcId :: _) => some (tenantId, srcId)
  | _ => none

/-- `_SenderAddr`. -/
structure SenderAddr where
  underlayAddr : String
  reportPort : Nat
  deriving DecidableEq, Repr

structure ReceiverMrcAgent (numPlanes : Nat) where
  lossTable : LossWindowTable RecvFlowKey numPlanes
  senders : OrderedDict (Int × Int) SenderAddr

namespace ReceiverMrcAgent

variable {numPlanes : Nat}

def init (numPlanes : Nat) : Except PyError (ReceiverMrcAgent numPlanes) := do
  let lossTable ← LossWindowTable.init numPlanes
  .ok { lossTable, senders := .empty }

/-- `record_data`. -/
def recordData (agent : ReceiverMrcAgent numPlanes) (flowKey : RecvFlowKey) (plane seq : Int) :
    Except PyError (ReceiverMrcAgent numPlanes) := do
  let lossTable ← agent.lossTable.record flowKey plane seq
  .ok { agent with lossTable }

/-- `_learn_sender`. -/
def learnSender (agent : ReceiverMrcAgent numPlanes) (tenantId srcId : Int)
    (underlayAddr : String) (reportPort : Nat) : ReceiverMrcAgent numPlanes :=
  { agent with senders := agent.senders.set (tenantId, srcId) ⟨underlayAddr, reportPort⟩ }

/-- One iteration of `_probe_rx_loop` for a datagram from `peer`: the agent, and the
reply it sends. -/
def probeRx (agent : ReceiverMrcAgent numPlanes) (datagram : List UInt8) (peer : String) :
    ReceiverMrcAgent numPlanes × Option (List UInt8) :=
  match decodeProbe (datagram.take defaultRecvBufsize) with
  | .error _ => (agent, none)
  | .ok probe =>
      (agent.learnSender probe.tenantId.toNat probe.srcId.toNat peer probe.replyPort.toNat,
        (encodeProbeReply probe.reqId.toNat probe.planeId.toNat probe.txNs.toNat 0
          probe.tenantId.toNat probe.srcId.toNat probe.replyPort.toNat).toOption)

end ReceiverMrcAgent

/-! ## The report thread -/

/-- Where the report thread stands: between two rounds, before a flow, with a report in
hand, or ended by an exception. -/
inductive EmitRound where
  | waiting
  | working (flows : List RecvFlowKey)
  | routing (flowKey : RecvFlowKey) (report : LossReport) (flows : List RecvFlowKey)
  | ended (error : PyError)
  deriving DecidableEq, Repr

/-- A LOSS_REPORT handed to `sendto`, and the flow it is about. -/
structure SentReport where
  flowKey : RecvFlowKey
  addr : SenderAddr
  payload : List UInt8
  deriving DecidableEq, Repr

/-- What is sent of a report: it needs the sender's address and a payload. -/
def ReceiverMrcAgent.route {numPlanes : Nat} (agent : ReceiverMrcAgent numPlanes)
    (flowKey : RecvFlowKey) (report : LossReport) : Option SentReport :=
  (flowKey.sender?.bind agent.senders.find?).bind fun addr =>
    (encodeLossReport report.windowId.toNat report.planes).toOption.map fun payload =>
      ⟨flowKey, addr, payload⟩

/-- One step of `_emit_one_round`: read the flows, cut one flow's window, or send its
report; a round that has run through its flows is over. -/
def ReceiverMrcAgent.emitStep {numPlanes : Nat} (agent : ReceiverMrcAgent numPlanes) :
    EmitRound → ReceiverMrcAgent numPlanes × EmitRound × Option SentReport
  | .waiting => (agent, .working agent.lossTable.knownFlows, none)
  | .working [] => (agent, .waiting, none)
  | .working (flowKey :: flows) =>
      let (lossTable, result) := agent.lossTable.snapshotAndReset flowKey
      match result with
      | .error error => ({ agent with lossTable }, .ended error, none)
      | .ok report =>
          if report.planes = [] then ({ agent with lossTable }, .working flows, none)
          else ({ agent with lossTable }, .routing flowKey report flows, none)
  | .routing flowKey report flows => (agent, .working flows, agent.route flowKey report)
  | .ended error => (agent, .ended error, none)

end Srv6Fabric.Mrc

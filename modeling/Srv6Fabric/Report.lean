import Srv6Fabric.IntText
import Srv6Fabric.IpAddress
import Srv6Fabric.Library.OrderedDict
import Srv6Fabric.Topo
import Srv6Fabric.Yaml

/-!
# The merged scenario report

`ScenarioReport.from_records`: one row for each sender record, filled from the flow its
receiver saw, and a warning for each flow no row was filled from.  An entry the source
reads with `get` may be absent.  The mappings from planes and distances to counts have
integer keys again once `int(k)` has undone the JSON text.
-/

namespace Srv6Fabric

open Library

/-- What `SenderResult.to_dict` returns. -/
structure SenderRecord where
  src : String
  dst : String
  tenant : String
  policy : String
  spine : Nat
  ratePps : Nat
  durationS : PyFloat
  sent : Nat
  elapsedS : PyFloat
  perPlaneSent : OrderedDict Int Nat
  errors : Option Nat := none
  mrc : Option Yaml := none

/-- What `FlowStats.to_dict` returns, as far as the report reads it. -/
structure FlowRecord where
  src : String
  dst : String
  sport : Nat
  dport : Nat
  received : Nat
  loss : Nat
  duplicates : Nat
  reorderMax : Nat
  reorderMean : PyFloat
  reorderP99 : Nat
  reorderHist : Option (OrderedDict Int Nat) := none
  perPlaneRecv : Option (OrderedDict Int Nat) := none

/-- What `run_receiver` returns, as far as the report reads it: `shown` is its `repr`, and
`perNicAttached` the mark the report leaves in it. -/
structure ReceiverRecord where
  host : Option String
  flows : Option (List FlowRecord)
  perNic : Option (OrderedDict String Nat) := none
  perNicAttached : Bool := false
  shown : String := ""

/-- Single sender↔receiver pairing. -/
structure FlowRow where
  srcHost : String
  dstHost : String
  tenant : String
  policy : String
  spine : Nat
  ratePps : Nat
  durationS : PyFloat
  sent : Nat := 0
  elapsedS : PyFloat := .zero
  perPlaneSent : OrderedDict Int Nat := .empty
  sendErrors : Nat := 0
  received : Option Nat := none
  loss : Option Nat := none
  duplicates : Option Nat := none
  reorderMax : Option Nat := none
  reorderMean : Option PyFloat := none
  reorderP99 : Option Nat := none
  reorderHist : OrderedDict Int Nat := .empty
  reordered : Option Nat := none
  perPlaneRecv : OrderedDict Int Nat := .empty
  perNicRx : OrderedDict String Nat := .empty
  notes : List String := []
  mrc : Option Yaml := none

structure ScenarioReport where
  scenario : String
  flows : List FlowRow
  warnings : List String

namespace ScenarioReport

/-- `_canon_addr`. -/
def canonAddr (text : String) : String :=
  match IpAddress.ofText text with
  | some address => address.str
  | none => text

/-! ## Receiver records -/

/-- One round of the loop that builds `recv_by_host`, with its warnings. -/
def keepReceiver (state : OrderedDict String ReceiverRecord × List String)
    (record : ReceiverRecord) : OrderedDict String ReceiverRecord × List String :=
  match record.host with
  | none =>
      (state.1, state.2 ++ [s!"receiver record without 'host' field: {record.shown}"])
  | some host =>
      if (state.1.find? host).isSome then
        (state.1, state.2 ++ [s!"duplicate receiver record for host={host}; "
          ++ "keeping first, ignoring second"])
      else (state.1.set host record, state.2)

def keepReceivers (records : List ReceiverRecord) :
    OrderedDict String ReceiverRecord × List String :=
  records.foldl keepReceiver (.empty, [])

/-! ## Rows -/

/-- The row of a sender record before any match. -/
def senderRow (record : SenderRecord) : FlowRow where
  srcHost := record.src
  dstHost := record.dst
  tenant := record.tenant
  policy := record.policy
  spine := record.spine
  ratePps := record.ratePps
  durationS := record.durationS
  sent := record.sent
  elapsedS := record.elapsedS
  perPlaneSent := record.perPlaneSent
  sendErrors := record.errors.getD 0
  mrc := record.mrc

/-- The receive-side numbers of a matched flow. -/
def fillRow (row : FlowRow) (flow : FlowRecord) : FlowRow :=
  let reorderHist := flow.reorderHist.getD .empty
  { row with
    received := some flow.received
    loss := some flow.loss
    duplicates := some flow.duplicates
    reorderMax := some flow.reorderMax
    reorderMean := some flow.reorderMean
    reorderP99 := some flow.reorderP99
    reorderHist
    reordered := some ((reorderHist.entries.filter fun entry => 0 < entry.1).map Prod.snd).sum
    perPlaneRecv := flow.perPlaneRecv.getD .empty }

/-- `int(host.rsplit("host", 1)[1])`, where it does not raise. -/
def hostId? (host : String) : Option Int :=
  (afterLast "host".toList host.toList).bind (intOfText? ∘ String.ofList)

/-- A flow between two canonical addresses. -/
def between (src dst : String) (flow : FlowRecord) : Bool :=
  canonAddr flow.src = src && canonAddr flow.dst = dst

/-- What the merge loop carries: `recv_by_host`, `matched_receiver_flows` and the rows. -/
structure Merge where
  kept : OrderedDict String ReceiverRecord
  matched : List (String × FlowKey)
  rows : List FlowRow

/-- `report.flows.append(row)`. -/
def Merge.append (state : Merge) (row : FlowRow) : Merge :=
  { state with rows := state.rows ++ [row] }

/-- The end of a round with a match: the row is filled, and the first row filled from a
record gets its aggregate counts. -/
def Merge.attach (state : Merge) (row : FlowRow) (recv : ReceiverRecord) (flow : FlowRecord) :
    Merge :=
  let filled := fillRow row flow
  if recv.perNicAttached then state.append filled
  else
    { state with kept := state.kept.set row.dstHost { recv with perNicAttached := true } }.append
      { filled with perNicRx := recv.perNic.getD .empty }

/-- One round of the loop over the sender records. -/
def mergeSender (topo : Topo) (state : Merge) (record : SenderRecord) :
    Except PyError Merge :=
  let row := senderRow record
  match state.kept.find? row.dstHost with
  | none => .ok (state.append { row with notes := [s!"no receiver record for dst={row.dstHost}"] })
  | some recv =>
      match hostId? row.srcHost, hostId? row.dstHost with
      | some srcId, some dstId => do
          let srcAddr ← topo.innerAddr row.tenant srcId
          let dstAddr ← topo.innerAddr row.tenant dstId
          let srcCanon := canonAddr srcAddr
          let dstCanon := canonAddr dstAddr
          let some flows := recv.flows | .error (.keyError "'flows'")
          match flows.find? (between srcCanon dstCanon) with
          | none => .ok (state.append { row with notes :=
              [s!"receiver {row.dstHost} saw no flow {srcAddr} -> {dstAddr}"] })
          | some flow =>
              let key : FlowKey := ⟨srcCanon, dstCanon, flow.sport, flow.dport⟩
              .ok ({ state with matched := (row.dstHost, key) :: state.matched }.attach
                row recv flow)
      | _, _ => .ok (state.append { row with notes :=
          [s!"cannot parse host_id from {row.srcHost}/{row.dstHost}"] })

/-! ## Orphans -/

/-- What identifies a flow among those of its host. -/
def flowKey (flow : FlowRecord) : FlowKey :=
  ⟨canonAddr flow.src, canonAddr flow.dst, flow.sport, flow.dport⟩

def orphanWarning (host : String) (flow : FlowRecord) : String :=
  s!"orphan flow at {host}: {flow.src} -> {flow.dst} ({flow.received} pkts)"

/-- The warnings about one record's flows. -/
def orphanWarnings (matched : List (String × FlowKey)) (host : String) (record : ReceiverRecord) :
    List String :=
  ((record.flows.getD []).filter fun flow => (host, flowKey flow) ∉ matched).map
    (orphanWarning host)

/-- `from_records`, with the kept receiver records as it leaves them. -/
def fromRecords (topo : Topo) (scenario : String) (senders : List SenderRecord)
    (receivers : List ReceiverRecord) :
    Except PyError (ScenarioReport × OrderedDict String ReceiverRecord) := do
  let (kept, warnings) := keepReceivers receivers
  let state ← senders.foldlM (mergeSender topo) ⟨kept, [], []⟩
  let orphans := state.kept.entries.flatMap fun (host, record) =>
    orphanWarnings state.matched host record
  .ok (⟨scenario, state.rows, warnings ++ orphans⟩, state.kept)

end ScenarioReport

end Srv6Fabric

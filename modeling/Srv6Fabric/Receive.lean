import Srv6Fabric.HostIdentity
import Srv6Fabric.Library.PackedFields
import Srv6Fabric.Reorder
import Srv6Fabric.Usid

/-!
# The receiver's packet handler

`runner.py`: the spray payload, what `run_receiver` reads off a sniffed packet, and what
its handler counts before it calls the hook it was given.  The time of the last packet
is left out; it only ends the run.
-/

namespace Srv6Fabric

open Srv6Fabric.Library

/-! ## The payload -/

/-- `SPRAY_PORT`. -/
def sprayPort : Nat := 9999

/-- The field widths of `_PAYLOAD_HDR`. -/
def payloadHdr : List Nat := [8, 1]

/-- `_PAYLOAD_HDR_LEN`. -/
def payloadHdrLen : Nat := payloadHdr.sum

/-- `_PAD`: 32 times the letter X. -/
def pad : List UInt8 := List.replicate 32 88

/-- `encode_payload`, for the values `_PAYLOAD_HDR` takes. -/
def encodePayload (seq : UInt64) (plane : UInt8) : List UInt8 :=
  pack (payloadHdr.zip [seq.toNat, plane.toNat]) ++ pad

/-- `parse_payload`: sequence number and plane. -/
def parsePayload (raw : List UInt8) : Option (Nat × Nat) :=
  if raw.length < payloadHdrLen then none
  else
    match unpack payloadHdr (raw.take payloadHdrLen) with
    | [seq, plane] => some (seq, plane)
    | _ => none

/-- Every payload is parsed back. -/
theorem parsePayload_encodePayload (seq : UInt64) (plane : UInt8) :
    parsePayload (encodePayload seq plane) = some (seq.toNat, plane.toNat) := by
  have fits : Fits (payloadHdr.zip [seq.toNat, plane.toNat]) := by
    intro field mem
    simp only [payloadHdr, List.zip_cons_cons, List.zip_nil_right, List.mem_cons, List.not_mem_nil,
      or_false] at mem
    rcases mem with rfl | rfl
    · exact seq.toNat_lt
    · exact plane.toNat_lt
  have read := unpack_pack fits pad
  change unpack payloadHdr (encodePayload seq plane) = [seq.toNat, plane.toNat] at read
  have long : ¬ (encodePayload seq plane).length < payloadHdrLen := by
    rw [encodePayload, List.length_append, length_pack]
    exact not_lt.mpr (Nat.le_add_right _ _)
  rw [parsePayload, if_neg long, @unpack_take payloadHdr payloadHdrLen le_rfl, read]

/-! ## A sniffed packet -/

/-- A UDP datagram, as far as the handler reads it. -/
structure Udp where
  sport : Nat
  dport : Nat
  payload : List UInt8
  deriving DecidableEq, Repr

/-- An IPv6 packet and the UDP datagram in it, if any; addresses as the sniffer spells
them. -/
structure Ipv6 where
  src : String
  dst : String
  udp : Option Udp
  deriving DecidableEq, Repr

/-- The layers of a sniffed packet.  A next header of 41 announces a packet within the
packet. -/
inductive Layers where
  | noIpv6
  | encapsulated (inner : Option Ipv6)
  | plain (packet : Ipv6)
  deriving DecidableEq, Repr

/-- A packet as a sniffer hands it to its callback. -/
structure Sniffed where
  sniffedOn : Option String
  layers : Layers
  deriving DecidableEq, Repr

/-- The packet whose datagram is read: the inner one, if the SRv6 header is still on. -/
def Sniffed.carrier? (pkt : Sniffed) : Option Ipv6 :=
  match pkt.layers with
  | .noIpv6 => none
  | .encapsulated inner => inner
  | .plain packet => some packet

/-- `nic`: the interface, if the sniffer names one. -/
def Sniffed.nic (pkt : Sniffed) : String :=
  match pkt.sniffedOn with
  | none => "?"
  | some name => if name = "" then "?" else name

/-- The flow, sequence number and plane of a spray packet. -/
def Sniffed.decode (pkt : Sniffed) : Option (FlowKey × Nat × Nat) := do
  let carrier ← pkt.carrier?
  let udp ← carrier.udp
  if udp.dport = sprayPort then
    let (seq, plane) ← parsePayload udp.payload
    return (⟨carrier.src, carrier.dst, udp.sport, udp.dport⟩, seq, plane)
  else none

/-! ## The handler -/

/-- What a run of the receiver counts, and the state of the hook it was given. -/
structure Receiver (σ : Type) where
  tracker : ReorderTracker := {}
  perNic : OrderedDict String Nat := .empty
  perPlane : OrderedDict Nat Nat := .empty
  hook : σ

/-- `handle`.  An exception of the hook is logged and dropped. -/
def Receiver.handle {σ : Type} (onPacket : Option (σ → FlowKey → Nat → Nat → Except PyError σ))
    (receiver : Receiver σ) (pkt : Sniffed) : Receiver σ :=
  match pkt.decode with
  | none => receiver
  | some (flow, seq, plane) =>
      let counted := { receiver with
        tracker := receiver.tracker.observe flow ⟨seq, some plane⟩
        perNic := receiver.perNic.bump pkt.nic
        perPlane := receiver.perPlane.bump plane }
      match onPacket with
      | none => counted
      | some onPacket =>
          match onPacket receiver.hook flow plane seq with
          | .ok hook => { counted with hook }
          | .error _ => counted

/-! ## What the tracker counts -/

/-- Every arrival is counted once, as received or as a duplicate. -/
theorem FlowStats.count_observe (stats : FlowStats) (seq : Int) (plane : Option Int) :
    (stats.observe seq plane).received + (stats.observe seq plane).duplicates =
      stats.received + stats.duplicates + 1 := by
  by_cases seen : seq ∈ stats.window
  · rw [FlowStats.observe_repeat seen]
    exact (Nat.add_assoc _ _ _).symm
  · rw [FlowStats.observe_fresh seen]
    exact Nat.succ_add _ _

namespace ReorderTracker

/-- The packets counted in the flows that pass a test, received and duplicates. -/
def counted (tracker : ReorderTracker) (own : FlowKey → Bool) : Nat :=
  (tracker.flows.entries.map fun (flow, stats) =>
    if own flow then stats.received + stats.duplicates else 0).sum

theorem counted_observe (tracker : ReorderTracker) (own : FlowKey → Bool) (flow : FlowKey)
    (arrival : Arrival) :
    (tracker.observe flow arrival).counted own = tracker.counted own + if own flow then 1 else 0 := by
  have once := ((tracker.flows.find? flow).getD { flow }).count_observe arrival.seq arrival.plane
  have balance := tracker.flows.sum_set
    (fun entry => if own entry.1 then entry.2.received + entry.2.duplicates else 0) flow
    (((tracker.flows.find? flow).getD { flow }).observe arrival.seq arrival.plane)
  -- A flow that is new has counted nothing.
  have before : ((tracker.flows.find? flow).elim 0 fun old =>
        if own flow then old.received + old.duplicates else 0) =
      if own flow then ((tracker.flows.find? flow).getD { flow }).received +
        ((tracker.flows.find? flow).getD { flow }).duplicates else 0 := by
    cases tracker.flows.find? flow with
    | none => simp
    | some old => rfl
  rw [before] at balance
  rw [counted, counted, observe]
  by_cases mine : own flow
  · simp only [mine, if_true] at balance ⊢
    omega
  · simp only [mine] at balance ⊢
    simpa using balance

end ReorderTracker

end Srv6Fabric

import Mathlib.Data.List.FinRange
import Srv6Fabric.Library.OrderedDict
import Srv6Fabric.Mrc.Probe

/-!
# Receiver-side loss accounting

`loss_window.py`: per-(flow, plane) counters of received packets, cut into windows.
Flow keys are any type with decidable equality.  The lock is not modelled: one call is
one step.
-/

namespace Srv6Fabric.Mrc

open Srv6Fabric.Library

/-- `_PlaneCounters`; `-1` stands for no packet seen yet. -/
structure PlaneCounters where
  seen : Int := 0
  minSeq : Int := -1
  maxSeq : Int := -1
  maxGap : Int := 0
  lastSeq : Int := -1
  deriving DecidableEq, Repr

/-- `_FlowWindow`. -/
structure FlowWindow (numPlanes : Nat) where
  nextWindowId : UInt16 := 0
  planes : Fin numPlanes → PlaneCounters := fun _ => {}

/-- The payload fields of one data packet, as the wire holds them. -/
structure DataPacket where
  seq : UInt64
  plane : UInt8
  deriving DecidableEq, Repr

/-- Number of packets of one plane. -/
def packetsOn (packets : List DataPacket) (plane : Nat) : Nat :=
  packets.countP fun packet => packet.plane.toNat = plane

structure LossWindowTable (κ : Type) (numPlanes : Nat) where
  flows : OrderedDict κ (FlowWindow numPlanes)

/-- The counters after one more packet of the plane. -/
def PlaneCounters.record (counters : PlaneCounters) (seq : Int) : PlaneCounters where
  seen := counters.seen + 1
  minSeq := if counters.minSeq < 0 ∨ seq < counters.minSeq then seq else counters.minSeq
  maxSeq := if counters.maxSeq < seq then seq else counters.maxSeq
  maxGap :=
    if 0 ≤ counters.lastSeq ∧ counters.maxGap < seq - counters.lastSeq then seq - counters.lastSeq
    else counters.maxGap
  lastSeq := seq

/-- The largest value of a `u32` field. -/
def u32Max : Int := 0xFFFFFFFF

/-- The record of one plane in a snapshot; a plane without packets has none. -/
def PlaneCounters.snapshot (counters : PlaneCounters) (plane : Nat) :
    Except PyError (Option PlaneLossRecord) :=
  if counters.seen = 0 then .ok none
  else do
    let expectedLocal := if counters.minSeq < 0 then 0 else counters.maxSeq - counters.minSeq + 1
    let record ← PlaneLossRecord.new plane (min counters.seen u32Max) (min expectedLocal u32Max)
      (min counters.maxGap u32Max)
    .ok (some record)

/-- The records of a window, in plane order; planes without packets are left out. -/
def snapshotPlanes {numPlanes : Nat} (counters : Fin numPlanes → PlaneCounters) :
    List (Fin numPlanes) → Except PyError (List PlaneLossRecord)
  | [] => .ok []
  | plane :: rest => do
      let record ← (counters plane).snapshot plane
      let records ← snapshotPlanes counters rest
      .ok (record.toList ++ records)

namespace LossWindowTable

variable {κ : Type} [DecidableEq κ] {numPlanes : Nat}

def init (numPlanes : Nat) : Except PyError (LossWindowTable κ numPlanes) :=
  if numPlanes = 0 then .error (.valueError s!"num_planes must be positive, got {numPlanes}")
  else .ok ⟨.empty⟩

/-- The window of a flow, opened if the flow is new. -/
def flow (table : LossWindowTable κ numPlanes) (flowKey : κ) : FlowWindow numPlanes :=
  (table.flows.find? flowKey).getD {}

/-- Account for one received packet. -/
def record (table : LossWindowTable κ numPlanes) (flowKey : κ) (plane seq : Int) :
    Except PyError (LossWindowTable κ numPlanes) := do
  let plane ← checkPlane numPlanes plane
  if seq < 0 ∨ u32Max < seq then .error (.valueError s!"seq must be uint32, got {seq}")
  else
    let flow := table.flow flowKey
    let counters := (flow.planes plane).record seq
    .ok ⟨table.flows.set flowKey { flow with planes := Function.update flow.planes plane counters }⟩

/-- Close the window of a flow and reset it, keeping its window counter.  The counter
moves on before the records are built; if a record does not fit the wire, the counters
stay as they were. -/
def snapshotAndReset (table : LossWindowTable κ numPlanes) (flowKey : κ) :
    LossWindowTable κ numPlanes × Except PyError LossReport :=
  let flow := table.flow flowKey
  match snapshotPlanes flow.planes (List.finRange numPlanes) with
  | .error error =>
      (⟨table.flows.set flowKey { flow with nextWindowId := flow.nextWindowId + 1 }⟩, .error error)
  | .ok planes =>
      (⟨table.flows.set flowKey { nextWindowId := flow.nextWindowId + 1 }⟩,
        .ok ⟨flow.nextWindowId, planes⟩)

/-- `known_flows`. -/
def knownFlows (table : LossWindowTable κ numPlanes) : List κ := table.flows.keys

/-- `forget`. -/
def forget (table : LossWindowTable κ numPlanes) (flowKey : κ) : LossWindowTable κ numPlanes :=
  ⟨table.flows.erase flowKey⟩

/-- Account for received packets, in arrival order. -/
def recordAll (table : LossWindowTable κ numPlanes) (flowKey : κ) :
    List DataPacket → Except PyError (LossWindowTable κ numPlanes)
  | [] => .ok table
  | packet :: rest => do
      let table ← table.record flowKey packet.plane.toNat packet.seq.toNat
      recordAll table flowKey rest

end LossWindowTable

/-! ## What a window counts -/

/-- Counters are blank until the first packet; from then on the sequence bounds are
those of some packet. -/
structure PlaneCounters.Valid (counters : PlaneCounters) : Prop where
  maxGap : 0 ≤ counters.maxGap
  bounds : counters.seen = 0 ∧ counters.minSeq = -1 ∧ counters.maxSeq = -1 ∨
    0 < counters.seen ∧ 0 ≤ counters.minSeq ∧ counters.minSeq ≤ counters.maxSeq

theorem PlaneCounters.valid_blank : PlaneCounters.Valid {} :=
  ⟨le_refl _, Or.inl ⟨rfl, rfl, rfl⟩⟩

theorem PlaneCounters.Valid.record {counters : PlaneCounters} (valid : counters.Valid) {seq : Int}
    (nonneg : 0 ≤ seq) : (counters.record seq).Valid := by
  obtain ⟨gap, bounds⟩ := valid
  refine ⟨?_, Or.inr ?_⟩
  · simp only [PlaneCounters.record]
    split <;> omega
  · simp only [PlaneCounters.record]
    rcases bounds with ⟨seen, noMin, noMax⟩ | ⟨seen, minNonneg, ordered⟩
    · refine ⟨by omega, ?_, ?_⟩ <;> split_ifs <;> omega
    · refine ⟨by omega, ?_, ?_⟩ <;> split_ifs <;> omega

namespace LossWindowTable

variable {κ : Type} [DecidableEq κ] {numPlanes : Nat}

@[simp] theorem flow_set (table : LossWindowTable κ numPlanes) (flowKey other : κ)
    (window : FlowWindow numPlanes) :
    (⟨table.flows.set flowKey window⟩ : LossWindowTable κ numPlanes).flow other =
      if other = flowKey then window else table.flow other := by
  simp only [flow, OrderedDict.find?_set]
  split <;> rfl

/-- A packet that is recorded moves the counters of its plane. -/
theorem record_ok {table next : LossWindowTable κ numPlanes} {flowKey : κ} {plane seq : Int}
    (recorded : table.record flowKey plane seq = .ok next) :
    ∃ index : Fin numPlanes, (index : Int) = plane ∧ 0 ≤ seq ∧
      (next.flow flowKey).planes = Function.update (table.flow flowKey).planes index
        (((table.flow flowKey).planes index).record seq) := by
  obtain ⟨index, checked, stored⟩ := bind_eq_ok recorded
  dsimp only at stored
  split at stored
  · cases stored
  · next inRange =>
    rw [← Except.ok.inj stored, flow_set, if_pos rfl]
    exact ⟨index, checkPlane_ok checked, by omega, rfl⟩

/-- Recorded packets are counted on their planes. -/
theorem recordAll_ok {table next : LossWindowTable κ numPlanes} {flowKey : κ}
    {packets : List DataPacket} (recorded : table.recordAll flowKey packets = .ok next)
    (valid : ∀ plane, ((table.flow flowKey).planes plane).Valid) (plane : Fin numPlanes) :
    ((next.flow flowKey).planes plane).Valid ∧
      ((next.flow flowKey).planes plane).seen =
        ((table.flow flowKey).planes plane).seen + packetsOn packets plane := by
  induction packets generalizing table with
  | nil =>
      cases recorded
      exact ⟨valid plane, by simp [packetsOn]⟩
  | cons packet rest ih =>
      obtain ⟨middle, first, later⟩ := bind_eq_ok recorded
      obtain ⟨index, indexEq, nonneg, planes⟩ := record_ok first
      have validMiddle : ∀ other, ((middle.flow flowKey).planes other).Valid := by
        intro other
        rw [planes, Function.update_apply]
        split
        · exact (valid index).record nonneg
        · exact valid other
      obtain ⟨validNext, seen⟩ := ih later validMiddle
      refine ⟨validNext, ?_⟩
      rw [seen, planes, Function.update_apply, packetsOn, packetsOn, List.countP_cons]
      have indexNat : packet.plane.toNat = index := by exact_mod_cast indexEq.symm
      rcases eq_or_ne plane index with rfl | away
      · simp only [if_true, PlaneCounters.record, indexNat, decide_true]
        push_cast
        ring
      · have elsewhere : ¬ packet.plane.toNat = plane := by
          rw [indexNat]
          exact fun same => away (Fin.ext same.symm)
        simp [away, elsewhere]

end LossWindowTable

/-! ## Snapshots -/

/-- The wire record of counters that fit it. -/
def PlaneCounters.wire (counters : PlaneCounters) (plane : Nat) : PlaneLossRecord :=
  ⟨.ofNat plane, .ofNat (min counters.seen u32Max).toNat,
    .ofNat (min (counters.maxSeq - counters.minSeq + 1) u32Max).toNat,
    .ofNat (min counters.maxGap u32Max).toNat⟩

theorem PlaneCounters.snapshot_eq {counters : PlaneCounters} (valid : counters.Valid) {plane : Nat}
    (small : counters.seen ≠ 0 → plane < 256) :
    counters.snapshot plane =
      .ok (if counters.seen = 0 then none else some (counters.wire plane)) := by
  obtain ⟨gap, ⟨seen, -, -⟩ | ⟨seen, minNonneg, ordered⟩⟩ := valid
  · rw [PlaneCounters.snapshot, if_pos seen, if_pos seen]
  · have active : counters.seen ≠ 0 := by omega
    have u32 : ∀ value : Int, 0 ≤ value → 0 ≤ min value u32Max ∧ min value u32Max < 2 ^ 32 := by
      intro value nonneg
      simp only [u32Max]
      omega
    have checked : ∀ (name : String) (value : Int), 0 ≤ value →
        checkUint 32 name (min value u32Max) = .ok (min value u32Max).toNat := by
      intro name value nonneg
      rw [checkUint, if_pos (u32 value nonneg)]
    have built : PlaneLossRecord.new plane (min counters.seen u32Max)
        (min (counters.maxSeq - counters.minSeq + 1) u32Max) (min counters.maxGap u32Max) =
        .ok (counters.wire plane) := by
      rw [PlaneLossRecord.new, checkUint_of_lt "plane_id" (small active),
        checked "seen" _ (by omega), checked "expected" _ (by omega), checked "max_gap" _ gap]
      rfl
    rw [PlaneCounters.snapshot, if_neg active, if_neg active]
    dsimp only
    rw [if_neg (by omega), built]
    rfl

/-- A snapshot of valid counters holds the wire record of every active plane. -/
theorem snapshotPlanes_eq {numPlanes : Nat} {counters : Fin numPlanes → PlaneCounters}
    (valid : ∀ plane, (counters plane).Valid)
    (small : ∀ plane : Fin numPlanes, (counters plane).seen ≠ 0 → (plane : Nat) < 256)
    (planes : List (Fin numPlanes)) :
    snapshotPlanes counters planes =
      .ok ((planes.filter fun plane => (counters plane).seen ≠ 0).map fun plane =>
        (counters plane).wire plane) := by
  induction planes with
  | nil => rfl
  | cons plane rest ih =>
      rw [snapshotPlanes, (counters plane).snapshot_eq (valid plane) (small plane), ih]
      rcases eq_or_ne (counters plane).seen 0 with idle | active
      · simp [bind, Except.bind, idle]
      · simp [bind, Except.bind, active]

end Srv6Fabric.Mrc

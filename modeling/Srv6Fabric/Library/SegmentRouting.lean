import Mathlib.Data.List.Basic

/-!
# Segment routing

A packet goes from place to place by what each place does for the one segment that
matches there.  A walk records where it was, with what packet and by which segment; what
no segment or more than one matches goes no further.
-/

namespace Srv6Fabric.Library.SegmentRouting

variable {Place Segment Packet Verdict : Type*}

/-- What comes of a packet at a place. -/
inductive Action (Place Packet Verdict : Type*) where
  | pass (next : Place) (packet : Packet)
  | stop (verdict : Verdict)

structure Net (Place Segment Packet Verdict : Type*) where
  /-- The segments of a place that match a packet. -/
  matching : Place → Packet → List Segment
  act : Place → Segment → Packet → Action Place Packet Verdict

/-- One place of a walk. -/
structure Hop (Place Segment Packet : Type*) where
  place : Place
  packet : Packet
  segment : Segment

namespace Net

variable (net : Net Place Segment Packet Verdict)

/-- The walk of a packet from a place, up to its verdict. -/
inductive Walk : Place → Packet → List (Hop Place Segment Packet) → Verdict → Prop where
  | stop {place : Place} {packet : Packet} {segment : Segment} {verdict : Verdict}
      (only : net.matching place packet = [segment])
      (stopped : net.act place segment packet = .stop verdict) :
      Walk place packet [⟨place, packet, segment⟩] verdict
  | pass {place next : Place} {packet carried : Packet} {segment : Segment}
      {hops : List (Hop Place Segment Packet)} {verdict : Verdict}
      (only : net.matching place packet = [segment])
      (passed : net.act place segment packet = .pass next carried)
      (rest : Walk next carried hops verdict) :
      Walk place packet (⟨place, packet, segment⟩ :: hops) verdict

variable {net}

/-- A packet has one walk. -/
theorem Walk.unique {place : Place} {packet : Packet} {hops others : List (Hop Place Segment Packet)}
    {verdict other : Verdict} (walk : net.Walk place packet hops verdict)
    (otherWalk : net.Walk place packet others other) : others = hops ∧ other = verdict := by
  induction walk generalizing others other with
  | stop only stopped =>
      cases otherWalk with
      | stop otherOnly otherStopped =>
          obtain rfl := List.head_eq_of_cons_eq (only.symm.trans otherOnly)
          exact ⟨rfl, Action.stop.inj (otherStopped.symm.trans stopped)⟩
      | pass otherOnly otherPassed otherRest =>
          obtain rfl := List.head_eq_of_cons_eq (only.symm.trans otherOnly)
          cases stopped.symm.trans otherPassed
  | pass only passed rest ih =>
      cases otherWalk with
      | stop otherOnly otherStopped =>
          obtain rfl := List.head_eq_of_cons_eq (only.symm.trans otherOnly)
          cases passed.symm.trans otherStopped
      | pass otherOnly otherPassed otherRest =>
          obtain rfl := List.head_eq_of_cons_eq (only.symm.trans otherOnly)
          obtain ⟨rfl, rfl⟩ := Action.pass.inj (passed.symm.trans otherPassed)
          obtain ⟨rfl, rfl⟩ := ih otherRest
          exact ⟨rfl, rfl⟩

/-- Nothing else matches along a walk. -/
theorem Walk.matching_eq {place : Place} {packet : Packet} {hops : List (Hop Place Segment Packet)}
    {verdict : Verdict} (walk : net.Walk place packet hops verdict) {hop : Hop Place Segment Packet}
    (mem : hop ∈ hops) : net.matching hop.place hop.packet = [hop.segment] := by
  induction walk with
  | stop only _ =>
      obtain rfl := List.mem_singleton.mp mem
      exact only
  | pass only _ _ ih =>
      rcases List.mem_cons.mp mem with rfl | later
      · exact only
      · exact ih later

/-- Every hop has passed the packet on or given the verdict. -/
theorem Walk.act_eq {place : Place} {packet : Packet} {hops : List (Hop Place Segment Packet)}
    {verdict : Verdict} (walk : net.Walk place packet hops verdict) {hop : Hop Place Segment Packet}
    (mem : hop ∈ hops) : net.act hop.place hop.segment hop.packet = .stop verdict ∨
      ∃ next carried, net.act hop.place hop.segment hop.packet = .pass next carried := by
  induction walk with
  | stop _ stopped =>
      obtain rfl := List.mem_singleton.mp mem
      exact Or.inl stopped
  | pass _ passed _ ih =>
      rcases List.mem_cons.mp mem with rfl | later
      · exact Or.inr ⟨_, _, passed⟩
      · exact ih later

end Net

end Srv6Fabric.Library.SegmentRouting

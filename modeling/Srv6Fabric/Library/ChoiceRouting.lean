import Srv6Fabric.Library.SegmentRouting

/-!
# Routing with choices

Equal-cost routes leave a place a choice, and nothing says how it chooses.  A packet settles
when every choice at every place leads to a verdict within a number of steps; what one way
of choosing leads to is an outcome.  Among routes the longest prefixes win.
-/

namespace Srv6Fabric.Library.SegmentRouting

variable {Place Segment Packet Verdict : Type*}

/-- What may come of a packet at a place, choice by choice. -/
structure ChoiceNet (Place Packet Verdict : Type*) where
  choices : Place → Packet → List (Action Place Packet Verdict)

namespace ChoiceNet

variable (net : ChoiceNet Place Packet Verdict)

/-- Every way of choosing ends in a good verdict within a number of steps. -/
inductive Settles (good : Verdict → Prop) : Nat → Place → Packet → Prop where
  | step {bound : Nat} {place : Place} {packet : Packet} (some_ : net.choices place packet ≠ [])
      (stops : ∀ verdict, .stop verdict ∈ net.choices place packet → good verdict)
      (passes : ∀ next carried, .pass next carried ∈ net.choices place packet →
        Settles good bound next carried) : Settles good (bound + 1) place packet

/-- One way of choosing, by the number of its steps and its verdict. -/
inductive Outcome : Place → Packet → Nat → Verdict → Prop where
  | stop {place : Place} {packet : Packet} {verdict : Verdict}
      (chosen : .stop verdict ∈ net.choices place packet) : Outcome place packet 1 verdict
  | pass {place next : Place} {packet carried : Packet} {steps : Nat} {verdict : Verdict}
      (chosen : .pass next carried ∈ net.choices place packet)
      (rest : Outcome next carried steps verdict) : Outcome place packet (steps + 1) verdict

variable {net} {good : Verdict → Prop}

/-- Whatever is chosen, the verdict is good and comes in time. -/
theorem Settles.outcome {bound : Nat} {place : Place} {packet : Packet}
    (settles : net.Settles good bound place packet) {steps : Nat} {verdict : Verdict}
    (outcome : net.Outcome place packet steps verdict) : good verdict ∧ steps ≤ bound := by
  induction settles generalizing steps verdict with
  | step some_ stops passes ih =>
      cases outcome with
      | stop chosen => exact ⟨stops _ chosen, Nat.succ_le_succ (Nat.zero_le _)⟩
      | pass chosen rest =>
          obtain ⟨isGood, inTime⟩ := ih _ _ chosen rest
          exact ⟨isGood, Nat.succ_le_succ inTime⟩

theorem Settles.mono {bound later : Nat} {place : Place} {packet : Packet} {fine : Verdict → Prop}
    (settles : net.Settles good bound place packet) (longer : bound ≤ later)
    (weaker : ∀ verdict, good verdict → fine verdict) : net.Settles fine later place packet := by
  induction settles generalizing later with
  | step some_ stops passes ih =>
      obtain ⟨rest, rfl⟩ : ∃ rest, later = rest + 1 := ⟨later - 1, by omega⟩
      exact .step some_ (fun verdict chosen => weaker verdict (stops verdict chosen))
        fun next carried chosen => ih next carried chosen (by omega)

/-- Where the choices are ways on, a packet that settles on each of them settles. -/
theorem Settles.pass {bound : Nat} {place : Place} {packet carried : Packet} (ways : Place → Prop)
    (some_ : ∃ next, ways next)
    (choices : ∀ choice, choice ∈ net.choices place packet ↔ ∃ next, ways next ∧ choice = .pass next carried)
    (settles : ∀ next, ways next → net.Settles good bound next carried) :
    net.Settles good (bound + 1) place packet := by
  refine .step ?_ ?_ ?_
  · obtain ⟨next, isWay⟩ := some_
    exact List.ne_nil_of_mem ((choices _).mpr ⟨next, isWay, rfl⟩)
  · intro verdict chosen
    obtain ⟨next, -, same⟩ := (choices _).mp chosen
    cases same
  · intro next other chosen
    obtain ⟨way, isWay, same⟩ := (choices _).mp chosen
    cases same
    exact settles next isWay

/-- A net without choices, as far as a walk goes. -/
theorem settles_of_walk {segments : Net Place Segment Packet Verdict} {place : Place} {packet : Packet}
    {hops : List (Hop Place Segment Packet)} {verdict : Verdict}
    (walk : segments.Walk place packet hops verdict)
    (agrees : ∀ hop ∈ hops, net.choices hop.place hop.packet =
      [segments.act hop.place hop.segment hop.packet]) :
    net.Settles (· = verdict) hops.length place packet ∧
      net.Outcome place packet hops.length verdict := by
  induction walk with
  | stop only stopped =>
      have choices := agrees _ List.mem_cons_self
      dsimp only at choices
      rw [stopped] at choices
      refine ⟨.step (by rw [choices]; exact List.cons_ne_nil _ _) ?_ ?_, .stop ?_⟩
      · intro other chosen
        rw [choices, List.mem_singleton] at chosen
        cases chosen
        rfl
      · intro next carried chosen
        rw [choices, List.mem_singleton] at chosen
        cases chosen
      · rw [choices]
        exact List.mem_cons_self
  | @pass place next packet carried _ _ _ only passed rest ih =>
      have choices := agrees _ List.mem_cons_self
      dsimp only at choices
      rw [passed] at choices
      have onward : ∀ choice, choice ∈ net.choices place packet ↔
          ∃ way, way = next ∧ choice = .pass way carried := by
        intro choice
        rw [choices, List.mem_singleton]
        simp
      obtain ⟨settles, outcome⟩ := ih fun hop mem => agrees hop (List.mem_cons_of_mem _ mem)
      refine ⟨.pass (· = next) ⟨next, rfl⟩ onward ?_, .pass ((onward _).mpr ⟨next, rfl, rfl⟩) outcome⟩
      rintro _ rfl
      exact settles

end ChoiceNet

/-! ## The longest prefixes -/

section Longest

variable {α : Type*}

/-- What the routes of the longest prefixes lead to, of those that cover a destination. -/
def longest (covering : List (Nat × α)) : List α :=
  (covering.filter fun route => covering.all fun other => decide (other.1 ≤ route.1)).map Prod.snd

/-- Routes of one length all win. -/
theorem longest_of_equal {covering : List (Nat × α)} {length : Nat}
    (equal : ∀ route ∈ covering, route.1 = length) : longest covering = covering.map Prod.snd := by
  rw [longest, List.filter_eq_self.mpr]
  intro route mem
  refine List.all_eq_true.mpr fun other isOther => decide_eq_true ?_
  exact Nat.le_of_eq ((equal other isOther).trans (equal route mem).symm)

end Longest

end Srv6Fabric.Library.SegmentRouting

import Mathlib.Data.List.Induction
import Mathlib.Data.List.Perm.Basic
import Mathlib.Logic.Function.Basic

/-!
# First-in first-out lanes

Items enter lanes and leave each lane in the order they entered it, while some are lost on the
way.  Nothing orders one lane against another.  What entered a lane has left it, waits in it or
was lost from it; what left it and what waits are in the order of entering.
-/

namespace Srv6Fabric.Library

variable {Lane Item : Type*} [DecidableEq Lane]

inductive LaneEvent (Lane Item : Type*) where
  | enter (lane : Lane) (item : Item)
  | leave (lane : Lane)
  | lose (lane : Lane) (place : Nat)
  | idle

/-- What waits in each lane, oldest first, what was lost from it, and what left the lanes. -/
structure Lanes (Lane Item : Type*) where
  waiting : Lane → List Item := fun _ => []
  lost : Lane → List Item := fun _ => []
  departed : List (Lane × Item) := []

namespace Lanes

/-- Nothing leaves an empty lane, and nothing is lost from a place that none waits at. -/
def step (lanes : Lanes Lane Item) : LaneEvent Lane Item → Lanes Lane Item
  | .enter lane item =>
      { lanes with waiting := Function.update lanes.waiting lane (lanes.waiting lane ++ [item]) }
  | .leave lane =>
      match lanes.waiting lane with
      | [] => lanes
      | item :: rest =>
          { lanes with
            waiting := Function.update lanes.waiting lane rest
            departed := lanes.departed ++ [(lane, item)] }
  | .lose lane place =>
      match (lanes.waiting lane)[place]? with
      | none => lanes
      | some item =>
          { lanes with
            waiting := Function.update lanes.waiting lane ((lanes.waiting lane).eraseIdx place)
            lost := Function.update lanes.lost lane (lanes.lost lane ++ [item]) }
  | .idle => lanes

def run (events : List (LaneEvent Lane Item)) : Lanes Lane Item := events.foldl step {}

/-- What left a lane. -/
def left (lanes : Lanes Lane Item) (lane : Lane) : List Item :=
  (lanes.departed.filter fun item => item.1 = lane).map Prod.snd

/-- What entered a lane. -/
def entered (lane : Lane) (events : List (LaneEvent Lane Item)) : List Item :=
  events.filterMap fun
    | .enter other item => if other = lane then some item else none
    | _ => none

theorem run_concat (events : List (LaneEvent Lane Item)) (event : LaneEvent Lane Item) :
    run (events ++ [event]) = (run events).step event :=
  List.foldl_append

theorem entered_concat (lane : Lane) (events : List (LaneEvent Lane Item))
    (event : LaneEvent Lane Item) :
    entered lane (events ++ [event]) = entered lane events ++ entered lane [event] :=
  List.filterMap_append

/-- Where a lane stands after one more event. -/
theorem step_cases (lanes : Lanes Lane Item) (event : LaneEvent Lane Item) (lane : Lane) :
    ((lanes.step event).left lane = lanes.left lane ∧
        (lanes.step event).waiting lane = lanes.waiting lane ++ entered lane [event] ∧
        (lanes.step event).lost lane = lanes.lost lane) ∨
      (entered lane [event] = [] ∧ ∃ item rest, lanes.waiting lane = item :: rest ∧
        (lanes.step event).left lane = lanes.left lane ++ [item] ∧
        (lanes.step event).waiting lane = rest ∧ (lanes.step event).lost lane = lanes.lost lane) ∨
      ∃ place item, event = .lose lane place ∧ entered lane [event] = [] ∧
        (lanes.waiting lane)[place]? = some item ∧ (lanes.step event).left lane = lanes.left lane ∧
        (lanes.step event).waiting lane = (lanes.waiting lane).eraseIdx place ∧
        (lanes.step event).lost lane = lanes.lost lane ++ [item] := by
  cases event with
  | enter other item =>
      left
      refine ⟨rfl, ?_, rfl⟩
      by_cases here : other = lane
      · subst here
        simp [step, entered]
      · simp [step, entered, here, Function.update_of_ne (Ne.symm here)]
  | leave other =>
      have none_ : entered lane [(.leave other : LaneEvent Lane Item)] = [] := rfl
      rw [none_, List.append_nil]
      cases waits : lanes.waiting other with
      | nil =>
          have same : lanes.step (.leave other) = lanes := by rw [step, waits]
          rw [same]
          exact Or.inl ⟨rfl, rfl, rfl⟩
      | cons item rest =>
          rw [step, waits]
          by_cases here : other = lane
          · subst here
            refine Or.inr (Or.inl ⟨rfl, item, rest, waits, ?_, Function.update_self .., rfl⟩)
            simp [Lanes.left]
          · refine Or.inl ⟨?_, Function.update_of_ne (Ne.symm here) .., rfl⟩
            simp [Lanes.left, here]
  | lose other place =>
      have none_ : entered lane [(.lose other place : LaneEvent Lane Item)] = [] := rfl
      rw [none_, List.append_nil]
      cases waits : (lanes.waiting other)[place]? with
      | none =>
          have same : lanes.step (.lose other place) = lanes := by rw [step, waits]
          rw [same]
          exact Or.inl ⟨rfl, rfl, rfl⟩
      | some item =>
          rw [step, waits]
          by_cases here : other = lane
          · subst here
            exact Or.inr (Or.inr ⟨place, item, rfl, rfl, waits, rfl, Function.update_self ..,
              Function.update_self ..⟩)
          · exact Or.inl ⟨rfl, Function.update_of_ne (Ne.symm here) ..,
              Function.update_of_ne (Ne.symm here) ..⟩
  | idle =>
      left
      exact ⟨rfl, (List.append_nil _).symm, rfl⟩

/-- Nothing is made up and nothing disappears. -/
theorem conserved (events : List (LaneEvent Lane Item)) (lane : Lane) :
    ((run events).left lane ++ (run events).waiting lane ++ (run events).lost lane).Perm
      (entered lane events) := by
  induction events using List.reverseRecOn with
  | nil => exact List.Perm.refl _
  | append_singleton events event ih =>
      rw [run_concat, entered_concat]
      rcases step_cases (run events) event lane with
        ⟨same, waits, lost⟩ | ⟨none, item, rest, waited, gone, waits, lost⟩ |
          ⟨place, item, -, none, waited, same, waits, lost⟩
      · rw [same, waits, lost, ← List.append_assoc, List.append_assoc _ (entered lane [event])]
        refine (List.perm_append_comm.append_left _).trans ?_
        rw [← List.append_assoc]
        exact ih.append_right _
      · rw [gone, waits, lost, none, List.append_nil]
        rw [waited] at ih
        simpa using ih
      · rw [same, waits, lost, none, List.append_nil]
        refine List.Perm.trans ?_ ih
        obtain ⟨inRange, rfl⟩ := List.getElem?_eq_some_iff.mp waited
        rw [List.append_assoc, List.append_assoc]
        refine List.Perm.append_left _ ?_
        rw [← List.append_assoc]
        exact (List.perm_append_singleton _ _).trans
          ((List.getElem_cons_eraseIdx_perm inRange).append_right _)

/-- Whatever is lost, the rest keeps the order it entered in. -/
theorem inOrder (events : List (LaneEvent Lane Item)) (lane : Lane) :
    ((run events).left lane ++ (run events).waiting lane).Sublist (entered lane events) := by
  induction events using List.reverseRecOn with
  | nil => exact List.Sublist.refl _
  | append_singleton events event ih =>
      rw [run_concat, entered_concat]
      rcases step_cases (run events) event lane with
        ⟨same, waits, -⟩ | ⟨none, item, rest, waited, gone, waits, -⟩ |
          ⟨place, item, -, none, -, same, waits, -⟩
      · rw [same, waits, ← List.append_assoc]
        exact ih.append_right _
      · rw [gone, waits, none, List.append_nil]
        rw [waited] at ih
        simpa using ih
      · rw [same, waits, none, List.append_nil]
        exact ((List.eraseIdx_sublist _ _).append_left _).trans ih

/-- A lane that loses nothing has all that entered it, in order. -/
theorem lossless {events : List (LaneEvent Lane Item)} {lane : Lane}
    (kept : ∀ place, .lose lane place ∉ events) :
    (run events).left lane ++ (run events).waiting lane = entered lane events := by
  induction events using List.reverseRecOn with
  | nil => rfl
  | append_singleton events event ih =>
      have before := ih fun place mem => kept place (List.mem_append_left _ mem)
      rw [run_concat, entered_concat]
      rcases step_cases (run events) event lane with
        ⟨same, waits, -⟩ | ⟨none, item, rest, waited, gone, waits, -⟩ |
          ⟨place, item, rfl, -, -, -, -, -⟩
      · rw [same, waits, ← List.append_assoc, before]
      · rw [gone, waits, none, List.append_nil, ← before, waited, List.append_assoc]
        rfl
      · exact absurd (List.mem_append_right _ List.mem_cons_self) (kept place)

end Lanes

end Srv6Fabric.Library

import Mathlib.Data.List.Chain
import Mathlib.Data.List.Induction
import Srv6Fabric.Mrc.EvStateInvariant

/-!
# The event stream accounts for the table

A reader of the `on_transition` events keeps the state of every plane, all of them UNKNOWN
at first.  What it keeps is what the table says after every run, and the events of one
plane form a path through the states, one step for each transition the plane counts.
-/

namespace Srv6Fabric.Mrc.EVStateTable

open Srv6Fabric.Library

variable {numPlanes : Nat}

/-! ## Reading events -/

/-- The states a reader of the events has in mind, after one more event. -/
def readEvent (view : String → Fin numPlanes → EVState) (event : TransitionEvent numPlanes) :
    String → Fin numPlanes → EVState := fun tenant plane =>
  if event.tenant = tenant ∧ event.plane = plane then event.new else view tenant plane

/-- The states after all events, from the all-UNKNOWN state. -/
def replay (events : List (TransitionEvent numPlanes)) : String → Fin numPlanes → EVState :=
  events.foldl readEvent fun _ _ => .unknown

/-- The events of one plane of one tenant. -/
def eventsOf (events : List (TransitionEvent numPlanes)) (tenant : String) (plane : Fin numPlanes) :
    List (TransitionEvent numPlanes) :=
  events.filter fun event => event.tenant = tenant ∧ event.plane = plane

/-- The edges of the state machine; none of them leads back to UNKNOWN. -/
def stateEdges : List (EVState × EVState) :=
  [(.unknown, .good), (.unknown, .assumedBad), (.good, .assumedBad), (.assumedBad, .good)]

/-- A path through the states from UNKNOWN: every event starts where the one before it
ended. -/
structure Path (events : List (TransitionEvent numPlanes)) : Prop where
  starts : ∀ event ∈ events.head?, event.old = .unknown
  linked : events.IsChain fun event next => next.old = event.new
  edges : ∀ event ∈ events, (event.old, event.new) ∈ stateEdges

/-- Everything the events say about the planes is what the table says. -/
structure Accounted (table : EVStateTable numPlanes) : Prop where
  replayed : ∀ tenant plane, replay table.events tenant plane = (table.row tenant plane).state
  path : ∀ tenant plane, Path (eventsOf table.events tenant plane)
  counted : ∀ tenant plane,
    (table.row tenant plane).transitions = (eventsOf table.events tenant plane).length

theorem mem_stateEdges_iff {old new : EVState} :
    (old, new) ∈ stateEdges ↔ old ≠ new ∧ new ≠ .unknown := by
  cases old <;> cases new <;> simp [stateEdges]

theorem replay_append (events : List (TransitionEvent numPlanes))
    (event : TransitionEvent numPlanes) :
    replay (events ++ [event]) = readEvent (replay events) event := by
  rw [replay, List.foldl_append]
  rfl

theorem eventsOf_append (events : List (TransitionEvent numPlanes))
    (event : TransitionEvent numPlanes) (tenant : String) (plane : Fin numPlanes) :
    eventsOf (events ++ [event]) tenant plane =
      if event.tenant = tenant ∧ event.plane = plane then eventsOf events tenant plane ++ [event]
      else eventsOf events tenant plane := by
  rw [eventsOf, List.filter_append, ← eventsOf, List.filter_cons, List.filter_nil]
  simp only [decide_eq_true_eq]
  split
  · rfl
  · exact List.append_nil _

/-- A plane's state is where its last event led. -/
theorem replay_eq_last (events : List (TransitionEvent numPlanes)) (tenant : String)
    (plane : Fin numPlanes) :
    replay events tenant plane =
      ((eventsOf events tenant plane).getLast?.map TransitionEvent.new).getD .unknown := by
  induction events using List.reverseRecOn with
  | nil => rfl
  | append_singleton events event ih =>
      rw [replay_append, eventsOf_append, readEvent]
      split
      · simp
      · exact ih

/-- A path goes on from where it led. -/
theorem Path.append {events : List (TransitionEvent numPlanes)} {event : TransitionEvent numPlanes}
    (path : Path events) (old : event.old = (events.getLast?.map TransitionEvent.new).getD .unknown)
    (edge : (event.old, event.new) ∈ stateEdges) : Path (events ++ [event]) := by
  refine ⟨?_, ?_, ?_⟩
  · intro first mem
    cases events with
    | nil =>
        obtain rfl := Option.some.inj mem
        exact old
    | cons head rest => exact path.starts first mem
  · refine List.isChain_append.mpr ⟨path.linked, List.isChain_singleton event, ?_⟩
    intro last lastMem next nextMem
    obtain rfl := Option.some.inj nextMem
    rw [old, Option.mem_def.mp lastMem]
    rfl
  · intro other mem
    rcases List.mem_append.mp mem with earlier | here
    · exact path.edges other earlier
    · rwa [List.mem_singleton.mp here]

/-! ## One signal -/

@[simp] theorem bumped_transitions (cfg : EVStateConfig) (record : PlaneRecord) (signal : Signal) :
    (bumped cfg record signal).transitions = record.transitions := by
  cases signal <;> rfl

/-- The counter rises exactly when the state moves. -/
theorem nextRecord_transitions (cfg : EVStateConfig) (permitted : Bool) (record : PlaneRecord)
    (signal : Signal) :
    (nextRecord cfg permitted record signal).transitions =
      if record.state = (nextRecord cfg permitted record signal).state then record.transitions
      else record.transitions + 1 := by
  rw [nextRecord_state]
  unfold nextRecord
  cases promoted : promotes cfg record signal with
  | true => simp [state_ne_of_promotes promoted, enterState]
  | false =>
      cases accused : accuses cfg record signal with
      | false => simp
      | true =>
          have moved := state_ne_of_accuses accused
          cases permitted <;> simp [moved, demoteOrSuppress, enterState]

/-- A signal leaves a plane as it was, or in a state it was not in, other than UNKNOWN. -/
theorem nextRecord_known {cfg : EVStateConfig} {permitted : Bool} {record : PlaneRecord}
    {signal : Signal}
    (moved : record.state ≠ (nextRecord cfg permitted record signal).state) :
    (nextRecord cfg permitted record signal).state ≠ .unknown := by
  rw [nextRecord_state] at moved ⊢
  split at moved
  · simp [*]
  · split at moved
    · simp [*]
    · exact absurd rfl moved

/-- A signal fires an event exactly when it moves the plane's state. -/
theorem applySignal_events (table : EVStateTable numPlanes) (tenant : String) (plane : Fin numPlanes)
    (signal : Signal) :
    (table.applySignal tenant plane signal).events =
      if (table.row tenant plane).state =
          (nextRow table.cfg table.minActive (table.row tenant) plane signal plane).state then
        table.events
      else table.events ++ [⟨tenant, plane, (table.row tenant plane).state,
        (nextRow table.cfg table.minActive (table.row tenant) plane signal plane).state⟩] := by
  unfold applySignal
  dsimp only
  split <;> rfl

namespace Accounted

theorem init {tenants : List String} {cfg : EVStateConfig} {table : EVStateTable numPlanes}
    (built : init tenants numPlanes cfg = .ok table) : Accounted table := by
  obtain ⟨-, -, -, -, eventsEq, planesEq, -⟩ := init_ok built
  have blank : ∀ tenant plane, table.row tenant plane = {} := by
    intro tenant plane
    rw [EVStateTable.row, planesEq]
    split <;> rfl
  refine ⟨?_, ?_, ?_⟩
  · intro tenant plane
    rw [blank, eventsEq]
    rfl
  · intro tenant plane
    rw [eventsEq]
    exact ⟨by rintro event ⟨⟩, List.isChain_nil, by rintro event ⟨⟩⟩
  · intro tenant plane
    rw [blank, eventsEq]
    rfl

/-- A signal fires one event or none, and the event names the step it takes. -/
theorem applySignal {table : EVStateTable numPlanes} (accounted : Accounted table) (tenant : String)
    (plane : Fin numPlanes) (signal : Signal) :
    Accounted (table.applySignal tenant plane signal) := by
  set next := nextRecord table.cfg (floorPermits table.minActive (table.row tenant) plane)
    (table.row tenant plane) signal with nextDef
  have rowEq : ∀ other otherPlane, (table.applySignal tenant plane signal).row other otherPlane =
      if tenant = other ∧ plane = otherPlane then next else table.row other otherPlane := by
    intro other otherPlane
    rw [applySignal_row, nextRow]
    by_cases here : tenant = other
    · subst here
      by_cases same : plane = otherPlane
      · subst same
        simp [nextDef]
      · simp [same, Ne.symm same]
    · simp [here, Ne.symm here]
  have counts := nextRecord_transitions table.cfg
    (floorPermits table.minActive (table.row tenant) plane) (table.row tenant plane) signal
  rw [← nextDef] at counts
  have eventsEq := applySignal_events table tenant plane signal
  rw [nextRow, Function.update_self, ← nextDef] at eventsEq
  by_cases same : (table.row tenant plane).state = next.state
  · rw [if_pos same] at counts eventsEq
    refine ⟨?_, ?_, ?_⟩
    · intro other otherPlane
      rw [eventsEq, rowEq, accounted.replayed]
      split
      · next here => rw [← here.1, ← here.2, same]
      · rfl
    · rw [eventsEq]
      exact accounted.path
    · intro other otherPlane
      rw [eventsEq, rowEq, ← accounted.counted]
      split
      · next here => rw [counts, here.1, here.2]
      · rfl
  · rw [if_neg same] at counts eventsEq
    refine ⟨?_, ?_, ?_⟩
    · intro other otherPlane
      rw [eventsEq, rowEq, replay_append, readEvent, accounted.replayed]
      split <;> rfl
    · intro other otherPlane
      rw [eventsEq, eventsOf_append]
      split
      · next here =>
        obtain ⟨rfl, rfl⟩ : tenant = other ∧ plane = otherPlane := here
        refine (accounted.path tenant plane).append ?_ ?_
        · rw [← replay_eq_last, accounted.replayed]
        · exact mem_stateEdges_iff.mpr ⟨same, nextRecord_known same⟩
      · exact accounted.path other otherPlane
    · intro other otherPlane
      rw [eventsEq, rowEq, eventsOf_append]
      split
      · next here =>
        obtain ⟨rfl, rfl⟩ : tenant = other ∧ plane = otherPlane := here
        rw [counts, accounted.counted, List.length_append, List.length_singleton]
      · exact accounted.counted other otherPlane

theorem call {table next : EVStateTable numPlanes} {request : Call} (accounted : Accounted table)
    (returned : table.call request = .ok next) : Accounted next := by
  obtain ⟨row, index, -, -, nextEq⟩ := call_ok returned
  rw [nextEq]
  cases request.signal? with
  | none => exact accounted
  | some signal => exact accounted.applySignal request.tenant index signal

end Accounted

/-! ## Every run -/

/-- What the callback finds when a call fires an event: it runs last, and by then the table
and the weights it caches are those of the new state. -/
def FiresLate (before after : EVStateTable numPlanes) : Prop :=
  after.events = before.events ∨
    ∃ event, after.events = before.events ++ [event] ∧
      after.state event.tenant (event.plane : Nat) = .ok event.new ∧
      after.weights event.tenant = .ok (normalizedWeights (after.row event.tenant))

theorem state_eq {table : EVStateTable numPlanes} {tenant : String}
    {row : Fin numPlanes → PlaneRecord} (found : table.planes.find? tenant = some row)
    (plane : Fin numPlanes) : table.state tenant (plane : Nat) = .ok (row plane).state := by
  rw [EVStateTable.state, checkTenant_of_find? found, checkPlane_fin]
  rfl

theorem weights_eq {table : EVStateTable numPlanes} (sound : table.Sound) {tenant : String}
    {row : Fin numPlanes → PlaneRecord} (found : table.planes.find? tenant = some row) :
    table.weights tenant = .ok (normalizedWeights row) := by
  rw [EVStateTable.weights, checkTenant_of_find? found, sound.cached tenant row found]
  rfl

theorem call_firesLate {table next : EVStateTable numPlanes} {request : Call} (sound : table.Sound)
    (returned : table.call request = .ok next) : FiresLate table next := by
  have nextSound := sound.call returned
  obtain ⟨row, index, found, -, nextEq⟩ := call_ok returned
  cases signalEq : request.signal? with
  | none =>
      rw [signalEq] at nextEq
      exact Or.inl (congrArg EVStateTable.events nextEq)
  | some signal =>
      rw [signalEq] at nextEq
      dsimp only at nextEq
      have eventsEq := applySignal_events table request.tenant index signal
      have found' := nextSound.find? ((nextSound.known request.tenant).mp ?_)
      rw [← nextEq] at eventsEq
      split at eventsEq
      · exact Or.inl eventsEq
      · refine Or.inr ⟨_, eventsEq, ?_, weights_eq nextSound found'⟩
        rw [state_eq found', nextEq, applySignal_row, if_pos rfl]
      · rw [nextEq, applySignal_planes, OrderedDict.find?_set, if_pos rfl]
        rfl

end Srv6Fabric.Mrc.EVStateTable

import Srv6Fabric.Library.Tally
import Srv6Fabric.Mrc.LossAttribution

/-!
# The two ledgers of what was sent

`run_sender` counts its packets in a `SenderResult` and tells the agent of each by
`record_sent`; the agent's rotate thread cuts its own counters into windows.  The loop of
`run_sender` is one statement a step, so that a rotation falls between any two of them.
-/

namespace Srv6Fabric.Mrc

open Srv6Fabric.Library

/-- Where `run_sender` stands with its packet: none yet, `sendto` returned, counted for its
plane, counted in the total, `sendto` raised, or through the `try` statement. -/
inductive SenderPoint (numPlanes : Nat) where
  | idle
  | transmitted (plane : Fin numPlanes)
  | counted (plane : Fin numPlanes)
  | totalled (plane : Fin numPlanes)
  | failed
  | settled
  deriving DecidableEq, Repr

/-- The counters of a `SenderResult`. -/
structure SenderResult where
  sent : Nat := 0
  perPlaneSent : OrderedDict Nat Nat := .empty
  errors : Nat := 0

/-- `run_sender` and the agent it reports to, with what they did so far: the sequence number
of each `sendto`, and each window handed to the ring with the number of its rotation. -/
structure Transmission (numPlanes : Nat) where
  agent : SenderMrcAgent numPlanes
  nowNs : Int
  seq : Nat := 0
  result : SenderResult := {}
  point : SenderPoint numPlanes := .idle
  attempted : List Nat := []
  rotations : Nat := 0
  pushed : List (Nat × SentWindow) := []

/-- The policy picks a plane and `sendto` returns or raises; the next statement runs; or the
rotate thread takes its turn. -/
inductive TransmitAction (numPlanes : Nat) where
  | send (plane : Fin numPlanes) (returned : Bool)
  | proceed
  | rotate (nowNs : Int)

namespace Transmission

variable {numPlanes : Nat}

/-- `sendto` for the packet of the current sequence number; its payload holds a `u64` and a
`u8`. -/
def send (state : Transmission numPlanes) (plane : Fin numPlanes) (returned : Bool) :
    Option (Transmission numPlanes) :=
  if state.point = .idle ∧ (plane : Nat) < 256 ∧ state.seq < 2 ^ 64 then
    some { state with
      point := if returned then .transmitted plane else .failed
      attempted := state.attempted ++ [state.seq] }
  else none

/-- The statement `run_sender` is at. -/
def proceed (state : Transmission numPlanes) : Option (Transmission numPlanes) :=
  match state.point with
  | .idle => none
  | .transmitted plane => some { state with
      result := { state.result with perPlaneSent := state.result.perPlaneSent.bump plane }
      point := .counted plane }
  | .counted plane => some { state with
      result := { state.result with sent := state.result.sent + 1 }
      point := .totalled plane }
  | .totalled plane => some { state with
      agent := state.agent.recordSent (plane : Nat)
      point := .settled }
  | .failed => some { state with
      result := { state.result with errors := state.result.errors + 1 }
      point := .settled }
  | .settled => some { state with seq := state.seq + 1, point := .idle }

/-- `_rotate_window`. -/
def rotate (state : Transmission numPlanes) (nowNs : Int) : Option (Transmission numPlanes) :=
  if state.nowNs ≤ nowNs then
    match state.agent.rotateWindow nowNs with
    | .error _ => none
    | .ok agent =>
        let window := state.agent.closedWindow nowNs
        some { state with
          agent
          nowNs
          rotations := state.rotations + 1
          pushed := if window.sent.any (0 < ·) then state.pushed ++ [(state.rotations, window)]
            else state.pushed }
  else none

def next (state : Transmission numPlanes) : TransmitAction numPlanes → Option (Transmission numPlanes)
  | .send plane returned => state.send plane returned
  | .proceed => state.proceed
  | .rotate nowNs => state.rotate nowNs

/-- Packets counted in the windows handed over so far. -/
def windowed (state : Transmission numPlanes) (plane : Fin numPlanes) : Nat :=
  (state.pushed.map fun closed => closed.2.sent.getD plane 0).sum

/-- `result.per_plane_sent.get(plane, 0)`. -/
def sentOn (state : Transmission numPlanes) (plane : Fin numPlanes) : Nat :=
  (state.result.perPlaneSent.find? plane).getD 0

/-- The packet of this plane that is counted in the result but not yet in the agent. -/
def pending (state : Transmission numPlanes) (plane : Fin numPlanes) : Nat :=
  if state.point = .counted plane ∨ state.point = .totalled plane then 1 else 0

/-- The packet that is counted for its plane but not yet in the total. -/
def untotalled (state : Transmission numPlanes) : Nat :=
  match state.point with
  | .counted _ => 1
  | _ => 0

/-- The packet that is neither in the total nor among the errors yet. -/
def undecided (state : Transmission numPlanes) : Nat :=
  match state.point with
  | .transmitted _ | .counted _ | .failed => 1
  | _ => 0

/-- Both ledgers, up to the packet in hand. -/
structure Books (state : Transmission numPlanes) : Prop where
  planes : ∀ plane, state.windowed plane + state.agent.currentWindowSent plane +
    state.pending plane = state.sentOn plane
  total : state.result.sent + state.untotalled = state.result.perPlaneSent.total
  packets : state.result.sent + state.result.errors + state.undecided = state.attempted.length
  numbered : state.attempted = List.range state.attempted.length
  current : state.seq + (if state.point = .idle then 0 else 1) = state.attempted.length

/-- The windows handed over are those of their rotations, one after the other, and the ring
holds the latest of them. -/
structure Windows (state : Transmission numPlanes) : Prop where
  opened : state.agent.currentWindowStartNs ≤ state.nowNs
  currentId : state.agent.currentWindowId.toNat = state.rotations % 2 ^ 16
  closed : ∀ number window, (number, window) ∈ state.pushed →
    number < state.rotations ∧ window.windowId.toNat = number % 2 ^ 16 ∧
      window.startNs ≤ window.endNs ∧ window.endNs ≤ state.agent.currentWindowStartNs
  ordered : state.pushed.Pairwise fun earlier later =>
    earlier.1 < later.1 ∧ earlier.2.endNs ≤ later.2.startNs
  ring : state.agent.sentRing.windows <:+ state.pushed.map Prod.snd

/-! ## What a step keeps -/

variable {state later : Transmission numPlanes}

theorem Books.send (books : state.Books) {plane : Fin numPlanes} {returned : Bool}
    (stepped : state.send plane returned = some later) : later.Books := by
  rw [Transmission.send, Option.ite_none_right_eq_some] at stepped
  obtain ⟨⟨idle, -, -⟩, stepped⟩ := stepped
  obtain rfl := Option.some.inj stepped
  obtain ⟨planes, total, packets, numbered, current⟩ := books
  rw [idle, if_pos rfl, Nat.add_zero] at current
  simp only [windowed, sentOn, pending, untotalled, undecided, idle] at planes total packets
  refine ⟨?_, ?_, ?_, ?_, ?_⟩
  · intro other
    cases returned <;> simpa [windowed, sentOn, pending] using planes other
  · cases returned <;> simpa [untotalled] using total
  · cases returned <;> simpa [undecided] using packets
  · rw [List.length_append, List.length_singleton, List.range_succ, ← numbered, current]
  · cases returned <;> simp [current]

theorem recordSent_counter (agent : SenderMrcAgent numPlanes) (sentOn plane : Fin numPlanes) :
    (agent.recordSent (sentOn : Nat)).currentWindowSent plane =
      agent.currentWindowSent plane + if sentOn = plane then 1 else 0 := by
  rw [agent.recordSent_counter]
  simp only [Fin.val_inj]

theorem Books.proceed (books : state.Books) (stepped : state.proceed = some later) :
    later.Books := by
  obtain ⟨planes, total, packets, numbered, current⟩ := books
  simp only [windowed, sentOn, pending, untotalled, undecided] at planes total packets current
  unfold Transmission.proceed at stepped
  split at stepped
  · cases stepped
  · next plane here =>
    obtain rfl := Option.some.inj stepped
    simp only [here] at planes total packets current
    refine ⟨fun other => ?_, ?_, packets, numbered, by simpa using current⟩
    · have books := planes other
      simp only [windowed, sentOn, pending, OrderedDict.bump, OrderedDict.find?_set]
      rcases eq_or_ne other plane with rfl | away
      · simpa using books
      · simpa [away, away.symm, Fin.val_inj] using books
    · rw [OrderedDict.total_bump, ← total]
      rfl
  · next plane here =>
    obtain rfl := Option.some.inj stepped
    simp only [here] at planes total packets current
    refine ⟨fun other => ?_, by simpa [untotalled] using total, ?_, numbered, by simpa using current⟩
    · simpa [windowed, sentOn, pending] using planes other
    · simp only [undecided]
      omega
  · next plane here =>
    obtain rfl := Option.some.inj stepped
    simp only [here] at planes total packets current
    obtain ⟨counters, agentEq⟩ := state.agent.recordSent_frame (plane : Nat)
    refine ⟨fun other => ?_, by simpa [untotalled] using total, by simpa [undecided] using packets,
      numbered, by simpa using current⟩
    have books := planes other
    simp only [windowed, sentOn, pending, recordSent_counter]
    rcases eq_or_ne plane other with rfl | away
    · simpa [Nat.add_assoc] using books
    · simpa [away] using books
  · next here =>
    obtain rfl := Option.some.inj stepped
    simp only [here] at planes total packets current
    refine ⟨fun other => ?_, by simpa [untotalled] using total, ?_, numbered, by simpa using current⟩
    · simpa [windowed, sentOn, pending] using planes other
    · simp only [undecided]
      omega
  · next here =>
    obtain rfl := Option.some.inj stepped
    simp only [here] at planes total packets current
    refine ⟨fun other => ?_, by simpa [untotalled] using total, by simpa [undecided] using packets,
      numbered, by simpa using current⟩
    simpa [windowed, sentOn, pending] using planes other

theorem Windows.send (windows : state.Windows) {plane : Fin numPlanes} {returned : Bool}
    (stepped : state.send plane returned = some later) : later.Windows := by
  rw [Transmission.send, Option.ite_none_right_eq_some] at stepped
  obtain rfl := Option.some.inj stepped.2
  obtain ⟨opened, currentId, closed, ordered, ring⟩ := windows
  exact ⟨opened, currentId, closed, ordered, ring⟩

theorem Windows.proceed (windows : state.Windows) (stepped : state.proceed = some later) :
    later.Windows := by
  obtain ⟨opened, currentId, closed, ordered, ring⟩ := windows
  unfold Transmission.proceed at stepped
  split at stepped
  · cases stepped
  · obtain rfl := Option.some.inj stepped
    exact ⟨opened, currentId, closed, ordered, ring⟩
  · obtain rfl := Option.some.inj stepped
    exact ⟨opened, currentId, closed, ordered, ring⟩
  · next plane here =>
    obtain rfl := Option.some.inj stepped
    obtain ⟨counters, agentEq⟩ := state.agent.recordSent_frame (plane : Nat)
    rw [agentEq]
    exact ⟨opened, currentId, closed, ordered, ring⟩
  · obtain rfl := Option.some.inj stepped
    exact ⟨opened, currentId, closed, ordered, ring⟩
  · obtain rfl := Option.some.inj stepped
    exact ⟨opened, currentId, closed, ordered, ring⟩

/-- What a rotation leaves: fresh counters, and the closed window in the ring if it is busy. -/
theorem rotateWindow_ok {agent next : SenderMrcAgent numPlanes} {closeNs : Int}
    (rotated : agent.rotateWindow closeNs = .ok next) :
    next = { agent with
        sentRing := next.sentRing
        currentWindowSent := fun _ => 0
        currentWindowStartNs := closeNs
        currentWindowId := agent.currentWindowId + 1 } ∧
      if (agent.closedWindow closeNs).sent.any (0 < ·) then
        agent.sentRing.push (agent.closedWindow closeNs) = .ok next.sentRing
      else next.sentRing = agent.sentRing := by
  unfold SenderMrcAgent.rotateWindow at rotated
  dsimp only at rotated
  split at rotated
  · next busy =>
    obtain ⟨sentRing, pushed, returned⟩ := bind_eq_ok rotated
    obtain rfl := Except.ok.inj returned
    exact ⟨rfl, by rw [if_pos busy, pushed]⟩
  · next idle =>
    obtain rfl := Except.ok.inj rotated
    exact ⟨rfl, by rw [if_neg idle]⟩

theorem push_suffix {ring next : SentWindowRing numPlanes} {window : SentWindow}
    (pushed : ring.push window = .ok next) : next.windows <:+ ring.windows ++ [window] := by
  unfold SentWindowRing.push at pushed
  split at pushed
  · obtain rfl := Except.ok.inj pushed
    exact List.drop_suffix _ _
  · cases pushed

theorem rotate_ok {nowNs : Int} (stepped : state.rotate nowNs = some later) :
    state.nowNs ≤ nowNs ∧ ∃ agent, state.agent.rotateWindow nowNs = .ok agent ∧
      later = { state with
        agent
        nowNs
        rotations := state.rotations + 1
        pushed := if (state.agent.closedWindow nowNs).sent.any (0 < ·) then
            state.pushed ++ [(state.rotations, state.agent.closedWindow nowNs)]
          else state.pushed } := by
  unfold Transmission.rotate at stepped
  split at stepped
  · next forward =>
    split at stepped
    · cases stepped
    · next agent rotated => exact ⟨forward, agent, rotated, (Option.some.inj stepped).symm⟩
  · cases stepped

theorem closedWindow_sent (agent : SenderMrcAgent numPlanes) (nowNs : Int) (plane : Fin numPlanes) :
    (agent.closedWindow nowNs).sent.getD plane 0 = agent.currentWindowSent plane := by
  simp [SenderMrcAgent.closedWindow, List.getD_eq_getElem?_getD]

theorem Books.rotate (books : state.Books) {nowNs : Int}
    (stepped : state.rotate nowNs = some later) : later.Books := by
  obtain ⟨-, agent, rotated, rfl⟩ := rotate_ok stepped
  obtain ⟨planes, total, packets, numbered, current⟩ := books
  refine ⟨fun plane => ?_, total, packets, numbered, current⟩
  have before := planes plane
  obtain ⟨agentEq, -⟩ := rotateWindow_ok rotated
  have sent := closedWindow_sent state.agent nowNs plane
  rw [agentEq]
  simp only [windowed, sentOn, pending] at before ⊢
  rw [← before]
  split
  · rw [List.map_append, List.sum_append, List.map_singleton, List.sum_singleton, sent, Nat.add_zero]
  · next idle =>
    have unused : state.agent.currentWindowSent plane = 0 := by
      by_contra busy
      refine idle (List.any_eq_true.mpr ⟨_, List.mem_ofFn.mpr ⟨plane, rfl⟩, ?_⟩)
      simpa using Nat.pos_of_ne_zero busy
    rw [unused]

theorem Windows.rotate (windows : state.Windows) {nowNs : Int}
    (stepped : state.rotate nowNs = some later) : later.Windows := by
  obtain ⟨forward, agent, rotated, rfl⟩ := rotate_ok stepped
  obtain ⟨opened, currentId, closed, ordered, ring⟩ := windows
  obtain ⟨agentEq, ringEq⟩ := rotateWindow_ok rotated
  refine ⟨?_, ?_, ?_, ?_, ?_⟩
  · rw [agentEq]
  · rw [agentEq]
    simp [UInt16.toNat_add, currentId, Nat.add_mod]
  · intro number window mem
    rw [agentEq]
    have earlier : ∀ number window, (number, window) ∈ state.pushed →
        number < state.rotations + 1 ∧ window.windowId.toNat = number % 2 ^ 16 ∧
          window.startNs ≤ window.endNs ∧ window.endNs ≤ nowNs := by
      intro number window mem
      obtain ⟨before, idEq, forwards, ended⟩ := closed number window mem
      exact ⟨Nat.lt_succ_of_lt before, idEq, forwards, ended.trans (opened.trans forward)⟩
    dsimp only at mem
    split at mem
    · rcases List.mem_append.mp mem with old | new
      · exact earlier number window old
      · obtain ⟨rfl, rfl⟩ := Prod.mk.inj (List.mem_singleton.mp new)
        exact ⟨Nat.lt_succ_self _, currentId, opened.trans forward, le_refl _⟩
    · exact earlier number window mem
  · dsimp only
    split
    · refine List.pairwise_append.mpr ⟨ordered, List.pairwise_singleton _ _, ?_⟩
      rintro ⟨number, window⟩ mem latest new
      obtain rfl := List.mem_singleton.mp new
      obtain ⟨before, -, -, ended⟩ := closed number window mem
      exact ⟨before, ended⟩
    · exact ordered
  · dsimp only
    split at ringEq
    · next busy =>
      rw [if_pos busy, List.map_append, List.map_singleton]
      refine (push_suffix ringEq).trans ?_
      obtain ⟨dropped, same⟩ := ring
      exact ⟨dropped, by rw [← List.append_assoc, same]⟩
    · next idle =>
      rw [if_neg idle, ringEq]
      exact ring

end Transmission

/-! ## Every interleaving -/

def transmitMachine {numPlanes : Nat} (agent : SenderMrcAgent numPlanes) (startNs : Int) :
    Machine (Transmission numPlanes) (TransmitAction numPlanes) where
  start := { agent, nowNs := startNs }
  step := Transmission.next

/-- The agent's ledger is the runner's, up to the packet in hand: at every point of every
interleaving the windows handed over and the open one account for what `run_sender` has
counted for each plane, less the one packet whose callback is still to come, and between two
packets the ledgers agree.  The windows are disjoint, in order, and numbered by rotation. -/
theorem ledgers_agree {topo : Topo} {tenant : String} {srcId dstId : Int}
    {table : EVStateTable topo.numPlanes} {cfg : AgentConfig} {startNs : Int}
    {agent : SenderMrcAgent topo.numPlanes}
    (built : SenderMrcAgent.init topo tenant srcId dstId table cfg startNs = .ok agent)
    {state : Transmission topo.numPlanes} (reachable : (transmitMachine agent startNs).Reachable state) :
    state.Books ∧ state.Windows ∧
      (state.point = .idle →
        (∀ plane, state.windowed plane + state.agent.currentWindowSent plane = state.sentOn plane) ∧
        state.result.sent = state.result.perPlaneSent.total ∧
        state.result.sent + state.result.errors = state.attempted.length ∧
        state.attempted = List.range state.seq) := by
  have start : (transmitMachine agent startNs).start.Books ∧
      (transmitMachine agent startNs).start.Windows := by
    unfold SenderMrcAgent.init at built
    split at built
    · cases built
    · obtain ⟨tenantId, -, built⟩ := bind_eq_ok built
      obtain ⟨probeClock, -, built⟩ := bind_eq_ok built
      obtain ⟨sentRing, ringBuilt, built⟩ := bind_eq_ok built
      obtain rfl := Except.ok.inj built
      have blank : sentRing.windows = [] := by
        rw [SentWindowRing.init_ok ringBuilt]
        rfl
      refine ⟨⟨fun plane => rfl, rfl, rfl, rfl, rfl⟩, le_refl _, rfl, ?_, List.Pairwise.nil, ?_⟩
      · rintro number window ⟨⟩
      · change sentRing.windows <:+ []
        rw [blank]
  obtain ⟨books, windows⟩ : state.Books ∧ state.Windows := by
    refine Machine.Reachable.invariant (motive := fun state => state.Books ∧ state.Windows) start
      ?_ reachable
    rintro before action after ⟨books, windows⟩ stepped
    cases action with
    | send plane returned => exact ⟨books.send stepped, windows.send stepped⟩
    | proceed => exact ⟨books.proceed stepped, windows.proceed stepped⟩
    | rotate nowNs => exact ⟨books.rotate stepped, windows.rotate stepped⟩
  refine ⟨books, windows, fun idle => ?_⟩
  have settled := books.planes
  have total := books.total
  have packets := books.packets
  have current := books.current
  simp only [Transmission.pending, Transmission.untotalled, idle] at settled total
  rw [Transmission.undecided, idle] at packets
  rw [idle, if_pos rfl] at current
  refine ⟨fun plane => by simpa using settled plane, total, packets, ?_⟩
  rw [books.numbered, ← current, Nat.add_zero]

/-- One packet over each plane, the second lost in `sendto`, and a rotation between them. -/
theorem ledgers_agree_two_packets : ∃ state,
    (transmitMachine (greenAgent 2 7) 0).run (transmitMachine (greenAgent 2 7) 0).start
      [.send 0 true, .proceed, .proceed, .rotate 10, .proceed, .proceed, .rotate 20,
        .send 1 false, .proceed, .proceed] = some state ∧
    (state.windowed 0 = 1 ∧ state.sentOn 0 = 1 ∧ state.result.errors = 1) ∧
    state.result.sent + state.result.errors = state.attempted.length := by
  obtain ⟨state, ran, idle, windowed⟩ : ∃ state,
      (transmitMachine (greenAgent 2 7) 0).run (transmitMachine (greenAgent 2 7) 0).start
        [.send 0 true, .proceed, .proceed, .rotate 10, .proceed, .proceed, .rotate 20,
          .send 1 false, .proceed, .proceed] = some state ∧ state.point = .idle ∧
        (state.windowed 0 = 1 ∧ state.sentOn 0 = 1 ∧ state.result.errors = 1) :=
    ⟨_, rfl, rfl, rfl, rfl, rfl⟩
  exact ⟨state, ran, windowed, ((ledgers_agree init_greenAgent_two ⟨_, ran⟩).2.2 idle).2.2.1⟩

/-- Right after `run_sender` has counted its packet the agent has not heard of it. -/
theorem counted_before_callback : ∃ state,
    (transmitMachine (greenAgent 2 7) 0).run (transmitMachine (greenAgent 2 7) 0).start
      [.send 0 true, .proceed] = some state ∧
    SenderMrcAgent.init Topo.twoPlanes "green" 0 7 (greenTable 2) {} 0 = .ok (greenAgent 2 7) ∧
    ¬ state.windowed 0 + state.agent.currentWindowSent 0 = state.sentOn 0 :=
  ⟨_, rfl, rfl, by decide⟩

end Srv6Fabric.Mrc

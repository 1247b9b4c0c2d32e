import Mathlib.Data.List.Induction
import Mathlib.Data.List.TakeWhile

/-!
# Streaks and latches

A history is read one entry at a time.  A streak is how many equal entries it ends in; an
entry completes `count` in a row when the last `count` up to it are equal.  A latch is set
by one kind of event and reset by another, and shows which kind came last.
-/

namespace Srv6Fabric.Library

variable {α : Type*}

section Streak

variable [DecidableEq α]

/-- How many entries equal to `want` the history ends in. -/
def streak (want : α) (history : List α) : Nat :=
  (history.reverse.takeWhile fun entry => entry = want).length

@[simp] theorem streak_nil (want : α) : streak want [] = 0 := rfl

@[simp] theorem streak_concat (want entry : α) (history : List α) :
    streak want (history ++ [entry]) = if entry = want then streak want history + 1 else 0 := by
  unfold streak
  rw [List.reverse_concat]
  by_cases same : entry = want
  · simp [same]
  · simp [same]

theorem le_streak_iff {want : α} {count : Nat} {history : List α} :
    count ≤ streak want history ↔
      count ≤ history.length ∧
        ∀ j, history.length ≤ j + count → j < history.length → history[j]? = some want := by
  induction history using List.reverseRecOn generalizing count with
  | nil =>
      refine ⟨fun none_ => ⟨none_, ?_⟩, And.left⟩
      rintro j - ⟨⟩
  | append_singleton history entry ih =>
      cases count with
      | zero =>
          refine iff_of_true (Nat.zero_le _) ⟨Nat.zero_le _, ?_⟩
          intro j late early
          omega
      | succ count =>
          rw [streak_concat, List.length_append, List.length_singleton]
          by_cases same : entry = want
          · rw [if_pos same, Nat.succ_le_succ_iff, ih]
            refine ⟨fun ⟨fits, all⟩ => ⟨by omega, ?_⟩, fun ⟨fits, all⟩ => ⟨by omega, ?_⟩⟩
            · intro j late early
              by_cases last : j = history.length
              · rw [last, List.getElem?_concat_length, same]
              · rw [List.getElem?_append_left (by omega)]
                exact all j (by omega) (by omega)
            · intro j late early
              rw [← all j (by omega) (by omega), List.getElem?_append_left early]
          · rw [if_neg same]
            refine iff_of_false (by omega) ?_
            rintro ⟨-, all⟩
            have last := all history.length (by omega) (by omega)
            rw [List.getElem?_concat_length] at last
            exact same (Option.some.inj last)

end Streak

/-- Entry `i` completes at least `count` consecutive entries equal to `want`. -/
def Completes (want : α) (count : Nat) (history : List α) (i : Nat) : Prop :=
  count ≤ i + 1 ∧ ∀ j, i < j + count → j ≤ i → history[j]? = some want

section Completes

variable {want entry : α} {count i : Nat} {history : List α}

theorem Completes.lt_length (positive : 0 < count) (completes : Completes want count history i) :
    i < history.length :=
  (List.getElem?_eq_some_iff.mp (completes.2 i (by omega) le_rfl)).1

theorem completes_concat_iff [DecidableEq α] (positive : 0 < count) :
    Completes want count (history ++ [entry]) i ↔
      Completes want count history i ∨
        (i = history.length ∧ count ≤ streak want (history ++ [entry])) := by
  have earlier : i < history.length →
      (Completes want count (history ++ [entry]) i ↔ Completes want count history i) := by
    intro inside
    unfold Completes
    refine and_congr_right fun _ => forall_congr' fun j => forall_congr' fun _ =>
      forall_congr' fun before => ?_
    rw [List.getElem?_append_left (by omega)]
  constructor
  · intro completes
    have bound := completes.lt_length positive
    rw [List.length_append, List.length_singleton] at bound
    by_cases inside : i < history.length
    · exact Or.inl ((earlier inside).mp completes)
    · obtain rfl : i = history.length := by omega
      refine Or.inr ⟨rfl, le_streak_iff.mpr ⟨by simpa using completes.1, ?_⟩⟩
      intro j late early
      rw [List.length_append, List.length_singleton] at late early
      exact completes.2 j (by omega) (by omega)
  · rintro (completes | ⟨rfl, long⟩)
    · exact (earlier (completes.lt_length positive)).mpr completes
    · obtain ⟨fits, all⟩ := le_streak_iff.mp long
      rw [List.length_append, List.length_singleton] at fits all
      exact ⟨fits, fun j late early => all j (by omega) (by omega)⟩

end Completes

/-- The latest of all events is one that sets; if there was none, what held initially. -/
def Latched (sets resets : Nat → Prop) (initially : Prop) : Prop :=
  (∃ i, sets i ∧ ∀ j, resets j → j < i) ∨
    ((∀ i, ¬ sets i) ∧ (∀ j, ¬ resets j) ∧ initially)

/-- At time `now` the latch may be set, or reset, and otherwise shows what it did before. -/
theorem latched_step {sets resets sets' resets' : Nat → Prop} {initially set_ reset_ : Prop}
    {now : Nat} (setsBefore : ∀ i, sets i → i < now) (resetsBefore : ∀ i, resets i → i < now)
    (setsIff : ∀ i, sets' i ↔ sets i ∨ (i = now ∧ set_))
    (resetsIff : ∀ i, resets' i ↔ resets i ∨ (i = now ∧ reset_)) (apart : ¬ (set_ ∧ reset_)) :
    Latched sets' resets' initially ↔ set_ ∨ (¬ reset_ ∧ Latched sets resets initially) := by
  by_cases setNow : set_
  · refine iff_of_true (Or.inl ⟨now, (setsIff now).mpr (Or.inr ⟨rfl, setNow⟩), ?_⟩) (Or.inl setNow)
    intro j reset
    rcases (resetsIff j).mp reset with before | ⟨-, resetNow⟩
    · exact resetsBefore j before
    · exact absurd ⟨setNow, resetNow⟩ apart
  have setsSame : ∀ i, sets' i ↔ sets i := fun i =>
    (setsIff i).trans (or_iff_left fun here => setNow here.2)
  by_cases resetNow : reset_
  · refine iff_of_false ?_ (by simp [setNow, resetNow])
    have last : resets' now := (resetsIff now).mpr (Or.inr ⟨rfl, resetNow⟩)
    rintro (⟨i, set, after⟩ | ⟨-, none_, -⟩)
    · exact absurd (after now last) (setsBefore i ((setsSame i).mp set)).asymm
    · exact none_ now last
  · have resetsSame : ∀ i, resets' i ↔ resets i := fun i =>
      (resetsIff i).trans (or_iff_left fun here => resetNow here.2)
    simp only [Latched, setsSame, resetsSame, setNow, resetNow, false_or, not_false_eq_true,
      true_and]

end Srv6Fabric.Library

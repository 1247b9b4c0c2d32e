import Mathlib.Algebra.Order.Group.Defs
import Mathlib.Data.Int.Order.Basic
import Mathlib.Data.List.Induction
import Mathlib.Data.List.ReduceOption

/-!
# Histories cut into windows

A history is a list of items and cuts.  A cut closes the window that is open and opens
an empty one, so that every item lies in one closed window or in the one still open.
The extremes of a window and its largest rise from one item to the next can be kept
item by item.
-/

namespace Srv6Fabric.Library

variable {α : Type*}

/-! ## Windows -/

/-- The windows that the cuts of a history close, in order; `none` is a cut. -/
def closedWindows : List α → List (Option α) → List (List α)
  | _, [] => []
  | window, some item :: rest => closedWindows (window ++ [item]) rest
  | window, none :: rest => window :: closedWindows [] rest

/-- The window still open at the end of a history. -/
def openWindow : List α → List (Option α) → List α
  | window, [] => window
  | window, some item :: rest => openWindow (window ++ [item]) rest
  | _, none :: rest => openWindow [] rest

theorem closedWindows_some (window : List α) (item : α) (rest : List (Option α)) :
    closedWindows window (some item :: rest) = closedWindows (window ++ [item]) rest := rfl

theorem closedWindows_none (window : List α) (rest : List (Option α)) :
    closedWindows window (none :: rest) = window :: closedWindows [] rest := rfl

theorem openWindow_some (window : List α) (item : α) (rest : List (Option α)) :
    openWindow window (some item :: rest) = openWindow (window ++ [item]) rest := rfl

theorem openWindow_none (window : List α) (rest : List (Option α)) :
    openWindow window (none :: rest) = openWindow [] rest := rfl

/-- Items join the open window until it is cut. -/
theorem closedWindows_items_append (window items : List α) (history : List (Option α)) :
    closedWindows window (items.map some ++ history) =
      closedWindows (window ++ items) history := by
  induction items generalizing window with
  | nil => simp
  | cons item rest ih => simp [closedWindows_some, ih]

/-- Every item lies in exactly one window, in order. -/
theorem flatten_closedWindows_append_openWindow (window : List α) (history : List (Option α)) :
    (closedWindows window history).flatten ++ openWindow window history =
      window ++ history.reduceOption := by
  induction history generalizing window with
  | nil => exact (List.append_nil window).symm
  | cons event rest ih =>
      cases event with
      | some item => simp [closedWindows_some, openWindow_some, ih, List.reduceOption_cons_of_some]
      | none => simp [closedWindows_none, openWindow_none, ih, List.reduceOption_cons_of_none]

/-! ## What came before an item -/

/-- Every item with the items before it. -/
def withEarlier : List α → List α → List (List α × α)
  | _, [] => []
  | earlier, item :: rest => (earlier, item) :: withEarlier (earlier ++ [item]) rest

theorem withEarlier_cons (earlier : List α) (item : α) (rest : List α) :
    withEarlier earlier (item :: rest) =
      (earlier, item) :: withEarlier (earlier ++ [item]) rest := rfl

theorem withEarlier_concat (earlier items : List α) (item : α) :
    withEarlier earlier (items ++ [item]) =
      withEarlier earlier items ++ [(earlier ++ items, item)] := by
  induction items generalizing earlier with
  | nil =>
      rw [List.append_nil]
      rfl
  | cons first rest ih => simp [withEarlier_cons, ih]

theorem length_withEarlier (earlier items : List α) :
    (withEarlier earlier items).length = items.length := by
  induction items generalizing earlier with
  | nil => rfl
  | cons first rest ih => rw [withEarlier_cons, List.length_cons, ih, List.length_cons]

theorem map_snd_withEarlier (earlier items : List α) :
    (withEarlier earlier items).map Prod.snd = items := by
  induction items generalizing earlier with
  | nil => rfl
  | cons first rest ih => rw [withEarlier_cons, List.map_cons, ih]

/-- What came before an item is a prefix of the whole. -/
theorem mem_withEarlier {items earlier : List α} {item : α}
    (mem : (earlier, item) ∈ withEarlier [] items) : ∃ later, items = earlier ++ item :: later := by
  induction items using List.reverseRecOn with
  | nil => cases mem
  | append_singleton items last ih =>
      rw [withEarlier_concat, List.mem_append] at mem
      rcases mem with before | here
      · obtain ⟨later, rfl⟩ := ih before
        exact ⟨later ++ [last], by simp⟩
      · obtain ⟨rfl, rfl⟩ := Prod.mk.inj (List.mem_singleton.mp here)
        exact ⟨[], by simp⟩

/-! ## Extremes of a window -/

/-- The largest rise from one number of a list to the next one; 0 if none rises. -/
def largestRise : List Int → Int
  | value :: next :: rest => max (next - value) (largestRise (next :: rest))
  | _ => 0

theorem largestRise_concat (values : List Int) (last added : Int) :
    largestRise (values ++ [last, added]) =
      max (largestRise (values ++ [last])) (added - last) := by
  induction values with
  | nil => simp [largestRise, max_comm]
  | cons value rest ih =>
      cases rest with
      | nil =>
          simp only [List.cons_append, List.nil_append, largestRise]
          rw [max_assoc, max_comm 0]
      | cons next later =>
          simp only [List.cons_append, largestRise] at ih ⊢
          rw [ih, max_assoc]

theorem min?_concat (values : List Int) (added : Int) :
    (values ++ [added]).min? = some (values.min?.elim added (min · added)) := by
  cases values with
  | nil => rfl
  | cons value rest =>
      rw [List.cons_append, List.min?_cons', List.min?_cons', List.foldl_append]
      rfl

theorem max?_concat (values : List Int) (added : Int) :
    (values ++ [added]).max? = some (values.max?.elim added (max · added)) := by
  cases values with
  | nil => rfl
  | cons value rest =>
      rw [List.cons_append, List.max?_cons', List.max?_cons', List.foldl_append]
      rfl

end Srv6Fabric.Library

import Mathlib.Data.List.Basic

/-!
# Exceptions

The exception classes the modelled functions raise, with the text they are raised
with.  `ProbeDecodeError` derives from `ValueError` in the source; the two are kept
apart because the receive loops catch only the former.
-/

namespace Srv6Fabric

inductive PyError where
  | valueError (message : String)
  | probeDecodeError (message : String)
  | runtimeError (message : String)
  | indexError (message : String)
  | structError (message : String)
  | typeError (message : String)
  | overflowError (message : String)
  | keyError (message : String)
  | notImplementedError (message : String)
  | argumentTypeError (message : String)
  | systemExit (message : String)
  | scenarioError (path message : String)
  deriving DecidableEq, Repr

/-- A computation that returns has returned at every step. -/
theorem bind_eq_ok {α β : Type} {first : Except PyError α} {next : α → Except PyError β}
    {result : β} (returned : first >>= next = .ok result) :
    ∃ value, first = .ok value ∧ next value = .ok result := by
  cases first with
  | error error => cases returned
  | ok value => exact ⟨value, rfl, returned⟩

theorem bind_of_ok {α β : Type} {first : Except PyError α} {next : α → Except PyError β} {value : α}
    (returned : first = .ok value) : first >>= next = next value := by
  rw [returned]
  rfl

/-- A computation that raises has raised at some step. -/
theorem bind_eq_error {α β : Type} {first : Except PyError α} {next : α → Except PyError β}
    {error : PyError} (raised : first >>= next = .error error) :
    first = .error error ∨ ∃ value, first = .ok value ∧ next value = .error error := by
  cases first with
  | error _ => exact Or.inl (congrArg Except.error (Except.error.inj raised))
  | ok value => exact Or.inr ⟨value, rfl, raised⟩

/-- A traversal that returns has returned for every element. -/
theorem mapM_eq_ok {α β : Type} {visit : α → Except PyError β} {items : List α} {values : List β}
    (returned : items.mapM visit = .ok values) :
    List.Forall₂ (fun item value => visit item = .ok value) items values := by
  induction items generalizing values with
  | nil =>
      obtain rfl := Except.ok.inj returned
      exact .nil
  | cons item rest ih =>
      rw [List.mapM_cons] at returned
      obtain ⟨value, visited, afterVisit⟩ := bind_eq_ok returned
      obtain ⟨others, restVisited, joined⟩ := bind_eq_ok afterVisit
      obtain rfl := Except.ok.inj joined
      exact .cons visited (ih restVisited)

/-- Every visit of such a traversal has returned. -/
theorem exists_of_mapM {α β : Type} {visit : α → Except PyError β} {items : List α}
    {values : List β} (returned : items.mapM visit = .ok values) {item : α} (mem : item ∈ items) :
    ∃ value, visit item = .ok value := by
  have pointwise := mapM_eq_ok returned
  clear returned
  induction pointwise with
  | nil => cases mem
  | cons visited _ ih =>
      rcases List.mem_cons.mp mem with rfl | later
      · exact ⟨_, visited⟩
      · exact ih later

theorem mapM_of_forall₂ {α β : Type} {visit : α → Except PyError β} {items : List α}
    {values : List β} (visits : List.Forall₂ (fun item value => visit item = .ok value) items values) :
    items.mapM visit = .ok values := by
  induction visits with
  | nil => rfl
  | cons visited _ ih =>
      rw [List.mapM_cons, visited, ih]
      rfl

/-- A traversal whose every visit returns, returns. -/
theorem exists_mapM_ok {α β : Type} {visit : α → Except PyError β} {items : List α}
    (visits : ∀ item ∈ items, ∃ value, visit item = .ok value) :
    ∃ values, items.mapM visit = .ok values := by
  induction items with
  | nil => exact ⟨[], rfl⟩
  | cons item rest ih =>
      obtain ⟨value, visited⟩ := visits item List.mem_cons_self
      obtain ⟨values, rest⟩ := ih fun other mem => visits other (List.mem_cons_of_mem _ mem)
      refine ⟨value :: values, ?_⟩
      rw [List.mapM_cons, bind_of_ok visited, bind_of_ok rest]
      rfl

/-- A traversal raises what the first item raises whose visit does. -/
theorem mapM_eq_error {α β : Type} {visit : α → Except PyError β} {before after : List α} {item : α}
    {error : PyError} (earlier : ∀ other ∈ before, ∃ value, visit other = .ok value)
    (raised : visit item = .error error) :
    (before ++ item :: after).mapM visit = .error error := by
  induction before with
  | nil =>
      rw [List.nil_append, List.mapM_cons, raised]
      rfl
  | cons other rest ih =>
      obtain ⟨⟨value, first⟩, later⟩ := List.forall_mem_cons.mp earlier
      rw [List.cons_append, List.mapM_cons, bind_of_ok first, ih later]
      rfl

/-- The quote `repr` chooses: double only when the text holds single quotes alone. -/
def reprQuote (text : String) : Char :=
  if text.toList.contains (Char.ofNat 39) && !text.toList.contains (Char.ofNat 34) then
    Char.ofNat 34
  else Char.ofNat 39

/-- How `repr` writes one character; characters past ASCII are written as they are. -/
def reprChar (quote char : Char) : List Char :=
  if char = quote || char = Char.ofNat 92 then [Char.ofNat 92, char]
  else if char = '\n' then [Char.ofNat 92, 'n']
  else if char = '\r' then [Char.ofNat 92, 'r']
  else if char = '\t' then [Char.ofNat 92, 't']
  else if char.toNat < 32 || char.toNat = 127 then
    [Char.ofNat 92, 'x', (char.toNat / 16).digitChar, (char.toNat % 16).digitChar]
  else [char]

/-- `repr` of a string. -/
def pyRepr (text : String) : String :=
  let quote := reprQuote text
  String.ofList (quote :: text.toList.flatMap (reprChar quote) ++ [quote])

/-- `repr` of a tuple of strings. -/
def pyReprTuple : List String → String
  | [single] => "(" ++ pyRepr single ++ ",)"
  | parts => "(" ++ ", ".intercalate (parts.map pyRepr) ++ ")"

/-! ## Plane indices -/

/-- `_check_plane`, the same in every table; it returns the index the caller uses next. -/
def checkPlane (numPlanes : Nat) (plane : Int) : Except PyError (Fin numPlanes) :=
  if inRange : 0 ≤ plane ∧ plane < numPlanes then
    .ok ⟨plane.toNat, (Int.toNat_lt inRange.1).mpr inRange.2⟩
  else .error (.valueError s!"plane {plane} out of range [0, {numPlanes})")

theorem checkPlane_ok {numPlanes : Nat} {plane : Int} {index : Fin numPlanes}
    (checked : checkPlane numPlanes plane = .ok index) : (index : Int) = plane := by
  unfold checkPlane at checked
  split at checked
  · next inRange =>
    rw [← Except.ok.inj checked]
    exact Int.toNat_of_nonneg inRange.1
  · cases checked

@[simp] theorem checkPlane_fin {numPlanes : Nat} (plane : Fin numPlanes) :
    checkPlane numPlanes (plane : Nat) = .ok plane := by
  have inRange : 0 ≤ ((plane : Nat) : Int) ∧ ((plane : Nat) : Int) < numPlanes :=
    ⟨Int.natCast_nonneg _, Int.ofNat_lt.mpr plane.isLt⟩
  rw [checkPlane, dif_pos inRange]
  simp

theorem checkPlane_of_le {numPlanes plane : Nat} (outside : numPlanes ≤ plane) :
    checkPlane numPlanes plane =
      .error (.valueError s!"plane {(plane : Int)} out of range [0, {numPlanes})") :=
  dif_neg fun inRange => by omega

end Srv6Fabric

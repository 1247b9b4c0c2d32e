import Srv6Fabric.FloatText

/-!
# What a float's text is made of

A text `float` takes has no comma, and white space around a number does not change it.
-/

namespace Srv6Fabric.PyFloat

/-- Neither white space nor a comma. -/
def Visible (char : Char) : Prop := isSpace char = false ∧ char ≠ ','

instance (char : Char) : Decidable (Visible char) := inferInstanceAs (Decidable (_ ∧ _))

theorem visible_of_isDigit {char : Char} (digit : char.isDigit) : Visible char := by
  obtain ⟨small, same⟩ := digitChar_of_isDigit digit
  have all : ∀ value : Fin 10, Visible (value : Nat).digitChar := by decide
  rw [← same]
  exact all ⟨_, small⟩

/-- The code points of white space. -/
def spaceCodes : List Nat :=
  [9, 10, 11, 12, 13, 28, 29, 30, 31, 32, 0x85, 0xa0, 0x1680, 0x2000, 0x2001, 0x2002, 0x2003,
    0x2004, 0x2005, 0x2006, 0x2007, 0x2008, 0x2009, 0x200a, 0x2028, 0x2029, 0x202f, 0x205f, 0x3000]

/-- White space is neither a digit nor a capital letter. -/
theorem isSpace_facts {char : Char} (space : isSpace char) :
    char.toLower = char ∧ decimalValue? char = none := by
  have coded : char.toNat ∈ spaceCodes := by
    simp only [isSpace, Bool.or_eq_true, Bool.and_eq_true, decide_eq_true_eq] at space
    simp only [spaceCodes, List.mem_cons, List.not_mem_nil, or_false]
    omega
  have all : ∀ code ∈ spaceCodes,
      (Char.ofNat code).toLower = Char.ofNat code ∧ decimalValue? (Char.ofNat code) = none := by
    decide
  have facts := all char.toNat coded
  rwa [Char.ofNat_toNat] at facts

theorem visible_of_toLower {char : Char} (visible : Visible char.toLower) : Visible char := by
  refine ⟨?_, ?_⟩
  · by_contra space
    rw [Bool.not_eq_false] at space
    rw [(isSpace_facts space).1, Visible, space] at visible
    exact Bool.noConfusion visible.1
  · rintro rfl
    exact visible.2 (by decide)

/-! ## Literals -/

theorem visible_takeWhile (text : List Char) : ∀ char ∈ text.takeWhile Char.isDigit, Visible char :=
  fun _ mem => visible_of_isDigit (List.mem_takeWhile_imp mem)

theorem visible_splitSign {text : List Char} (rest : ∀ char ∈ (splitSign text).2, Visible char) :
    ∀ char ∈ text, Visible char := by
  have minus : Visible '-' := by decide
  have plus : Visible '+' := by decide
  unfold splitSign at rest
  split at rest
  · exact List.forall_mem_cons.mpr ⟨minus, rest⟩
  · exact List.forall_mem_cons.mpr ⟨plus, rest⟩
  · exact rest

theorem visible_exponent {text : List Char} {exponent : Int}
    (read : exponent? text = some exponent) : ∀ char ∈ text, Visible char := by
  cases text with
  | nil => simp
  | cons mark rest =>
      simp only [exponent?] at read
      obtain ⟨fits, -⟩ := Option.ite_none_right_eq_some.mp read
      simp only [Bool.and_eq_true, Bool.or_eq_true, decide_eq_true_eq] at fits
      obtain ⟨⟨marked, -⟩, digits⟩ := fits
      refine List.forall_mem_cons.mpr ⟨?_, visible_splitSign fun char mem =>
        visible_of_isDigit (List.all_eq_true.mp digits char mem)⟩
      rcases marked with rfl | rfl <;> decide

theorem visible_splitFraction {text : List Char}
    (rest : ∀ char ∈ (splitFraction text).2, Visible char) : ∀ char ∈ text, Visible char := by
  unfold splitFraction at rest
  split at rest
  · next digits =>
    refine List.forall_mem_cons.mpr ⟨by decide, fun char mem => ?_⟩
    rw [← List.takeWhile_append_dropWhile (p := Char.isDigit) (l := digits)] at mem
    rcases List.mem_append.mp mem with fraction | tail
    · exact visible_takeWhile digits char fraction
    · exact rest char tail
  · exact rest

theorem visible_literal {text : List Char} {value : ℚ} (read : literal? text = some value) :
    text ≠ [] ∧ ∀ char ∈ text, Visible char := by
  simp only [literal?] at read
  split at read
  · cases read
  · next some_ =>
    obtain ⟨exponent, exponentRead, -⟩ := Option.map_eq_some_iff.mp read
    constructor
    · rintro rfl
      exact some_ rfl
    · intro char mem
      rw [← List.takeWhile_append_dropWhile (p := Char.isDigit) (l := text)] at mem
      rcases List.mem_append.mp mem with whole | tail
      · exact visible_takeWhile text char whole
      · exact visible_splitFraction (visible_exponent exponentRead) char tail

theorem visible_word {text word : List Char} (spelled : text.map Char.toLower = word)
    (some_ : word ≠ []) (letters : ∀ char ∈ word, Visible char) :
    text ≠ [] ∧ ∀ char ∈ text, Visible char := by
  subst spelled
  refine ⟨mt List.map_eq_nil_iff.mpr some_, fun char mem => ?_⟩
  exact visible_of_toLower (letters _ (List.mem_map_of_mem mem))

theorem visible_ofUnsigned {negative : Bool} {text : List Char} {x : PyFloat}
    (read : ofUnsigned negative text = some x) : text ≠ [] ∧ ∀ char ∈ text, Visible char := by
  simp only [ofUnsigned] at read
  split at read
  · next word =>
    rw [Bool.or_eq_true, decide_eq_true_eq, decide_eq_true_eq] at word
    rcases word with spelled | spelled
    · exact visible_word spelled (by decide) (forall_mem_of_all rfl)
    · exact visible_word spelled (by decide) (forall_mem_of_all rfl)
  · split at read
    · next spelled => exact visible_word spelled (by decide) (forall_mem_of_all rfl)
    · obtain ⟨value, literal, -⟩ := Option.map_eq_some_iff.mp read
      exact visible_literal literal

/-- The core of an accepted text. -/
theorem visible_floatCore {text : String} {x : PyFloat} (read : ofText text = some x) :
    floatCore text ≠ [] ∧ ∀ char ∈ floatCore text, Visible char := by
  unfold ofText at read
  split at read
  · obtain ⟨nonempty, visible⟩ := visible_ofUnsigned read
    have underscore : Visible '_' := by decide
    have signed := visible_splitSign visible
    constructor
    · intro empty
      rw [empty] at nonempty
      exact nonempty rfl
    · intro char mem
      by_cases isUnderscore : char = '_'
      · rw [isUnderscore]
        exact underscore
      · exact signed char (List.mem_filter.mpr ⟨mem, decide_eq_true isUnderscore⟩)
  · cases read

/-! ## Accepted texts -/

/-- White space around a number. -/
def padding (char : Char) : Bool := floatSpace (asciiDigit char)

theorem padding_facts {char : Char} (pad : padding char) : isSpace char ∧ char ≠ ',' := by
  unfold padding asciiDigit at pad
  split at pad
  · next value decimal =>
    have all : ∀ value : Fin 10, floatSpace (value : Nat).digitChar = false := by decide
    rw [all ⟨value, decimalValue?_lt decimal⟩] at pad
    cases pad
  · rw [floatSpace, Bool.and_eq_true] at pad
    refine ⟨pad.1, ?_⟩
    rintro rfl
    exact absurd pad.1 (by decide)

theorem visible_of_asciiDigit {char : Char} (visible : Visible (asciiDigit char)) :
    Visible char := by
  unfold asciiDigit at visible
  split at visible
  · next value decimal =>
    constructor
    · by_contra space
      rw [Bool.not_eq_false] at space
      rw [(isSpace_facts space).2] at decimal
      cases decimal
    · rintro rfl
      rw [show decimalValue? ',' = none by decide] at decimal
      cases decimal
  · exact visible

theorem floatCore_eq (text : List Char) :
    floatCore (String.ofList text) =
      ((text.dropWhile padding).rdropWhile padding).map asciiDigit := by
  rw [floatCore, String.toList_ofList, List.dropWhile_map, List.rdropWhile, List.rdropWhile,
    ← List.map_reverse, List.dropWhile_map, List.map_reverse]
  rfl

/-- An accepted text: white space, a visible core, white space. -/
theorem ofText_shape {text : List Char} {x : PyFloat}
    (read : ofText (String.ofList text) = some x) :
    ∃ front core back, text = front ++ core ++ back ∧ core ≠ [] ∧
      (∀ char ∈ front, padding char) ∧ (∀ char ∈ core, Visible char) ∧
      (∀ char ∈ back, padding char) := by
  obtain ⟨nonempty, visible⟩ := visible_floatCore read
  rw [floatCore_eq] at nonempty visible
  refine ⟨text.takeWhile padding, (text.dropWhile padding).rdropWhile padding,
    (text.dropWhile padding).rtakeWhile padding, ?_, mt List.map_eq_nil_iff.mpr nonempty, ?_, ?_, ?_⟩
  · rw [List.append_assoc, List.rdropWhile_append_rtakeWhile, List.takeWhile_append_dropWhile]
  · exact fun char mem => List.mem_takeWhile_imp mem
  · exact fun char mem => visible_of_asciiDigit (visible _ (List.mem_map_of_mem mem))
  · exact fun char mem => List.mem_rtakeWhile_imp mem

theorem comma_not_mem {text : List Char} {x : PyFloat}
    (read : ofText (String.ofList text) = some x) : ',' ∉ text := by
  obtain ⟨front, core, back, rfl, -, frontPads, coreVisible, backPads⟩ := ofText_shape read
  intro mem
  rw [List.mem_append, List.mem_append] at mem
  rcases mem with (inFront | inCore) | inBack
  · exact (padding_facts (frontPads _ inFront)).2 rfl
  · exact (coreVisible _ inCore).2 rfl
  · exact (padding_facts (backPads _ inBack)).2 rfl

theorem rdropWhile_append {drop : Char → Bool} {text back : List Char}
    (kept : text.rdropWhile drop = text) (dropped : ∀ char ∈ back, drop char) :
    (text ++ back).rdropWhile drop = text := by
  have reversed : ∀ char ∈ back.reverse, drop char := fun char mem =>
    dropped char (List.mem_reverse.mp mem)
  rw [List.rdropWhile, List.reverse_append, List.dropWhile_append_of_pos reversed]
  exact kept

/-- `rstrip` before `float` changes nothing. -/
theorem ofText_rstrip {text : List Char} {x : PyFloat}
    (read : ofText (String.ofList text) = some x) :
    (∃ char ∈ text, isSpace char = false) ∧
      ofText (String.ofList (text.rdropWhile isSpace)) = some x := by
  obtain ⟨front, core, back, rfl, nonempty, frontPads, coreVisible, backPads⟩ := ofText_shape read
  have last := coreVisible _ (List.getLast_mem nonempty)
  have stripped : (front ++ core ++ back).rdropWhile isSpace = front ++ core := by
    refine rdropWhile_append ?_ fun char mem => (padding_facts (backPads char mem)).1
    rw [List.rdropWhile_eq_self_iff]
    intro some_
    rw [List.getLast_append_of_ne_nil _ nonempty, last.1]
    exact Bool.false_ne_true
  have bare : core.rdropWhile padding = core := by
    rw [List.rdropWhile_eq_self_iff]
    intro some_ pad
    exact Bool.false_ne_true ((coreVisible _ (List.getLast_mem some_)).1.symm.trans
      (padding_facts pad).1)
  have coreOf (rest : List Char) (restPads : ∀ char ∈ rest, padding char) :
      floatCore (String.ofList (front ++ core ++ rest)) = core.map asciiDigit := by
    have started : (core ++ rest).dropWhile padding = core ++ rest := by
      rw [List.dropWhile_eq_self_iff]
      intro some_ pad
      have head : (core ++ rest)[0] ∈ core := by
        rw [List.getElem_append_left (List.length_pos_of_ne_nil nonempty)]
        exact List.getElem_mem _
      exact Bool.false_ne_true ((coreVisible _ head).1.symm.trans (padding_facts pad).1)
    rw [floatCore_eq, List.append_assoc, List.dropWhile_append_of_pos frontPads, started,
      rdropWhile_append bare restPads]
  refine ⟨⟨_, by simp [List.getLast_mem nonempty], last.1⟩, ?_⟩
  have same : floatCore (String.ofList (front ++ core)) =
      floatCore (String.ofList (front ++ core ++ back)) := by
    rw [coreOf back backPads, ← List.append_nil (front ++ core)]
    exact coreOf [] (by simp)
  rw [stripped, ofText, same]
  exact read

end Srv6Fabric.PyFloat

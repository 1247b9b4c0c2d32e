import Mathlib.Algebra.Order.Ring.Nat
import Mathlib.Data.List.DropRight
import Mathlib.Data.List.TakeWhile
import Srv6Fabric.PyFloat
import Srv6Fabric.PyStr

/-!
# Reading a float

`float(text)`: white space around a literal, digits of any script, underscores between
digits, and a decimal number that is rounded once.
-/

namespace Srv6Fabric.PyFloat

open Srv6Fabric.Library

/-! ## `float(text)` -/

/-- White space that `float` strips: that of `str.isspace` but the ASCII separators. -/
def floatSpace (char : Char) : Bool :=
  isSpace char && !(28 ≤ char.toNat && char.toNat ≤ 31)

/-- A decimal digit of any script as its ASCII digit. -/
def asciiDigit (char : Char) : Char :=
  match decimalValue? char with
  | some value => value.digitChar
  | none => char

/-- Every underscore stands between two digits; `afterDigit` tells whether the text
before ends in one. -/
def underscoresFit (afterDigit : Bool) : List Char → Bool
  | [] => true
  | '_' :: rest => afterDigit && (rest.head?.any Char.isDigit) && underscoresFit false rest
  | char :: rest => underscoresFit char.isDigit rest

/-- The number a list of digits denotes. -/
def digitsValue (digits : List Char) : Nat := Nat.ofDigitChars 10 (digits.map asciiDigit) 0

/-- The value of `whole.fraction`. -/
def decimalNumber (whole fraction : List Char) : ℚ :=
  digitsValue (whole ++ fraction) / 10 ^ fraction.length

/-- A sign and what follows it. -/
def splitSign : List Char → Bool × List Char
  | '-' :: rest => (true, rest)
  | '+' :: rest => (false, rest)
  | rest => (false, rest)

/-- The exponent part of a number: `e` and a signed integer, or nothing. -/
def exponent? : List Char → Option Int
  | [] => some 0
  | mark :: rest =>
      let (negative, digits) := splitSign rest
      if (mark = 'e' || mark = 'E') && digits ≠ [] && digits.all Char.isDigit then
        some (if negative then -(digitsValue digits) else digitsValue digits)
      else none

/-- The fraction digits after a number's whole part, and what follows them. -/
def splitFraction : List Char → List Char × List Char
  | '.' :: rest => (rest.takeWhile Char.isDigit, rest.dropWhile Char.isDigit)
  | rest => ([], rest)

/-- The value of an unsigned decimal literal. -/
def literal? (text : List Char) : Option ℚ :=
  let whole := text.takeWhile Char.isDigit
  let (fraction, rest) := splitFraction (text.dropWhile Char.isDigit)
  if whole = [] && fraction = [] then none
  else (exponent? rest).map fun exponent => decimalNumber whole fraction * (10 : ℚ) ^ exponent

/-- The float of a sign and a magnitude. -/
def ofSigned (negative : Bool) (magnitude : ℚ) : PyFloat :=
  if negative then if magnitude = 0 then .negZero else round (-magnitude)
  else round magnitude

/-- The float an unsigned text without underscores denotes, with its sign. -/
def ofUnsigned (negative : Bool) (body : List Char) : Option PyFloat :=
  let word := body.map Char.toLower
  if word = "inf".toList || word = "infinity".toList then some (.inf negative)
  else if word = "nan".toList then some .nan
  else (literal? body).map (ofSigned negative)

/-- The text without the white space around it, its digits in ASCII. -/
def floatCore (text : String) : List Char :=
  ((text.toList.map asciiDigit).dropWhile floatSpace).rdropWhile floatSpace

/-- `float(text)`, `none` for the `ValueError`. -/
def ofText (text : String) : Option PyFloat :=
  if underscoresFit false (floatCore text) then
    let (negative, body) := splitSign ((floatCore text).filter (· ≠ '_'))
    ofUnsigned negative body
  else none

example : ofText " -1_0.5e-1 " = some (round (-(21 / 20))) := by decide +kernel

/-! ## Digits -/

theorem decimalValue?_lt {char : Char} {value : Nat} (decimal : decimalValue? char = some value) :
    value < 10 := by
  obtain ⟨first, found, rfl⟩ := Option.map_eq_some_iff.mp decimal
  have inside := List.find?_some found
  simp only [Bool.and_eq_true, decide_eq_true_eq] at inside
  omega

theorem asciiDigit_digitChar (value : Fin 10) :
    asciiDigit (value : Nat).digitChar = (value : Nat).digitChar ∧
      (value : Nat).digitChar.isDigit := by
  revert value
  decide

theorem isDigit_asciiDigit {char : Char} (decimal : isDecimal char) :
    (asciiDigit char).isDigit := by
  obtain ⟨value, valueEq⟩ := Option.isSome_iff_exists.mp decimal
  rw [asciiDigit, valueEq]
  exact (asciiDigit_digitChar ⟨value, decimalValue?_lt valueEq⟩).2

theorem digitChar_of_isDigit {char : Char} (digit : char.isDigit) :
    char.toNat - 48 < 10 ∧ (char.toNat - 48).digitChar = char := by
  have bounds : 48 ≤ char.toNat ∧ char.toNat ≤ 57 := by
    simpa [Char.isDigit, Char.le_def, UInt32.le_iff_toNat_le] using digit
  refine ⟨by omega, Char.toNat_inj.mp ?_⟩
  rw [Nat.toNat_digitChar_of_lt_ten (by omega)]
  omega

theorem asciiDigit_of_isDigit {char : Char} (digit : char.isDigit) : asciiDigit char = char := by
  obtain ⟨small, same⟩ := digitChar_of_isDigit digit
  rw [← same]
  exact (asciiDigit_digitChar ⟨char.toNat - 48, small⟩).1

theorem map_asciiDigit {digits : List Char} (ascii : ∀ char ∈ digits, char.isDigit) :
    digits.map asciiDigit = digits := by
  conv_rhs => rw [← List.map_id digits]
  exact List.map_congr_left fun char mem => asciiDigit_of_isDigit (ascii char mem)

theorem isDigit_of_mem_map {digits : List Char} (decimal : ∀ char ∈ digits, isDecimal char) :
    ∀ char ∈ digits.map asciiDigit, char.isDigit := by
  intro char mem
  obtain ⟨digit, digitMem, rfl⟩ := List.mem_map.mp mem
  exact isDigit_asciiDigit (decimal digit digitMem)

theorem digitsValue_map {digits : List Char} (decimal : ∀ char ∈ digits, isDecimal char) :
    digitsValue (digits.map asciiDigit) = digitsValue digits := by
  rw [digitsValue, map_asciiDigit (isDigit_of_mem_map decimal), digitsValue]

@[simp] theorem digitsValue_toDigits (n : Nat) : digitsValue (Nat.toDigits 10 n) = n := by
  have ascii : ∀ char ∈ Nat.toDigits 10 n, char.isDigit := fun char mem =>
    Nat.isDigit_of_mem_toDigits (by decide) (by decide) mem
  rw [digitsValue, map_asciiDigit ascii, Nat.ofDigitChars_ten_toDigits]

theorem digitsValue_append (front back : List Char) :
    digitsValue (front ++ back) = digitsValue front * 10 ^ back.length + digitsValue back := by
  rw [digitsValue, List.map_append, Nat.ofDigitChars_append, Nat.ofDigitChars_eq_ofDigitChars_zero,
    List.length_map, mul_comm]
  rfl

theorem map_asciiDigit_zeros (count : Nat) :
    (List.replicate count '0').map asciiDigit = List.replicate count '0' := by
  rw [List.map_replicate]
  rfl

@[simp] theorem digitsValue_zeros (count : Nat) : digitsValue (List.replicate count '0') = 0 := by
  rw [digitsValue, map_asciiDigit_zeros, Nat.ofDigitChars_replicate_zero, Nat.mul_zero]

/-! ## Reading a literal -/

/-- The exponent part ends a run of digits. -/
def Ends (tail : List Char) : Prop := ∀ char ∈ tail.head?, char = 'e'

theorem takeWhile_digits {digits rest : List Char} (ascii : ∀ char ∈ digits, char.isDigit)
    (ends : ∀ char ∈ rest.head?, char.isDigit = false) :
    (digits ++ rest).takeWhile Char.isDigit = digits ∧
      (digits ++ rest).dropWhile Char.isDigit = rest := by
  rw [List.takeWhile_append_of_pos ascii, List.dropWhile_append_of_pos ascii]
  cases rest with
  | nil => simp
  | cons first rest =>
      have stop := ends first rfl
      simp [stop]

/-- Digits, digits after a point or neither, and an exponent part. -/
theorem literal?_decimal {whole point fraction : List Char} (tail : List Char)
    (nonempty : whole ≠ [])
    (ascii : ∀ char ∈ whole ++ fraction, char.isDigit)
    (pointed : point = [] ∧ fraction = [] ∨ point = ['.']) (ends : Ends tail) :
    literal? (whole ++ point ++ fraction ++ tail) =
      (exponent? tail).map fun exponent => decimalNumber whole fraction * (10 : ℚ) ^ exponent := by
  have wholeAscii : ∀ char ∈ whole, char.isDigit := fun char mem =>
    ascii char (List.mem_append_left _ mem)
  have tailEnds : ∀ char ∈ tail.head?, char.isDigit = false := by
    intro char mem
    rw [ends char mem]
    rfl
  rcases pointed with ⟨rfl, rfl⟩ | rfl
  · obtain ⟨taken, dropped⟩ := takeWhile_digits wholeAscii tailEnds
    simp only [literal?, List.append_nil, taken, dropped]
    have pointless : splitFraction tail = ([], tail) := by
      unfold splitFraction
      split
      · cases ends '.' rfl
      · rfl
    rw [pointless]
    simp [nonempty]
  · have pointEnds : ∀ char ∈ (['.'] ++ fraction ++ tail).head?, char.isDigit = false := by
      rintro char ⟨⟩
      rfl
    obtain ⟨taken, dropped⟩ := takeWhile_digits wholeAscii pointEnds
    obtain ⟨takenFraction, droppedFraction⟩ := takeWhile_digits
      (fun char mem => ascii char (List.mem_append_right whole mem)) tailEnds
    have shape : whole ++ ['.'] ++ fraction ++ tail = whole ++ (['.'] ++ fraction ++ tail) := by simp
    have divided : splitFraction (['.'] ++ fraction ++ tail) = (fraction, tail) :=
      Prod.ext takenFraction droppedFraction
    rw [shape]
    simp only [literal?, taken, dropped, divided]
    simp [nonempty]

/-! ## Reading a text -/

/-- No white space, no underscore. -/
def Plain (text : List Char) : Prop := ∀ char ∈ text, floatSpace char = false ∧ char ≠ '_'

/-- Such a text has no blanks to strip. -/
theorem Plain.stripped {text : List Char} (plain : Plain text) :
    (text.dropWhile floatSpace).rdropWhile floatSpace = text := by
  have front : text.dropWhile floatSpace = text := by
    rw [List.dropWhile_eq_self_iff]
    intro nonempty
    rw [(plain _ (List.getElem_mem nonempty)).1]
    exact Bool.false_ne_true
  rw [front, List.rdropWhile_eq_self_iff]
  intro nonempty
  rw [(plain _ (List.getLast_mem nonempty)).1]
  exact Bool.false_ne_true

theorem Plain.floatCore {text : List Char} (plain : Plain (text.map asciiDigit)) :
    floatCore (String.ofList text) = text.map asciiDigit := by
  rw [PyFloat.floatCore, String.toList_ofList, plain.stripped]

theorem Plain.underscoresFit {text : List Char} (plain : Plain text) (afterDigit : Bool) :
    underscoresFit afterDigit text := by
  induction text generalizing afterDigit with
  | nil => rfl
  | cons first rest ih =>
      have plainRest : Plain rest := fun char mem => plain char (List.mem_cons_of_mem _ mem)
      unfold PyFloat.underscoresFit
      split
      · rfl
      · next heq => exact absurd (List.cons.inj heq).1 (plain first List.mem_cons_self).2
      · next heq =>
        obtain ⟨rfl, rfl⟩ := List.cons.inj heq
        exact ih plainRest _

/-- A text without white space and underscores is read as it is. -/
theorem Plain.ofText {text : List Char} (plain : Plain (text.map asciiDigit)) :
    ofText (String.ofList text) =
      ofUnsigned (splitSign (text.map asciiDigit)).1 (splitSign (text.map asciiDigit)).2 := by
  have kept : (text.map asciiDigit).filter (· ≠ '_') = text.map asciiDigit := by
    rw [List.filter_eq_self]
    intro char mem
    exact decide_eq_true (plain char mem).2
  rw [PyFloat.ofText, plain.floatCore, if_pos (plain.underscoresFit false), kept]

/-- A text that starts with a digit is no infinity and no NaN. -/
theorem ofUnsigned_digit {first : Char} {rest : List Char} (digit : first.isDigit)
    (negative : Bool) :
    ofUnsigned negative (first :: rest) =
      (literal? (first :: rest)).map (ofSigned negative) := by
  have lower : first.toLower = first := by
    obtain ⟨small, same⟩ := digitChar_of_isDigit digit
    rw [← same]
    have all : ∀ value : Fin 10, (value : Nat).digitChar.toLower = (value : Nat).digitChar := by
      decide
    exact all ⟨_, small⟩
  have notLetter : ∀ letter : Char, letter.isDigit = false → first.toLower ≠ letter := by
    rintro letter noDigit rfl
    rw [lower, digit] at noDigit
    exact Bool.noConfusion noDigit
  have notInf := notLetter 'i' rfl
  have notNan := notLetter 'n' rfl
  simp [ofUnsigned, notInf, notNan]

theorem splitSign_digit {first : Char} {rest : List Char} (digit : first.isDigit) :
    splitSign (first :: rest) = (false, first :: rest) := by
  unfold splitSign
  split
  · next heq =>
    rw [(List.cons.inj heq).1] at digit
    cases digit
  · next heq =>
    rw [(List.cons.inj heq).1] at digit
    cases digit
  · rfl

theorem isDigit_facts {char : Char} (digit : char.isDigit) : floatSpace char = false ∧ char ≠ '_' := by
  obtain ⟨small, same⟩ := digitChar_of_isDigit digit
  have all : ∀ value : Fin 10, floatSpace (value : Nat).digitChar = false ∧
      (value : Nat).digitChar ≠ '_' := by
    decide
  rw [← same]
  exact all ⟨_, small⟩

/-- An unsigned number: a digit first, then digits, a point and an exponent. -/
def Numeral (text : List Char) : Prop :=
  (∃ char ∈ text.head?, char.isDigit) ∧
    ∀ char ∈ text, char.isDigit ∨ char ∈ ['.', 'e', '+', '-']

theorem Numeral.plain {text : List Char} (numeral : Numeral text) : Plain text := by
  intro char mem
  rcases numeral.2 char mem with digit | mark
  · exact isDigit_facts digit
  · have marks : ∀ mark ∈ ['.', 'e', '+', '-'], floatSpace mark = false ∧ mark ≠ '_' :=
      forall_mem_of_all rfl
    exact marks char mark

theorem Numeral.ascii {text : List Char} (numeral : Numeral text) :
    text.map asciiDigit = text := by
  conv_rhs => rw [← List.map_id text]
  apply List.map_congr_left
  intro char mem
  rcases numeral.2 char mem with digit | mark
  · exact asciiDigit_of_isDigit digit
  · have marks : ∀ mark ∈ ['.', 'e', '+', '-'], asciiDigit mark = mark :=
      forall_mem_of_all rfl
    exact marks char mark

/-- `float` of an unsigned number. -/
theorem ofText_numeral {text : List Char} (numeral : Numeral (text.map asciiDigit)) :
    ofText (String.ofList text) = (literal? (text.map asciiDigit)).map round := by
  rw [numeral.plain.ofText]
  obtain ⟨first, starts, digit⟩ := numeral.1
  obtain ⟨rest, textEq⟩ := List.head?_eq_some_iff.mp starts
  rw [textEq, splitSign_digit digit, ofUnsigned_digit digit]
  rfl

/-- `float` of a negative number. -/
theorem ofText_neg_numeral {text : List Char} (numeral : Numeral text) :
    ofText (String.ofList ('-' :: text)) = (literal? text).map (ofSigned true) := by
  have mapped : ('-' :: text).map asciiDigit = '-' :: text := by
    rw [List.map_cons, numeral.ascii]
    rfl
  have plain : Plain (('-' :: text).map asciiDigit) := by
    rw [mapped]
    intro char mem
    rcases List.mem_cons.mp mem with rfl | inText
    · decide
    · exact numeral.plain char inText
  obtain ⟨first, starts, digit⟩ := numeral.1
  obtain ⟨rest, rfl⟩ := List.head?_eq_some_iff.mp starts
  rw [plain.ofText, mapped]
  exact ofUnsigned_digit digit true

theorem decimalNumber_map {whole fraction : List Char}
    (decimal : ∀ char ∈ whole ++ fraction, isDecimal char) :
    decimalNumber (whole.map asciiDigit) (fraction.map asciiDigit) =
      decimalNumber whole fraction := by
  rw [decimalNumber, ← List.map_append, digitsValue_map decimal, List.length_map, decimalNumber]

/-- `float` of digits, or of digits with a point between them. -/
theorem ofText_decimal {whole point fraction : List Char} (nonempty : whole ≠ [])
    (decimal : ∀ char ∈ whole ++ fraction, isDecimal char)
    (pointed : point = [] ∧ fraction = [] ∨ point = ['.']) :
    ofText (String.ofList (whole ++ point ++ fraction)) =
      some (round (decimalNumber whole fraction)) := by
  have ascii := isDigit_of_mem_map decimal
  rw [List.map_append] at ascii
  have pointSame : point.map asciiDigit = point := by
    rcases pointed with ⟨rfl, -⟩ | rfl <;> rfl
  have mapped : (whole ++ point ++ fraction).map asciiDigit =
      whole.map asciiDigit ++ point ++ fraction.map asciiDigit := by
    rw [List.map_append, List.map_append, pointSame]
  obtain ⟨first, rest, wholeEq⟩ := List.exists_cons_of_ne_nil nonempty
  have numeral : Numeral ((whole ++ point ++ fraction).map asciiDigit) := by
    rw [mapped]
    constructor
    · refine ⟨asciiDigit first, by rw [wholeEq]; rfl, ascii _ ?_⟩
      simp [wholeEq]
    · intro char mem
      rw [List.append_assoc, List.mem_append, List.mem_append] at mem
      rcases mem with inWhole | inPoint | inFraction
      · exact Or.inl (ascii char (List.mem_append_left _ inWhole))
      · rcases pointed with ⟨rfl, -⟩ | rfl
        · cases inPoint
        · exact Or.inr (List.mem_cons.mpr (Or.inl (List.mem_singleton.mp inPoint)))
      · exact Or.inl (ascii char (List.mem_append_right _ inFraction))
  have read := literal?_decimal [] (mt List.map_eq_nil_iff.mp nonempty) ascii
    (pointed.imp (fun empty => ⟨empty.1, by rw [empty.2, List.map_nil]⟩) id) (by rintro char ⟨⟩)
  rw [List.append_nil, decimalNumber_map decimal] at read
  rw [ofText_numeral numeral, mapped, read]
  simp [exponent?]

end Srv6Fabric.PyFloat

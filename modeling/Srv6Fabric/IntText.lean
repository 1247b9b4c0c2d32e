import Srv6Fabric.FloatText

/-!
# Integers as text

`int(text)`, and what it reads of a text of plain digits.
-/

namespace Srv6Fabric

open PyFloat

/-- `int(text)`, where it does not raise: a sign, and digits with single underscores between
them. -/
def intOfText? (text : String) : Option Int :=
  let (negative, unsigned) := splitSign
    ((text.toList.dropWhile floatSpace).rdropWhile floatSpace)
  let groups := unsigned.splitOn '_'
  if groups.all fun group => group ≠ [] && group.all isDecimal then
    match pyInt (String.ofList groups.flatten) with
    | .ok value => some (if negative then -value else value)
    | .error _ => none
  else none

theorem decimalValue?_digitChar (value : Fin 10) :
    decimalValue? (value : Nat).digitChar = some (value : Nat) := by
  revert value
  decide

theorem decimalValue?_of_isDigit {char : Char} (digit : char.isDigit) :
    decimalValue? char = some (char.toNat - 48) := by
  obtain ⟨small, same⟩ := digitChar_of_isDigit digit
  conv_lhs => rw [← same]
  exact decimalValue?_digitChar ⟨_, small⟩

theorem foldDigits {digits : List Char} (ascii : ∀ char ∈ digits, char.isDigit) (start : Nat) :
    (digits.map decimalValue?).foldl (fun total digit => do return 10 * (← total) + (← digit))
      (some start) = some (Nat.ofDigitChars 10 digits start) := by
  induction digits generalizing start with
  | nil => simp
  | cons first rest ih =>
      obtain ⟨firstAscii, restAscii⟩ := List.forall_mem_cons.mp ascii
      rw [List.map_cons, List.foldl_cons, decimalValue?_of_isDigit firstAscii,
        Nat.ofDigitChars_cons]
      exact ih restAscii _

theorem isDecimal_of_isDigit {char : Char} (digit : char.isDigit) : isDecimal char := by
  rw [isDecimal, decimalValue?_of_isDigit digit]
  rfl

/-- `int` of plain digits. -/
theorem pyInt_digits {digits : List Char} (ascii : ∀ char ∈ digits, char.isDigit)
    (short : digits.length ≤ maxStrDigits) :
    pyInt (String.ofList digits) = .ok (Nat.ofDigitChars 10 digits 0) := by
  unfold pyInt
  dsimp only
  rw [String.toList_ofList, foldDigits ascii, if_neg]
  rw [not_lt]
  refine ((List.takeWhile_sublist _).length_le).trans ?_
  rwa [List.length_map]

/-- `int(str(n))`. -/
theorem pyInt_toDigits {n : Nat} (short : (Nat.toDigits 10 n).length ≤ maxStrDigits) :
    pyInt (String.ofList (Nat.toDigits 10 n)) = .ok n := by
  have ascii : ∀ char ∈ Nat.toDigits 10 n, char.isDigit := fun char mem =>
    Nat.isDigit_of_mem_toDigits (by decide) (by decide) mem
  rw [pyInt_digits ascii short, Nat.ofDigitChars_ten_toDigits]

theorem intOfText?_digits {digits : List Char} (nonempty : digits ≠ [])
    (ascii : ∀ char ∈ digits, char.isDigit) (short : digits.length ≤ maxStrDigits) :
    intOfText? (String.ofList digits) = some (Nat.ofDigitChars 10 digits 0 : Nat) := by
  have plain : Plain digits := fun char mem => isDigit_facts (ascii char mem)
  have unsigned : splitSign digits = (false, digits) := by
    obtain ⟨first, rest, rfl⟩ := List.exists_cons_of_ne_nil nonempty
    exact splitSign_digit (ascii first List.mem_cons_self)
  have noUnderscore : '_' ∉ digits := fun mem => (plain '_' mem).2 rfl
  have decimal : digits.all isDecimal := by
    rw [List.all_eq_true]
    exact fun char mem => isDecimal_of_isDigit (ascii char mem)
  unfold intOfText?
  rw [String.toList_ofList, plain.stripped, unsigned]
  dsimp only
  rw [List.splitOn_eq_singleton noUnderscore, if_pos (by simpa [nonempty] using decimal),
    List.flatten_singleton, pyInt_digits ascii short]
  rfl

end Srv6Fabric

import Srv6Fabric.FloatText

/-!
# Writing a float

`str(x)` writes a float with the fewest digits that round back to it, in the exponent
notation below `1e-4` and from `1e16` on; `float` reads the same float back.
-/

namespace Srv6Fabric.PyFloat

open Srv6Fabric.Library

/-! ## `str(x)` -/

/-- The two decimals in a unit of the last place around a positive number, the nearest
first. -/
def decimalsNear (value unit : ℚ) : List Nat :=
  [(roundHalfEven (value / unit)).toNat, ⌊value / unit⌋.toNat, ⌊value / unit⌋.toNat + 1]

/-- The exponent of the last of so many significant digits. -/
def lastPlace (value : ℚ) (digits : Nat) : Int := Int.log 10 value + 1 - digits

/-- The number `mantissa * 10 ^ exponent`. -/
def scientific (decimal : Nat × Int) : ℚ := decimal.1 * (10 : ℚ) ^ decimal.2

/-- A decimal of so many digits that rounds back to a positive float. -/
def roundTrips (value : ℚ) (digits : Nat) : Option (Nat × Int) :=
  let exponent := lastPlace value digits
  ((decimalsNear value (10 ^ exponent)).map fun mantissa => (mantissa, exponent)).find?
    fun decimal => round64 (scientific decimal) = value

/-- A number with so many decimal places. -/
def inPlaces (value : ℚ) (places : Nat) : Nat × Int := ((value * 10 ^ places).num.toNat, -places)

/-- A positive float as `mantissa * 10 ^ exponent`, with the fewest digits that round back
to it.  Seventeen digits are enough, so the exact value that ends the search is not
reached. -/
def shortest (value : ℚ) : Nat × Int :=
  ((List.range 17).findSome? fun fewer => roundTrips value (fewer + 1)).getD (inPlaces value 1074)

/-- An exponent with its sign and at least two digits. -/
def exponentText (exponent : Int) : List Char :=
  (if exponent < 0 then '-' else '+') :: (Nat.toDigits 10 exponent.natAbs).leftpad 2 '0'

/-- Significant digits with the decimal point after the first `point` of them, in the
exponent notation below `1e-4` and from `1e16` on. -/
def decimalText (digits : List Char) (point : Int) : List Char :=
  if -4 < point ∧ point ≤ 16 then
    if point ≤ 0 then ['0', '.'] ++ List.replicate point.natAbs '0' ++ digits
    else if digits.length ≤ point then
      digits ++ List.replicate (point.toNat - digits.length) '0' ++ ['.', '0']
    else digits.take point.toNat ++ ['.'] ++ digits.drop point.toNat
  else
    digits.take 1 ++ (if digits.length = 1 then [] else ['.'] ++ digits.drop 1) ++ ['e'] ++
      exponentText (point - 1)

/-- The text of a positive float. -/
def magnitudeText (value : ℚ) : List Char :=
  let (mantissa, exponent) := shortest value
  let digits := Nat.toDigits 10 mantissa
  decimalText (digits.rdropWhile (· = '0')) (digits.length + exponent)

/-- `str(x)` and `repr(x)`. -/
def str : PyFloat → String
  | .finite value _ =>
      if value = 0 then "0.0"
      else if value < 0 then String.ofList ('-' :: magnitudeText (-value))
      else String.ofList (magnitudeText value)
  | .negZero => "-0.0"
  | .inf negative => if negative then "-inf" else "inf"
  | .nan => "nan"

example : (round (1 / 10)).str = "0.1" := by decide +kernel

example : (round (1 / 20000)).str = "5e-05" := by decide +kernel

/-! ## The shortest decimal -/

theorem mem_decimalsNear {value unit : ℚ} (nonneg : 0 ≤ value / unit) {mantissa : Nat}
    (mem : mantissa ∈ decimalsNear value unit) :
    ⌊value / unit⌋ ≤ mantissa ∧ mantissa ≤ ⌊value / unit⌋ + 1 := by
  have whole : 0 ≤ ⌊value / unit⌋ := Int.floor_nonneg.mpr nonneg
  have low := floor_le_roundHalfEven (value / unit)
  have high := roundHalfEven_le_floor_add_one (value / unit)
  unfold decimalsNear at mem
  simp only [List.mem_cons, List.not_mem_nil, or_false] at mem
  omega

/-- A decimal close to a number: not below its leading power of ten, and not past the next
one. -/
def Close (value decimal : ℚ) : Prop :=
  (10 : ℚ) ^ Int.log 10 value ≤ decimal ∧ decimal ≤ 10 ^ (Int.log 10 value + 1)

theorem close_self {value : ℚ} (positive : 0 < value) : Close value value := by
  constructor
  · exact_mod_cast Int.zpow_log_le_self (b := 10) (by norm_num) positive
  · exact_mod_cast (Int.lt_zpow_succ_log_self (b := 10) (by norm_num) value).le

theorem close_of_mem {value : ℚ} (positive : 0 < value) {digits : Nat} (some_ : 0 < digits)
    {mantissa : Nat} (mem : mantissa ∈ decimalsNear value (10 ^ lastPlace value digits)) :
    Close value (scientific (mantissa, lastPlace value digits)) := by
  obtain ⟨fewer, rfl⟩ := Nat.exists_eq_add_of_lt some_
  rw [zero_add] at mem ⊢
  have unitPositive : (0 : ℚ) < 10 ^ lastPlace value (fewer + 1) := by positivity
  have lowPower : (10 : ℚ) ^ Int.log 10 value = 10 ^ fewer * 10 ^ lastPlace value (fewer + 1) := by
    rw [← zpow_natCast, ← zpow_add₀ (by norm_num)]
    congr 1
    unfold lastPlace
    push_cast
    ring
  have highPower : (10 : ℚ) ^ (Int.log 10 value + 1) =
      10 ^ (fewer + 1) * 10 ^ lastPlace value (fewer + 1) := by
    rw [zpow_add_one₀ (by norm_num), lowPower]
    ring
  have atLeast : (10 : ℚ) ^ Int.log 10 value ≤ value := by
    exact_mod_cast Int.zpow_log_le_self (b := 10) (by norm_num) positive
  have below : value < (10 : ℚ) ^ (Int.log 10 value + 1) := by
    exact_mod_cast Int.lt_zpow_succ_log_self (b := 10) (by norm_num) value
  rw [lowPower] at atLeast
  rw [highPower] at below
  obtain ⟨floor_le, le_next⟩ := mem_decimalsNear (by positivity) mem
  have low : ((10 ^ fewer : Int) : ℚ) ≤ value / 10 ^ lastPlace value (fewer + 1) := by
    rw [le_div_iff₀ unitPositive]
    exact_mod_cast atLeast
  have high : value / 10 ^ lastPlace value (fewer + 1) < ((10 ^ (fewer + 1) : Int) : ℚ) := by
    rw [div_lt_iff₀ unitPositive]
    exact_mod_cast below
  have lowFloor := Int.le_floor.mpr low
  have highFloor := Int.floor_lt.mpr high
  have lowMantissa : 10 ^ fewer ≤ mantissa := by exact_mod_cast lowFloor.trans floor_le
  have highMantissa : mantissa ≤ 10 ^ (fewer + 1) := by
    have : (mantissa : Int) ≤ 10 ^ (fewer + 1) := by omega
    exact_mod_cast this
  rw [Close, lowPower, highPower]
  constructor
  · exact mul_le_mul_of_nonneg_right (by exact_mod_cast lowMantissa) unitPositive.le
  · exact mul_le_mul_of_nonneg_right (by exact_mod_cast highMantissa) unitPositive.le

/-- A multiple of a power of two with as many decimal places. -/
theorem scientific_inPlaces {value : ℚ} (nonneg : 0 ≤ value) {steps : Int} {places : Nat}
    (multiple : value = steps * 2 ^ (-(places : Int))) :
    scientific (inPlaces value places) = value := by
  have whole : value * 10 ^ places = ((steps * 5 ^ places : Int) : ℚ) := by
    rw [multiple, zpow_neg, zpow_natCast, show (10 : ℚ) = 2 * 5 by norm_num, mul_pow]
    field_simp
    push_cast
    ring
  have nonnegWhole : 0 ≤ steps * 5 ^ places := by
    have : (0 : ℚ) ≤ ((steps * 5 ^ places : Int) : ℚ) := by
      rw [← whole]
      positivity
    exact_mod_cast this
  have cast : ((value * 10 ^ places).num.toNat : ℚ) = value * 10 ^ places := by
    rw [whole, Rat.num_intCast]
    exact_mod_cast Int.toNat_of_nonneg nonnegWhole
  rw [scientific, inPlaces, cast, zpow_neg, zpow_natCast, mul_assoc,
    mul_inv_cancel₀ (by positivity), mul_one]

theorem shortest_spec {value : ℚ} (represented : IsBinary64 value) (positive : 0 < value) :
    round64 (scientific (shortest value)) = value ∧ Close value (scientific (shortest value)) := by
  unfold shortest
  cases search : (List.range 17).findSome? fun fewer => roundTrips value (fewer + 1) with
  | some found =>
      obtain ⟨fewer, -, near⟩ := List.exists_of_findSome?_eq_some search
      have back := List.find?_some near
      obtain ⟨mantissa, mem, rfl⟩ := List.mem_map.mp (List.mem_of_find?_eq_some near)
      exact ⟨of_decide_eq_true back, close_of_mem positive fewer.succ_pos mem⟩
  | none =>
      obtain ⟨steps, multiple⟩ : ∃ steps : Int, round64 value = steps * 2 ^ (-(1074 : Nat) : Int) :=
        nearest_multiple value
      rw [represented.1] at multiple
      rw [Option.getD_none, scientific_inPlaces positive.le multiple]
      exact ⟨represented.1, close_self positive⟩

/-! ## Its digits -/

/-- A positive mantissa without its trailing zeros. -/
theorem significant {mantissa : Nat} (positive : 0 < mantissa) {digits : List Char}
    (stripped : digits = (Nat.toDigits 10 mantissa).rdropWhile (· = '0')) :
    digits ≠ [] ∧ (∀ char ∈ digits, char.isDigit) ∧
      digits.length ≤ (Nat.toDigits 10 mantissa).length ∧
      mantissa = digitsValue digits * 10 ^ ((Nat.toDigits 10 mantissa).length - digits.length) := by
  obtain ⟨zeros, whole⟩ : ∃ zeros, Nat.toDigits 10 mantissa = digits ++ List.replicate zeros '0' := by
    refine ⟨((Nat.toDigits 10 mantissa).rtakeWhile (· = '0')).length, ?_⟩
    have parts := (Nat.toDigits 10 mantissa).rdropWhile_append_rtakeWhile (p := (· = '0'))
    rw [← stripped] at parts
    have zero : ∀ char ∈ (Nat.toDigits 10 mantissa).rtakeWhile (· = '0'), char = '0' := by
      intro char mem
      simpa using List.mem_rtakeWhile_imp mem
    rw [← List.eq_replicate_of_mem zero]
    exact parts.symm
  have value := congrArg digitsValue whole
  rw [digitsValue_toDigits, digitsValue_append, digitsValue_zeros, List.length_replicate,
    add_zero] at value
  have length := congrArg List.length whole
  rw [List.length_append, List.length_replicate] at length
  refine ⟨?_, fun char mem => ?_, by omega, ?_⟩
  · rintro rfl
    rw [value] at positive
    simp [digitsValue] at positive
  · apply Nat.isDigit_of_mem_toDigits (b := 10) (by decide) (by decide)
    rw [whole]
    exact List.mem_append_left _ mem
  · rwa [length, Nat.add_sub_cancel_left]

/-! ## Reading it back -/

theorem isDigit_zeros (count : Nat) : ∀ char ∈ List.replicate count '0', char.isDigit := by
  intro char mem
  rw [List.eq_of_mem_replicate mem]
  rfl

/-- A number in decimal, padded with zeros. -/
theorem leftpad_digits (width n : Nat) {digits : List Char}
    (padded : digits = (Nat.toDigits 10 n).leftpad width '0') :
    digits ≠ [] ∧ (∀ char ∈ digits, char.isDigit) ∧ digitsValue digits = n := by
  rw [List.leftpad] at padded
  subst padded
  refine ⟨by simp, ?_, ?_⟩
  · intro char mem
    rcases List.mem_append.mp mem with zero | digit
    · exact isDigit_zeros _ char zero
    · exact Nat.isDigit_of_mem_toDigits (by decide) (by decide) digit
  · rw [digitsValue_append, digitsValue_zeros, digitsValue_toDigits, zero_mul, zero_add]

theorem exponent?_text (exponent : Int) :
    exponent? ('e' :: exponentText exponent) = some exponent := by
  unfold exponentText
  generalize padded : (Nat.toDigits 10 exponent.natAbs).leftpad 2 '0' = digits
  obtain ⟨nonempty, ascii, value⟩ := leftpad_digits 2 exponent.natAbs padded.symm
  have all : digits.all Char.isDigit := List.all_eq_true.mpr ascii
  split_ifs with negative
  · simp [exponent?, splitSign, value, nonempty, all, abs_of_neg negative]
  · simp [exponent?, splitSign, value, nonempty, all, abs_of_nonneg (not_lt.mp negative)]

section Read

variable {digits : List Char} (nonempty : digits ≠ []) (ascii : ∀ char ∈ digits, char.isDigit)
include nonempty ascii

/-- Without an exponent the text is a number with a decimal point. -/
theorem decimalText_positional {point : Int} (middle : -4 < point ∧ point ≤ 16) :
    ∃ whole fraction, decimalText digits point = whole ++ ['.'] ++ fraction ∧ whole ≠ [] ∧
      fraction ≠ [] ∧ (∀ char ∈ whole ++ fraction, char.isDigit) ∧
      decimalNumber whole fraction =
        digitsValue digits * (10 : ℚ) ^ (point - digits.length) := by
  rw [decimalText, if_pos middle]
  split_ifs with small large
  · refine ⟨['0'], List.replicate point.natAbs '0' ++ digits, rfl, by simp, by simp [nonempty],
      ?_, ?_⟩
    · intro char mem
      rw [← List.append_assoc, List.mem_append] at mem
      rcases mem with zero | digit
      · exact isDigit_zeros (point.natAbs + 1) char (by rwa [List.replicate_succ])
      · exact ascii char digit
    · rw [decimalNumber, ← List.append_assoc]
      have zeros : ['0'] ++ List.replicate point.natAbs '0' = List.replicate (point.natAbs + 1) '0' :=
        rfl
      rw [zeros, digitsValue_append, digitsValue_zeros, zero_mul, zero_add, List.length_append,
        List.length_replicate, div_eq_mul_inv, ← zpow_natCast, ← zpow_neg]
      congr 2
      omega
  · refine ⟨digits ++ List.replicate (point.toNat - digits.length) '0', ['0'], ?_, ?_, by simp,
      ?_, ?_⟩
    · simp
    · simp [nonempty]
    · intro char mem
      rw [List.append_assoc, List.mem_append, List.mem_append] at mem
      rcases mem with digit | zero | last
      · exact ascii char digit
      · exact isDigit_zeros _ char zero
      · exact isDigit_zeros 1 char last
    · have zeros : List.replicate (point.toNat - digits.length) '0' ++ ['0'] =
          List.replicate (point.toNat - digits.length + 1) '0' := List.replicate_succ'.symm
      rw [decimalNumber, List.append_assoc, zeros, digitsValue_append, digitsValue_zeros, add_zero,
        List.length_replicate, List.length_singleton, pow_one, pow_succ]
      push_cast
      rw [← mul_assoc, mul_div_cancel_right₀ _ (by norm_num), ← zpow_natCast]
      congr 2
      omega
  · refine ⟨digits.take point.toNat, digits.drop point.toNat, rfl, ?_, ?_, ?_, ?_⟩
    · rw [ne_eq, List.take_eq_nil_iff, not_or]
      exact ⟨by omega, nonempty⟩
    · rw [ne_eq, List.drop_eq_nil_iff]
      omega
    · rwa [List.take_append_drop]
    · rw [decimalNumber, List.take_append_drop, List.length_drop, div_eq_mul_inv, ← zpow_natCast,
        ← zpow_neg]
      congr 2
      omega

/-- With an exponent the text has an `e`. -/
theorem decimalText_exponent {point : Int} (outside : ¬ (-4 < point ∧ point ≤ 16)) :
    ∃ first rest separator, decimalText digits point =
        [first] ++ separator ++ rest ++ ('e' :: exponentText (point - 1)) ∧
      (∀ char ∈ [first] ++ rest, char.isDigit) ∧
      (separator = [] ∧ rest = [] ∨ separator = ['.'] ∧ rest ≠ []) ∧
      decimalNumber [first] rest * (10 : ℚ) ^ (point - 1) =
        digitsValue digits * (10 : ℚ) ^ (point - digits.length) := by
  obtain ⟨first, rest, rfl⟩ := List.exists_cons_of_ne_nil nonempty
  refine ⟨first, rest, if rest = [] then [] else ['.'], ?_, ascii, ?_, ?_⟩
  · rw [decimalText, if_neg outside]
    cases rest <;> simp
  · split_ifs with empty
    · exact Or.inl ⟨rfl, empty⟩
    · exact Or.inr ⟨rfl, empty⟩
  · rw [decimalNumber, List.singleton_append, div_mul_eq_mul_div, mul_div_assoc, ← zpow_natCast,
      ← zpow_sub₀ (by norm_num)]
    congr 2
    push_cast [List.length_cons]
    ring

theorem numeral_decimalText (point : Int) : Numeral (decimalText digits point) := by
  by_cases middle : -4 < point ∧ point ≤ 16
  · obtain ⟨whole, fraction, textEq, wholeNonempty, -, all, -⟩ :=
      decimalText_positional nonempty ascii middle
    obtain ⟨first, rest, rfl⟩ := List.exists_cons_of_ne_nil wholeNonempty
    rw [textEq]
    refine ⟨⟨first, rfl, all first List.mem_cons_self⟩, fun char mem => ?_⟩
    rw [List.append_assoc, List.mem_append, List.mem_append] at mem
    rcases mem with inWhole | inPoint | inFraction
    · exact Or.inl (all char (List.mem_append_left _ inWhole))
    · exact Or.inr (List.mem_cons.mpr (Or.inl (List.mem_singleton.mp inPoint)))
    · exact Or.inl (all char (List.mem_append_right _ inFraction))
  · obtain ⟨first, rest, separator, textEq, all, separated, -⟩ :=
      decimalText_exponent nonempty ascii middle
    rw [textEq]
    refine ⟨⟨first, rfl, all first List.mem_cons_self⟩, fun char mem => ?_⟩
    rw [List.append_assoc, List.append_assoc, List.mem_append, List.mem_append,
      List.mem_append] at mem
    rcases mem with inFirst | inSeparator | inRest | inExponent
    · exact Or.inl (all char (List.mem_append_left _ inFirst))
    · rcases separated with ⟨rfl, -⟩ | ⟨rfl, -⟩
      · cases inSeparator
      · exact Or.inr (List.mem_cons.mpr (Or.inl (List.mem_singleton.mp inSeparator)))
    · exact Or.inl (all char (List.mem_append_right _ inRest))
    · rcases List.mem_cons.mp inExponent with rfl | inText
      · exact Or.inr (by simp)
      · rcases List.mem_cons.mp inText with rfl | inDigits
        · exact Or.inr (by split_ifs <;> simp)
        · exact Or.inl ((leftpad_digits 2 _ rfl).2.1 char inDigits)

/-- Either notation denotes the digits shifted to the decimal point. -/
theorem literal?_decimalText (point : Int) :
    literal? (decimalText digits point) =
      some (digitsValue digits * (10 : ℚ) ^ (point - digits.length)) := by
  by_cases middle : -4 < point ∧ point ≤ 16
  · obtain ⟨whole, fraction, textEq, wholeNonempty, -, all, value⟩ :=
      decimalText_positional nonempty ascii middle
    have read := literal?_decimal [] wholeNonempty all (Or.inr rfl) (by rintro char ⟨⟩)
    rw [textEq, ← value, ← List.append_nil (_ ++ fraction), read]
    simp [exponent?]
  · obtain ⟨first, rest, separator, textEq, all, separated, value⟩ :=
      decimalText_exponent nonempty ascii middle
    have ends : Ends ('e' :: exponentText (point - 1)) := by
      rintro char ⟨⟩
      rfl
    rw [textEq, ← value, literal?_decimal _ (by simp) all (separated.imp_right And.left) ends, exponent?_text]
    rfl

end Read

/-! ## Both ways -/

theorem scientific_pos {value : ℚ} (represented : IsBinary64 value) (positive : 0 < value) :
    0 < (shortest value).1 := by
  have low := (shortest_spec represented positive).2.1
  rw [Nat.pos_iff_ne_zero]
  intro zero
  rw [scientific, zero, Nat.cast_zero, zero_mul] at low
  exact (zpow_pos (by norm_num) _).not_ge low

theorem toDigits_bounds {n : Nat} (positive : 0 < n) :
    10 ^ ((Nat.toDigits 10 n).length - 1) ≤ n ∧ n < 10 ^ (Nat.toDigits 10 n).length := by
  have some_ : 0 < (Nat.toDigits 10 n).length := Nat.length_toDigits_pos
  refine ⟨?_, (Nat.length_toDigits_le_iff (by decide) some_).mp le_rfl⟩
  by_cases single : (Nat.toDigits 10 n).length = 1
  · rw [single]
    exact positive
  · rw [← not_lt, ← Nat.length_toDigits_le_iff (by decide) (by omega)]
    omega

/-- The digits of a float's text and the place of the point. -/
theorem magnitudeText_eq {value : ℚ} (represented : IsBinary64 value) (positive : 0 < value) :
    ∃ digits point, magnitudeText value = decimalText digits point ∧ digits ≠ [] ∧
      (∀ char ∈ digits, char.isDigit) ∧
      digitsValue digits * (10 : ℚ) ^ (point - digits.length) = scientific (shortest value) ∧
      (10 : ℚ) ^ (point - 1) ≤ scientific (shortest value) ∧
      scientific (shortest value) < 10 ^ point := by
  have mantissaPositive := scientific_pos represented positive
  unfold magnitudeText
  generalize shortest value = decimal at mantissaPositive ⊢
  obtain ⟨mantissa, exponent⟩ := decimal
  dsimp only at mantissaPositive ⊢
  obtain ⟨low, high⟩ := toDigits_bounds mantissaPositive
  have some_ : 0 < (Nat.toDigits 10 mantissa).length := Nat.length_toDigits_pos
  generalize stripped : (Nat.toDigits 10 mantissa).rdropWhile (· = '0') = digits
  obtain ⟨nonempty, ascii, shorter, mantissaEq⟩ := significant mantissaPositive stripped.symm
  generalize (Nat.toDigits 10 mantissa).length = length at *
  have ten : (0 : ℚ) < 10 ^ exponent := zpow_pos (by norm_num) _
  refine ⟨digits, length + exponent, rfl, nonempty, ascii, ?_, ?_, ?_⟩
  · rw [scientific, mantissaEq]
    push_cast
    rw [mul_assoc, ← zpow_natCast, ← zpow_add₀ (by norm_num)]
    congr 2
    omega
  · rw [scientific, show (length : Int) + exponent - 1 = ((length - 1 : Nat) : Int) + exponent by omega,
      zpow_add₀ (by norm_num), zpow_natCast]
    exact mul_le_mul_of_nonneg_right (by exact_mod_cast low) ten.le
  · rw [scientific, zpow_add₀ (by norm_num), zpow_natCast]
    exact mul_lt_mul_of_pos_right (by exact_mod_cast high) ten

/-- The exponent notation is left to the numbers below `1e-4` and from `1e16` on. -/
theorem middle_iff {value : ℚ} (represented : IsBinary64 value) (positive : 0 < value)
    {point : Int} (low : (10 : ℚ) ^ (point - 1) ≤ scientific (shortest value))
    (high : scientific (shortest value) < 10 ^ point) :
    -4 < point ∧ point ≤ 16 ↔ (10 : ℚ) ^ (-4 : Int) ≤ value ∧ value < 10 ^ (16 : Int) := by
  obtain ⟨back, closeLow, closeHigh⟩ := shortest_spec represented positive
  have atLeast : (10 : ℚ) ^ Int.log 10 value ≤ value := (close_self positive).1
  have below : value < (10 : ℚ) ^ (Int.log 10 value + 1) := by
    exact_mod_cast Int.lt_zpow_succ_log_self (b := 10) (by norm_num) value
  generalize scientific (shortest value) = decimal at *
  have compare {m n : Int} : (10 : ℚ) ^ m < 10 ^ n ↔ m < n := zpow_lt_zpow_iff_right₀ (by norm_num)
  have compareLe {m n : Int} : (10 : ℚ) ^ m ≤ 10 ^ n ↔ m ≤ n :=
    zpow_le_zpow_iff_right₀ (by norm_num)
  constructor
  · rintro ⟨above, under⟩
    constructor
    · by_contra small
      rw [not_le] at small
      have logSmall : Int.log 10 value < -4 := compare.mp (atLeast.trans_lt small)
      have decimalLow : (10 : ℚ) ^ (-4 : Int) ≤ decimal := (compareLe.mpr (by omega)).trans low
      have decimalHigh : decimal ≤ (10 : ℚ) ^ (-4 : Int) :=
        closeHigh.trans (compareLe.mpr (by omega))
      rw [le_antisymm decimalHigh decimalLow] at back
      have up : (10 : ℚ) ^ (-4 : Int) ≤ round64 (10 ^ (-4 : Int)) := by decide +kernel
      rw [back] at up
      exact up.not_gt small
    · by_contra large
      rw [not_lt] at large
      have logLarge : 16 < Int.log 10 value + 1 := compare.mp (large.trans_lt below)
      have decimalLow : (10 : ℚ) ^ (16 : Int) ≤ decimal :=
        (compareLe.mpr (by omega)).trans closeLow
      have pointLarge := compare.mp (decimalLow.trans_lt high)
      omega
  · rintro ⟨above, under⟩
    constructor
    · have logLarge : -4 < Int.log 10 value + 1 := compare.mp (above.trans_lt below)
      exact compare.mp (((compareLe.mpr (by omega)).trans closeLow).trans_lt high)
    · by_contra large
      have logSmall : Int.log 10 value < 16 := compare.mp (atLeast.trans_lt under)
      have decimalHigh : decimal ≤ (10 : ℚ) ^ (16 : Int) :=
        closeHigh.trans (compareLe.mpr (by omega))
      have decimalLow : (10 : ℚ) ^ (16 : Int) ≤ decimal := (compareLe.mpr (by omega)).trans low
      rw [le_antisymm decimalHigh decimalLow] at back
      have same : round64 (10 ^ (16 : Int)) = 10 ^ (16 : Int) := by decide +kernel
      exact under.ne (back.symm.trans same)

theorem literal?_magnitudeText {value : ℚ} (represented : IsBinary64 value)
    (positive : 0 < value) :
    Numeral (magnitudeText value) ∧
      literal? (magnitudeText value) = some (scientific (shortest value)) := by
  obtain ⟨digits, point, textEq, nonempty, ascii, denotes, -⟩ :=
    magnitudeText_eq represented positive
  rw [textEq, ← denotes]
  exact ⟨numeral_decimalText nonempty ascii point, literal?_decimalText nonempty ascii point⟩

theorem ofText_magnitudeText {value : ℚ} (represented : IsBinary64 value) (positive : 0 < value) :
    ofText (String.ofList (magnitudeText value)) = some (.finite value represented) := by
  obtain ⟨numeral, denotes⟩ := literal?_magnitudeText represented positive
  rw [ofText_numeral (by rwa [numeral.ascii]), numeral.ascii, denotes, Option.map_some,
    round_eq represented (shortest_spec represented positive).1 positive.ne']

theorem ofText_neg_magnitudeText {value : ℚ} (represented : IsBinary64 value)
    (negative : value < 0) :
    ofText (String.ofList ('-' :: magnitudeText (-value))) = some (.finite value represented) := by
  have positive : 0 < -value := neg_pos.mpr negative
  obtain ⟨numeral, denotes⟩ := literal?_magnitudeText represented.neg positive
  obtain ⟨back, close⟩ := shortest_spec represented.neg positive
  have nonzero : scientific (shortest (-value)) ≠ 0 :=
    ((zpow_pos (by norm_num) _).trans_le close.1).ne'
  have backNeg : round64 (-scientific (shortest (-value))) = value := by
    rw [round64_neg, back, neg_neg]
  rw [ofText_neg_numeral numeral, denotes, Option.map_some, ofSigned, if_pos rfl, if_neg nonzero,
    round_eq represented backNeg negative.ne]

/-- `float(str(x))` is the float `x`. -/
theorem ofText_str (x : PyFloat) : ofText x.str = some x := by
  cases x with
  | finite value represented =>
      rcases lt_trichotomy value 0 with negative | rfl | positive
      · rw [str, if_neg negative.ne, if_pos negative, ofText_neg_magnitudeText _ negative]
      · rw [str, if_pos rfl]
        change ofText "0.0" = some zero
        decide +kernel
      · rw [str, if_neg positive.ne', if_neg positive.asymm, ofText_magnitudeText _ positive]
  | negZero => decide +kernel
  | inf negative =>
      revert negative
      decide
  | nan => decide

end Srv6Fabric.PyFloat

import Mathlib.Data.List.Basic
import Mathlib.Data.List.TakeWhile
import Srv6Fabric.PyError

/-!
# Text operations

The `str` methods, character classes and conversions the parsers rely on, over
Unicode text.  `\s` and `\d` of a text pattern are `isSpace` and `isDecimal`.
-/

namespace Srv6Fabric

/-! ## Character classes -/

/-- `str.isspace` of one character. -/
def isSpace (char : Char) : Bool :=
  let code := char.toNat
  (9 ≤ code && code ≤ 13) || (28 ≤ code && code ≤ 32) || code = 0x85 || code = 0xa0 ||
    code = 0x1680 || (0x2000 ≤ code && code ≤ 0x200a) || code = 0x2028 || code = 0x2029 ||
    code = 0x202f || code = 0x205f || code = 0x3000

/-- The zero of every run of ten decimal digits (category Nd). -/
def decimalZeros : List Nat :=
  [0x30, 0x660, 0x6f0, 0x7c0, 0x966, 0x9e6, 0xa66, 0xae6, 0xb66, 0xbe6, 0xc66, 0xce6, 0xd66,
    0xde6, 0xe50, 0xed0, 0xf20, 0x1040, 0x1090, 0x17e0, 0x1810, 0x1946, 0x19d0, 0x1a80, 0x1a90,
    0x1b50, 0x1bb0, 0x1c40, 0x1c50, 0xa620, 0xa8d0, 0xa900, 0xa9d0, 0xa9f0, 0xaa50, 0xabf0,
    0xff10, 0x104a0, 0x10d30, 0x11066, 0x110f0, 0x11136, 0x111d0, 0x112f0, 0x11450, 0x114d0,
    0x11650, 0x116c0, 0x11730, 0x118e0, 0x11950, 0x11c50, 0x11d50, 0x11da0, 0x16a60, 0x16ac0,
    0x16b50, 0x1d7ce, 0x1d7d8, 0x1d7e2, 0x1d7ec, 0x1d7f6, 0x1e140, 0x1e2f0, 0x1e950, 0x1fbf0]

/-- First and last code point of the digits that are not decimal: superscripts,
circled digits and the like. -/
def otherDigits : List (Nat × Nat) :=
  [(0xb2, 0xb3), (0xb9, 0xb9), (0x1369, 0x1371), (0x19da, 0x19da), (0x2070, 0x2070),
    (0x2074, 0x2079), (0x2080, 0x2089), (0x2460, 0x2468), (0x2474, 0x247c), (0x2488, 0x2490),
    (0x24ea, 0x24ea), (0x24f5, 0x24fd), (0x24ff, 0x24ff), (0x2776, 0x277e), (0x2780, 0x2788),
    (0x278a, 0x2792), (0x10a40, 0x10a43), (0x10e60, 0x10e68), (0x11052, 0x1105a),
    (0x1f100, 0x1f10a)]

/-- The value of a decimal digit of any script. -/
def decimalValue? (char : Char) : Option Nat :=
  (decimalZeros.find? fun first => first ≤ char.toNat && char.toNat < first + 10).map
    (char.toNat - ·)

def isDecimal (char : Char) : Bool := (decimalValue? char).isSome

/-- `str.isdigit` of one character. -/
def isDigit (char : Char) : Bool :=
  isDecimal char ||
    otherDigits.any fun range => range.1 ≤ char.toNat && char.toNat ≤ range.2

/-! ## Methods -/

/-- What holds of a list's characters is checked on the list, not on all characters. -/
theorem forall_mem_of_all {holds : Char → Prop} [DecidablePred holds] {chars : List Char}
    (checked : chars.all fun char => holds char) : ∀ char ∈ chars, holds char := fun char mem =>
  of_decide_eq_true (List.all_eq_true.mp checked char mem)

/-- `text.strip()`. -/
def strip (text : String) : String :=
  String.ofList ((text.toList.dropWhile isSpace).reverse.dropWhile isSpace).reverse

/-- `text.split()`. -/
def split (text : String) : List String :=
  ((text.toList.splitOnP isSpace).filter (· ≠ [])).map String.ofList

/-- `text.isdigit()`. -/
def allDigits (text : String) : Bool := text ≠ "" && text.toList.all isDigit

/-- The longest decimal text `int` converts. -/
def maxStrDigits : Nat := 4300

/-- `int(text)` on a text without sign, blank or underscore. -/
def pyInt (text : String) : Except PyError Nat :=
  let digits := text.toList.map decimalValue?
  let leading := (digits.takeWhile Option.isSome).length
  if maxStrDigits < leading then
    .error (.valueError (s!"Exceeds the limit ({maxStrDigits} digits) for integer string "
      ++ s!"conversion: value has {leading} digits; use sys.set_int_max_str_digits() to increase "
      ++ "the limit"))
  else
    match digits.foldl (fun total digit => do return 10 * (← total) + (← digit)) (some 0) with
    | some value => .ok value
    | none => .error (.valueError s!"invalid literal for int() with base 10: {pyRepr text}")

/-- The accumulator of `pyInt`. -/
theorem foldDigits_none (digits : List (Option Nat)) :
    digits.foldl (fun total digit => do return 10 * (← total) + (← digit)) (none : Option Nat) =
      none := by
  induction digits with
  | nil => rfl
  | cons first rest ih => exact ih

/-- A fold that ends in a number has met digits only, and zeros only if that is zero. -/
theorem foldDigits_eq_some {digits : List (Option Nat)} {start result : Nat}
    (folded : digits.foldl (fun total digit => do return 10 * (← total) + (← digit)) (some start) =
      some result) :
    (∀ digit ∈ digits, digit.isSome) ∧
      (result = 0 ↔ start = 0 ∧ ∀ digit ∈ digits, digit = some 0) := by
  induction digits generalizing start with
  | nil =>
      obtain rfl := Option.some.inj folded
      simp
  | cons first rest ih =>
      cases first with
      | none => exact absurd ((foldDigits_none rest).symm.trans folded) (by simp)
      | some value =>
          obtain ⟨present, zeroIff⟩ := ih folded
          refine ⟨List.forall_mem_cons.mpr ⟨rfl, present⟩, ?_⟩
          rw [zeroIff, List.forall_mem_cons, Option.some_inj]
          constructor
          · rintro ⟨zero, zeros⟩
            exact ⟨by omega, by omega, zeros⟩
          · rintro ⟨zero, valueZero, zeros⟩
            exact ⟨by omega, zeros⟩

theorem pyInt_eq_ok {digits : List Char} {n : Nat}
    (converted : pyInt (String.ofList digits) = .ok n) :
    (∀ digit ∈ digits, isDecimal digit) ∧
      (n = 0 ↔ ∀ digit ∈ digits, decimalValue? digit = some 0) := by
  unfold pyInt at converted
  rw [String.toList_ofList] at converted
  dsimp only at converted
  split at converted
  · cases converted
  · split at converted
    · next value folded =>
      obtain rfl := Except.ok.inj converted
      obtain ⟨present, zeroIff⟩ := foldDigits_eq_some folded
      refine ⟨fun digit mem => present _ (List.mem_map_of_mem mem), ?_⟩
      rw [zeroIff]
      simp
    · cases converted

/-- What follows the last occurrence of a separator. -/
def afterLast (separator : List Char) : List Char → Option (List Char)
  | [] => none
  | char :: rest =>
      match afterLast separator rest with
      | some tail => some tail
      | none =>
          if separator.isPrefixOf (char :: rest) then some ((char :: rest).drop separator.length)
          else none

/-- The characters `shlex.quote` leaves alone. -/
def shellSafe (char : Char) : Bool :=
  char.isAlphanum || "_@%+=:,./-".toList.contains char

/-- `shlex.quote(text)`. -/
def shlexQuote (text : String) : String :=
  let quote := Char.ofNat 39
  if text = "" then String.ofList [quote, quote]
  else if text.toList.all shellSafe then text
  else String.ofList (quote :: text.toList.flatMap (fun char =>
    if char = quote then [quote, Char.ofNat 34, quote, Char.ofNat 34, quote] else [char])
      ++ [quote])

/-- `repr` of a list of strings. -/
def pyReprList (parts : List String) : String :=
  "[" ++ ", ".intercalate (parts.map pyRepr) ++ "]"

/-! ## Patterns -/

/-- The case folding of `re.I` on the letters `m`, `p` and `s`. -/
def caseFold (char : Char) : Char := if char = 'ſ' then 's' else char.toLower

/-- The number at the start of a text: digits, and digits after a point or neither. -/
structure DecimalMatch where
  whole : List Char
  point : List Char
  fraction : List Char
  rest : List Char

/-- `\d+(?:\.\d+)?`. -/
def decimalMatch (text : List Char) : DecimalMatch :=
  let whole := text.takeWhile isDecimal
  match text.dropWhile isDecimal with
  | '.' :: rest =>
      if rest.takeWhile isDecimal = [] then ⟨whole, [], [], '.' :: rest⟩
      else ⟨whole, ['.'], rest.takeWhile isDecimal, rest.dropWhile isDecimal⟩
  | rest => ⟨whole, [], [], rest⟩

theorem decimalMatch_spec (text : List Char) :
    (∀ char ∈ (decimalMatch text).whole ++ (decimalMatch text).fraction, isDecimal char) ∧
      ((decimalMatch text).point = [] ∧ (decimalMatch text).fraction = [] ∨
        (decimalMatch text).point = ['.']) := by
  have wholeDecimal : ∀ char ∈ text.takeWhile isDecimal, isDecimal char := fun char mem =>
    List.mem_takeWhile_imp mem
  unfold decimalMatch
  dsimp only
  split
  · next rest _ =>
    split_ifs with empty
    · exact ⟨by simpa using wholeDecimal, Or.inl ⟨rfl, rfl⟩⟩
    · refine ⟨fun char mem => ?_, Or.inr rfl⟩
      rcases List.mem_append.mp mem with inWhole | inFraction
      · exact wholeDecimal char inWhole
      · exact List.mem_takeWhile_imp inFraction
  · exact ⟨by simpa using wholeDecimal, Or.inl ⟨rfl, rfl⟩⟩

end Srv6Fabric

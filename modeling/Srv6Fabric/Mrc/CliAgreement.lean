import Srv6Fabric.Cli
import Srv6Fabric.FloatChars
import Srv6Fabric.IntText
import Srv6Fabric.Mrc.Orchestrator
import Srv6Fabric.Mrc.ScenarioRunnable

/-!
# The orchestrator and the sender agree

What the sender parses from the arguments the orchestrator prints.  Both sides spell a
number with `str`; the values they agree on are the ones whose text the sender's patterns
take.
-/

namespace Srv6Fabric.Mrc.Orchestrator

open Srv6Fabric.Cli

/-! ## Integers -/

/-- A nonnegative `int` within the digit limit of `str`. -/
def plainInt : PyInt → Bool
  | .int value => 0 ≤ value && (Nat.toDigits 10 value.toNat).length ≤ maxStrDigits
  | .bool _ => false

theorem intText_plain {number : PyInt} (plain : plainInt number) :
    ∃ n : Nat, number.toInt = n ∧ (Nat.toDigits 10 n).length ≤ maxStrDigits ∧
      intText number = .ok (String.ofList (Nat.toDigits 10 n)) := by
  cases number with
  | bool value => cases plain
  | int value =>
      rw [plainInt, Bool.and_eq_true, decide_eq_true_eq, decide_eq_true_eq] at plain
      obtain ⟨nonneg, short⟩ := plain
      obtain ⟨n, rfl⟩ := Int.eq_ofNat_of_zero_le nonneg
      rw [Int.toNat_natCast] at short
      refine ⟨n, rfl, short, ?_⟩
      rw [intText, intStr, Int.natAbs_natCast, if_neg (not_lt.mpr short)]
      rfl

/-- Another integer is not printed, or its text does not start with a digit. -/
theorem intText_not_plain {number : PyInt} (other : plainInt number = false) {text : String}
    (printed : intText number = .ok text) :
    ∃ first rest, text.toList = first :: rest ∧ isDecimal first = false := by
  cases number with
  | bool value =>
      obtain rfl := Except.ok.inj printed
      cases value
      · exact ⟨'F', _, rfl, rfl⟩
      · exact ⟨'T', _, rfl, rfl⟩
  | int value =>
      rw [intText, intStr] at printed
      split at printed
      · cases printed
      · next short =>
        cases value with
        | ofNat n =>
            rw [not_lt] at short
            simp [plainInt] at other
            exact absurd short other.not_ge
        | negSucc n =>
            obtain rfl := Except.ok.inj printed
            refine ⟨'-', (Nat.repr (n + 1)).toList, ?_, rfl⟩
            change ("-" ++ Nat.repr (n + 1)).toList = _
            rw [String.toList_append]
            rfl

/-- Digits up to another character. -/
theorem decimal_run {digits rest : List Char} (ascii : ∀ char ∈ digits, char.isDigit)
    (ends : ∀ char ∈ rest.head?, isDecimal char = false) :
    (digits ++ rest).takeWhile isDecimal = digits ∧
      (digits ++ rest).dropWhile isDecimal = rest := by
  have decimal : ∀ char ∈ digits, isDecimal char := fun char mem =>
    isDecimal_of_isDigit (ascii char mem)
  rw [List.takeWhile_append_of_pos decimal, List.dropWhile_append_of_pos decimal]
  cases rest with
  | nil => simp
  | cons first rest => simp [ends first rfl]

theorem parseRate_digits {n : Nat} (short : (Nat.toDigits 10 n).length ≤ maxStrDigits) :
    Cli.parseRate (String.ofList (Nat.toDigits 10 n) ++ "pps") = .ok n := by
  have ascii : ∀ char ∈ Nat.toDigits 10 n, char.isDigit := fun char mem =>
    Nat.isDigit_of_mem_toDigits (by decide) (by decide) mem
  have ends : ∀ char ∈ ['p', 'p', 's'].head?, isDecimal char = false := by
    rintro char ⟨⟩
    rfl
  obtain ⟨taken, dropped⟩ := decimal_run ascii ends
  have nonempty : Nat.toDigits 10 n ≠ [] := List.ne_nil_of_length_pos Nat.length_toDigits_pos
  have unit : (dollar (['p', 'p', 's'].dropWhile isSpace)).map caseFold = ['p', 'p', 's'] :=
    rfl
  have chars : (String.ofList (Nat.toDigits 10 n) ++ "pps").toList =
      Nat.toDigits 10 n ++ ['p', 'p', 's'] := by
    rw [String.toList_append, String.toList_ofList]
    rfl
  unfold Cli.parseRate
  dsimp only
  rw [chars, taken, dropped, unit, if_pos ⟨nonempty, Or.inl (by simp)⟩, pyInt_toDigits short]

theorem parseRate_not_digit {text : String} {first : Char} {rest : List Char}
    (starts : text.toList = first :: rest) (other : isDecimal first = false) {rate : Nat} :
    Cli.parseRate text ≠ .ok rate := by
  intro parsed
  unfold Cli.parseRate at parsed
  dsimp only at parsed
  rw [starts, List.takeWhile_cons_of_neg (by simp [other]), if_neg (by simp)] at parsed
  cases parsed

/-- The rate option is read back when it is an ordinary integer. -/
theorem rate_agrees_iff (rate : PyInt) :
    (∃ text parsed, intText rate = .ok text ∧ Cli.parseRate (text ++ "pps") = .ok parsed ∧
      (parsed : Int) = rate.toInt) ↔ plainInt rate := by
  constructor
  · rintro ⟨text, parsed, printed, read, -⟩
    by_contra other
    obtain ⟨first, rest, starts, notDecimal⟩ := intText_not_plain (by simpa using other) printed
    have startsToo : (text ++ "pps").toList = first :: (rest ++ "pps".toList) := by
      rw [String.toList_append, starts]
      rfl
    exact parseRate_not_digit startsToo notDecimal read
  · intro plain
    obtain ⟨n, value, short, printed⟩ := intText_plain plain
    exact ⟨_, n, printed, parseRate_digits short, value.symm⟩

/-- So is the destination. -/
theorem dst_agrees_iff (dst : PyInt) :
    (∃ text parsed, intText dst = .ok text ∧ pyInt text = .ok parsed ∧
      (parsed : Int) = dst.toInt) ↔ plainInt dst := by
  constructor
  · rintro ⟨text, parsed, printed, read, -⟩
    by_contra other
    obtain ⟨first, rest, starts, notDecimal⟩ := intText_not_plain (by simpa using other) printed
    rw [← String.ofList_toList (s := text)] at read
    have decimal := (pyInt_eq_ok read).1 first (by rw [starts]; exact List.mem_cons_self)
    rw [notDecimal] at decimal
    cases decimal
  · intro plain
    obtain ⟨n, value, short, printed⟩ := intText_plain plain
    exact ⟨_, n, printed, pyInt_toDigits short, value.symm⟩

/-! ## Durations -/

/-- A duration that `str` writes without an exponent. -/
def plainDuration : PyFloat → Bool
  | .finite value _ => value = 0 || ((10 : ℚ) ^ (-4 : Int) ≤ value && value < 10 ^ (16 : Int))
  | _ => false

/-- The characters of printed numbers and of the unit. -/
def Printed (text : List Char) : Prop :=
  ∀ char ∈ text, char.isDigit ∨ char ∈ ['.', 'e', '+', '-', 's']

theorem Printed.facts {text : List Char} (printed : Printed text) {char : Char}
    (mem : char ∈ text) : isSpace char = false ∧ char.toLower = char := by
  rcases printed char mem with digit | mark
  · obtain ⟨small, same⟩ := PyFloat.digitChar_of_isDigit digit
    have all : ∀ value : Fin 10, isSpace (value : Nat).digitChar = false ∧
        (value : Nat).digitChar.toLower = (value : Nat).digitChar := by
      decide
    rw [← same]
    exact all ⟨_, small⟩
  · have marks : ∀ mark ∈ ['.', 'e', '+', '-', 's'],
        isSpace mark = false ∧ mark.toLower = mark :=
      forall_mem_of_all rfl
    exact marks char mark

/-- Such a text has nothing to strip and nothing to lower. -/
theorem Printed.lowered {text : List Char} (printed : Printed text) :
    (strip (String.ofList text)).toList.map Char.toLower = text := by
  have front : text.dropWhile isSpace = text := by
    rw [List.dropWhile_eq_self_iff]
    intro nonempty
    rw [(printed.facts (List.getElem_mem nonempty)).1]
    exact Bool.false_ne_true
  have back : text.reverse.dropWhile isSpace = text.reverse := by
    rw [List.dropWhile_eq_self_iff]
    intro nonempty
    rw [(printed.facts (List.mem_reverse.mp (List.getElem_mem nonempty))).1]
    exact Bool.false_ne_true
  rw [strip, String.toList_ofList, String.toList_ofList, front, back, List.reverse_reverse]
  conv_rhs => rw [← List.map_id text]
  exact List.map_congr_left fun char mem => (printed.facts mem).2

theorem printed_of_numeral {text : List Char} (numeral : PyFloat.Numeral text) :
    Printed (text ++ ['s']) := by
  intro char mem
  rcases List.mem_append.mp mem with inText | last
  · exact (numeral.2 char inText).imp_right fun mark => List.mem_append_left ['s'] mark
  · exact Or.inr (List.mem_append_right ['.', 'e', '+', '-'] last)

/-- A text with a mark in it, read up to its unit. -/
theorem parseDuration_printed {text : List Char} (printed : Printed text) (mark : Char)
    (mem : mark ∈ text) (notDigit : mark ≠ '0') (notUnit : mark ≠ 's') :
    Cli.parseDuration (String.ofList text) =
      if (decimalMatch text).whole ≠ [] ∧
          dollar (decimalMatch text).rest ∈ [[], ['s'], ['m', 's']] then do
        let seconds ← Yaml.toFloat (.scalar (.str (String.ofList
          ((decimalMatch text).whole ++ (decimalMatch text).point ++
            (decimalMatch text).fraction))))
        .ok (if dollar (decimalMatch text).rest = ['m', 's'] then seconds.div1000 else seconds)
      else .error (.argumentTypeError s!"bad --duration: {pyRepr (String.ofList text)}") := by
  have ordinary : text ∉ [[], ['0'], ['0', 's']] := by
    intro zeroText
    simp only [List.mem_cons, List.not_mem_nil, or_false] at zeroText
    rcases zeroText with rfl | rfl | rfl <;> simp_all
  unfold Cli.parseDuration
  dsimp only
  rw [printed.lowered, if_neg ordinary]

theorem decimalMatch_point {whole fraction : List Char}
    (ascii : ∀ char ∈ whole ++ fraction, char.isDigit) (nonempty : fraction ≠ []) {rest : List Char}
    (ends : ∀ char ∈ rest.head?, isDecimal char = false) :
    decimalMatch (whole ++ ['.'] ++ fraction ++ rest) = ⟨whole, ['.'], fraction, rest⟩ := by
  have pointEnds : ∀ char ∈ (['.'] ++ (fraction ++ rest)).head?, isDecimal char = false := by
    rintro char ⟨⟩
    rfl
  obtain ⟨wholeTaken, wholeDropped⟩ :=
    decimal_run (fun char mem => ascii char (List.mem_append_left _ mem)) pointEnds
  obtain ⟨fractionTaken, fractionDropped⟩ :=
    decimal_run (fun char mem => ascii char (List.mem_append_right _ mem)) ends
  have shape : whole ++ ['.'] ++ fraction ++ rest = whole ++ (['.'] ++ (fraction ++ rest)) := by simp
  unfold decimalMatch
  dsimp only
  rw [shape, wholeTaken, wholeDropped]
  simp [fractionTaken, fractionDropped, nonempty]

/-- What is left after the number starts with neither a digit nor a point before one. -/
theorem decimalMatch_bare {whole rest : List Char} (ascii : ∀ char ∈ whole, char.isDigit)
    {first : Char} (starts : rest.head? = some first) (other : isDecimal first = false)
    (pointless : first ≠ '.') :
    decimalMatch (whole ++ rest) = ⟨whole, [], [], rest⟩ := by
  obtain ⟨tail, rfl⟩ := List.head?_eq_some_iff.mp starts
  have ends : ∀ char ∈ (first :: tail).head?, isDecimal char = false := by
    rintro char ⟨⟩
    exact other
  obtain ⟨taken, dropped⟩ := decimal_run ascii ends
  unfold decimalMatch
  dsimp only
  rw [taken, dropped]
  split
  · next heq => exact absurd (List.cons.inj heq).1 pointless
  · rfl

/-- A number without an exponent is read back. -/
theorem parseDuration_positional {value : ℚ} {represented : IsBinary64 value} (positive : 0 < value)
    (middle : (10 : ℚ) ^ (-4 : Int) ≤ value ∧ value < 10 ^ (16 : Int)) :
    Cli.parseDuration ((PyFloat.finite value represented).str ++ "s") =
      .ok (.finite value represented) := by
  obtain ⟨digits, point, textEq, nonempty, ascii, -, low, high⟩ :=
    PyFloat.magnitudeText_eq represented positive
  have inMiddle := (PyFloat.middle_iff represented positive low high).mpr middle
  obtain ⟨whole, fraction, shape, wholeNonempty, fractionNonempty, all, -⟩ :=
    PyFloat.decimalText_positional nonempty ascii inMiddle
  have numeral := (PyFloat.literal?_magnitudeText represented positive).1
  have readBack := PyFloat.ofText_magnitudeText represented positive
  have strEq : (PyFloat.finite value represented).str =
      String.ofList (PyFloat.magnitudeText value) := by
    rw [PyFloat.str, if_neg positive.ne', if_neg positive.asymm]
  have chars : (PyFloat.finite value represented).str ++ "s" =
      String.ofList (whole ++ ['.'] ++ fraction ++ ['s']) := by
    rw [strEq, textEq, shape, ← String.toList_inj]
    simp
  have printed := printed_of_numeral numeral
  rw [textEq, shape] at printed readBack
  have ends : ∀ char ∈ ['s'].head?, isDecimal char = false := by
    rintro char ⟨⟩
    rfl
  rw [chars, parseDuration_printed printed '.' (by simp) (by decide) (by decide),
    decimalMatch_point all fractionNonempty ends]
  have unit : dollar ['s'] = ['s'] := by decide
  rw [unit, if_pos ⟨wholeNonempty, by simp⟩, Yaml.toFloat, readBack]
  rfl

/-- The sender's pattern has no exponent. -/
theorem parseDuration_exponent {value : ℚ} {represented : IsBinary64 value} (positive : 0 < value)
    (outside : ¬ ((10 : ℚ) ^ (-4 : Int) ≤ value ∧ value < 10 ^ (16 : Int))) {seconds : PyFloat} :
    Cli.parseDuration ((PyFloat.finite value represented).str ++ "s") ≠ .ok seconds := by
  obtain ⟨digits, point, textEq, nonempty, ascii, -, low, high⟩ :=
    PyFloat.magnitudeText_eq represented positive
  have notMiddle := mt (PyFloat.middle_iff represented positive low high).mp outside
  obtain ⟨first, rest, separator, shape, all, separated, -⟩ :=
    PyFloat.decimalText_exponent nonempty ascii notMiddle
  have numeral := (PyFloat.literal?_magnitudeText represented positive).1
  have strEq : (PyFloat.finite value represented).str =
      String.ofList (PyFloat.magnitudeText value) := by
    rw [PyFloat.str, if_neg positive.ne', if_neg positive.asymm]
  generalize exponentEq : PyFloat.exponentText (point - 1) = exponent at shape
  have chars : (PyFloat.finite value represented).str ++ "s" =
      String.ofList ([first] ++ separator ++ rest ++ ('e' :: exponent ++ ['s'])) := by
    rw [strEq, textEq, shape, ← String.toList_inj]
    simp
  have printed := printed_of_numeral numeral
  rw [textEq, shape, List.append_assoc] at printed
  have notDecimal : isDecimal 'e' = false := rfl
  have matched : (decimalMatch ([first] ++ separator ++ rest ++ ('e' :: exponent ++ ['s']))).rest =
      'e' :: exponent ++ ['s'] := by
    rcases separated with ⟨rfl, rfl⟩ | ⟨rfl, restNonempty⟩
    · rw [List.append_nil, List.append_nil,
        decimalMatch_bare (fun char mem => all char (by simpa using mem)) rfl notDecimal (by decide)]
    · rw [decimalMatch_point all restNonempty (by rintro char ⟨⟩; exact notDecimal)]
  have kept : dollar ('e' :: exponent ++ ['s']) = 'e' :: exponent ++ ['s'] := by
    rw [dollar, List.getLast?_append, if_neg]
    simp
  rw [chars, parseDuration_printed printed 'e' (by simp) (by decide) (by decide), matched,
    kept, if_neg (by simp)]
  rintro ⟨⟩

theorem decimalMatch_not_digit {text : List Char}
    (starts : ∀ char ∈ text.head?, isDecimal char = false) : (decimalMatch text).whole = [] := by
  have none_ : text.takeWhile isDecimal = [] := by
    cases text with
    | nil => rfl
    | cons first rest => exact List.takeWhile_cons_of_neg (by simp [starts first rfl])
  unfold decimalMatch
  dsimp only
  split
  · split_ifs <;> exact none_
  · exact none_

theorem parseDuration_negative {value : ℚ} {represented : IsBinary64 value} (negative : value < 0)
    {seconds : PyFloat} :
    Cli.parseDuration ((PyFloat.finite value represented).str ++ "s") ≠ .ok seconds := by
  have numeral := (PyFloat.literal?_magnitudeText represented.neg (neg_pos.mpr negative)).1
  have chars : (PyFloat.finite value represented).str ++ "s" =
      String.ofList ('-' :: (PyFloat.magnitudeText (-value) ++ ['s'])) := by
    rw [PyFloat.str, if_neg negative.ne, if_pos negative, ← String.toList_inj]
    simp
  have printed : Printed ('-' :: (PyFloat.magnitudeText (-value) ++ ['s'])) :=
    List.forall_mem_cons.mpr ⟨Or.inr (by simp), printed_of_numeral numeral⟩
  have wholeless : (decimalMatch ('-' :: (PyFloat.magnitudeText (-value) ++ ['s']))).whole = [] := by
    apply decimalMatch_not_digit
    rintro char ⟨⟩
    rfl
  rw [chars, parseDuration_printed printed '-' List.mem_cons_self (by decide) (by decide), wholeless,
    if_neg (by simp)]
  rintro ⟨⟩

/-- The duration option is read back when it was printed without an exponent. -/
theorem duration_agrees_iff (duration : PyFloat) :
    Cli.parseDuration (duration.str ++ "s") = .ok duration ↔ plainDuration duration := by
  cases duration with
  | finite value represented =>
      rcases lt_trichotomy value 0 with negative | rfl | positive
      · refine iff_of_false (parseDuration_negative negative) ?_
        have power : (0 : ℚ) < 10 ^ (-4 : Int) := by positivity
        simp only [plainDuration, Bool.or_eq_true, Bool.and_eq_true, decide_eq_true_eq]
        rintro (zero | ⟨low, -⟩)
        · exact negative.ne zero
        · exact (power.trans_le low).asymm negative
      · refine iff_of_true ?_ rfl
        change Cli.parseDuration (PyFloat.zero.str ++ "s") = .ok PyFloat.zero
        decide +kernel
      · simp only [plainDuration, positive.ne', decide_false, Bool.false_or, Bool.and_eq_true,
          decide_eq_true_eq]
        constructor
        · intro read
          by_contra outside
          exact parseDuration_exponent positive outside read
        · exact parseDuration_positional positive
  | negZero => decide
  | inf negative =>
      revert negative
      decide
  | nan => decide

/-! ## Weights -/

def isBool : Yaml → Bool
  | .scalar (.bool _) => true
  | _ => false

/-- A policy without booleans among its weights. -/
def plainPolicy : Yaml → Bool
  | .dict [(key, value)] =>
      if key = .str "weighted" then
        match value.iterate with
        | .ok weights => weights.all fun weight => !isBool weight
        | .error _ => true
      else true
  | _ => true

theorem literal?_toDigits (n : Nat) :
    PyFloat.Numeral (Nat.toDigits 10 n) ∧ PyFloat.literal? (Nat.toDigits 10 n) = some (n : ℚ) := by
  have ascii : ∀ char ∈ Nat.toDigits 10 n, char.isDigit := fun char mem =>
    Nat.isDigit_of_mem_toDigits (by decide) (by decide) mem
  have nonempty : Nat.toDigits 10 n ≠ [] := List.ne_nil_of_length_pos Nat.length_toDigits_pos
  obtain ⟨first, rest, shape⟩ := List.exists_cons_of_ne_nil nonempty
  constructor
  · refine ⟨⟨first, by rw [shape]; rfl, ascii first ?_⟩, fun char mem => Or.inl (ascii char mem)⟩
    rw [shape]
    exact List.mem_cons_self
  · have read := @PyFloat.literal?_decimal _ [] [] [] nonempty
      (by simpa using ascii) (Or.inl ⟨rfl, rfl⟩) (by rintro char ⟨⟩)
    rw [List.append_nil, List.append_nil, List.append_nil] at read
    rw [read]
    simp [PyFloat.exponent?, PyFloat.decimalNumber]

theorem ofText_int {n : Int} {x : PyFloat} (converted : PyFloat.ofInt n = .ok x) :
    PyFloat.ofText (toString n) = some x := by
  rw [← PyFloat.round_of_ofInt converted]
  cases n with
  | ofNat n =>
      obtain ⟨numeral, literal⟩ := literal?_toDigits n
      change PyFloat.ofText (String.ofList (Nat.toDigits 10 n)) = _
      rw [PyFloat.ofText_numeral (by rwa [numeral.ascii]), numeral.ascii, literal]
      simp
  | negSucc n =>
      obtain ⟨numeral, literal⟩ := literal?_toDigits (n + 1)
      have text : toString (Int.negSucc n) = String.ofList ('-' :: Nat.toDigits 10 (n + 1)) := by
        change "-" ++ Nat.repr (n + 1) = _
        rw [← String.toList_inj, String.toList_append]
        simp
      have nonzero : ((n + 1 : Nat) : ℚ) ≠ 0 := by positivity
      rw [text, PyFloat.ofText_neg_numeral numeral, literal, Option.map_some, PyFloat.ofSigned,
        if_pos rfl, if_neg nonzero]
      push_cast
      rfl

/-- The printed text of a weight: read back as the weight, or the name of a boolean. -/
theorem toStr_reads {item : Yaml} {weight : PyFloat} {text : String}
    (converted : item.toFloat = .ok weight) (printed : item.toStr = .ok text) :
    isBool item = false ∧ PyFloat.ofText text = some weight ∨
      isBool item ∧ (text = "True" ∨ text = "False") := by
  cases item with
  | list _ => cases converted
  | dict _ => cases converted
  | scalar value =>
      cases value with
      | null => cases converted
      | bool value =>
          obtain rfl := Except.ok.inj printed
          exact Or.inr ⟨rfl, by cases value <;> simp⟩
      | int value =>
          refine Or.inl ⟨rfl, ?_⟩
          simp only [Yaml.toStr, Scalar.toStr, Scalar.repr, intStr] at printed
          split at printed
          · cases printed
          · rw [← Except.ok.inj printed]
            exact ofText_int converted
      | float value =>
          obtain rfl := Except.ok.inj converted
          obtain rfl := Except.ok.inj printed
          exact Or.inl ⟨rfl, PyFloat.ofText_str value⟩
      | str value =>
          obtain rfl := Except.ok.inj printed
          simp only [Yaml.toFloat] at converted
          split at converted
          · next read =>
            rw [← Except.ok.inj converted]
            exact Or.inl ⟨rfl, read⟩
          · cases converted

/-! ## The weighted policy -/

/-- The parts of a list of weights after the outer `strip`. -/
def trimLast : List (List Char) → List (List Char)
  | [] => []
  | [part] => [part.rdropWhile isSpace]
  | part :: next :: rest => part :: trimLast (next :: rest)

theorem trimLast_singleton (part : List Char) :
    trimLast [part] = [part.rdropWhile isSpace] := rfl

theorem trimLast_cons_cons (part next : List Char) (rest : List (List Char)) :
    trimLast (part :: next :: rest) = part :: trimLast (next :: rest) := rfl

theorem trimLast_ne_nil {parts : List (List Char)} (some_ : parts ≠ []) : trimLast parts ≠ [] := by
  match parts with
  | [] => exact some_
  | [part] => exact List.cons_ne_nil _ _
  | part :: next :: rest => exact List.cons_ne_nil _ _

theorem rdropWhile_append_kept {drop : Char → Bool} {front : List Char} {last : Char}
    (kept : drop last = false) (text : List Char) :
    (front ++ [last] ++ text).rdropWhile drop = front ++ [last] ++ text.rdropWhile drop := by
  rw [List.rdropWhile, List.reverse_append, List.dropWhile_append, List.rdropWhile]
  split
  · next empty =>
    rw [List.isEmpty_iff.mp empty]
    simp [kept]
  · simp

theorem rdropWhile_intercalate (parts : List (List Char)) :
    ([','].intercalate parts).rdropWhile isSpace = [','].intercalate (trimLast parts) := by
  induction parts with
  | nil => rfl
  | cons part rest ih =>
      cases rest with
      | nil => simp [trimLast_singleton]
      | cons next rest =>
          rw [trimLast_cons_cons, List.intercalate_cons_cons, rdropWhile_append_kept (by decide), ih,
            List.intercalate_cons_of_ne_nil (trimLast_ne_nil (List.cons_ne_nil _ _))]

theorem mem_trimLast {parts : List (List Char)} {part : List Char} (mem : part ∈ parts)
    (kept : part.rdropWhile isSpace = part) : part ∈ trimLast parts := by
  induction parts with
  | nil => exact mem
  | cons first rest ih =>
      cases rest with
      | nil =>
          rw [List.mem_singleton.mp mem] at kept ⊢
          rw [trimLast_singleton, kept]
          exact List.mem_singleton_self first
      | cons next rest =>
          rw [trimLast_cons_cons]
          rcases List.mem_cons.mp mem with rfl | later
          · exact List.mem_cons_self
          · exact List.mem_cons_of_mem _ (ih later)

theorem trimLast_reads {parts : List (List Char)} {weights : List PyFloat}
    (reads : List.Forall₂ (fun part weight => PyFloat.ofText (String.ofList part) = some weight)
      parts weights) :
    List.Forall₂ (fun part weight => PyFloat.ofText (String.ofList part) = some weight)
      (trimLast parts) weights := by
  induction reads with
  | nil => exact .nil
  | cons read later ih =>
      cases later with
      | nil => exact .cons (PyFloat.ofText_rstrip read).2 .nil
      | cons next rest => exact .cons read ih

theorem comma_not_mem_trimLast {parts : List (List Char)} (free : ∀ part ∈ parts, ',' ∉ part) :
    ∀ part ∈ trimLast parts, ',' ∉ part := by
  induction parts with
  | nil => exact free
  | cons first rest ih =>
      obtain ⟨here, later⟩ := List.forall_mem_cons.mp free
      cases rest with
      | nil =>
          intro part mem comma
          rw [trimLast_singleton, List.mem_singleton] at mem
          subst mem
          exact here ((List.rdropWhile_prefix isSpace first).subset comma)
      | cons next rest => exact List.forall_mem_cons.mpr ⟨here, ih later⟩

/-- What the sender splits a `weighted:` option into. -/
theorem weighted_parts {texts : List String} (some_ : texts ≠ [])
    (free : ∀ text ∈ texts, ',' ∉ text.toList) :
    "weighted:".toList.isPrefixOf (strip ("weighted:" ++ ",".intercalate texts)).toList ∧
      ((strip ("weighted:" ++ ",".intercalate texts)).toList.drop 9).splitOn ',' =
        trimLast (texts.map String.toList) := by
  have chars : ("weighted:" ++ ",".intercalate texts).toList =
      "weighted".toList ++ [':'] ++ [','].intercalate (texts.map String.toList) := by
    rw [String.toList_append, String.toList_intercalate]
    rfl
  have stripped : (strip ("weighted:" ++ ",".intercalate texts)).toList =
      "weighted:".toList ++ [','].intercalate (trimLast (texts.map String.toList)) := by
    rw [strip, String.toList_ofList, chars]
    change (("weighted".toList ++ [':'] ++
      [','].intercalate (texts.map String.toList)).rdropWhile isSpace) = _
    rw [rdropWhile_append_kept (by decide), rdropWhile_intercalate]
    rfl
  rw [stripped]
  constructor
  · rw [List.isPrefixOf_iff_prefix]
    exact List.prefix_append _ _
  · change ([','].intercalate (trimLast (texts.map String.toList))).splitOn ',' = _
    refine List.splitOn_intercalate ',' (comma_not_mem_trimLast ?_)
      (trimLast_ne_nil (mt List.map_eq_nil_iff.mp some_))
    intro part mem
    obtain ⟨text, textMem, rfl⟩ := List.mem_map.mp mem
    exact free text textMem

/-- The printed weights, one by one. -/
theorem printed_weights {items : List Yaml} {weights : List PyFloat} {texts : List String}
    (converted : List.Forall₂ (fun item weight => Yaml.toFloat item = .ok weight) items weights)
    (printed : List.Forall₂ (fun item text => Yaml.toStr item = .ok text) items texts) :
    (∀ text ∈ texts, ',' ∉ text.toList) ∧
      ((∀ item ∈ items, isBool item = false) →
        List.Forall₂ (fun part weight => PyFloat.ofText (String.ofList part) = some weight)
          (texts.map String.toList) weights) ∧
      ((∃ item ∈ items, isBool item) → ∃ text ∈ texts, text = "True" ∨ text = "False") := by
  induction converted generalizing texts with
  | nil =>
      cases printed
      exact ⟨by simp, fun _ => .nil, by simp⟩
  | cons itemConverted _ ih =>
      cases printed with
      | cons itemPrinted restPrinted =>
          obtain ⟨free, reads, bools⟩ := ih restPrinted
          rcases toStr_reads itemConverted itemPrinted with ⟨plain, read⟩ | ⟨bool, named⟩
          · refine ⟨List.forall_mem_cons.mpr ⟨PyFloat.comma_not_mem
              (by rwa [String.ofList_toList]), free⟩, ?_, ?_⟩
            · intro noBool
              exact .cons (by rwa [String.ofList_toList])
                (reads (List.forall_mem_cons.mp noBool).2)
            · rintro ⟨item, mem, isBool⟩
              rcases List.mem_cons.mp mem with rfl | later
              · rw [plain] at isBool
                cases isBool
              · obtain ⟨text, textMem, named⟩ := bools ⟨item, later, isBool⟩
                exact ⟨text, List.mem_cons_of_mem _ textMem, named⟩
          · refine ⟨List.forall_mem_cons.mpr ⟨?_, free⟩, ?_, ?_⟩
            · rcases named with rfl | rfl <;> decide
            · intro noBool
              rw [(List.forall_mem_cons.mp noBool).1] at bool
              cases bool
            · exact fun _ => ⟨_, List.mem_cons_self, named⟩

theorem makeWeighted_ok {topo : Topo} {weights : List PyFloat} {policy : SprayPolicy}
    (made : SprayPolicy.makeWeighted topo weights = .ok policy) :
    weights ≠ [] ∧ policy = .weighted weights := by
  unfold SprayPolicy.makeWeighted at made
  split_ifs at made with length negative zero
  refine ⟨?_, (Except.ok.inj made).symm⟩
  rintro rfl
  exact zero (by decide)

theorem policyFromSpec_floats (topo : Topo) (weights : List PyFloat) :
    policyFromSpec topo (.dict [(.str "weighted",
      .list (weights.map fun weight => .scalar (.float weight)))]) =
      SprayPolicy.makeWeighted topo weights := by
  have floats : (weights.map fun weight => Yaml.scalar (.float weight)).mapM Yaml.toFloat =
      .ok weights := by
    apply mapM_of_forall₂
    rw [List.forall₂_map_left_iff]
    exact List.forall₂_same.mpr fun _ _ => rfl
  rw [policyFromSpec, if_pos rfl]
  change ((weights.map fun weight => Yaml.scalar (.float weight)).mapM Yaml.toFloat).bind _ = _
  rw [floats]
  rfl

/-- The weighted option is read back as the same weights when none of them is a boolean. -/
theorem weighted_agrees_iff {topo : Topo} (tenant : String) (evConfig : EVStateConfig)
    {items : List Yaml} {weights : List PyFloat} {texts : List String} {policy : SprayPolicy}
    (converted : items.mapM Yaml.toFloat = .ok weights)
    (made : SprayPolicy.makeWeighted topo weights = .ok policy)
    (printed : items.mapM Yaml.toStr = .ok texts) :
    parsePolicy topo tenant evConfig ("weighted:" ++ ",".intercalate texts) = .ok (.plain policy) ↔
      ∀ item ∈ items, isBool item = false := by
  obtain ⟨free, reads, bools⟩ := printed_weights (mapM_eq_ok converted) (mapM_eq_ok printed)
  obtain ⟨some_, rfl⟩ := makeWeighted_ok made
  have textsSome : texts ≠ [] := by
    rintro rfl
    cases mapM_eq_ok printed
    cases mapM_eq_ok converted
    exact some_ rfl
  obtain ⟨prefixed, parts⟩ := weighted_parts textsSome free
  unfold parsePolicy
  dsimp only
  rw [if_pos prefixed, parts]
  constructor
  · intro parsed item mem
    by_contra bool
    rw [Bool.not_eq_false] at bool
    obtain ⟨text, textMem, named⟩ := bools ⟨item, mem, bool⟩
    obtain ⟨readWeights, readOk, -⟩ := bind_eq_ok parsed
    have kept : text.toList.rdropWhile isSpace = text.toList := by
      rcases named with rfl | rfl <;> rfl
    have part := mem_trimLast (List.mem_map_of_mem textMem) kept
    obtain ⟨weight, read⟩ := exists_of_mapM readOk part
    have unread : PyFloat.ofText (String.ofList text.toList) = none := by
      rcases named with rfl | rfl <;> rfl
    rw [Yaml.toFloat, unread] at read
    cases read
  · intro noBool
    have readOk : (trimLast (texts.map String.toList)).mapM (fun weight =>
        Yaml.toFloat (.scalar (.str (String.ofList weight)))) = .ok weights := by
      apply mapM_of_forall₂
      refine (trimLast_reads (reads noBool)).imp fun part weight read => ?_
      rw [Yaml.toFloat, read]
    rw [readOk]
    change (policyFromSpec topo (.dict [(.str "weighted",
      .list (weights.map fun weight => .scalar (.float weight)))])).bind _ = _
    rw [policyFromSpec_floats, made]
    rfl

/-! ## Policies -/

theorem init_ok {topo : Topo} (planes : 1 ≤ topo.numPlanes) {evConfig : EVStateConfig}
    (ring : 0 ≤ evConfig.rttRingSize) (tenant : String) :
    ∃ table, EVStateTable.init [tenant] topo.numPlanes evConfig = .ok table := by
  rw [EVStateTable.init, if_neg (List.cons_ne_nil _ _), if_neg (not_lt.mpr planes),
    if_neg (not_lt.mpr ring)]
  exact ⟨_, rfl⟩

theorem parsePolicy_name {topo : Topo} {tenant : String} {evConfig : EVStateConfig} {name : String}
    (named : name ∈ ["round_robin", "hash5tuple", "health_aware_mrc"]) :
    parsePolicy topo tenant evConfig name =
      (do bindPolicy topo tenant evConfig (← policyFromSpec topo (.scalar (.str name)))) := by
  have bare : ∀ name ∈ ["round_robin", "hash5tuple", "health_aware_mrc"],
      strip name = name ∧ "weighted:".toList.isPrefixOf name.toList = false := by
    decide
  obtain ⟨stripped, other⟩ := bare name named
  unfold parsePolicy
  dsimp only
  rw [stripped, other, if_neg Bool.false_ne_true]

/-- The policy option names the scenario's policy when none of the weights is a boolean. -/
theorem policy_agrees_iff {topo : Topo} (planes : 1 ≤ topo.numPlanes) {evConfig : EVStateConfig}
    (ring : 0 ≤ evConfig.rttRingSize) (tenant : String) {spec : Yaml} {policy : SprayPolicy}
    {cli : String} (valid : policyFromSpec topo spec = .ok policy)
    (translated : policyToCli spec = .ok cli) :
    (∃ live, parsePolicy topo tenant evConfig cli = .ok live ∧
      bindPolicy topo tenant evConfig policy = .ok live) ↔ plainPolicy spec := by
  unfold policyToCli at translated
  split at translated
  · next text =>
    obtain rfl := Except.ok.inj translated
    refine iff_of_true ?_ rfl
    have named : text ∈ ["round_robin", "hash5tuple", "health_aware_mrc"] := by
      rw [policyFromSpec] at valid
      split_ifs at valid with first second third <;> simp_all
    rw [parsePolicy_name named, valid]
    have bound : ∃ live, bindPolicy topo tenant evConfig policy = .ok live := by
      unfold bindPolicy
      split
      · obtain ⟨table, built⟩ := init_ok planes ring tenant
        rw [built]
        exact ⟨_, rfl⟩
      · exact ⟨_, rfl⟩
    obtain ⟨live, bound⟩ := bound
    exact ⟨live, bound, bound⟩
  · next key value =>
    rw [policyFromSpec] at valid
    split_ifs at translated valid with weighted health
    · obtain ⟨items, iterated, printing⟩ := bind_eq_ok translated
      obtain ⟨texts, printed, textEq⟩ := bind_eq_ok printing
      obtain rfl := Except.ok.inj textEq
      obtain ⟨walked, iteratedAgain, converting⟩ := bind_eq_ok valid
      obtain rfl := Except.ok.inj (iterated.symm.trans iteratedAgain)
      obtain ⟨weights, converted, made⟩ := bind_eq_ok converting
      have agree := weighted_agrees_iff tenant evConfig converted made printed
      obtain ⟨-, rfl⟩ := makeWeighted_ok made
      rw [plainPolicy, if_pos weighted, iterated, List.all_eq_true]
      simp only [Bool.not_eq_true']
      rw [← agree]
      constructor
      · rintro ⟨live, parsed, bound⟩
        rw [parsed, ← bound]
        rfl
      · intro parsed
        exact ⟨_, parsed, rfl⟩
    · obtain ⟨shown, -, failed⟩ := bind_eq_ok translated
      cases failed
  · obtain ⟨shown, -, failed⟩ := bind_eq_ok translated
    cases failed

/-! ## Runs -/

/-- What the sender parses from the orchestrator's arguments is what the scenario says. -/
def Agrees (topo : Topo) (evConfig : EVStateConfig) (spec : Yaml) (run : FlowRun) : Prop :=
  ∃ argv args policy, sendArgv run = .ok argv ∧
    parseSendArgs topo run.tenant evConfig argv = .ok args ∧
    (args.dstId : Int) = run.dstId.toInt ∧ (args.rate : Int) = run.ratePps.toInt ∧
    args.duration = run.durationS ∧
    policyFromSpec topo spec = .ok policy ∧
    bindPolicy topo run.tenant evConfig policy = .ok args.policy

/-- No boolean stands for a number, no integer is past the digit limit, and the duration is
written without an exponent. -/
structure Spellable (spec : Yaml) (run : FlowRun) : Prop where
  dst : plainInt run.dstId
  rate : plainInt run.ratePps
  duration : plainDuration run.durationS
  policy : plainPolicy spec

theorem ne_of_getLast? {text unit option : String} (ends : (text ++ unit).toList.getLast? ≠
    option.toList.getLast?) : text ++ unit ≠ option := by
  intro same
  exact ends (by rw [same])

/-- The sender finds each of its options behind its name. -/
theorem parseSendArgs_argv (topo : Topo) (tenant : String) (evConfig : EVStateConfig)
    (dst rate duration policy : String) :
    parseSendArgs topo tenant evConfig ["spray", "--role", "send", "--dst-id", dst,
      "--rate", rate ++ "pps", "--duration", duration ++ "s", "--policy", policy, "--json"] = (do
        let dstId ← pyInt dst
        let rate ← Cli.parseRate (rate ++ "pps")
        let duration ← Cli.parseDuration (duration ++ "s")
        let policy ← parsePolicy topo tenant evConfig policy
        .ok { dstId, rate, duration, policy }) := by
  have rateEnds : (rate ++ "pps").toList.getLast? = some 's' := by simp
  have durationEnds : (duration ++ "s").toList.getLast? = some 's' := by simp
  have rateOther : ∀ option ∈ ["--duration", "--policy"], rate ++ "pps" ≠ option := by
    intro option mem
    apply ne_of_getLast?
    rw [rateEnds]
    revert option
    decide
  have durationOther : duration ++ "s" ≠ "--policy" := by
    apply ne_of_getLast?
    rw [durationEnds]
    decide
  unfold parseSendArgs
  cases read : pyInt dst with
  | error failure =>
      simp [argValue?, read]
      rfl
  | ok dstId =>
      have dstOther : ∀ option ∈ ["--rate", "--duration", "--policy"], dst ≠ option := by
        have dashed : ∀ option ∈ ["--rate", "--duration", "--policy"],
            '-' ∈ option.toList := by
          decide
        intro option mem same
        rw [same, ← String.ofList_toList (s := option)] at read
        have decimal := (pyInt_eq_ok read).1 '-' (dashed option mem)
        revert decimal
        decide
      simp [argValue?, read, dstOther, rateOther, durationOther]

/-- A run of a flow: its translated policy on one of its pairs. -/
def RunOf (flow : FlowSpec) (run : FlowRun) : Prop :=
  ∃ cli, policyToCli flow.policySpec = .ok cli ∧ ∃ pair ∈ flow.pairs, run = flowRun flow cli pair

/-- The sender agrees with the orchestrator on the runs that are spelled plainly. -/
theorem RunOf.agrees_iff {topo : Topo} (planes : 1 ≤ topo.numPlanes) {evConfig : EVStateConfig}
    (ring : 0 ≤ evConfig.rttRingSize) {flow : FlowSpec} {run : FlowRun} {policy : SprayPolicy}
    (valid : policyFromSpec topo flow.policySpec = .ok policy) (runOf : RunOf flow run) :
    Agrees topo evConfig flow.policySpec run ↔ Spellable flow.policySpec run := by
  obtain ⟨cli, translated, pair, -, rfl⟩ := runOf
  constructor
  · rintro ⟨argv, args, again, built, parsed, dstEq, rateEq, durationEq, validAgain, bound⟩
    obtain rfl := Except.ok.inj (valid.symm.trans validAgain)
    obtain ⟨dstText, dstPrinted, afterDst⟩ := bind_eq_ok built
    obtain ⟨rateText, ratePrinted, argvEq⟩ := bind_eq_ok afterDst
    obtain rfl := Except.ok.inj argvEq
    rw [parseSendArgs_argv] at parsed
    obtain ⟨dstId, dstRead, afterDstRead⟩ := bind_eq_ok parsed
    obtain ⟨rate, rateRead, afterRateRead⟩ := bind_eq_ok afterDstRead
    obtain ⟨duration, durationRead, afterDurationRead⟩ := bind_eq_ok afterRateRead
    obtain ⟨live, policyRead, argsEq⟩ := bind_eq_ok afterDurationRead
    obtain rfl := Except.ok.inj argsEq
    constructor
    · exact (dst_agrees_iff _).mp ⟨dstText, dstId, dstPrinted, dstRead, dstEq⟩
    · exact (rate_agrees_iff _).mp ⟨rateText, rate, ratePrinted, rateRead, rateEq⟩
    · obtain rfl : duration = (flowRun flow cli pair).durationS := durationEq
      exact (duration_agrees_iff _).mp durationRead
    · exact (policy_agrees_iff planes ring _ valid translated).mp ⟨live, policyRead, bound⟩
  · rintro ⟨dst, rate, duration, plain⟩
    obtain ⟨dstText, dstId, dstPrinted, dstRead, dstEq⟩ := (dst_agrees_iff _).mpr dst
    obtain ⟨rateText, rateRead, ratePrinted, rateParsed, rateEq⟩ := (rate_agrees_iff _).mpr rate
    have durationRead := (duration_agrees_iff flow.durationS).mpr duration
    obtain ⟨live, policyRead, bound⟩ := (policy_agrees_iff planes ring pair.tenant valid
      translated).mpr plain
    have built : sendArgv (flowRun flow cli pair) = .ok ["spray", "--role", "send",
        "--dst-id", dstText, "--rate", rateText ++ "pps",
        "--duration", flow.durationS.str ++ "s", "--policy", cli, "--json"] := by
      rw [sendArgv, bind_of_ok dstPrinted, bind_of_ok ratePrinted]
      rfl
    refine ⟨_, ⟨dstId, rateRead, flow.durationS, live⟩, policy, built, ?_, dstEq, rateEq, rfl,
      valid, bound⟩
    have read : parseSendArgs topo pair.tenant evConfig ["spray", "--role", "send",
        "--dst-id", dstText, "--rate", rateText ++ "pps",
        "--duration", flow.durationS.str ++ "s", "--policy", cli, "--json"] =
        .ok ⟨dstId, rateRead, flow.durationS, live⟩ := by
      rw [parseSendArgs_argv, bind_of_ok dstRead, bind_of_ok rateParsed, bind_of_ok durationRead,
        bind_of_ok policyRead]
    exact read

/-! ## Accepted documents -/

theorem positiveInt_ok {entries : Scenario.Entries} {path name : String} {found : Option Int}
    (accepted : Scenario.positiveInt entries path name = .ok found) : ∀ value ∈ found, 0 < value := by
  unfold Scenario.positiveInt at accepted
  split at accepted
  · obtain rfl := Except.ok.inj accepted
    rintro value ⟨⟩
  · next number _ =>
    split at accepted
    · next positive =>
      obtain rfl := Except.ok.inj accepted
      rintro value ⟨⟩
      exact positive
    · exact absurd accepted Scenario.refuse_ne_ok
  · exact absurd accepted Scenario.refuse_ne_ok

theorem ring_of_validated {path : String} {value : Yaml} {mrc : MrcSpec}
    (accepted : Scenario.validateMrc path value = .ok mrc) :
    ∀ size ∈ mrc.rttRingSize, 0 < size := by
  unfold Scenario.validateMrc at accepted
  split at accepted
  · obtain rfl := Except.ok.inj accepted
    rintro size ⟨⟩
  · exact positiveInt_ok (Scenario.acceptedMrc accepted).ring
  · exact absurd accepted Scenario.fail_ne_ok

/-- What the senders of an accepted scenario rely on. -/
theorem sound_of_validated {topo : Topo} {doc : Yaml} {scenario : Scenario}
    (accepted : Scenario.validate topo doc = .ok scenario) :
    (∀ flow ∈ scenario.flows, ∃ policy, policyFromSpec topo flow.policySpec = .ok policy) ∧
      0 ≤ (senderConfig scenario.mrc).rttRingSize := by
  obtain ⟨entries, rfl, parts⟩ := Scenario.acceptedDocument accepted
  constructor
  · have each : (∀ flow ∈ scenario.flows, ∃ policy, policyFromSpec topo flow.policySpec = .ok policy) ↔
        ∀ item ∈ Scenario.items (Scenario.field "flows" (.dict entries)), True :=
      Scenario.atIndices_ok parts.flows fun _ _ _ checked =>
        iff_true_intro (Scenario.acceptedFlow checked).policy
    exact each.mpr fun _ _ => trivial
  · have mrcOk := parts.mrc
    cases found : Yaml.get? entries "mrc" with
    | none =>
        rw [found] at mrcOk
        rw [← Except.ok.inj mrcOk]
        exact Int.natCast_nonneg 64
    | some value =>
        rw [found, Option.mapM_some] at mrcOk
        obtain ⟨spec, specOk, mrcEq⟩ := bind_eq_ok mrcOk
        rw [← Except.ok.inj mrcEq]
        have positive := ring_of_validated specOk
        change 0 ≤ spec.rttRingSize.getD 64
        cases size : spec.rttRingSize with
        | none => decide
        | some size => exact (positive _ size).le

theorem mem_expandFlow {flow : FlowSpec} {runs : List FlowRun}
    (expanded : expandFlow flow = .ok runs) (run : FlowRun) : run ∈ runs ↔ RunOf flow run := by
  have refused : ∀ message : String, (flow.policySpec.repr >>= fun shown => .error (.systemExit
      s!"mrc/run.py: cannot translate policy {shown}: {message}")) ≠ .ok runs := by
    intro message returned
    obtain ⟨shown, -, failed⟩ := bind_eq_ok returned
    cases failed
  unfold expandFlow at expanded
  dsimp only at expanded
  split at expanded
  · next cli translated =>
    obtain rfl := Except.ok.inj expanded
    rw [List.mem_map]
    constructor
    · rintro ⟨pair, mem, rfl⟩
      exact ⟨cli, translated, pair, mem, rfl⟩
    · rintro ⟨other, again, pair, mem, rfl⟩
      obtain rfl := Except.ok.inj (translated.symm.trans again)
      exact ⟨pair, mem, rfl⟩
  · exact absurd expanded (refused _)
  · exact absurd expanded (refused _)
  · cases expanded

theorem mem_expandFlows {scenario : Scenario} {runs : List FlowRun}
    (expanded : expandFlows scenario = .ok runs) (run : FlowRun) :
    run ∈ runs ↔ ∃ flow ∈ scenario.flows, RunOf flow run := by
  obtain ⟨expansions, each, joined⟩ := bind_eq_ok expanded
  obtain rfl := Except.ok.inj joined
  have pointwise := mapM_eq_ok each
  clear expanded each joined
  generalize scenario.flows = flows at pointwise
  induction pointwise with
  | nil => simp
  | cons head _ ih =>
      rw [List.flatten_cons, List.mem_append, mem_expandFlow head]
      simp only [ih, List.exists_mem_cons_iff]

/-- A document of one flow over one pair. -/
def onePair (policy : Yaml) (dst rate duration : Scalar) : Yaml :=
  .dict [(.str "name", .scalar (.str "smoke")), (.str "flows", .list [.dict [
    (.str "pairs", .list [.dict [(.str "tenant", .scalar (.str "green")),
      (.str "src", .scalar (.int 0)), (.str "dst", .scalar dst)]]),
    (.str "policy", policy), (.str "rate", .scalar rate), (.str "duration", .scalar duration)]])]

end Srv6Fabric.Mrc.Orchestrator

import Mathlib.Algebra.Order.Ring.Nat
import Mathlib.Data.List.Nodup
import Mathlib.Data.List.Perm.Basic
import Srv6Fabric.IpAddress

/-!
# Address texts

Reading back an address that is written as groups, a `::` and more groups, and a prefix of
such an address.  All texts of the fabric have this shape.
-/

namespace Srv6Fabric.IpAddress

/-! ## Prefixes -/

/-- An address with a prefix length. -/
def readPrefix (text : String) : Option (IpAddress × Nat) :=
  match text.toList.splitOn '/' with
  | [address, length] =>
      if length ≠ [] ∧ length.all Char.isDigit then
        (ofText (String.ofList address)).map fun address => (address, Nat.ofDigitChars 10 length 0)
      else none
  | _ => none

/-! ## Groups -/

/-- A list that is read has been read part by part. -/
theorem exists_of_mapM_eq_some {α β : Type} {read : α → Option β} {parts : List α} {values : List β}
    (all : parts.mapM read = some values) {part : α} (mem : part ∈ parts) :
    ∃ value, read part = some value := by
  induction parts generalizing values with
  | nil => cases mem
  | cons first rest ih =>
      rw [List.mapM_cons] at all
      obtain ⟨value, isValue, afterValue⟩ := Option.bind_eq_some_iff.mp all
      obtain ⟨others, restRead, _⟩ := Option.bind_eq_some_iff.mp afterValue
      rcases List.mem_cons.mp mem with rfl | later
      · exact ⟨value, isValue⟩
      · exact ih restRead later

theorem length_of_mapM_eq_some {α β : Type} {read : α → Option β} {parts : List α}
    {values : List β} (all : parts.mapM read = some values) : values.length = parts.length := by
  induction parts generalizing values with
  | nil =>
      obtain rfl := Option.some.inj all
      rfl
  | cons first rest ih =>
      rw [List.mapM_cons] at all
      obtain ⟨_, _, afterFirst⟩ := Option.bind_eq_some_iff.mp all
      obtain ⟨others, restRead, joined⟩ := Option.bind_eq_some_iff.mp afterFirst
      obtain rfl := Option.some.inj joined
      rw [List.length_cons, List.length_cons, ih restRead]

/-- A part between colons that has no mark of an address in it. -/
def Plain (part : List Char) : Prop := part ≠ [] ∧ ∀ char ∈ part, char ∉ [':', '.', '/', '%']

/-- A group is written with hexadecimal digits. -/
theorem plain_of_parseHextet {part : List Char} {group : Nat} (read : parseHextet part = some group) :
    Plain part := by
  have marks : ∀ char ∈ [':', '.', '/', '%'], hexValue? char = none := forall_mem_of_all rfl
  unfold parseHextet at read
  split at read
  · cases read
  · next shape =>
    refine ⟨fun empty => shape (Or.inl empty), fun char mem mark => ?_⟩
    obtain ⟨digits, digitsRead, _⟩ := Option.bind_eq_some_iff.mp read
    obtain ⟨digit, isDigit⟩ := exists_of_mapM_eq_some digitsRead mem
    rw [marks char mark] at isDigit
    cases isDigit

/-- A group whose last digit varies. -/
theorem parseHextet_snoc (front : List Char) (value : Nat) {digit : Nat}
    (read : parseHextet front = some value) (short : front.length ≤ 3) (small : digit < 16) :
    parseHextet (front ++ Nat.toDigits 16 digit) = some (16 * value + digit) := by
  unfold parseHextet at read
  split at read
  · cases read
  · obtain ⟨digits, digitsRead, folded⟩ := Option.bind_eq_some_iff.mp read
    rw [Nat.toDigits_of_lt_base small, parseHextet, if_neg (by simp; omega), List.mapM_append,
      digitsRead, List.mapM_cons, hexValue?_digitChar small]
    obtain rfl := Option.some.inj folded
    simp

/-- A group with leading zeros. -/
theorem parseHextet_padded {width n : Nat} (fits : width ≤ 4) (small : n < 65536) :
    parseHextet (List.replicate (width - (Nat.toDigits 16 n).length) '0' ++ Nat.toDigits 16 n) =
      some n := by
  have short : (Nat.toDigits 16 n).length ≤ 4 :=
    (Nat.length_toDigits_le_iff (by decide) (by decide)).mpr small
  have zeros (count : Nat) : (List.replicate count '0').mapM hexValue? =
      some (List.replicate count 0) := by
    induction count with
    | zero => rfl
    | succ count ih =>
        rw [List.replicate_succ, List.mapM_cons, ih]
        rfl
  have leading (count : Nat) : (List.replicate count 0).foldl (fun total digit => 16 * total + digit) 0 =
      0 := by
    induction count with
    | zero => rfl
    | succ count ih => exact ih
  obtain ⟨digits, read, value⟩ := mapM_hexValue?_toDigits n
  rw [parseHextet, if_neg, List.mapM_append, zeros, read]
  · change some ((List.replicate _ 0 ++ digits).foldl _ 0) = some n
    rw [List.foldl_append, leading, value]
  · rw [not_or, List.length_append, List.length_replicate]
    exact ⟨List.append_ne_nil_of_right_ne_nil _ Nat.toDigits_ne_nil, by omega⟩

/-! ## Addresses -/

/-- The text of an address with a `::`: the groups before it and after it. -/
def compressedText (high low : List (List Char)) : List Char :=
  [':'].intercalate high ++ [':', ':'] ++ [':'].intercalate low

/-- The parts between the colons of such a text. -/
def compressedParts (high low : List (List Char)) : List (List Char) :=
  high ++ [] :: if low = [] then [[]] else low

theorem compressedText_eq {high low : List (List Char)} (nonempty : high ≠ []) :
    compressedText high low = [':'].intercalate (compressedParts high low) := by
  induction high with
  | nil => exact absurd rfl nonempty
  | cons part rest ih =>
      cases rest with
      | nil =>
          cases low with
          | nil => simp [compressedText, compressedParts]
          | cons first others => simp [compressedText, compressedParts]
      | cons next rest =>
          have tail := ih (List.cons_ne_nil _ _)
          rw [compressedText] at tail ⊢
          rw [compressedParts, List.cons_append, List.intercalate_cons_cons]
          rw [List.cons_append, List.intercalate_cons_cons, List.append_assoc, List.append_assoc,
            ← List.append_assoc ([':'].intercalate (next :: rest)), tail]
          simp [compressedParts]

theorem mem_intercalate {parts : List (List Char)} {char : Char}
    (mem : char ∈ [':'].intercalate parts) : char = ':' ∨ ∃ part ∈ parts, char ∈ part := by
  induction parts with
  | nil => cases mem
  | cons part rest ih =>
      cases rest with
      | nil => exact Or.inr ⟨part, List.mem_cons_self, by simpa using mem⟩
      | cons next rest =>
          rw [List.intercalate_cons_cons, List.mem_append, List.mem_append] at mem
          rcases mem with (inPart | colon) | later
          · exact Or.inr ⟨part, List.mem_cons_self, inPart⟩
          · exact Or.inl (List.mem_singleton.mp colon)
          · obtain colon | ⟨other, otherMem, inOther⟩ := ih later
            · exact Or.inl colon
            · exact Or.inr ⟨other, List.mem_cons_of_mem _ otherMem, inOther⟩

/-- Parts that may stand around a `::`, whether or not they are groups. -/
structure Shaped (high low : List (List Char)) : Prop where
  nonempty : high ≠ []
  fits : high.length + low.length < 8
  plain : ∀ part, part ∈ high ∨ part ∈ low → Plain part

namespace Shaped

variable {high low : List (List Char)}

theorem parts_chars (shaped : Shaped high low) {part : List Char}
    (mem : part ∈ compressedParts high low) : ∀ char ∈ part, char ∉ [':', '.', '/', '%'] := by
  rw [compressedParts, List.mem_append, List.mem_cons] at mem
  rcases mem with inHigh | rfl | inTail
  · exact (shaped.plain part (Or.inl inHigh)).2
  · exact fun _ absurdMem => absurd absurdMem (List.not_mem_nil)
  · split at inTail
    · obtain rfl := List.mem_singleton.mp inTail
      exact fun _ absurdMem => absurd absurdMem (List.not_mem_nil)
    · exact (shaped.plain part (Or.inr inTail)).2

theorem splitOn_parts (shaped : Shaped high low) :
    ([':'].intercalate (compressedParts high low)).splitOn ':' = compressedParts high low := by
  refine List.splitOn_intercalate ':' (fun part mem colon => ?_) (by simp [compressedParts])
  exact shaped.parts_chars mem ':' colon (by simp)

/-- The `::` is the one empty part inside. -/
theorem skips_eq (shaped : Shaped high low) : skips (compressedParts high low) = [high.length] := by
  have positive : 0 < high.length := List.length_pos_of_ne_nil shaped.nonempty
  refine List.perm_singleton.mp ((List.perm_ext_iff_of_nodup (List.nodup_range.filter _)
    (List.nodup_singleton _)).mpr fun index => ?_)
  rw [List.mem_filter, List.mem_range, List.mem_singleton, decide_eq_true_eq]
  constructor
  · rintro ⟨_, _, inside, empty⟩
    rw [compressedParts] at empty inside
    rcases lt_trichotomy index high.length with before | same | after
    · rw [List.getElem?_append_left before] at empty
      exact absurd rfl (shaped.plain [] (Or.inl (List.mem_of_getElem? empty))).1
    · exact same
    · rw [List.getElem?_append_right after.le, List.getElem?_cons,
        if_neg (Nat.sub_ne_zero_of_lt after)] at empty
      split at empty
      · next lowEmpty =>
        rw [if_pos lowEmpty, List.length_append] at inside
        simp only [List.length_cons, List.length_nil] at inside
        omega
      · exact absurd rfl (shaped.plain [] (Or.inr (List.mem_of_getElem? empty))).1
  · rintro rfl
    have tail : (if low = [] then [[]] else low) ≠ [] := by
      split
      · exact List.cons_ne_nil _ _
      · next nonempty => exact nonempty
    have tailLength := List.length_pos_of_ne_nil tail
    rw [compressedParts, List.length_append, List.length_cons]
    refine ⟨by omega, positive, by omega, ?_⟩
    rw [List.getElem?_append_right le_rfl, Nat.sub_self]
    rfl

theorem filter_nonempty {parts : List (List Char)} (nonempty : ∀ part ∈ parts, part ≠ []) :
    parts.filter (· ≠ []) = parts :=
  List.filter_eq_self.mpr fun part mem => decide_eq_true (nonempty part mem)

/-- What is read where all parts are groups. -/
theorem aroundSkip_eq (shaped : Shaped high low) :
    aroundSkip high (if low = [] then [[]] else low) =
      (high.mapM parseHextet).bind fun highGroups =>
        (low.mapM parseHextet).map fun lowGroups =>
          highGroups ++ List.replicate (8 - (high.length + low.length)) 0 ++ lowGroups := by
  have highFull := filter_nonempty fun part mem => (shaped.plain part (Or.inl mem)).1
  have lowFull : (if low = [] then [[]] else low).filter (· ≠ []) = low := by
    split
    · next empty =>
      rw [empty]
      rfl
    · exact filter_nonempty fun part mem => (shaped.plain part (Or.inr mem)).1
  have ends : ¬ (high.head? = some [] ∧ high.length ≠ 1 ∨
      (if low = [] then [[]] else low).getLast? = some [] ∧
        (if low = [] then [[]] else low).length ≠ 1) := by
    rintro (⟨first, _⟩ | ⟨last, several⟩)
    · exact absurd rfl (shaped.plain [] (Or.inl (List.mem_of_head? first))).1
    · split at last
      · next empty => exact several (by rw [if_pos empty]; rfl)
      · exact absurd rfl (shaped.plain [] (Or.inr (List.mem_of_getLast? last))).1
  have fits := shaped.fits
  unfold aroundSkip
  dsimp only
  rw [highFull, lowFull, if_neg ends, if_neg (by omega)]
  cases high.mapM parseHextet with
  | none => rfl
  | some highGroups =>
      cases low.mapM parseHextet with
      | none => rfl
      | some lowGroups => rfl

theorem parseV6_eq (shaped : Shaped high low) :
    parseV6 (compressedText high low) = aroundSkip high (if low = [] then [[]] else low) := by
  have positive : 0 < high.length := List.length_pos_of_ne_nil shaped.nonempty
  have fits := shaped.fits
  have tailLength : (if low = [] then [[]] else low).length = max 1 low.length := by
    split
    · next empty =>
      rw [empty]
      rfl
    · next nonempty =>
      have positive := List.length_pos_of_ne_nil nonempty
      omega
  have length : (compressedParts high low).length = high.length + 1 + max 1 low.length := by
    rw [compressedParts, List.length_append, List.length_cons, tailLength]
    omega
  have noDot : expandSuffix (compressedParts high low) = some (compressedParts high low) := by
    unfold expandSuffix
    dsimp only
    rw [if_neg]
    intro dot
    have nonempty : compressedParts high low ≠ [] := by simp [compressedParts]
    rw [List.getLastD_eq_getLast?, List.getLast?_eq_some_getLast nonempty] at dot
    exact shaped.parts_chars (List.getLast_mem nonempty) '.' dot (by simp)
  unfold parseV6
  dsimp only
  rw [compressedText_eq shaped.nonempty, shaped.splitOn_parts, if_neg (by omega), noDot,
    Option.bind_some, groupsOf, if_neg (by omega), shaped.skips_eq]
  dsimp only
  rw [compressedParts, List.take_left, ← List.drop_drop, List.drop_left]
  rfl

theorem mark_not_mem (shaped : Shaped high low) {mark : Char} (isMark : mark ∈ ['.', '/', '%']) :
    mark ∉ compressedText high low := by
  intro mem
  rw [compressedText_eq shaped.nonempty] at mem
  obtain rfl | ⟨part, isPart, inPart⟩ := mem_intercalate mem
  · exact absurd isMark (by decide)
  · exact shaped.parts_chars isPart mark inPart (List.mem_cons_of_mem _ isMark)

/-- The text is read part by part. -/
theorem ofText_eq (shaped : Shaped high low) : ofText (String.ofList (compressedText high low)) =
    (aroundSkip high (if low = [] then [[]] else low)).map fun groups => .v6 groups none := by
  have notV4 : parseV4 (compressedText high low) = none := by
    rw [parseV4, List.splitOn_eq_singleton (shaped.mark_not_mem (by decide)), if_neg]
    exact Nat.succ_ne_succ_iff.mpr (by decide)
  have noScope : splitScope (compressedText high low) = some (compressedText high low, none) := by
    have dropped : (compressedText high low).dropWhile (· ≠ '%') = [] := by
      rw [List.dropWhile_eq_nil_iff]
      intro char mem
      rw [decide_eq_true_eq]
      rintro rfl
      exact shaped.mark_not_mem (by decide) mem
    rw [splitScope, dropped]
  unfold ofText
  dsimp only
  rw [String.toList_ofList, if_neg (shaped.mark_not_mem (by decide)), notV4, noScope]
  change (parseV6 (compressedText high low)).bind _ = _
  rw [shaped.parseV6_eq]
  cases aroundSkip high (if low = [] then [[]] else low) with
  | none => rfl
  | some groups => rfl

/-- So is the address of a prefix. -/
theorem readPrefix_eq (shaped : Shaped high low) {length : List Char} (nonempty : length ≠ [])
    (digits : length.all Char.isDigit) :
    readPrefix (String.ofList (compressedText high low ++ '/' :: length)) =
      (ofText (String.ofList (compressedText high low))).map fun address =>
        (address, Nat.ofDigitChars 10 length 0) := by
  have parts : compressedText high low ++ '/' :: length =
      ['/'].intercalate [compressedText high low, length] := by simp
  have noSlash : ∀ part ∈ [compressedText high low, length], '/' ∉ part := by
    intro part mem
    simp only [List.mem_cons, List.not_mem_nil, or_false] at mem
    rcases mem with rfl | rfl
    · exact shaped.mark_not_mem (by decide)
    · intro slash
      exact absurd (List.all_eq_true.mp digits '/' slash) (by decide)
  rw [readPrefix, String.toList_ofList, parts,
    List.splitOn_intercalate '/' noSlash (List.cons_ne_nil _ _)]
  dsimp only
  rw [if_pos ⟨nonempty, digits⟩]

end Shaped

/-- Groups that are read, and the text's shape. -/
structure Spelled (high low : List (List Char)) (highGroups lowGroups : List Nat) : Prop where
  nonempty : high ≠ []
  fits : high.length + low.length < 8
  highRead : high.mapM parseHextet = some highGroups
  lowRead : low.mapM parseHextet = some lowGroups

namespace Spelled

variable {high low : List (List Char)} {highGroups lowGroups : List Nat}

theorem shaped (spelled : Spelled high low highGroups lowGroups) : Shaped high low where
  nonempty := spelled.nonempty
  fits := spelled.fits
  plain := by
    rintro part (inHigh | inLow)
    · obtain ⟨_, read⟩ := exists_of_mapM_eq_some spelled.highRead inHigh
      exact plain_of_parseHextet read
    · obtain ⟨_, read⟩ := exists_of_mapM_eq_some spelled.lowRead inLow
      exact plain_of_parseHextet read

/-- The address of the groups, with zeros for the `::`. -/
def groups (highGroups lowGroups : List Nat) : List Nat :=
  highGroups ++ List.replicate (8 - (highGroups.length + lowGroups.length)) 0 ++ lowGroups

/-- The text is read as its groups. -/
theorem ofText_eq (spelled : Spelled high low highGroups lowGroups) :
    ofText (String.ofList (compressedText high low)) = some (.v6 (groups highGroups lowGroups) none) := by
  rw [spelled.shaped.ofText_eq, spelled.shaped.aroundSkip_eq, spelled.highRead, spelled.lowRead,
    groups, length_of_mapM_eq_some spelled.highRead,
    length_of_mapM_eq_some spelled.lowRead]
  rfl

/-- So is a prefix of it. -/
theorem readPrefix_eq (spelled : Spelled high low highGroups lowGroups) {length : List Char}
    (nonempty : length ≠ []) (digits : length.all Char.isDigit) :
    readPrefix (String.ofList (compressedText high low ++ '/' :: length)) =
      some (.v6 (groups highGroups lowGroups) none, Nat.ofDigitChars 10 length 0) := by
  rw [spelled.shaped.readPrefix_eq nonempty digits, spelled.ofText_eq]
  rfl

end Spelled

/-! ## What is read -/

theorem hexValue?_lt {char : Char} {digit : Nat} (read : hexValue? char = some digit) :
    digit < 16 := by
  unfold hexValue? at read
  split at read
  · next decimal =>
    obtain rfl := Option.some.inj read
    have upper : char.toNat ≤ 57 := (Char.isDigit_iff_toNat.mp decimal).2
    change char.toNat - 48 < 16
    omega
  · split at read
    · next lower =>
      obtain rfl := Option.some.inj read
      have upper : char.toNat ≤ 102 := lower.2
      change char.toNat - 97 + 10 < 16
      omega
    · split at read
      · next capital =>
        obtain rfl := Option.some.inj read
        have upper : char.toNat ≤ 70 := capital.2
        change char.toNat - 65 + 10 < 16
        omega
      · cases read

/-- What a list is read as has been read from its parts. -/
theorem forall_of_mapM_eq_some {α β : Type} {read : α → Option β} {holds : β → Prop}
    (each : ∀ part value, read part = some value → holds value) {parts : List α} {values : List β}
    (all : parts.mapM read = some values) : ∀ value ∈ values, holds value := by
  induction parts generalizing values with
  | nil =>
      obtain rfl := Option.some.inj all
      exact fun _ mem => absurd mem List.not_mem_nil
  | cons first rest ih =>
      rw [List.mapM_cons] at all
      obtain ⟨value, isValue, afterValue⟩ := Option.bind_eq_some_iff.mp all
      obtain ⟨others, restRead, joined⟩ := Option.bind_eq_some_iff.mp afterValue
      obtain rfl := Option.some.inj joined
      exact List.forall_mem_cons.mpr ⟨each first value isValue, ih restRead⟩

theorem foldl_digits_lt {digits : List Nat} (small : ∀ digit ∈ digits, digit < 16) (start : Nat) :
    digits.foldl (fun total digit => 16 * total + digit) start < (start + 1) * 16 ^ digits.length := by
  induction digits generalizing start with
  | nil => simp
  | cons digit rest ih =>
      obtain ⟨here, later⟩ := List.forall_mem_cons.mp small
      calc rest.foldl (fun total digit => 16 * total + digit) (16 * start + digit)
          < (16 * start + digit + 1) * 16 ^ rest.length := ih later _
        _ ≤ ((start + 1) * 16) * 16 ^ rest.length := Nat.mul_le_mul_right _ (by omega)
        _ = (start + 1) * 16 ^ (digit :: rest).length := by
            rw [List.length_cons, pow_succ, mul_assoc, mul_comm 16]

theorem parseHextet_lt {text : List Char} {group : Nat} (read : parseHextet text = some group) :
    group < 65536 := by
  unfold parseHextet at read
  split at read
  · cases read
  · next shape =>
    obtain ⟨digits, digitsRead, folded⟩ := Option.bind_eq_some_iff.mp read
    obtain rfl := Option.some.inj folded
    have short : digits.length ≤ 4 := by
      rw [length_of_mapM_eq_some digitsRead]
      exact Nat.not_lt.mp fun long => shape (Or.inr long)
    have small := forall_of_mapM_eq_some (fun _ _ => hexValue?_lt) digitsRead
    calc digits.foldl (fun total digit => 16 * total + digit) 0
        < (0 + 1) * 16 ^ digits.length := foldl_digits_lt small 0
      _ ≤ (0 + 1) * 16 ^ 4 := Nat.mul_le_mul_left _ (Nat.pow_le_pow_right (by decide) short)
      _ = 65536 := by decide

theorem groupsOf_lt {parts : List (List Char)} {groups : List Nat}
    (read : groupsOf parts = some groups) : ∀ group ∈ groups, group < 65536 := by
  have each (part : List Char) (group : Nat) (isGroup : parseHextet part = some group) :
      group < 65536 := parseHextet_lt isGroup
  unfold groupsOf at read
  split at read
  · cases read
  · split at read
    · split at read
      · exact forall_of_mapM_eq_some each read
      · cases read
    · unfold aroundSkip at read
      dsimp only at read
      split at read
      · cases read
      · split at read
        · cases read
        · obtain ⟨highGroups, highRead, afterHigh⟩ := Option.bind_eq_some_iff.mp read
          obtain ⟨lowGroups, lowRead, joined⟩ := Option.bind_eq_some_iff.mp afterHigh
          obtain rfl := Option.some.inj joined
          intro group mem
          simp only [List.mem_append] at mem
          rcases mem with (inHigh | inSkip) | inLow
          · exact forall_of_mapM_eq_some each highRead group inHigh
          · rw [List.eq_of_mem_replicate inSkip]
            decide
          · exact forall_of_mapM_eq_some each lowRead group inLow
    · cases read

/-- The groups of an address fit in sixteen bits. -/
theorem ofText_v6_lt {text : String} {groups : List Nat} {scope : Option (List Char)}
    (read : ofText text = some (.v6 groups scope)) : ∀ group ∈ groups, group < 65536 := by
  unfold ofText at read
  dsimp only at read
  split at read
  · cases read
  · split at read
    · cases read
    · obtain ⟨⟨address, zone⟩, _, afterSplit⟩ := Option.bind_eq_some_iff.mp read
      obtain ⟨parsed, isParsed, built⟩ := Option.bind_eq_some_iff.mp afterSplit
      cases built
      unfold parseV6 at isParsed
      dsimp only at isParsed
      split at isParsed
      · cases isParsed
      · obtain ⟨parts, _, isGroups⟩ := Option.bind_eq_some_iff.mp isParsed
        exact groupsOf_lt isGroups

end Srv6Fabric.IpAddress

import Srv6Fabric.PyStr

/-!
# IP addresses

`ipaddress.ip_address(text)` and the text it prints an address with.
-/

namespace Srv6Fabric

/-- An address of either version; an IPv6 address as its eight groups. -/
inductive IpAddress where
  | v4 (octets : List Nat)
  | v6 (hextets : List Nat) (scope : Option (List Char))
  deriving DecidableEq

namespace IpAddress

/-! ## Reading -/

/-- `IPv4Address._parse_octet`. -/
def parseOctet (text : List Char) : Option Nat :=
  let octet := Nat.ofDigitChars 10 text 0
  if text ≠ [] ∧ text.all Char.isDigit ∧ text.length ≤ 3 ∧
      (text = ['0'] ∨ text.head? ≠ some '0') ∧ octet ≤ 255 then
    some octet
  else none

/-- The octets of an IPv4 address. -/
def parseV4 (text : List Char) : Option (List Nat) :=
  let octets := text.splitOn '.'
  if octets.length = 4 then octets.mapM parseOctet else none

def hexValue? (char : Char) : Option Nat :=
  if char.isDigit then some (char.toNat - '0'.toNat)
  else if 'a' ≤ char ∧ char ≤ 'f' then some (char.toNat - 'a'.toNat + 10)
  else if 'A' ≤ char ∧ char ≤ 'F' then some (char.toNat - 'A'.toNat + 10)
  else none

/-- `_parse_hextet`. -/
def parseHextet (text : List Char) : Option Nat :=
  if text = [] ∨ 4 < text.length then none
  else do return (← text.mapM hexValue?).foldl (fun total digit => 16 * total + digit) 0

/-- The parts with an IPv4 suffix written as two groups. -/
def expandSuffix (parts : List (List Char)) : Option (List (List Char)) :=
  let last := parts.getLastD []
  if '.' ∈ last then do
    match ← parseV4 last with
    | [first, second, third, fourth] =>
        some (parts.dropLast ++ [Nat.toDigits 16 (256 * first + second),
          Nat.toDigits 16 (256 * third + fourth)])
    | _ => none
  else some parts

/-- Where the parts between the first and the last are empty. -/
def skips (parts : List (List Char)) : List Nat :=
  (List.range parts.length).filter fun index =>
    0 < index ∧ index < parts.length - 1 ∧ parts[index]? = some []

/-- The groups around the `::`; an empty end only belongs to it. -/
def aroundSkip (before after : List (List Char)) : Option (List Nat) :=
  let high := before.filter (· ≠ [])
  let low := after.filter (· ≠ [])
  if before.head? = some [] ∧ before.length ≠ 1 ∨ after.getLast? = some [] ∧ after.length ≠ 1 then
    none
  else if 8 ≤ high.length + low.length then none
  else do
    let highGroups ← high.mapM parseHextet
    let lowGroups ← low.mapM parseHextet
    return highGroups ++ List.replicate (8 - (high.length + low.length)) 0 ++ lowGroups

/-- The groups the parts between the colons denote. -/
def groupsOf (parts : List (List Char)) : Option (List Nat) :=
  if 9 < parts.length then none
  else
    match skips parts with
    | [] => if parts.length = 8 then parts.mapM parseHextet else none
    | [skip] => aroundSkip (parts.take skip) (parts.drop (skip + 1))
    | _ => none

/-- `_BaseV6._ip_int_from_string`, group by group. -/
def parseV6 (text : List Char) : Option (List Nat) :=
  let parts := text.splitOn ':'
  if parts.length < 3 then none else (expandSuffix parts).bind groupsOf

/-- `_split_scope_id`. -/
def splitScope (text : List Char) : Option (List Char × Option (List Char)) :=
  match text.dropWhile (· ≠ '%') with
  | [] => some (text, none)
  | _ :: scope =>
      if scope = [] ∨ '%' ∈ scope then none else some (text.takeWhile (· ≠ '%'), some scope)

/-- `ipaddress.ip_address(text)`; no error text is read. -/
def ofText (text : String) : Option IpAddress :=
  let chars := text.toList
  if '/' ∈ chars then none
  else
    match parseV4 chars with
    | some octets => some (.v4 octets)
    | none => do
        let (address, scope) ← splitScope chars
        return .v6 (← parseV6 address) scope

/-! ## Printing -/

/-- The state of the search for the longest run of zeros. -/
structure ZeroRun where
  start : Option Nat := none
  length : Nat := 0
  bestStart : Nat := 0
  bestLength : Nat := 0

/-- One round of the search. -/
def ZeroRun.next (run : ZeroRun) (group : Nat × Nat) : ZeroRun :=
  if group.1 = 0 then
    let start := run.start.getD group.2
    let length := run.length + 1
    if run.bestLength < length then ⟨some start, length, start, length⟩
    else { run with start := some start, length }
  else { run with start := none, length := 0 }

/-- `_compress_hextets`. -/
def compress (hextets : List Nat) : List (List Char) :=
  let texts := hextets.map (Nat.toDigits 16)
  let run := hextets.zipIdx.foldl ZeroRun.next {}
  if 1 < run.bestLength then
    let stop := run.bestStart + run.bestLength
    (if run.bestStart = 0 then [[]] else []) ++ texts.take run.bestStart ++ [[]] ++
      texts.drop stop ++ (if stop = texts.length then [[]] else [])
  else texts

/-- `str(address)`. -/
def str : IpAddress → String
  | v4 octets => String.ofList (['.'].intercalate (octets.map (Nat.toDigits 10)))
  | v6 hextets scope =>
      let text := [':'].intercalate (compress hextets)
      match scope with
      | none => String.ofList text
      | some scope => String.ofList (text ++ ['%'] ++ scope)

/-! ## Printed groups -/

theorem hexValue?_digitChar {digit : Nat} (small : digit < 16) :
    hexValue? digit.digitChar = some digit := by
  have all : ∀ digit : Fin 16, hexValue? (digit : Nat).digitChar = some (digit : Nat) := by
    decide
  exact all ⟨digit, small⟩

/-- The digits of a printed number, and the number they make. -/
theorem mapM_hexValue?_toDigits (n : Nat) :
    ∃ digits, (Nat.toDigits 16 n).mapM hexValue? = some digits ∧
      digits.foldl (fun total digit => 16 * total + digit) 0 = n := by
  induction n using Nat.strongRecOn with
  | ind n ih =>
      by_cases small : n < 16
      · refine ⟨[n], ?_, by simp⟩
        rw [Nat.toDigits_of_lt_base small, List.mapM_cons, hexValue?_digitChar small]
        rfl
      · obtain ⟨front, read, value⟩ := ih (n / 16) (by omega)
        refine ⟨front ++ [n % 16], ?_, ?_⟩
        · rw [Nat.toDigits_of_base_le (by decide) (by omega), List.mapM_append, read, List.mapM_cons,
            hexValue?_digitChar (Nat.mod_lt n (by decide))]
          rfl
        · rw [List.foldl_append, value, List.foldl_cons, List.foldl_nil]
          omega

theorem toDigits_injective {n m : Nat} (same : Nat.toDigits 16 n = Nat.toDigits 16 m) : n = m := by
  obtain ⟨digits, read, value⟩ := mapM_hexValue?_toDigits n
  obtain ⟨others, readOther, otherValue⟩ := mapM_hexValue?_toDigits m
  rw [← same, read] at readOther
  rw [← value, ← otherValue, Option.some.inj readOther]

/-- The characters of a hexadecimal number. -/
theorem mem_toDigits {n : Nat} {char : Char} (mem : char ∈ Nat.toDigits 16 n) :
    ∃ digit < 16, char = digit.digitChar := by
  induction n using Nat.strongRecOn with
  | ind n ih =>
      by_cases small : n < 16
      · rw [Nat.toDigits_of_lt_base small, List.mem_singleton] at mem
        exact ⟨n, small, mem⟩
      · rw [Nat.toDigits_of_base_le (by decide) (by omega), List.mem_append] at mem
        rcases mem with front | last
        · exact ih (n / 16) (by omega) front
        · exact ⟨n % 16, Nat.mod_lt n (by decide), List.mem_singleton.mp last⟩

theorem parseHextet_toDigits {n : Nat} (small : n < 65536) :
    parseHextet (Nat.toDigits 16 n) = some n := by
  have short : (Nat.toDigits 16 n).length ≤ 4 :=
    (Nat.length_toDigits_le_iff (by decide) (by decide)).mpr small
  obtain ⟨digits, read, value⟩ := mapM_hexValue?_toDigits n
  rw [parseHextet, if_neg, read]
  · simp [value]
  · simp [short]

end IpAddress

end Srv6Fabric

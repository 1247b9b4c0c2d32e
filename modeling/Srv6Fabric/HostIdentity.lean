import Srv6Fabric.AddressText
import Srv6Fabric.Report

/-!
# Host names and inner addresses

What the report reads back from them: the id in a host name, and the canonical spelling of
an inner address, which drops leading zeros and keeps different hosts of a tenant apart.
-/

namespace Srv6Fabric

open IpAddress

/-! ## Names -/

theorem afterLast_of_not_mem {first : Char} {tail text : List Char} (absent : first ∉ text) :
    afterLast (first :: tail) text = none := by
  induction text with
  | nil => rfl
  | cons char rest ih =>
      obtain ⟨other, restAbsent⟩ := not_or.mp (mt List.mem_cons.mpr absent)
      rw [afterLast, ih restAbsent]
      simp [List.isPrefixOf, other]

/-- A separator is the last one when its first character does not come again. -/
theorem afterLast_append {first : Char} {tail text : List Char} (front : List Char)
    (absent : first ∉ tail ++ text) :
    afterLast (first :: tail) (front ++ (first :: tail ++ text)) = some text := by
  induction front with
  | nil =>
      rw [List.nil_append, List.cons_append, afterLast, afterLast_of_not_mem absent]
      simp
  | cons char rest ih => rw [List.cons_append, afterLast, ih]

theorem twoDigits_toList (n : Nat) : (Topo.twoDigits n).toList =
    if n < 10 then '0' :: Nat.toDigits 10 n else Nat.toDigits 10 n := by
  unfold Topo.twoDigits
  split
  · change ("0" ++ Nat.repr n).toList = _
    rw [String.toList_append, Nat.toList_repr]
    rfl
  · exact Nat.toList_repr

theorem hostName_toList (tenant : String) (hostId : Nat) : (Topo.hostName tenant hostId).toList =
    tenant.toList ++ (['-', 'h', 'o', 's', 't'] ++ (Topo.twoDigits hostId).toList) := by
  change (tenant ++ "-host" ++ Topo.twoDigits hostId).toList = _
  rw [String.toList_append, String.toList_append, List.append_assoc]
  rfl

theorem twoDigits_isDigit {n : Nat} {char : Char} (mem : char ∈ (Topo.twoDigits n).toList) :
    char.isDigit := by
  rw [twoDigits_toList] at mem
  split at mem
  · rcases List.mem_cons.mp mem with rfl | digit
    · rfl
    · exact Nat.isDigit_of_mem_toDigits (by decide) (by decide) digit
  · exact Nat.isDigit_of_mem_toDigits (by decide) (by decide) mem

/-- The number two digits spell. -/
theorem ofDigitChars_twoDigits (n : Nat) :
    Nat.ofDigitChars 10 (Topo.twoDigits n).toList 0 = n := by
  rw [twoDigits_toList]
  split
  · rw [Nat.ofDigitChars_cons]
    exact Nat.ofDigitChars_ten_toDigits
  · exact Nat.ofDigitChars_ten_toDigits

theorem afterLast_hostName (tenant : String) (hostId : Nat) :
    afterLast ['h', 'o', 's', 't'] (Topo.hostName tenant hostId).toList =
      some (Topo.twoDigits hostId).toList := by
  have noH : 'h' ∉ ['o', 's', 't'] ++ (Topo.twoDigits hostId).toList := by
    rw [List.mem_append]
    rintro (tail | digit)
    · exact absurd tail (by decide)
    · exact Bool.false_ne_true (twoDigits_isDigit digit)
  rw [hostName_toList]
  change afterLast ('h' :: ['o', 's', 't']) (tenant.toList ++
    ('-' :: ('h' :: ['o', 's', 't'] ++ (Topo.twoDigits hostId).toList))) = _
  rw [List.append_cons, afterLast_append _ noH]

/-- The host id that a host name ends in. -/
theorem hostId?_hostName (tenant : String) {hostId : Nat}
    (short : (Nat.toDigits 10 hostId).length ≤ maxStrDigits) :
    ScenarioReport.hostId? (Topo.hostName tenant hostId) = some (hostId : Int) := by
  have nonempty : (Topo.twoDigits hostId).toList ≠ [] := by
    rw [twoDigits_toList]
    split
    · exact List.cons_ne_nil _ _
    · exact Nat.toDigits_ne_nil
  have fits : (Topo.twoDigits hostId).toList.length ≤ maxStrDigits := by
    rw [twoDigits_toList]
    split
    · next small =>
      rw [Nat.toDigits_of_lt_base small]
      change 2 ≤ maxStrDigits
      decide
    · exact short
  change (afterLast ['h', 'o', 's', 't'] (Topo.hostName tenant hostId).toList).bind _ = _
  rw [afterLast_hostName, Option.bind_some, Function.comp_apply,
    intOfText?_digits nonempty (fun _ => twoDigits_isDigit) fits, ofDigitChars_twoDigits]
  rfl

theorem hostName_injective {tenant other : String} {hostId otherId : Nat}
    (same : Topo.hostName tenant hostId = Topo.hostName other otherId) :
    tenant = other ∧ hostId = otherId := by
  have digits := congrArg (fun name : String => afterLast ['h', 'o', 's', 't'] name.toList) same
  rw [afterLast_hostName, afterLast_hostName] at digits
  have ids := congrArg (Nat.ofDigitChars 10 · 0) (Option.some.inj digits)
  rw [ofDigitChars_twoDigits, ofDigitChars_twoDigits] at ids
  subst ids
  have chars := congrArg String.toList same
  rw [hostName_toList, hostName_toList] at chars
  exact ⟨String.toList_inj.mp (List.append_cancel_right chars), rfl⟩

/-! ## Addresses -/

/-- The third group of a tenant's addresses. -/
def tenantGroup (tenant : String) : List Char :=
  if tenant = "green" then ['b', 'b', 'b', 'b'] else ['c', 'c', 'c', 'c']

/-- The parts of an inner address between its colons. -/
def innerParts (tenant : String) (hostId : Nat) : List (List Char) :=
  [['2', '0', '0', '1'], ['d', 'b', '8'], tenantGroup tenant, (Topo.twoHexDigits hostId).toList,
    [], ['2']]

/-- The spelling of an inner address, around the host id. -/
theorem innerText {network : String} (group : List Char)
    (spelled : network.toList = ['2', '0', '0', '1', ':', 'd', 'b', '8', ':'] ++ group ++ [':'])
    (hostId : Nat) : network ++ Topo.twoHexDigits hostId ++ "::2" = String.ofList ([':'].intercalate
      [['2', '0', '0', '1'], ['d', 'b', '8'], group, (Topo.twoHexDigits hostId).toList, [], ['2']]) := by
  rw [← String.toList_inj, String.toList_append, String.toList_append, spelled]
  simp

theorem innerAddr_ok {topo : Topo} {tenant : String} {hostId : Nat} (known : tenant ∈ topo.tenants)
    (inRange : hostId < topo.numLeaves) :
    topo.innerAddr tenant hostId =
      .ok (String.ofList ([':'].intercalate (innerParts tenant hostId))) := by
  have checked : topo.checkHost hostId = .ok hostId := by
    rw [Topo.checkHost, if_pos ⟨Int.natCast_nonneg _, Int.ofNat_lt.mpr inRange⟩]
    rfl
  have tenantOk : topo.checkTenant tenant = .ok () := if_pos known
  rw [Topo.innerAddr, bind_of_ok tenantOk, innerParts, tenantGroup]
  split
  · rw [Topo.greenAnycastAddr, bind_of_ok checked, innerText ['b', 'b', 'b', 'b'] rfl]
  · rw [Topo.yellowAnycastAddr, bind_of_ok checked, innerText ['c', 'c', 'c', 'c'] rfl]

/-! ## Reading -/

theorem twoHexDigits_toList (n : Nat) : (Topo.twoHexDigits n).toList =
    if n < 16 then ['0', n.digitChar] else Nat.toDigits 16 n := by
  unfold Topo.twoHexDigits
  split
  · next small => rw [String.toList_ofList, Nat.toDigits_of_lt_base small]
  · rw [String.toList_ofList]

theorem parseHextet_twoHexDigits (n : Nat) :
    parseHextet (Topo.twoHexDigits n).toList = if n < 65536 then some n else none := by
  rw [twoHexDigits_toList]
  split
  · next small =>
    have digits : ['0', n.digitChar].mapM hexValue? = some [0, n] := by
      rw [List.mapM_cons, List.mapM_cons, hexValue?_digitChar small]
      rfl
    rw [if_pos (by omega), parseHextet, if_neg (by simp), digits]
    simp
  · split
    · next fits => exact parseHextet_toDigits fits
    · next large =>
      have long : ¬ (Nat.toDigits 16 n).length ≤ 4 := fun short =>
        large ((Nat.length_toDigits_le_iff (by decide) (by decide)).mp short)
      rw [parseHextet, if_pos (Or.inr (by omega))]

theorem digits_plain (n : Nat) : Plain (Nat.toDigits 16 n) := by
  have digits : ∀ digit < 16, digit.digitChar ∉ [':', '.', '/', '%'] := by decide
  refine ⟨Nat.toDigits_ne_nil, fun char mem => ?_⟩
  obtain ⟨digit, small, rfl⟩ := mem_toDigits mem
  exact digits digit small

theorem twoHexDigits_plain (n : Nat) : Plain (Topo.twoHexDigits n).toList := by
  rw [twoHexDigits_toList]
  split
  · next small =>
    have last := (digits_plain n).2
    rw [Nat.toDigits_of_lt_base small] at last
    exact ⟨List.cons_ne_nil _ _, List.forall_mem_cons.mpr ⟨by decide, last⟩⟩
  · exact digits_plain n

theorem tenantGroup_plain (tenant : String) : Plain (tenantGroup tenant) := by
  unfold tenantGroup
  split
  · exact ⟨List.cons_ne_nil _ _, forall_mem_of_all rfl⟩
  · exact ⟨List.cons_ne_nil _ _, forall_mem_of_all rfl⟩

/-- An address of a tenant's network, with a group for the host or without one. -/
theorem network_shaped (tenant : String) {host : List (List Char)} (atMostOne : host.length ≤ 1)
    (plain : ∀ part ∈ host, Plain part) :
    Shaped ([['2', '0', '0', '1'], ['d', 'b', '8'], tenantGroup tenant] ++ host) [['2']] where
  nonempty := List.cons_ne_nil _ _
  fits := by
    simp only [List.length_append, List.length_cons, List.length_nil]
    omega
  plain := by
    intro part mem
    simp only [List.mem_append, List.mem_cons, List.not_mem_nil, or_false] at mem
    rcases mem with ((rfl | rfl | rfl) | isHost) | rfl
    · exact ⟨List.cons_ne_nil _ _, forall_mem_of_all rfl⟩
    · exact ⟨List.cons_ne_nil _ _, forall_mem_of_all rfl⟩
    · exact tenantGroup_plain tenant
    · exact plain part isHost
    · exact ⟨List.cons_ne_nil _ _, forall_mem_of_all rfl⟩

theorem inner_shaped (tenant : String) (hostId : Nat) :
    Shaped [['2', '0', '0', '1'], ['d', 'b', '8'], tenantGroup tenant,
      (Topo.twoHexDigits hostId).toList] [['2']] :=
  network_shaped tenant le_rfl (List.forall_mem_singleton.mpr (twoHexDigits_plain hostId))

theorem innerParts_eq (tenant : String) (hostId : Nat) : innerParts tenant hostId =
    compressedParts [['2', '0', '0', '1'], ['d', 'b', '8'], tenantGroup tenant,
      (Topo.twoHexDigits hostId).toList] [['2']] := by
  rw [innerParts, compressedParts, if_neg (List.cons_ne_nil _ _)]
  rfl

theorem splitOn_innerParts (tenant : String) (hostId : Nat) :
    ([':'].intercalate (innerParts tenant hostId)).splitOn ':' = innerParts tenant hostId := by
  rw [innerParts_eq]
  exact (inner_shaped tenant hostId).splitOn_parts

/-- The text of an inner address is that of its groups around the `::`. -/
theorem intercalate_innerParts (tenant : String) (hostId : Nat) :
    [':'].intercalate (innerParts tenant hostId) = compressedText [['2', '0', '0', '1'],
      ['d', 'b', '8'], tenantGroup tenant, (Topo.twoHexDigits hostId).toList] [['2']] := by
  rw [innerParts_eq, compressedText_eq (List.cons_ne_nil _ _)]

/-- The groups of an inner address. -/
def innerGroups (tenant : String) (hostId : Nat) : List Nat :=
  [0x2001, 0xdb8, if tenant = "green" then 0xbbbb else 0xcccc, hostId, 0, 0, 0, 2]

theorem tenantGroup_read (tenant : String) : parseHextet (tenantGroup tenant) =
    some (if tenant = "green" then 0xbbbb else 0xcccc) := by
  unfold tenantGroup
  split
  · rfl
  · rfl

/-- An inner address is read as its groups, unless its host id takes five digits. -/
theorem ofText_inner (tenant : String) (hostId : Nat) :
    ofText (String.ofList ([':'].intercalate (innerParts tenant hostId))) =
      if hostId < 65536 then some (.v6 (innerGroups tenant hostId) none) else none := by
  have first : parseHextet ['2', '0', '0', '1'] = some 0x2001 := by decide
  have second : parseHextet ['d', 'b', '8'] = some 0xdb8 := by decide
  have last : parseHextet ['2'] = some 2 := by decide
  have shaped := inner_shaped tenant hostId
  rw [intercalate_innerParts, shaped.ofText_eq, shaped.aroundSkip_eq]
  simp only [List.mapM_cons, List.mapM_nil, first, second, last, tenantGroup_read,
    parseHextet_twoHexDigits]
  by_cases small : hostId < 65536
  · rw [if_pos small, if_pos small]
    rfl
  · rw [if_neg small, if_neg small]
    rfl

/-! ## Printing -/

/-- The parts of a canonical inner address: host 0 leaves its group to the `::`. -/
def canonicalParts (tenant : String) (hostId : Nat) : List (List Char) :=
  [['2', '0', '0', '1'], ['d', 'b', '8'], tenantGroup tenant] ++
    (if hostId = 0 then [] else [Nat.toDigits 16 hostId]) ++ [[], ['2']]

theorem compress_innerGroups (tenant : String) (hostId : Nat) :
    compress (innerGroups tenant hostId) = canonicalParts tenant hostId := by
  rw [innerGroups, canonicalParts, tenantGroup]
  by_cases zero : hostId = 0
  · subst zero
    split
    · decide
    · decide
  · have run (group : Nat) (nonzero : group ≠ 0) :
        ([0x2001, 0xdb8, group, hostId, 0, 0, 0, 2].zipIdx.foldl ZeroRun.next {}) =
          ⟨none, 0, 4, 3⟩ := by
      simp [ZeroRun.next, nonzero, zero]
    rw [if_neg zero]
    split
    · rw [compress, run _ (by decide)]
      rfl
    · rw [compress, run _ (by decide)]
      rfl

theorem canonAddr_inner (tenant : String) (hostId : Nat) :
    ScenarioReport.canonAddr (String.ofList ([':'].intercalate (innerParts tenant hostId))) =
      String.ofList ([':'].intercalate (canonicalParts tenant hostId)) := by
  rw [ScenarioReport.canonAddr, ofText_inner]
  by_cases small : hostId < 65536
  · rw [if_pos small]
    change String.ofList ([':'].intercalate (compress (innerGroups tenant hostId))) = _
    rw [compress_innerGroups]
  · have same : innerParts tenant hostId = canonicalParts tenant hostId := by
      rw [innerParts, canonicalParts, twoHexDigits_toList, if_neg (by omega), if_neg (by omega)]
      rfl
    rw [if_neg small]
    dsimp only
    rw [same]

theorem splitOn_canonicalParts (tenant : String) (hostId : Nat) :
    ([':'].intercalate (canonicalParts tenant hostId)).splitOn ':' = canonicalParts tenant hostId := by
  refine (network_shaped tenant ?_ ?_).splitOn_parts
  · split
    · exact Nat.zero_le 1
    · exact le_rfl
  · split
    · exact fun _ mem => absurd mem List.not_mem_nil
    · exact List.forall_mem_singleton.mpr (digits_plain hostId)

/-- Different hosts have different canonical addresses. -/
theorem canonicalParts_injective {tenant : String} {hostId other : Nat}
    (same : String.ofList ([':'].intercalate (canonicalParts tenant hostId)) =
      String.ofList ([':'].intercalate (canonicalParts tenant other))) : hostId = other := by
  have parts := congrArg (fun text : String => text.toList.splitOn ':') same
  rw [String.toList_ofList, String.toList_ofList, splitOn_canonicalParts, splitOn_canonicalParts] at parts
  unfold canonicalParts at parts
  split_ifs at parts with zero otherZero otherZero
  · rw [zero, otherZero]
  · simp at parts
  · simp at parts
  · simp only [List.cons_append, List.nil_append, List.cons.injEq, and_true, true_and] at parts
    exact toDigits_injective parts

end Srv6Fabric

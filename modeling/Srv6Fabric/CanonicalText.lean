import Mathlib.Data.List.Induction
import Srv6Fabric.RouteListing

/-!
# Canonical address texts

An IPv6 address is printed with its longest run of zeros as `::`, wherever that run stands.
Whatever the address, its text is read back as the address.
-/

namespace Srv6Fabric.IpAddress

open Routes (mapM_parseHextet mem_compress)

/-! ## The longest run of zeros -/

/-- What the search has found among the groups it has seen. -/
structure ZeroRun.Sound (run : ZeroRun) (groups : List Nat) : Prop where
  current : ∃ front, groups = front ++ List.replicate run.length 0 ∧
    run.start = if run.length = 0 then none else some front.length
  best : ∃ before after, groups = before ++ List.replicate run.bestLength 0 ++ after ∧
    (run.bestLength ≠ 0 → run.bestStart = before.length)

theorem ZeroRun.Sound.next {run : ZeroRun} {groups : List Nat} (sound : run.Sound groups)
    (group : Nat) : (run.next (group, groups.length)).Sound (groups ++ [group]) := by
  obtain ⟨front, split, started⟩ := sound.current
  obtain ⟨before, after, found, bestStarted⟩ := sound.best
  have later : ∃ after, groups ++ [group] = before ++ List.replicate run.bestLength 0 ++ after := by
    refine ⟨after ++ [group], ?_⟩
    rw [found]
    simp
  unfold ZeroRun.next
  dsimp only
  by_cases zero : group = 0
  · subst zero
    have longer : groups ++ [0] = front ++ List.replicate (run.length + 1) 0 := by
      rw [split, List.append_assoc, ← List.replicate_succ']
    have start : run.start.getD groups.length = front.length := by
      rw [started]
      split
      · next none_ => simp [split, none_]
      · rfl
    rw [if_pos rfl]
    split
    · refine ⟨⟨front, longer, ?_⟩, front, [], ?_, fun _ => start⟩
      · dsimp only
        rw [if_neg (Nat.succ_ne_zero _), start]
      · rw [longer, List.append_nil]
    · refine ⟨⟨front, longer, ?_⟩, before, later.choose, later.choose_spec, bestStarted⟩
      dsimp only
      rw [if_neg (Nat.succ_ne_zero _), start]
  · rw [if_neg zero]
    exact ⟨⟨groups ++ [group], by simp, rfl⟩, before, later.choose, later.choose_spec, bestStarted⟩

theorem zeroRun_sound (groups : List Nat) :
    (groups.zipIdx.foldl ZeroRun.next {}).Sound groups := by
  induction groups using List.reverseRecOn with
  | nil => exact ⟨⟨[], rfl, rfl⟩, [], [], rfl, fun absurd_ => absurd rfl absurd_⟩
  | append_singleton groups group ih =>
      rw [List.zipIdx_append, List.foldl_append]
      simpa using ih.next group

/-! ## Parts of a printed address -/

/-- The parts on one side of a `::`; without any, the text ends there. -/
def padded (parts : List (List Char)) : List (List Char) := if parts = [] then [[]] else parts

/-- An address is printed in eight parts, or in those around a run of zeros. -/
theorem compress_cases (groups : List Nat) :
    compress groups = groups.map (Nat.toDigits 16) ∨
      ∃ before after count, 1 < count ∧ groups = before ++ List.replicate count 0 ++ after ∧
        compress groups = padded (before.map (Nat.toDigits 16)) ++ [] ::
          padded (after.map (Nat.toDigits 16)) := by
  unfold compress
  dsimp only
  split
  · next long =>
    right
    obtain ⟨before, after, found, started⟩ := (zeroRun_sound groups).best
    have start := started (by omega)
    generalize (groups.zipIdx.foldl ZeroRun.next {}).bestLength = count at *
    rw [start]
    refine ⟨before, after, count, long, found, ?_⟩
    have texts : groups.map (Nat.toDigits 16) = before.map (Nat.toDigits 16) ++
        (List.replicate count (Nat.toDigits 16 0) ++ after.map (Nat.toDigits 16)) := by
      rw [found]
      simp
    have front : (groups.map (Nat.toDigits 16)).take before.length = before.map (Nat.toDigits 16) := by
      rw [texts, List.take_left' (by simp)]
    have back : (groups.map (Nat.toDigits 16)).drop (before.length + count) =
        after.map (Nat.toDigits 16) := by
      rw [texts, ← List.append_assoc, List.drop_left' (by simp)]
    have isEnd : before.length + count = (groups.map (Nat.toDigits 16)).length ↔ after = [] := by
      rw [texts, ← List.length_eq_zero_iff]
      simp
    have lead : (if before.length = 0 then [[]] else []) ++ before.map (Nat.toDigits 16) =
        padded (before.map (Nat.toDigits 16)) := by
      cases before <;> simp [padded]
    have trail : after.map (Nat.toDigits 16) ++ (if after = [] then [[]] else []) =
        padded (after.map (Nat.toDigits 16)) := by
      cases after <;> simp [padded]
    rw [front, back, if_congr isEnd rfl rfl, lead, List.append_assoc, trail, List.append_assoc]
    rfl
  · exact Or.inl rfl

theorem length_padded (parts : List (List Char)) : (padded parts).length = max 1 parts.length := by
  unfold padded
  split
  · next empty =>
    rw [empty]
    rfl
  · next nonempty =>
    have positive := List.length_pos_of_ne_nil nonempty
    omega

theorem mem_padded {parts : List (List Char)} {part : List Char} (mem : part ∈ padded parts) :
    part = [] ∧ parts = [] ∨ part ∈ parts := by
  unfold padded at mem
  split at mem
  · next empty => exact Or.inl ⟨List.mem_singleton.mp mem, empty⟩
  · exact Or.inr mem

theorem filter_padded {parts : List (List Char)} (plain : ∀ part ∈ parts, Plain part) :
    (padded parts).filter (· ≠ []) = parts := by
  unfold padded
  split
  · next empty =>
    rw [empty]
    rfl
  · exact Shaped.filter_nonempty fun part mem => (plain part mem).1

/-- The `::` is the one empty part inside, also at an end of the text. -/
theorem skips_padded {high low : List (List Char)} (highPlain : ∀ part ∈ high, Plain part)
    (lowPlain : ∀ part ∈ low, Plain part) :
    skips (padded high ++ [] :: padded low) = [(padded high).length] := by
  have highLength := length_padded high
  have lowLength := length_padded low
  refine List.perm_singleton.mp ((List.perm_ext_iff_of_nodup (List.nodup_range.filter _)
    (List.nodup_singleton _)).mpr fun index => ?_)
  rw [List.mem_filter, List.mem_range, List.mem_singleton, decide_eq_true_eq, List.length_append,
    List.length_cons]
  constructor
  · rintro ⟨_, positive, inside, empty⟩
    rcases lt_trichotomy index (padded high).length with before | same | after
    · rw [List.getElem?_append_left before] at empty
      rcases mem_padded (List.mem_of_getElem? empty) with ⟨-, rfl⟩ | mem
      · rw [List.length_nil] at highLength
        omega
      · exact absurd rfl (highPlain [] mem).1
    · exact same
    · rw [List.getElem?_append_right after.le, List.getElem?_cons,
        if_neg (Nat.sub_ne_zero_of_lt after)] at empty
      rcases mem_padded (List.mem_of_getElem? empty) with ⟨-, rfl⟩ | mem
      · rw [List.length_nil] at lowLength
        omega
      · exact absurd rfl (lowPlain [] mem).1
  · rintro rfl
    refine ⟨by omega, by omega, by omega, ?_⟩
    rw [List.getElem?_append_right le_rfl, Nat.sub_self]
    rfl

/-! ## Reading it back -/

theorem plain_toDigits {groups : List Nat} (small : ∀ group ∈ groups, group < 65536) :
    ∀ part ∈ groups.map (Nat.toDigits 16), Plain part := by
  intro part mem
  obtain ⟨group, isGroup, rfl⟩ := List.mem_map.mp mem
  exact plain_of_parseHextet (parseHextet_toDigits (small group isGroup))

/-- Either side of a `::` is no more than the groups that are written on it. -/
theorem aroundSkip_padded {before after : List Nat} (beforeSmall : ∀ group ∈ before, group < 65536)
    (afterSmall : ∀ group ∈ after, group < 65536) {count : Nat} (some_ : 0 < count)
    (eight : before.length + count + after.length = 8) :
    aroundSkip (padded (before.map (Nat.toDigits 16))) (padded (after.map (Nat.toDigits 16))) =
      some (before ++ List.replicate count 0 ++ after) := by
  have highPlain := plain_toDigits beforeSmall
  have lowPlain := plain_toDigits afterSmall
  have ends : ¬ ((padded (before.map (Nat.toDigits 16))).head? = some [] ∧
        (padded (before.map (Nat.toDigits 16))).length ≠ 1 ∨
      (padded (after.map (Nat.toDigits 16))).getLast? = some [] ∧
        (padded (after.map (Nat.toDigits 16))).length ≠ 1) := by
    rintro (⟨first, several⟩ | ⟨last, several⟩)
    · rcases mem_padded (List.mem_of_head? first) with ⟨-, none_⟩ | mem
      · rw [none_] at several
        exact several rfl
      · exact absurd rfl (highPlain [] mem).1
    · rcases mem_padded (List.mem_of_getLast? last) with ⟨-, none_⟩ | mem
      · rw [none_] at several
        exact several rfl
      · exact absurd rfl (lowPlain [] mem).1
  unfold aroundSkip
  dsimp only
  rw [filter_padded highPlain, filter_padded lowPlain, List.length_map, List.length_map, if_neg ends,
    if_neg (by omega), mapM_parseHextet beforeSmall, mapM_parseHextet afterSmall,
    show 8 - (before.length + after.length) = count by omega]
  rfl

theorem groupsOf_compress {groups : List Nat} (eight : groups.length = 8)
    (small : ∀ group ∈ groups, group < 65536) : groupsOf (compress groups) = some groups := by
  rcases compress_cases groups with whole | ⟨before, after, count, long, split, parts⟩
  · have noSkip : skips (groups.map (Nat.toDigits 16)) = [] := by
      refine List.filter_eq_nil_iff.mpr fun index _ => ?_
      rw [decide_eq_true_eq]
      rintro ⟨-, -, empty⟩
      exact (plain_toDigits small [] (List.mem_of_getElem? empty)).1 rfl
    rw [whole, groupsOf, noSkip, List.length_map, if_neg (by omega)]
    dsimp only
    rw [if_pos eight]
    exact mapM_parseHextet small
  · have beforeSmall : ∀ group ∈ before, group < 65536 := fun group mem =>
      small group (by simp [split, mem])
    have afterSmall : ∀ group ∈ after, group < 65536 := fun group mem =>
      small group (by simp [split, mem])
    have lengths : before.length + count + after.length = 8 := by
      rw [← eight, split, List.length_append, List.length_append, List.length_replicate]
    have highLength := length_padded (before.map (Nat.toDigits 16))
    have lowLength := length_padded (after.map (Nat.toDigits 16))
    rw [List.length_map] at highLength lowLength
    rw [parts, groupsOf, skips_padded (plain_toDigits beforeSmall) (plain_toDigits afterSmall),
      if_neg (by rw [List.length_append, List.length_cons]; omega)]
    dsimp only
    rw [List.take_left, ← List.drop_drop, List.drop_left]
    exact (aroundSkip_padded beforeSmall afterSmall (by omega) lengths).trans
      (congrArg some split.symm)

theorem marks_compress {groups : List Nat} {part : List Char} (mem : part ∈ compress groups) :
    ∀ char ∈ part, char ∉ [':', '.', '/', '%'] := by
  have digits : ∀ digit < 16, digit.digitChar ∉ [':', '.', '/', '%'] := by decide
  intro char inPart
  obtain rfl | ⟨group, rfl⟩ := mem_compress mem
  · cases inPart
  · obtain ⟨digit, small, rfl⟩ := mem_toDigits inPart
    exact digits digit small

theorem le_length_compress {groups : List Nat} (eight : groups.length = 8) :
    3 ≤ (compress groups).length := by
  rcases compress_cases groups with whole | ⟨before, after, _, _, _, parts⟩
  · rw [whole, List.length_map]
    omega
  · have highLength := length_padded (before.map (Nat.toDigits 16))
    have lowLength := length_padded (after.map (Nat.toDigits 16))
    rw [parts, List.length_append, List.length_cons]
    omega

section Canonical

variable {groups : List Nat} (eight : groups.length = 8) (small : ∀ group ∈ groups, group < 65536)

theorem mark_not_mem_str {mark : Char} (isMark : mark ∈ ['.', '/', '%']) :
    mark ∉ (v6 groups none).str.toList := by
  intro mem
  change mark ∈ (String.ofList ([':'].intercalate (compress groups))).toList at mem
  rw [String.toList_ofList] at mem
  obtain rfl | ⟨part, isPart, inPart⟩ := mem_intercalate mem
  · exact absurd isMark (by decide)
  · exact marks_compress isPart mark inPart (List.mem_cons_of_mem _ isMark)

include eight small

theorem parseV6_str : parseV6 (v6 groups none).str.toList = some groups := by
  have long := le_length_compress eight
  have split : ([':'].intercalate (compress groups)).splitOn ':' = compress groups :=
    List.splitOn_intercalate ':' (fun part mem colon => marks_compress mem ':' colon List.mem_cons_self)
      (List.ne_nil_of_length_pos (by omega))
  have noSuffix : expandSuffix (compress groups) = some (compress groups) := by
    unfold expandSuffix
    dsimp only
    rw [if_neg]
    intro dot
    have nonempty : compress groups ≠ [] := List.ne_nil_of_length_pos (by omega)
    rw [List.getLastD_eq_getLast?, List.getLast?_eq_some_getLast nonempty] at dot
    exact marks_compress (List.getLast_mem nonempty) '.' dot (by simp)
  change parseV6 (String.ofList ([':'].intercalate (compress groups))).toList = _
  unfold parseV6
  dsimp only
  rw [String.toList_ofList, split, if_neg (by omega), noSuffix, Option.bind_some]
  exact groupsOf_compress eight small

/-- The text of an address is read as the address. -/
theorem ofText_str : ofText (v6 groups none).str = some (.v6 groups none) := by
  have notV4 : parseV4 (v6 groups none).str.toList = none := by
    rw [parseV4, List.splitOn_eq_singleton (mark_not_mem_str (by decide)), if_neg]
    exact Nat.succ_ne_succ_iff.mpr (by decide)
  have noScope : splitScope (v6 groups none).str.toList = some ((v6 groups none).str.toList, none) := by
    have dropped : (v6 groups none).str.toList.dropWhile (· ≠ '%') = [] := by
      rw [List.dropWhile_eq_nil_iff]
      intro char mem
      rw [decide_eq_true_eq]
      rintro rfl
      exact mark_not_mem_str (by decide) mem
    rw [splitScope, dropped]
  unfold ofText
  dsimp only
  rw [if_neg (mark_not_mem_str (by decide)), notV4, noScope]
  simp only [Option.bind_eq_bind, Option.bind_some, parseV6_str eight small]
  rfl

/-- So is the text of a prefix. -/
theorem readPrefix_str (length : Nat) :
    readPrefix ((v6 groups none).str ++ "/" ++ toString length) = some (.v6 groups none, length) := by
  have parts : ((v6 groups none).str ++ "/" ++ toString length).toList =
      ['/'].intercalate [(v6 groups none).str.toList, Nat.toDigits 10 length] := by
    rw [String.toList_append, String.toList_append, show toString length = Nat.repr length from rfl,
      Nat.toList_repr]
    simp
  have digits : ∀ char ∈ Nat.toDigits 10 length, char.isDigit := fun char mem =>
    Nat.isDigit_of_mem_toDigits (by decide) (by decide) mem
  have noSlash : ∀ part ∈ [(v6 groups none).str.toList, Nat.toDigits 10 length], '/' ∉ part := by
    refine List.forall_mem_cons.mpr ⟨mark_not_mem_str (by decide), List.forall_mem_singleton.mpr ?_⟩
    intro slash
    exact absurd (digits '/' slash) (by decide)
  have split := List.splitOn_intercalate '/' noSlash (List.cons_ne_nil _ _)
  rw [readPrefix, parts, split]
  simp only [String.ofList_toList, ofText_str eight small]
  rw [if_pos ⟨Nat.toDigits_ne_nil, List.all_eq_true.mpr digits⟩, Option.map_some,
    Nat.ofDigitChars_ten_toDigits]

end Canonical

end Srv6Fabric.IpAddress

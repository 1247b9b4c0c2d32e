import Srv6Fabric.FloatChars
import Srv6Fabric.IntText
import Srv6Fabric.Library.TextPattern
import Srv6Fabric.RouteAddresses

/-!
# Listed routes

What `routes list` makes of a line of `ip -6 route`, and the line iproute2 prints for a
route that is installed.
-/

namespace Srv6Fabric.Routes

open Library IpAddress

/-! ## Patterns -/

/-- The characters of `\w`.  The patterns meet it next to ASCII only. -/
structure WordClass where
  is : Char → Bool
  ascii : ∀ char, char.toNat < 128 → is char = (char.isAlphanum || char = '_')

def lit (chars : String) : Pattern := .text id chars.toList

def nonSpace (char : Char) : Bool := !isSpace char

/-- `.` -/
def dot (char : Char) : Bool := char ≠ '\n'

/-- `[0-9a-fA-F]` -/
def hexDigit (char : Char) : Bool := (hexValue? char).isSome

/-- `_RE_SEG6`. -/
def reSeg6 (word : WordClass) : Pattern := .seqs
  [.start, .group "dst" (.many true 1 nonSpace), .many true 1 isSpace, .many false 0 dot,
    .boundary word.is, lit "encap seg6", .boundary word.is, .many false 0 dot,
    .boundary word.is, lit "dev ", .group "dev" (.many true 1 nonSpace), .many false 0 dot,
    .boundary word.is, lit "metric ", .group "metric" (.many true 1 isDecimal)]

/-- `_RE_SEGS_BRACKETED`. -/
def reSegsBracketed (word : WordClass) : Pattern := .seqs
  [.boundary word.is, lit "segs", .many true 1 isSpace, .many true 1 isDecimal,
    .many true 1 isSpace, lit "[", .many true 0 isSpace, .group "1" (.many false 1 nonSpace),
    .many true 0 isSpace, .either (lit "]") (.one isSpace)]

/-- `_RE_SEGS_BARE`. -/
def reSegsBare (word : WordClass) : Pattern := .seqs
  [.boundary word.is, lit "segs", .many true 1 isSpace,
    .group "1" (.many true 1 fun char => hexDigit char || char = ':'),
    .either (.one isSpace) .stop]

/-- `_RE_INNER_GREEN` and `_RE_INNER_YELLOW`, by their first three groups. -/
def reInner (network : String) : Pattern := .seqs
  [.start, lit network, .group "1" (.many true 1 hexDigit), lit "::2", .optional (lit "/128"), .stop]

/-- `_RE_SEGS_SHAPE`; letters of either case match. -/
def reSegsShape : Pattern := .seqs
  [.start, .text Char.toLower "fc00:".toList, .many true 1 hexDigit,
    .text Char.toLower ":f00".toList, .group "1" (.one hexDigit), .text Char.toLower ":".toList]

/-! ## Reading a line -/

/-- `_extract_segs`. -/
def extractSegs (word : WordClass) (line : List Char) : Option (List Char) :=
  match (reSegsBracketed word).search line with
  | some captures => captures.lookup "1"
  | none => ((reSegsBare word).search line).bind (List.lookup "1")

/-- `int(digits, 16)`. -/
def intOfHex? (digits : List Char) : Option Nat :=
  (digits.mapM hexValue?).map (List.foldl (fun total digit => 16 * total + digit) 0)

/-- The first group of a match at the start, as a hexadecimal number. -/
def hexGroup? (pattern : Pattern) (text : List Char) : Option Nat := do
  intOfHex? (← List.lookup "1" (← pattern.matchText text))

/-- `_decode_inner_dst`. -/
def decodeInnerDst (dst : List Char) : Option (String × Nat) :=
  [("2001:db8:bbbb:", "green"), ("2001:db8:cccc:", "yellow")].findSome? fun (network, tenant) =>
    (hexGroup? (reInner network) dst).map fun id => (tenant, id)

/-- `_decode_spine_from_segs`. -/
def decodeSpineFromSegs (segs : Option (List Char)) : Option Nat := do
  let segs ← segs
  if segs = [] then none else hexGroup? reSegsShape segs

/-- `text.removeprefix(stem)`. -/
def removePrefix (stem text : String) : String :=
  if stem.toList.isPrefixOf text.toList then String.ofList (text.toList.drop stem.toList.length)
  else text

/-- A record of `cmd_list`. -/
structure ListedRoute where
  tenant : String
  dstId : Nat
  spine : Nat
  plane : Int
  dev : String
  metric : Nat
  deriving DecidableEq, Repr

/-- What becomes of a line. -/
inductive Listing where
  | skipped
  /-- `unknown = True`. -/
  | unrecognized
  | route (listed : ListedRoute)
  deriving DecidableEq, Repr

/-- `int(dev.removeprefix("eth")) - 1`, or -1. -/
def planeOf (dev : String) : Int :=
  match intOfText? (removePrefix "eth" dev) with
  | some number => number - 1
  | none => -1

/-- What a matched line adds: a record, or the mark that it is not understood. -/
def recordOf (inner : Option (String × Nat)) (spine : Option Nat) (dev : String) (metric : Nat) :
    Listing :=
  match inner, spine with
  | some (tenant, dstId), some spine =>
      .route { tenant, dstId, spine, plane := planeOf dev, dev, metric }
  | _, _ => .unrecognized

/-- One round of the loop of `cmd_list` over a host's lines. -/
def listLine (word : WordClass) (line : String) : Except PyError Listing :=
  match (reSeg6 word).matchText line.toList with
  | none => .ok .skipped
  | some captures => do
      let field := fun name => (captures.lookup name).getD []
      let metric ← pyInt (String.ofList (field "metric"))
      return recordOf (decodeInnerDst (field "dst"))
        (decodeSpineFromSegs (extractSegs word line.toList)) (String.ofList (field "dev")) metric

/-- What iproute2 prints for a route, with what it may add at the end. -/
def printedRoute (route : Route) (tail : String) : Option String := do
  let (dst, length) ← readPrefix route.dst
  let segs ← ofText route.segs
  let shown := if length = 128 then dst.str else dst.str ++ "/" ++ toString length
  return shown ++ " encap seg6 mode encap.red segs 1 [ " ++ segs.str ++ " ] dev " ++ route.dev ++
    " metric " ++ toString route.metric ++ tail

/-! ## Characters of a printed address -/

/-- A character that ends no field and begins no word of a line. -/
def Inner (char : Char) : Prop := nonSpace char ∧ char ∉ ['v', 's', ']', '\n']

instance (char : Char) : Decidable (Inner char) := inferInstanceAs (Decidable (_ ∧ _))

theorem inner_toDigits {group : Nat} : ∀ char ∈ Nat.toDigits 16 group, Inner char := by
  have digits : ∀ digit < 16, Inner digit.digitChar := by decide
  intro char mem
  obtain ⟨digit, small, rfl⟩ := mem_toDigits mem
  exact digits digit small

/-- A printed address is made of printed groups. -/
theorem mem_compress {groups : List Nat} {part : List Char} (mem : part ∈ compress groups) :
    part = [] ∨ ∃ group, part = Nat.toDigits 16 group := by
  have text (kept : part ∈ groups.map (Nat.toDigits 16)) : ∃ group, part = Nat.toDigits 16 group := by
    obtain ⟨group, _, same⟩ := List.mem_map.mp kept
    exact ⟨group, same.symm⟩
  have skip {condition : Prop} [Decidable condition]
      (ends : part ∈ if condition then [[]] else []) : part = [] := by
    split at ends
    · exact List.mem_singleton.mp ends
    · cases ends
  unfold compress at mem
  dsimp only at mem
  split at mem
  · simp only [List.mem_append, List.mem_singleton] at mem
    rcases mem with (((first | before) | middle) | after) | last
    · exact Or.inl (skip first)
    · exact Or.inr (text (List.mem_of_mem_take before))
    · exact Or.inl middle
    · exact Or.inr (text (List.mem_of_mem_drop after))
    · exact Or.inl (skip last)
  · exact Or.inr (text mem)

theorem inner_str (groups : List Nat) :
    ∀ char ∈ (IpAddress.v6 groups none).str.toList, Inner char := by
  have colon : Inner ':' := by decide
  intro char mem
  change char ∈ (String.ofList ([':'].intercalate (compress groups))).toList at mem
  rw [String.toList_ofList] at mem
  obtain rfl | ⟨part, isPart, inPart⟩ := mem_intercalate mem
  · exact colon
  · obtain rfl | ⟨group, rfl⟩ := mem_compress isPart
    · cases inPart
    · exact inner_toDigits char inPart

/-! ## Fields of a line -/

namespace WordClass

theorem boundary_at (word : WordClass) (before after : Char) {place : Place}
    (isBefore : place.before = some before) (isAfter : place.rest.head? = some after)
    (ascii : before.toNat < 128 ∧ after.toNat < 128)
    (differ : (before.isAlphanum || before = '_') ≠ (after.isAlphanum || after = '_')) :
    (place.before.any word.is != place.rest.head?.any word.is) = true := by
  rw [isBefore, isAfter, Option.any_some, Option.any_some, word.ascii before ascii.1,
    word.ascii after ascii.2]
  exact bne_iff_ne.mpr differ

end WordClass

/-- The characters of a line, field by field. -/
def lineChars (dst segs dev metric tail : List Char) : List Char :=
  dst ++ ([' '] ++ ("encap seg6".toList ++ ((" mode encap.red segs 1 [ ".toList ++ segs ++ " ] ".toList) ++
    ("dev ".toList ++ (dev ++ ([' '] ++ ("metric ".toList ++ (metric ++ tail))))))))

section Fields

variable {dst segs dev metric tail : List Char}

/-- `dev` does not occur before its own field. -/
theorem clear_dev (segsInner : ∀ char ∈ segs, Inner char) (rest : List Char) : clear "dev ".toList
    (" mode encap.red segs 1 [ ".toList ++ segs ++ " ] ".toList) ("dev ".toList ++ rest) := by
  have isV : "dev ".toList[2]? = some 'v' := rfl
  refine clear_of_not_mem isV ?_
  simp only [List.mem_append, not_or]
  refine ⟨⟨⟨by decide, fun mem => ?_⟩, by decide⟩, ?_⟩
  · exact (segsInner 'v' mem).2 (by decide)
  · change 'v' ∉ ['d', 'e']
    decide

theorem matchText_line (word : WordClass) (dstSome : dst ≠ []) (dstInner : ∀ char ∈ dst, Inner char)
    (segsInner : ∀ char ∈ segs, Inner char) (devSome : dev ≠ [])
    (devWord : ∀ char ∈ dev, nonSpace char) (metricSome : metric ≠ [])
    (metricDigits : ∀ char ∈ metric, isDecimal char) (spaced : ∀ char ∈ tail.head?, char = ' ') :
    (reSeg6 word).matchText (lineChars dst segs dev metric tail) =
      some [("dst", dst), ("dev", dev), ("metric", metric)] := by
  have space : ∀ char ∈ [' '], isSpace char := List.forall_mem_singleton.mpr rfl
  have spaceEnds : ¬ nonSpace ' ' := by decide
  have spaceDot : ∀ char ∈ [' '], dot char := List.forall_mem_singleton.mpr rfl
  have skipped : ∀ char ∈ " mode encap.red segs 1 [ ".toList ++ segs ++ " ] ".toList, dot char := by
    simp only [List.forall_mem_append]
    refine ⟨⟨forall_mem_of_all rfl, fun char mem => ?_⟩, forall_mem_of_all rfl⟩
    have notFeed := (segsInner char mem).2
    simp only [List.mem_cons, not_or] at notFeed
    exact decide_eq_true notFeed.2.2.2.1
  have clearMetric (rest : List Char) : clear "metric ".toList [' '] rest := by
    refine clear_of_not_mem (rfl : "metric ".toList[0]? = some 'm') ?_
    rw [List.take_zero]
    decide
  have tailEnds : ∀ char ∈ tail.head?, ¬ isDecimal char := by
    intro char mem
    rw [spaced char mem]
    decide
  unfold reSeg6 Pattern.matchText lineChars
  refine Pattern.seqs_here rfl ?_
  refine Pattern.seqs_group_greedy (fun char mem => (dstInner char mem).1)
    (List.length_pos_of_ne_nil dstSome) (ends_at spaceEnds) ?_
  refine Pattern.seqs_greedy space le_rfl (ends_at (by decide)) ?_
  refine Pattern.seqs_lazy_nil ?_
  refine Pattern.seqs_here (word.boundary_at ' ' 'e' rfl rfl (by decide) (by decide)) ?_
  refine Pattern.seqs_text (List.map_id _) ?_
  refine Pattern.seqs_here (word.boundary_at '6' ' ' rfl rfl (by decide) (by decide)) ?_
  refine Pattern.seqs_lazy skipped (Nat.zero_le _) (fun front back split nonempty =>
    Pattern.seqs_here_text_none (not_prefix_of_clear (split ▸ clear_dev segsInner _) nonempty)) ?_
  have beforeDev (before : Option Char) :
      Place.last before (" mode encap.red segs 1 [ ".toList ++ segs ++ " ] ".toList) = some ' ' := by
    rw [Place.last_append]
    rfl
  refine Pattern.seqs_here (word.boundary_at ' ' 'd' ?_ rfl (by decide) (by decide)) ?_
  · exact beforeDev (some '6')
  refine Pattern.seqs_text (List.map_id _) ?_
  refine Pattern.seqs_group_greedy devWord (List.length_pos_of_ne_nil devSome) (ends_at spaceEnds) ?_
  refine Pattern.seqs_lazy spaceDot (Nat.zero_le _) (fun front back split nonempty =>
    Pattern.seqs_here_text_none (not_prefix_of_clear (split ▸ clearMetric _) nonempty)) ?_
  refine Pattern.seqs_here (word.boundary_at ' ' 'm' rfl rfl (by decide) (by decide)) ?_
  refine Pattern.seqs_text (List.map_id _) ?_
  refine Pattern.seqs_group_greedy metricDigits (List.length_pos_of_ne_nil metricSome) tailEnds ?_
  exact Pattern.seqs_nil rfl

/-- The text before the segment list. -/
def listHead (dst : List Char) : List Char := dst ++ [' '] ++ "encap seg6 mode encap.red ".toList

/-- `segs` does not occur before its own field. -/
theorem clear_segs (dstInner : ∀ char ∈ dst, Inner char) (rest : List Char) :
    clear "segs".toList (listHead dst) ("segs".toList ++ rest) := by
  have inDst : clear "segs".toList (dst ++ [' ']) ("encap seg6 mode encap.red ".toList ++
      ("segs".toList ++ rest)) := by
    refine clear_of_not_mem (rfl : "segs".toList[0]? = some 's') ?_
    simp only [List.take_zero, List.append_nil, List.mem_append, not_or]
    exact ⟨fun mem => (dstInner 's' mem).2 (by decide), by decide⟩
  rw [listHead, clear_append, inDst, Bool.true_and]
  rfl

/-- A segment list does not end inside an address. -/
theorem not_closed {back rest : List Char} (inner : ∀ char ∈ back, Inner char) (nonempty : back ≠ [])
    (before : Option Char) (next : Captures → Place → Option Captures) :
    (Pattern.seqs [.many true 0 isSpace, .either (lit "]") (.one isSpace)]).first
      ⟨before, back ++ rest⟩ next = none := by
  obtain ⟨char, back, rfl⟩ := List.exists_cons_of_ne_nil nonempty
  obtain ⟨visible, noMark⟩ := inner char List.mem_cons_self
  have notSpace : ¬ isSpace char := by simpa [nonSpace] using visible
  have notBracket : ¬ "]".toList <+: char :: (back ++ rest) := by
    intro bracket
    have same : ']' = char := (List.cons_prefix_cons.mp bracket).1
    exact noMark (by simp [← same])
  rw [List.cons_append, Pattern.first_seqs_cons, Pattern.first_many_zero (ends_at notSpace),
    Pattern.first_seqs_cons]
  exact (Pattern.first_either_right (Pattern.first_text_none notBracket)).trans
    (Pattern.first_one_none (ends_at notSpace))

theorem extractSegs_line (word : WordClass) (dstInner : ∀ char ∈ dst, Inner char)
    (segsSome : segs ≠ []) (segsInner : ∀ char ∈ segs, Inner char) :
    extractSegs word (lineChars dst segs dev metric tail) = some segs := by
  have shape : lineChars dst segs dev metric tail = listHead dst ++ ("segs".toList ++ ([' '] ++
      (['1'] ++ ([' '] ++ ("[".toList ++ ([' '] ++ (segs ++ ([' '] ++ ("]".toList ++ (" dev ".toList ++
        (dev ++ ([' '] ++ ("metric ".toList ++ (metric ++ tail)))))))))))))) := by
    simp [lineChars, listHead]
  have space : ∀ char ∈ [' '], isSpace char := List.forall_mem_singleton.mpr rfl
  have one : ∀ char ∈ ['1'], isDecimal char := List.forall_mem_singleton.mpr rfl
  have beforeSegs : Place.last none (listHead dst) = some ' ' := by
    rw [listHead, Place.last_append]
    rfl
  have found : (reSegsBracketed word).search (lineChars dst segs dev metric tail) =
      some [("1", segs)] := by
    rw [shape]
    refine Pattern.search_skip (fun front back split nonempty => Pattern.seqs_here_text_none
      (not_prefix_of_clear (split ▸ clear_segs dstInner _) nonempty)) ?_
    refine Pattern.seqs_here (word.boundary_at ' ' 's' beforeSegs rfl (by decide) (by decide)) ?_
    refine Pattern.seqs_text (List.map_id _) ?_
    refine Pattern.seqs_greedy space le_rfl (ends_at (by decide)) ?_
    refine Pattern.seqs_greedy one le_rfl (ends_at (by decide)) ?_
    refine Pattern.seqs_greedy space le_rfl (ends_at (by decide)) ?_
    refine Pattern.seqs_text (List.map_id _) ?_
    refine Pattern.seqs_greedy space (Nat.zero_le _) ?_ ?_
    · obtain ⟨char, rest, rfl⟩ := List.exists_cons_of_ne_nil segsSome
      exact ends_at (by simpa [nonSpace] using (segsInner char List.mem_cons_self).1)
    refine Pattern.seqs_group_lazy (fun char mem => (segsInner char mem).1)
      (List.length_pos_of_ne_nil segsSome) (fun front back split nonempty next => ?_) ?_
    · exact not_closed (fun char mem => segsInner char (split ▸ List.mem_append_right front mem))
        nonempty _ next
    refine Pattern.seqs_greedy space (Nat.zero_le _) (ends_at (by decide)) ?_
    rw [Pattern.first_seqs_cons]
    refine Pattern.first_either_left ?_
    exact (Pattern.first_text (List.map_id _)).trans rfl
  rw [extractSegs, found]
  rfl

end Fields

/-! ## Decoding -/

theorem hexDigit_toDigits {number : Nat} : ∀ char ∈ Nat.toDigits 16 number, hexDigit char := by
  intro char mem
  obtain ⟨digit, small, rfl⟩ := mem_toDigits mem
  rw [hexDigit, hexValue?_digitChar small]
  rfl

theorem intOfHex?_toDigits (number : Nat) : intOfHex? (Nat.toDigits 16 number) = some number := by
  obtain ⟨digits, read, value⟩ := mapM_hexValue?_toDigits number
  rw [intOfHex?, read, Option.map_some, value]

/-- The host id of a destination that keeps its group. -/
theorem hexGroup?_reInner {network : String} {id : Nat} :
    hexGroup? (reInner network) (network.toList ++ (Nat.toDigits 16 id ++ "::2".toList)) = some id := by
  have matched : (reInner network).matchText (network.toList ++ (Nat.toDigits 16 id ++ "::2".toList)) =
      some [("1", Nat.toDigits 16 id)] := by
    have positive := List.length_pos_of_ne_nil (Nat.toDigits_ne_nil (b := 16) (n := id))
    unfold reInner Pattern.matchText
    refine Pattern.seqs_here rfl ?_
    refine Pattern.seqs_text (List.map_id _) ?_
    refine Pattern.seqs_group_greedy hexDigit_toDigits positive (ends_at (by decide)) ?_
    rw [← List.append_nil "::2".toList]
    refine Pattern.seqs_text (List.map_id _) ?_
    rw [Pattern.first_seqs_cons]
    refine (Pattern.first_either_right (Pattern.first_text_none (by decide))).trans ?_
    rfl
  rw [hexGroup?, matched]
  exact intOfHex?_toDigits id

theorem hexGroup?_other {network : String} {dst : List Char} (differs : ¬ network.toList <+: dst) :
    hexGroup? (reInner network) dst = none := by
  have missed : (reInner network).matchText dst = none := by
    unfold reInner Pattern.matchText
    exact Pattern.seqs_here_text_none differs
  rw [hexGroup?, missed]
  rfl

/-- The text a host address of a tenant begins with. -/
def network : Tenant → String
  | .green => "2001:db8:bbbb:"
  | .yellow => "2001:db8:cccc:"

theorem canonicalDst_toList (tenant : Tenant) {id : Nat} (nonzero : id ≠ 0) :
    (IpAddress.v6 (innerGroups tenant.name id) none).str.toList =
      (network tenant).toList ++ (Nat.toDigits 16 id ++ "::2".toList) := by
  rw [str_innerGroups, String.toList_ofList, canonicalParts, if_neg nonzero]
  cases tenant with
  | green => simp [tenantGroup, Tenant.name, network]
  | yellow => simp [tenantGroup, Tenant.name, network]

/-- Host 0 leaves no group for the pattern to match. -/
theorem decodeInnerDst_canonical (tenant : Tenant) (id : Nat) :
    decodeInnerDst (IpAddress.v6 (innerGroups tenant.name id) none).str.toList =
      if id = 0 then none else some (tenant.name, id) := by
  by_cases zero : id = 0
  · subst zero
    cases tenant with
    | green => rfl
    | yellow => rfl
  · rw [if_neg zero, canonicalDst_toList tenant zero]
    cases tenant with
    | green =>
        rw [decodeInnerDst, List.findSome?_cons]
        dsimp only
        rw [network, hexGroup?_reInner]
        rfl
    | yellow =>
        have other : ¬ "2001:db8:bbbb:".toList <+:
            "2001:db8:cccc:".toList ++ (Nat.toDigits 16 id ++ "::2".toList) := by
          rw [← List.isPrefixOf_iff_prefix]
          exact Bool.false_ne_true
        rw [decodeInnerDst, List.findSome?_cons, List.findSome?_cons]
        dsimp only
        rw [network, hexGroup?_other other, hexGroup?_reInner]
        rfl

theorem decodeSpineFromSegs_some {segs : List Char} (nonempty : segs ≠ []) :
    decodeSpineFromSegs (some segs) = hexGroup? reSegsShape segs := if_neg nonempty

/-- The spine is the last digit of the third group. -/
theorem decodeSpineFromSegs_canonical (tenant : Tenant) (plane : Nat) {spine : Nat}
    (isSpine : spine < 16) (leaf : Nat) :
    decodeSpineFromSegs (some (IpAddress.v6 (outerGroups tenant plane spine leaf) none).str.toList) =
      some spine := by
  have group : Nat.toDigits 16 (0xf000 + spine) = ['f', '0', '0'] ++ Nat.toDigits 16 spine := by
    have all : ∀ spine < 16, Nat.toDigits 16 (0xf000 + spine) = ['f', '0', '0'] ++ Nat.toDigits 16 spine := by
      decide
    exact all spine isSpine
  have first : Nat.toDigits 16 0xfc00 = ['f', 'c', '0', '0'] := by decide
  obtain ⟨rest, shape⟩ : ∃ rest, (IpAddress.v6 (outerGroups tenant plane spine leaf) none).str.toList =
      "fc00:".toList ++ (Nat.toDigits 16 plane ++ (":f00".toList ++ (spine.digitChar ::
        (":".toList ++ rest)))) := by
    refine ⟨[':'].intercalate (([0xe000 + leaf] ++ lastGroups tenant).map (Nat.toDigits 16)) ++ [':', ':'], ?_⟩
    rw [str_outerGroups, String.toList_ofList, compressedText, pathGroups]
    simp [first, group, Nat.toDigits_of_lt_base isSpine]
  have isDigit : hexDigit spine.digitChar := by
    rw [hexDigit, hexValue?_digitChar isSpine]
    rfl
  have matched : reSegsShape.matchText ("fc00:".toList ++ (Nat.toDigits 16 plane ++ (":f00".toList ++
      (spine.digitChar :: (":".toList ++ rest))))) = some [("1", [spine.digitChar])] := by
    have positive := List.length_pos_of_ne_nil (Nat.toDigits_ne_nil (b := 16) (n := plane))
    unfold reSegsShape Pattern.matchText
    refine Pattern.seqs_here rfl ?_
    refine Pattern.seqs_text rfl ?_
    refine Pattern.seqs_greedy hexDigit_toDigits positive (ends_at (by decide)) ?_
    refine Pattern.seqs_text rfl ?_
    refine Pattern.seqs_group_one isDigit ?_
    refine Pattern.seqs_text rfl ?_
    exact Pattern.seqs_nil rfl
  have read := intOfHex?_toDigits spine
  rw [Nat.toDigits_of_lt_base isSpine] at read
  rw [shape, decodeSpineFromSegs_some (List.append_ne_nil_of_left_ne_nil (by decide) _), hexGroup?,
    matched]
  exact read

/-! ## Reading a printed route -/

theorem printedRoute_eq {topo : Topo} {pair : Pair topo} (planes : topo.numPlanes ≤ 16)
    (leaves : topo.numLeaves ≤ 16) (isSpine : pair.spine < 16) (srcId dstId : Fin topo.numLeaves)
    (plane : Fin topo.numPlanes) (tail : String) :
    printedRoute (pair.route srcId dstId plane) tail = some (String.ofList (lineChars
      (IpAddress.v6 (innerGroups pair.key.tenant.name dstId) none).str.toList
      (IpAddress.v6 (outerGroups pair.key.tenant plane pair.spine dstId) none).str.toList
      (Topo.planeNic plane).toList (Nat.toDigits 10 (100 + plane)) tail.toList)) := by
  have isPlane : (plane : Nat) < 16 := lt_of_lt_of_le plane.isLt planes
  have isLeaf : (dstId : Nat) < 16 := lt_of_lt_of_le dstId.isLt leaves
  have small : (dstId : Nat) < 65536 := by omega
  have segs := ofText_buildSegs pair.key.tenant isPlane isSpine isLeaf
  change (readPrefix (innerRouteDst pair.key.tenant dstId)).bind (fun read =>
    (ofText (buildSegs pair.key.tenant plane pair.spine dstId)).bind _) = _
  rw [readPrefix_inner, if_pos small, segs]
  refine congrArg some ?_
  rw [← String.toList_inj, String.toList_ofList]
  simp [lineChars, Pair.route]

theorem planeNic_toList (plane : Nat) :
    (Topo.planeNic plane).toList = "eth".toList ++ Nat.toDigits 10 (plane + 1) := by
  change ("eth" ++ Nat.repr (plane + 1)).toList = _
  rw [String.toList_append, Nat.toList_repr]

/-- The port of a plane names it. -/
theorem planeOf_planeNic {plane : Nat} (short : plane < 16) :
    planeOf (Topo.planeNic plane) = plane := by
  have digits : removePrefix "eth" (Topo.planeNic plane) = String.ofList (Nat.toDigits 10 (plane + 1)) := by
    rw [removePrefix, planeNic_toList, if_pos (by simp), List.drop_left]
  have fits : (Nat.toDigits 10 (plane + 1)).length ≤ maxStrDigits := by
    have two : (Nat.toDigits 10 (plane + 1)).length ≤ 2 :=
      (Nat.length_toDigits_le_iff (by decide) (by decide)).mpr (by omega)
    exact two.trans (by decide)
  have ascii : ∀ char ∈ Nat.toDigits 10 (plane + 1), char.isDigit := fun char mem =>
    Nat.isDigit_of_mem_toDigits (by decide) (by decide) mem
  rw [planeOf, digits, intOfText?_digits Nat.toDigits_ne_nil ascii fits, Nat.ofDigitChars_ten_toDigits]
  change ((plane + 1 : Nat) : Int) - 1 = plane
  omega

theorem listLine_matched {word : WordClass} {line : String} {dst dev metric : List Char} {number : Nat}
    (matched : (reSeg6 word).matchText line.toList =
      some [("dst", dst), ("dev", dev), ("metric", metric)])
    (isMetric : pyInt (String.ofList metric) = .ok number) :
    listLine word line = .ok (recordOf (decodeInnerDst dst)
      (decodeSpineFromSegs (extractSegs word line.toList)) (String.ofList dev) number) := by
  rw [listLine, matched]
  exact bind_of_ok isMetric

/-- The record a listed route should give. -/
def Pair.listed {topo : Topo} (pair : Pair topo) (dstId : Fin topo.numLeaves)
    (plane : Fin topo.numPlanes) : ListedRoute where
  tenant := pair.key.tenant.name
  dstId := dstId
  spine := pair.spine
  plane := (plane : Nat)
  dev := Topo.planeNic plane
  metric := 100 + plane

/-- The line of a route gives its record, but not for host 0. -/
theorem listLine_printed {topo : Topo} {pair : Pair topo} (word : WordClass)
    (planes : topo.numPlanes ≤ 16) (leaves : topo.numLeaves ≤ 16) (isSpine : pair.spine < 16)
    (srcId dstId : Fin topo.numLeaves) (plane : Fin topo.numPlanes) {tail : String}
    (spaced : ∀ char ∈ tail.toList.head?, char = ' ') :
    ∃ line, printedRoute (pair.route srcId dstId plane) tail = some line ∧
      listLine word line = .ok (if (dstId : Nat) = 0 then .unrecognized
        else .route (pair.listed dstId plane)) := by
  have isPlane : (plane : Nat) < 16 := lt_of_lt_of_le plane.isLt planes
  refine ⟨_, printedRoute_eq planes leaves isSpine srcId dstId plane tail, ?_⟩
  have dstInner := inner_str (innerGroups pair.key.tenant.name dstId)
  have segsInner := inner_str (outerGroups pair.key.tenant plane pair.spine dstId)
  have dstSome : (IpAddress.v6 (innerGroups pair.key.tenant.name dstId) none).str.toList ≠ [] := by
    rw [str_innerGroups, String.toList_ofList]
    exact List.cons_ne_nil _ _
  have segsSome : (IpAddress.v6 (outerGroups pair.key.tenant plane pair.spine dstId) none).str.toList ≠
      [] := by
    rw [str_outerGroups, String.toList_ofList, compressedText]
    simp
  have devSome : (Topo.planeNic plane).toList ≠ [] := by
    rw [planeNic_toList]
    exact List.cons_ne_nil _ _
  have digit {number : Nat} : ∀ char ∈ Nat.toDigits 10 number, char.isDigit := fun char mem =>
    Nat.isDigit_of_mem_toDigits (by decide) (by decide) mem
  have devWord : ∀ char ∈ (Topo.planeNic plane).toList, nonSpace char := by
    rw [planeNic_toList, List.forall_mem_append]
    refine ⟨forall_mem_of_all rfl, fun char mem => ?_⟩
    rw [nonSpace, (PyFloat.visible_of_isDigit (digit char mem)).1]
    rfl
  have fits : (Nat.toDigits 10 (100 + plane)).length ≤ maxStrDigits := by
    have three : (Nat.toDigits 10 (100 + plane)).length ≤ 3 :=
      (Nat.length_toDigits_le_iff (by decide) (by decide)).mpr (by omega)
    exact three.trans (by decide)
  have metricDigits : ∀ char ∈ Nat.toDigits 10 (100 + plane), isDecimal char := fun char mem =>
    isDecimal_of_isDigit (digit char mem)
  have matched := matchText_line word dstSome dstInner segsInner devSome devWord Nat.toDigits_ne_nil
    metricDigits spaced
  rw [← String.toList_ofList (l := lineChars _ _ _ _ _)] at matched
  rw [listLine_matched matched (pyInt_toDigits fits), String.toList_ofList, String.ofList_toList,
    extractSegs_line word dstInner segsSome segsInner, decodeInnerDst_canonical,
    decodeSpineFromSegs_canonical _ _ isSpine]
  split
  · rfl
  · rw [recordOf, planeOf_planeNic isPlane]
    rfl

/-- Both directions of a pair, over all its planes. -/
theorem mem_routes {topo : Topo} {pair : Pair topo} {route : Route} : route ∈ pair.routes ↔
    ∃ srcId dstId plane, (srcId, dstId) ∈ [(pair.key.a, pair.key.b), (pair.key.b, pair.key.a)] ∧
      plane ∈ pair.planes.planes ∧ route = pair.route srcId dstId plane := by
  rw [Pair.routes, List.mem_flatMap]
  constructor
  · rintro ⟨⟨srcId, dstId⟩, direction, mem⟩
    obtain ⟨plane, isPlane, rfl⟩ := List.mem_map.mp mem
    exact ⟨srcId, dstId, plane, direction, isPlane, rfl⟩
  · rintro ⟨srcId, dstId, plane, direction, isPlane, rfl⟩
    exact ⟨(srcId, dstId), direction, List.mem_map_of_mem isPlane⟩

/-- What is applied is listed, unless the destination is host 0. -/
theorem list_reads_back_iff {topo : Topo} {pair : Pair topo} (word : WordClass)
    (planes : topo.numPlanes ≤ 16) (leaves : topo.numLeaves ≤ 16) (isSpine : pair.spine < 16)
    {route : Route} (mem : route ∈ pair.routes) {tail : String}
    (spaced : ∀ char ∈ tail.toList.head?, char = ' ') :
    ∃ srcId dstId plane, (srcId, dstId) ∈ [(pair.key.a, pair.key.b), (pair.key.b, pair.key.a)] ∧
      plane ∈ pair.planes.planes ∧ route = pair.route srcId dstId plane ∧
      ∃ line, printedRoute route tail = some line ∧
        (listLine word line = .ok (.route (pair.listed dstId plane)) ↔ (dstId : Nat) ≠ 0) ∧
        (listLine word line = .ok .unrecognized ↔ (dstId : Nat) = 0) := by
  obtain ⟨srcId, dstId, plane, direction, isPlane, rfl⟩ := mem_routes.mp mem
  obtain ⟨line, printed, listed⟩ := listLine_printed word planes leaves isSpine srcId dstId plane spaced
  refine ⟨srcId, dstId, plane, direction, isPlane, rfl, line, printed, ?_⟩
  rw [listed]
  by_cases zero : (dstId : Nat) = 0
  · rw [if_pos zero]
    simp [zero]
  · rw [if_neg zero]
    simp [zero]

/-- Word characters without those of other scripts. -/
def asciiWord : WordClass := ⟨fun char => char.isAlphanum || char = '_', fun _ _ => rfl⟩

theorem fourPlanes_some : 0 < Topo.fourPlanes.numPlanes := by decide

/-- The reference pair of hosts 0 and 15, over the first plane. -/
def firstPlanePair : Pair Topo.fourPlanes :=
  ⟨outerPair.key, 0, ⟨[⟨0, fourPlanes_some⟩], List.pairwise_singleton _ _⟩⟩

/-- The route to host 15. -/
theorem list_reads_back_fifteen :
    listLine asciiWord ("2001:db8:bbbb:f::2 encap seg6 mode encap.red segs 1 " ++
      "[ fc00:0:f000:e00f:d000:: ] dev eth1 metric 100 pref medium") =
      .ok (.route ⟨"green", 15, 0, 0, "eth1", 100⟩) := by
  have mem : firstPlanePair.route firstPlanePair.key.a firstPlanePair.key.b ⟨0, by decide⟩ ∈
      firstPlanePair.routes := List.mem_cons_self
  have small : firstPlanePair.spine < 16 := by decide
  have spaced : ∀ char ∈ " pref medium".toList.head?, char = ' ' :=
    fun char mem => (Option.some.inj mem).symm
  obtain ⟨srcId, dstId, plane, direction, isPlane, same, line, printed, listed, _⟩ :=
    list_reads_back_iff asciiWord (by decide) (by decide) small mem spaced
  obtain rfl := List.mem_singleton.mp isPlane
  simp only [List.mem_cons, List.not_mem_nil, or_false, Prod.mk.injEq] at direction
  rcases direction with ⟨rfl, rfl⟩ | ⟨rfl, rfl⟩
  · have shown : printedRoute (firstPlanePair.route firstPlanePair.key.a firstPlanePair.key.b
        ⟨0, by decide⟩) " pref medium" = some ("2001:db8:bbbb:f::2 encap seg6 mode encap.red segs 1 " ++
          "[ fc00:0:f000:e00f:d000:: ] dev eth1 metric 100 pref medium") := by
      decide
    rw [shown] at printed
    obtain rfl := Option.some.inj printed
    exact listed.mpr (by decide)
  · exact absurd (congrArg Route.onHost same) (by decide)

/-- The route back to host 0 is not understood. -/
theorem host_zero_unrecognized :
    (⟨"green-host15", "2001:db8:bbbb:00::2/128", "fc00:0000:f000:e000:d000::", "eth1", 100⟩ : Route) ∈
        firstPlanePair.routes ∧
      printedRoute ⟨"green-host15", "2001:db8:bbbb:00::2/128", "fc00:0000:f000:e000:d000::", "eth1", 100⟩
        "" = some ("2001:db8:bbbb::2 encap seg6 mode encap.red segs 1 " ++
          "[ fc00:0:f000:e000:d000:: ] dev eth1 metric 100") ∧
      ∀ word : WordClass, listLine word ("2001:db8:bbbb::2 encap seg6 mode encap.red segs 1 " ++
        "[ fc00:0:f000:e000:d000:: ] dev eth1 metric 100") = .ok .unrecognized := by
  have printed : printedRoute ⟨"green-host15", "2001:db8:bbbb:00::2/128",
      "fc00:0000:f000:e000:d000::", "eth1", 100⟩ "" =
      some ("2001:db8:bbbb::2 encap seg6 mode encap.red segs 1 " ++
          "[ fc00:0:f000:e000:d000:: ] dev eth1 metric 100") := by
    decide
  have small : firstPlanePair.spine < 16 := by decide
  have spaced : ∀ char ∈ "".toList.head?, char = ' ' := nofun
  refine ⟨by decide, printed, fun word => ?_⟩
  obtain ⟨line, shown, listed⟩ := listLine_printed word (by decide) (by decide) small
    firstPlanePair.key.b firstPlanePair.key.a ⟨0, by decide⟩ spaced
  obtain rfl := Option.some.inj (printed.symm.trans shown)
  exact listed

end Srv6Fabric.Routes

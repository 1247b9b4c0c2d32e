import Mathlib.Data.List.Basic
import Mathlib.Data.Option.Basic

/-!
# Text patterns

A backtracking matcher: choices are tried in the order of preference of the pattern, and
the first way through wins.  The rules say which way that is: a greedy run takes all it
can, a lazy run stops at the first place from which the rest of the pattern goes through.
-/

namespace Srv6Fabric.Library

/-- A place in a text: the character before it and the characters after it. -/
structure Place where
  before : Option Char
  rest : List Char

namespace Place

/-- The last of some characters, or the one before them. -/
def last (before : Option Char) (taken : List Char) : Option Char :=
  taken.foldl (fun _ char => some char) before

/-- The places a run of one character class can end at, the shortest run first. -/
def onward (is : Char → Bool) : Option Char → List Char → List Place
  | before, [] => [⟨before, []⟩]
  | before, char :: rest =>
      ⟨before, char :: rest⟩ :: if is char then onward is (some char) rest else []

/-- The characters from a place to a later one. -/
def upTo (place other : Place) : List Char :=
  place.rest.take (place.rest.length - other.rest.length)

end Place

/-- The groups that have matched, with their texts. -/
abbrev Captures := List (String × List Char)

inductive Pattern where
  /-- A condition on the place, which takes no character. -/
  | here (holds : Place → Bool)
  /-- Given characters, compared after `fold`. -/
  | text (fold : Char → Char) (chars : List Char)
  | one (is : Char → Bool)
  | many (greedy : Bool) (least : Nat) (is : Char → Bool)
  | seq (front back : Pattern)
  /-- The first pattern is preferred. -/
  | either (front back : Pattern)
  | group (name : String) (inner : Pattern)

namespace Pattern

/-- The first way through a pattern from which `next` finds something. -/
def first {β : Type} : Pattern → Place → (Captures → Place → Option β) → Option β
  | here holds, place, next => if holds place then next [] place else none
  | text fold chars, place, next =>
      let taken := place.rest.take chars.length
      if taken.map fold = chars then
        next [] ⟨Place.last place.before taken, place.rest.drop chars.length⟩
      else none
  | one is, place, next =>
      match place.rest with
      | [] => none
      | char :: rest => if is char then next [] ⟨some char, rest⟩ else none
  | many greedy least is, place, next =>
      let places := (Place.onward is place.before place.rest).drop least
      (if greedy then places.reverse else places).findSome? (next [])
  | seq front back, place, next =>
      front.first place fun captures middle =>
        back.first middle fun more final => next (captures ++ more) final
  | either front back, place, next => (front.first place next).or (back.first place next)
  | group name inner, place, next =>
      inner.first place fun captures final => next ((name, place.upTo final) :: captures) final

/-- The pattern that takes nothing. -/
def empty : Pattern := here fun _ => true

def seqs (patterns : List Pattern) : Pattern := patterns.foldr seq empty

/-- The start of the text. -/
def start : Pattern := here fun place => place.before.isNone

/-- The end of the text, or a last line feed. -/
def stop : Pattern := here fun place => place.rest = [] ∨ place.rest = ['\n']

/-- A change between word characters and others. -/
def boundary (word : Char → Bool) : Pattern :=
  here fun place => place.before.any word != place.rest.head?.any word

def optional (pattern : Pattern) : Pattern := either pattern empty

/-- A match at the start of the text. -/
def matchText (pattern : Pattern) (text : List Char) : Option Captures :=
  pattern.first ⟨none, text⟩ fun captures _ => some captures

/-- A match anywhere, the first place first. -/
def search (pattern : Pattern) (text : List Char) : Option Captures :=
  (many false 0 fun _ => true).first ⟨none, text⟩ fun _ place =>
    pattern.first place fun captures _ => some captures

end Pattern

/-! ## Places -/

namespace Place

@[simp] theorem last_nil (before : Option Char) : last before [] = before := rfl

@[simp] theorem last_cons (before : Option Char) (char : Char) (rest : List Char) :
    last before (char :: rest) = last (some char) rest := rfl

theorem last_append (before : Option Char) (front back : List Char) :
    last before (front ++ back) = last (last before front) back := List.foldl_append

theorem onward_cons (is : Char → Bool) (before : Option Char) (char : Char) (rest : List Char) :
    onward is before (char :: rest) =
      ⟨before, char :: rest⟩ :: if is char then onward is (some char) rest else [] := rfl

@[simp] theorem upTo_append (before after : Option Char) (run rest : List Char) :
    upTo ⟨before, run ++ rest⟩ ⟨after, rest⟩ = run := by
  simp [upTo]

/-- The places of a run lie inside it until its end is reached. -/
theorem onward_append {is : Char → Bool} {run : List Char} (all : ∀ char ∈ run, is char)
    (before : Option Char) (rest : List Char) :
    ∃ inside, onward is before (run ++ rest) = inside ++ onward is (last before run) rest ∧
      inside.length = run.length ∧ ∀ place ∈ inside, ∃ front back, run = front ++ back ∧
        back ≠ [] ∧ place = ⟨last before front, back ++ rest⟩ := by
  induction run generalizing before with
  | nil => exact ⟨[], rfl, rfl, fun _ mem => absurd mem List.not_mem_nil⟩
  | cons char run ih =>
      obtain ⟨isChar, others⟩ := List.forall_mem_cons.mp all
      obtain ⟨inside, onwards, length, within⟩ := ih others (some char)
      refine ⟨⟨before, char :: run ++ rest⟩ :: inside, ?_, by simp [length], ?_⟩
      · rw [List.cons_append, onward_cons, if_pos isChar, onwards]
        rfl
      · intro place mem
        rcases List.mem_cons.mp mem with rfl | later
        · exact ⟨[], char :: run, rfl, List.cons_ne_nil _ _, rfl⟩
        · obtain ⟨front, back, rfl, nonempty, rfl⟩ := within place later
          exact ⟨char :: front, back, rfl, nonempty, rfl⟩

theorem onward_ends {is : Char → Bool} {rest : List Char} (ends : ∀ char ∈ rest.head?, ¬ is char)
    (before : Option Char) : onward is before rest = [⟨before, rest⟩] := by
  cases rest with
  | nil => rfl
  | cons char rest => rw [onward_cons, if_neg (ends char rfl)]

theorem onward_head (is : Char → Bool) (before : Option Char) (rest : List Char) :
    ∃ later, onward is before rest = ⟨before, rest⟩ :: later := by
  cases rest with
  | nil => exact ⟨[], rfl⟩
  | cons char rest => exact ⟨_, rfl⟩

/-- Every place of a run is further on in the text. -/
theorem mem_onward {is : Char → Bool} {before : Option Char} {rest : List Char} {place : Place}
    (mem : place ∈ onward is before rest) :
    ∃ front back, rest = front ++ back ∧ place = ⟨last before front, back⟩ := by
  induction rest generalizing before with
  | nil => exact ⟨[], [], rfl, List.mem_singleton.mp mem⟩
  | cons char rest ih =>
      rcases List.mem_cons.mp mem with rfl | later
      · exact ⟨[], char :: rest, rfl, rfl⟩
      · split at later
        · obtain ⟨front, back, rfl, rfl⟩ := ih later
          exact ⟨char :: front, back, rfl, rfl⟩
        · cases later

end Place

/-- A run ends before a character of another class. -/
theorem ends_at {is : Char → Bool} {char : Char} {rest : List Char} (other : ¬ is char) :
    ∀ head ∈ (char :: rest).head?, ¬ is head := by
  rintro _ ⟨⟩
  exact other

/-! ## Words that do not occur -/

/-- No occurrence of a word begins inside `skip`. -/
def clear (word : List Char) : List Char → List Char → Bool
  | [], _ => true
  | char :: skip, rest => !word.isPrefixOf (char :: (skip ++ rest)) && clear word skip rest

theorem clear_cons (word : List Char) (char : Char) (skip rest : List Char) :
    clear word (char :: skip) rest =
      (!word.isPrefixOf (char :: (skip ++ rest)) && clear word skip rest) := rfl

theorem clear_append {word skip : List Char} (more rest : List Char) :
    clear word (skip ++ more) rest = (clear word skip (more ++ rest) && clear word more rest) := by
  induction skip with
  | nil => rfl
  | cons char skip ih => simp [clear_cons, ih, Bool.and_assoc]

/-- A character of the word is missing where it would have to stand. -/
theorem clear_of_not_mem {word skip rest : List Char} {index : Nat} {char : Char}
    (isChar : word[index]? = some char) (absent : char ∉ skip ++ rest.take index) :
    clear word skip rest := by
  induction skip with
  | nil => rfl
  | cons other skip ih =>
      have later : char ∉ skip ++ rest.take index := fun mem => absent (List.mem_cons_of_mem _ mem)
      rw [clear_cons, ih later, Bool.and_true, Bool.not_eq_true', Bool.eq_false_iff]
      intro isPrefix
      obtain ⟨tail, occurs⟩ := List.isPrefixOf_iff_prefix.mp isPrefix
      have inText : (other :: (skip ++ rest))[index]? = some char := by
        rw [← occurs, List.getElem?_append_left (List.getElem?_eq_some_iff.mp isChar).1, isChar]
      refine absent ?_
      have near : char ∈ (other :: (skip ++ rest)).take (index + 1) := by
        refine List.mem_of_getElem? (i := index) ?_
        rw [List.getElem?_take_of_lt (Nat.lt_succ_self index), inText]
      rw [List.take_succ_cons, List.take_append] at near
      rcases List.mem_cons.mp near with rfl | mem
      · exact List.mem_cons_self
      · refine List.mem_cons_of_mem _ (List.mem_append.mpr ?_)
        refine (List.mem_append.mp mem).imp List.mem_of_mem_take fun inRest => ?_
        exact (List.take_subset_take_left rest (Nat.sub_le _ _)) inRest

theorem not_prefix_of_clear {word front back rest : List Char}
    (isClear : clear word (front ++ back) rest) (nonempty : back ≠ []) :
    ¬ word <+: back ++ rest := by
  rw [clear_append, Bool.and_eq_true] at isClear
  obtain ⟨char, back, rfl⟩ := List.exists_cons_of_ne_nil nonempty
  have notHere := isClear.2
  rw [clear_cons, Bool.and_eq_true, Bool.not_eq_true'] at notHere
  intro isPrefix
  have occurs := List.isPrefixOf_iff_prefix.mpr isPrefix
  rw [List.cons_append, notHere.1] at occurs
  cases occurs

/-! ## Rules -/

namespace Pattern

variable {β : Type} {next : Captures → Place → Option β} {value : β} {is : Char → Bool}
  {before : Option Char} {run rest : List Char}

theorem first_seqs_cons (pattern : Pattern) (patterns : List Pattern) (place : Place) :
    (seqs (pattern :: patterns)).first place next =
      pattern.first place fun captures middle =>
        (seqs patterns).first middle fun more final => next (captures ++ more) final := rfl

theorem first_group (name : String) (inner : Pattern) (place : Place) :
    (group name inner).first place next = inner.first place fun captures final =>
      next ((name, place.upTo final) :: captures) final := rfl

theorem first_here (holds : Place → Bool) (place : Place) :
    (here holds).first place next = if holds place then next [] place else none := rfl

theorem first_chars (fold : Char → Char) (chars : List Char) (before : Option Char)
    (rest : List Char) :
    (text fold chars).first ⟨before, rest⟩ next =
      if (rest.take chars.length).map fold = chars then
        next [] ⟨Place.last before (rest.take chars.length), rest.drop chars.length⟩
      else none := rfl

theorem first_one_cons (is : Char → Bool) (before : Option Char) (char : Char) (rest : List Char) :
    (one is).first ⟨before, char :: rest⟩ next =
      if is char then next [] ⟨some char, rest⟩ else none := rfl

theorem first_many (greedy : Bool) (least : Nat) (is : Char → Bool) (before : Option Char)
    (rest : List Char) :
    (many greedy least is).first ⟨before, rest⟩ next =
      (if greedy then ((Place.onward is before rest).drop least).reverse
        else (Place.onward is before rest).drop least).findSome? (next []) := rfl

theorem first_either (front back : Pattern) (place : Place) :
    (either front back).first place next =
      (front.first place next).or (back.first place next) := rfl

theorem first_text {fold : Char → Char} {chars : List Char} (folded : run.map fold = chars) :
    (text fold chars).first ⟨before, run ++ rest⟩ next = next [] ⟨Place.last before run, rest⟩ := by
  subst folded
  simp [first_chars]

theorem first_text_none {chars : List Char} (differs : ¬ chars <+: rest) :
    (text id chars).first ⟨before, rest⟩ next = none := by
  rw [first_chars, List.map_id]
  refine if_neg fun same => differs ?_
  exact List.prefix_iff_eq_take.mpr same.symm

/-- A lazy run stops at the first place from which the rest goes through. -/
theorem first_lazy {least : Nat} (all : ∀ char ∈ run, is char) (long : least ≤ run.length)
    (inside : ∀ front back, run = front ++ back → back ≠ [] →
      next [] ⟨Place.last before front, back ++ rest⟩ = none)
    (found : next [] ⟨Place.last before run, rest⟩ = some value) :
    (many false least is).first ⟨before, run ++ rest⟩ next = some value := by
  obtain ⟨early, onwards, length, within⟩ := Place.onward_append all before rest
  obtain ⟨later, reached⟩ := Place.onward_head is (Place.last before run) rest
  have missed : (early.drop least).findSome? (next []) = none := by
    rw [List.findSome?_eq_none_iff]
    intro place mem
    obtain ⟨front, back, split, nonempty, rfl⟩ := within place (List.mem_of_mem_drop mem)
    exact inside front back split nonempty
  rw [first_many, onwards, reached, List.drop_append_of_le_length (by omega), if_neg Bool.false_ne_true,
    List.findSome?_append, missed, List.findSome?_cons, found]
  rfl

/-- A greedy run takes all it can, if the rest goes through from there. -/
theorem first_greedy {least : Nat} (all : ∀ char ∈ run, is char) (long : least ≤ run.length)
    (ends : ∀ char ∈ rest.head?, ¬ is char)
    (found : next [] ⟨Place.last before run, rest⟩ = some value) :
    (many true least is).first ⟨before, run ++ rest⟩ next = some value := by
  obtain ⟨early, onwards, length, _⟩ := Place.onward_append all before rest
  rw [first_many, onwards, Place.onward_ends ends, List.drop_append_of_le_length (by omega), if_pos rfl,
    List.reverse_append, List.reverse_singleton, List.singleton_append, List.findSome?_cons, found]

/-- A run that cannot begin takes nothing. -/
theorem first_many_zero {greedy : Bool} (ends : ∀ char ∈ rest.head?, ¬ is char) :
    (many greedy 0 is).first ⟨before, rest⟩ next = next [] ⟨before, rest⟩ := by
  rw [first_many, Place.onward_ends ends]
  cases greedy <;> exact List.findSome?_singleton

/-- A run from none of whose ends the rest goes through. -/
theorem first_many_none {greedy : Bool} {least : Nat}
    (missed : ∀ front back, rest = front ++ back → next [] ⟨Place.last before front, back⟩ = none) :
    (many greedy least is).first ⟨before, rest⟩ next = none := by
  have each : ∀ place ∈ (Place.onward is before rest).drop least, next [] place = none := by
    intro place mem
    obtain ⟨front, back, split, rfl⟩ := Place.mem_onward (List.mem_of_mem_drop mem)
    exact missed front back split
  rw [first_many, List.findSome?_eq_none_iff]
  intro place mem
  refine each place ?_
  split at mem
  · exact List.mem_reverse.mp mem
  · exact mem

theorem first_one_none (ends : ∀ char ∈ rest.head?, ¬ is char) :
    (one is).first ⟨before, rest⟩ next = none := by
  cases rest with
  | nil => rfl
  | cons char rest => exact if_neg (ends char rfl)

theorem first_either_left {front back : Pattern} {place : Place}
    (found : front.first place next = some value) :
    (either front back).first place next = some value := by
  rw [first_either, found]
  rfl

theorem first_either_right {front back : Pattern} {place : Place}
    (missed : front.first place next = none) :
    (either front back).first place next = back.first place next := by
  rw [first_either, missed]
  rfl

/-! ## Rules for a sequence -/

variable {patterns : List Pattern}

theorem seqs_nil {place : Place} (found : next [] place = some value) :
    (seqs []).first place next = some value := found

theorem seqs_here {holds : Place → Bool} {place : Place} (isHere : holds place = true)
    (found : (seqs patterns).first place next = some value) :
    (seqs (here holds :: patterns)).first place next = some value := by
  rw [first_seqs_cons, first_here, if_pos isHere]
  exact found

theorem seqs_text {fold : Char → Char} {chars : List Char} (folded : run.map fold = chars)
    (found : (seqs patterns).first ⟨Place.last before run, rest⟩ next = some value) :
    (seqs (text fold chars :: patterns)).first ⟨before, run ++ rest⟩ next = some value := by
  rw [first_seqs_cons, first_text folded]
  exact found

theorem seqs_text_none {chars : List Char} (differs : ¬ chars <+: rest) :
    (seqs (text id chars :: patterns)).first ⟨before, rest⟩ next = none := by
  rw [first_seqs_cons, first_text_none differs]

theorem seqs_here_none {holds : Place → Bool} {place : Place}
    (missed : (seqs patterns).first place next = none) :
    (seqs (here holds :: patterns)).first place next = none := by
  rw [first_seqs_cons, first_here]
  split
  · exact missed
  · rfl

theorem seqs_many_none {greedy : Bool} {least : Nat}
    (missed : ∀ front back, rest = front ++ back → ∀ next : Captures → Place → Option β,
      (seqs patterns).first ⟨Place.last before front, back⟩ next = none) :
    (seqs (many greedy least is :: patterns)).first ⟨before, rest⟩ next = none := by
  rw [first_seqs_cons]
  exact first_many_none fun front back split => missed front back split _

theorem seqs_group_many_none {name : String} {greedy : Bool} {least : Nat}
    (missed : ∀ front back, rest = front ++ back → ∀ next : Captures → Place → Option β,
      (seqs patterns).first ⟨Place.last before front, back⟩ next = none) :
    (seqs (group name (many greedy least is) :: patterns)).first ⟨before, rest⟩ next = none := by
  rw [first_seqs_cons, first_group]
  exact first_many_none fun front back split => missed front back split _

theorem seqs_here_text_none {holds : Place → Bool} {chars : List Char} (differs : ¬ chars <+: rest) :
    (seqs (here holds :: text id chars :: patterns)).first ⟨before, rest⟩ next = none := by
  rw [first_seqs_cons, first_here]
  split
  · exact seqs_text_none differs
  · rfl

theorem seqs_greedy {least : Nat} (all : ∀ char ∈ run, is char) (long : least ≤ run.length)
    (ends : ∀ char ∈ rest.head?, ¬ is char)
    (found : (seqs patterns).first ⟨Place.last before run, rest⟩ next = some value) :
    (seqs (many true least is :: patterns)).first ⟨before, run ++ rest⟩ next = some value := by
  rw [first_seqs_cons]
  exact first_greedy all long ends found

theorem seqs_lazy {least : Nat} (all : ∀ char ∈ run, is char) (long : least ≤ run.length)
    (inside : ∀ front back, run = front ++ back → back ≠ [] →
      (seqs patterns).first ⟨Place.last before front, back ++ rest⟩ next = none)
    (found : (seqs patterns).first ⟨Place.last before run, rest⟩ next = some value) :
    (seqs (many false least is :: patterns)).first ⟨before, run ++ rest⟩ next = some value := by
  rw [first_seqs_cons]
  exact first_lazy all long inside found

/-- A lazy run that takes nothing. -/
theorem seqs_lazy_nil (found : (seqs patterns).first ⟨before, rest⟩ next = some value) :
    (seqs (many false 0 is :: patterns)).first ⟨before, rest⟩ next = some value :=
  seqs_lazy (List.forall_mem_nil _) (Nat.zero_le _)
    (fun _ _ split nonempty => absurd (List.append_eq_nil_iff.mp split.symm).2 nonempty) found

theorem seqs_group_greedy {name : String} {least : Nat} (all : ∀ char ∈ run, is char)
    (long : least ≤ run.length) (ends : ∀ char ∈ rest.head?, ¬ is char)
    (found : ((seqs patterns).first ⟨Place.last before run, rest⟩ fun captures final =>
      next ((name, run) :: captures) final) = some value) :
    (seqs (group name (many true least is) :: patterns)).first ⟨before, run ++ rest⟩ next =
      some value := by
  rw [first_seqs_cons, first_group]
  refine first_greedy all long ends ?_
  rw [Place.upTo_append]
  exact found

theorem seqs_group_lazy {name : String} {least : Nat} (all : ∀ char ∈ run, is char)
    (long : least ≤ run.length)
    (inside : ∀ front back, run = front ++ back → back ≠ [] → ∀ next : Captures → Place → Option β,
      (seqs patterns).first ⟨Place.last before front, back ++ rest⟩ next = none)
    (found : ((seqs patterns).first ⟨Place.last before run, rest⟩ fun captures final =>
      next ((name, run) :: captures) final) = some value) :
    (seqs (group name (many false least is) :: patterns)).first ⟨before, run ++ rest⟩ next =
      some value := by
  rw [first_seqs_cons, first_group]
  refine first_lazy all long (fun front back split nonempty => inside front back split nonempty _) ?_
  rw [Place.upTo_append]
  exact found

theorem seqs_group_one {name : String} {char : Char} (isChar : is char)
    (found : ((seqs patterns).first ⟨some char, rest⟩ fun captures final =>
      next ((name, [char]) :: captures) final) = some value) :
    (seqs (group name (one is) :: patterns)).first ⟨before, char :: rest⟩ next = some value := by
  have taken : Place.upTo ⟨before, char :: rest⟩ ⟨some char, rest⟩ = [char] :=
    Place.upTo_append before (some char) [char] rest
  rw [first_seqs_cons, first_group, first_one_cons, if_pos isChar, taken]
  exact found

/-- A search passes over the places from which nothing goes through. -/
theorem search_skip {pattern : Pattern} {skip : List Char} {captures : Captures}
    (inside : ∀ front back, skip = front ++ back → back ≠ [] →
      (pattern.first ⟨Place.last none front, back ++ rest⟩ fun found _ => some found) = none)
    (found : (pattern.first ⟨Place.last none skip, rest⟩ fun found _ => some found) = some captures) :
    pattern.search (skip ++ rest) = some captures :=
  first_lazy (fun _ _ => rfl) (Nat.zero_le _) inside found

end Pattern

end Srv6Fabric.Library

import Srv6Fabric.Mrc.ScenarioChecks

/-!
# Foreign exceptions

`validate` promises a `ScenarioError` for whatever is wrong with a document.  Each function of
the validator does what its check says, and from the document's check it follows when another
exception leaves the validator.
-/

namespace Srv6Fabric.Mrc.Scenario

open Library

/-! ## What is caught -/

def IsScenarioError (error : PyError) : Prop := ∃ path message, error = .scenarioError path message

/-- What `except ValueError` catches; `ScenarioError` derives from `ValueError`. -/
def IsValueError (error : PyError) : Prop :=
  (∃ message, error = .valueError message) ∨ IsScenarioError error

theorem valueError_foreign {message : String} : ¬ IsScenarioError (.valueError message) := by
  rintro ⟨path, other, ⟨⟩⟩

section Rules

variable {α β : Type} {check : Check} {path message : String} {value : Yaml}

theorem fail_describes : Check.refuse.Describes IsScenarioError (fail path message : Except PyError α) :=
  .refuse ⟨path, message, rfl⟩

/-- A clause `except ValueError` turns what it catches into a `ScenarioError`. -/
theorem atPath_describes {outcome : Except PyError α}
    (describes : check.Describes IsValueError outcome) :
    check.Describes IsScenarioError (atPath path outcome) := by
  cases outcome with
  | ok value => exact ⟨describes.accepts, by simpa [atPath] using describes.escapes⟩
  | error error =>
      obtain ⟨rejects, escapes⟩ := describes.error_of
      cases error with
      | valueError message =>
          exact .error rejects (escapes.trans (iff_of_false
            (not_not.mpr (Or.inl ⟨message, rfl⟩)) (not_not.mpr ⟨path, message, rfl⟩)))
      | _ => exact .error rejects (by simpa [IsValueError] using escapes)

theorem prints_describes {outcome : Except PyError α} {ints : List Int}
    (prints : Prints outcome ints) :
    (Check.trust (∀ n ∈ ints, ShortInt n)).Describes IsScenarioError outcome := by
  rcases prints with ⟨⟨text, rfl⟩, short⟩ | ⟨⟨message, rfl⟩, long⟩
  · exact .ok short (not_not.mpr short)
  · exact .error long (iff_of_true long valueError_foreign)

/-- A refusal prints the value first. -/
theorem refuse_describes {shown : Except PyError String} (prints : Prints shown value.ints)
    {message : String → String} : (refuseShowing value).Describes IsScenarioError
      (shown >>= fun text => fail path (message text) : Except PyError α) := by
  rcases prints with ⟨⟨text, rfl⟩, short⟩ | ⟨⟨message, rfl⟩, long⟩
  · exact .error id (iff_of_false (not_not.mpr short) (not_not.mpr ⟨path, _, rfl⟩))
  · exact .error id (iff_of_true long valueError_foreign)

theorem orShow_describes {condition : Prop} {outcome : Except PyError α}
    (holds : condition → ∃ value, outcome = .ok value)
    (fails : ¬ condition → (refuseShowing value).Describes IsScenarioError outcome) :
    (orShow condition value).Describes IsScenarioError outcome := by
  by_cases given : condition
  · obtain ⟨result, rfl⟩ := holds given
    exact .ok given fun both => both.1 given
  · exact (fails given).congr (iff_of_false id given) (and_iff_right given).symm

theorem guard_describes {condition : Prop} {own : PyError → Prop} {outcome : Except PyError α}
    (holds : condition → ∃ value, outcome = .ok value)
    (fails : ¬ condition → ∃ error, outcome = .error error ∧ own error) :
    (Check.guard condition).Describes own outcome := by
  by_cases given : condition
  · obtain ⟨result, rfl⟩ := holds given
    exact .ok given id
  · obtain ⟨error, rfl, isOwn⟩ := fails given
    exact .error given (iff_of_false id (not_not.mpr isOwn))

end Rules

/-! ## Keys -/

theorem not_str_of_rank {key : Scalar} (number : key.rank.isSome) : key.className ≠ "str" := by
  cases key with
  | str _ => cases number
  | null => cases number
  | bool _ => simp [Scalar.className]
  | int _ => simp [Scalar.className]
  | float _ => simp [Scalar.className]

/-- Keys that are all comparable with the first one are of one kind. -/
theorem comparable_all {first : Scalar} {rest : List Scalar} :
    (∀ key ∈ first :: rest, first.comparable key) ↔
      (∀ key ∈ first :: rest, key.rank.isSome) ∨ ∀ key ∈ first :: rest, key.className = "str" := by
  have pair (key : Scalar) : first.comparable key ↔ first.rank.isSome ∧ key.rank.isSome ∨
      first.className = "str" ∧ key.className = "str" := by
    simp [Scalar.comparable]
  constructor
  · intro all
    rcases (pair first).mp (all first List.mem_cons_self) with ⟨number, -⟩ | ⟨text, -⟩
    · refine Or.inl fun key mem => ?_
      rcases (pair key).mp (all key mem) with ⟨-, keyNumber⟩ | ⟨text, -⟩
      · exact keyNumber
      · exact absurd text (not_str_of_rank number)
    · refine Or.inr fun key mem => ?_
      rcases (pair key).mp (all key mem) with ⟨number, -⟩ | ⟨-, keyText⟩
      · exact absurd text (not_str_of_rank number)
      · exact keyText
  · rintro (numbers | texts) key mem
    · exact (pair key).mpr (Or.inl ⟨numbers first List.mem_cons_self, numbers key mem⟩)
    · exact (pair key).mpr (Or.inr ⟨texts first List.mem_cons_self, texts key mem⟩)

theorem sorted_describes (keys : List Scalar) :
    (Check.trust (Sortable keys)).Describes IsScenarioError (Scalar.sorted keys) := by
  unfold Scalar.sorted
  split
  · exact .ok (Or.inl (Nat.zero_le _)) (not_not.mpr (Or.inl (Nat.zero_le _)))
  · exact .ok (Or.inl le_rfl) (not_not.mpr (Or.inl le_rfl))
  · next first rest several =>
    have many : ¬ (first :: rest).length ≤ 1 := by
      cases rest with
      | nil => exact absurd rfl several
      | cons _ _ => simp
    have compared : (∀ key ∈ first :: rest, first.comparable key) ↔ Sortable (first :: rest) := by
      rw [Sortable, or_iff_right many]
      exact comparable_all
    split
    · next none_ =>
      have all : Sortable (first :: rest) := by
        rw [← compared]
        simpa using List.find?_eq_none.mp none_
      exact .ok all (not_not.mpr all)
    · next other found =>
      have some_ : ¬ Sortable (first :: rest) := by
        rw [← compared]
        intro all
        have differs := List.find?_some found
        rw [all other (List.mem_of_find?_eq_some found)] at differs
        cases differs
      exact .error some_ (iff_of_true some_ (by rintro ⟨_, _, ⟨⟩⟩))

theorem mem_of_sorted {keys sorted : List Scalar} (returned : Scalar.sorted keys = .ok sorted)
    (key : Scalar) : key ∈ sorted ↔ key ∈ keys := by
  unfold Scalar.sorted at returned
  split at returned
  · rw [← Except.ok.inj returned]
  · rw [← Except.ok.inj returned]
  · split at returned
    · rw [← Except.ok.inj returned, List.mem_mergeSort]
    · cases returned

theorem unknown_describes {unknown : List Scalar} {path : String} {message : List String → String}
    (some_ : unknown ≠ []) : (unknownCheck unknown).Describes IsScenarioError
      (Scalar.sorted unknown >>= fun keys => keys.mapM Scalar.repr >>= fun shown =>
        (fail path (message shown) : Except PyError Unit)) := by
  have ints {keys : List Scalar} (returned : Scalar.sorted unknown = .ok keys) :
      (∀ n ∈ keys.flatMap Scalar.ints, ShortInt n) ↔ ∀ n ∈ unknown.flatMap Scalar.ints, ShortInt n := by
    simp only [List.mem_flatMap, mem_of_sorted returned]
  have described : (Check.inOrder [.trust (Sortable unknown),
      .trust (∀ n ∈ unknown.flatMap Scalar.ints, ShortInt n), .refuse]).Describes IsScenarioError
        (Scalar.sorted unknown >>= fun keys => keys.mapM Scalar.repr >>= fun shown =>
          (fail path (message shown) : Except PyError Unit)) := by
    refine (sorted_describes unknown).bind fun keys returned => ?_
    rw [← ints returned]
    exact (prints_describes (.mapM Scalar.repr_prints)).bind fun _ _ => fail_describes.last
  refine described.congr (iff_of_false ?_ some_) ?_
  · exact fun all => all Check.refuse (by simp)
  · simp only [Check.inOrder_cons_escapes, Check.inOrder_nil_escapes, Check.trust, Check.refuse,
      unknownCheck, and_false, or_false]
    by_cases sortable : Sortable unknown
    · simp only [sortable, not_true, false_or, true_and]
    · simp only [sortable, not_false_eq_true, true_or, false_and]

theorem requireKeys_describes (entries : Entries) (path : String) (required optional : List String) :
    (keysCheck required optional (.dict entries)).Describes IsScenarioError
      (requireKeys entries path required optional) := by
  have present : (required.filter fun name => !(entries.map Prod.fst).contains (Scalar.str name)) = [] ↔
      ∀ name ∈ required, Scalar.str name ∈ entries.map Prod.fst := by
    simp [List.filter_eq_nil_iff]
  unfold requireKeys keysCheck
  dsimp only
  split
  · next missing =>
    have lacks := mt present.mpr missing
    exact .stop lacks (.error lacks (iff_of_false id (not_not.mpr ⟨path, _, rfl⟩)))
  · next complete =>
    refine .skip (present.mp (not_not.mp complete)) id ?_
    split
    · next extra => exact (unknown_describes extra).last
    · next none_ =>
      rw [not_not.mp none_]
      refine (Check.Describes.ok rfl (not_not.mpr ⟨Or.inl (Nat.zero_le _), ?_⟩)).last
      exact fun _ mem => absurd mem List.not_mem_nil

/-- A required key is there to be looked up. -/
theorem lookup_required {entries : Entries} {path : String} {required optional : List String}
    (returned : requireKeys entries path required optional = .ok ()) {name : String}
    (isRequired : name ∈ required) : lookup entries name = .ok (field name (.dict entries)) := by
  have accepted := (requireKeys_describes entries path required optional).accepts.mp ⟨(), returned⟩
  have isKey : Scalar.str name ∈ entries.map Prod.fst := accepted _ List.mem_cons_self name isRequired
  obtain ⟨⟨key, value⟩, mem, rfl⟩ := List.mem_map.mp isKey
  have found : (Yaml.get? entries name).isSome := by
    rw [Yaml.get?, Option.isSome_map, List.find?_isSome]
    exact ⟨_, mem, by simp⟩
  obtain ⟨value, present⟩ := Option.isSome_iff_exists.mp found
  rw [lookup, field, present]
  rfl

/-! ## Pairs -/

theorem requireChoice_describes {entries : Entries} {path name : String} {choices : List String}
    (found : lookup entries name = .ok (field name (.dict entries))) :
    (choiceCheck choices (field name (.dict entries))).Describes IsScenarioError
      (requireChoice entries path name choices) := by
  rw [requireChoice, bind_of_ok found]
  generalize field name (.dict entries) = value
  refine orShow_describes ?_ fun other => ?_
  · rintro ⟨text, mem, rfl⟩
    exact ⟨text, if_pos (List.contains_iff_mem.mpr mem)⟩
  · dsimp only
    split
    · next text =>
      rw [if_neg fun mem => other ⟨text, List.contains_iff_mem.mp mem, rfl⟩]
      exact refuse_describes (Yaml.repr_prints _)
    · exact refuse_describes (Yaml.repr_prints _)

theorem requireHostId_describes {topo : Topo} {entries : Entries} {path name : String}
    (found : lookup entries name = .ok (field name (.dict entries))) :
    (hostIdCheck topo (field name (.dict entries))).Describes IsScenarioError
      (requireHostId topo entries path name) := by
  rw [requireHostId, bind_of_ok found]
  generalize field name (.dict entries) = value
  refine orShow_describes ?_ fun other => ?_
  · rintro ⟨number, isInt, inRange⟩
    dsimp only
    rw [isInt]
    exact ⟨number, if_pos inRange⟩
  · dsimp only
    split
    · next number isInt =>
      rw [if_neg fun inRange => other ⟨number, isInt, inRange⟩]
      exact refuse_describes value.repr_prints
    · exact refuse_describes value.repr_prints

theorem asInt?_of_required {topo : Topo} {entries : Entries} {path name : String} {number : PyInt}
    (found : lookup entries name = .ok (field name (.dict entries)))
    (required : requireHostId topo entries path name = .ok number) :
    asInt? (field name (.dict entries)) = some number := by
  rw [requireHostId, bind_of_ok found] at required
  dsimp only at required
  split at required
  · next isInt =>
    split at required
    · rw [isInt, Except.ok.inj required]
    · exact absurd required refuse_ne_ok
  · exact absurd required refuse_ne_ok

theorem pairEntry_describes (topo : Topo) (path : String) (pair : Yaml) :
    (pairCheck topo pair).Describes IsScenarioError (pairEntry topo path pair) := by
  cases pair with
  | scalar _ => exact .stop id fail_describes
  | list _ => exact .stop id fail_describes
  | dict entries =>
      refine (requireKeys_describes _ _ _ _).bind fun _ keys => ?_
      have tenantFound := lookup_required keys (by simp : "tenant" ∈ ["tenant", "src", "dst"])
      have srcFound := lookup_required keys (by simp : "src" ∈ ["tenant", "src", "dst"])
      have dstFound := lookup_required keys (by simp : "dst" ∈ ["tenant", "src", "dst"])
      refine (requireChoice_describes tenantFound).bind fun tenant _ => ?_
      refine (requireHostId_describes srcFound).bind fun src srcOk => ?_
      refine (requireHostId_describes dstFound).bind fun dst dstOk => ?_
      rw [asInt?_of_required srcFound srcOk, asInt?_of_required dstFound dstOk]
      refine (guard_describes (fun distinct => ?_) fun same => ?_).last
      · exact ⟨_, if_neg fun equal => distinct (congrArg some equal)⟩
      · exact ⟨_, if_pos (Option.some.inj (not_not.mp same)), path, _, rfl⟩

theorem atIndices_describes {α : Type} {path : String} {check : String → Yaml → Except PyError α}
    {checkOf : Yaml → Check}
    (each : ∀ itemPath item, (checkOf item).Describes IsScenarioError (check itemPath item))
    (items : List Yaml) :
    (Check.inOrder (items.map checkOf)).Describes IsScenarioError (atIndices path check items) := by
  rw [atIndices, ← List.zipIdx_map_fst 0 items, List.map_map, List.zipIdx_map_fst]
  exact .mapM fun item _ => each _ _

theorem resolvePairs_describes (topo : Topo) (path : String) : ∀ pairs : Yaml,
    (pairsCheck topo pairs).Describes IsScenarioError (resolvePairs topo path pairs)
  | .scalar (.str name) => by
      unfold resolvePairs
      dsimp only
      refine guard_describes (fun known => ?_) fun unknown => ?_
      · obtain ⟨set, mem, rfl⟩ := List.mem_map.mp known
        obtain ⟨found, isFound⟩ := Option.isSome_iff_exists.mp
          (List.find?_isSome.mpr ⟨set, mem, decide_eq_true rfl⟩ :
            (namedPairSets.find? fun other => other.1 = set.1).isSome)
        rw [isFound]
        exact ⟨found.2, rfl⟩
      · split
        · next setName pairs found =>
          have named : setName = name := by simpa using List.find?_some found
          exact absurd (List.mem_map.mpr ⟨_, List.mem_of_find?_eq_some found, named⟩) unknown
        · exact ⟨_, rfl, path, _, rfl⟩
  | .list [] => fail_describes
  | .list (first :: rest) => atIndices_describes (pairEntry_describes topo) (first :: rest)
  | .scalar .null => fail_describes
  | .scalar (.bool _) => fail_describes
  | .scalar (.int _) => fail_describes
  | .scalar (.float _) => fail_describes
  | .dict _ => fail_describes

/-! ## Policies -/

theorem typeError_foreign {message : String} : ¬ IsValueError (.typeError message) := by
  rintro (⟨_, ⟨⟩⟩ | ⟨_, _, ⟨⟩⟩)

theorem overflowError_foreign {message : String} : ¬ IsValueError (.overflowError message) := by
  rintro (⟨_, ⟨⟩⟩ | ⟨_, _, ⟨⟩⟩)

theorem ofInt_describes {own : PyError → Prop} (n : Int)
    (foreign : ∀ message, ¬ own (.overflowError message)) :
    (Check.trust (FloatInt n)).Describes own (PyFloat.ofInt n) := by
  rcases PyFloat.ofInt_cases n with ⟨small, converted⟩ | ⟨large, raised⟩
  · rw [converted]
    exact .ok small (not_not.mpr small)
  · rw [raised]
    exact .error large (iff_of_true large (foreign _))

theorem toFloat_describes : ∀ item : Yaml,
    (weightCheck item).Describes IsValueError (Yaml.toFloat item)
  | .scalar (.int n) => ofInt_describes n fun _ => overflowError_foreign
  | .scalar (.bool _) => .ok trivial id
  | .scalar (.float _) => .ok trivial id
  | .scalar (.str text) => by
      rw [Yaml.toFloat, weightCheck]
      refine guard_describes (fun reads => ?_) fun fails => ?_
      · obtain ⟨value, read⟩ := Option.isSome_iff_exists.mp reads
        rw [read]
        exact ⟨value, rfl⟩
      · rw [Option.not_isSome_iff_eq_none.mp fails]
        exact ⟨_, rfl, Or.inl ⟨_, rfl⟩⟩
  | .scalar .null => .escape typeError_foreign
  | .list _ => .escape typeError_foreign
  | .dict _ => .escape typeError_foreign

theorem makeWeighted_describes {topo : Topo} {items : List Yaml} {weights : List PyFloat}
    (converted : items.mapM Yaml.toFloat = .ok weights) :
    (Check.guard (Proportions topo items)).Describes IsValueError
      (SprayPolicy.makeWeighted topo weights) := by
  have proportions : Proportions topo items ↔ weights.length = topo.numPlanes ∧
      weights.any PyFloat.isNegative = false ∧ (weightSum weights).isNonPositive = false := by
    constructor
    · rintro ⟨others, read, holds⟩
      obtain rfl := Except.ok.inj (converted.symm.trans (mapM_of_forall₂ read))
      exact holds
    · exact fun holds => ⟨weights, mapM_eq_ok converted, holds⟩
  rw [proportions]
  unfold SprayPolicy.makeWeighted
  split_ifs with length negative sum
  · exact .error (fun all => length all.1) (iff_of_false id (not_not.mpr (Or.inl ⟨_, rfl⟩)))
  · exact .error (fun all => absurd negative (by simp [all.2.1]))
      (iff_of_false id (not_not.mpr (Or.inl ⟨_, rfl⟩)))
  · exact .error (fun all => absurd sum (by simp [all.2.2]))
      (iff_of_false id (not_not.mpr (Or.inl ⟨_, rfl⟩)))
  · exact .ok ⟨not_not.mp length, by simpa using negative, by simpa using sum⟩ id

theorem weighted_describes (topo : Topo) (value : Yaml) :
    (weightedCheck topo value).Describes IsValueError (do
      let weights ← (← value.iterate).mapM Yaml.toFloat
      SprayPolicy.makeWeighted topo weights) := by
  have walked : (∃ items, value.iterate = .ok items) ∨
      ∃ message, value.iterate = .error (.typeError message) := by
    match value with
    | .scalar (.str _) => exact Or.inl ⟨_, rfl⟩
    | .list _ => exact Or.inl ⟨_, rfl⟩
    | .dict _ => exact Or.inl ⟨_, rfl⟩
    | .scalar .null => exact Or.inr ⟨_, rfl⟩
    | .scalar (.bool _) => exact Or.inr ⟨_, rfl⟩
    | .scalar (.int _) => exact Or.inr ⟨_, rfl⟩
    | .scalar (.float _) => exact Or.inr ⟨_, rfl⟩
  unfold weightedCheck
  rcases walked with ⟨items, isItems⟩ | ⟨message, raised⟩
  · rw [isItems]
    exact (Check.Describes.mapM fun item _ => toFloat_describes item).bind fun weights converted =>
      (makeWeighted_describes converted).last
  · rw [raised]
    exact .escape typeError_foreign

theorem valueError_refuses {shown : Except PyError String} {ints : List Int}
    (prints : Prints shown ints) {message : String → String} : Check.refuse.Describes IsValueError
      (shown >>= fun text => .error (.valueError (message text)) : Except PyError SprayPolicy) := by
  rcases prints with ⟨⟨text, rfl⟩, -⟩ | ⟨⟨message, rfl⟩, -⟩
  · exact .refuse (Or.inl ⟨_, rfl⟩)
  · exact .refuse (Or.inl ⟨_, rfl⟩)

theorem policyFromSpec_describes (topo : Topo) : ∀ spec : Yaml,
    (policyCheck topo spec).Describes IsValueError (policyFromSpec topo spec)
  | .scalar (.str name) => by
      rw [policyFromSpec, policyCheck]
      refine guard_describes (fun known => ?_) fun unknown => ?_
      · simp only [List.mem_cons, List.not_mem_nil, or_false] at known
        rcases known with rfl | rfl | rfl
        · exact ⟨_, rfl⟩
        · exact ⟨_, rfl⟩
        · exact ⟨_, rfl⟩
      · simp only [List.mem_cons, List.not_mem_nil, or_false, not_or] at unknown
        rw [if_neg unknown.1, if_neg unknown.2.1, if_neg unknown.2.2]
        exact ⟨_, rfl, Or.inl ⟨_, rfl⟩⟩
  | .dict [(kind, value)] => by
      rw [policyFromSpec, policyCheck]
      split_ifs with weighted health
      · exact weighted_describes topo value
      · exact (policyFromSpec_describes topo value).then_ok fun _ _ => ⟨_, rfl⟩
      · exact valueError_refuses kind.repr_prints
  | .dict [] => valueError_refuses (Yaml.repr_prints _)
  | .dict (_ :: _ :: _) => valueError_refuses (Yaml.repr_prints _)
  | .list _ => valueError_refuses (Yaml.repr_prints _)
  | .scalar .null => valueError_refuses (Yaml.repr_prints _)
  | .scalar (.bool _) => valueError_refuses (Yaml.repr_prints _)
  | .scalar (.int _) => valueError_refuses (Yaml.repr_prints _)
  | .scalar (.float _) => valueError_refuses (Yaml.repr_prints _)

/-! ## Rates, durations, labels -/

theorem foldDigits_of_all {digits : List (Option Nat)} (present : ∀ digit ∈ digits, digit.isSome)
    (start : Nat) : ∃ result,
      digits.foldl (fun total digit => do return 10 * (← total) + (← digit)) (some start) =
        some result := by
  induction digits generalizing start with
  | nil => exact ⟨start, rfl⟩
  | cons first rest ih =>
      obtain ⟨isDigit, others⟩ := List.forall_mem_cons.mp present
      obtain ⟨value, rfl⟩ := Option.isSome_iff_exists.mp isDigit
      exact ih others _

theorem pyInt_describes {digits : List Char} (decimal : ∀ char ∈ digits, isDecimal char) :
    (Check.trust (digits.length ≤ maxStrDigits)).Describes IsScenarioError
      (pyInt (String.ofList digits)) := by
  have present : ∀ digit ∈ digits.map decimalValue?, digit.isSome := by
    simpa [isDecimal] using decimal
  have leading : ((digits.map decimalValue?).takeWhile Option.isSome).length = digits.length := by
    rw [List.takeWhile_eq_self_iff.mpr present, List.length_map]
  obtain ⟨value, folded⟩ := foldDigits_of_all present 0
  unfold pyInt
  rw [String.toList_ofList]
  dsimp only
  rw [leading, folded]
  split
  · next long => exact .error (not_le.mpr long) (iff_of_true (not_le.mpr long) valueError_foreign)
  · next short => exact .ok (not_lt.mp short) (not_not.mpr (not_lt.mp short))

theorem parseRate_number {path : String} {value : Yaml}
    (noText : ∀ text, value ≠ .scalar (.str text)) :
    (orShow (∃ number, asInt? value = some number ∧ 0 < number.toInt) value).Describes
      IsScenarioError (parseRate path value) := by
  refine orShow_describes ?_ fun other => ?_
  · rintro ⟨number, isInt, positive⟩
    unfold parseRate
    dsimp only
    rw [isInt]
    exact ⟨number, if_pos positive⟩
  · unfold parseRate
    dsimp only
    split
    · next number isInt =>
      rw [if_neg fun positive => other ⟨number, isInt, positive⟩]
      exact refuse_describes (Yaml.repr_prints _)
    · next text _ => exact absurd rfl (noText text)
    · exact refuse_describes (Yaml.repr_prints _)

theorem parseRate_describes (path : String) : ∀ value : Yaml,
    (rateCheck value).Describes IsScenarioError (parseRate path value)
  | .scalar (.str text) => by
      unfold parseRate rateCheck
      dsimp only [asInt?]
      cases matched : rateMatch text with
      | some digits => exact (pyInt_describes (rateMatch_eq matched).2).then_ok fun _ _ => ⟨_, rfl⟩
      | none => exact .refuse ⟨path, _, rfl⟩
  | .scalar .null => parseRate_number nofun
  | .scalar (.bool _) => parseRate_number nofun
  | .scalar (.int _) => parseRate_number nofun
  | .scalar (.float _) => parseRate_number nofun
  | .list _ => parseRate_number nofun
  | .dict _ => parseRate_number nofun

theorem parseDuration_describes (path : String) : ∀ value : Yaml,
    (durationCheck value).Describes IsScenarioError (parseDuration path value)
  | .scalar (.int n) => by
      unfold parseDuration durationCheck
      dsimp only
      split_ifs
      · exact ofInt_describes n fun _ => by rintro ⟨_, _, ⟨⟩⟩
      · exact refuse_describes (Yaml.repr_prints _)
  | .scalar (.bool true) => by
      have one := PyFloat.round_eq isBinary64_one isBinary64_one.1 one_ne_zero
      have converted : PyFloat.ofInt 1 = .ok (.finite 1 isBinary64_one) := by
        unfold PyFloat.ofInt
        rw [Int.cast_one, one]
      exact guard_describes (fun _ => ⟨_, converted⟩) (fun off => absurd rfl off)
  | .scalar (.bool false) =>
      guard_describes (fun on => by cases on) fun _ => ⟨_, rfl, path, _, rfl⟩
  | .scalar (.float number) => by
      unfold parseDuration
      dsimp only
      refine guard_describes (fun positive => ?_) fun other => ?_
      · exact ⟨number, if_pos positive⟩
      · exact ⟨_, if_neg other, path, _, rfl⟩
  | .scalar (.str text) => by
      unfold parseDuration
      dsimp only
      refine guard_describes (fun reads => ?_) fun fails => ?_
      · obtain ⟨⟨found, unit⟩, matched⟩ := Option.isSome_iff_exists.mp reads
        rw [matched]
        dsimp only
        rw [toFloat_durationMatch matched]
        exact ⟨_, rfl⟩
      · rw [Option.not_isSome_iff_eq_none.mp fails]
        exact ⟨_, rfl, path, _, rfl⟩
  | .scalar .null => refuse_describes (Yaml.repr_prints _)
  | .list _ => refuse_describes (Yaml.repr_prints _)
  | .dict _ => refuse_describes (Yaml.repr_prints _)

theorem policyLabel_prints : ∀ spec : Yaml, Prints (policyLabel spec) (labelInts spec)
  | .scalar (.str text) => .nothing text
  | .dict [(key, .list _)] => by
      rw [policyLabel, labelInts]
      exact key.toStr_prints.map _
  | .dict [(key, .scalar value)] => by
      rw [policyLabel, labelInts]
      · exact key.toStr_prints.bind fun _ => (policyLabel_prints (.scalar value)).map _
      · nofun
  | .dict [(key, .dict value)] => by
      rw [policyLabel, labelInts]
      · exact key.toStr_prints.bind fun _ => (policyLabel_prints (.dict value)).map _
      · nofun
  | .dict [] => Yaml.repr_prints _
  | .dict (_ :: _ :: _) => by
      rw [policyLabel, labelInts]
      · exact Yaml.repr_prints _
      all_goals nofun
  | .list _ => Yaml.repr_prints _
  | .scalar .null => Yaml.repr_prints _
  | .scalar (.bool _) => Yaml.repr_prints _
  | .scalar (.int _) => Yaml.repr_prints _
  | .scalar (.float _) => Yaml.repr_prints _

/-! ## Flows and faults -/

theorem validateFlow_describes (topo : Topo) (path : String) (flow : Yaml) :
    (flowCheck topo flow).Describes IsScenarioError (validateFlow topo path flow) := by
  cases flow with
  | scalar _ => exact .stop id fail_describes
  | list _ => exact .stop id fail_describes
  | dict entries =>
      refine (requireKeys_describes _ _ _ _).bind fun _ keys => ?_
      have found {name : String} (isRequired : name ∈ ["pairs", "policy", "rate", "duration"]) :=
        lookup_required keys isRequired
      rw [bind_of_ok (found (by simp : "pairs" ∈ _))]
      refine (resolvePairs_describes topo _ _).bind fun pairs _ => ?_
      rw [bind_of_ok (found (by simp : "policy" ∈ _))]
      refine (atPath_describes (policyFromSpec_describes topo _)).bind fun _ _ => ?_
      rw [bind_of_ok (found (by simp : "rate" ∈ _))]
      refine (parseRate_describes _ _).bind fun rate _ => ?_
      rw [bind_of_ok (found (by simp : "duration" ∈ _))]
      refine (parseDuration_describes _ _).bind fun duration _ => ?_
      exact ((prints_describes (policyLabel_prints _)).then_ok fun _ _ => ⟨_, rfl⟩).last

theorem isValueError_of_eq {α : Type} {message : String} {error : PyError}
    (raised : (.error (.valueError message) : Except PyError α) = .error error) :
    IsValueError error :=
  Or.inl ⟨message, (Except.error.inj raised).symm⟩

theorem pyInt_error {text : String} {error : PyError} (raised : pyInt text = .error error) :
    IsValueError error := by
  unfold pyInt at raised
  dsimp only at raised
  split at raised
  · exact isValueError_of_eq raised
  · split at raised
    · cases raised
    · exact isValueError_of_eq raised

theorem validateHost_error {topo : Topo} {host : String} {error : PyError}
    (raised : Netem.validateHost topo host = .error error) : IsValueError error := by
  unfold Netem.validateHost at raised
  split at raised
  · exact isValueError_of_eq raised
  · rcases bind_eq_error raised with failed | ⟨id, -, afterId⟩
    · exact pyInt_error failed
    · split at afterId
      · cases afterId
      · exact isValueError_of_eq afterId

/-- `parse_target` raises nothing but a `ValueError`. -/
theorem parseTarget_error {topo : Topo} {target : String} {error : PyError}
    (raised : Netem.parseTarget topo target = .error error) : IsValueError error := by
  unfold Netem.parseTarget at raised
  dsimp only at raised
  split at raised
  · split at raised
    · rcases bind_eq_error raised with failed | ⟨plane, -, afterPlane⟩
      · exact pyInt_error failed
      · split at afterPlane
        · cases afterPlane
        · exact isValueError_of_eq afterPlane
    · exact isValueError_of_eq raised
  · split at raised
    · rcases bind_eq_error raised with failed | ⟨plane, -, afterPlane⟩
      · exact pyInt_error failed
      · rcases bind_eq_error afterPlane with failed | ⟨_, -, afterHost⟩
        · exact validateHost_error failed
        · split at afterHost
          · cases afterHost
          · exact isValueError_of_eq afterHost
    · exact isValueError_of_eq raised
  · rcases bind_eq_error raised with failed | ⟨_, -, afterHost⟩
    · exact validateHost_error failed
    · cases afterHost
  · exact isValueError_of_eq raised

theorem normalizeSpec_error {spec : String} {error : PyError}
    (raised : Netem.normalizeSpec spec = .error error) : IsValueError error := by
  unfold Netem.normalizeSpec at raised
  split at raised
  · exact isValueError_of_eq raised
  · cases raised
  · split at raised
    · exact isValueError_of_eq raised
    · split at raised
      · cases raised
      · exact isValueError_of_eq raised

/-- A computation that raises errors of its own only. -/
theorem guard_of {α : Type} {own : PyError → Prop} {condition : Prop} {outcome : Except PyError α}
    (accepts : (∃ value, outcome = .ok value) ↔ condition)
    (only : ∀ error, outcome = .error error → own error) :
    (Check.guard condition).Describes own outcome where
  accepts := accepts
  escapes := by
    refine iff_of_false ?_ id
    rintro ⟨error, raised, foreign⟩
    exact foreign (only error raised)

theorem atPath_error {α : Type} {outcome : Except PyError α} {path : String}
    (only : ∀ error, outcome = .error error → IsValueError error) {error : PyError}
    (raised : atPath path outcome = .error error) : IsScenarioError error := by
  have described : (Check.guard (∃ value, outcome = .ok value)).Describes IsScenarioError
      (atPath path outcome) := atPath_describes (guard_of Iff.rfl only)
  by_contra foreign
  exact described.escapes.mp ⟨error, raised, foreign⟩

theorem requireStr_describes {entries : Entries} {path name : String}
    (found : lookup entries name = .ok (field name (.dict entries))) :
    (Check.guard (∃ text, text ≠ "" ∧ field name (.dict entries) = .scalar (.str text))).Describes
      IsScenarioError (requireStr entries path name) := by
  rw [requireStr, bind_of_ok found]
  generalize field name (.dict entries) = value
  split
  · next text =>
    refine guard_describes ?_ fun other => ?_
    · rintro ⟨_, nonempty, same⟩
      cases same
      exact ⟨text, if_neg nonempty⟩
    · by_cases empty : text = ""
      · exact ⟨_, if_pos empty, _, _, rfl⟩
      · exact absurd ⟨text, empty, rfl⟩ other
  · next noText =>
    refine guard_describes ?_ fun _ => ⟨_, rfl, _, _, rfl⟩
    rintro ⟨text, _, rfl⟩
    exact absurd rfl (noText text)

theorem requireStr_error {entries : Entries} {path name : String} {error : PyError}
    (found : lookup entries name = .ok (field name (.dict entries)))
    (raised : requireStr entries path name = .error error) : IsScenarioError error := by
  by_contra foreign
  exact (requireStr_describes found).escapes.mp ⟨error, raised, foreign⟩

theorem requireStr_of_field {entries : Entries} {path name text : String}
    (found : lookup entries name = .ok (field name (.dict entries)))
    (isText : field name (.dict entries) = .scalar (.str text)) (nonempty : text ≠ "") :
    requireStr entries path name = .ok text := by
  rw [requireStr, bind_of_ok found, isText]
  exact if_neg nonempty

theorem validateFault_describes (topo : Topo) (path : String) (fault : Yaml) :
    (faultCheck topo fault).Describes IsScenarioError (validateFault topo path fault) := by
  cases fault with
  | scalar _ => exact .stop id fail_describes
  | list _ => exact .stop id fail_describes
  | dict entries =>
      refine (requireKeys_describes _ _ _ _).bind fun _ keys => ?_
      have kindFound := lookup_required keys (by simp : "kind" ∈ ["kind", "target", "spec"])
      have targetFound := lookup_required keys (by simp : "target" ∈ ["kind", "target", "spec"])
      have specFound := lookup_required keys (by simp : "spec" ∈ ["kind", "target", "spec"])
      refine (guard_of ⟨?_, ?_⟩ ?_).last
      · rintro ⟨fault, accepted⟩
        obtain ⟨kind, kindOk, afterKind⟩ := bind_eq_ok accepted
        dsimp only at afterKind
        split at afterKind
        · obtain ⟨_, failed, -⟩ := bind_eq_ok afterKind
          exact absurd failed fail_ne_ok
        · next netem =>
          obtain ⟨target, targetOk, afterTarget⟩ := bind_eq_ok afterKind
          obtain ⟨spec, specOk, afterSpec⟩ := bind_eq_ok afterTarget
          obtain ⟨nics, parsed, afterParse⟩ := bind_eq_ok afterSpec
          obtain ⟨tokens, normalized, -⟩ := bind_eq_ok afterParse
          exact ⟨target, spec, not_not.mp netem ▸ requireStr_ok kindOk, requireStr_ok targetOk,
            requireStr_ok specOk, ⟨nics, atPath_ok parsed⟩, tokens, atPath_ok normalized⟩
      · rintro ⟨target, spec, isKind, isTarget, isSpec, ⟨nics, parsed⟩, tokens, normalized⟩
        have targetSome : target ≠ "" := by
          rintro rfl
          cases parsed
        have specSome : spec ≠ "" := by
          rintro rfl
          cases normalized
        refine ⟨⟨"netem", target, spec⟩, ?_⟩
        rw [bind_of_ok (requireStr_of_field kindFound isKind (by decide))]
        dsimp only
        rw [if_neg (not_not.mpr rfl), bind_of_ok (requireStr_of_field targetFound isTarget targetSome),
          bind_of_ok (requireStr_of_field specFound isSpec specSome), parsed, normalized]
        rfl
      · intro error raised
        rcases bind_eq_error raised with failed | ⟨kind, -, afterKind⟩
        · exact requireStr_error kindFound failed
        dsimp only at afterKind
        split at afterKind
        · exact ⟨_, _, (Except.error.inj afterKind).symm⟩
        rcases bind_eq_error afterKind with failed | ⟨target, -, afterTarget⟩
        · exact requireStr_error targetFound failed
        rcases bind_eq_error afterTarget with failed | ⟨spec, -, afterSpec⟩
        · exact requireStr_error specFound failed
        rcases bind_eq_error afterSpec with failed | ⟨nics, -, afterParse⟩
        · exact atPath_error (fun _ => parseTarget_error) failed
        rcases bind_eq_error afterParse with failed | ⟨tokens, -, built⟩
        · exact atPath_error (fun _ => normalizeSpec_error) failed
        · cases built

/-! ## The document -/

theorem validateReport_describes (path : String) (report : Yaml) :
    (reportCheck report).Describes IsScenarioError (validateReport path report) := by
  cases report with
  | scalar value =>
      cases value with
      | null => exact .ok trivial id
      | _ => exact .stop id fail_describes
  | list _ => exact .stop id fail_describes
  | dict entries =>
      refine (requireKeys_describes _ _ _ _).bind fun _ _ => Check.Describes.last ?_
      rw [field]
      cases Yaml.get? entries "out" with
      | none => exact .ok (Or.inl rfl) id
      | some out =>
          cases out with
          | scalar value =>
              cases value with
              | null => exact .ok (Or.inl rfl) id
              | str out => exact .ok (Or.inr ⟨out, rfl⟩) id
              | _ => exact guard_describes (by simp) fun _ => ⟨_, rfl, _, _, rfl⟩
          | _ => exact guard_describes (by simp) fun _ => ⟨_, rfl, _, _, rfl⟩

/-- A tunable that is missing passes. -/
theorem ifPresent_describes {α : Type} {entries : Entries} {name : String} {check : Yaml → Check}
    {outcome : Except PyError α}
    (missing : Yaml.get? entries name = none → ∃ value, outcome = .ok value)
    (present : ∀ value, Yaml.get? entries name = some value →
      (check value).Describes IsScenarioError outcome) :
    (ifPresent check name (.dict entries)).Describes IsScenarioError outcome := by
  rw [ifPresent]
  cases found : Yaml.get? entries name with
  | none =>
      obtain ⟨value, rfl⟩ := missing found
      exact .ok trivial id
  | some value => exact present value found

theorem positiveInt_describes (entries : Entries) (path name : String) :
    (ifPresent positiveIntCheck name (.dict entries)).Describes IsScenarioError
      (positiveInt entries path name) := by
  refine ifPresent_describes (fun missing => ?_) fun value present => ?_
  · rw [positiveInt, missing]
    exact ⟨none, rfl⟩
  · unfold positiveInt
    rw [present]
    refine orShow_describes ?_ fun other => ?_
    · rintro ⟨n, positive, rfl⟩
      exact ⟨some n, if_pos positive⟩
    · split
      · next absent => cases absent
      · next n same =>
        obtain rfl := Option.some.inj same
        rw [if_neg fun positive => other ⟨n, positive, rfl⟩]
        exact refuse_describes (intStr_prints n)
      · next _ same =>
        obtain rfl := Option.some.inj same
        exact refuse_describes (Yaml.repr_prints _)

theorem ratio_describes (entries : Entries) (path name : String) :
    (ifPresent ratioCheck name (.dict entries)).Describes IsScenarioError
      (ratio entries path name) := by
  refine ifPresent_describes (fun missing => ?_) fun value present => ?_
  · rw [ratio, missing]
    exact ⟨none, rfl⟩
  · unfold ratio
    rw [present]
    match value with
    | .scalar (.int n) =>
        refine (ofInt_describes n fun _ => by rintro ⟨_, _, ⟨⟩⟩).bind fun number converted => ?_
        refine (orShow_describes (fun small => ?_) fun large => ?_).last
        · exact ⟨some number, if_pos ((PyFloat.ofInt_unit_iff converted).mpr small)⟩
        · rw [if_neg fun inRange => large ((PyFloat.ofInt_unit_iff converted).mp inRange)]
          exact refuse_describes (Yaml.toStr_prints _)
    | .scalar (.float number) =>
        refine guard_describes (fun inRange => ⟨some number, if_pos inRange⟩) fun outside => ?_
        exact ⟨_, if_neg outside, _, _, rfl⟩
    | .scalar .null => exact refuse_describes (Yaml.repr_prints _)
    | .scalar (.bool _) => exact refuse_describes (Yaml.repr_prints _)
    | .scalar (.str _) => exact refuse_describes (Yaml.repr_prints _)
    | .list _ => exact refuse_describes (Yaml.repr_prints _)
    | .dict _ => exact refuse_describes (Yaml.repr_prints _)

theorem validateMrc_describes (path : String) (mrc : Yaml) :
    (mrcCheck mrc).Describes IsScenarioError (validateMrc path mrc) := by
  cases mrc with
  | scalar value =>
      cases value with
      | null => exact .ok trivial id
      | _ => exact .stop id fail_describes
  | list _ => exact .stop id fail_describes
  | dict entries =>
      refine (requireKeys_describes _ _ _ _).bind fun _ _ => ?_
      iterate 9 refine (positiveInt_describes entries path _).bind fun _ _ => ?_
      exact ((ratio_describes entries path _).then_ok fun _ _ => ⟨_, rfl⟩).last

theorem optStr_describes (entries : Entries) (path name default : String) :
    (ifPresent (fun value => .guard (∃ text, value = .scalar (.str text))) name
      (.dict entries)).Describes IsScenarioError (optStr entries path name default) := by
  refine ifPresent_describes (fun missing => ?_) fun value present => ?_
  · rw [optStr, missing]
    exact ⟨default, rfl⟩
  · rw [optStr, present]
    refine guard_describes ?_ fun other => ?_
    · rintro ⟨text, rfl⟩
      exact ⟨text, rfl⟩
    · split
      · next absent => cases absent
      · next text same => exact absurd ⟨text, Option.some.inj same⟩ other
      · exact ⟨_, rfl, _, _, rfl⟩

theorem flowItems_describes {entries : Entries}
    (found : lookup entries "flows" = .ok (field "flows" (.dict entries))) :
    (Check.guard (∃ flows, flows ≠ [] ∧ field "flows" (.dict entries) = .list flows)).Describes
      IsScenarioError (flowItems entries) := by
  rw [flowItems, bind_of_ok found]
  match field "flows" (.dict entries) with
  | .list [] => exact guard_describes (by simp) fun _ => ⟨_, rfl, _, _, rfl⟩
  | .list (first :: rest) => exact .ok ⟨first :: rest, by simp, rfl⟩ id
  | .scalar _ => exact guard_describes (by simp) fun _ => ⟨_, rfl, _, _, rfl⟩
  | .dict _ => exact guard_describes (by simp) fun _ => ⟨_, rfl, _, _, rfl⟩

theorem faultItems_describes (entries : Entries) :
    (Check.guard ((field "faults" (.dict entries)).truthy = false ∨
      ∃ faults, field "faults" (.dict entries) = .list faults)).Describes
      IsScenarioError (faultItems entries) := by
  unfold faultItems
  rw [field]
  split
  · next absent =>
    rw [absent]
    exact .ok (Or.inl rfl) id
  · next faults present =>
    rw [present]
    exact .ok (Or.inr ⟨faults, rfl⟩) id
  · next value notList present =>
    rw [present]
    refine guard_describes ?_ fun other => ?_
    · rintro (falsy | ⟨faults, same⟩)
      · exact ⟨[], if_neg (Bool.not_eq_true _ ▸ falsy)⟩
      · exact absurd same (notList faults)
    · exact ⟨_, if_pos (Bool.not_eq_false _ ▸ fun falsy => other (Or.inl falsy)), _, _, rfl⟩

theorem validate_describes (topo : Topo) (doc : Yaml) :
    (documentCheck topo doc).Describes IsScenarioError (validate topo doc) := by
  cases doc with
  | scalar _ => exact .stop id fail_describes
  | list _ => exact .stop id fail_describes
  | dict entries =>
      refine (requireKeys_describes _ _ _ _).bind fun _ keys => ?_
      have nameFound := lookup_required keys (by simp : "name" ∈ ["name", "flows"])
      have flowsFound := lookup_required keys (by simp : "flows" ∈ ["name", "flows"])
      refine (requireStr_describes nameFound).bind fun name _ => ?_
      refine (optStr_describes entries "$" "description" "").bind fun description _ => ?_
      refine (flowItems_describes flowsFound).bind fun flowsRaw flowsOk => ?_
      rw [← flowItems_ok flowsOk]
      refine (atIndices_describes (validateFlow_describes topo) flowsRaw).bind fun flows _ => ?_
      refine (faultItems_describes entries).bind fun faultsRaw faultsOk => ?_
      rw [← faultItems_ok faultsOk]
      refine (atIndices_describes (validateFault_describes topo) faultsRaw).bind fun faults _ => ?_
      refine (validateReport_describes _ _).bind fun report _ => Check.Describes.last ?_
      refine Check.Describes.then_ok ?_ fun _ _ => ⟨_, rfl⟩
      rw [field]
      cases Yaml.get? entries "mrc" with
      | none => exact .ok trivial id
      | some mrc => exact (validateMrc_describes "$.mrc" mrc).then_ok fun _ _ => ⟨_, rfl⟩

/-- A scenario, or a `ScenarioError`. -/
def Handled (outcome : Except PyError Scenario) : Prop :=
  (∃ scenario, outcome = .ok scenario) ∨
    ∃ path message, outcome = .error (.scenarioError path message)

/-- No other exception leaves the validator, except where the first problem of the document is
one that lets it. -/
theorem validate_handled_iff (topo : Topo) (doc : Yaml) :
    Handled (validate topo doc) ↔ ¬ (documentCheck topo doc).escapes := by
  rw [← (validate_describes topo doc).escapes]
  constructor
  · rintro (⟨scenario, returned⟩ | ⟨path, message, raised⟩) ⟨error, isError, foreign⟩
    · rw [returned] at isError
      cases isError
    · rw [raised] at isError
      exact foreign ⟨path, message, (Except.error.inj isError).symm⟩
  · intro noEscape
    cases outcome : validate topo doc with
    | ok scenario => exact Or.inl ⟨scenario, rfl⟩
    | error error =>
        by_contra unhandled
        refine noEscape ⟨error, outcome, ?_⟩
        rintro ⟨path, message, rfl⟩
        exact unhandled (Or.inr ⟨path, message, rfl⟩)

/-- A document of one flow with some weights. -/
def weightedFlow (weights : Yaml) : Yaml :=
  .dict [(.str "name", .scalar (.str "smoke")), (.str "flows", .list [.dict [
    (.str "pairs", .scalar (.str "green-pairs-8")), (.str "policy", .dict [(.str "weighted", weights)]),
    (.str "rate", .scalar (.str "1000pps")), (.str "duration", .scalar (.str "500ms"))]])]

/-- One number in place of the list is a `TypeError`. -/
theorem weighted_number_escapes :
    ¬ Handled (validate Topo.fourPlanes (weightedFlow (.scalar (.int 5)))) := by
  have raised : validate Topo.fourPlanes (weightedFlow (.scalar (.int 5))) =
      .error (.typeError "'int' object is not iterable") := rfl
  rw [raised]
  rintro (⟨_, ⟨⟩⟩ | ⟨_, _, ⟨⟩⟩)

end Srv6Fabric.Mrc.Scenario

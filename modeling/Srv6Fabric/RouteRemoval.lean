import Srv6Fabric.CanonicalText
import Srv6Fabric.RouteDelivery

/-!
# Removing every route

`routes delete --all` knows the routes from what `ip -6 route` prints of them.  It finds every
`encap seg6` route of every host, whoever installed it, and deletes no other: a line in which
`encap seg6` only begins a longer word is passed over.
-/

namespace Srv6Fabric.Routes

open Library IpAddress
open Fabric (Fits fits_default)

/-! ## Scanning -/

/-- `all_host_names`, without filters. -/
def allHostNames (topo : Topo) : List String :=
  [Tenant.green, Tenant.yellow].flatMap fun tenant =>
    (List.range topo.numLeaves).map (hostName tenant)

/-- `list_srv6_routes_on_host`, of a host that answers with these lines. -/
def listSrv6RoutesOnHost (lines : List String) : List String :=
  lines.filter fun line => "encap seg6".toList <:+: line.toList

/-- What `scan` makes of a line: the `Route` its deletion is asked for by. -/
def discover (word : WordClass) (host line : String) : Except PyError (Option Route) :=
  match (reSeg6 word).matchText line.toList with
  | none => .ok none
  | some captures => do
      let field := fun name => (captures.lookup name).getD []
      let dst := if '/' ∈ field "dst" then field "dst" else field "dst" ++ "/128".toList
      let metric ← pyInt (String.ofList (field "metric"))
      return some ⟨host, String.ofList dst, "", String.ofList (field "dev"), metric⟩

/-- `scan`, with its exit code; what it found before an error stays found. -/
def scan (word : WordClass) (host : String) : List String → List Route × Nat
  | [] => ([], 0)
  | line :: rest =>
      match discover word host line with
      | .error _ => ([], 1)
      | .ok found =>
          let (more, rc) := scan word host rest
          (found.toList ++ more, rc)

/-- What the scans of all hosts find, by the lines each host prints. -/
def discovered (topo : Topo) (word : WordClass) (shown : String → List String) : List Route :=
  (allHostNames topo).flatMap fun host => (scan word host (listSrv6RoutesOnHost (shown host))).1

/-- The second step of `_delete_all`, with its exit code; the deletions complete in some order. -/
def deleteAll (order : List Route) (fibs : Fibs) : Fibs × Nat :=
  if order = [] then (fibs, 0)
  else
    let (fibs, failures) := runParallel routeDelete order fibs
    (fibs, if failures ≠ 0 then 1 else 0)

/-! ## Printed routes -/

/-- iproute2's text of a destination. -/
def shownDst (dst : IpAddress × Nat) : String :=
  if dst.2 = 128 then dst.1.str
  else if dst.2 = 0 then "default"
  else dst.1.str ++ "/" ++ toString dst.2

/-- A segment list as it is printed. -/
def shownSegs (segs : String) : String :=
  match ofText segs with
  | some addr => addr.str
  | none => segs

/-- The line of a route, with what iproute2 may add at the end. -/
def shownRoute (key : FibKey) (segs tail : String) : String :=
  shownDst key.dst ++ " encap seg6 mode encap.red segs 1 [ " ++ shownSegs segs ++ " ] dev " ++
    key.dev ++ " metric " ++ toString key.metric ++ tail

/-- A route that the kernel can hold, with one segment; a default route is printed otherwise. -/
structure Printed (key : FibKey) (segs : String) : Prop where
  dst : ∃ groups length, key.dst = (.v6 groups none, length) ∧ groups.length = 8 ∧
    (∀ group ∈ groups, group < 65536) ∧ 0 < length
  segs : ∃ groups, ofText segs = some (.v6 groups none)
  dev : key.dev ≠ "" ∧ ∀ char ∈ key.dev.toList, nonSpace char
  metric : key.metric < 2 ^ 32

/-- The lines of a host: those of its routes, and others. -/
def Shows (fib : Fib) (tail : FibKey → String) (others lines : List String) : Prop :=
  ∀ line, line ∈ lines ↔
    (∃ key segs, fib.lookup key = some segs ∧ line = shownRoute key segs (tail key)) ∨ line ∈ others

/-- Wherever `encap seg6` stands in a line it begins a longer word, as in `encap seg6local`. -/
def NotSeg6 (word : WordClass) (line : List Char) : Prop :=
  ∀ front back, line = front ++ "encap seg6".toList ++ back → ∃ char ∈ back.head?, word.is char

theorem notSeg6_iff {word : WordClass} {line : List Char} : NotSeg6 word line ↔
    ∀ rest ∈ line.tails, "encap seg6".toList <+: rest → (rest.drop 10).head?.any word.is := by
  have length : "encap seg6".toList.length = 10 := rfl
  constructor
  · rintro other rest mem ⟨back, rfl⟩
    obtain ⟨front, split⟩ := (List.mem_tails _ _).mp mem
    obtain ⟨char, isHead, isWord⟩ := other front back (by rw [← split, List.append_assoc])
    rw [List.drop_left' length, Option.mem_def.mp isHead]
    exact isWord
  · intro all front back split
    have later := all ("encap seg6".toList ++ back)
      ((List.mem_tails _ _).mpr ⟨front, by rw [split, List.append_assoc]⟩) (List.prefix_append _ _)
    rw [List.drop_left' length, Option.any_eq_true] at later
    exact later

instance (word : WordClass) (line : List Char) : Decidable (NotSeg6 word line) :=
  decidable_of_iff _ notSeg6_iff.symm

/-! ## Lines -/

/-- What is not an `encap seg6` line does not match. -/
theorem matchText_none {word : WordClass} {line : List Char} (other : NotSeg6 word line) :
    (reSeg6 word).matchText line = none := by
  unfold reSeg6 Pattern.matchText
  refine Pattern.seqs_here_none ?_
  refine Pattern.seqs_group_many_none fun dst afterDst atDst _ => ?_
  refine Pattern.seqs_many_none fun spaces afterSpaces atSpaces _ => ?_
  refine Pattern.seqs_many_none fun skipped back atBack _ => ?_
  refine Pattern.seqs_here_none ?_
  by_cases here : "encap seg6".toList <+: back
  · obtain ⟨rest, rfl⟩ := here
    obtain ⟨char, isHead, isWord⟩ := other (dst ++ spaces ++ skipped) rest (by
      rw [atDst, atSpaces, atBack]
      simp)
    have six : word.is '6' = true := by
      rw [word.ascii '6' (by decide)]
      decide
    rw [Pattern.first_seqs_cons, lit, Pattern.first_text (List.map_id _), Pattern.first_seqs_cons,
      Pattern.boundary, Pattern.first, if_neg]
    change ¬ (Option.any word.is (some '6') != rest.head?.any word.is) = true
    rw [Option.mem_def.mp isHead, Option.any_some, Option.any_some, six, isWord]
    decide
  · exact Pattern.seqs_text_none here

theorem discover_other {word : WordClass} {host line : String} (other : NotSeg6 word line.toList) :
    discover word host line = .ok none := by
  rw [discover, matchText_none other]

theorem discover_matched {word : WordClass} {host line : String} {dst dev metric : List Char}
    {number : Nat} (matched : (reSeg6 word).matchText line.toList =
      some [("dst", dst), ("dev", dev), ("metric", metric)])
    (isMetric : pyInt (String.ofList metric) = .ok number) :
    discover word host line = .ok (some ⟨host,
      String.ofList (if '/' ∈ dst then dst else dst ++ "/128".toList), "", String.ofList dev,
      number⟩) := by
  rw [discover, matched]
  exact bind_of_ok isMetric

theorem shownDst_eq {groups : List Nat} {length : Nat} (positive : 0 < length) :
    shownDst (.v6 groups none, length) = if length = 128 then (IpAddress.v6 groups none).str
      else (IpAddress.v6 groups none).str ++ "/" ++ toString length := by
  have notDefault : length ≠ 0 := by omega
  unfold shownDst
  dsimp only
  rw [if_neg notDefault]

theorem inner_digit {char : Char} (isDigit : char.isDigit) : Inner char := by
  refine ⟨?_, fun mark => ?_⟩
  · rw [nonSpace, (PyFloat.visible_of_isDigit isDigit).1]
    rfl
  · have none_ : ∀ mark ∈ ['v', 's', ']', '\n'], mark.isDigit = false := forall_mem_of_all rfl
    rw [none_ char mark] at isDigit
    cases isDigit

theorem digits_toDigits {number : Nat} : ∀ char ∈ Nat.toDigits 10 number, char.isDigit :=
  fun _ mem => Nat.isDigit_of_mem_toDigits (by decide) (by decide) mem

section Destinations

variable {groups : List Nat} (eight : groups.length = 8) (small : ∀ group ∈ groups, group < 65536)
  {length : Nat} (positive : 0 < length)

include positive

theorem inner_shownDst : ∀ char ∈ (shownDst (.v6 groups none, length)).toList, Inner char := by
  rw [shownDst_eq positive]
  split
  · exact inner_str groups
  · rw [String.toList_append, String.toList_append, show toString length = Nat.repr length from rfl,
      Nat.toList_repr, List.forall_mem_append, List.forall_mem_append]
    exact ⟨⟨inner_str groups, forall_mem_of_all rfl⟩, fun char mem =>
      inner_digit (digits_toDigits char mem)⟩

include eight small

theorem shownDst_ne_nil : (shownDst (.v6 groups none, length)).toList ≠ [] := by
  have text : (IpAddress.v6 groups none).str.toList ≠ [] := by
    intro empty
    have read := parseV6_str eight small
    rw [empty] at read
    cases read
  rw [shownDst_eq positive]
  split
  · exact text
  · rw [String.toList_append, String.toList_append, List.append_assoc]
    exact List.append_ne_nil_of_left_ne_nil text _

/-- The destination that is read off a line is the one the route has. -/
theorem readPrefix_shown :
    readPrefix (String.ofList (if '/' ∈ (shownDst (.v6 groups none, length)).toList
        then (shownDst (.v6 groups none, length)).toList
        else (shownDst (.v6 groups none, length)).toList ++ "/128".toList)) =
      some (.v6 groups none, length) := by
  rw [shownDst_eq positive]
  split_ifs with natural slash slash
  · exact absurd slash (mark_not_mem_str (by decide))
  · have whole : String.ofList ((IpAddress.v6 groups none).str.toList ++ "/128".toList) =
        (IpAddress.v6 groups none).str ++ "/" ++ toString 128 := by
      rw [← String.toList_inj, String.toList_ofList, String.append_assoc, String.toList_append]
      rfl
    rw [whole, natural]
    exact readPrefix_str eight small 128
  · rw [String.ofList_toList]
    exact readPrefix_str eight small length
  · exact absurd (by simp) slash

end Destinations

/-- The line of a route is found, and it is understood as that route. -/
theorem discover_shown (word : WordClass) (host : String) {key : FibKey} {segs tail : String}
    (printed : Printed key segs) (spaced : ∀ char ∈ tail.toList.head?, char = ' ') :
    ∃ route, discover word host (shownRoute key segs tail) = .ok (some route) ∧
      route.onHost = host ∧ fibKey? route = some key := by
  obtain ⟨groups, length, dst, eight, small, positive⟩ := printed.dst
  obtain ⟨segGroups, read⟩ := printed.segs
  obtain ⟨devSome, devWord⟩ := printed.dev
  have segsInner : ∀ char ∈ (shownSegs segs).toList, Inner char := by
    rw [shownSegs, read]
    exact inner_str segGroups
  have metricDigits : ∀ char ∈ Nat.toDigits 10 key.metric, isDecimal char := fun char mem =>
    isDecimal_of_isDigit (digits_toDigits char mem)
  have line : (shownRoute key segs tail).toList = lineChars (shownDst (.v6 groups none, length)).toList
      (shownSegs segs).toList key.dev.toList (Nat.toDigits 10 key.metric) tail.toList := by
    rw [shownRoute, dst]
    simp [lineChars]
  have short : (Nat.toDigits 10 key.metric).length ≤ maxStrDigits := by
    have ten : (Nat.toDigits 10 key.metric).length ≤ 10 :=
      (Nat.length_toDigits_le_iff (by decide) (by decide)).mpr (printed.metric.trans (by decide))
    exact ten.trans (by decide)
  have matched := matchText_line word (shownDst_ne_nil eight small positive) (inner_shownDst positive)
    segsInner (mt String.toList_eq_nil_iff.mp devSome) devWord Nat.toDigits_ne_nil metricDigits spaced
  rw [← line] at matched
  refine ⟨_, discover_matched matched (pyInt_toDigits short), rfl, ?_⟩
  rw [fibKey?, String.ofList_toList, readPrefix_shown eight small positive, Option.map_some, ← dst]

theorem encap_in_shown (key : FibKey) (segs tail : String) :
    "encap seg6".toList <:+: (shownRoute key segs tail).toList :=
  ⟨(shownDst key.dst).toList ++ [' '], " mode encap.red segs 1 [ ".toList ++ (shownSegs segs).toList ++
    " ] dev ".toList ++ key.dev.toList ++ " metric ".toList ++ (toString key.metric).toList ++
    tail.toList, by simp [shownRoute]⟩

/-! ## What is found -/

theorem mem_scan {word : WordClass} {host : String} {lines : List String}
    (read : ∀ line ∈ lines, ∃ found, discover word host line = .ok found) (route : Route) :
    route ∈ (scan word host lines).1 ↔ ∃ line ∈ lines, discover word host line = .ok (some route) := by
  induction lines with
  | nil => simp [scan]
  | cons line rest ih =>
      obtain ⟨⟨found, isFound⟩, later⟩ := List.forall_mem_cons.mp read
      rw [scan, isFound]
      dsimp only
      rw [List.mem_append, ih later, Option.mem_toList, List.exists_mem_cons_iff, isFound]
      simp

section Scanned

variable {topo : Topo} {word : WordClass} {fibs : Fibs} {tail : FibKey → String}
  {others shown : String → List String}
  (printed : ∀ host ∈ allHostNames topo, ∀ key segs, (fibs host).lookup key = some segs →
    Printed key segs)
  (spaced : ∀ key, ∀ char ∈ (tail key).toList.head?, char = ' ')
  (foreign : ∀ host ∈ allHostNames topo, ∀ line ∈ others host, NotSeg6 word line.toList)
  (shows : ∀ host ∈ allHostNames topo, Shows (fibs host) tail (others host) (shown host))

include printed spaced foreign shows

/-- A line is that of a route, and found to be one, or it is passed over. -/
theorem discover_cases {host line : String} (isHost : host ∈ allHostNames topo)
    (mem : line ∈ shown host) :
    (∃ key ∈ fibs host, ∃ route, discover word host line = .ok (some route) ∧ route.onHost = host ∧
      fibKey? route = some key) ∨ discover word host line = .ok none := by
  rcases (shows host isHost line).mp mem with ⟨key, segs, isHeld, rfl⟩ | other
  · obtain ⟨route, found⟩ := discover_shown word host (printed host isHost key segs isHeld) (spaced key)
    exact Or.inl ⟨key, Finmap.mem_of_lookup_eq_some isHeld, route, found⟩
  · exact Or.inr (discover_other (foreign host isHost line other))

theorem mem_discovered (route : Route) : route ∈ discovered topo word shown ↔
    ∃ host ∈ allHostNames topo, ∃ line ∈ listSrv6RoutesOnHost (shown host),
      discover word host line = .ok (some route) := by
  rw [discovered, List.mem_flatMap]
  refine exists_congr fun host => and_congr_right fun isHost => mem_scan (fun line mem => ?_) route
  rcases discover_cases printed spaced foreign shows isHost (List.mem_filter.mp mem).1 with
    ⟨_, _, route, found, _⟩ | none_
  · exact ⟨_, found⟩
  · exact ⟨_, none_⟩

/-- Only routes that are held are found. -/
theorem held_of_discovered {route : Route} (mem : route ∈ discovered topo word shown) :
    route.onHost ∈ allHostNames topo ∧ ∃ key ∈ fibs route.onHost, fibKey? route = some key := by
  obtain ⟨host, isHost, line, inLines, found⟩ :=
    (mem_discovered printed spaced foreign shows route).mp mem
  rcases discover_cases printed spaced foreign shows isHost (List.mem_filter.mp inLines).1 with
    ⟨key, isHeld, other, otherFound, rfl, isKey⟩ | none_
  · obtain rfl : other = route := by
      rw [otherFound] at found
      exact Option.some.inj (Except.ok.inj found)
    exact ⟨isHost, key, isHeld, isKey⟩
  · rw [none_] at found
    cases found

/-- Every route that is held is found. -/
theorem discovered_of_held {host : String} (isHost : host ∈ allHostNames topo) {key : FibKey}
    (isHeld : key ∈ fibs host) :
    ∃ route ∈ discovered topo word shown, route.onHost = host ∧ fibKey? route = some key := by
  obtain ⟨segs, stored⟩ := Finmap.mem_iff.mp isHeld
  obtain ⟨route, found, onHost, isKey⟩ :=
    discover_shown word host (printed host isHost key segs stored) (spaced key)
  refine ⟨route, (mem_discovered printed spaced foreign shows route).mpr ⟨host, isHost, _, ?_, found⟩,
    onHost, isKey⟩
  refine List.mem_filter.mpr ⟨(shows host isHost _).mpr (Or.inl ⟨key, segs, stored, rfl⟩), ?_⟩
  exact decide_eq_true (encap_in_shown key segs (tail key))

/-- The deletions succeed, and leave no route on the hosts. -/
theorem deleteAll_eq {order : List Route} (isOrder : order.Perm (discovered topo word shown)) :
    deleteAll order fibs = (fun host => if host ∈ allHostNames topo then ∅ else fibs host, 0) := by
  have succeeds : (runParallel routeDelete order fibs).2 = 0 := by
    refine runParallel_snd (fun route mem fibs => ?_) fibs
    obtain ⟨-, key, -, isKey⟩ :=
      held_of_discovered printed spaced foreign shows (isOrder.mem_iff.mp mem)
    rw [routeDelete, ipRouteDel, isKey]
    dsimp only
    split <;> rfl
  have cleared : (runParallel routeDelete order fibs).1 =
      fun host => if host ∈ allHostNames topo then ∅ else fibs host := by
    funext host
    refine Finmap.ext_lookup fun key => ?_
    have stored := congrFun (held_deleteAll order fibs) (host, key)
    rw [KeyedWrites.dropAll_apply] at stored
    refine stored.trans ?_
    split
    · next dropped =>
      obtain ⟨route, mem, isKey⟩ := List.mem_filterMap.mp dropped
      obtain ⟨other, -, same⟩ := Option.map_eq_some_iff.mp isKey
      obtain ⟨rfl, rfl⟩ := Prod.mk.inj same
      rw [if_pos (held_of_discovered printed spaced foreign shows (isOrder.mem_iff.mp mem)).1,
        Finmap.lookup_empty]
    · next kept =>
      split
      · next isHost =>
        rw [Finmap.lookup_empty]
        refine Finmap.lookup_eq_none.mpr fun isHeld => kept ?_
        obtain ⟨route, mem, rfl, isKey⟩ :=
          discovered_of_held printed spaced foreign shows isHost isHeld
        refine List.mem_filterMap.mpr ⟨route, isOrder.mem_iff.mpr mem, ?_⟩
        rw [storeKey?, isKey, Option.map_some]
      · rfl
  have ran : runParallel routeDelete order fibs = (_, 0) := Prod.ext cleared succeeds
  unfold deleteAll
  split
  · next none_ =>
    rw [none_] at ran
    exact ran
  · rw [ran]
    rfl

end Scanned

/-! ## Runs -/

/-- The tables the tool leaves behind, over routes that were there before.  A run may have been
cut short. -/
inductive Reached (topo : Topo) : Fibs → Prop where
  | start {fibs : Fibs}
      (printed : ∀ host key segs, (fibs host).lookup key = some segs → Printed key segs) :
      Reached topo fibs
  | applied {fibs : Fibs} {doc : List (Scalar × Yaml)} {pairs : List (Pair topo)} {order : List Route}
      (reached : Reached topo fibs) (expanded : expandSpec topo doc = .ok pairs)
      (isOrder : order ⊆ specRoutes pairs) : Reached topo (runParallel routeReplace order fibs).1
  | deleted {fibs : Fibs} {order : List Route} (reached : Reached topo fibs) :
      Reached topo (runParallel routeDelete order fibs).1

theorem nonSpace_planeNic (plane : Nat) : ∀ char ∈ (Topo.planeNic plane).toList, nonSpace char := by
  rw [planeNic_toList, List.forall_mem_append]
  exact ⟨forall_mem_of_all rfl, fun char mem => (inner_digit (digits_toDigits char mem)).1⟩

theorem printed_route {topo : Topo} (fits : Fits topo) {pair : Pair topo} (isSpine : pair.spine < 16)
    {route : Route} (mem : route ∈ pair.routes) {key : FibKey} (isKey : fibKey? route = some key) :
    Printed key route.segs := by
  obtain ⟨srcId, dstId, plane, -, -, rfl⟩ := mem_routes.mp mem
  have plane16 : (plane : Nat) < 16 := lt_of_lt_of_le plane.isLt fits.planes
  have dst16 : (dstId : Nat) < 16 := lt_of_lt_of_le dstId.isLt fits.leaves
  have small : ∀ group ∈ innerGroups pair.key.tenant.name dstId, group < 65536 := by
    have network : (if pair.key.tenant.name = "green" then 0xbbbb else 0xcccc) < 65536 := by
      split <;> decide
    simp only [innerGroups, List.forall_mem_cons]
    exact ⟨by decide, by decide, network, by omega, by decide, by decide, by decide, by decide,
      List.forall_mem_nil _⟩
  rw [pair.fibKey?_route (fits.leaves.trans (by decide))] at isKey
  obtain rfl := Option.some.inj isKey
  refine ⟨⟨_, 128, rfl, rfl, small, by decide⟩, ⟨_, ofText_buildSegs _ plane16 isSpine dst16⟩,
    ⟨?_, nonSpace_planeNic plane⟩, ?_⟩
  · intro empty
    have chars := planeNic_toList plane
    rw [show Topo.planeNic plane = "" from empty] at chars
    exact absurd chars (by simp)
  · change 100 + (plane : Nat) < 2 ^ 32
    omega

/-- All routes that are ever held can be printed. -/
theorem Reached.printed {topo : Topo} (fits : Fits topo) (some_ : 0 < topo.numSpines) {fibs : Fibs}
    (reached : Reached topo fibs) (host : String) (key : FibKey) (segs : String)
    (isHeld : (fibs host).lookup key = some segs) : Printed key segs := by
  induction reached generalizing host key segs with
  | start printed => exact printed host key segs isHeld
  | @applied fibs doc pairs order reached expanded isOrder ih =>
      have stored := congrFun (held_replaceAll order fibs) (host, key)
      rcases KeyedWrites.putAll_cases (order.filterMap write?) (held fibs) (host, key) with
        ⟨value, written, isValue⟩ | kept
      · obtain rfl : value = segs := by
          rw [isValue] at stored
          exact Option.some.inj (stored.symm.trans isHeld)
        obtain ⟨route, mem, -, isKey, rfl⟩ := mem_writes.mp written
        obtain ⟨pair, isPair, inRoutes⟩ := List.mem_flatMap.mp (isOrder mem)
        exact printed_route fits (pair_spine_lt fits some_ expanded isPair) inRoutes isKey
      · rw [kept] at stored
        exact ih host key segs (stored.symm.trans isHeld)
  | @deleted fibs order reached ih =>
      have stored := congrFun (held_deleteAll order fibs) (host, key)
      rw [KeyedWrites.dropAll_apply] at stored
      split at stored
      · cases stored.symm.trans isHeld
      · exact ih host key segs (stored.symm.trans isHeld)

/-- One route, from host 0 to host 15 over plane 0. -/
def oneRoute (host : String) : Fib :=
  if host = "green-host00" then
    Finmap.singleton (slotKey .green 15 0) "fc00:0000:f000:e00f:d000::"
  else ∅

/-- The line of an End.DT6 SID, which is no `encap seg6` route. -/
def localLine : String :=
  "fc00:0:d001::/48 encap seg6local action End.DT6 vrftable 100 dev eth1 metric 1024 pref medium"

theorem printed_oneRoute (host : String) (key : FibKey) (segs : String)
    (isHeld : (oneRoute host).lookup key = some segs) :
    host = "green-host00" ∧ key = slotKey .green 15 0 ∧ segs = "fc00:0000:f000:e00f:d000::" := by
  unfold oneRoute at isHeld
  split at isHeld
  · next isHost =>
    obtain rfl := (Finmap.mem_singleton _ _ _).mp (Finmap.mem_of_lookup_eq_some isHeld)
    rw [Finmap.lookup_singleton_eq] at isHeld
    exact ⟨isHost, rfl, (Option.some.inj isHeld).symm⟩
  · cases isHeld

def oneRouteLines (host : String) : List String :=
  if host = "green-host00" then
    [localLine, shownRoute (slotKey .green 15 0) "fc00:0000:f000:e00f:d000::" " pref medium"]
  else [localLine]

theorem shows_oneRoute (host : String) :
    Shows (oneRoute host) (fun _ => " pref medium") [localLine] (oneRouteLines host) := by
  intro line
  constructor
  · intro mem
    unfold oneRouteLines at mem
    split at mem
    · next isHost =>
      rcases List.mem_cons.mp mem with rfl | last
      · exact Or.inr List.mem_cons_self
      · rw [List.mem_singleton.mp last]
        refine Or.inl ⟨_, _, ?_, rfl⟩
        rw [oneRoute, if_pos isHost, Finmap.lookup_singleton_eq]
    · exact Or.inr mem
  · rintro (⟨key, segs, isHeld, rfl⟩ | other)
    · obtain ⟨rfl, rfl, rfl⟩ := printed_oneRoute host key segs isHeld
      exact List.mem_cons_of_mem _ List.mem_cons_self
    · rw [List.mem_singleton.mp other, oneRouteLines]
      split <;> exact List.mem_cons_self

end Srv6Fabric.Routes

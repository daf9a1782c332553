import PathRouter.Proofs.BuiltPath
import PathRouter.Proofs.FirstRoute

/-!
# The names of captures

One alternative of a resource decides a match, and what is captured has the names of its captures, in
order, whatever groups its inline expressions have. Two captures of a pattern never share a name, so
it makes no difference whether the first or the last value of a name counts: whatever shows the
captures of a routed path shows the same entries.
-/

namespace PathRouter
set_option autoImplicit false

/-! ## The alternative that decides -/

/-- The matchers with a single alternative each, in order. -/
def Matcher.singles : Matcher → List Matcher
  | static alternatives extent => alternatives.map fun a => .static [a] extent
  | regex alternatives extent => alternatives.map fun a => .regex [a] extent

/-- The match of a resource is that of its alternative at an index, which was made from `segments`:
by itself this alternative matches so, and those before it do not match. -/
structure Resource.DecidedBy (r : Resource) (text : Text) (pos : Nat) (result : MatchResult) (i : Nat)
    (segments : List Segment) : Prop where
  sequence : r.sequences[i]? = some segments
  decides : ∃ single, r.matcher.singles[i]? = some single ∧
    single.matchAt text pos = .ok (some result)
  earlier : ∀ single ∈ r.matcher.singles.take i, single.matchAt text pos = .ok none

/-- The resource is made from patterns. -/
def Resource.IsBuilt (r : Resource) : Prop :=
  ∃ config extent name patterns, Resource.ofPatterns config extent name patterns = .ok r

section Singles

variable {text : Text} {offset : Int} {result : MatchResult}

theorem Matcher.exists_single {m : Matcher} (h : m.matchAt text offset = .ok (some result)) :
    ∃ i single, m.singles[i]? = some single ∧ single.matchAt text offset = .ok (some result) ∧
      ∀ earlier ∈ m.singles.take i, earlier.matchAt text offset = .ok none := by
  cases m with
  | static alternatives extent =>
    obtain ⟨i, a, hi, ha, hearlier⟩ :=
      exists_first (by rfl) StaticAlternative.first_of_firstMatch h
    refine ⟨i, .static [a] extent, ?_, ha, ?_⟩
    · rw [Matcher.singles, List.getElem?_map, hi]
      rfl
    · rw [Matcher.singles, ← List.map_take, List.forall_mem_map]
      exact hearlier
  | regex alternatives extent =>
    rw [Matcher.matchAt] at h
    split at h
    · rename_i hword
      obtain ⟨i, a, hi, ha, hearlier⟩ :=
        exists_first (by rfl) RegexAlternative.first_of_firstMatch h
      have hsingle (b : RegexAlternative) : (Matcher.regex [b] extent).matchAt text offset =
          RegexAlternative.firstMatch text offset [b] := if_pos hword
      refine ⟨i, .regex [a] extent, ?_, (hsingle a).trans ha, ?_⟩
      · rw [Matcher.singles, List.getElem?_map, hi]
        rfl
      · rw [Matcher.singles, ← List.map_take, List.forall_mem_map]
        exact fun b hb => (hsingle b).trans (hearlier b hb)
    · exact absurd h (by simp)

end Singles

/-! ## Its names -/

section Names

variable {edition : Regex.Edition} {extent : Extent} {segments rest : List Segment} {d d' : Draft}

theorem captureNames_cons (s : Segment) (rest : List Segment) :
    captureNames (s :: rest) = s.name?.toList ++ captureNames rest := by
  rw [captureNames, List.filterMap_cons]
  cases s.name? <;> rfl

/-- A segment adds a group for its own capture, and none for the groups of its expression. -/
theorem Draft.names_of_addSegment {s : Segment} (h : d.addSegment extent s rest = .ok d') :
    d'.groups.map Prod.snd = d.groups.map Prod.snd ++ s.name?.toList := by
  unfold Draft.addSegment at h
  cases s with
  | literal text =>
    dsimp only at h
    split at h
    · obtain rfl := Except.ok.inj h
      simp [Segment.name?]
    · obtain rfl := Except.ok.inj h
      simp [Segment.name?]
  | dynamic name =>
    obtain rfl := Except.ok.inj h
    simp [Segment.name?]
  | constrained name e =>
    dsimp only at h
    split at h
    · obtain rfl := Except.ok.inj h
      simp [Segment.name?]
    · exact absurd h (by simp)
  | tail name allowEmpty =>
    obtain rfl := Except.ok.inj h
    simp [Segment.name?]
  | boundary =>
    dsimp only at h
    split at h
    · exact absurd h (by simp)
    · split at h
      · obtain rfl := Except.ok.inj h
        simp [Segment.name?]
      · obtain rfl := Except.ok.inj h
        simp [Segment.name?]

theorem Draft.names_of_addSegments (h : d.addSegments extent segments = .ok d') :
    d'.groups.map Prod.snd = d.groups.map Prod.snd ++ captureNames segments := by
  induction segments generalizing d with
  | nil =>
    obtain rfl := Except.ok.inj h
    exact (List.append_nil _).symm
  | cons s rest ih =>
    rw [Draft.addSegments, bind_eq_ok] at h
    obtain ⟨next, hnext, h⟩ := h
    rw [ih h, Draft.names_of_addSegment hnext, captureNames_cons, List.append_assoc]

theorem RegexAlternative.names_of_ofSegments {a : RegexAlternative}
    (h : RegexAlternative.ofSegments edition extent segments = .ok a) :
    a.names = captureNames segments := by
  rw [RegexAlternative.ofSegments, bind_eq_ok] at h
  obtain ⟨d, hd, h⟩ := h
  have hfinish : (d.finish extent).groups = d.groups := by cases extent <;> rfl
  dsimp only at h
  split at h
  · obtain rfl := Except.ok.inj h
    rw [RegexAlternative.names, hfinish, Draft.names_of_addSegments hd]
    rfl
  · split at h
    · exact absurd h (by simp)
    · exact absurd h (by simp)

theorem RegexAlternative.names_of_captures? {a : RegexAlternative} {text : Text} {t : Regex.Trail}
    {captures : List Capture} (h : a.captures? text t = some captures) :
    captures.map Capture.name = a.names := by
  unfold RegexAlternative.captures? at h
  unfold RegexAlternative.names
  generalize a.groups = groups at h ⊢
  induction groups generalizing captures with
  | nil =>
    obtain rfl := Option.some.inj h
    rfl
  | cons group groups ih =>
    simp only [List.mapM_cons, Option.bind_eq_bind, Option.bind_eq_some_iff, Option.pure_def,
      Option.some.injEq] at h
    obtain ⟨c, hc, cs, hcs, rfl⟩ := h
    rw [List.map_cons, List.map_cons, (capture?_eq_some hc).1, ih hcs]

variable {sequences : List (List Segment)} {m single : Matcher} {i : Nat} {text : Text} {pos : Nat}
  {result : MatchResult}

/-- What an alternative captures by itself has the names of the segments that it was made from. -/
theorem Matcher.names_of_single (hm : Matcher.ofSequences extent sequences edition = .ok m)
    (hpos : pos ≤ text.length) (hi : m.singles[i]? = some single)
    (h : single.matchAt text (pos : Int) = .ok (some result)) :
    ∃ segments, sequences[i]? = some segments ∧
      result.captures.map Capture.name = captureNames segments := by
  unfold Matcher.ofSequences at hm
  split at hm
  · exact absurd hm (by simp)
  · split at hm
    · rename_i hfree
      obtain rfl := Except.ok.inj hm
      simp only [Matcher.singles, List.getElem?_map, Option.map_eq_some_iff] at hi
      obtain ⟨_, ⟨segments, hsegments, rfl⟩, rfl⟩ := hi
      have hnames := isCaptureFree_iff.1
        (List.all_eq_true.1 hfree segments (List.mem_of_getElem? hsegments))
      obtain ⟨a, ha, hmatch⟩ := StaticAlternative.exists_of_firstMatch h
      obtain ⟨stop, -, -, rfl, -⟩ := a.ends_of_matchAt hpos hmatch
      exact ⟨segments, hsegments, hnames.symm⟩
    · rw [bind_eq_ok] at hm
      obtain ⟨alternatives, halternatives, hm⟩ := hm
      obtain rfl := Except.ok.inj hm
      simp only [Matcher.singles, List.getElem?_map, Option.map_eq_some_iff] at hi
      obtain ⟨a, ha, rfl⟩ := hi
      have hmap := congrArg (fun es => es[i]?) (map_eq_of_mapM_ok halternatives)
      simp only [List.getElem?_map, ha, Option.map_some, Option.map_eq_some_iff] at hmap
      obtain ⟨segments, hsegments, hof⟩ := hmap
      rw [Matcher.matchAt] at h
      split at h
      · obtain ⟨b, hb, t, captures, -, -, hcaptures, rfl, -⟩ :=
          RegexAlternative.exists_of_firstMatch hpos h
        obtain rfl := List.mem_singleton.1 hb
        refine ⟨segments, hsegments, ?_⟩
        exact (RegexAlternative.names_of_captures? hcaptures).trans
          (RegexAlternative.names_of_ofSegments hof)
      · exact absurd h (by simp)

/-- What a resource captures has the names of the alternative that decides, and no two are the same. -/
theorem Resource.exists_decidedBy {r : Resource} (hr : r.IsBuilt) (hpos : pos ≤ text.length)
    (h : r.matchAt text (pos : Int) = .ok (some result)) :
    ∃ i segments, r.DecidedBy text pos result i segments ∧
      result.captures.map Capture.name = PathRouter.captureNames segments ∧
      (PathRouter.captureNames segments).Nodup := by
  obtain ⟨config, extent, name, patterns, hr⟩ := hr
  obtain ⟨rfl, hmatcher, hparsed⟩ := Resource.parse_of_mem hr
  obtain ⟨i, single, hi, hsingle, hearlier⟩ := Matcher.exists_single h
  obtain ⟨segments, hsegments, hnames⟩ := Matcher.names_of_single hmatcher hpos hi hsingle
  obtain ⟨p, -, hparse⟩ := hparsed segments (List.mem_of_getElem? hsegments)
  exact ⟨i, segments, ⟨hsegments, ⟨single, hi, hsingle⟩, hearlier⟩, hnames,
    Pattern.nodup_of_parse hparse⟩

end Names

/-! ## What shows the captures -/

/-- The captures of a routed path, of the match of its resource and of the state after it, looked at
in every way, are the entries. -/
structure Shows {α : Type} (entries : List (Text × Text)) (m : RouteMatch α) (result : MatchResult)
    (s : PathState) : Prop where
  params : m.params = entries
  lastValues : Capture.lastValues result.captures = entries
  firstValues : Capture.firstValues s.captures = entries
  iterated : s.entries = entries
  get? : ∀ name value, s.get? name = some value ↔ (name, value) ∈ entries
  item : ∀ name value, s.item name = .ok value ↔ (name, value) ∈ entries
  missing : ∀ name, name ∉ entries.map Prod.fst → s.item name = .error name
  contains : ∀ name, s.contains name = true ↔ name ∈ entries.map Prod.fst

section Shown

variable {s : PathState}

/-- Where all names differ, a name has the value of its only capture. -/
theorem PathState.get?_eq_some_iff (h : (s.captures.map Capture.name).Nodup) (name value : Text) :
    s.get? name = some value ↔ (name, value) ∈ s.entries := by
  rw [PathState.get?, PathState.entries]
  generalize s.captures = captures at h ⊢
  induction captures with
  | nil => simp
  | cons c rest ih =>
    rw [List.map_cons, List.nodup_cons] at h
    rw [List.find?_cons, List.map_cons, List.mem_cons, ← ih h.2]
    by_cases hname : c.name = name
    · have habsent : (rest.find? fun c => c.name == name) = none := by
        rw [List.find?_eq_none]
        intro other hother hsame
        apply h.1
        rw [hname, ← eq_of_beq hsame]
        exact List.mem_map_of_mem hother
      simp [hname, habsent, Capture.entry, eq_comm]
    · have hentry : (name, value) ≠ c.entry := fun he => hname (congrArg Prod.fst he).symm
      simp [beq_false_of_ne hname, hentry]

theorem PathState.item_eq_ok_iff (name value : Text) :
    s.item name = .ok value ↔ s.get? name = some value := by
  unfold PathState.item
  cases s.get? name with
  | some other => simp
  | none => simp

theorem PathState.item_eq_error {name : Text} (h : s.get? name = none) :
    s.item name = .error name := by
  rw [PathState.item, h]

theorem PathState.names_entries (s : PathState) :
    s.entries.map Prod.fst = s.captures.map Capture.name :=
  List.map_map

theorem PathState.contains_iff (name : Text) :
    s.contains name = true ↔ name ∈ s.entries.map Prod.fst := by
  rw [PathState.names_entries, PathState.contains, List.any_eq_true, List.mem_map]
  simp

/-- Everything shows the same if all names differ. -/
theorem shows_entries {α : Type} {m : RouteMatch α} {result : MatchResult}
    (hm : m.captures = s.captures) (hresult : result.captures = s.captures)
    (h : (s.captures.map Capture.name).Nodup) : Shows s.entries m result s where
  params := by rw [RouteMatch.params, hm, Capture.lastValues_eq h, PathState.entries]
  lastValues := by rw [hresult, Capture.lastValues_eq h, PathState.entries]
  firstValues := by rw [Capture.firstValues_eq h, PathState.entries]
  iterated := rfl
  get? := PathState.get?_eq_some_iff h
  item name value :=
    (PathState.item_eq_ok_iff name value).trans (PathState.get?_eq_some_iff h name value)
  missing name hname := by
    apply PathState.item_eq_error
    rw [Option.eq_none_iff_forall_ne_some]
    intro value hvalue
    exact hname (List.mem_map.2 ⟨_, (PathState.get?_eq_some_iff h name value).1 hvalue, rfl⟩)
  contains := PathState.contains_iff

end Shown

/-! ## Routing -/

namespace Router

variable {α : Type} {router : Router α} {path : Text}

/-- A route that is found is one of the routes, and its resource matches. -/
theorem mem_of_search {check : α → MatchResult → Bool} {skip : Nat} {routes : List (Resource × α)}
    {route : Resource × α × MatchResult} {asked : List (α × MatchResult)}
    (h : search check path skip routes = .ok ⟨some route, asked⟩) :
    (route.1, route.2.1) ∈ routes ∧ route.1.matchAt path skip = .ok (some route.2.2) := by
  induction routes generalizing asked with
  | nil => exact absurd h (by simp [search])
  | cons first rest ih =>
    obtain ⟨resource, value⟩ := first
    rw [search] at h
    cases hmatch : resource.matchAt path skip with
    | error e =>
      rw [hmatch] at h
      exact absurd h (by simp [bind, Except.bind])
    | ok found =>
      rw [hmatch] at h
      cases found with
      | none =>
        obtain ⟨hmem, hroute⟩ := ih h
        exact ⟨List.mem_cons_of_mem _ hmem, hroute⟩
      | some result =>
        simp only [bind, Except.bind] at h
        split at h
        · obtain ⟨hroute, -⟩ := Found.mk.inj (Except.ok.inj h)
          obtain rfl := Option.some.inj hroute
          exact ⟨List.mem_cons_self .., hmatch⟩
        · cases hrest : search check path skip rest with
          | error e =>
            rw [hrest] at h
            exact absurd h (by simp)
          | ok later =>
            obtain ⟨route', asked'⟩ := later
            rw [hrest] at h
            obtain ⟨rfl, -⟩ := Found.mk.inj (Except.ok.inj h)
            obtain ⟨hmem, hroute⟩ := ih hrest
            exact ⟨List.mem_cons_of_mem _ hmem, hroute⟩

/-- What routes a whole path also routes a state at its start. -/
theorem exists_of_matchPath {m : RouteMatch α} (h : router.matchPath path = .ok (some m)) :
    ∃ result s, (m.resource, m.value) ∈ router.routes ∧
      m.resource.matchAt path (0 : Nat) = .ok (some result) ∧
      router.recognize (.ofPath path) = .ok (some m.value, s) ∧
      m.captures = s.captures ∧ result.captures = s.captures := by
  rw [matchPath, find] at h
  cases hsearch : search acceptAll (PathState.ofPath path).path (PathState.ofPath path).skip
      router.routes with
  | error e =>
    rw [hsearch] at h
    exact absurd h (by simp [bind, Except.bind])
  | ok found =>
    obtain ⟨route, asked⟩ := found
    rw [hsearch] at h
    cases route with
    | none => exact absurd h (by simp [bind, Except.bind, pure, Except.pure])
    | some route =>
      obtain ⟨resource, value, result⟩ := route
      dsimp only at h
      cases htake : (PathState.ofPath path).take result with
      | error e =>
        rw [htake] at h
        exact absurd h (by simp [bind, Except.bind])
      | ok s =>
        rw [htake] at h
        obtain rfl := Option.some.inj (Except.ok.inj h)
        obtain ⟨hmem, hmatch⟩ := mem_of_search hsearch
        obtain ⟨-, -, hcaptures⟩ := PathState.eq_of_take htake
        refine ⟨result, s, hmem, hmatch, ?_, rfl, hcaptures.symm⟩
        rw [recognize, find, hsearch]
        dsimp only
        rw [htake]
        rfl

/-- What a resource captures at a position of a text has the names of the alternative that decides, in
order, and no two of them are the same. So the entries of a path that is routed are those of its
match and of the state after it, whether the first or the last value of a name counts, and to look up
a name finds the one entry that has it. -/
theorem shows_captured_names :
    (∀ r : Resource, r.IsBuilt → ∀ (text : Text) (pos : Nat) (result : MatchResult),
      pos ≤ text.length → r.matchAt text pos = .ok (some result) →
      ∃ i segments, r.DecidedBy text pos result i segments ∧
        result.captures.map Capture.name = captureNames segments ∧
        (captureNames segments).Nodup) ∧
    ∀ (α : Type) (router : Router α), (∀ route ∈ router.routes, route.1.IsBuilt) →
      ∀ (path : Text) (m : RouteMatch α), router.matchPath path = .ok (some m) →
      ∃ result s i segments entries, m.resource.matchPath path = .ok (some result) ∧
        router.recognize (.ofPath path) = .ok (some m.value, s) ∧
        m.resource.DecidedBy path 0 result i segments ∧
        entries.map Prod.fst = captureNames segments ∧ (captureNames segments).Nodup ∧
        Shows entries m result s := by
  refine ⟨fun r hr text pos result hpos h => Resource.exists_decidedBy hr hpos h, ?_⟩
  intro α router hbuilt path m h
  obtain ⟨result, s, hmem, hmatch, hrecognize, hm, hresult⟩ := exists_of_matchPath h
  obtain ⟨i, segments, hdecided, hnames, hnodup⟩ :=
    Resource.exists_decidedBy (hbuilt _ hmem) (Nat.zero_le _) hmatch
  rw [hresult] at hnames
  exact ⟨result, s, i, segments, s.entries, hmatch, hrecognize, hdecided,
    s.names_entries.trans hnames, hnodup, shows_entries hm hresult (hnames ▸ hnodup)⟩

theorem exists_of_toOption {ε β γ : Type} {found : Except ε (Option β)} {f : β → γ} {c : γ}
    (h : found.toOption.join.map f = some c) : ∃ b, found = .ok (some b) ∧ f b = c := by
  obtain ⟨b, hfound, hb⟩ := Option.map_eq_some_iff.1 h
  exact ⟨b, eq_ok_of_toOption (Option.join_eq_some_iff.1 hfound), hb⟩

/-- The second of two patterns decides, and the groups of its expressions capture nothing. -/
theorem shows_captured_names_groups :
    ∃ r, Resource.ofPatterns .standard .exact none
        ["/x/{a}".toList, "/{b:(b|c)}/{a:(d)(e|f)}".toList] = .ok r ∧
      (∃ result i segments, r.matchAt "//b/df".toList (1 : Nat) = .ok (some result) ∧
        r.DecidedBy "//b/df".toList 1 result i segments ∧
        captureNames segments = ["b".toList, "a".toList]) ∧
      ∃ m result s i segments,
        (⟨.standard, [(r, 1)], [], false⟩ : Router Nat).matchPath "/b/df".toList = .ok (some m) ∧
        m.resource.DecidedBy "/b/df".toList 0 result i segments ∧
        Shows [("b".toList, "b".toList), ("a".toList, "df".toList)] m result s := by
  have hrun : ((Resource.ofPatterns .standard .exact none
      ["/x/{a}".toList, "/{b:(b|c)}/{a:(d)(e|f)}".toList]).toOption.map fun r =>
        ((r.matchAt "//b/df".toList (1 : Nat)).toOption.join.map
          fun result => result.captures.map Capture.name,
        ((⟨.standard, [(r, 1)], [], false⟩ : Router Nat).matchPath "/b/df".toList).toOption.join.map
          RouteMatch.params)) =
      some (some ["b".toList, "a".toList],
        some [("b".toList, "b".toList), ("a".toList, "df".toList)]) := by decide +kernel
  obtain ⟨r, hr, hrun⟩ := Option.map_eq_some_iff.1 hrun
  obtain ⟨hmatched, hrouted⟩ := Prod.mk.inj hrun
  obtain ⟨result, hmatch, hnames⟩ := exists_of_toOption hmatched
  obtain ⟨m, hroute, hparams⟩ := exists_of_toOption hrouted
  replace hr := eq_ok_of_toOption hr
  have hbuilt : r.IsBuilt := ⟨_, _, _, _, hr⟩
  obtain ⟨i, segments, hdecided, hsame, -⟩ :=
    shows_captured_names.1 r hbuilt _ 1 result (by decide) hmatch
  obtain ⟨result', s, i', segments', entries, -, -, hdecided', -, -, hshows⟩ :=
    shows_captured_names.2 Nat _ (by rw [List.forall_mem_singleton]; exact hbuilt) _ m hroute
  obtain rfl : entries = _ := hshows.params.symm.trans hparams
  exact ⟨r, hr, ⟨result, i, segments, hmatch, hdecided, hsame.symm.trans hnames⟩,
    m, result', s, i', segments', hroute, hdecided', hshows⟩

end Router

end PathRouter

import PathRouter.Proofs.FirstPattern
import PathRouter.Proofs.ForcedSplit
import PathRouter.Proofs.SuppliedValues
import PathRouter.Proofs.WrittenValue

/-!
# Building a path and matching it

A path that is built from values matches the pattern it was built by, and captures the values. The
encoded values are the spans of a split: one of a plain capture has no slash, and a slash or the end
follows it. Since slashes force the split, it is the one that is found.
-/

namespace PathRouter
set_option autoImplicit false

/-! ## Built paths -/

section Parts

variable {extent : Extent} {segments : List Segment} {pattern : Text} {values : List (Text × Value)}
  {given : Text → Value}

/-- The part of a path that a segment gives. -/
def Segment.part (given : Text → Value) (s : Segment) : Text :=
  match s.name? with
  | some name => s.fill (given name)
  | none => StaticAlternative.literalOf s

theorem captureNames_cons_some {s : Segment} {name : Text} (hname : s.name? = some name) :
    captureNames (s :: segments) = name :: captureNames segments :=
  List.filterMap_cons_some hname

theorem buildNamed_cons {s : Segment} {name : Text} (hname : s.name? = some name)
    (hfirst : values.find? (fun e => e.1 == name) = some (name, given name)) {path : Text}
    (hrest : buildNamed pattern values segments = .ok path) :
    buildNamed pattern values (s :: segments) = .ok (s.part given ++ path) := by
  rw [find?_eq_lookup, Option.map_eq_some_iff] at hfirst
  obtain ⟨value, hvalue, hentry⟩ := hfirst
  obtain rfl := (Prod.mk.inj hentry).2
  rw [buildNamed_capture hname, hvalue, Segment.part, hname]
  dsimp only
  rw [hrest]
  rfl

/-- Where every capture has a value, the path is made of the parts of its segments. -/
theorem buildNamed_eq (hgiven : ∀ name ∈ captureNames segments,
      values.find? (fun e => e.1 == name) = some (name, given name)) :
    buildNamed pattern values segments = .ok (segments.flatMap (Segment.part given)) := by
  induction segments with
  | nil => rfl
  | cons s rest ih =>
    rw [List.flatMap_cons]
    cases hname : s.name? with
    | some name =>
      rw [captureNames_cons_some hname] at hgiven
      have hrest := ih fun other hother => hgiven other (List.mem_cons_of_mem _ hother)
      exact buildNamed_cons hname (hgiven name (List.mem_cons_self ..)) hrest
    | none =>
      have hnames : captureNames (s :: rest) = captureNames rest := List.filterMap_cons_none hname
      rw [hnames] at hgiven
      cases s with
      | literal text =>
        rw [buildNamed, ih hgiven]
        rfl
      | boundary =>
        rw [buildNamed, ih hgiven]
        rfl
      | dynamic name => exact absurd hname (by simp [Segment.name?])
      | constrained name e => exact absurd hname (by simp [Segment.name?])
      | tail name allowEmpty => exact absurd hname (by simp [Segment.name?])

/-! ## Their split -/

theorem spanEntries?_fill {s : Segment} {name : Text} {spans : List Text} (value : Value)
    (hname : s.name? = some name) {entries : List (Text × Text)}
    (hrest : spanEntries? segments spans = some entries) :
    spanEntries? (s :: segments) (s.fill value :: spans) =
      some ((name, value.toText) :: entries) := by
  simp only [spanEntries?, hname, s.decodeText_fill, hrest]
  rfl

/-- A built path is split into its parts, which stand for the values. -/
theorem exists_splits_of_parts (hend : EndsWell extent segments) (hplain : IsPlain segments)
    (hempty : ∀ s ∈ segments, ∀ name, s.name? = some name → (given name).toText = [] →
      s = .tail name true) :
    ∃ spans, Splits extent segments (segments.flatMap (Segment.part given)) spans ∧
      spanEntries? segments spans =
        some ((captureNames segments).map fun name => (name, (given name).toText)) := by
  induction segments with
  | nil => exact ⟨[], .textEnd hend, rfl⟩
  | cons s rest ih =>
    have hempty' := fun t (ht : t ∈ rest) => hempty t (List.mem_cons_of_mem _ ht)
    cases s with
    | constrained name e => exact absurd (List.mem_cons_self ..) (hplain name e)
    | boundary =>
      obtain ⟨hleading, rfl⟩ := hend
      refine ⟨[], .boundary hleading ?_, rfl⟩
      intro c hc
      exact absurd hc (by simp [Segment.part, Segment.name?, StaticAlternative.literalOf])
    | literal text =>
      by_cases hleaves : LeavesSlash extent text rest
      · obtain rfl := hleaves.2.2
        exact ⟨[text.dropLast], .slashAhead hleaves, rfl⟩
      · obtain ⟨spans, hsplits, hentries⟩ := ih hend hplain.tail hempty'
        exact ⟨text :: spans, .literal hleaves hsplits, hentries⟩
    | dynamic name =>
      obtain ⟨spans, hsplits, hentries⟩ := ih hend hplain.tail hempty'
      have hne : (given name).toText ≠ [] := by
        intro hnil
        exact absurd (hempty _ (List.mem_cons_self ..) name rfl hnil) (by simp)
      have hspan : (Segment.dynamic name).fill (given name) ≠ [] :=
        mt Percent.encode_eq_nil_iff.1 hne
      exact ⟨_, .dynamic hspan (Percent.slash_not_mem_encode _) hsplits,
        spanEntries?_fill _ rfl hentries⟩
    | tail name allowEmpty =>
      obtain rfl : rest = Pattern.endSegments extent := hend
      have hrest : (Pattern.endSegments extent).flatMap (Segment.part given) = [] ∧
          captureNames (Pattern.endSegments extent) = [] ∧
          spanEntries? (Pattern.endSegments extent) [] = some [] := by
        cases extent with
        | exact => exact ⟨rfl, rfl, rfl⟩
        | leading => exact ⟨rfl, rfl, rfl⟩
      refine ⟨[(Segment.tail name allowEmpty).fill (given name)], ?_, ?_⟩
      · rw [List.flatMap_cons, hrest.1, List.append_nil]
        apply Splits.tail
        intro hnil
        have htail := hempty _ (List.mem_cons_self ..) name rfl (Percent.encode_eq_nil_iff.1 hnil)
        exact (Segment.tail.inj htail).2
      · rw [captureNames_cons_some rfl, hrest.2.1]
        exact spanEntries?_fill _ rfl hrest.2.2

end Parts

/-! ## Entries -/

/-- Entries whose names are new are added at the end, whatever comes of a name that is there. -/
theorem foldl_put_eq {put : List (Text × Text) → Text → Text → List (Text × Text)}
    (hput : ∀ entries name value, (entries.any fun e => e.1 == name) = false →
      put entries name value = entries ++ [(name, value)])
    {captures : List Capture} {entries : List (Text × Text)}
    (hnodup : (captures.map Capture.name).Nodup)
    (hfresh : ∀ e ∈ entries, e.1 ∉ captures.map Capture.name) :
    captures.foldl (fun es c => put es c.name c.value) entries =
      entries ++ captures.map Capture.entry := by
  induction captures generalizing entries with
  | nil => exact (List.append_nil entries).symm
  | cons c rest ih =>
    rw [List.map_cons, List.nodup_cons] at hnodup
    have hnew : put entries c.name c.value = entries ++ [c.entry] := by
      apply hput
      rw [List.any_eq_false]
      intro e he hname
      apply hfresh e he
      rw [eq_of_beq hname]
      exact List.mem_cons_self ..
    rw [List.foldl_cons, hnew, ih hnodup.2, List.append_assoc]
    · rfl
    · intro e he
      rcases List.mem_append.1 he with he | he
      · exact fun hmem => hfresh e he (List.mem_cons_of_mem _ hmem)
      · obtain rfl := List.mem_singleton.1 he
        exact hnodup.1

/-- Where all names differ, the captures of a match are listed as they are. -/
theorem Capture.lastValues_eq {captures : List Capture}
    (h : (captures.map Capture.name).Nodup) :
    Capture.lastValues captures = captures.map Capture.entry := by
  have hput (entries : List (Text × Text)) (name value : Text)
      (hnew : (entries.any fun e => e.1 == name) = false) :
      Entries.put entries name value = entries ++ [(name, value)] := by
    simp [Entries.put, hnew]
  rw [Capture.lastValues, foldl_put_eq hput h (by simp), List.nil_append]

theorem Capture.firstValues_eq {captures : List Capture}
    (h : (captures.map Capture.name).Nodup) :
    Capture.firstValues captures = captures.map Capture.entry := by
  have hput (entries : List (Text × Text)) (name value : Text)
      (hnew : (entries.any fun e => e.1 == name) = false) :
      Entries.putNew entries name value = entries ++ [(name, value)] := by
    simp [Entries.putNew, hnew]
  rw [Capture.firstValues, foldl_put_eq hput h (by simp), List.nil_append]

/-! ## The round trip -/

/-- A path that is built from a value for each capture matches, the captured values are the texts of
those values, and nothing is left over where the whole path has to match. A value must not be empty,
except that of a tail that may be. -/
theorem Resource.matchPath_build {config : Config} {extent : Extent} {name : Option Text}
    {patterns : List Text} {r : Resource}
    (hr : Resource.ofPatterns config extent name patterns = .ok r) (hplain : IsPlain r.segments)
    (hslash : SlashFollows r.segments) {values : List (Text × Value)} (given : Text → Value)
    (hgiven : ∀ name ∈ r.captureNames,
      values.find? (fun e => e.1 == name) = some (name, given name))
    (hempty : ∀ s ∈ r.segments, ∀ name, s.name? = some name → (given name).toText = [] →
      s = .tail name true) :
    ∃ path result, r.build (.named values) = .ok path ∧ r.matchPath path = .ok (some result) ∧
      Capture.lastValues result.captures =
        r.captureNames.map (fun name => (name, (given name).toText)) ∧
      (extent = .exact → result.consumed = path.length) := by
  obtain ⟨⟨more, hsequences⟩, pattern, -, hparse⟩ := Resource.exists_of_ofPatterns hr
  have hend := Pattern.endsWell_of_parse hparse
  let path := r.segments.flatMap (Segment.part given)
  have hbuild : r.build (.named values) = .ok path := by
    rw [Resource.build, hsequences, buildPath]
    exact buildNamed_eq hgiven
  obtain ⟨spans, hsplits, hentries⟩ := exists_splits_of_parts hend hplain hempty
  have hbest : best extent r.segments (path.drop 0) = some spans := hsplits.best_eq hslash
  have hmatch := Resource.matchAt_of_best hr hplain (Nat.zero_le path.length) (by decide) hbest
  have hcaptured := hsplits.entries_eq path 0 rfl (Nat.zero_le _)
  rw [hentries, Option.map_eq_some_iff] at hcaptured
  obtain ⟨captures, hcaptures, hvalues⟩ := hcaptured
  rw [hcaptures] at hmatch
  refine ⟨path, ⟨spans.flatten.length, captures⟩, hbuild, hmatch, ?_, ?_⟩
  · have hnames : captures.map Capture.name = r.captureNames := by
      have hfirst := congrArg (List.map Prod.fst) hvalues
      rw [List.map_map, List.map_map] at hfirst
      exact hfirst.trans (List.map_id _)
    have hnodup : (captures.map Capture.name).Nodup := by
      rw [hnames]
      exact Pattern.nodup_of_parse hparse
    rw [Capture.lastValues_eq hnodup, hvalues]
    rfl
  · intro hexact
    show ((spans.flatten.length : Nat) : Int) = path.length
    rw [hsplits.flatten_eq hexact]

/-- A value with a slash, a percent sign and a line break, one with a blank beside a slash that is
kept, and a second pattern that is not used. -/
theorem Resource.matchPath_build_escapes :
    ∃ r result, Resource.ofPatterns .standard .exact none
        ["/u/{who}/f/{rest}*".toList, "/{who}/{rest}".toList] = .ok r ∧
      r.build (.named [("rest".toList, .text "x/ y".toList), ("who".toList, .text "a/b%\n".toList)]) =
        .ok "/u/a%2Fb%25%0A/f/x/%20y".toList ∧
      r.matchPath "/u/a%2Fb%25%0A/f/x/%20y".toList = .ok (some result) ∧
      Capture.lastValues result.captures =
        [("who".toList, "a/b%\n".toList), ("rest".toList, "x/ y".toList)] ∧
      result.consumed = 23 := by
  let segments : List Segment := [.literal "/u/".toList, .dynamic "who".toList,
    .literal "/f/".toList, .tail "rest".toList false]
  let given (name : Text) : Value :=
    if name = "who".toList then .text "a/b%\n".toList else .text "x/ y".toList
  have hparse : Pattern.parseAll .standard .exact
      ["/u/{who}/f/{rest}*".toList, "/{who}/{rest}".toList] = .ok [segments,
        [.literal ['/'], .dynamic "who".toList, .literal ['/'], .dynamic "rest".toList]] :=
    eq_ok_of_toOption (by decide +kernel)
  obtain ⟨r, hr, hsequences⟩ := Resource.exists_of_parseAll none hparse (by simp [IsPlain, segments])
  have hsegments := Resource.segments_of_sequences hsequences
  have hgiven : ∀ name ∈ r.captureNames,
      [("rest".toList, Value.text "x/ y".toList), ("who".toList, .text "a/b%\n".toList)].find?
        (fun e => e.1 == name) = some (name, given name) := by
    intro name hname
    rw [Resource.captureNames, hsegments] at hname
    have hnames : PathRouter.captureNames segments = ["who".toList, "rest".toList] := by decide
    rw [hnames, List.mem_cons, List.mem_singleton] at hname
    rcases hname with rfl | rfl
    · rfl
    · rfl
  have hempty : ∀ s ∈ r.segments, ∀ name, s.name? = some name → (given name).toText = [] →
      s = .tail name true := by
    intro s _ name _ hnil
    simp only [given] at hnil
    split at hnil
    · exact absurd hnil (by decide)
    · exact absurd hnil (by decide)
  obtain ⟨path, result, hbuild, hmatch, hvalues, hconsumed⟩ :=
    Resource.matchPath_build hr (by simp [hsegments, IsPlain, segments])
      (by simp [hsegments, SlashFollows, segments]) given hgiven hempty
  have hpath : r.build (.named [("rest".toList, .text "x/ y".toList),
      ("who".toList, .text "a/b%\n".toList)]) = .ok "/u/a%2Fb%25%0A/f/x/%20y".toList := by
    rw [Resource.captureNames, hsegments] at hgiven
    rw [Resource.build, hsequences, buildPath, buildNamed_eq hgiven]
    exact congrArg Except.ok (by decide +kernel)
  obtain rfl := Except.ok.inj (hbuild.symm.trans hpath)
  refine ⟨r, result, hr, hpath, hmatch, ?_, hconsumed rfl⟩
  rw [hvalues, Resource.captureNames, hsegments]
  decide +kernel

end PathRouter

import PathRouter.Proofs.FirstPattern
import PathRouter.Proofs.PatternRoundTrip

/-!
# Alternatives without inline expressions

A pattern without inline expressions takes from a text what its greatest split takes, whether it is
compared as plain text or as an expression, and of several patterns the first that takes anything
decides. Only the root is different at the end of a text: as plain text it matches there.
-/

namespace PathRouter
set_option autoImplicit false

/-- What is taken from a text: how much of it, and the captures, unless one cannot be decoded. -/
structure Taken where
  length : Nat
  captures? : Option (List Capture)

/-- The match that takes this. -/
def Taken.result? (t : Taken) : Option MatchResult :=
  t.captures?.map (⟨t.length, ·⟩)

/-- What the greatest split by a sequence takes from a position on. -/
def taken? (extent : Extent) (text : Text) (pos : Nat) (segments : List Segment) : Option Taken :=
  (best extent segments (text.drop pos)).map fun spans =>
    ⟨spans.flatten.length, spanCaptures? text pos segments spans⟩

section Alternatives

variable {config : Config} {extent : Extent} {text pattern literal : Text} {pos : Nat}
  {segments : List Segment}

/-! ## Plain text -/

/-- The root is the pattern that is a slash. -/
theorem StaticAlternative.isRoot_literalSegment (extent : Extent) (literal : Text) :
    (StaticAlternative.ofSegments extent
      (Pattern.literalSegment literal ++ Pattern.endSegments extent)).isRoot extent = true ↔
        literal = ['/'] := by
  unfold StaticAlternative.ofSegments
  rw [flatMap_literalOf]
  by_cases hslash : extent = .leading ∧ Draft.endsInSlash literal
  · rw [if_pos hslash, StaticAlternative.isRoot, if_pos rfl, List.isEmpty_iff]
    have hlast : literal.getLast? = some '/' := by simpa [Draft.endsInSlash] using hslash.2
    obtain ⟨front, rfl⟩ := List.getLast?_eq_some_iff.1 hlast
    rw [List.dropLast_concat]
    constructor
    · rintro rfl
      rfl
    · intro h
      exact List.append_inj_left' h rfl
  · rw [if_neg hslash, StaticAlternative.isRoot, if_neg (by simp), Bool.and_eq_true, beq_iff_eq,
      decide_eq_true_eq]
    constructor
    · exact fun h => h.1
    · rintro rfl
      refine ⟨rfl, ?_⟩
      cases extent with
      | exact => rfl
      | leading => exact absurd ⟨rfl, rfl⟩ hslash

theorem captureNames_plainText (extent : Extent) (literal : Text) :
    captureNames (Pattern.literalSegment literal ++ Pattern.endSegments extent) = [] :=
  LeadsWith.captureNames_eq_nil rfl

/-- Plain text takes what the split takes, and at the end of the text the root matches besides. -/
theorem StaticAlternative.matchAt_eq_taken (extent : Extent) (literal : Text) (hpos : pos ≤ text.length) :
    let segments := Pattern.literalSegment literal ++ Pattern.endSegments extent
    (StaticAlternative.ofSegments extent segments).matchAt extent text (pos : Int) =
      .ok (if pos = text.length ∧ literal = ['/'] then some ⟨0, []⟩
        else (taken? extent text pos segments).bind Taken.result?) := by
  dsimp only
  have hfound := best_literalSegment extent literal (text.drop pos)
  dsimp only at hfound
  have hend : text.drop pos = [] ↔ pos = text.length := by
    rw [List.drop_eq_nil_iff]
    omega
  have htaken : (taken? extent text pos
      (Pattern.literalSegment literal ++ Pattern.endSegments extent)).bind Taken.result? =
      (best extent (Pattern.literalSegment literal ++ Pattern.endSegments extent)
        (text.drop pos)).map fun spans => ⟨spans.flatten.length, []⟩ := by
    rw [taken?, Option.bind_map, Option.map_eq_bind]
    refine congrArg _ (funext fun spans => ?_)
    simp [Taken.result?, spanCaptures?_of_captureFree
      (captureNames_plainText extent literal)]
  rw [StaticAlternative.matchAt_natCast _ hpos, ← hfound, htaken]
  simp only [hend, StaticAlternative.isRoot_literalSegment]

theorem StaticAlternative.firstMatch_singleton (a : StaticAlternative) (offset : Int) :
    StaticAlternative.firstMatch extent text offset [a] = a.matchAt extent text offset := by
  rw [StaticAlternative.firstMatch]
  cases a.matchAt extent text offset with
  | error e => rfl
  | ok found =>
    cases found with
    | none => rfl
    | some r => rfl

/-- The split does not take the root at the end of a text. -/
theorem taken?_root_of_end (extent : Extent) (hpos : pos = text.length) (hroot : literal = ['/']) :
    taken? extent text pos (Pattern.literalSegment literal ++ Pattern.endSegments extent) = none := by
  rw [taken?, Option.map_eq_none_iff, List.drop_eq_nil_of_le (Nat.le_of_eq hpos.symm)]
  cases hbest : best extent (Pattern.literalSegment literal ++ Pattern.endSegments extent) [] with
  | none => rfl
  | some spans =>
    have hnot := isRoot_of_best_nil hbest
    rw [(StaticAlternative.isRoot_literalSegment extent literal).2 hroot] at hnot
    exact absurd hnot (by simp)

/-- A parsed pattern without captures is plain text. -/
theorem eq_plainText_of_parse (hparse : Pattern.parse config extent pattern = .ok segments)
    (hfree : isCaptureFree segments = true) :
    segments = Pattern.literalSegment pattern ++ Pattern.endSegments extent := by
  obtain ⟨literal, rfl⟩ := Pattern.eq_literalSegment_of_parse hparse (isCaptureFree_iff.1 hfree)
  obtain ⟨hrender, -⟩ := Pattern.isGrammatical_of_parse hparse
  obtain rfl : literal = pattern := by simpa using hrender
  rfl

/-! ## Expressions -/

/-- An expression takes what the split takes. -/
theorem firstMatch_cons_eq_taken {a : RegexAlternative} {nodes : List Regex.Node} {gs : List Nat}
    (hend : EndsWell extent segments) (hplain : IsPlain segments)
    (ha : a.IsOf NoBody extent segments nodes gs) (others : List RegexAlternative)
    (hpos : pos ≤ text.length) :
    RegexAlternative.firstMatch text pos (a :: others) =
      match taken? extent text pos segments with
      | none => RegexAlternative.firstMatch text pos others
      | some t => .ok t.result? := by
  rw [firstMatch_cons_eq_best hend hplain ha others hpos, taken?]
  cases best extent segments (text.drop pos) with
  | none => rfl
  | some spans => rfl

theorem isPlain_of_isCaptureFree (hfree : isCaptureFree segments = true) : IsPlain segments := by
  intro name e hmem
  have hnone := List.all_eq_true.1 hfree _ hmem
  exact absurd hnone (by simp [Segment.name?])

/-! ## Both ways to match -/

/-- A pattern without captures matches as plain text what it matches as an expression. The root at
the end of the text is the one exception: only as plain text does it match there. -/
theorem Matcher.static_eq_regex (edition : Regex.Edition)
    (hparse : Pattern.parse config extent pattern = .ok segments)
    (hfree : isCaptureFree segments = true) :
    ∃ a, RegexAlternative.ofSegments edition extent segments = .ok a ∧
      ∀ (text : Text) (pos : Nat), pos ≤ text.length → isMachineInteger pos →
        ∃ plain found,
          (Matcher.static [StaticAlternative.ofSegments extent segments] extent).matchAt text pos =
            .ok plain ∧
          (Matcher.regex [a] extent).matchAt text pos = .ok found ∧
          if pos = text.length ∧ pattern = ['/'] then plain = some ⟨0, []⟩ ∧ found = none
          else plain = found := by
  have hend := Pattern.endsWell_of_parse hparse
  have hplain := isPlain_of_isCaptureFree hfree
  obtain ⟨a, nodes, gs, hof, ha⟩ := RegexAlternative.ofSegments_of_isPlain edition hend hplain
  obtain rfl := eq_plainText_of_parse hparse hfree
  refine ⟨a, hof, ?_⟩
  intro text pos hpos hword
  have hstatic := StaticAlternative.matchAt_eq_taken extent pattern hpos
  have hregex := firstMatch_cons_eq_taken hend hplain ha [] hpos
  dsimp only at hstatic
  rw [Matcher.matchAt, StaticAlternative.firstMatch_singleton, hstatic, Matcher.matchAt,
    if_pos hword, hregex]
  by_cases hroot : pos = text.length ∧ pattern = ['/']
  · have hnone := taken?_root_of_end extent hroot.1 hroot.2
    rw [hnone]
    exact ⟨_, _, rfl, rfl, by simp [hroot]⟩
  · cases taken? extent text pos
        (Pattern.literalSegment pattern ++ Pattern.endSegments extent) with
    | none => exact ⟨_, _, rfl, rfl, by simp [hroot]⟩
    | some t => exact ⟨_, _, rfl, rfl, by simp [hroot]⟩

/-- Characters with a meaning in expressions stand for themselves, and the slash after them is
left. -/
theorem Matcher.static_eq_regex_metacharacters :
    ∃ a, RegexAlternative.ofSegments .current .leading [.literal "/a.b+(".toList, .boundary] = .ok a ∧
      (Matcher.regex [a] .leading).matchAt "/v/a.b+(/c".toList 2 = .ok (some ⟨6, []⟩) := by
  let segments : List Segment := [.literal "/a.b+(".toList, .boundary]
  have hparse : Pattern.parse .standard .leading "/a.b+(".toList = .ok segments :=
    eq_ok_of_toOption (by decide +kernel)
  obtain ⟨a, ha, hagree⟩ := Matcher.static_eq_regex .current hparse (by decide)
  obtain ⟨plain, found, hplain, hfound, heq⟩ :=
    hagree "/v/a.b+(/c".toList 2 (by decide) (by decide)
  refine ⟨a, ha, ?_⟩
  have hstatic : (Matcher.static [StaticAlternative.ofSegments .leading segments] .leading).matchAt
      "/v/a.b+(/c".toList 2 = .ok (some ⟨6, []⟩) := by decide +kernel
  rw [if_neg (by decide)] at heq
  have hsome : plain = some ⟨6, []⟩ := Except.ok.inj (hplain.symm.trans hstatic)
  rw [← hsome, heq]
  exact hfound

/-! ## Resources -/

/-- Of several texts the first that takes anything decides. -/
theorem StaticAlternative.firstMatch_eq_taken {sequences : List (List Segment)}
    (hpos : pos ≤ text.length)
    (hliterals : ∀ segments ∈ sequences, ∃ literal,
      segments = Pattern.literalSegment literal ++ Pattern.endSegments extent ∧
        ¬(pos = text.length ∧ literal = ['/'])) :
    StaticAlternative.firstMatch extent text (pos : Int)
        (sequences.map (StaticAlternative.ofSegments extent)) =
      .ok ((sequences.findSome? (taken? extent text pos)).bind Taken.result?) := by
  induction sequences with
  | nil => rfl
  | cons segments sequences ih =>
    rw [List.forall_mem_cons] at hliterals
    obtain ⟨⟨literal, rfl, hroot⟩, hliterals⟩ := hliterals
    have hfirst := StaticAlternative.matchAt_eq_taken extent literal hpos
    dsimp only at hfirst
    rw [List.map_cons, StaticAlternative.firstMatch, hfirst, if_neg hroot, List.findSome?_cons]
    cases htaken : taken? extent text pos
        (Pattern.literalSegment literal ++ Pattern.endSegments extent) with
    | none => exact ih hliterals
    | some t =>
      have hcaptures : t.captures? = some [] := by
        obtain ⟨spans, -, rfl⟩ := Option.map_eq_some_iff.1 htaken
        exact spanCaptures?_of_captureFree (captureNames_plainText extent literal) text pos spans
      simp [Taken.result?, hcaptures, bind, Except.bind, pure, Except.pure]

/-- Of several expressions the first that takes anything decides, whatever expressions come after
it. -/
theorem RegexAlternative.firstMatch_append_eq_taken {edition : Regex.Edition}
    {sequences : List (List Segment)} {alternatives : List RegexAlternative}
    (more : List RegexAlternative) (hpos : pos ≤ text.length)
    (hof : sequences.mapM (RegexAlternative.ofSegments edition extent) = .ok alternatives)
    (hends : ∀ segments ∈ sequences, EndsWell extent segments)
    (hplain : ∀ segments ∈ sequences, IsPlain segments) :
    RegexAlternative.firstMatch text pos (alternatives ++ more) =
      match sequences.findSome? (taken? extent text pos) with
      | none => RegexAlternative.firstMatch text pos more
      | some t => .ok t.result? := by
  induction sequences generalizing alternatives with
  | nil =>
    obtain rfl := Except.ok.inj hof
    rfl
  | cons segments sequences ih =>
    rw [List.forall_mem_cons] at hends hplain
    rw [List.mapM_cons] at hof
    simp only [bind_eq_ok] at hof
    obtain ⟨a, ha, others, hothers, halternatives⟩ := hof
    obtain rfl := Except.ok.inj halternatives
    obtain ⟨a', nodes, gs, ha', hisOf⟩ :=
      RegexAlternative.ofSegments_of_isPlain edition hends.1 hplain.1
    obtain rfl := Except.ok.inj (ha.symm.trans ha')
    rw [List.cons_append, firstMatch_cons_eq_taken hends.1 hplain.1 hisOf (others ++ more) hpos,
      List.findSome?_cons]
    cases taken? extent text pos segments with
    | none => exact ih hothers hends.2 hplain.2
    | some t => rfl

/-- Of several expressions the first that takes anything decides. -/
theorem RegexAlternative.firstMatch_eq_taken {edition : Regex.Edition}
    {sequences : List (List Segment)} {alternatives : List RegexAlternative} (hpos : pos ≤ text.length)
    (hof : sequences.mapM (RegexAlternative.ofSegments edition extent) = .ok alternatives)
    (hends : ∀ segments ∈ sequences, EndsWell extent segments)
    (hplain : ∀ segments ∈ sequences, IsPlain segments) :
    RegexAlternative.firstMatch text pos alternatives =
      .ok ((sequences.findSome? (taken? extent text pos)).bind Taken.result?) := by
  have h := RegexAlternative.firstMatch_append_eq_taken [] hpos hof hends hplain
  rw [List.append_nil] at h
  rw [h]
  cases sequences.findSome? (taken? extent text pos) with
  | none => rfl
  | some t => rfl

/-- A resource without inline expressions matches by the first of its sequences that takes anything,
unless it has the root and the text is at its end. -/
theorem Resource.matchAt_eq_taken {name : Option Text} {patterns : List Text} {r : Resource}
    (text : Text) (pos : Nat) (hr : Resource.ofPatterns config extent name patterns = .ok r)
    (hplain : ∀ segments ∈ r.sequences, IsPlain segments)
    (hroot : pos = text.length → ['/'] ∉ patterns) (hpos : pos ≤ text.length)
    (hword : isMachineInteger pos) :
    r.matchAt text pos =
      .ok ((r.sequences.findSome? (taken? extent text pos)).bind Taken.result?) := by
  obtain ⟨-, hmatcher, hparsed⟩ := Resource.parse_of_mem hr
  rw [Resource.matchAt]
  rw [Matcher.ofSequences] at hmatcher
  split at hmatcher
  · exact absurd hmatcher (by simp)
  · split at hmatcher
    · rename_i hfree
      rw [← Except.ok.inj hmatcher, Matcher.matchAt]
      apply StaticAlternative.firstMatch_eq_taken hpos
      intro segments hmem
      obtain ⟨pattern, hpattern, hparse⟩ := hparsed segments hmem
      refine ⟨pattern, eq_plainText_of_parse hparse (List.all_eq_true.1 hfree _ hmem), ?_⟩
      rintro ⟨hend, rfl⟩
      exact hroot hend hpattern
    · rw [bind_eq_ok] at hmatcher
      obtain ⟨alternatives, halternatives, hmatcher⟩ := hmatcher
      rw [← Except.ok.inj hmatcher, Matcher.matchAt, if_pos hword]
      refine RegexAlternative.firstMatch_eq_taken hpos halternatives ?_ hplain
      intro segments hmem
      obtain ⟨pattern, -, hparse⟩ := hparsed segments hmem
      exact Pattern.endsWell_of_parse hparse

end Alternatives

end PathRouter

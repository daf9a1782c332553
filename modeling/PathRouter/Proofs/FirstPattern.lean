import PathRouter.Proofs.MatchShape
import PathRouter.Proofs.PlainMatch

/-!
# Matching by the first pattern

If the first pattern of a resource has no inline expression and the text can be split by it, the
greatest split decides the match, whether patterns are compared as plain text or as expressions.
Plain text matches where there is a split, and in one more case: the root matches at the end of a
text although there is no slash left.
-/

namespace PathRouter
set_option autoImplicit false

variable {extent : Extent} {text : Text} {pos : Nat}

/-! ## Plain text -/

theorem flatMap_literalOf (extent : Extent) (literal : Text) :
    (Pattern.literalSegment literal ++ Pattern.endSegments extent).flatMap
      StaticAlternative.literalOf = literal := by
  unfold Pattern.literalSegment
  split
  · rename_i hnil
    cases extent <;> simp [hnil, Pattern.endSegments, StaticAlternative.literalOf]
  · cases extent <;> simp [Pattern.endSegments, StaticAlternative.literalOf]

/-- The literal of a pattern without captures stands with the right text after it exactly where the
text can be split. -/
theorem best_literalSegment (extent : Extent) (literal s : Text) :
    let segments := Pattern.literalSegment literal ++ Pattern.endSegments extent
    let a := StaticAlternative.ofSegments extent segments
    (best extent segments s).map (fun spans => (⟨spans.flatten.length, []⟩ : MatchResult)) =
      if a.literal.isPrefixOf s && a.closes extent (s.drop a.literal.length) then some a.result
      else none := by
  dsimp only
  unfold StaticAlternative.ofSegments
  rw [flatMap_literalOf]
  unfold Pattern.literalSegment
  by_cases hnil : literal = []
  · subst hnil
    cases extent with
    | exact => simp [best, Pattern.endSegments, StaticAlternative.closes, StaticAlternative.result]
    | leading =>
      simp [best, Pattern.endSegments, StaticAlternative.closes, StaticAlternative.result,
        Draft.endsInSlash]
  rw [if_neg hnil, List.singleton_append]
  by_cases hslash : extent = .leading ∧ Draft.endsInSlash literal
  · -- the literal of the alternative lacks the slash, that of the pattern has it
    obtain ⟨rfl, hslash⟩ := hslash
    simp [best, LeavesSlash, Pattern.endSegments, StaticAlternative.closes,
      StaticAlternative.result, hslash, isPrefixOf_endsInSlash]
  · have hkept : ¬LeavesSlash extent literal (Pattern.endSegments extent) :=
      fun h => hslash ⟨h.1, h.2.1⟩
    rw [if_neg hslash, best, if_neg hkept]
    cases hpre : literal.isPrefixOf s with
    | false => rfl
    | true =>
      generalize s.drop literal.length = after
      cases extent with
      | exact =>
        by_cases hafter : after = []
        · simp [best, Pattern.endSegments, StaticAlternative.closes, StaticAlternative.result,
            hafter]
        · simp [best, Pattern.endSegments, StaticAlternative.closes, hafter]
      | leading =>
        cases hafter : after.head?.all (· == '/') with
        | false => simp [best, Pattern.endSegments, StaticAlternative.closes, hafter]
        | true =>
          simp [best, Pattern.endSegments, StaticAlternative.closes, StaticAlternative.result,
            hafter]

/-- What is left at the end of a text is split by the empty pattern only, which is not the root. -/
theorem isRoot_of_best_nil {literal : Text} {spans : List Text}
    (h : best extent (Pattern.literalSegment literal ++ Pattern.endSegments extent) [] = some spans) :
    (StaticAlternative.ofSegments extent
      (Pattern.literalSegment literal ++ Pattern.endSegments extent)).isRoot extent = false := by
  by_cases hnil : literal = []
  · subst hnil
    cases extent <;> rfl
  · have hpre : literal.isPrefixOf [] = false := by
      rw [Bool.eq_false_iff, Ne, List.isPrefixOf_iff_prefix, List.prefix_nil]
      exact hnil
    rw [Pattern.literalSegment, if_neg hnil, List.singleton_append] at h
    exact absurd h (by simp [best, hpre])

/-! ## Resources -/

section Resource

variable {config : Config} {name : Option Text} {patterns : List Text} {r : Resource}
  {spans : List Text}

theorem Resource.segments_of_sequences {segments : List Segment} {more : List (List Segment)}
    (h : r.sequences = segments :: more) : r.segments = segments := by
  rw [Resource.segments, h]
  rfl

/-- The first sequence of a resource is that of a pattern. -/
theorem Resource.exists_of_ofPatterns
    (hr : Resource.ofPatterns config extent name patterns = .ok r) :
    (∃ more, r.sequences = r.segments :: more) ∧
      ∃ p ∈ patterns, Pattern.parse config extent p = .ok r.segments := by
  obtain ⟨-, hmatcher, hparsed⟩ := Resource.parse_of_mem hr
  cases hsequences : r.sequences with
  | nil =>
    rw [hsequences] at hmatcher
    exact absurd hmatcher (by simp [Matcher.ofSequences])
  | cons segments more =>
    rw [Resource.segments_of_sequences hsequences]
    refine ⟨⟨more, rfl⟩, hparsed segments ?_⟩
    rw [hsequences]
    exact List.mem_cons_self ..

theorem spanCaptures?_of_captureFree {segments : List Segment}
    (h : PathRouter.captureNames segments = []) (text : Text) (pos : Nat) (spans : List Text) :
    spanCaptures? text pos segments spans = some [] := by
  induction segments generalizing pos spans with
  | nil =>
    cases spans <;> rfl
  | cons s rest ih =>
    cases spans with
    | nil => rfl
    | cons span spans =>
      have hname : s.name? = none := List.filterMap_eq_nil_iff.1 h s (List.mem_cons_self ..)
      simp only [spanCaptures?, hname]
      exact ih (by simpa [captureNames, hname] using h) _ _

theorem isCaptureFree_iff {segments : List Segment} :
    isCaptureFree segments = true ↔ PathRouter.captureNames segments = [] := by
  rw [isCaptureFree, List.all_eq_true, PathRouter.captureNames, List.filterMap_eq_nil_iff]
  simp

/-- A resource of a single pattern has the sequence of that pattern only. -/
theorem Resource.sequences_of_single {pattern : Text}
    (hr : Resource.ofPatterns config extent name [pattern] = .ok r) :
    r.sequences = [r.segments] := by
  rw [Resource.ofPatterns, bind_eq_ok] at hr
  obtain ⟨sequences, hsequences, hr⟩ := hr
  rw [bind_eq_ok] at hr
  obtain ⟨matcher, -, hr⟩ := hr
  obtain rfl := Except.ok.inj hr
  rw [Pattern.parseAll, if_neg (by simp), List.mapM_cons, bind_eq_ok] at hsequences
  obtain ⟨segments, -, hsequences⟩ := hsequences
  obtain rfl := Except.ok.inj hsequences
  rfl

/-- The first alternative of a matcher is that of the first sequence: plain text, or an expression
that is compiled from it. -/
inductive LeadsWith (extent : Extent) (segments : List Segment) (more : List (List Segment)) :
    Matcher → Prop
  | static {literal : Text} :
      segments = Pattern.literalSegment literal ++ Pattern.endSegments extent →
      LeadsWith extent segments more
        (.static ((segments :: more).map (StaticAlternative.ofSegments extent)) extent)
  | regex {a : RegexAlternative} {others : List RegexAlternative} {nodes : List Regex.Node}
      {gs : List Nat} : a.IsOf NoBody extent segments nodes gs → (more = [] → others = []) →
      LeadsWith extent segments more (.regex (a :: others) extent)

theorem Resource.leadsWith (hr : Resource.ofPatterns config extent name patterns = .ok r)
    (hplain : IsPlain r.segments) :
    ∃ more, r.sequences = r.segments :: more ∧ EndsWell extent r.segments ∧
      LeadsWith extent r.segments more r.matcher := by
  obtain ⟨⟨more, hsequences⟩, p, -, hparse⟩ := Resource.exists_of_ofPatterns hr
  have hend := Pattern.endsWell_of_parse hparse
  obtain ⟨-, hmatcher, -⟩ := Resource.parse_of_mem hr
  refine ⟨more, hsequences, hend, ?_⟩
  rw [hsequences, Matcher.ofSequences, if_neg (by simp)] at hmatcher
  split at hmatcher
  · rename_i hfree
    have hnames := isCaptureFree_iff.1 (List.all_eq_true.1 hfree _ (List.mem_cons_self ..))
    obtain ⟨literal, hliteral⟩ := Pattern.eq_literalSegment_of_parse hparse hnames
    rw [← Except.ok.inj hmatcher]
    exact .static hliteral
  · rw [List.mapM_cons] at hmatcher
    simp only [bind_eq_ok] at hmatcher
    obtain ⟨alternatives, ⟨a, ha, others, hothers, halternatives⟩, hregex⟩ := hmatcher
    obtain rfl := Except.ok.inj halternatives
    obtain ⟨a', nodes, gs, ha', hof⟩ :=
      RegexAlternative.ofSegments_of_isPlain config.edition hend hplain
    obtain rfl := Except.ok.inj (ha.symm.trans ha')
    rw [← Except.ok.inj hregex]
    apply LeadsWith.regex hof
    rintro rfl
    exact (Except.ok.inj hothers).symm

theorem LeadsWith.captureNames_eq_nil {segments : List Segment} {literal : Text}
    (h : segments = Pattern.literalSegment literal ++ Pattern.endSegments extent) :
    PathRouter.captureNames segments = [] := by
  rw [h, Pattern.captureNames_append_endSegments]
  have hnames := Pattern.captureNames_literalSegment_append literal []
  rwa [List.append_nil] at hnames

/-- A split of the text by the first pattern decides the match. -/
theorem Resource.matchAt_of_best (hr : Resource.ofPatterns config extent name patterns = .ok r)
    (hplain : IsPlain r.segments) (hpos : pos ≤ text.length) (hword : isMachineInteger pos)
    (hbest : best extent r.segments (text.drop pos) = some spans) :
    r.matchAt text pos =
      .ok ((spanCaptures? text pos r.segments spans).map (⟨spans.flatten.length, ·⟩)) := by
  obtain ⟨more, -, hend, hleads⟩ := Resource.leadsWith hr hplain
  rw [Resource.matchAt]
  generalize r.matcher = m at hleads ⊢
  cases hleads with
  | @static literal hliteral =>
    have hfound := best_literalSegment extent literal (text.drop pos)
    dsimp only at hfound
    rw [← hliteral, hbest, Option.map_some] at hfound
    have hroot : ¬(text.drop pos = [] ∧
        (StaticAlternative.ofSegments extent r.segments).isRoot extent = true) := by
      rintro ⟨hnil, hroot⟩
      rw [hnil, hliteral] at hbest
      rw [hliteral, isRoot_of_best_nil hbest] at hroot
      exact absurd hroot (by simp)
    rw [Matcher.matchAt, List.map_cons, StaticAlternative.firstMatch,
      StaticAlternative.matchAt_natCast _ hpos, if_neg hroot, ← hfound,
      spanCaptures?_of_captureFree (LeadsWith.captureNames_eq_nil hliteral)]
    rfl
  | regex hof hothers =>
    rw [Matcher.matchAt, if_pos hword, firstMatch_cons_eq_best hend hplain hof _ hpos, hbest]

/-- A resource of a single pattern matches where the pattern splits the text, and apart from that
only as the root at the end of the text. -/
theorem Resource.best_of_matchAt {pattern : Text} {result : MatchResult}
    (hr : Resource.ofPatterns config extent name [pattern] = .ok r)
    (hplain : IsPlain r.segments) (hpos : pos ≤ text.length)
    (h : r.matchAt text pos = .ok (some result)) :
    text.drop pos = [] ∨ ∃ spans, best extent r.segments (text.drop pos) = some spans := by
  cases hbest : best extent r.segments (text.drop pos) with
  | some spans => exact .inr ⟨spans, rfl⟩
  | none =>
    obtain ⟨more, hsequences, hend, hleads⟩ := Resource.leadsWith hr hplain
    rw [Resource.sequences_of_single hr] at hsequences
    obtain ⟨-, rfl⟩ := List.cons.inj hsequences
    rw [Resource.matchAt] at h
    generalize r.matcher = m at h hleads
    cases hleads with
    | @static literal hliteral =>
      have hfound := best_literalSegment extent literal (text.drop pos)
      dsimp only at hfound
      rw [← hliteral, hbest, Option.map_none] at hfound
      rw [Matcher.matchAt, List.map_cons, StaticAlternative.firstMatch,
        StaticAlternative.matchAt_natCast _ hpos, ← hfound] at h
      by_cases hroot : text.drop pos = [] ∧
          (StaticAlternative.ofSegments extent r.segments).isRoot extent = true
      · exact .inl hroot.1
      · rw [if_neg hroot] at h
        exact absurd (Except.ok.inj h) (by simp)
    | regex hof hothers =>
      obtain rfl := hothers rfl
      rw [Matcher.matchAt] at h
      split at h
      · rw [firstMatch_cons_eq_best hend hplain hof [] hpos, hbest] at h
        exact absurd (Except.ok.inj h) (by simp)
      · exact absurd h (by simp)

theorem exists_mapM_ok {α β : Type} {f : α → Except BuildFailure β} {xs : List α}
    (h : ∀ x ∈ xs, ∃ y, f x = .ok y) : ∃ ys, xs.mapM f = .ok ys := by
  induction xs with
  | nil => exact ⟨[], rfl⟩
  | cons x xs ih =>
    obtain ⟨y, hy⟩ := h x (List.mem_cons_self ..)
    obtain ⟨ys, hys⟩ := ih fun x hx => h x (List.mem_cons_of_mem _ hx)
    refine ⟨y :: ys, ?_⟩
    rw [List.mapM_cons, hy, hys]
    rfl

theorem ne_nil_of_mapM_ok {α β : Type} {f : α → Except BuildFailure β} {xs : List α} {ys : List β}
    (h : xs.mapM f = .ok ys) (hne : xs ≠ []) : ys ≠ [] := by
  obtain ⟨x, xs, rfl⟩ := List.exists_cons_of_ne_nil hne
  rw [List.mapM_cons, bind_eq_ok] at h
  obtain ⟨y, -, h⟩ := h
  rw [bind_eq_ok] at h
  obtain ⟨more, -, h⟩ := h
  obtain rfl := Except.ok.inj h
  exact List.cons_ne_nil y more

/-- Sequences without inline expressions can be compiled. -/
theorem Matcher.exists_of_isPlain {sequences : List (List Segment)} (edition : Regex.Edition)
    (hne : sequences ≠ [])
    (hends : ∀ segments ∈ sequences, EndsWell extent segments)
    (hplain : ∀ segments ∈ sequences, IsPlain segments) :
    ∃ m, Matcher.ofSequences extent sequences edition = .ok m := by
  rw [Matcher.ofSequences, if_neg hne]
  split
  · exact ⟨_, rfl⟩
  · have hcompiled :
        ∃ as, sequences.mapM (RegexAlternative.ofSegments edition extent) = .ok as := by
      apply exists_mapM_ok
      intro segments hmem
      obtain ⟨a, -, -, ha, -⟩ :=
        RegexAlternative.ofSegments_of_isPlain edition (hends segments hmem) (hplain segments hmem)
      exact ⟨a, ha⟩
    obtain ⟨alternatives, halternatives⟩ := hcompiled
    exact ⟨.regex alternatives extent, by rw [halternatives]; rfl⟩

/-- Patterns without inline expressions give a resource if they can be parsed. -/
theorem Resource.exists_of_parseAll {sequences : List (List Segment)} (name : Option Text)
    (hparse : Pattern.parseAll config extent patterns = .ok sequences)
    (hplain : ∀ segments ∈ sequences, IsPlain segments) :
    ∃ r, Resource.ofPatterns config extent name patterns = .ok r ∧ r.sequences = sequences := by
  obtain ⟨hpatterns, hmapM⟩ := Pattern.mapM_of_parseAll hparse
  have hends : ∀ segments ∈ sequences, EndsWell extent segments := by
    intro segments hmem
    obtain ⟨p, -, hp⟩ := mem_of_mapM_ok hmapM segments hmem
    exact Pattern.endsWell_of_parse hp
  obtain ⟨m, hm⟩ :=
    Matcher.exists_of_isPlain config.edition (ne_nil_of_mapM_ok hmapM hpatterns) hends hplain
  refine ⟨⟨patterns, extent, name, config, sequences, m⟩, ?_, rfl⟩
  rw [Resource.ofPatterns, hparse]
  show (Matcher.ofSequences extent sequences config.edition >>= _) = _
  rw [hm]
  rfl

end Resource

end PathRouter

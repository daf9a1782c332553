import PathRouter.Proofs.PlainAlternatives

/-!
# Adding alternatives

A resource that is given more patterns at the end keeps the matches that it had: the first pattern
that matches decides, and what comes after it is not looked at. There is one exception. If one of the
added patterns is the first with a capture, all patterns are compiled to expressions from then on,
and as an expression the root does not match at the end of a text.
-/

namespace PathRouter
set_option autoImplicit false

section Alternatives

variable {extent : Extent} {text : Text} {pos : Nat} {offset : Int} {result : MatchResult}

/-- What the first texts match is matched whatever texts come after them. -/
theorem StaticAlternative.firstMatch_append {alternatives : List StaticAlternative}
    (more : List StaticAlternative)
    (h : StaticAlternative.firstMatch extent text offset alternatives = .ok (some result)) :
    StaticAlternative.firstMatch extent text offset (alternatives ++ more) = .ok (some result) := by
  induction alternatives with
  | nil => exact absurd h (by simp [StaticAlternative.firstMatch])
  | cons a rest ih =>
    rw [StaticAlternative.firstMatch] at h
    rw [List.cons_append, StaticAlternative.firstMatch]
    cases hfirst : a.matchAt extent text offset with
    | error e =>
      rw [hfirst] at h
      exact h
    | ok found =>
      rw [hfirst] at h
      cases found with
      | none => exact ih h
      | some r => exact h

/-- What the first expressions match is matched whatever expressions come after them. -/
theorem RegexAlternative.firstMatch_append {alternatives : List RegexAlternative}
    (more : List RegexAlternative)
    (h : RegexAlternative.firstMatch text offset alternatives = .ok (some result)) :
    RegexAlternative.firstMatch text offset (alternatives ++ more) = .ok (some result) := by
  induction alternatives with
  | nil => exact absurd h (by simp [RegexAlternative.firstMatch])
  | cons a rest ih =>
    rw [RegexAlternative.firstMatch] at h
    rw [List.cons_append, RegexAlternative.firstMatch]
    cases hfirst : a.expression.matchAt a.edition text (min offset.toNat text.length) with
    | none =>
      rw [hfirst] at h
      exact ih h
    | some t =>
      rw [hfirst] at h
      exact h

/-! ## At the end of a text -/

/-- At the end of a text nothing is left to take. -/
theorem taken?_result_of_end {literal : Text} {t : Taken} (hpos : pos = text.length)
    (hend : EndsWell extent (Pattern.literalSegment literal ++ Pattern.endSegments extent))
    (ht : taken? extent text pos
      (Pattern.literalSegment literal ++ Pattern.endSegments extent) = some t) :
    t.result? = some ⟨0, []⟩ := by
  obtain ⟨spans, hbest, rfl⟩ := Option.map_eq_some_iff.1 ht
  have hcaptures := spanCaptures?_of_captureFree (captureNames_plainText extent literal) text pos spans
  have hprefix := (splits_of_best hend hbest).prefix_flatten
  rw [List.drop_eq_nil_of_le (Nat.le_of_eq hpos.symm), List.prefix_nil] at hprefix
  simp [Taken.result?, hcaptures, hprefix]

/-- The empty pattern takes what is left at the end of a text. -/
theorem taken?_empty_of_end (extent : Extent) (hpos : pos = text.length) :
    ∃ t, taken? extent text pos
      (Pattern.literalSegment [] ++ Pattern.endSegments extent) = some t := by
  rw [taken?, List.drop_eq_nil_of_le (Nat.le_of_eq hpos.symm)]
  cases extent with
  | exact => exact ⟨_, rfl⟩
  | leading => exact ⟨_, rfl⟩

end Alternatives

/-! ## Resources -/

section Resource

variable {config : Config} {extent : Extent} {name : Option Text} {patterns : List Text}
  {r : Resource} {text : Text} {pos : Nat} {result : MatchResult}

theorem mapM_append_ok {α β : Type} {f : α → Except BuildFailure β} {xs ys : List α} {zs : List β}
    (h : (xs ++ ys).mapM f = .ok zs) :
    ∃ as bs, xs.mapM f = .ok as ∧ ys.mapM f = .ok bs ∧ zs = as ++ bs := by
  rw [List.mapM_append] at h
  simp only [bind_eq_ok] at h
  obtain ⟨as, has, bs, hbs, hzs⟩ := h
  exact ⟨as, bs, has, hbs, (Except.ok.inj hzs).symm⟩

/-- The sequences of a resource with added patterns are those of the resource, and more. -/
theorem Resource.sequences_append {name' : Option Text} {added : List Text} {r' : Resource}
    (hr : Resource.ofPatterns config extent name patterns = .ok r)
    (hr' : Resource.ofPatterns config extent name' (patterns ++ added) = .ok r') :
    ∃ more, r'.sequences = r.sequences ++ more := by
  rw [Resource.ofPatterns, bind_eq_ok] at hr hr'
  obtain ⟨sequences, hsequences, hr⟩ := hr
  obtain ⟨sequences', hsequences', hr'⟩ := hr'
  rw [bind_eq_ok] at hr hr'
  obtain ⟨matcher, -, hr⟩ := hr
  obtain ⟨matcher', -, hr'⟩ := hr'
  obtain rfl := Except.ok.inj hr
  obtain rfl := Except.ok.inj hr'
  obtain ⟨as, bs, has, -, hboth⟩ := mapM_append_ok (Pattern.mapM_of_parseAll hsequences').2
  obtain rfl := Except.ok.inj (has.symm.trans (Pattern.mapM_of_parseAll hsequences).2)
  exact ⟨bs, hboth⟩

theorem exists_of_mapM_ok {α β : Type} {f : α → Except BuildFailure β} {xs : List α} {ys : List β}
    (h : xs.mapM f = .ok ys) : ∀ x ∈ xs, ∃ y ∈ ys, f x = .ok y := by
  intro x hx
  have hmem : f x ∈ ys.map .ok := map_eq_of_mapM_ok h ▸ List.mem_map_of_mem hx
  obtain ⟨y, hy, hxy⟩ := List.mem_map.1 hmem
  exact ⟨y, hy, hxy.symm⟩

/-- Every pattern of a resource has its sequence. -/
theorem Resource.exists_sequence (hr : Resource.ofPatterns config extent name patterns = .ok r) :
    ∀ p ∈ patterns, ∃ segments ∈ r.sequences, Pattern.parse config extent p = .ok segments := by
  rw [Resource.ofPatterns, bind_eq_ok] at hr
  obtain ⟨sequences, hsequences, hr⟩ := hr
  rw [bind_eq_ok] at hr
  obtain ⟨matcher, -, hr⟩ := hr
  obtain rfl := Except.ok.inj hr
  exact exists_of_mapM_ok (Pattern.mapM_of_parseAll hsequences).2

/-- At the end of a text, the patterns without captures take nothing, if the empty one is among
them. -/
theorem taken_of_empty_mem (hr : Resource.ofPatterns config extent name patterns = .ok r)
    (hfree : r.sequences.all isCaptureFree = true) (hempty : [] ∈ patterns)
    (hpos : pos = text.length) :
    ∃ t, r.sequences.findSome? (taken? extent text pos) = some t ∧ t.result? = some ⟨0, []⟩ := by
  obtain ⟨-, -, hparsed⟩ := Resource.parse_of_mem hr
  have hsome : (r.sequences.findSome? (taken? extent text pos)).isSome := by
    obtain ⟨segments, hmem, hparse⟩ := Resource.exists_sequence hr [] hempty
    obtain rfl := eq_plainText_of_parse hparse (List.all_eq_true.1 hfree _ hmem)
    obtain ⟨t, ht⟩ := taken?_empty_of_end extent hpos
    rw [List.findSome?_isSome_iff]
    exact ⟨_, hmem, by rw [ht]; rfl⟩
  obtain ⟨t, ht⟩ := Option.isSome_iff_exists.1 hsome
  refine ⟨t, ht, ?_⟩
  obtain ⟨segments, hmem, htaken⟩ := List.exists_of_findSome?_eq_some ht
  obtain ⟨pattern, -, hparse⟩ := hparsed segments hmem
  obtain rfl := eq_plainText_of_parse hparse (List.all_eq_true.1 hfree _ hmem)
  exact taken?_result_of_end hpos (Pattern.endsWell_of_parse hparse) htaken

/-- A match of plain text is what the first sequence takes that takes anything, unless it is the
root that matches at the end of the text. -/
theorem Resource.taken_of_static (hr : Resource.ofPatterns config extent name patterns = .ok r)
    (hfree : r.sequences.all isCaptureFree = true)
    (hroot : pos = text.length → ['/'] ∈ patterns → [] ∈ patterns) (hpos : pos ≤ text.length)
    (h : r.matchAt text pos = .ok (some result)) :
    ∃ t, r.sequences.findSome? (taken? extent text pos) = some t ∧ t.result? = some result := by
  obtain ⟨-, hmatcher, hparsed⟩ := Resource.parse_of_mem hr
  have hstatic : StaticAlternative.firstMatch extent text pos
      (r.sequences.map (StaticAlternative.ofSegments extent)) = .ok (some result) := by
    rw [Matcher.ofSequences] at hmatcher
    split at hmatcher
    · exact absurd hmatcher (by simp)
    · rwa [Resource.matchAt, ← Except.ok.inj hmatcher] at h
  by_cases hend : pos = text.length ∧ ['/'] ∈ patterns
  · -- here the root takes what the empty pattern takes, too
    obtain ⟨t, ht, hresult⟩ :=
      taken_of_empty_mem hr hfree (hroot hend.1 hend.2) hend.1
    obtain ⟨a, -, ha⟩ := StaticAlternative.exists_of_firstMatch hstatic
    obtain ⟨stop, hle, hstop, rfl, -⟩ := a.ends_of_matchAt hpos ha
    have hzero : (stop : Int) - pos = 0 := by omega
    exact ⟨t, ht, by rw [hresult, hzero]⟩
  · have hliterals : ∀ segments ∈ r.sequences, ∃ literal,
        segments = Pattern.literalSegment literal ++ Pattern.endSegments extent ∧
          ¬(pos = text.length ∧ literal = ['/']) := by
      intro segments hmem
      obtain ⟨pattern, hpattern, hparse⟩ := hparsed segments hmem
      refine ⟨pattern, eq_plainText_of_parse hparse (List.all_eq_true.1 hfree _ hmem), ?_⟩
      rintro ⟨hpos, rfl⟩
      exact hend ⟨hpos, hpattern⟩
    rw [StaticAlternative.firstMatch_eq_taken hpos hliterals] at hstatic
    exact Option.bind_eq_some_iff.1 (Except.ok.inj hstatic)

/-- What a resource matches it matches with more patterns, too, and with the same result. Only the
root at the end of a text is lost where the added patterns bring the first capture, unless the empty
pattern stands in for it. -/
theorem Resource.matchAt_append {name' : Option Text} {added : List Text} {r' : Resource}
    (hr : Resource.ofPatterns config extent name patterns = .ok r)
    (hr' : Resource.ofPatterns config extent name' (patterns ++ added) = .ok r')
    (hpos : pos ≤ text.length) (hword : isMachineInteger pos)
    (hroot : pos = text.length → ['/'] ∈ patterns →
      [] ∈ patterns ∨ r'.matcher.isStatic = r.matcher.isStatic)
    (h : r.matchAt text pos = .ok (some result)) :
    r'.matchAt text pos = .ok (some result) := by
  obtain ⟨-, hmatcher, hparsed⟩ := Resource.parse_of_mem hr
  obtain ⟨-, hmatcher', -⟩ := Resource.parse_of_mem hr'
  obtain ⟨more, hmore⟩ := Resource.sequences_append hr hr'
  rw [hmore] at hmatcher'
  unfold Matcher.ofSequences at hmatcher hmatcher'
  split at hmatcher
  · exact absurd hmatcher (by simp)
  split at hmatcher'
  · exact absurd hmatcher' (by simp)
  split at hmatcher <;> split at hmatcher'
  · -- plain text before and after
    rw [Resource.matchAt, ← Except.ok.inj hmatcher, Matcher.matchAt] at h
    rw [Resource.matchAt, ← Except.ok.inj hmatcher', Matcher.matchAt, List.map_append]
    exact StaticAlternative.firstMatch_append _ h
  · -- plain text before, expressions after
    rename_i hfree hcapture
    rw [bind_eq_ok] at hmatcher'
    obtain ⟨alternatives, halternatives, hregex⟩ := hmatcher'
    obtain ⟨as, bs, has, -, rfl⟩ := mapM_append_ok halternatives
    have hroot' : pos = text.length → ['/'] ∈ patterns → [] ∈ patterns := by
      intro hend hmem
      rcases hroot hend hmem with hempty | hsame
      · exact hempty
      · rw [← Except.ok.inj hmatcher, ← Except.ok.inj hregex] at hsame
        exact absurd hsame (by simp [Matcher.isStatic])
    obtain ⟨t, ht, hresult⟩ := Resource.taken_of_static hr hfree hroot' hpos h
    have hends : ∀ segments ∈ r.sequences, EndsWell extent segments := by
      intro segments hmem
      obtain ⟨p, -, hparse⟩ := hparsed segments hmem
      exact Pattern.endsWell_of_parse hparse
    have hplain : ∀ segments ∈ r.sequences, IsPlain segments := fun segments hmem =>
      isPlain_of_isCaptureFree (List.all_eq_true.1 hfree _ hmem)
    rw [Resource.matchAt, ← Except.ok.inj hregex, Matcher.matchAt, if_pos hword,
      RegexAlternative.firstMatch_append_eq_taken bs hpos has hends hplain, ht, ← hresult]
  · -- a capture does not go away
    rename_i hcapture hfree
    rw [List.all_append, Bool.and_eq_true] at hfree
    exact absurd hfree.1 hcapture
  · -- expressions before and after
    rw [bind_eq_ok] at hmatcher hmatcher'
    obtain ⟨alternatives, halternatives, hregex⟩ := hmatcher
    obtain ⟨alternatives', halternatives', hregex'⟩ := hmatcher'
    obtain ⟨as, bs, has, -, rfl⟩ := mapM_append_ok halternatives'
    obtain rfl := Except.ok.inj (halternatives.symm.trans has)
    rw [Resource.matchAt, ← Except.ok.inj hregex, Matcher.matchAt, if_pos hword] at h
    rw [Resource.matchAt, ← Except.ok.inj hregex', Matcher.matchAt, if_pos hword]
    exact RegexAlternative.firstMatch_append bs h

/-- The empty pattern matches at the end of a text as the root did. -/
theorem Resource.matchAt_append_empty :
    ∃ r r', Resource.ofPatterns .standard .leading none ["/".toList, []] = .ok r ∧
      Resource.ofPatterns .standard .leading none (["/".toList, []] ++ ["/{x}".toList]) = .ok r' ∧
      r.matchAt "/v".toList 2 = .ok (some ⟨0, []⟩) ∧
      r'.matchAt "/v".toList 2 = .ok (some ⟨0, []⟩) := by
  have hrun : ((Resource.ofPatterns .standard .leading none ["/".toList, []]).toOption.map
      fun r => (r.matchAt "/v".toList 2).toOption) = some (some (some ⟨0, []⟩)) := by
    decide +kernel
  have hrun' : (Resource.ofPatterns .standard .leading none
      (["/".toList, []] ++ ["/{x}".toList])).toOption.isSome := by decide +kernel
  obtain ⟨r, hr, hmatch⟩ := Option.map_eq_some_iff.1 hrun
  obtain ⟨r', hr'⟩ := Option.isSome_iff_exists.1 hrun'
  replace hr := eq_ok_of_toOption hr
  replace hr' := eq_ok_of_toOption hr'
  have h : r.matchAt "/v".toList (2 : Nat) = .ok (some ⟨0, []⟩) := eq_ok_of_toOption hmatch
  exact ⟨r, r', hr, hr', h, Resource.matchAt_append hr hr' (by decide) (by decide)
    (fun _ _ => .inl (by simp)) h⟩

/-- The root matches at the end of a text, but no longer when a capture is added beside it. -/
theorem Resource.not_matchAt_append_root :
    ∃ r r', Resource.ofPatterns .standard .exact none ["/".toList] = .ok r ∧
      Resource.ofPatterns .standard .exact none (["/".toList] ++ ["/x/{a}".toList]) = .ok r' ∧
      r.matchAt [] 0 = .ok (some ⟨0, []⟩) ∧ r'.matchAt [] 0 = .ok none := by
  have hrun : ((Resource.ofPatterns .standard .exact none ["/".toList]).toOption.map
      fun r => (r.matchAt [] 0).toOption) = some (some (some ⟨0, []⟩)) := by decide +kernel
  have hrun' : ((Resource.ofPatterns .standard .exact none
      (["/".toList] ++ ["/x/{a}".toList])).toOption.map fun r => (r.matchAt [] 0).toOption) =
      some (some none) := by decide +kernel
  obtain ⟨r, hr, hmatch⟩ := Option.map_eq_some_iff.1 hrun
  obtain ⟨r', hr', hmatch'⟩ := Option.map_eq_some_iff.1 hrun'
  exact ⟨r, r', eq_ok_of_toOption hr, eq_ok_of_toOption hr', eq_ok_of_toOption hmatch,
    eq_ok_of_toOption hmatch'⟩

end Resource

end PathRouter

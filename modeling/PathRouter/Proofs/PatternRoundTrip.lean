import Mathlib.Data.List.Chain
import PathRouter.Proofs.PatternGrammar

/-!
# Patterns and their segments

Reading a pattern and writing its segments are inverse to each other. What is read is canonical and
is written as the pattern; and what is written from sound segments in a possible order is read back
as those segments, or refused for the first name that stands there twice.
-/

namespace PathRouter.Pattern
set_option autoImplicit false

section Body

variable {config : Config} {extent : Extent} {pattern : Text} {body segments : List Segment}

/-! ## Body and end -/

theorem IsGrammatical.of_cons {s : Segment} (hs : s ≠ .boundary)
    (h : IsGrammatical config extent (s :: segments)) : IsGrammatical config extent segments where
  sound := fun t ht => h.sound t (List.mem_cons_of_mem _ ht)
  chained := h.chained.of_cons
  ends := by
    rw [← h.ends, List.mem_cons]
    exact ⟨.inr, fun hmem => hmem.resolve_left (Ne.symm hs)⟩

theorem IsGrammatical.boundary_not_mem (h : IsGrammatical config .exact body) :
    .boundary ∉ body :=
  fun hmem => absurd (h.ends.1 hmem) (by simp)

theorem IsGrammatical.head_ne_boundary {s : Segment}
    (h : IsGrammatical config .exact (s :: segments)) : s ≠ .boundary := by
  rintro rfl
  exact h.boundary_not_mem (List.mem_cons_self ..)

/-- The boundary may stand after everything but itself. -/
theorem mayPrecede_boundary {s : Segment} (h : s ≠ .boundary) : s.MayPrecede .boundary := by
  cases s with
  | boundary => exact absurd rfl h
  | tail _ _ => rfl
  | literal _ => exact fun _ => by simp
  | dynamic _ => exact fun _ he => absurd he (by simp)
  | constrained _ _ => exact fun _ he => absurd he (by simp)

/-- A body is completed to a pattern of any extent. -/
theorem IsGrammatical.append_endSegments (h : IsGrammatical config .exact body)
    (extent : Extent) : IsGrammatical config extent (body ++ endSegments extent) := by
  cases extent with
  | exact =>
    rw [endSegments, List.append_nil]
    exact h
  | leading =>
    refine ⟨?_, ?_, ?_⟩
    · intro s hs
      rcases List.mem_append.1 hs with hs | hs
      · exact h.sound s hs
      · obtain rfl := List.mem_singleton.1 hs
        trivial
    · rw [List.isChain_append]
      refine ⟨h.chained, List.isChain_singleton _, ?_⟩
      intro s hs t ht
      obtain rfl := Option.some.inj ht
      apply mayPrecede_boundary
      rintro rfl
      exact h.boundary_not_mem (List.mem_of_getLast? hs)
    · exact iff_of_true (by simp [endSegments]) rfl

/-- Without its end, what is grammatical is the body of a pattern. -/
theorem IsGrammatical.exists_body (h : IsGrammatical config extent segments) :
    ∃ body, IsGrammatical config .exact body ∧ segments = body ++ endSegments extent := by
  cases extent with
  | exact => exact ⟨segments, h, (List.append_nil _).symm⟩
  | leading =>
    obtain ⟨body, after, rfl⟩ := List.append_of_mem (h.ends.2 rfl)
    have hchain := List.isChain_append.1 h.chained
    -- nothing may follow the first boundary
    have hafter : after = [] := by
      cases after with
      | nil => rfl
      | cons t after => exact absurd (List.isChain_cons_cons.1 hchain.2.1).1 id
    subst hafter
    refine ⟨body, ⟨fun s hs => h.sound s (List.mem_append_left _ hs), hchain.1, ?_⟩, rfl⟩
    refine iff_of_false (fun hmem => ?_) (by simp)
    obtain ⟨front, back, rfl⟩ := List.append_of_mem hmem
    rw [List.append_assoc, List.cons_append] at h
    have hback := (List.isChain_append.1 h.chained).2.1
    cases back with
    | nil => exact (List.isChain_cons_cons.1 hback).1
    | cons t back => exact (List.isChain_cons_cons.1 hback).1

@[simp] theorem renderSegments_nil : renderSegments [] = [] :=
  rfl

@[simp] theorem renderSegments_append (left right : List Segment) :
    renderSegments (left ++ right) = renderSegments left ++ renderSegments right :=
  List.flatMap_append

@[simp] theorem renderSegments_cons (s : Segment) (segments : List Segment) :
    renderSegments (s :: segments) = s.render ++ renderSegments segments :=
  List.flatMap_cons

@[simp] theorem renderSegments_endSegments (extent : Extent) :
    renderSegments (endSegments extent) = [] := by
  cases extent <;> rfl

@[simp] theorem renderSegments_literalSegment (text : Text) :
    renderSegments (literalSegment text) = text := by
  unfold literalSegment
  split
  · exact Eq.symm ‹_›
  · exact List.append_nil text

end Body

/-! ## What is read -/

section Read

variable {config : Config} {extent : Extent} {pattern literal rest : Text} {seen : List Text}
  {segments : List Segment}

theorem IsGrammatical.nil : IsGrammatical config .exact [] :=
  ⟨by simp, List.isChain_nil, by simp⟩

/-- A sound segment stands before what is grammatical if it may stand before the first of it. -/
theorem IsGrammatical.cons {s : Segment} (hsound : s.IsSound config) (hs : s ≠ .boundary)
    (hnext : ∀ next ∈ segments.head?, s.MayPrecede next)
    (h : IsGrammatical config extent segments) : IsGrammatical config extent (s :: segments) where
  sound := List.forall_mem_cons.2 ⟨hsound, h.sound⟩
  chained := List.isChain_cons.2 ⟨hnext, h.chained⟩
  ends := by
    rw [← h.ends, List.mem_cons]
    exact ⟨fun hmem => hmem.resolve_left (Ne.symm hs), .inr⟩

/-- The literal text before a capture may be a segment. -/
theorem IsGrammatical.literalSegment_append {text : Text}
    (htext : '\x7b' ∉ text ∧ '\x7d' ∉ text) (hnext : ∀ t, segments.head? ≠ some (.literal t))
    (h : IsGrammatical config .exact segments) :
    IsGrammatical config .exact (literalSegment text ++ segments) := by
  unfold literalSegment
  split
  · exact h
  · rename_i hne
    refine .cons ⟨hne, htext⟩ (by simp) ?_ h
    rintro next hhead t rfl
    exact hnext t hhead

/-- A sound capture stands after literal text, and before what it may precede. -/
theorem IsGrammatical.capture {text name : Text} {s : Segment}
    (htext : '\x7b' ∉ text ∧ '\x7d' ∉ text) (hname : s.name? = some name)
    (hsound : s.IsSound config) (hnext : ∀ next ∈ segments.head?, s.MayPrecede next)
    (h : IsGrammatical config .exact segments) :
    IsGrammatical config .exact (literalSegment text ++ s :: segments) := by
  have hboundary : s ≠ .boundary := by
    rintro rfl
    exact absurd hname (by simp [Segment.name?])
  refine .literalSegment_append htext ?_ (.cons hsound hboundary hnext h)
  intro t he
  obtain rfl : s = .literal t := Option.some.inj he
  exact absurd hname (by simp [Segment.name?])

/-- The text that begins a sequence begins what the sequence is written as. -/
theorem head?_renderSegments_of_literal {t : Text}
    (h : IsGrammatical config .exact segments) (hhead : segments.head? = some (.literal t)) :
    (renderSegments segments).head? = t.head? := by
  obtain ⟨more, rfl⟩ : ∃ more, segments = .literal t :: more := by
    cases segments with
    | nil => exact absurd hhead (by simp)
    | cons s more => exact ⟨more, by rw [Option.some.inj hhead]⟩
  have hne : t ≠ [] := (h.sound _ (List.mem_cons_self ..)).1
  rw [renderSegments_cons]
  exact List.head?_append_of_ne_nil t hne

/-- A capture that is no tail may stand before everything but text that begins with a star. -/
theorem mayPrecede_iff_of_not_isTail {s next : Segment} {name : Text}
    (hname : s.name? = some name) (hplain : s.isTail = false) :
    s.MayPrecede next ↔ ∀ t, next = .literal t → t.head? ≠ some '*' := by
  cases s with
  | literal _ => exact absurd hname (by simp [Segment.name?])
  | boundary => exact absurd hname (by simp [Segment.name?])
  | tail _ _ => exact absurd hplain (by simp [Segment.isTail])
  | dynamic _ => exact Iff.rfl
  | constrained _ _ => exact Iff.rfl

/-- The segments that are read are grammatical, and nothing of the text is lost. -/
theorem isGrammatical_of_segmentsFrom (hliteral : '\x7b' ∉ literal ∧ '\x7d' ∉ literal)
    (h : segmentsFrom config pattern seen literal rest = .ok segments) :
    renderSegments segments = literal.reverse ++ rest ∧
      IsGrammatical config .exact segments := by
  replace h := parses_of_segmentsFrom h
  induction h with
  | @done _ literal =>
    refine ⟨by simp, ?_⟩
    have htext : '\x7b' ∉ literal.reverse ∧ '\x7d' ∉ literal.reverse := by simpa using hliteral
    have hnil : IsGrammatical config .exact [] := .nil
    simpa using hnil.literalSegment_append htext (by simp)
  | @tail _ literal _ _ _ _ hsplit hparameter _ =>
    obtain ⟨rfl, hbalanced⟩ := splitBody_eq_some hsplit
    obtain ⟨hname, hsound, rfl, htail⟩ := (parameter_eq_ok_iff hbalanced).1 hparameter
    have htext : '\x7b' ∉ literal.reverse ∧ '\x7d' ∉ literal.reverse := by simpa using hliteral
    refine ⟨?_, .capture htext hname hsound (by simp) .nil⟩
    simp [Segment.render_capture hname, htail]
  | @parameter _ literal _ _ _ _ _ _ hsplit hstar hparameter _ _ ih =>
    obtain ⟨rfl, hbalanced⟩ := splitBody_eq_some hsplit
    obtain ⟨hname, hsound, rfl, hplain⟩ := (parameter_eq_ok_iff hbalanced).1 hparameter
    have htext : '\x7b' ∉ literal.reverse ∧ '\x7d' ∉ literal.reverse := by simpa using hliteral
    obtain ⟨hrender, hgrammatical⟩ := ih (by simp)
    rw [List.reverse_nil, List.nil_append] at hrender
    refine ⟨?_, .capture htext hname hsound ?_ hgrammatical⟩
    · simp [Segment.render_capture hname, hplain, hrender]
    · intro next hhead
      rw [mayPrecede_iff_of_not_isTail hname hplain]
      rintro t rfl
      rw [← head?_renderSegments_of_literal hgrammatical hhead, hrender]
      exact hstar
  | @char _ literal _ c _ hclose hopen _ ih =>
    have hnext : '\x7b' ∉ c :: literal ∧ '\x7d' ∉ c :: literal := by
      simp only [List.mem_cons, not_or]
      exact ⟨⟨Ne.symm hopen, hliteral.1⟩, Ne.symm hclose, hliteral.2⟩
    obtain ⟨hrender, hgrammatical⟩ := ih hnext
    exact ⟨by simpa using hrender, hgrammatical⟩

end Read

/-! ## What is written -/

/-- The first of the names that was seen before it. -/
def repeated? (seen : List Text) : List Text → Option Text
  | [] => none
  | name :: names => if seen.contains name then some name else repeated? (name :: seen) names

theorem repeated?_eq_none_iff {seen names : List Text} :
    repeated? seen names = none ↔ names.Nodup ∧ ∀ name ∈ names, name ∉ seen := by
  induction names generalizing seen with
  | nil => simp [repeated?]
  | cons name names ih =>
    rw [repeated?]
    split
    · rename_i hseen
      exact iff_of_false (by simp) fun h =>
        h.2 name (List.mem_cons_self ..) (List.contains_iff_mem.1 hseen)
    · rename_i hfresh
      rw [List.contains_iff_mem] at hfresh
      rw [ih, List.nodup_cons, List.forall_mem_cons]
      constructor
      · rintro ⟨hnodup, hnames⟩
        refine ⟨⟨fun hmem => hnames name hmem (List.mem_cons_self ..), hnodup⟩, hfresh, ?_⟩
        exact fun other hother hseen => hnames other hother (List.mem_cons_of_mem _ hseen)
      · rintro ⟨⟨hname, hnodup⟩, -, hnames⟩
        refine ⟨hnodup, fun other hother hseen => ?_⟩
        rcases List.mem_cons.1 hseen with rfl | hseen
        · exact hname hother
        · exact hnames other hother hseen

section Written

variable {config : Config} {extent : Extent} {pattern literal rest name : Text} {seen : List Text}
  {segments : List Segment}

/-- Text without braces is taken over as literal text. -/
theorem segmentsFrom_text {text : Text} (htext : '\x7b' ∉ text ∧ '\x7d' ∉ text) :
    segmentsFrom config pattern seen literal (text ++ rest) =
      segmentsFrom config pattern seen (text.reverse ++ literal) rest := by
  induction text generalizing literal with
  | nil => rfl
  | cons c text ih =>
    simp only [List.mem_cons, not_or] at htext
    obtain ⟨⟨hopen, hopens⟩, hclose, hcloses⟩ := htext
    rw [List.cons_append, segmentsFrom]
    dsimp only
    rw [if_neg (Ne.symm hclose), if_neg (Ne.symm hopen), ih ⟨hopens, hcloses⟩]
    simp

/-- A capture that is written with its star or before none is read back, unless its name was seen
before. -/
theorem segmentsFrom_capture {s : Segment} (hname : s.name? = some name)
    (hsound : s.IsSound config) (htail : s.isTail = true → rest = [])
    (hstar : s.isTail = false → rest.head? ≠ some '*') :
    segmentsFrom config pattern seen literal (s.render ++ rest) =
      if name ∈ seen then refuse (.duplicateName name pattern)
      else do
        let more ← segmentsFrom config pattern (name :: seen) [] rest
        return literalSegment literal.reverse ++ s :: more := by
  obtain ⟨after, hrender, hkind, hlate, hrest⟩ : ∃ after,
      s.render ++ rest = '\x7b' :: (s.inside ++ '\x7d' :: after) ∧
        decide (after.head? = some '*') = s.isTail ∧
        ¬(after.head? = some '*' ∧ after.length ≠ 1) ∧
        (if after.head? = some '*' then after.drop 1 else after) = rest := by
    cases hs : s.isTail with
    | true =>
      obtain rfl := htail hs
      exact ⟨['*'], by simp [Segment.render_capture hname, hs], rfl, by simp, rfl⟩
    | false =>
      have hstar := hstar hs
      exact ⟨rest, by simp [Segment.render_capture hname, hs], decide_eq_false hstar,
        fun h => hstar h.1, if_neg hstar⟩
  have hsplit := splitBody_inside hname hsound after
  have hparameter : parameter config pattern s.inside (decide (after.head? = some '*')) =
      .ok (name, s) :=
    (parameter_eq_ok_iff (splitBody_eq_some hsplit).2).2 ⟨hname, hsound, rfl, hkind.symm⟩
  rw [hrender, segmentsFrom]
  dsimp only
  rw [if_neg (by decide), if_pos rfl]
  split
  · rename_i hnone
    exact absurd (hsplit.symm.trans hnone) (by simp)
  · rename_i body' after' hsome
    obtain ⟨rfl, rfl⟩ := Prod.mk.inj (Option.some.inj (hsplit.symm.trans hsome))
    rw [if_neg hlate, hparameter, hrest]
    rfl

/-- Nothing follows a tail in the body of a pattern. -/
theorem IsGrammatical.eq_nil_of_isTail {s : Segment}
    (h : IsGrammatical config .exact (s :: segments)) (htail : s.isTail = true) :
    segments = [] := by
  cases s with
  | tail _ _ =>
    cases segments with
    | nil => rfl
    | cons next more =>
      obtain rfl : next = .boundary := (List.isChain_cons_cons.1 h.chained).1
      exact absurd (List.mem_cons_of_mem _ (List.mem_cons_self ..)) h.boundary_not_mem
  | literal _ => exact absurd htail (by simp [Segment.isTail])
  | dynamic _ => exact absurd htail (by simp [Segment.isTail])
  | constrained _ _ => exact absurd htail (by simp [Segment.isTail])
  | boundary => exact absurd htail (by simp [Segment.isTail])

/-- What stands after a capture that is no tail is not written with a star in front. -/
theorem IsGrammatical.head?_ne_star {s : Segment} (hname : s.name? = some name)
    (h : IsGrammatical config .exact (s :: segments)) (hplain : s.isTail = false) :
    (renderSegments segments).head? ≠ some '*' := by
  cases segments with
  | nil => simp
  | cons next more =>
    have hnext := (List.isChain_cons_cons.1 h.chained).1
    have hmore := h.of_cons h.head_ne_boundary
    cases next with
    | boundary => exact absurd rfl hmore.head_ne_boundary
    | dynamic _ => simp [Segment.render]
    | constrained _ _ => simp [Segment.render]
    | tail _ _ => simp [Segment.render]
    | literal t =>
      rw [head?_renderSegments_of_literal hmore rfl]
      exact (mayPrecede_iff_of_not_isTail hname hplain).1 hnext t rfl

/-- Grammatical segments are read back from what they are written as, or the pattern is refused for
the first name that was seen before. -/
theorem segmentsFrom_renderSegments (h : IsGrammatical config .exact segments)
    (hliteral : literal = [] ∨ ∀ t, segments.head? ≠ some (.literal t)) :
    segmentsFrom config pattern seen literal (renderSegments segments) =
      match repeated? seen (captureNames segments) with
      | none => .ok (literalSegment literal.reverse ++ segments)
      | some name => refuse (.duplicateName name pattern) := by
  induction segments generalizing seen literal with
  | nil =>
    rw [renderSegments_nil, segmentsFrom]
    simp [captureNames, repeated?]
  | cons s more ih =>
    have hsound := h.sound s (List.mem_cons_self ..)
    have hnext := (List.isChain_cons.1 h.chained).1
    have hboundary := h.head_ne_boundary
    have hmore := h.of_cons hboundary
    rw [renderSegments_cons]
    cases hname : s.name? with
    | none =>
      cases s with
      | boundary => exact absurd rfl hboundary
      | dynamic _ => exact absurd hname (by simp [Segment.name?])
      | constrained _ _ => exact absurd hname (by simp [Segment.name?])
      | tail _ _ => exact absurd hname (by simp [Segment.name?])
      | literal t =>
        -- no literal follows, so that this one is read as a whole
        obtain rfl : literal = [] := hliteral.resolve_right fun hall => hall t rfl
        obtain ⟨hne, hbraces⟩ := hsound
        have hhead : ∀ t', more.head? ≠ some (.literal t') :=
          fun t' hhead => hnext _ hhead t' rfl
        rw [Segment.render, segmentsFrom_text hbraces, ih hmore (.inr hhead)]
        have hnames : captureNames (.literal t :: more) = captureNames more := rfl
        rw [hnames]
        simp [literalSegment, hne]
    | some name =>
      have hnames : captureNames (s :: more) = name :: captureNames more :=
        List.filterMap_cons_some hname
      have htail : s.isTail = true → renderSegments more = [] := by
        intro hs
        rw [h.eq_nil_of_isTail hs, renderSegments_nil]
      have hstar := h.head?_ne_star hname
      rw [segmentsFrom_capture hname hsound htail hstar, hnames, repeated?]
      by_cases hseen : name ∈ seen
      · rw [if_pos hseen, if_pos (List.contains_iff_mem.2 hseen)]
      · rw [if_neg hseen, if_neg fun h => hseen (List.contains_iff_mem.1 h), ih hmore (.inl rfl)]
        cases repeated? (name :: seen) (captureNames more) with
        | none => rfl
        | some other => rfl

/-- What is written grammatically is read back, or refused for the first name that stands there
twice. -/
theorem parse_renderSegments (h : IsGrammatical config extent segments) :
    parse config extent (renderSegments segments) =
      match repeated? [] (captureNames segments) with
      | none => .ok segments
      | some name => refuse (.duplicateName name (renderSegments segments)) := by
  obtain ⟨body, hbody, rfl⟩ := h.exists_body
  have hrender : renderSegments (body ++ endSegments extent) = renderSegments body := by simp
  rw [parse, hrender, segmentsFrom_renderSegments hbody (.inl rfl),
    captureNames_append_endSegments]
  cases repeated? [] (captureNames body) with
  | none => rfl
  | some name => rfl

/-- What is parsed is grammatical, and nothing of the pattern is lost. -/
theorem isGrammatical_of_parse (h : parse config extent pattern = .ok segments) :
    renderSegments segments = pattern ∧ IsGrammatical config extent segments := by
  rw [parse, bind_eq_ok] at h
  obtain ⟨body, hbody, h⟩ := h
  obtain rfl := Except.ok.inj h
  obtain ⟨hrender, hgrammatical⟩ := isGrammatical_of_segmentsFrom (by simp) hbody
  refine ⟨?_, hgrammatical.append_endSegments extent⟩
  rw [renderSegments_append, hrender]
  simp

/-- Parsing accepts exactly what canonical segments are written as, and gives back the segments. -/
theorem parse_eq_ok_iff :
    parse config extent pattern = .ok segments ↔
      renderSegments segments = pattern ∧ IsCanonical config extent segments := by
  constructor
  · intro h
    obtain ⟨hrender, hgrammatical⟩ := isGrammatical_of_parse h
    exact ⟨hrender, hgrammatical, nodup_of_parse h⟩
  · rintro ⟨rfl, hcanonical⟩
    have hfresh : repeated? [] (captureNames segments) = none :=
      repeated?_eq_none_iff.2 ⟨hcanonical.distinct, by simp⟩
    rw [parse_renderSegments hcanonical.toIsGrammatical, hfresh]

end Written

end PathRouter.Pattern

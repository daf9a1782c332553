import PathRouter.Proofs.CompiledTree
import PathRouter.Proofs.PatternRoundTrip
import PathRouter.Resource

/-!
# Joined patterns

Joining appends one pattern to another, with a single slash where both have one. If the first has
literals and plain captures only and the second begins with a slash, the segments of the joined
pattern are those of the two one after the other, with two literals that meet made into one.
-/

namespace PathRouter
set_option autoImplicit false

open Resource (joinPatterns)

/-- The segments of one pattern and then those of another. Literals that meet are joined. -/
def joinSegments : List Segment → List Segment → List Segment
  | [], next => next
  | [.literal v], .literal w :: more => .literal (joinPatterns v w) :: more
  | s :: rest, next => s :: joinSegments rest next

/-- Literals and plain captures only. The literal at the end is the one that can meet another. -/
inductive IsSimple : List Segment → Prop
  | nil : IsSimple []
  | last {v : Text} : IsSimple [.literal v]
  | literal {v : Text} {s : Segment} {rest : List Segment} :
      IsSimple (s :: rest) → IsSimple (.literal v :: s :: rest)
  | dynamic {name : Text} {rest : List Segment} : IsSimple rest → IsSimple (.dynamic name :: rest)

/-- The first segment is a literal that begins with a slash. -/
def BeginsWithSlash (segments : List Segment) : Prop :=
  ∃ text more, segments = .literal ('/' :: text) :: more

section Joined

variable {config base : Config} {extent : Extent} {body next : List Segment} {pattern : Text}

theorem isSimple_of_forall
    (h : ∀ s ∈ body, (∃ text, s = .literal text) ∨ ∃ name, s = .dynamic name) : IsSimple body := by
  induction body with
  | nil => exact .nil
  | cons s body ih =>
    rw [List.forall_mem_cons] at h
    obtain ⟨⟨v, rfl⟩ | ⟨name, rfl⟩, hbody⟩ := h
    · cases body with
      | nil => exact .last
      | cons t body => exact .literal (ih hbody)
    · exact .dynamic (ih hbody)

theorem joinSegments_last (v w : Text) (more : List Segment) :
    joinSegments [.literal v] (.literal w :: more) = .literal (joinPatterns v w) :: more :=
  rfl

theorem joinSegments_literal (v : Text) (s : Segment) (body next : List Segment) :
    joinSegments (.literal v :: s :: body) next = .literal v :: joinSegments (s :: body) next :=
  rfl

theorem joinSegments_dynamic (name : Text) (body next : List Segment) :
    joinSegments (.dynamic name :: body) next = .dynamic name :: joinSegments body next :=
  rfl

/-! ## Writing -/

theorem joinPatterns_append {left right : Text} (h : right ≠ []) (after : Text) :
    joinPatterns (left ++ right) after = left ++ joinPatterns right after := by
  unfold joinPatterns
  rw [List.getLast?_append_of_ne_nil _ h]
  split
  · rw [List.append_assoc]
  · rw [List.append_assoc]

/-- After what does not end in a slash, nothing is dropped. -/
theorem joinPatterns_of_getLast? {left : Text} (h : left.getLast? ≠ some '/') (after : Text) :
    joinPatterns left after = left ++ after :=
  if_neg fun hslash => h hslash.1

theorem joinPatterns_append_right {right : Text} (left after : Text) (h : right ≠ []) :
    joinPatterns left (right ++ after) = joinPatterns left right ++ after := by
  obtain ⟨c, right, rfl⟩ := List.exists_cons_of_ne_nil h
  unfold joinPatterns
  rw [List.cons_append, List.head?_cons, List.head?_cons]
  split
  · simp
  · simp

/-- What is sound is written with some text, apart from the boundary. -/
theorem renderSegments_ne_nil {s : Segment}
    (h : Pattern.IsGrammatical config .exact (s :: body)) : renderSegments (s :: body) ≠ [] := by
  have hsound := h.sound s (List.mem_cons_self ..)
  have hboundary := h.head_ne_boundary
  rw [Pattern.renderSegments_cons]
  cases s with
  | literal t => exact List.append_ne_nil_of_left_ne_nil hsound.1 _
  | boundary => exact absurd rfl hboundary
  | dynamic _ => simp [Segment.render]
  | constrained _ _ => simp [Segment.render]
  | tail _ _ => simp [Segment.render]

/-- Joined segments are written as the joined patterns. -/
theorem renderSegments_joinSegments (hsimple : IsSimple body)
    (hbody : Pattern.IsGrammatical base .exact body) (hnext : BeginsWithSlash next) :
    renderSegments (joinSegments body next) =
      joinPatterns (renderSegments body) (renderSegments next) := by
  obtain ⟨text, more, rfl⟩ := hnext
  induction hsimple with
  | nil => rfl
  | last =>
    rw [joinSegments_last]
    simp only [Pattern.renderSegments_cons, Pattern.renderSegments_nil, Segment.render,
      List.append_nil]
    rw [joinPatterns_append_right _ _ (List.cons_ne_nil _ _)]
  | @literal v s rest _ ih =>
    have hrest := hbody.of_cons hbody.head_ne_boundary
    rw [joinSegments_literal, Pattern.renderSegments_cons, ih hrest,
      Pattern.renderSegments_cons (.literal v), joinPatterns_append (renderSegments_ne_nil hrest)]
  | @dynamic name rest _ ih =>
    have hrest := hbody.of_cons hbody.head_ne_boundary
    rw [joinSegments_dynamic, Pattern.renderSegments_cons, ih hrest,
      Pattern.renderSegments_cons (.dynamic name)]
    cases rest with
    | nil =>
      have hlast : (Segment.dynamic name).render.getLast? ≠ some '/' := by
        rw [Segment.render, List.getLast?_concat]
        simp
      rw [Pattern.renderSegments_nil, List.append_nil, joinPatterns_of_getLast? hlast]
      rfl
    | cons s rest => rw [joinPatterns_append (renderSegments_ne_nil hrest)]

/-! ## Grammar -/

/-- What may stand before a segment may stand before another that is the same or is a literal as
well and begins with the same character. -/
theorem mayPrecede_of_head? {x s t : Segment} (h : x.MayPrecede s)
    (hst : t = s ∨ ∃ v w, s = .literal v ∧ t = .literal w ∧ w.head? = v.head?) :
    x.MayPrecede t := by
  rcases hst with rfl | ⟨v, w, rfl, rfl, hhead⟩
  · exact h
  · cases x with
    | boundary => exact h
    | tail _ _ => exact absurd h (by simp [Segment.MayPrecede])
    | literal _ => exact absurd rfl (h v)
    | dynamic _ =>
      rintro text heq
      obtain rfl := Segment.literal.inj heq
      rw [hhead]
      exact h v rfl
    | constrained _ _ =>
      rintro text heq
      obtain rfl := Segment.literal.inj heq
      rw [hhead]
      exact h v rfl

theorem joinPatterns_mem {left right : Text} {c : Char} (h : c ∈ joinPatterns left right) :
    c ∈ left ∨ c ∈ right := by
  unfold joinPatterns at h
  split at h
  · exact (List.mem_append.1 h).imp_right fun hmem => List.mem_of_mem_drop hmem
  · exact List.mem_append.1 h

theorem joinPatterns_head? {left : Text} (h : left ≠ []) (right : Text) :
    (joinPatterns left right).head? = left.head? := by
  obtain ⟨c, left, rfl⟩ := List.exists_cons_of_ne_nil h
  unfold joinPatterns
  split
  · rfl
  · rfl

theorem joinSegments_head? {s : Segment} (hsimple : IsSimple (s :: body)) (hs : s ≠ .literal [])
    (hnext : BeginsWithSlash next) :
    ∃ t, (joinSegments (s :: body) next).head? = some t ∧
      (t = s ∨ ∃ v w, s = .literal v ∧ t = .literal w ∧ w.head? = v.head?) := by
  obtain ⟨text, more, rfl⟩ := hnext
  cases hsimple with
  | @last v =>
    refine ⟨_, rfl, .inr ⟨v, _, rfl, rfl, joinPatterns_head? ?_ _⟩⟩
    rintro rfl
    exact hs rfl
  | literal _ => exact ⟨_, rfl, .inl rfl⟩
  | dynamic _ => exact ⟨_, rfl, .inl rfl⟩

/-- What may stand before the segments of the base may stand before the joined ones. -/
theorem mayPrecede_joinSegments {x s : Segment} (hsimple : IsSimple (s :: body))
    (hbody : Pattern.IsGrammatical base .exact (x :: s :: body)) (hnext : BeginsWithSlash next) :
    ∀ t ∈ (joinSegments (s :: body) next).head?, x.MayPrecede t := by
  intro t ht
  have hs : s ≠ .literal [] := by
    rintro rfl
    exact (hbody.sound (.literal []) (by simp)).1 rfl
  obtain ⟨t', hhead, hsame⟩ := joinSegments_head? hsimple hs hnext
  obtain rfl := Option.some.inj (hhead.symm.trans ht)
  exact mayPrecede_of_head? (List.isChain_cons_cons.1 hbody.chained).1 hsame

/-- Joined segments are grammatical. -/
theorem isGrammatical_joinSegments (hsimple : IsSimple body)
    (hbody : Pattern.IsGrammatical base .exact body)
    (hgrammatical : Pattern.IsGrammatical config extent next) (hnext : BeginsWithSlash next) :
    Pattern.IsGrammatical config extent (joinSegments body next) := by
  have hslash := hnext
  obtain ⟨text, more, rfl⟩ := hnext
  have hsound := hgrammatical.sound _ (List.mem_cons_self ..)
  induction hsimple with
  | nil => exact hgrammatical
  | @last v =>
    have hv := hbody.sound _ (List.mem_cons_self ..)
    have hafter := (List.isChain_cons.1 hgrammatical.chained).1
    refine .cons ⟨?_, ?_, ?_⟩ (by simp) hafter (hgrammatical.of_cons (by simp))
    · intro hnil
      have hhead := joinPatterns_head? hv.1 ('/' :: text)
      rw [hnil, List.head?_nil] at hhead
      exact hv.1 (List.head?_eq_none_iff.1 hhead.symm)
    · exact fun hmem => (joinPatterns_mem hmem).elim hv.2.1 hsound.2.1
    · exact fun hmem => (joinPatterns_mem hmem).elim hv.2.2 hsound.2.2
  | @literal v s rest hsimple ih =>
    have hrest := hbody.of_cons hbody.head_ne_boundary
    exact .cons (hbody.sound _ (List.mem_cons_self ..)) (by simp)
      (mayPrecede_joinSegments hsimple hbody hslash) (ih hrest)
  | @dynamic name rest hsimple ih =>
    have hrest := hbody.of_cons hbody.head_ne_boundary
    refine .cons (hbody.sound _ (List.mem_cons_self ..)) (by simp) ?_ (ih hrest)
    cases rest with
    | nil =>
      rintro t ht v rfl
      obtain rfl := Segment.literal.inj (Option.some.inj ht)
      simp
    | cons s rest => exact mayPrecede_joinSegments hsimple hbody hslash

/-! ## Parsing -/

/-- A pattern that begins with a slash begins with a literal that does. -/
theorem beginsWithSlash_of_parse {segments : List Segment}
    (hparse : Pattern.parse config extent pattern = .ok segments)
    (hslash : pattern.head? = some '/') : BeginsWithSlash segments := by
  obtain ⟨rfl, hgrammatical⟩ := Pattern.isGrammatical_of_parse hparse
  cases segments with
  | nil => exact absurd hslash (by simp)
  | cons s more =>
    rw [Pattern.renderSegments_cons] at hslash
    cases s with
    | dynamic _ => exact absurd hslash (by simp [Segment.render])
    | constrained _ _ => exact absurd hslash (by simp [Segment.render])
    | tail _ _ => exact absurd hslash (by simp [Segment.render])
    | boundary =>
      -- nothing follows the boundary, so the pattern would be empty
      cases more with
      | nil => exact absurd hslash (by simp [Segment.render])
      | cons t more => exact absurd (List.isChain_cons_cons.1 hgrammatical.chained).1 id
    | literal v =>
      have hv : v ≠ [] := (hgrammatical.sound _ (List.mem_cons_self ..)).1
      obtain ⟨c, v, rfl⟩ := List.exists_cons_of_ne_nil hv
      obtain rfl := Option.some.inj hslash
      exact ⟨v, more, rfl⟩

/-- The joined pattern is parsed into the joined segments. -/
theorem eq_joinSegments_of_parse {segments joined : List Segment} {p : Text}
    (hbase : Pattern.parse base .leading p = .ok (body ++ [.boundary])) (hsimple : IsSimple body)
    (hparse : Pattern.parse config extent pattern = .ok segments)
    (hslash : pattern.head? = some '/')
    (hjoined : Pattern.parse config extent (joinPatterns p pattern) = .ok joined) :
    joined = joinSegments body segments := by
  obtain ⟨hrender, hgrammatical⟩ := Pattern.isGrammatical_of_parse hparse
  obtain ⟨hrenderBase, hgrammaticalBase⟩ := Pattern.isGrammatical_of_parse hbase
  obtain ⟨body', hbody, heq⟩ := hgrammaticalBase.exists_body
  obtain rfl : body = body' := List.append_inj_left' heq rfl
  have hbegins := beginsWithSlash_of_parse hparse hslash
  have hwritten : renderSegments (joinSegments body segments) = joinPatterns p pattern := by
    rw [renderSegments_joinSegments hsimple hbody hbegins, hrender, ← hrenderBase,
      Pattern.renderSegments_append]
    simp [renderSegments, Segment.render]
  have hread := Pattern.parse_renderSegments
    (isGrammatical_joinSegments hsimple hbody hgrammatical hbegins)
  rw [hwritten, hjoined] at hread
  split at hread
  · exact Except.ok.inj hread
  · exact absurd hread (by simp [Pattern.refuse])

/-- The joined patterns are parsed into the joined sequences. -/
theorem eq_joinSegments_of_mapM {patterns : List Text} {sequences joined : List (List Segment)}
    {p : Text} (hbase : Pattern.parse base .leading p = .ok (body ++ [.boundary]))
    (hsimple : IsSimple body)
    (hparse : patterns.mapM (Pattern.parse config extent) = .ok sequences)
    (hslash : ∀ q ∈ patterns, q.head? = some '/')
    (hjoined : (patterns.map (joinPatterns p)).mapM (Pattern.parse config extent) = .ok joined) :
    joined = sequences.map (joinSegments body) := by
  induction patterns generalizing sequences joined with
  | nil =>
    obtain rfl := Except.ok.inj hparse
    obtain rfl := Except.ok.inj hjoined
    rfl
  | cons q patterns ih =>
    rw [List.forall_mem_cons] at hslash
    rw [List.mapM_cons] at hparse
    rw [List.map_cons, List.mapM_cons] at hjoined
    simp only [bind_eq_ok] at hparse hjoined
    obtain ⟨segments, hq, others, hothers, hparse⟩ := hparse
    obtain ⟨segments', hq', others', hothers', hjoined⟩ := hjoined
    obtain rfl := Except.ok.inj hparse
    obtain rfl := Except.ok.inj hjoined
    rw [List.map_cons, ih hothers hslash.2 hothers',
      eq_joinSegments_of_parse hbase hsimple hq hslash.1 hq']

end Joined

end PathRouter

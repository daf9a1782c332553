import PathRouter.Proofs.GuardAbreast
import PathRouter.Proofs.NarrowableText
import PathRouter.Proofs.ParsedSegments
import PathRouter.Proofs.SourceLimits
import PathRouter.Resource

/-!
# A bad pattern is refused

Building a resource gives the resource or refuses a pattern, as long as the inline expressions ask
for nothing that breaks the building off: a numeral or code beyond the limits, a look behind, both
character sets, or a comment with brackets, which the guard and narrowing take for brackets of the
expression.
-/

namespace PathRouter
set_option autoImplicit false

open Regex Guard

/-! ## Expressions that are judged -/

namespace Regex

/-- The flags for the whole expression ask for both character sets. -/
def asksForBoth (text : Text) : Bool :=
  match readConstructs (.start text.length) text with
  | .ok (p, _) => p.flags.contains .ascii && p.flags.contains .unicode
  | .error _ => false

/-- The expression asks for nothing that breaks off its building. -/
def isJudged (text : Text) : Bool :=
  staysInLimits text && everyConstructOf (fun p s => !strayAt brackets p s) text &&
    !asksForBoth text

theorem Ordinary.ofText_of_isJudged {text : Text} (h : isJudged text = true) :
    Ordinary (Expression.ofText text) := by
  rw [isJudged, Bool.and_eq_true, Bool.and_eq_true] at h
  obtain ⟨⟨hlimits, -⟩, hboth⟩ := h
  intro f hf
  obtain hmalformed | ⟨-, end', hread, hflags⟩ := ofText_verdict hlimits hf
  · exact hmalformed
  · have hasks : asksForBoth text = true := by
      rw [asksForBoth, hread]
      exact hflags
    exact absurd hboth (by simp [hasks])

end Regex

/-- The guard ends beside the reader: it accepts or rejects what the reader has read. -/
theorem Guard.verdict_of_isJudged {text : Text} {x : Expression} (h : isJudged text = true)
    (hx : readExpression text = .ok x) (failure : BuildFailure) :
    scanExpression text ≠ .error (.failed failure) := by
  intro hscan
  rw [isJudged, Bool.and_eq_true, Bool.and_eq_true] at h
  obtain ⟨⟨hlimits, hquiet⟩, -⟩ := h
  obtain ⟨hne, p, hread, houter, -, -⟩ := readConstructs_of_readExpression hx
  have hstart : IsAbreast (.error (.failed failure)) (.start text.length) text :=
    ⟨.clear, [], [], text, rfl, by simp, rfl, hscan⟩
  obtain ⟨marks, outer, w, t, he, -, -, hyields⟩ :=
    hstart.run (ending_of_limits (by simp)) hlimits (.start hne) hquiet hread
  obtain ⟨rfl, rfl⟩ := List.append_eq_nil_iff.1 he.symm
  rw [Yields, scanFrom] at hyields
  exact absurd hyields (by simp)

/-! ## Building that is decided -/

/-- Either something with the property is built, or a pattern is refused. -/
def IsDecided {α : Type} (P : α → Prop) : Except BuildFailure α → Prop
  | .ok a => P a
  | .error failure => ∃ error, failure = .refused error

namespace IsDecided

variable {α β : Type} {P : α → Prop} {Q : β → Prop}

theorem refuse (error : PatternError) : IsDecided P (Pattern.refuse error) :=
  ⟨error, rfl⟩

theorem bind {x : Except BuildFailure α} {g : α → Except BuildFailure β} (hx : IsDecided P x)
    (hg : ∀ a, P a → IsDecided Q (g a)) : IsDecided Q (x >>= g) := by
  cases x with
  | error failure => exact hx
  | ok a => exact hg a hx

theorem mapM {f : α → Except BuildFailure β} {xs : List α} (h : ∀ x ∈ xs, IsDecided Q (f x)) :
    IsDecided (fun ys => ∀ y ∈ ys, Q y) (xs.mapM f) := by
  induction xs with
  | nil => exact List.forall_mem_nil Q
  | cons x xs ih =>
    rw [List.forall_mem_cons] at h
    rw [List.mapM_cons]
    exact h.1.bind fun _ hy => (ih h.2).bind fun _ hys => List.forall_mem_cons.2 ⟨hy, hys⟩

/-- What is built is what the computation gives. -/
theorem exact {x : Except BuildFailure α} (h : IsDecided P x) : IsDecided (x = .ok ·) x := by
  cases x with
  | error failure => exact h
  | ok a => exact rfl

theorem ok_or_refused {x : Except BuildFailure α} (h : IsDecided P x) :
    (∃ a, x = .ok a) ∨ ∃ error, x = .error (.refused error) := by
  cases x with
  | ok a => exact .inl ⟨a, rfl⟩
  | error failure =>
    obtain ⟨error, rfl⟩ := h
    exact .inr ⟨error, rfl⟩

end IsDecided

/-- What compiling needs to know of an inline expression. -/
structure IsCompilable (e : Text) : Prop where
  limits : staysInLimits e = true
  expression : ∃ x, readExpression e = .ok x
  narrowable : IsNarrowable e

/-- An inline expression is accepted or rejected, and accepted only if it can be compiled. -/
theorem decided_checkInline {e : Text} (h : isJudged e = true) (pattern : Text) (limit : Int) :
    IsDecided (fun _ => IsCompilable e) (checkInline e pattern limit) := by
  obtain ⟨⟨hlimits, hquiet⟩, -⟩ := by
    simpa only [isJudged, Bool.and_eq_true] using h
  unfold checkInline
  dsimp only
  split
  · exact .refuse _
  · split
    · rename_i fault hfault
      rw [Ordinary.ofText_of_isJudged h fault hfault]
      exact .refuse _
    · rename_i x hx
      have hread := readExpression_of_ofText hx
      split
      · exact .refuse _
      · rename_i failure hfailed
        exact absurd hfailed (verdict_of_isJudged h hread failure)
      · exact ⟨hlimits, ⟨_, hread⟩, isNarrowable_of_readExpression hread (by decide) hquiet⟩

/-! ## Patterns -/

namespace Pattern

/-- The texts that stand for inline expressions in a pattern: what follows the first colon of a
parameter. -/
def inlineExpressions (pattern : Text) : List Text :=
  match pattern with
  | [] => []
  | c :: rest =>
    if c = '\x7b' then
      match _h : splitBody 0 rest with
      | none => []
      | some (body, after) => (splitColon body).2.toList ++ inlineExpressions after
    else inlineExpressions rest
termination_by pattern.length
decreasing_by
  · have := splitBody_length _h
    simp
    omega
  · simp

theorem inlineExpressions_parameter {rest body after : Text}
    (h : splitBody 0 rest = some (body, after)) :
    inlineExpressions ('\x7b' :: rest) = (splitColon body).2.toList ++ inlineExpressions after := by
  rw [inlineExpressions, if_pos rfl]
  split
  · rename_i hnone
    exact absurd (hnone.symm.trans h) (by simp)
  · rename_i b a hsome
    obtain ⟨rfl, rfl⟩ := Prod.mk.inj (Option.some.inj (hsome.symm.trans h))
    rfl

theorem inlineExpressions_char {c : Char} {rest : Text} (hc : c ≠ '\x7b') :
    inlineExpressions (c :: rest) = inlineExpressions rest := by
  rw [inlineExpressions, if_neg hc]

/-- All inline expressions of the segments can be compiled. -/
def AllCompilable (segments : List Segment) : Prop :=
  ∀ name e, .constrained name e ∈ segments → IsCompilable e

theorem allCompilable_nil : AllCompilable [] :=
  fun _ _ h => absurd h List.not_mem_nil

theorem allCompilable_cons {segment : Segment} {segments : List Segment}
    (h : ∀ name e, segment = .constrained name e → IsCompilable e)
    (hrest : AllCompilable segments) : AllCompilable (segment :: segments) := by
  intro name e hmem
  rcases List.mem_cons.1 hmem with he | hmem
  · exact h name e he.symm
  · exact hrest name e hmem

theorem allCompilable_literalSegment (text : Text) {segments : List Segment}
    (h : AllCompilable segments) : AllCompilable (literalSegment text ++ segments) := by
  unfold literalSegment
  split
  · exact h
  · exact allCompilable_cons (fun _ _ => nofun) h

variable {config : Config} {pattern body : Text}

theorem decided_parameter {isTail : Bool} (h : ∀ e ∈ (splitColon body).2, isJudged e = true) :
    IsDecided (fun found => ∀ name e, found.2 = .constrained name e → IsCompilable e)
      (parameter config pattern body isTail) := by
  unfold parameter
  dsimp only
  split
  · exact .refuse _
  · split
    · exact .refuse _
    · exact fun _ _ => nofun
    · exact fun _ _ => nofun
    · rename_i e hexpression
      split
      · exact .refuse _
      · refine (decided_checkInline (h e hexpression) _ _).bind fun _ he => ?_
        intro name' e' hsame
        obtain ⟨-, rfl⟩ := Segment.constrained.inj hsame
        exact he

theorem decided_segmentsFrom {seen : List Text} {literal rest : Text}
    (h : ∀ e ∈ inlineExpressions rest, isJudged e = true) :
    IsDecided AllCompilable (segmentsFrom config pattern seen literal rest) := by
  fun_induction segmentsFrom config pattern seen literal rest with
  | case1 seen literal =>
    have := allCompilable_literalSegment literal.reverse allCompilable_nil
    rwa [List.append_nil] at this
  | case2 => exact .refuse _
  | case3 => exact .refuse _
  | case4 => exact .refuse _
  | case5 seen literal rest body after hsplit isTail hlate _ =>
    rename_i ih
    rw [inlineExpressions_parameter hsplit, List.forall_mem_append] at h
    refine (decided_parameter fun e he => h.1 e (Option.mem_toList.2 he)).bind ?_
    rintro ⟨name, segment⟩ hsegment
    dsimp only
    split
    · exact .refuse _
    · refine IsDecided.bind (ih name fun e he => h.2 e ?_) ?_
      · split at he
        · rename_i hstar
          obtain ⟨rest, rfl⟩ := List.head?_eq_some_iff.1 hstar
          rwa [inlineExpressions_char (by decide)]
        · exact he
      · exact fun more hmore => allCompilable_literalSegment _ (allCompilable_cons hsegment hmore)
  | case6 seen literal c rest hclose hopen ih =>
    rw [inlineExpressions_char hopen] at h
    exact ih h

theorem decided_parse {extent : Extent} (h : ∀ e ∈ inlineExpressions pattern, isJudged e = true) :
    IsDecided AllCompilable (parse config extent pattern) := by
  refine (decided_segmentsFrom h).bind fun segments hsegments name e hmem => ?_
  rcases List.mem_append.1 hmem with hmem | hmem
  · exact hsegments name e hmem
  · cases extent <;> simp [endSegments] at hmem

end Pattern

/-! ## Compiling -/

open Pattern

theorem Draft.decided_addSegment {extent : Extent} {segment : Segment} {rest : List Segment}
    {d : Draft} (h : ∀ name e, segment = .constrained name e → IsCompilable e) :
    IsDecided (fun _ => True) (d.addSegment extent segment rest) := by
  cases segment with
  | literal text =>
    unfold Draft.addSegment
    dsimp only
    split <;> exact trivial
  | dynamic name => exact trivial
  | constrained name e =>
    have hsome : ∃ b, splicedText e = some b := by
      unfold splicedText
      split
      · exact ⟨e, rfl⟩
      · exact Option.isSome_iff_exists.1 (h name e rfl).narrowable
    obtain ⟨b, hb⟩ := hsome
    unfold Draft.addSegment
    dsimp only
    split
    · exact trivial
    · rename_i hnone
      exact absurd (hnone.symm.trans hb) (by simp)
  | tail name allowEmpty => exact trivial
  | boundary =>
    unfold Draft.addSegment
    dsimp only
    split
    · exact .refuse _
    · split <;> exact trivial

theorem Draft.decided_addSegments {extent : Extent} {segments : List Segment} {d : Draft}
    (h : AllCompilable segments) : IsDecided (fun _ => True) (d.addSegments extent segments) := by
  induction segments generalizing d with
  | nil => exact trivial
  | cons segment rest ih =>
    have hfirst : IsDecided (fun _ => True) (d.addSegment extent segment rest) :=
      decided_addSegment fun name e he => h name e (he ▸ List.mem_cons_self ..)
    exact hfirst.bind fun _ _ => ih fun name e hmem => h name e (List.mem_cons_of_mem _ hmem)

/-- Expressions that can be compiled one by one can be compiled together. -/
theorem RegexAlternative.decided_ofSegments {edition : Edition} {extent : Extent}
    {segments : List Segment} (h : AllCompilable segments) :
    IsDecided (fun _ => True) (RegexAlternative.ofSegments edition extent segments) := by
  refine (Draft.decided_addSegments h).exact.bind fun d hd => ?_
  obtain ⟨w, hw, hsource⟩ := isSource_of_addSegments
    (fun name e hmem => ⟨(h name e hmem).expression, (h name e hmem).limits⟩) hd
  have hordinary : Ordinary (Expression.ofText (d.finish extent).source) := by
    rw [hw]
    exact .ofText hsource.limits hsource.begins
  dsimp only
  split
  · exact trivial
  · rename_i fault hfault
    rw [hordinary fault hfault]
    exact .refuse _

theorem Matcher.decided_ofSequences {edition : Edition} {extent : Extent}
    {sequences : List (List Segment)} (h : ∀ segments ∈ sequences, AllCompilable segments) :
    IsDecided (fun _ => True) (Matcher.ofSequences extent sequences edition) := by
  unfold Matcher.ofSequences
  split
  · exact .refuse _
  · split
    · exact trivial
    · exact (IsDecided.mapM fun segments hmem =>
        RegexAlternative.decided_ofSegments (h segments hmem)).bind fun _ _ => trivial

theorem Resource.decided_ofPatterns {config : Config} {extent : Extent} {name : Option Text}
    {patterns : List Text}
    (h : ∀ pattern ∈ patterns, ∀ e ∈ inlineExpressions pattern, isJudged e = true) :
    IsDecided (fun _ => True) (Resource.ofPatterns config extent name patterns) := by
  have hparsed : IsDecided (fun sequences => ∀ segments ∈ sequences, AllCompilable segments)
      (parseAll config extent patterns) := by
    unfold parseAll
    split
    · exact .refuse _
    · exact .mapM fun pattern hmem => decided_parse (h pattern hmem)
  exact hparsed.bind fun sequences hsequences =>
    (Matcher.decided_ofSequences hsequences).bind fun _ _ => trivial

/-- Building a resource gives the resource or refuses a pattern, whatever the patterns are, the
extent and the configuration. -/
theorem Resource.ofPatterns_ok_or_refused (config : Config) (extent : Extent) (name : Option Text)
    (patterns : List Text)
    (h : ∀ pattern ∈ patterns, ∀ e ∈ inlineExpressions pattern, isJudged e = true) :
    (∃ r, Resource.ofPatterns config extent name patterns = .ok r) ∨
      ∃ error, Resource.ofPatterns config extent name patterns = .error (.refused error) :=
  (Resource.decided_ofPatterns h).ok_or_refused

/-- The first pattern could be compiled, but the second one repeats an unbounded quantifier. -/
theorem Resource.ofPatterns_ok_or_refused_nested :
    ∃ patterns : List Text,
      (∀ pattern ∈ patterns, ∀ e ∈ inlineExpressions pattern, isJudged e = true) ∧
      inlineExpressions (patterns.headD []) = ["[(|)]\x7b2,3\x7d(?# note)\\x2e".toList] ∧
      ((∃ r, Resource.ofPatterns .standard .leading none patterns = .ok r) ∨
        ∃ error, Resource.ofPatterns .standard .leading none patterns = .error (.refused error)) := by
  let patterns := ["/\x7ba:[(|)]\x7b2,3\x7d(?# note)\\x2e\x7d/\x7brest\x7d*".toList,
    "/\x7bb:(c+)*\x7d".toList]
  have hjudged : ∀ pattern ∈ patterns, ∀ e ∈ inlineExpressions pattern, isJudged e = true := by
    decide +kernel
  exact ⟨patterns, hjudged, by decide +kernel,
    Resource.ofPatterns_ok_or_refused .standard .leading none patterns hjudged⟩

/-- What breaks off the building of a resource. -/
def Resource.breakOff? (patterns : List Text) : Option BuildFailure :=
  match Resource.ofPatterns .standard .exact none patterns with
  | .ok _ => none
  | .error failure => some failure

theorem Resource.eq_error_of_breakOff? {patterns : List Text} {failure : BuildFailure}
    (h : breakOff? patterns = some failure) :
    ofPatterns .standard .exact none patterns = .error failure := by
  unfold breakOff? at h
  split at h
  · exact absurd h (by simp)
  · rename_i heq
    rw [heq, Option.some.inj h]

/-- A bound beyond the limit, a parenthesis or a class in a comment, and both character sets break
off the building without a verdict. -/
theorem Resource.ofPatterns_broken_off :
    ofPatterns .standard .exact none ["/\x7ba:x\x7b4294967295\x7d\x7d".toList] =
        .error (.limit .countTooLarge) ∧
      ofPatterns .standard .exact none ["/\x7ba:(?x)#)\x7d".toList] = .error .closedTooOften ∧
      ofPatterns .standard .exact none ["/\x7ba:(?#[)x\x7d".toList] = .error .unendedClass ∧
      ofPatterns .standard .exact none ["/\x7ba:(?a)(?u)x\x7d".toList] =
        .error (.limit .charsetConflict) := by
  refine ⟨?_, ?_, ?_, ?_⟩
  · exact eq_error_of_breakOff? (by decide +kernel)
  · exact eq_error_of_breakOff? (by decide +kernel)
  · exact eq_error_of_breakOff? (by decide +kernel)
  · exact eq_error_of_breakOff? (by decide +kernel)

end PathRouter

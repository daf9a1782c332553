import PathRouter.Proofs.CompiledTree

/-!
# Parsed patterns

What is known of the segments that a pattern is parsed into, by induction on how they are read
(`Parses`): a tail or a boundary stands at the end only, every inline expression has passed its
check, no name is given to two captures, and a pattern without captures is at most one literal.
-/

namespace PathRouter.Pattern
set_option autoImplicit false

theorem endsWell_literalSegment {extent : Extent} {segments : List Segment}
    (h : EndsWell extent segments) (text : Text) :
    EndsWell extent (literalSegment text ++ segments) := by
  unfold literalSegment
  split
  · exact h
  · exact h

@[simp] theorem captureNames_literalSegment_append (text : Text) (segments : List Segment) :
    captureNames (literalSegment text ++ segments) = captureNames segments := by
  unfold literalSegment
  split
  · rfl
  · rfl

@[simp] theorem captureNames_append_endSegments (segments : List Segment) (extent : Extent) :
    captureNames (segments ++ endSegments extent) = captureNames segments := by
  cases extent with
  | exact => exact congrArg captureNames (List.append_nil segments)
  | leading => simp [captureNames, endSegments, Segment.name?]

/-- A parameter is a tail before a star, and otherwise a capture that is none. An inline expression
has passed its check. -/
theorem parameter_eq_ok {config : Config} {pattern body name : Text} {isTail : Bool}
    {segment : Segment} (h : parameter config pattern body isTail = .ok (name, segment)) :
    isTail = true ∧ segment = .tail name config.allowEmptyTail ∨
      isTail = false ∧ (segment = .dynamic name ∨ ∃ e, segment = .constrained name e ∧
        checkInline e pattern config.maxExpressionLength = .ok ()) := by
  simp only [parameter] at h
  split at h
  · simp [refuse] at h
  · cases isTail with
    | true =>
      cases hexpr : (splitColon body).2 with
      | some e => simp [hexpr, refuse] at h
      | none =>
        simp only [hexpr, pure, Except.pure, Except.ok.injEq, Prod.mk.injEq] at h
        obtain ⟨rfl, rfl⟩ := h
        exact .inl ⟨rfl, rfl⟩
    | false =>
      cases hexpr : (splitColon body).2 with
      | none =>
        simp only [hexpr, pure, Except.pure, Except.ok.injEq, Prod.mk.injEq] at h
        obtain ⟨rfl, rfl⟩ := h
        exact .inr ⟨rfl, .inl rfl⟩
      | some e =>
        simp only [hexpr] at h
        split at h
        · simp [refuse] at h
        · simp only [bind_eq_ok, pure, Except.pure, Except.ok.injEq, Prod.mk.injEq] at h
          obtain ⟨_, hcheck, rfl, rfl⟩ := h
          exact .inr ⟨rfl, .inr ⟨e, rfl, hcheck⟩⟩

/-- A parameter captures under its name. -/
theorem name?_of_parameter {config : Config} {pattern body name : Text} {isTail : Bool}
    {segment : Segment} (h : parameter config pattern body isTail = .ok (name, segment)) :
    segment.name? = some name := by
  rcases parameter_eq_ok h with ⟨-, rfl⟩ | ⟨-, rfl | ⟨e, rfl, -⟩⟩
  · rfl
  · rfl
  · rfl

/-- If a star ends a pattern, nothing follows it. -/
theorem eq_star_of_tail {after : Text} (hstar : after.head? = some '*')
    (hlate : ¬after.length ≠ 1) : after = ['*'] := by
  cases after with
  | nil => exact absurd hstar (by simp)
  | cons c after =>
    obtain rfl := Option.some.inj hstar
    have hlen : after.length = 0 := by
      rw [List.length_cons] at hlate
      omega
    rw [List.length_eq_zero_iff.1 hlen]

/-! ## Reading segments -/

/-- The rest of a pattern is read as segments, after the parameters `seen` and the literal text
`literal`, latest character first. -/
inductive Parses (config : Config) (pattern : Text) :
    List Text → Text → Text → List Segment → Prop
  | done {seen : List Text} {literal : Text} :
      Parses config pattern seen literal [] (literalSegment literal.reverse)
  /-- A parameter before a star ends the pattern. -/
  | tail {seen : List Text} {literal rest body name : Text} {segment : Segment} :
      splitBody 0 rest = some (body, ['*']) →
      parameter config pattern body true = .ok (name, segment) → name ∉ seen →
      Parses config pattern seen literal ('\x7b' :: rest)
        (literalSegment literal.reverse ++ [segment])
  | parameter {seen : List Text} {literal rest body after name : Text} {segment : Segment}
      {more : List Segment} :
      splitBody 0 rest = some (body, after) → after.head? ≠ some '*' →
      parameter config pattern body false = .ok (name, segment) → name ∉ seen →
      Parses config pattern (name :: seen) [] after more →
      Parses config pattern seen literal ('\x7b' :: rest)
        (literalSegment literal.reverse ++ segment :: more)
  | char {seen : List Text} {literal rest : Text} {c : Char} {segments : List Segment} :
      c ≠ '\x7d' → c ≠ '\x7b' → Parses config pattern seen (c :: literal) rest segments →
      Parses config pattern seen literal (c :: rest) segments

theorem parses_of_segmentsFrom {config : Config} {pattern rest literal : Text} {seen : List Text}
    {segments : List Segment} (h : segmentsFrom config pattern seen literal rest = .ok segments) :
    Parses config pattern seen literal rest segments := by
  fun_induction segmentsFrom config pattern seen literal rest generalizing segments with
  | case1 seen literal =>
    obtain rfl := Except.ok.inj h
    exact .done
  | case2 => simp [refuse] at h
  | case3 => simp [refuse] at h
  | case4 => simp [refuse] at h
  | case5 seen literal rest body after hsplit isTail hlate _ =>
    rename_i ih
    simp only [bind_eq_ok] at h
    obtain ⟨⟨name, segment⟩, hparameter, h⟩ := h
    dsimp only at h
    split at h
    · simp [refuse] at h
    · rename_i hfresh
      rw [bind_eq_ok] at h
      obtain ⟨more, hmore, h⟩ := h
      obtain rfl := Except.ok.inj h
      by_cases hstar : after.head? = some '*'
      · -- nothing is left to be read after the star
        obtain rfl : after = ['*'] := eq_star_of_tail hstar fun hlen => hlate ⟨hstar, hlen⟩
        have hmore : segmentsFrom config pattern (name :: seen) [] [] = .ok more := by
          simpa [isTail] using hmore
        obtain rfl : more = [] := by
          rw [segmentsFrom] at hmore
          exact (Except.ok.inj hmore).symm
        exact .tail hsplit hparameter hfresh
      · have hnext := ih name (by simpa using hmore)
        rw [dif_neg (show ¬isTail from hstar)] at hnext
        exact .parameter hsplit hstar (by simpa [isTail, hstar] using hparameter) hfresh hnext
  | case6 seen literal c rest hclose hopen ih => exact .char hclose hopen (ih h)

/-- The segments of a pattern end as its extent demands. -/
theorem endsWell_of_segmentsFrom {config : Config} {pattern rest literal : Text} {seen : List Text}
    {segments : List Segment} (extent : Extent)
    (h : segmentsFrom config pattern seen literal rest = .ok segments) :
    EndsWell extent (segments ++ endSegments extent) := by
  have hend : EndsWell extent (endSegments extent) := by cases extent <;> simp [endSegments, EndsWell]
  replace h := parses_of_segmentsFrom h
  induction h with
  | done => exact endsWell_literalSegment hend _
  | tail _ hparameter _ =>
    rw [List.append_assoc]
    refine endsWell_literalSegment ?_ _
    rcases parameter_eq_ok hparameter with ⟨-, rfl⟩ | ⟨htail, -⟩
    · rfl
    · exact absurd htail (by decide)
  | parameter _ _ hparameter _ _ ih =>
    rw [List.append_assoc]
    refine endsWell_literalSegment ?_ _
    rcases parameter_eq_ok hparameter with ⟨htail, -⟩ | ⟨-, rfl | ⟨e, rfl, -⟩⟩
    · exact absurd htail (by decide)
    · exact ih
    · exact ih
  | char _ _ _ ih => exact ih

theorem endsWell_of_parse {config : Config} {extent : Extent} {pattern : Text}
    {segments : List Segment} (h : parse config extent pattern = .ok segments) :
    EndsWell extent segments := by
  rw [parse, bind_eq_ok] at h
  obtain ⟨body, hbody, h⟩ := h
  obtain rfl := Except.ok.inj h
  exact endsWell_of_segmentsFrom extent hbody

/-- Every inline expression has passed its check. -/
theorem checkInline_of_segmentsFrom {config : Config} {pattern rest literal : Text}
    {seen : List Text} {segments : List Segment} {name e : Text}
    (h : segmentsFrom config pattern seen literal rest = .ok segments)
    (hmem : .constrained name e ∈ segments) :
    checkInline e pattern config.maxExpressionLength = .ok () := by
  have hliteral (text : Text) : .constrained name e ∉ literalSegment text := by
    unfold literalSegment
    split <;> simp
  have hsegment {body other : Text} {isTail : Bool} {segment : Segment}
      (hparameter : parameter config pattern body isTail = .ok (other, segment))
      (hs : .constrained name e = segment) :
      checkInline e pattern config.maxExpressionLength = .ok () := by
    rcases parameter_eq_ok hparameter with ⟨-, rfl⟩ | ⟨-, rfl | ⟨e', rfl, hcheck⟩⟩
    · exact absurd hs (by simp)
    · exact absurd hs (by simp)
    · obtain ⟨-, rfl⟩ := Segment.constrained.inj hs
      exact hcheck
  replace h := parses_of_segmentsFrom h
  induction h with
  | done => exact absurd hmem (hliteral _)
  | tail _ hparameter _ =>
    rcases List.mem_append.1 hmem with hm | hm
    · exact absurd hm (hliteral _)
    · exact hsegment hparameter (List.mem_singleton.1 hm)
  | parameter _ _ hparameter _ _ ih =>
    rcases List.mem_append.1 hmem with hm | hm
    · exact absurd hm (hliteral _)
    · rcases List.mem_cons.1 hm with hm | hm
      · exact hsegment hparameter hm
      · exact ih hm
  | char _ _ _ ih => exact ih hmem

theorem checkInline_of_parse {config : Config} {extent : Extent} {pattern : Text}
    {segments : List Segment} {name e : Text} (h : parse config extent pattern = .ok segments)
    (hmem : .constrained name e ∈ segments) :
    checkInline e pattern config.maxExpressionLength = .ok () := by
  rw [parse, bind_eq_ok] at h
  obtain ⟨body, hbody, h⟩ := h
  obtain rfl := Except.ok.inj h
  apply checkInline_of_segmentsFrom hbody
  rcases List.mem_append.1 hmem with hm | hm
  · exact hm
  · cases extent <;> simp [endSegments] at hm

/-! ## Names -/

/-- No parameter has a name that was seen before. -/
theorem nodup_of_segmentsFrom {config : Config} {pattern rest literal : Text} {seen : List Text}
    {segments : List Segment}
    (h : segmentsFrom config pattern seen literal rest = .ok segments) :
    (captureNames segments).Nodup ∧ ∀ name ∈ captureNames segments, name ∉ seen := by
  replace h := parses_of_segmentsFrom h
  induction h with
  | @done seen literal =>
    have hnone := captureNames_literalSegment_append literal.reverse []
    rw [List.append_nil] at hnone
    rw [hnone]
    exact ⟨List.nodup_nil, by simp [captureNames]⟩
  | @tail _ _ _ _ name segment _ hparameter hfresh =>
    have hnames : captureNames [segment] = [name] :=
      List.filterMap_cons_some (name?_of_parameter hparameter)
    rw [captureNames_literalSegment_append, hnames]
    exact ⟨by simp, List.forall_mem_singleton.2 hfresh⟩
  | @parameter _ _ _ _ _ name segment more _ _ hparameter hfresh _ ih =>
    obtain ⟨hnodup, hunseen⟩ := ih
    have hnames : captureNames (segment :: more) = name :: captureNames more :=
      List.filterMap_cons_some (name?_of_parameter hparameter)
    rw [captureNames_literalSegment_append, hnames]
    constructor
    · rw [List.nodup_cons]
      exact ⟨fun hmem => hunseen name hmem (List.mem_cons_self ..), hnodup⟩
    · intro other hother
      rcases List.mem_cons.1 hother with rfl | hother
      · exact hfresh
      · exact fun hseen => hunseen other hother (List.mem_cons_of_mem _ hseen)
  | char _ _ _ ih => exact ih

/-- No two captures of a pattern have the same name. -/
theorem nodup_of_parse {config : Config} {extent : Extent} {pattern : Text}
    {segments : List Segment} (h : parse config extent pattern = .ok segments) :
    (captureNames segments).Nodup := by
  rw [parse, bind_eq_ok] at h
  obtain ⟨body, hbody, h⟩ := h
  obtain rfl := Except.ok.inj h
  rw [captureNames_append_endSegments]
  exact (nodup_of_segmentsFrom hbody).1

theorem eq_literalSegment_of_segmentsFrom {config : Config} {pattern rest literal : Text}
    {seen : List Text} {segments : List Segment}
    (h : segmentsFrom config pattern seen literal rest = .ok segments)
    (hnames : captureNames segments = []) : ∃ text, segments = literalSegment text := by
  have hcapture {body name text : Text} {isTail : Bool} {segment : Segment} {more : List Segment}
      (hparameter : parameter config pattern body isTail = .ok (name, segment)) :
      captureNames (literalSegment text ++ segment :: more) ≠ [] := by
    have hcons : captureNames (segment :: more) = name :: captureNames more :=
      List.filterMap_cons_some (name?_of_parameter hparameter)
    rw [captureNames_literalSegment_append, hcons]
    exact List.cons_ne_nil _ _
  replace h := parses_of_segmentsFrom h
  induction h with
  | @done _ literal => exact ⟨literal.reverse, rfl⟩
  | tail _ hparameter _ => exact absurd hnames (hcapture hparameter)
  | parameter _ _ hparameter _ _ _ => exact absurd hnames (hcapture hparameter)
  | char _ _ _ ih => exact ih hnames

/-- A pattern without captures is at most one literal. -/
theorem eq_literalSegment_of_parse {config : Config} {extent : Extent} {pattern : Text}
    {segments : List Segment} (h : parse config extent pattern = .ok segments)
    (hnames : captureNames segments = []) :
    ∃ text, segments = literalSegment text ++ endSegments extent := by
  rw [parse, bind_eq_ok] at h
  obtain ⟨body, hbody, h⟩ := h
  obtain rfl := Except.ok.inj h
  rw [captureNames_append_endSegments] at hnames
  obtain ⟨text, rfl⟩ := eq_literalSegment_of_segmentsFrom hbody hnames
  exact ⟨text, rfl⟩

end PathRouter.Pattern

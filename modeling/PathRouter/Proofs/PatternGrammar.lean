import PathRouter.Proofs.ParsedSegments
import PathRouter.Proofs.TokenReading

/-!
# The grammar of patterns

A sequence of segments is canonical if its segments are sound one by one, may stand next to each
other, and capture under different names. Parsing accepts exactly what canonical sequences are
written as, and gives back the sequence: nothing of a pattern is lost, and a pattern can be read in
one way only.
-/

namespace PathRouter
set_option autoImplicit false

namespace Pattern

/-- The braces of a text are balanced where `depth` more are open: none is closed that is not open,
and none is left open. A backslash takes the next character with it. -/
def isBalanced (depth : Nat) : Text → Bool
  | [] => depth == 0
  | '\\' :: rest =>
    match rest with
    | [] => depth == 0
    | _ :: rest => isBalanced depth rest
  | c :: rest =>
    if c = '\x7b' then isBalanced (depth + 1) rest
    else if c = '\x7d' then
      match depth with
      | 0 => false
      | d + 1 => isBalanced d rest
    else isBalanced depth rest

end Pattern

namespace Segment

/-- A segment by itself is as it has to be. -/
def IsSound (config : Config) : Segment → Prop
  | literal text => text ≠ [] ∧ '\x7b' ∉ text ∧ '\x7d' ∉ text
  | dynamic name => Pattern.isName name = true
  | constrained name e =>
    Pattern.isName name = true ∧ e ≠ [] ∧ Pattern.isBalanced 0 e = true ∧
      checkInline e [] config.maxExpressionLength = .ok ()
  | tail name allowEmpty => Pattern.isName name = true ∧ allowEmpty = config.allowEmptyTail
  | boundary => True

/-- One segment may stand before another. Nothing follows the boundary and nothing else a tail, no
literal follows a literal, and none that follows a capture begins with a star. -/
def MayPrecede : Segment → Segment → Prop
  | boundary, _ => False
  | tail _ _, next => next = boundary
  | literal _, next => ∀ text, next ≠ literal text
  | dynamic _, next => ∀ text, next = literal text → text.head? ≠ some '*'
  | constrained _ _, next => ∀ text, next = literal text → text.head? ≠ some '*'

end Segment

namespace Pattern

/-- The segments are sound and stand next to each other as they may. The boundary is there if and
only if the pattern is for a leading part. -/
structure IsGrammatical (config : Config) (extent : Extent) (segments : List Segment) : Prop where
  sound : ∀ s ∈ segments, s.IsSound config
  chained : segments.IsChain Segment.MayPrecede
  ends : .boundary ∈ segments ↔ extent = .leading

/-- No two captures have the same name, besides. -/
structure IsCanonical (config : Config) (extent : Extent) (segments : List Segment) : Prop
    extends IsGrammatical config extent segments where
  distinct : (captureNames segments).Nodup

/-! ## Braces -/

section Braces

variable {depth : Nat} {body after s : Text}

/-- A character that is no backslash and no brace leaves the depth as it is. -/
def isPlainInside (c : Char) : Bool :=
  c != '\\' && c != '\x7b' && c != '\x7d'

theorem isBalanced_cons {c : Char} (hc : c ≠ '\\') (s : Text) :
    isBalanced depth (c :: s) =
      if c = '\x7b' then isBalanced (depth + 1) s
      else if c = '\x7d' then
        match depth with
        | 0 => false
        | d + 1 => isBalanced d s
      else isBalanced depth s := by
  rw [isBalanced.eq_def]
  split
  · exact absurd ‹_› (by simp)
  · rename_i heq
    exact absurd (List.cons.inj heq).1 hc
  · rename_i heq
    obtain ⟨rfl, rfl⟩ := List.cons.inj heq
    rfl

theorem splitBody_cons {c : Char} (hc : c ≠ '\\') (s : Text) :
    splitBody depth (c :: s) =
      if c = '\x7b' then (splitBody (depth + 1) s).map fun (body, after) => (c :: body, after)
      else if c = '\x7d' then
        match depth with
        | 0 => some ([], s)
        | d + 1 => (splitBody d s).map fun (body, after) => (c :: body, after)
      else (splitBody depth s).map fun (body, after) => (c :: body, after) := by
  rw [splitBody.eq_def]
  split
  · exact absurd ‹_› (by simp)
  · rename_i heq
    exact absurd (List.cons.inj heq).1 hc
  · rename_i heq
    obtain ⟨rfl, rfl⟩ := List.cons.inj heq
    rfl

theorem isBalanced_append {word : Text} (hword : ∀ c ∈ word, isPlainInside c = true) (s : Text) :
    isBalanced depth (word ++ s) = isBalanced depth s := by
  induction word with
  | nil => rfl
  | cons c word ih =>
    rw [List.forall_mem_cons] at hword
    obtain ⟨hc, hword⟩ := hword
    simp only [isPlainInside, Bool.and_eq_true, bne_iff_ne] at hc
    rw [List.cons_append, isBalanced_cons hc.1.1, if_neg hc.1.2, if_neg hc.2, ih hword]

/-- Text of whole tokens in which the braces are balanced is split off at the brace after it. -/
theorem splitBody_append (htokens : Regex.IsTokens body) (h : isBalanced depth body = true) :
    splitBody depth (body ++ '\x7d' :: after) = some (body, after) := by
  induction htokens generalizing depth with
  | nil =>
    obtain rfl : depth = 0 := eq_of_beq h
    rfl
  | @escape c s _ ih =>
    have hs : isBalanced depth s = true := h
    show (splitBody depth (s ++ '\x7d' :: after)).map _ = _
    rw [ih hs]
    rfl
  | @char c s hc _ ih =>
    rw [isBalanced_cons hc] at h
    rw [List.cons_append, splitBody_cons hc]
    split at h
    · rw [if_pos ‹_›, ih h]
      rfl
    · rw [if_neg ‹_›]
      split at h
      · rw [if_pos ‹_›]
        cases depth with
        | zero => exact absurd h (by simp)
        | succ d =>
          dsimp only
          rw [ih h]
          rfl
      · rw [if_neg ‹_›, ih h]
        rfl

/-- What is split off is balanced, and the brace that closes it is all that is lost. -/
theorem splitBody_eq_some (h : splitBody depth s = some (body, after)) :
    s = body ++ '\x7d' :: after ∧ isBalanced depth body = true := by
  fun_induction splitBody depth s generalizing body with
  | case1 => exact absurd h (by simp)
  | case2 => exact absurd h (by simp)
  | case3 depth c s ih =>
    obtain ⟨⟨b, a⟩, hb, he⟩ := Option.map_eq_some_iff.1 h
    obtain ⟨rfl, rfl⟩ := Prod.mk.inj he
    obtain ⟨rfl, hbalanced⟩ := ih hb
    exact ⟨rfl, hbalanced⟩
  | case4 depth s hesc ih =>
    obtain ⟨⟨b, a⟩, hb, he⟩ := Option.map_eq_some_iff.1 h
    obtain ⟨rfl, rfl⟩ := Prod.mk.inj he
    obtain ⟨rfl, hbalanced⟩ := ih hb
    exact ⟨rfl, hbalanced⟩
  | case5 =>
    obtain ⟨rfl, rfl⟩ := Prod.mk.inj (Option.some.inj h)
    exact ⟨rfl, rfl⟩
  | case6 s _ _ d ih =>
    obtain ⟨⟨b, a⟩, hb, he⟩ := Option.map_eq_some_iff.1 h
    obtain ⟨rfl, rfl⟩ := Prod.mk.inj he
    obtain ⟨rfl, hbalanced⟩ := ih hb
    exact ⟨rfl, hbalanced⟩
  | case7 depth c s hesc hopen hclose ih =>
    obtain ⟨⟨b, a⟩, hb, he⟩ := Option.map_eq_some_iff.1 h
    obtain ⟨rfl, rfl⟩ := Prod.mk.inj he
    obtain ⟨rfl, hbalanced⟩ := ih hb
    refine ⟨rfl, ?_⟩
    rw [isBalanced_cons hesc, if_neg hopen, if_neg hclose, hbalanced]

end Braces

/-! ## Parameters -/

section Parameters

variable {config : Config} {pattern body name : Text} {isTail : Bool} {segment : Segment}

/-- An expression is accepted if it is short enough, an expression, and passes the scan. The pattern
does not matter. -/
theorem checkInline_eq_ok_iff {e : Text} {limit : Int} :
    checkInline e pattern limit = .ok () ↔
      (e.length : Int) ≤ limit ∧ (∃ x, Regex.Expression.ofText e = .ok x) ∧
        Guard.scanExpression e = .ok () := by
  unfold checkInline
  dsimp only
  by_cases hlimit : limit < e.length
  · rw [if_pos hlimit]
    exact iff_of_false (by simp) fun h => absurd h.1 (by omega)
  · rw [if_neg hlimit]
    have hle : (e.length : Int) ≤ limit := by omega
    cases hread : Regex.Expression.ofText e with
    | error fault =>
      refine iff_of_false ?_ fun h => absurd h.2.1 (by simp)
      dsimp only
      split <;> simp
    | ok x =>
      cases hscan : Guard.scanExpression e with
      | ok u => simp [hle]
      | error stop => cases stop <;> simp

/-- A text is a name without colon, or such a name with a colon and the rest. -/
theorem splitColon_eq (body : Text) :
    splitColon body = (body, none) ∧ ':' ∉ body ∨
      ∃ name e, splitColon body = (name, some e) ∧ body = name ++ ':' :: e := by
  induction body with
  | nil => exact .inl ⟨rfl, by simp⟩
  | cons c rest ih =>
    by_cases hc : c = ':'
    · subst hc
      exact .inr ⟨[], rest, rfl, rfl⟩
    · rw [splitColon, if_neg hc]
      rcases ih with ⟨hsplit, hnone⟩ | ⟨name, e, hsplit, hbody⟩
      · exact .inl ⟨by rw [hsplit], by simp [hnone, Ne.symm hc]⟩
      · exact .inr ⟨c :: name, e, by rw [hsplit], by rw [hbody]; rfl⟩

theorem splitColon_append (e : Text) (h : ':' ∉ name) :
    splitColon (name ++ ':' :: e) = (name, some e) := by
  induction name with
  | nil => rfl
  | cons c name ih =>
    simp only [List.mem_cons, not_or] at h
    rw [List.cons_append, splitColon, if_neg (Ne.symm h.1), ih h.2]

theorem splitColon_of_not_mem (h : ':' ∉ name) : splitColon name = (name, none) := by
  rcases splitColon_eq name with ⟨hsplit, -⟩ | ⟨_, _, -, rfl⟩
  · exact hsplit
  · exact absurd h (by simp)

theorem isNamePart_of_isName (h : isName name = true) : ∀ c ∈ name, isNamePart c = true := by
  cases name with
  | nil => simp
  | cons d name =>
    simp only [isName, Bool.and_eq_true, List.all_eq_true] at h
    intro c hc
    rcases List.mem_cons.1 hc with rfl | hc
    · simp [isNamePart, h.1]
    · exact h.2 c hc

/-- A name has none of the characters that a parameter is made up with. -/
theorem not_mem_of_isName (h : isName name = true) {c : Char} (hc : isNamePart c = false) :
    c ∉ name := by
  intro hmem
  rw [isNamePart_of_isName h c hmem] at hc
  exact absurd hc (by simp)

theorem isPlainInside_of_isName (h : isName name = true) : ∀ c ∈ name, isPlainInside c = true := by
  intro c hc
  have hne {d : Char} (hd : isNamePart d = false) : c ≠ d := by
    rintro rfl
    exact not_mem_of_isName h hd hc
  simp only [isPlainInside, Bool.and_eq_true, bne_iff_ne]
  exact ⟨⟨hne (by decide), hne (by decide)⟩, hne (by decide)⟩

end Parameters

end Pattern

namespace Segment

/-- What stands between the braces of a capture. -/
def inside : Segment → Text
  | dynamic name | tail name _ => name
  | constrained name e => name ++ ':' :: e
  | literal _ | boundary => []

/-- A star follows the braces of a capture. -/
def isTail : Segment → Bool
  | tail _ _ => true
  | _ => false

theorem render_capture {s : Segment} {name : Text} (h : s.name? = some name) :
    s.render = '\x7b' :: (s.inside ++ '\x7d' :: (if s.isTail then ['*'] else [])) := by
  cases s with
  | literal _ => exact absurd h (by simp [name?])
  | boundary => exact absurd h (by simp [name?])
  | dynamic n => rfl
  | constrained n e => simp [render, inside, isTail]
  | tail n allowEmpty => rfl

end Segment

namespace Pattern

section Parameters

variable {config : Config} {pattern body name : Text} {isTail : Bool} {segment : Segment}

/-- A parameter whose braces are balanced is accepted as a capture if and only if that capture is
sound and is written so. -/
theorem parameter_eq_ok_iff (hbody : isBalanced 0 body = true) :
    parameter config pattern body isTail = .ok (name, segment) ↔
      segment.name? = some name ∧ segment.IsSound config ∧ segment.inside = body ∧
        segment.isTail = isTail := by
  have hcolon {n : Text} (hn : isName n = true) : ':' ∉ n := not_mem_of_isName hn (by decide)
  constructor
  · intro h
    have hname := name?_of_parameter h
    simp only [parameter] at h
    split at h
    · exact absurd h (by simp [refuse])
    · rename_i hvalid
      have hvalid : isName (splitColon body).1 = true := by simpa using hvalid
      rcases splitColon_eq body with ⟨hsplit, hnone⟩ | ⟨n, e, hsplit, hdivided⟩
      · rw [hsplit] at h hvalid
        cases isTail with
        | true =>
          obtain ⟨rfl, rfl⟩ := Prod.mk.inj (Except.ok.inj h)
          exact ⟨rfl, ⟨hvalid, rfl⟩, rfl, rfl⟩
        | false =>
          obtain ⟨rfl, rfl⟩ := Prod.mk.inj (Except.ok.inj h)
          exact ⟨rfl, hvalid, rfl, rfl⟩
      · rw [hsplit] at h hvalid
        cases isTail with
        | true => exact absurd h (by simp [refuse])
        | false =>
          dsimp only at h hvalid
          split at h
          · exact absurd h (by simp [refuse])
          · rename_i hempty
            rw [bind_eq_ok] at h
            obtain ⟨⟨⟩, hcheck, h⟩ := h
            obtain ⟨rfl, rfl⟩ := Prod.mk.inj (Except.ok.inj h)
            refine ⟨rfl, ⟨hvalid, hempty, ?_, ?_⟩, hdivided.symm, rfl⟩
            · rw [hdivided, isBalanced_append (isPlainInside_of_isName hvalid),
                isBalanced_cons (by decide), if_neg (by decide), if_neg (by decide)] at hbody
              exact hbody
            · exact checkInline_eq_ok_iff.2 (checkInline_eq_ok_iff.1 hcheck)
  · rintro ⟨hname, hsound, rfl, rfl⟩
    cases segment with
    | literal _ => exact absurd hname (by simp [Segment.name?])
    | boundary => exact absurd hname (by simp [Segment.name?])
    | dynamic n =>
      obtain rfl := Option.some.inj hname
      have hn : isName n = true := hsound
      simp only [parameter, Segment.inside, splitColon_of_not_mem (hcolon hn), hn]
      rfl
    | tail n allowEmpty =>
      obtain rfl := Option.some.inj hname
      obtain ⟨hn, rfl⟩ := hsound
      simp only [parameter, Segment.inside, splitColon_of_not_mem (hcolon hn), hn]
      rfl
    | constrained n e =>
      obtain rfl := Option.some.inj hname
      obtain ⟨hn, hempty, -, hcheck⟩ := hsound
      have hcheck : checkInline e pattern config.maxExpressionLength = .ok () :=
        checkInline_eq_ok_iff.2 (checkInline_eq_ok_iff.1 hcheck)
      simp only [parameter, Segment.inside, splitColon_append e (hcolon hn), hn, Segment.isTail]
      simp only [Bool.not_true, Bool.false_eq_true, if_false, if_neg hempty, hcheck]
      rfl

/-- The inside of a sound capture can be split off at its closing brace. -/
theorem splitBody_inside (hname : segment.name? = some name) (hsound : segment.IsSound config)
    (after : Text) :
    splitBody 0 (segment.inside ++ '\x7d' :: after) = some (segment.inside, after) := by
  have hplain {n : Text} (hn : isName n = true) : ∀ c ∈ n, isPlainInside c = true :=
    isPlainInside_of_isName hn
  have hword {n : Text} (hn : isName n = true) : ∀ c ∈ n, c ≠ '\\' := by
    rintro c hc rfl
    exact absurd (hplain hn _ hc) (by decide)
  have hwhole {n : Text} (hn : isName n = true) :
      splitBody 0 (n ++ '\x7d' :: after) = some (n, after) := by
    refine splitBody_append ?_ ?_
    · simpa using Regex.IsTokens.append (hword hn) .nil
    · have hend : isBalanced 0 (n ++ []) = isBalanced 0 [] := isBalanced_append (hplain hn) []
      rw [List.append_nil] at hend
      rw [hend]
      rfl
  cases segment with
  | literal _ => exact absurd hname (by simp [Segment.name?])
  | boundary => exact absurd hname (by simp [Segment.name?])
  | dynamic n => exact hwhole hsound
  | tail n allowEmpty => exact hwhole hsound.1
  | constrained n e =>
    obtain ⟨hn, -, hbalanced, hcheck⟩ := hsound
    obtain ⟨-, ⟨x, hread⟩, -⟩ := checkInline_eq_ok_iff.1 hcheck
    have htokens : Regex.IsTokens e :=
      Regex.isTokens_of_readExpression (readExpression_of_ofText hread)
    refine splitBody_append ?_ ?_
    · exact Regex.IsTokens.append (hword hn) (.char (by decide) htokens)
    · rw [Segment.inside, isBalanced_append (hplain hn), isBalanced_cons (by decide),
        if_neg (by decide), if_neg (by decide)]
      exact hbalanced

end Parameters

end Pattern

end PathRouter

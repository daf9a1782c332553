import PathRouter.Config
import PathRouter.Pattern.Guard
import PathRouter.Pattern.Segment

/-!
# Parsing patterns

A pattern is literal text with parameters in braces. The braces of a parameter nest, and inside it a
backslash takes the next character with it, so that the quantifiers of an expression stay inside. A
parameter is a name, a name with a colon and an expression, or, before a star that ends the pattern,
the name of a tail.
-/

namespace PathRouter.Pattern
set_option autoImplicit false

/-- Splits the text after an opening brace at the brace that closes it: what is inside, and what
follows. `depth` more braces are open. -/
def splitBody (depth : Nat) : Text → Option (Text × Text)
  | [] => none
  | '\\' :: rest =>
    match rest with
    | [] => none
    | c :: rest => (splitBody depth rest).map fun (body, after) => ('\\' :: c :: body, after)
  | c :: rest =>
    if c = '\x7b' then (splitBody (depth + 1) rest).map fun (body, after) => (c :: body, after)
    else if c = '\x7d' then
      match depth with
      | 0 => some ([], rest)
      | d + 1 => (splitBody d rest).map fun (body, after) => (c :: body, after)
    else (splitBody depth rest).map fun (body, after) => (c :: body, after)

theorem splitBody_length {depth : Nat} {s body after : Text}
    (h : splitBody depth s = some (body, after)) : after.length < s.length := by
  fun_induction splitBody depth s generalizing body after with
  | case1 => simp at h
  | case2 => simp at h
  | case3 depth c s ih =>
    simp only [Option.map_eq_some_iff, Prod.mk.injEq] at h
    obtain ⟨⟨b, a⟩, hb, _, rfl⟩ := h
    have := ih hb
    simp only [List.length_cons]
    omega
  | case4 depth s _ ih =>
    simp only [Option.map_eq_some_iff, Prod.mk.injEq] at h
    obtain ⟨⟨b, a⟩, hb, _, rfl⟩ := h
    have := ih hb
    simp only [List.length_cons]
    omega
  | case5 =>
    simp only [Option.some.injEq, Prod.mk.injEq] at h
    obtain ⟨_, rfl⟩ := h
    simp
  | case6 s _ _ d ih =>
    simp only [Option.map_eq_some_iff, Prod.mk.injEq] at h
    obtain ⟨⟨b, a⟩, hb, _, rfl⟩ := h
    have := ih hb
    simp only [List.length_cons]
    omega
  | case7 depth c s _ _ _ ih =>
    simp only [Option.map_eq_some_iff, Prod.mk.injEq] at h
    obtain ⟨⟨b, a⟩, hb, _, rfl⟩ := h
    have := ih hb
    simp only [List.length_cons]
    omega

/-- A letter of ASCII or the low line. -/
def isNameStart (c : Char) : Bool :=
  CodePoint.isAsciiLetter c.toNat || c == '_'

/-- A letter or digit of ASCII, the low line or the hyphen. -/
def isNamePart (c : Char) : Bool :=
  isNameStart c || CodePoint.isAsciiDigit c.toNat || c == '-'

/-- The text may name a capture. -/
def isName : Text → Bool
  | [] => false
  | c :: rest => isNameStart c && rest.all isNamePart

/-- Divides a text at its first colon; without one there is no second part. -/
def splitColon : Text → Text × Option Text
  | [] => ([], none)
  | c :: rest =>
    if c = ':' then ([], some rest) else (c :: (splitColon rest).1, (splitColon rest).2)

/-- The failure that refuses a pattern. -/
def refuse {α : Type} (error : PatternError) : Except BuildFailure α :=
  .error (.refused error)

/-- The segment that a parameter stands for. -/
def parameter (config : Config) (pattern body : Text) (isTail : Bool) :
    Except BuildFailure (Text × Segment) := do
  let (name, expression) := splitColon body
  if !isName name then refuse (.invalidName name pattern)
  else match isTail, expression with
    | true, some _ => refuse (.constrainedTail body pattern)
    | true, none => return (name, .tail name config.allowEmptyTail)
    | false, none => return (name, .dynamic name)
    | false, some e =>
      if e = [] then refuse (.emptyExpression name pattern)
      else do
        checkInline e pattern config.maxExpressionLength
        return (name, .constrained name e)

/-- The literal segment of a text, none if the text is empty. -/
def literalSegment (text : Text) : List Segment :=
  if text = [] then [] else [.literal text]

/-- The segments of the rest of a pattern. Before it stand the parameters `seen` and, since the last
of them, the literal text `literal`, latest character first. -/
def segmentsFrom (config : Config) (pattern : Text) (seen : List Text) (literal rest : Text) :
    Except BuildFailure (List Segment) :=
  match rest with
  | [] => .ok (literalSegment literal.reverse)
  | c :: rest =>
    let offset := pattern.length - (rest.length + 1)
    if c = '\x7d' then refuse (.unmatchedBrace offset pattern)
    else if c = '\x7b' then
      match _h : splitBody 0 rest with
      | none => refuse (.unclosedBrace offset pattern)
      | some (body, after) =>
        let isTail := after.head? = some '*'
        if isTail ∧ after.length ≠ 1 then refuse (.earlyTail body pattern)
        else do
          let (name, segment) ← parameter config pattern body isTail
          if name ∈ seen then refuse (.duplicateName name pattern)
          else do
            let more ← segmentsFrom config pattern (name :: seen) []
              (if isTail then after.drop 1 else after)
            return literalSegment literal.reverse ++ segment :: more
    else segmentsFrom config pattern seen (c :: literal) rest
termination_by rest.length
decreasing_by
  · have := splitBody_length _h
    split <;> simp <;> omega
  · simp

/-- The segment that ends a pattern of the given extent. -/
def endSegments : Extent → List Segment
  | .exact => []
  | .leading => [.boundary]

/-- The segments of a pattern. -/
def parse (config : Config) (extent : Extent) (pattern : Text) :
    Except BuildFailure (List Segment) := do
  let segments ← segmentsFrom config pattern [] [] pattern
  return segments ++ endSegments extent

/-- The segments of each of several patterns, of which there must be one at least. -/
def parseAll (config : Config) (extent : Extent) (patterns : List Text) :
    Except BuildFailure (List (List Segment)) :=
  if patterns = [] then refuse .noPattern else patterns.mapM (parse config extent)

end PathRouter.Pattern

import PathRouter.Matcher.Basic
import PathRouter.Matcher.Confine

/-!
# Compiling segments

Segments become plain text if no alternative has a capture, and otherwise the text of an expression,
which is then read. In an expression a literal is escaped, every capture is a group named by a low
line and its number, and the end is an anchor. A pattern for a leading part ends in a look ahead:
the end of the text or a slash must follow. If such a pattern is written with a slash at its end,
the slash has to be there but is not matched, so that it stays for the next stage of routing.
-/

namespace PathRouter
set_option autoImplicit false

/-- The end of the text or a slash follows. -/
def boundaryAhead : Text := ['(', '?', '=', '/', '|', '\\', 'Z', ')']

/-- A slash follows. -/
def slashAhead : Text := ['(', '?', '=', '/', ')']

/-- The end of the text. -/
def textEnd : Text := ['\\', 'Z']

/-- The characters that need a backslash to stand for themselves in an expression. -/
def metacharacters : List Char :=
  ['(', ')', '[', ']', '\x7b', '\x7d', '?', '*', '+', '-', '|', '^', '$', '\\', '.', '&', '~', '#',
    ' ', '\t', '\n', '\r', '\x0b', '\x0c']

/-- The expression that matches a character and no other. -/
def escapeChar (c : Char) : Text :=
  if c ∈ metacharacters then ['\\', c] else [c]

/-- The expression that matches a text and no other. -/
def escapeText (text : Text) : Text :=
  text.flatMap escapeChar

/-- The name of the group for the capture with the given number. -/
def groupName (n : Nat) : Text :=
  '_' :: Text.natural n

/-- A named group around an expression. -/
def namedGroup (name body : Text) : Text :=
  ['(', '?', 'P', '<'] ++ name ++ '>' :: body ++ [')']

/-- The expression of a span without slash. -/
def spanBody : Text := ['[', '^', '/', ']', '+']

/-- The expression of the rest of the path. -/
def tailBody (allowEmpty : Bool) : Text :=
  if allowEmpty then ['.', '*'] else ['.', '+']

/-- An expression under construction. -/
structure Draft where
  source : Text
  groups : List (Text × Text)
  /-- The expression does not end on a boundary yet. -/
  needsBoundary : Bool

namespace Draft

/-- Nothing yet. -/
def empty : Draft := ⟨[], [], true⟩

/-- Adds to the expression. -/
def append (d : Draft) (part : Text) : Draft :=
  { d with source := d.source ++ part }

/-- Adds the group of a capture. -/
def capture (d : Draft) (name body : Text) : Draft :=
  let group := groupName d.groups.length
  { d with source := d.source ++ namedGroup group body, groups := d.groups ++ [(group, name)] }

/-- The last character of a text is a slash. -/
def endsInSlash (text : Text) : Bool :=
  text.getLast? == some '/'

/-- Adds one segment, after which `rest` follow. -/
def addSegment (extent : Extent) (d : Draft) (segment : Segment) (rest : List Segment) :
    Except BuildFailure Draft :=
  match segment with
  | .literal text =>
    if extent = .leading ∧ endsInSlash text ∧ rest = [.boundary] then
      .ok { (d.append (escapeText text.dropLast)).append slashAhead with needsBoundary := false }
    else .ok (d.append (escapeText text))
  | .dynamic name => .ok (d.capture name spanBody)
  | .constrained name e =>
    match if segment.allowsSlash then some e else confine e with
    | some body => .ok (d.capture name (['(', '?', ':'] ++ body ++ [')']))
    | none => .error .unendedClass
  | .tail name allowEmpty =>
    .ok { d.capture name (tailBody allowEmpty) with needsBoundary := false }
  | .boundary =>
    if rest ≠ [] then .error (.refused .earlyBoundary)
    else if d.needsBoundary then .ok (d.append boundaryAhead)
    else .ok d

/-- Adds segments in order. -/
def addSegments (extent : Extent) (d : Draft) : List Segment → Except BuildFailure Draft
  | [] => .ok d
  | segment :: rest => do
    let d ← d.addSegment extent segment rest
    d.addSegments extent rest

/-- Adds the end. -/
def finish (extent : Extent) (d : Draft) : Draft :=
  match extent with
  | .exact => d.append textEnd
  | .leading => d

end Draft

namespace RegexAlternative

/-- The alternative of a sequence of segments. -/
def ofSegments (edition : Regex.Edition) (extent : Extent) (segments : List Segment) :
    Except BuildFailure RegexAlternative := do
  let d := (← Draft.empty.addSegments extent segments).finish extent
  match Regex.Expression.ofText d.source with
  | .ok e => return ⟨d.source, e, d.groups, edition⟩
  | .error fault =>
    if fault.isMalformed then .error (.refused (.unusable d.source fault))
    else .error (.limit fault)

end RegexAlternative

/-- No segment captures anything. -/
def isCaptureFree (segments : List Segment) : Bool :=
  segments.all fun s => s.name?.isNone

namespace StaticAlternative

/-- The literal text of a segment. -/
def literalOf : Segment → Text
  | .literal t => t
  | _ => []

/-- The alternative of a sequence of segments without captures. -/
def ofSegments (extent : Extent) (segments : List Segment) : StaticAlternative :=
  let text := segments.flatMap literalOf
  if extent = .leading ∧ Draft.endsInSlash text then ⟨text.dropLast, true⟩ else ⟨text, false⟩

end StaticAlternative

/-- The matcher of a list of alternatives, of which there must be one at least. -/
def Matcher.ofSequences (extent : Extent) (sequences : List (List Segment))
    (edition : Regex.Edition := .early) : Except BuildFailure Matcher :=
  if sequences = [] then .error (.refused .noPattern)
  else if sequences.all isCaptureFree then
    .ok (.static (sequences.map (StaticAlternative.ofSegments extent)) extent)
  else do
    return .regex (← sequences.mapM (RegexAlternative.ofSegments edition extent)) extent

end PathRouter

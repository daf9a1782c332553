import PathRouter.Text.Basic

/-!
# Segments of a pattern

A pattern is a sequence of literals and captures. What a pattern of segments looks like in writing
is `Segment.render`.
-/

namespace PathRouter
set_option autoImplicit false

/-- How much of a path a pattern has to match. -/
inductive Extent
  /-- The whole of it. -/
  | exact
  /-- A leading part that ends on a boundary. -/
  | leading
  deriving DecidableEq

/-- A part of a pattern. -/
inductive Segment
  /-- Text matched as it is, slashes included. -/
  | literal (text : Text)
  /-- A span that is not empty and has no slash. -/
  | dynamic (name : Text)
  /-- A span that an expression matches. -/
  | constrained (name expression : Text)
  /-- The rest of the path, slashes included. -/
  | tail (name : Text) (allowEmpty : Bool)
  /-- The end of a pattern for a leading part. -/
  | boundary
  deriving DecidableEq

namespace Segment

/-- The name that a segment captures under. -/
def name? : Segment → Option Text
  | dynamic n | constrained n _ | tail n _ => some n
  | literal _ | boundary => none

/-- The segment as it stands in a pattern. -/
def render : Segment → Text
  | literal t => t
  | dynamic n => '\x7b' :: n ++ ['\x7d']
  | constrained n e => '\x7b' :: n ++ ':' :: e ++ ['\x7d']
  | tail n _ => '\x7b' :: n ++ ['\x7d', '*']
  | boundary => []

/-- The ways to write a slash as an escape, without the backslash. -/
def slashEscapes : List Text :=
  [['x', '2', 'f'], ['x', '2', 'F'], ['u', '0', '0', '2', 'f'], ['u', '0', '0', '2', 'F'],
    ['U', '0', '0', '0', '0', '0', '0', '2', 'f'], ['U', '0', '0', '0', '0', '0', '0', '2', 'F'],
    ['0', '5', '7'],
    ['N', '\x7b', 'S', 'O', 'L', 'I', 'D', 'U', 'S', '\x7d']]

/-- Some place of the expression has a slash or a backslash before one of its other spellings. -/
def mentionsSlash : Text → Bool
  | [] => false
  | c :: rest =>
    c == '/' || c == '\\' && slashEscapes.any (·.isPrefixOf rest) || mentionsSlash rest

/-- The span of a segment may hold a slash: a tail always, an expression if it mentions one. -/
def allowsSlash : Segment → Bool
  | constrained _ e => mentionsSlash e
  | tail _ _ => true
  | _ => false

end Segment

/-- The pattern that a sequence of segments is written as. -/
def renderSegments (segments : List Segment) : Text :=
  segments.flatMap Segment.render

/-- The capture names of a sequence from left to right. -/
def captureNames (segments : List Segment) : List Text :=
  segments.filterMap Segment.name?

end PathRouter

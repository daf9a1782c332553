import PathRouter.Build
import PathRouter.Matcher.Compile
import PathRouter.Matcher.Match
import PathRouter.PathState
import PathRouter.Pattern.Parse

/-!
# Resources

A resource is one or more alternative patterns with their matcher, an extent, and perhaps a name.
Its first pattern is canonical: paths are built from it, and joining extends it.
-/

namespace PathRouter
set_option autoImplicit false

/-- Patterns with what was made of them. -/
structure Resource where
  patterns : List Text
  extent : Extent
  name : Option Text
  config : Config
  sequences : List (List Segment)
  matcher : Matcher

namespace Resource

/-- The resource of a list of patterns. -/
def ofPatterns (config : Config) (extent : Extent) (name : Option Text) (patterns : List Text) :
    Except BuildFailure Resource := do
  let sequences ← Pattern.parseAll config extent patterns
  let matcher ← Matcher.ofSequences extent sequences config.edition
  return ⟨patterns, extent, name, config, sequences, matcher⟩

/-- The pattern with a slash before it, unless it is empty or begins with one. -/
def rooted (pattern : Text) : Text :=
  if pattern = [] ∨ pattern.head? = some '/' then pattern else '/' :: pattern

/-- The canonical pattern. -/
def pattern (r : Resource) : Text :=
  r.patterns.headD []

/-- The segments of the canonical pattern. -/
def segments (r : Resource) : List Segment :=
  r.sequences.headD []

/-- The capture names of the canonical pattern. -/
def captureNames (r : Resource) : List Text :=
  PathRouter.captureNames r.segments

/-- The match of a path from an offset. -/
def matchAt (r : Resource) (text : Text) (offset : Int) : Except MatchError (Option MatchResult) :=
  r.matcher.matchAt text offset

/-- The match of a path from its start. -/
def matchPath (r : Resource) (text : Text) : Except MatchError (Option MatchResult) :=
  r.matchAt text 0

/-- The resource as it is shown. -/
def shown (r : Resource) : String :=
  let patterns := match r.patterns with
    | [only] => Text.quote only
    | several => Text.quoteList several
  let kind := match r.extent with
    | .exact => "exact"
    | .leading => "prefix"
  let name := match r.name with
    | none | some [] => ""
    | some n => ", name=" ++ Text.quote n
  "Resource(" ++ patterns ++ ", " ++ kind ++ name ++ ")"

/-- A name for messages: the name if there is one that is not empty. -/
def label (r : Resource) : String :=
  match r.name with
  | none | some [] => r.shown
  | some n => Text.quote n

/-- The path that values give. -/
def build (r : Resource) (supply : Supply) : Except PathError Text :=
  buildPath r.sequences r.label r.pattern supply

/-- One pattern after another, with a single slash where both have one. -/
def joinPatterns (base next : Text) : Text :=
  if base.getLast? = some '/' ∧ next.head? = some '/' then base ++ next.drop 1 else base ++ next

/-- The resource of `other` below the canonical pattern of `r`. -/
def join (r other : Resource) : Except BuildFailure Resource :=
  ofPatterns other.config other.extent other.name (other.patterns.map (joinPatterns r.pattern))

end Resource

/-- Why a state cannot be routed. -/
inductive RoutingError
  | matching (error : MatchError)
  | advance (error : AdvanceError)
  deriving DecidableEq

namespace PathState

/-- Advances a state by a match. -/
def take (s : PathState) (r : MatchResult) : Except RoutingError PathState :=
  match s.advance r.consumed r.captures with
  | .ok s => .ok s
  | .error e => .error (.advance e)

/-- Matches what is not consumed against a resource, and advances if it matches. -/
def capture (s : PathState) (r : Resource) : Except RoutingError (Bool × PathState) :=
  match r.matchAt s.path s.skip with
  | .error e => .error (.matching e)
  | .ok none => .ok (false, s)
  | .ok (some result) => do return (true, ← s.take result)

end PathState

end PathRouter

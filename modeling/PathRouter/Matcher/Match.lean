import PathRouter.Capture
import PathRouter.Matcher.Basic
import PathRouter.Percent.Decode

/-!
# Matching paths

A matcher is run against a path from an offset. The first alternative that matches decides: it tells
how much of the path is consumed and what was captured. The slash after a leading part never is
consumed. A captured span with a percent sign is decoded, and if that fails there is no match.
-/

namespace PathRouter
set_option autoImplicit false

/-- What a match consumes and captures. -/
structure MatchResult where
  consumed : Int
  captures : List Capture
  deriving DecidableEq

/-- Why a path cannot be matched at an offset. -/
inductive MatchError
  /-- The place after the literal lies before the start of the path. -/
  | outside
  /-- The place after the literal is not a machine integer. -/
  | farOutside
  /-- The offset is not a machine integer. -/
  | offsetTooLarge
  /-- The expression matches, but some group was left before it was entered. -/
  | reversedSpan
  deriving DecidableEq

/-- The message of a match error. -/
def MatchError.message : MatchError → String
  | outside => "string index out of range"
  | farOutside => "cannot fit 'int' into an index-sized integer"
  | offsetTooLarge => "Python int too large to convert to C ssize_t"
  | reversedSpan =>
    "The span of capturing group is wrong, please report a bug for the re module."

/-- The integer fits into a machine word. -/
def isMachineInteger (i : Int) : Bool :=
  decide (-0x8000000000000000 ≤ i) && decide (i < 0x8000000000000000)

namespace StaticAlternative

/-- At the end of a path the alternative still matches: it is the root. -/
def isRoot (a : StaticAlternative) (extent : Extent) : Bool :=
  if a.needsSlash then a.literal.isEmpty else a.literal == ['/'] && extent = .exact

/-- The match of a whole alternative. -/
def result (a : StaticAlternative) : MatchResult :=
  ⟨a.literal.length, []⟩

/-- The match of an alternative at an offset. -/
def matchAt (a : StaticAlternative) (extent : Extent) (text : Text) (offset : Int) :
    Except MatchError (Option MatchResult) :=
  let stop := offset + a.literal.length
  if offset = text.length ∧ a.isRoot extent then .ok (some ⟨0, []⟩)
  else if !Text.standsAt text a.literal offset then .ok none
  else if extent = .exact then .ok (if stop = text.length then some a.result else none)
  else if a.needsSlash then .ok (if Text.standsAt text ['/'] stop then some a.result else none)
  else if stop = text.length then .ok (some a.result)
  else match Text.charAt? text stop with
    | some c => .ok (if c = '/' then some a.result else none)
    | none => .error (if isMachineInteger stop then .outside else .farOutside)

/-- The match of the first alternative that matches. -/
def firstMatch (extent : Extent) (text : Text) (offset : Int) :
    List StaticAlternative → Except MatchError (Option MatchResult)
  | [] => .ok none
  | a :: rest => do
    match ← a.matchAt extent text offset with
    | some r => return some r
    | none => firstMatch extent text offset rest

end StaticAlternative

namespace RegexAlternative

/-- The span that a named group captured, before the start of the text if there is none. -/
def span (a : RegexAlternative) (t : Regex.Trail) (group : Text) : Int × Int :=
  let found := ((a.expression.names.find? fun e => e.1 == group).map Prod.snd).bind t.span?
  match found with
  | some (start, stop) => (start.position, stop.position)
  | none => (-1, -1)

/-- The capture of a span, unless decoding it fails. -/
def capture? (name text : Text) (span : Int × Int) : Option Capture :=
  let raw := Text.slice text span.1 span.2
  if '%' ∈ raw then
    match Percent.decodeText raw with
    | .ok value => some ⟨name, text, span.1, span.2, some value⟩
    | .error _ => none
  else some (.borrowed name text span.1 span.2)

/-- The captures of a match. -/
def captures? (a : RegexAlternative) (text : Text) (t : Regex.Trail) : Option (List Capture) :=
  a.groups.mapM fun (group, name) => capture? name text (a.span t group)

/-- The match of the first alternative that matches. An offset outside the text counts as the nearer
end, but what is consumed is counted from the offset. -/
def firstMatch (text : Text) (offset : Int) :
    List RegexAlternative → Except MatchError (Option MatchResult)
  | [] => .ok none
  | a :: rest =>
    match a.expression.matchAt a.edition text (min offset.toNat text.length) with
    | some t =>
      if a.expression.hasReversedSpan t then .error .reversedSpan
      else .ok ((a.captures? text t).map fun cs => ⟨(t.spot.position : Int) - offset, cs⟩)
    | none => firstMatch text offset rest

end RegexAlternative

/-- The match of a path from an offset. -/
def Matcher.matchAt (m : Matcher) (text : Text) (offset : Int) :
    Except MatchError (Option MatchResult) :=
  match m with
  | static alternatives extent => StaticAlternative.firstMatch extent text offset alternatives
  | regex alternatives _ =>
    if isMachineInteger offset then RegexAlternative.firstMatch text offset alternatives
    else .error .offsetTooLarge

end PathRouter

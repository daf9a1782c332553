import PathRouter.Pattern.Segment
import PathRouter.Regex.Expression

/-!
# Matchers

A resource is matched through one alternative per pattern. Patterns without captures are compared as
plain text; otherwise each alternative is an expression with one named group per capture.
-/

namespace PathRouter
set_option autoImplicit false

/-- A pattern without captures. -/
structure StaticAlternative where
  /-- The text to match, without the slash that ends a pattern for a leading part. -/
  literal : Text
  /-- That slash was left out and has to follow. -/
  needsSlash : Bool
  deriving DecidableEq

/-- A pattern with captures as an expression. -/
structure RegexAlternative where
  /-- The text of the expression. -/
  source : Text
  expression : Regex.Expression
  /-- For each capture from left to right, the name of its group and its own name. -/
  groups : List (Text × Text)
  /-- The engine that the expression is matched by. -/
  edition : Regex.Edition
  deriving DecidableEq

namespace RegexAlternative

/-- The capture names from left to right. -/
def names (a : RegexAlternative) : List Text :=
  a.groups.map Prod.snd

end RegexAlternative

/-- The compiled form of a resource. -/
inductive Matcher
  | static (alternatives : List StaticAlternative) (extent : Extent)
  | regex (alternatives : List RegexAlternative) (extent : Extent)
  deriving DecidableEq

namespace Matcher

/-- The matcher compares plain text. -/
def isStatic : Matcher → Bool
  | static _ _ => true
  | regex _ _ => false

end Matcher

end PathRouter

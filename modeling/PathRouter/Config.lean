import PathRouter.Percent.Requote
import PathRouter.Regex.Search

/-!
# Configuration

What a router and its resources agree on: whether a tail may be empty, how long an inline expression
may be, which escapes of a raw path are kept, and which edition of the engine matches expressions.
-/

namespace PathRouter
set_option autoImplicit false

/-- What can be configured. -/
structure Config where
  /-- A tail may capture an empty remainder. -/
  allowEmptyTail : Bool
  /-- The greatest length of an inline expression. -/
  maxExpressionLength : Int
  /-- The escapes that requoting keeps. -/
  protection : Percent.Protection
  /-- The engine that expressions are matched by. It is no choice of those who route, but comes with
  the platform. -/
  edition : Regex.Edition := .early

/-- The configuration where none is given, on the current engine. -/
def Config.standard : Config := ⟨false, 256, .standard, .current⟩

end PathRouter

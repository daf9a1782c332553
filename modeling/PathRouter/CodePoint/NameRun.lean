import PathRouter.CodePoint.Basic
import PathRouter.Text.Basic

/-!
# Runs of character names

The names of characters are kept in runs: characters with consecutive codes whose names begin with
the same words. All names are in upper case.
-/

namespace PathRouter.CodePoint
set_option autoImplicit false

/-- Characters with consecutive codes whose names begin with the same words. -/
structure NameRun where
  first : CodePoint
  stem : String
  /-- How the names go on, in order, as lines of items that are separated by commas. -/
  endings : List String

/-- What follows the words `words` in a name that begins with them. -/
def after? (words : String) (name : Text) : Option Text :=
  if words.toList.isPrefixOf name then some (name.drop words.length) else none

/-- How the names of a run go on, in order. -/
def NameRun.items (run : NameRun) : List Text :=
  run.endings.flatMap fun line => line.toList.splitOn ','

/-- The character of the run with that name. -/
def NameRun.find? (run : NameRun) (name : Text) : Option CodePoint := do
  let ending ← after? run.stem name
  let place ← run.items.idxOf? ending
  return run.first + place

end PathRouter.CodePoint

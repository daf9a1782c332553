import PathRouter.Regex.Point

/-!
# What a part begins with

Some tests compare a character as it stands, others by its lower case. Where a part of a tree begins
with a test of the first kind, a search looks at the next character before it tries the part.
-/

namespace PathRouter.Regex
set_option autoImplicit false

namespace CharTest

/-- The test names characters and compares them as they stand. -/
def isDirect (f : Flags) : CharTest → Bool
  | literal n => !(f.ignoreCase && f.isCased n)
  | set _ members => !(f.ignoreCase && members.any (·.isCased f))
  | notLiteral _ | any => false

/-- The test looks a lower case up among several characters. -/
def isFolding (f : Flags) : CharTest → Bool
  | literal n | notLiteral n => f.ignoreCase && f.isCased n && 1 < (f.folded n).length
  | set _ members => f.ignoreCase && members.any (·.isCased f)
  | any => false

end CharTest

/-- A character test with the flags in force there. -/
structure FlaggedTest where
  flags : Flags
  test : CharTest
  deriving DecidableEq

namespace FlaggedTest

/-- The character passes the test. -/
def holds (t : FlaggedTest) (c : Char) : Bool :=
  t.test.holds t.flags c

/-- The character after the point passes the test. -/
def holdsAfter (t : FlaggedTest) (p : Point) : Bool :=
  p.after.head?.any t.holds

/-- The test looks a lower case up among several characters. -/
def isFolding (t : FlaggedTest) : Bool :=
  t.test.isFolding t.flags

/-- The test is for one character. -/
def isLiteral (t : FlaggedTest) : Bool :=
  t.test matches .literal _

end FlaggedTest

namespace Node

/-- The direct test that a part begins with, where `next` is the one that follows the part. -/
def lead (f : Flags) : Node → Option FlaggedTest → Option FlaggedTest
  | empty, next => next
  | char test, _ => if test.isDirect f then some ⟨f, test⟩ else none
  | seq a b, next => a.lead f (b.lead f next)
  | flagged on off body, next => body.lead (f.update on off) next
  | _, _ => none

/-- The test that a part consists of. -/
def single? (f : Flags) : Node → Option FlaggedTest
  | char test => some ⟨f, test⟩
  | flagged on off body => body.single? (f.update on off)
  | _ => none

/-- The part is an alternation. -/
def isAlternation : Node → Bool
  | alt _ _ => true
  | _ => false

end Node

end PathRouter.Regex

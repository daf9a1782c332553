import PathRouter.CodePoint.Blank
import PathRouter.CodePoint.CaseMap
import PathRouter.CodePoint.Numeric
import PathRouter.Regex.Syntax

/-!
# Testing characters

Whether a character passes a test under the flags in force. When case is ignored, a cased character
in an expression stands for all characters whose lower case is its own lower case or a sibling of
it. A class with a cased member compares the lower case of the character with each member. Beyond
the basic plane a member of such a class is compared as it is written: a character with the lower
case, a range with the lower case and with the upper case of that.
-/

namespace PathRouter.Regex
set_option autoImplicit false

/-- The flags that matter to matching. -/
structure Flags where
  ignoreCase : Bool
  multiline : Bool
  dotAll : Bool
  ascii : Bool
  deriving DecidableEq

namespace Flags

/-- Turns flags on and off. The two character sets exclude each other. -/
def update (f : Flags) (on off : List Flag) : Flags where
  ignoreCase := (f.ignoreCase || on.contains .ignoreCase) && !off.contains .ignoreCase
  multiline := (f.multiline || on.contains .multiline) && !off.contains .multiline
  dotAll := (f.dotAll || on.contains .dotAll) && !off.contains .dotAll
  ascii := on.contains .ascii || f.ascii && !on.contains .unicode

/-- Lower case. -/
def lower (f : Flags) (c : CodePoint) : CodePoint :=
  if f.ascii then CodePoint.lowerAscii c else CodePoint.lower c

/-- The character has case. -/
def isCased (f : Flags) (c : CodePoint) : Bool :=
  if f.ascii then CodePoint.isAsciiLetter c else CodePoint.isCased c

/-- The lower-case characters that a character stands for when case is ignored. -/
def folded (f : Flags) (c : CodePoint) : List CodePoint :=
  let low := f.lower c
  low :: if f.ascii then [] else CodePoint.caseSiblings low

end Flags

/-- The character belongs to a named class. -/
def Category.holds (ascii : Bool) (c : CodePoint) : Category → Bool
  | digit => if ascii then CodePoint.isAsciiDigit c else CodePoint.isDecimal c
  | space => if ascii then CodePoint.isAsciiBlank c else CodePoint.isBlank c
  | word =>
    if ascii then CodePoint.isAsciiLetter c || CodePoint.isAsciiDigit c || c == 95
    else CodePoint.isWord c

/-- The first code point beyond the basic plane. -/
def basicPlaneEnd : Nat := 0x10000

/-- The code points of a range that lie in the basic plane. -/
def basicRange (low high : CodePoint) : List CodePoint :=
  List.range' low (min (high + 1) basicPlaneEnd - low)

namespace Member

/-- The character is in the member as it is written. -/
def holds (ascii : Bool) (c : CodePoint) : Member → Bool
  | single n => c == n
  | range low high => decide (low ≤ c) && decide (c ≤ high)
  | category kind negated => kind.holds ascii c != negated

/-- The member makes its class compare lower case. -/
def isCased (f : Flags) : Member → Bool
  | single n => f.isCased n || decide (basicPlaneEnd ≤ f.lower n)
  | range low high => decide (basicPlaneEnd ≤ high) || (basicRange low high).any f.isCased
  | category _ _ => false

/-- The lower-case character `c` is in the member when case is ignored. -/
def holdsFolded (f : Flags) (c : CodePoint) : Member → Bool
  | single n => if basicPlaneEnd ≤ f.lower n then c == n else (f.folded n).contains c
  | range low high =>
    (basicRange low high).any (fun n => (f.folded n).contains c) ||
      decide (basicPlaneEnd ≤ high) &&
        ((range low high).holds f.ascii c || (range low high).holds f.ascii (CodePoint.upper c))
  | category kind negated => kind.holds f.ascii c != negated

end Member

/-- The character is the one in the expression. -/
def Flags.isSame (f : Flags) (c n : CodePoint) : Bool :=
  if f.ignoreCase && f.isCased n then (f.folded n).contains (f.lower c) else c == n

/-- The character is in the members of a class. -/
def Flags.isMember (f : Flags) (c : CodePoint) (members : List Member) : Bool :=
  if f.ignoreCase && members.any (·.isCased f) then members.any (·.holdsFolded f (f.lower c))
  else members.any (·.holds f.ascii c)

/-- The character passes the test. -/
def CharTest.holds (f : Flags) (c : Char) : CharTest → Bool
  | literal n => f.isSame c.toNat n
  | notLiteral n => !f.isSame c.toNat n
  | any => f.dotAll || c != '\n'
  | set negated members => f.isMember c.toNat members != negated

end PathRouter.Regex

/-!
# Code points

A code point is a number below 0x110000. Numbers are used rather than `Char` because an expression
may denote a surrogate and undecodable text may hold one. The property tables beside this module
are lists of closed ranges in ascending order.
-/

namespace PathRouter
set_option autoImplicit false

/-- A Unicode code point, surrogates included. -/
abbrev CodePoint := Nat

namespace CodePoint

/-- Membership in a list of closed ranges. -/
def inRanges (ranges : List (Nat × Nat)) (c : CodePoint) : Bool :=
  ranges.any fun r => decide (r.1 ≤ c) && decide (c ≤ r.2)

/-- A letter of ASCII. -/
def isAsciiLetter (c : CodePoint) : Bool :=
  decide (65 ≤ c) && decide (c ≤ 90) || decide (97 ≤ c) && decide (c ≤ 122)

/-- A digit of ASCII. -/
def isAsciiDigit (c : CodePoint) : Bool :=
  decide (48 ≤ c) && decide (c ≤ 57)

/-- A code point reserved for UTF-16, which no text in UTF-8 can hold. -/
def isSurrogate (c : CodePoint) : Bool :=
  decide (0xD800 ≤ c) && decide (c ≤ 0xDFFF)

end CodePoint

end PathRouter

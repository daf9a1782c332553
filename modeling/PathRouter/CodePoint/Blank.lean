import PathRouter.CodePoint.Basic

/-!
# White space

The code points of Unicode 14.0 with bidirectional type B, S or WS, or of category Zs. In ASCII
these are the six usual ones together with the separators 28 to 31.
-/

namespace PathRouter.CodePoint
set_option autoImplicit false

/-- White space beyond ASCII. -/
def blankRanges : List (Nat × Nat) :=
  [(133, 133), (160, 160), (5760, 5760), (8192, 8202), (8232, 8233), (8239, 8239), (8287, 8287),
   (12288, 12288)]

/-- Space, tab, line feed, vertical tab, form feed or carriage return. -/
def isAsciiBlank (c : CodePoint) : Bool :=
  decide (9 ≤ c) && decide (c ≤ 13) || c == 32

/-- The code point is white space. -/
def isBlank (c : CodePoint) : Bool :=
  if c < 128 then isAsciiBlank c || decide (28 ≤ c) && decide (c ≤ 31) else inRanges blankRanges c

end PathRouter.CodePoint

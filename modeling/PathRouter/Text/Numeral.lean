import PathRouter.CodePoint.Blank
import PathRouter.CodePoint.Numeric
import PathRouter.Text.Basic

/-!
# Reading integers

An integer may stand between blanks, may have a sign, and is written in decimal digits of any
script with single low lines between them. The separators 28 to 31 of ASCII are no blanks here.
-/

namespace PathRouter.Text
set_option autoImplicit false

/-- A blank that may stand around a numeral. -/
def isNumeralBlank (c : CodePoint) : Bool :=
  if c < 128 then CodePoint.isAsciiBlank c else CodePoint.isBlank c

/-- The values of digits with single low lines between them. `after` says that a digit was read
just before. -/
def digitValues? (after : Bool) : List CodePoint → Option (List Nat)
  | [] => if after then some [] else none
  | c :: rest =>
    if c = 95 then if after then digitValues? false rest else none
    else match CodePoint.decimalValue? c with
      | some d => (digitValues? true rest).map (d :: ·)
      | none => none

/-- The number of decimal digits beyond which a numeral is not read. -/
def maxDigits : Nat := 4300

/-- The value of a numeral without sign. -/
def unsigned? (codes : List CodePoint) : Option Nat :=
  (digitValues? false codes).bind fun ds =>
    if maxDigits < ds.length then none else some (ds.foldl (fun n d => n * 10 + d) 0)

/-- The integer that a text denotes. -/
def integer? (text : Text) : Option Int :=
  let codes := (text.map Char.toNat).dropWhile isNumeralBlank
  match (codes.reverse.dropWhile isNumeralBlank).reverse with
  | 43 :: rest => (unsigned? rest).map Int.ofNat
  | 45 :: rest => (unsigned? rest).map fun n => -Int.ofNat n
  | rest => (unsigned? rest).map Int.ofNat

end PathRouter.Text

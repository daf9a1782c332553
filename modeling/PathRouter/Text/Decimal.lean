import PathRouter.Text.Basic

/-!
# Decimal and hexadecimal numerals

Numbers are written with the fewest digits; hexadecimal numerals may be padded with zeros.
-/

namespace PathRouter.Text
set_option autoImplicit false

/-- The decimal numeral of a natural number. -/
def natural (n : Nat) : Text :=
  Nat.toDigits 10 n

/-- The decimal numeral of an integer, with a minus sign before a negative one. -/
def integer (i : Int) : Text :=
  if i < 0 then '-' :: natural i.natAbs else natural i.natAbs

/-- The hexadecimal numeral in lower case, padded to `width` digits. -/
def hexadecimal (width n : Nat) : Text :=
  let digits := Nat.toDigits 16 n
  List.replicate (width - digits.length) '0' ++ digits

end PathRouter.Text

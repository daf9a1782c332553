import PathRouter.Text.Decimal

/-!
# Shortest decimals

A floating-point number is written with the fewest digits that read back as it. Its reals are an
interval around a rational number; for one digit, two digits and so on, the two neighbours of that
number on the decimal grid are tried, and the first grid with a neighbour in the interval decides.
All arithmetic is exact.
-/

namespace PathRouter.Text
set_option autoImplicit false

/-- The reals that round to a positive floating-point number, in units of a power of two: the
number is `4 * significand` and the interval goes from `low` to `high`. -/
structure Binade where
  significand : Nat
  exponent : Int
  low : Nat
  high : Nat
  /-- The ends round to the number too. -/
  closed : Bool

namespace Binade

/-- The interval of a double that is neither zero nor infinite nor no number. -/
def ofBits (bits : Nat) : Binade :=
  let fraction := bits % 0x10000000000000
  let field := bits / 0x10000000000000 % 2048
  let m := if field = 0 then fraction else 0x10000000000000 + fraction
  let below := if fraction = 0 ∧ 1 < field then 1 else 2
  ⟨m, (if field = 0 then 1 else field : Nat) - 1077, 4 * m - below, 4 * m + 2, m % 2 == 0⟩

/-- The numerator of `n` units over `10 ^ scale`. -/
def numerator (b : Binade) (scale : Int) (n : Nat) : Nat :=
  n * Nat.pow 2 b.exponent.toNat * Nat.pow 10 (-scale).toNat

/-- The denominator of a number of units over `10 ^ scale`. -/
def denominator (b : Binade) (scale : Int) : Nat :=
  Nat.pow 2 (-b.exponent).toNat * Nat.pow 10 scale.toNat

/-- `candidate * 10 ^ scale` lies in the interval. -/
def contains (b : Binade) (scale : Int) (candidate : Nat) : Bool :=
  let c := candidate * b.denominator scale
  if b.closed then decide (b.numerator scale b.low ≤ c) && decide (c ≤ b.numerator scale b.high)
  else decide (b.numerator scale b.low < c) && decide (c < b.numerator scale b.high)

/-- The exponent of the leading decimal digit. -/
def magnitude (b : Binade) : Int :=
  let whole := b.numerator 0 (4 * b.significand) / b.denominator 0
  if whole ≠ 0 then (natural whole).length - 1
  else
    let places := (List.range 330).find? fun (k : Nat) =>
      decide (b.denominator (-(k : Int)) ≤ b.numerator (-(k : Int)) (4 * b.significand))
    Int.negOfNat (places.getD 330)

/-- The neighbour of the number on the grid of `10 ^ scale` that lies in the interval, the nearer
one if both do. -/
def neighbour? (b : Binade) (scale : Int) : Option Nat :=
  let n := b.numerator scale (4 * b.significand)
  let d := b.denominator scale
  let down := n / d
  match b.contains scale down, b.contains scale (down + 1) with
  | true, true =>
    let rest := n % d
    some (if 2 * rest < d ∨ 2 * rest = d ∧ down % 2 = 0 then down else down + 1)
  | true, false => some down
  | false, true => some (down + 1)
  | false, false => none

/-- The digits of the number without zeros at their end, and the place of the point: that many
digits stand before it. -/
def shortest (b : Binade) : Text × Int :=
  let top := b.magnitude
  let scales := (List.range 17).map fun (k : Nat) => top - (k : Int)
  match scales.findSome? fun scale => (b.neighbour? scale).map (·, scale) with
  | some (n, scale) =>
    let digits := natural n
    ((digits.reverse.dropWhile (· == '0')).reverse, digits.length + scale)
  | none => (['0'], 1)

end Binade

/-- An exponent with its sign and two digits at least. -/
def exponentText (e : Int) : Text :=
  let digits := natural e.natAbs
  (if e < 0 then '-' else '+') :: List.replicate (2 - digits.length) '0' ++ digits

/-- Digits with the point after the first `point` of them: in full from 10⁻⁴ up to 10¹⁶, beyond with
an exponent. -/
def pointed (digits : Text) (point : Int) : Text :=
  if point ≤ -4 ∨ 16 < point then
    let mantissa := match digits with
      | [] | [_] => digits
      | d :: more => d :: '.' :: more
    mantissa ++ 'e' :: exponentText (point - 1)
  else if point ≤ 0 then '0' :: '.' :: List.replicate point.natAbs '0' ++ digits
  else if digits.length ≤ point.toNat then
    digits ++ List.replicate (point.toNat - digits.length) '0' ++ ['.', '0']
  else digits.take point.toNat ++ '.' :: digits.drop point.toNat

/-- The text of a floating-point number given by its bits. -/
def ofFloatBits (bits : Nat) : Text :=
  let isNegative := bits / 0x8000000000000000 % 2 == 1
  let field := bits / 0x10000000000000 % 2048
  let sign := if isNegative then ['-'] else []
  if field = 2047 then
    if bits % 0x10000000000000 = 0 then sign ++ ['i', 'n', 'f'] else ['n', 'a', 'n']
  else if bits % 0x8000000000000000 = 0 then sign ++ ['0', '.', '0']
  else
    let (digits, point) := (Binade.ofBits (bits % 0x8000000000000000)).shortest
    sign ++ pointed digits point

end PathRouter.Text

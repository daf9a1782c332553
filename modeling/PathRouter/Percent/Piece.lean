import PathRouter.Text.Basic

/-!
# Percent escapes

A byte string reads from left to right as a list of pieces: plain bytes, escapes (a percent sign
and two hexadecimal digits of either case) and bare percent signs that start no escape. Decoding,
requoting and lenient unescaping are all maps over this list, and `flatMap_bytes_pieces` says that
the list loses nothing.
-/

namespace PathRouter.Percent
set_option autoImplicit false

/-- The percent sign. -/
def sign : UInt8 := 0x25

/-- The value of a hexadecimal digit of either case. -/
def hexValue? (b : UInt8) : Option Nat :=
  let n := b.toNat
  if 48 ≤ n ∧ n ≤ 57 then some (n - 48)
  else if 65 ≤ n ∧ n ≤ 70 then some (n - 55)
  else if 97 ≤ n ∧ n ≤ 102 then some (n - 87)
  else none

/-- The upper-case hexadecimal digit of a number below sixteen. -/
def hexDigit (n : Nat) : UInt8 :=
  UInt8.ofNat (if n < 10 then n + 48 else n + 55)

/-- The byte that two hexadecimal digits name. -/
def escaped? (high low : UInt8) : Option UInt8 :=
  match hexValue? high, hexValue? low with
  | some h, some l => some (UInt8.ofNat (h * 16 + l))
  | _, _ => none

/-- The upper-case escape of a byte. -/
def escapeByte (b : UInt8) : Bytes :=
  [sign, hexDigit (b.toNat / 16), hexDigit (b.toNat % 16)]

/-- A piece of a percent-encoded byte string. -/
inductive Piece
  /-- A byte other than the percent sign. -/
  | plain (b : UInt8)
  /-- A percent sign that starts no escape. -/
  | bare
  /-- A percent sign with two digits, and the byte that they name. -/
  | escape (high low value : UInt8)
  deriving DecidableEq

namespace Piece

/-- The bytes that a piece was read from. -/
def bytes : Piece → Bytes
  | plain b => [b]
  | bare => [sign]
  | escape high low _ => [sign, high, low]

/-- The byte that a piece stands for; a bare percent sign stands for itself. -/
def value : Piece → UInt8
  | plain b => b
  | bare => sign
  | escape _ _ v => v

end Piece

/-- The pieces of a byte string. -/
def pieces : Bytes → List Piece
  | [] => []
  | b :: rest =>
    if b = sign then
      match rest with
      | high :: low :: after =>
        match escaped? high low with
        | some v => .escape high low v :: pieces after
        | none => .bare :: pieces (high :: low :: after)
      | [last] => .bare :: pieces [last]
      | [] => [.bare]
    else .plain b :: pieces rest

/-- The pieces spell the byte string that they were read from. -/
theorem flatMap_bytes_pieces (bytes : Bytes) : (pieces bytes).flatMap Piece.bytes = bytes := by
  fun_induction pieces bytes <;> simp_all [Piece.bytes]

/-- Every escape replaced by its byte; all else, bare percent signs included, is kept. -/
def unescape (bytes : Bytes) : Bytes :=
  (pieces bytes).map Piece.value

end PathRouter.Percent

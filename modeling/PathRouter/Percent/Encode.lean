import PathRouter.Percent.Piece
import PathRouter.Text.Utf8

/-!
# Encoding

A value is written into a path as its UTF-8 bytes: unreserved characters and those declared safe
stand for themselves, every other byte is an upper-case escape.
-/

namespace PathRouter.Percent
set_option autoImplicit false

/-- Letters, digits and the four marks that never need an escape. -/
def isUnreserved (b : UInt8) : Bool :=
  CodePoint.isAsciiLetter b.toNat || CodePoint.isAsciiDigit b.toNat ||
    [45, 46, 95, 126].contains b

/-- The byte is an ASCII character of `safe`. -/
def isSafe (safe : Text) (b : UInt8) : Bool :=
  decide (b.toNat < 128) && safe.any fun c => c.toNat == b.toNat

/-- The bytes that stand for one byte of a value. -/
def encodeByte (safe : Text) (b : UInt8) : Bytes :=
  if isUnreserved b || isSafe safe b then [b] else escapeByte b

/-- The encoded form of a value. It is ASCII, so every byte is a character. -/
def encode (value safe : Text) : Text :=
  ((Utf8.encode value).flatMap (encodeByte safe)).map fun b => Char.ofNat b.toNat

end PathRouter.Percent

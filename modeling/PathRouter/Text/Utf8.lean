import PathRouter.CodePoint.Basic
import PathRouter.Text.Basic

/-!
# UTF-8

The encoding of a text as bytes and the strict decoding of bytes: no overlong form, no surrogate,
nothing above 0x10FFFF and no stray or missing continuation byte.
-/

namespace PathRouter.Utf8
set_option autoImplicit false

/-- A continuation byte that carries the low six bits of `n`. -/
def continuation (n : Nat) : UInt8 :=
  UInt8.ofNat (0x80 + n % 64)

/-- The bytes of one code point. -/
def encodeCode (n : CodePoint) : Bytes :=
  if n < 0x80 then [UInt8.ofNat n]
  else if n < 0x800 then [UInt8.ofNat (0xC0 + n / 64), continuation n]
  else if n < 0x10000 then
    [UInt8.ofNat (0xE0 + n / 4096), continuation (n / 64), continuation n]
  else
    [UInt8.ofNat (0xF0 + n / 262144), continuation (n / 4096), continuation (n / 64),
      continuation n]

/-- The bytes of a text. -/
def encode (text : Text) : Bytes :=
  text.flatMap fun c => encodeCode c.toNat

/-- The bytes of a sequence of code points, which must be free of surrogates. -/
def encodeCodes? (codes : List CodePoint) : Option Bytes :=
  if codes.any CodePoint.isSurrogate then none else some (codes.flatMap encodeCode)

/-- The byte may follow the first byte of a sequence. -/
def isContinuation (b : UInt8) : Bool :=
  b.toNat / 64 == 2

/-- The low six bits of a continuation byte. -/
def payload (b : UInt8) : Nat :=
  b.toNat % 64

/-- The two-byte sequence `a b`. -/
def pair? (a b : UInt8) : Option Char :=
  let n := (a.toNat - 0xC0) * 64 + payload b
  if isContinuation b && decide (0x80 ≤ n) then some (Char.ofNat n) else none

/-- The three-byte sequence `a b c`. -/
def triple? (a b c : UInt8) : Option Char :=
  let n := (a.toNat - 0xE0) * 4096 + payload b * 64 + payload c
  if isContinuation b && isContinuation c && decide (0x800 ≤ n) && !CodePoint.isSurrogate n then
    some (Char.ofNat n)
  else none

/-- The four-byte sequence `a b c d`. -/
def quadruple? (a b c d : UInt8) : Option Char :=
  let n := (a.toNat - 0xF0) * 262144 + payload b * 4096 + payload c * 64 + payload d
  if isContinuation b && isContinuation c && isContinuation d && decide (0x10000 ≤ n) &&
      decide (n < 0x110000) then
    some (Char.ofNat n)
  else none

/-- The text that the bytes encode, if they are valid. -/
def decode? : Bytes → Option Text
  | [] => some []
  | a :: rest =>
    if a.toNat < 0x80 then (decode? rest).map (Char.ofNat a.toNat :: ·)
    else if a.toNat < 0xC0 then none
    else match rest with
      | [] => none
      | b :: rest =>
        if a.toNat < 0xE0 then (pair? a b).bind fun x => (decode? rest).map (x :: ·)
        else match rest with
          | [] => none
          | c :: rest =>
            if a.toNat < 0xF0 then (triple? a b c).bind fun x => (decode? rest).map (x :: ·)
            else match rest with
              | [] => none
              | d :: rest =>
                if a.toNat < 0xF8 then
                  (quadruple? a b c d).bind fun x => (decode? rest).map (x :: ·)
                else none

end PathRouter.Utf8

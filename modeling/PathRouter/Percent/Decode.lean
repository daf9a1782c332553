import PathRouter.Percent.Piece
import PathRouter.Text.Quoted
import PathRouter.Text.Utf8

/-!
# Strict decoding

A captured fragment becomes text when every percent sign in it starts an escape and the bytes, with
each escape replaced by its byte, are UTF-8. The leftmost bare percent sign is reported before any
fault of the encoding.
-/

namespace PathRouter.Percent
set_option autoImplicit false

/-- Why a fragment has no decoded text. -/
inductive DecodeError
  /-- The code points include a surrogate. -/
  | unencodable (codes : List CodePoint)
  /-- A percent sign with fewer than two bytes after it. -/
  | truncated (offset : Nat) (bytes : Bytes)
  /-- A percent sign whose next two bytes are not both hexadecimal digits. -/
  | malformed (offset : Nat) (bytes : Bytes)
  /-- The bytes hold no escape and are not UTF-8. -/
  | invalid (bytes : Bytes)
  /-- The bytes are not UTF-8 once the escapes are replaced. -/
  | invalidDecoded (bytes : Bytes)
  deriving DecidableEq

/-- The text of a decoding error. -/
def DecodeError.message : DecodeError → String
  | unencodable codes => "Text is not encodable as UTF-8: " ++ Text.quoteCodes codes
  | truncated i bytes =>
    "Truncated percent-escape at offset " ++ toString i ++ " in " ++ Text.quoteBytes bytes
  | malformed i bytes =>
    "Malformed percent-escape at offset " ++ toString i ++ " in " ++ Text.quoteBytes bytes
  | invalid bytes => "Invalid UTF-8 in " ++ Text.quoteBytes bytes
  | invalidDecoded bytes => "Decoded bytes are not valid UTF-8 in " ++ Text.quoteBytes bytes

/-- The offset of the first bare percent sign among pieces that start at `offset`. -/
def bareOffset? (offset : Nat) : List Piece → Option Nat
  | [] => none
  | .bare :: _ => some offset
  | piece :: rest => bareOffset? (offset + piece.bytes.length) rest

/-- Decodes a byte string. -/
def decode (bytes : Bytes) : Except DecodeError Text :=
  match bareOffset? 0 (pieces bytes) with
  | some i => .error (if i + 2 < bytes.length then .malformed i bytes else .truncated i bytes)
  | none =>
    match Utf8.decode? (unescape bytes) with
    | some text => .ok text
    | none => .error (if sign ∈ bytes then .invalidDecoded bytes else .invalid bytes)

/-- Decodes a text through its bytes. -/
def decodeText (text : Text) : Except DecodeError Text :=
  decode (Utf8.encode text)

/-- Decodes a sequence of code points, which must be free of surrogates. -/
def decodeCodes (codes : List CodePoint) : Except DecodeError Text :=
  match Utf8.encodeCodes? codes with
  | some bytes => decode bytes
  | none => .error (.unencodable codes)

end PathRouter.Percent

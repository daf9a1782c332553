import PathRouter.Percent.Piece
import PathRouter.Text.Utf8

/-!
# Requoting

Before a path is matched its escapes are brought to one form: an escape is decoded unless it is
protected, and a bare percent sign becomes an escape of itself, so that no decoded byte can complete
a new escape. Protecting the slash keeps the division of a path into segments.
-/

namespace PathRouter.Percent
set_option autoImplicit false

/-- The characters whose escapes stay encoded. The percent sign always is one of them, and only
ASCII characters count. -/
structure Protection where
  characters : Text

namespace Protection

/-- Percent sign, slash and plus sign. -/
def standard : Protection := ⟨['%', '/', '+']⟩

/-- Escapes of `b` stay encoded. -/
def protects (p : Protection) (b : UInt8) : Bool :=
  b == sign || decide (b.toNat < 128) && p.characters.any fun c => c.toNat == b.toNat

/-- The protected bytes in ascending order. -/
def bytes (p : Protection) : Bytes :=
  ((List.range 128).map UInt8.ofNat).filter p.protects

/-- The escape of `b` is left as it is; with `asciiOnly` so are escapes of bytes beyond ASCII. -/
def keeps (p : Protection) (asciiOnly : Bool) (b : UInt8) : Bool :=
  p.protects b || asciiOnly && decide (128 ≤ b.toNat)

/-- The requoted form of a piece. -/
def requotePiece (p : Protection) (asciiOnly : Bool) : Piece → Bytes
  | .plain b => [b]
  | .bare => escapeByte sign
  | .escape high low v => if p.keeps asciiOnly v then [sign, high, low] else [v]

/-- Requoting leaves the piece alone. -/
def isSettled (p : Protection) (asciiOnly : Bool) : Piece → Bool
  | .plain _ => true
  | .bare => false
  | .escape _ _ v => p.keeps asciiOnly v

/-- The requoted form of a byte string, or nothing if it is in that form already. -/
def requote? (p : Protection) (asciiOnly : Bool) (bytes : Bytes) : Option Bytes :=
  let ps := pieces bytes
  if ps.all (p.isSettled asciiOnly) then none else some (ps.flatMap (p.requotePiece asciiOnly))

/-- The requoted form of a text, or nothing if it is in that form already. Where decoding every
unprotected escape would not give UTF-8, only the escapes of ASCII are decoded. -/
def requoteText? (p : Protection) (text : Text) : Option Text :=
  (p.requote? false (Utf8.encode text)).bind fun full =>
    match Utf8.decode? full with
    | some t => some t
    | none => (p.requote? true (Utf8.encode text)).bind Utf8.decode?

/-- The requoted form of a text. -/
def requoteText (p : Protection) (text : Text) : Text :=
  (p.requoteText? text).getD text

end Protection

/-- The text of a raw path: its bytes as UTF-8 or, if they are not, the ASCII characters with an
escape for every other byte. -/
def textOfRaw (bytes : Bytes) : Text :=
  match Utf8.decode? bytes with
  | some text => text
  | none =>
    (bytes.flatMap fun b => if b.toNat < 128 then [b] else escapeByte b).map fun b =>
      Char.ofNat b.toNat

end PathRouter.Percent

/-!
# Texts and bytes

A text is a list of characters and a byte string a list of bytes, so that every operation below is
an operation on lists. Offsets into a text are integers: a negative one counts from the end.
-/

namespace PathRouter
set_option autoImplicit false

/-- A text, one element per code point. -/
abbrev Text := List Char

/-- A byte string. -/
abbrev Bytes := List UInt8

namespace Text

/-- The position that `offset` names in a list of `length` elements: a negative offset counts from
the end, and what lies outside is moved to the nearest end. -/
def clampOffset (length : Nat) (offset : Int) : Nat :=
  if offset < 0 then (offset + length).toNat else min offset.toNat length

/-- The elements from `start` up to `stop`. -/
def slice {α : Type} (xs : List α) (start stop : Int) : List α :=
  let lo := clampOffset xs.length start
  let hi := clampOffset xs.length stop
  (xs.take hi).drop lo

/-- `part` stands in `text` at `offset`. An offset beyond the end has nothing at it, not even the
empty text. -/
def standsAt (text part : Text) (offset : Int) : Bool :=
  decide (offset ≤ text.length) && part.isPrefixOf (text.drop (clampOffset text.length offset))

/-- The character at `offset`, if the text reaches that far in either direction. -/
def charAt? (text : Text) (offset : Int) : Option Char :=
  if offset < 0 then
    if offset + text.length < 0 then none else text[(offset + text.length).toNat]?
  else text[offset.toNat]?

theorem clampOffset_natCast {length n : Nat} (h : n ≤ length) : clampOffset length n = n := by
  unfold clampOffset
  split <;> omega

end Text

end PathRouter

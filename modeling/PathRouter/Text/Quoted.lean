import PathRouter.CodePoint.Printable
import PathRouter.Text.Decimal

/-!
# Quoted texts

How a text or a byte string is shown inside a message. The quotation mark is the apostrophe unless
the text holds an apostrophe and no double quote. A backslash stands before itself and before the
quotation mark; tab, line feed and carriage return have letters; everything else that cannot be
shown is given by its number.
-/

namespace PathRouter.Text
set_option autoImplicit false

/-- The mark that encloses a quoted text. -/
def quoteMark (codes : List CodePoint) : CodePoint :=
  if codes.contains 39 && !codes.contains 34 then 34 else 39

/-- An escape common to texts and byte strings, if `c` has one under the given mark. -/
def shortEscape? (mark c : CodePoint) : Option Text :=
  if c == mark || c == 92 then some ['\\', Char.ofNat c]
  else if c == 9 then some ['\\', 't']
  else if c == 10 then some ['\\', 'n']
  else if c == 13 then some ['\\', 'r']
  else none

/-- One code point of a quoted text. -/
def quotedCode (mark c : CodePoint) : Text :=
  match shortEscape? mark c with
  | some e => e
  | none =>
    if CodePoint.isPrintable c then [Char.ofNat c]
    else if c < 0x100 then '\\' :: 'x' :: hexadecimal 2 c
    else if c < 0x10000 then '\\' :: 'u' :: hexadecimal 4 c
    else '\\' :: 'U' :: hexadecimal 8 c

/-- One byte of a quoted byte string. -/
def quotedByte (mark c : CodePoint) : Text :=
  match shortEscape? mark c with
  | some e => e
  | none =>
    if 32 ≤ c ∧ c < 127 then [Char.ofNat c] else '\\' :: 'x' :: hexadecimal 2 c

/-- The quoted form of a sequence of code points. -/
def quoteCodes (codes : List CodePoint) : String :=
  let mark := quoteMark codes
  String.ofList (Char.ofNat mark :: codes.flatMap (quotedCode mark) ++ [Char.ofNat mark])

/-- The quoted form of a text. -/
def quote (text : Text) : String :=
  quoteCodes (text.map Char.toNat)

/-- The quoted form of a byte string, with the letter `b` before it. -/
def quoteBytes (bytes : Bytes) : String :=
  let codes := bytes.map UInt8.toNat
  let mark := quoteMark codes
  String.ofList ('b' :: Char.ofNat mark :: codes.flatMap (quotedByte mark) ++ [Char.ofNat mark])

/-- Quoted texts between brackets, with commas. -/
def quoteList (texts : List Text) : String :=
  "[" ++ String.intercalate ", " (texts.map quote) ++ "]"

end PathRouter.Text

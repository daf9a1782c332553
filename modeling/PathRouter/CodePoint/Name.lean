import PathRouter.CodePoint.NameAlias
import PathRouter.CodePoint.NameTable.Latin
import PathRouter.CodePoint.NameTable.MiddleEast
import PathRouter.CodePoint.NameTable.SouthAsia
import PathRouter.CodePoint.NameTable.Syllabaries
import PathRouter.CodePoint.NameTable.Extensions
import PathRouter.CodePoint.NameTable.Symbols
import PathRouter.CodePoint.NameTable.Supplements
import PathRouter.CodePoint.NameTable.EastAsia
import PathRouter.CodePoint.NameTable.Forms
import PathRouter.CodePoint.NameTable.Ancient
import PathRouter.CodePoint.NameTable.Cuneiform
import PathRouter.CodePoint.NameTable.Hieroglyphs
import PathRouter.CodePoint.NameTable.MusicAndSigns
import PathRouter.CodePoint.NameTable.Pictographs

/-!
# Characters by name

A character is named by an entry of a table, by an alias, or by a rule: a Hangul syllable is named
by its letters, and an ideograph, among others, by its code. Names in tables and aliases are read in
either case, Hangul syllables and unified ideographs in capitals only.
-/

namespace PathRouter.CodePoint
set_option autoImplicit false

/-- The names beyond ASCII, in tables. -/
def nameTables : List (List NameRun) :=
  [latinNames, middleEastNames, southAsiaNames, syllabaryNames, extensionNames, symbolNames,
   supplementNames, eastAsiaNames, formNames, ancientNames, cuneiformNames, hieroglyphNames,
   musicAndSignNames, pictographNames, variationSelectors]

/-- The character with that name in a table. -/
def inTables? (name : Text) : Option CodePoint :=
  (asciiNames.findSome? (·.find? name)).or
    (nameTables.findSome? fun runs => runs.findSome? (·.find? name))

/-- The character with that alias. -/
def ofAlias? (name : Text) : Option CodePoint :=
  (nameAliases.find? fun entry => entry.2.toList == name).map (·.1)

/-! ## Names by code -/

/-- The value of a hexadecimal digit in capitals. -/
def capitalHexDigit? (c : Char) : Option Nat :=
  let n := c.toNat
  if isAsciiDigit n then some (n - 48)
  else if 65 ≤ n ∧ n ≤ 70 then some (n - 55)
  else none

/-- The code that four or five digits spell, if it lies in one of the ranges. -/
def ofCode? (ranges : List (Nat × Nat)) (digits : Text) : Option CodePoint := do
  let values ← digits.mapM capitalHexDigit?
  let code := values.foldl (16 * · + ·) 0
  if (digits.length = 4 ∨ digits.length = 5) ∧ inRanges ranges code then some code else none

/-- The unified ideographs. -/
def ideographRanges : List (Nat × Nat) :=
  [(0x3400, 0x4DBF), (0x4E00, 0x9FFF), (0x20000, 0x2A6DF), (0x2A700, 0x2B738), (0x2B740, 0x2B81D),
   (0x2B820, 0x2CEA1), (0x2CEB0, 0x2EBE0), (0x30000, 0x3134A)]

/-- Further characters that are named by their code, with the words that precede it. -/
def codedNames : List (String × List (Nat × Nat)) :=
  [("CJK COMPATIBILITY IDEOGRAPH-", [(0xF900, 0xFA6D), (0xFA70, 0xFAD9), (0x2F800, 0x2FA1D)]),
   ("KHITAN SMALL SCRIPT CHARACTER-", [(0x18B00, 0x18CD5)]),
   ("NUSHU CHARACTER-", [(0x1B170, 0x1B2FB)])]

/-- The character whose name ends in its code, written with as few digits as it needs. -/
def byCode? (name : Text) : Option CodePoint :=
  codedNames.findSome? fun (words, ranges) => do
    let digits ← after? words name
    if digits.head? = some '0' then none else ofCode? ranges digits

/-! ## Hangul syllables -/

/-- The letters that may open a Hangul syllable. -/
def hangulLeads : List String :=
  ["G", "GG", "N", "D", "DD", "R", "M", "B", "BB", "S", "SS", "", "J", "JJ", "C", "K", "T", "P",
   "H"]

/-- The vowels of a Hangul syllable. -/
def hangulVowels : List String :=
  ["A", "AE", "YA", "YAE", "EO", "E", "YEO", "YE", "O", "WA", "WAE", "OE", "YO", "U", "WEO", "WE",
   "WI", "YU", "EU", "YI", "I"]

/-- The letters that may close a Hangul syllable. -/
def hangulTails : List String :=
  ["", "G", "GG", "GS", "N", "NJ", "NH", "D", "L", "LG", "LM", "LB", "LS", "LT", "LP", "LH", "M",
   "B", "BS", "S", "SS", "NG", "J", "C", "K", "T", "P", "H"]

/-- The longest of `letters` that `name` begins with, by its place in the list, and what follows. -/
def longestLetter? (letters : List String) (name : Text) : Option (Nat × Text) :=
  letters.zipIdx.foldl (fun best (letter, i) =>
    match after? letter name with
    | none => best
    | some rest =>
      if best.all fun b => decide (rest.length < b.2.length) then some (i, rest) else best) none

/-- The Hangul syllable spelled by `letters`. Syllables are numbered with the closing letter
varying fastest and the opening letter slowest. -/
def hangulSyllable? (letters : Text) : Option CodePoint := do
  let (lead, rest) ← longestLetter? hangulLeads letters
  let (vowel, rest) ← longestLetter? hangulVowels rest
  let (tail, rest) ← longestLetter? hangulTails rest
  if rest = [] then some (0xAC00 + (lead * 21 + vowel) * 28 + tail) else none

/-! ## All names -/

/-- A letter, digit, space or hyphen. -/
def isNamePart (c : Char) : Bool :=
  isAsciiLetter c.toNat || isAsciiDigit c.toNat || c == ' ' || c == '-'

/-- The spelling of names: they begin with a letter and go on with letters, digits, spaces and
hyphens. -/
def isSpelling : Text → Bool
  | [] => false
  | c :: rest => isAsciiLetter c.toNat && rest.all isNamePart

/-- The character that a spelling names. -/
def ofSpelling? (name : Text) : Option CodePoint :=
  match after? "HANGUL SYLLABLE " name, after? "CJK UNIFIED IDEOGRAPH-" name with
  | some letters, _ => hangulSyllable? letters
  | none, some digits => ofCode? ideographRanges digits
  | none, none =>
    let name := name.map Char.toUpper
    ((inTables? name).or (ofAlias? name)).or (byCode? name)

/-- The character of a name. -/
def ofName? (name : Text) : Option CodePoint :=
  if isSpelling name then ofSpelling? name else none

theorem isSpelling_of_ofName? {name : Text} {c : CodePoint} (h : ofName? name = some c) :
    isSpelling name = true := by
  unfold ofName? at h
  split at h <;> simp_all

end PathRouter.CodePoint

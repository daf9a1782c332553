import PathRouter.CodePoint.Name
import PathRouter.Regex.Groups

/-!
# Escapes

What a backslash and the character after it stand for, inside a bracket class and outside. A class
has no anchors and no references, and there `b` is the backspace. Both share the numeric and named
escapes: two, four or eight hexadecimal digits after `x`, `u` or `U`, and a name in braces after
`N`.
-/

namespace PathRouter.Regex
set_option autoImplicit false

/-- The control characters that have letters, and the backslash. -/
def controlCode? : Char → Option CodePoint
  | 'a' => some 7
  | 'b' => some 8
  | 'f' => some 12
  | 'n' => some 10
  | 'r' => some 13
  | 't' => some 9
  | 'v' => some 11
  | '\\' => some 92
  | _ => none

/-- The named classes that have letters; a capital negates. -/
def categoryMember? : Char → Option Member
  | 'd' => some (.category .digit false)
  | 'D' => some (.category .digit true)
  | 's' => some (.category .space false)
  | 'S' => some (.category .space true)
  | 'w' => some (.category .word false)
  | 'W' => some (.category .word true)
  | _ => none

/-- The anchors that have letters. -/
def anchorOf? : Char → Option Anchor
  | 'A' => some .textStart
  | 'Z' => some .textEnd
  | 'b' => some .wordBoundary
  | 'B' => some .notWordBoundary
  | _ => none

/-- A letter of ASCII. -/
def isLetter (c : Char) : Bool :=
  CodePoint.isAsciiLetter c.toNat

/-- The number of hexadecimal digits after the letter of a numeric escape. -/
def hexCount? : Char → Option Nat
  | 'x' => some 2
  | 'u' => some 4
  | 'U' => some 8
  | _ => none

/-- A numeric escape with `count` digits after the letter `c`. -/
def readHex (c : Char) (count : Nat) (rest : Text) : Except Fault (CodePoint × Text) := do
  let (digits, rest) ← readWhile isHexDigit count rest
  let escape := '\\' :: c :: digits
  let place := rest.length + escape.length
  let code := valueOf 16 digitValue 0 digits
  if digits.length ≠ count then fault (.incompleteEscape escape) place
  else if 0x80000000 ≤ code then .error .codeTooLarge
  else if 0x110000 ≤ code then fault (.badEscape escape) place
  else return (code, rest)

/-- A named escape, after its letter. -/
def readNamed : Text → Except Fault (CodePoint × Text)
  | '\x7b' :: rest => do
    settle rest
    let (name, rest) ← readUntil '\x7d' "character name" [] rest
    match CodePoint.ofName? name with
    | some code => return (code, rest)
    | none => fault (.undefinedCharacter name) (rest.length + name.length + 4)
  | rest => fault .missingNameBrace rest.length

/-- An octal escape whose first digit is `c`, of up to three digits, inside a class. -/
def readOctal (c : Char) (rest : Text) : Except Fault (CodePoint × Text) := do
  let (digits, rest) ← readWhile isOctalDigit 2 rest
  let code := valueOf 8 digitValue 0 (c :: digits)
  if 255 < code then
    fault (.octalTooLarge ('\\' :: c :: digits)) (rest.length + digits.length + 2)
  else return (code, rest)

/-- The member that an escape with the character `c` stands for inside a class. -/
def readClassEscape (c : Char) (rest : Text) : Except Fault (Member × Text) :=
  match controlCode? c, categoryMember? c, hexCount? c with
  | some code, _, _ => .ok (.single code, rest)
  | none, some member, _ => .ok (member, rest)
  | none, none, some count => do
    let (code, rest) ← readHex c count rest
    return (.single code, rest)
  | none, none, none =>
    if c = 'N' then do
      let (code, rest) ← readNamed rest
      return (.single code, rest)
    else if isOctalDigit c then do
      let (code, rest) ← readOctal c rest
      return (.single code, rest)
    else if isDigit c || isLetter c then fault (.badEscape ['\\', c]) (rest.length + 2)
    else .ok (.single c.toNat, rest)

/-- The tree of a character given by its code. -/
def Node.ofCode (code : CodePoint) : Node :=
  .char (.literal code)

/-- A reference by number, of which `digits` were read. -/
def referenceTo (s : Surroundings) (digits rest : Text) : Except Fault Node := do
  let group := valueOf 10 digitValue 0 digits
  if s.groups.next ≤ group then fault (.invalidGroup group) (rest.length + digits.length)
  else if (s.groups.width? group).isNone then fault .openGroup (rest.length + digits.length + 1)
  else do
    s.checkBehind group rest.length
    return .backreference group

/-- An escape that starts with the digit `c`, not zero: three octal digits are a character, anything
else is a reference of one or two digits. -/
def readNumbered (s : Surroundings) (c : Char) (rest : Text) : Except Fault (Node × Text) := do
  let (second, rest) ← readWhile isDigit 1 rest
  let octal := second.length == 1 && (c :: second).all isOctalDigit
  let (third, rest) ← readWhile isOctalDigit (if octal then 1 else 0) rest
  let digits := c :: second ++ third
  if third.length = 1 then
    let code := valueOf 8 digitValue 0 digits
    if 255 < code then fault (.octalTooLarge ('\\' :: digits)) (rest.length + 4)
    else return (.ofCode code, rest)
  else return (← referenceTo s digits rest, rest)

/-- The tree that an escape with the character `c` stands for outside a class. -/
def readEscape (s : Surroundings) (c : Char) (rest : Text) : Except Fault (Node × Text) :=
  match anchorOf? c, categoryMember? c, controlCode? c, hexCount? c with
  | some a, _, _, _ => .ok (.anchor a, rest)
  | none, some member, _, _ => .ok (.char (.set false [member]), rest)
  | none, none, some code, _ => .ok (.ofCode code, rest)
  | none, none, none, some count => do
    let (code, rest) ← readHex c count rest
    return (.ofCode code, rest)
  | none, none, none, none =>
    if c = 'N' then do
      let (code, rest) ← readNamed rest
      return (.ofCode code, rest)
    else if c = '0' then do
      let (digits, rest) ← readWhile isOctalDigit 2 rest
      return (.ofCode (valueOf 8 digitValue 0 digits), rest)
    else if isDigit c then readNumbered s c rest
    else if isLetter c then fault (.badEscape ['\\', c]) (rest.length + 2)
    else .ok (.ofCode c.toNat, rest)

/-! ## No reader lengthens the rest -/

theorem readHex_length {c : Char} {n : Nat} {s rest : Text} {code : CodePoint}
    (h : readHex c n s = .ok (code, rest)) : rest.length ≤ s.length := by
  simp only [readHex, bind_eq_ok_iff] at h
  obtain ⟨⟨digits, r⟩, hr, h⟩ := h
  have := readWhile_length hr
  repeat' split at h
  all_goals simp_all [pure_eq_ok_iff]

theorem readNamed_length {s rest : Text} {code : CodePoint} (h : readNamed s = .ok (code, rest)) :
    rest.length ≤ s.length := by
  unfold readNamed at h
  split at h
  · simp only [bind_eq_ok_iff] at h
    obtain ⟨_, _, ⟨name, r⟩, hr, h⟩ := h
    have := readUntil_length hr
    split at h
    · simp only [pure_eq_ok_iff, Prod.mk.injEq] at h
      obtain ⟨_, rfl⟩ := h
      simp only [List.length_cons]
      omega
    · simp at h
  · simp at h

theorem readOctal_length {c : Char} {s rest : Text} {code : CodePoint}
    (h : readOctal c s = .ok (code, rest)) : rest.length ≤ s.length := by
  simp only [readOctal, bind_eq_ok_iff] at h
  obtain ⟨⟨digits, r⟩, hr, h⟩ := h
  have := readWhile_length hr
  split at h <;> simp_all [pure_eq_ok_iff]

theorem readClassEscape_length {c : Char} {s rest : Text} {m : Member}
    (h : readClassEscape c s = .ok (m, rest)) : rest.length ≤ s.length := by
  unfold readClassEscape at h
  split at h
  · simp_all
  · simp_all
  · simp only [bind_eq_ok_iff, pure_eq_ok_iff, Prod.mk.injEq] at h
    obtain ⟨⟨code, r⟩, hr, _, rfl⟩ := h
    exact readHex_length hr
  · split at h
    · simp only [bind_eq_ok_iff, pure_eq_ok_iff, Prod.mk.injEq] at h
      obtain ⟨⟨code, r⟩, hr, _, rfl⟩ := h
      exact readNamed_length hr
    · split at h
      · simp only [bind_eq_ok_iff, pure_eq_ok_iff, Prod.mk.injEq] at h
        obtain ⟨⟨code, r⟩, hr, _, rfl⟩ := h
        exact readOctal_length hr
      · split at h <;> simp_all

theorem readNumbered_length {env : Surroundings} {c : Char} {s rest : Text} {n : Node}
    (h : readNumbered env c s = .ok (n, rest)) : rest.length ≤ s.length := by
  simp only [readNumbered, bind_eq_ok_iff] at h
  obtain ⟨⟨second, r⟩, hr, ⟨third, r'⟩, hr', h⟩ := h
  have h₁ : r.length ≤ s.length := readWhile_length hr
  have h₂ : r'.length ≤ r.length := readWhile_length hr'
  split at h
  · split at h
    · simp at h
    · simp only [pure_eq_ok_iff, Prod.mk.injEq] at h
      obtain ⟨_, rfl⟩ := h
      omega
  · simp only [bind_eq_ok_iff, pure_eq_ok_iff, Prod.mk.injEq] at h
    obtain ⟨_, _, _, rfl⟩ := h
    omega

theorem readEscape_length {env : Surroundings} {c : Char} {s rest : Text} {n : Node}
    (h : readEscape env c s = .ok (n, rest)) : rest.length ≤ s.length := by
  unfold readEscape at h
  split at h
  · simp_all
  · simp_all
  · simp_all
  · simp only [bind_eq_ok_iff, pure_eq_ok_iff, Prod.mk.injEq] at h
    obtain ⟨⟨code, r⟩, hr, _, rfl⟩ := h
    exact readHex_length hr
  · split at h
    · simp only [bind_eq_ok_iff, pure_eq_ok_iff, Prod.mk.injEq] at h
      obtain ⟨⟨code, r⟩, hr, _, rfl⟩ := h
      exact readNamed_length hr
    · split at h
      · simp only [bind_eq_ok_iff, pure_eq_ok_iff, Prod.mk.injEq] at h
        obtain ⟨⟨digits, r⟩, hr, _, rfl⟩ := h
        exact readWhile_length hr
      · split at h
        · exact readNumbered_length h
        · split at h <;> simp_all

end PathRouter.Regex

import PathRouter.Regex.Source

/-!
# Quantifiers

A star, a plus sign, a question mark, or bounds in braces, where either bound may be missing. A
brace that begins no bounds stands for itself.
-/

namespace PathRouter.Regex
set_option autoImplicit false

/-- How many copies a quantifier asks for; no upper bound is `none`. -/
structure Bounds where
  least : Nat
  most : Option Nat
  deriving DecidableEq

/-- The first count that is too large. -/
def maxCount : Nat := 4294967295

/-- The count that digits denote. -/
def readCount (digits : Text) : Except Fault Nat :=
  let n := valueOf 10 digitValue 0 digits
  if 4300 < digits.length then .error (.numeralTooLong digits.length)
  else if maxCount ≤ n then .error .countTooLarge
  else .ok n

/-- The bounds that two numerals give; an empty numeral gives none. -/
def boundsOf (low high : Text) (place : Nat) : Except Fault Bounds := do
  let least ← if low = [] then pure 0 else readCount low
  if high = [] then return ⟨least, none⟩
  else do
    let most ← readCount high
    if most < least then fault .reversedBounds place else return ⟨least, some most⟩

/-- Bounds after an opening brace, if there are any. -/
def readBraces (s : Text) : Except Fault (Option Bounds × Text) := do
  if s.head? = some '\x7d' then return (none, s)
  let (low, rest) ← readWhile isDigit s.length s
  let (high, rest) ← readHigh low rest
  match rest with
  | '\x7d' :: rest => do
    settle rest
    return (some (← boundsOf low high s.length), rest)
  | _ => return (none, s)
where
  /-- The second numeral: the one after a comma, or the first again. -/
  readHigh (low : Text) : Text → Except Fault (Text × Text)
    | ',' :: rest => do
      settle rest
      readWhile isDigit rest.length rest
    | rest => .ok (low, rest)

/-- The bounds that the character `c` begins, or nothing if it is a brace that stands for itself. -/
def readBounds (c : Char) (rest : Text) : Except Fault (Option Bounds × Text) :=
  if c = '*' then .ok (some ⟨0, none⟩, rest)
  else if c = '+' then .ok (some ⟨1, none⟩, rest)
  else if c = '?' then .ok (some ⟨0, some 1⟩, rest)
  else readBraces rest

/-- The character may begin a quantifier. -/
def isQuantifierStart (c : Char) : Bool :=
  c == '*' || c == '+' || c == '?' || c == '\x7b'

/-- The mode that follows the bounds. -/
def readMode : Text → Except Fault (Mode × Text)
  | '?' :: rest => do
    settle rest
    return (.lazy, rest)
  | '+' :: rest => do
    settle rest
    return (.possessive, rest)
  | rest => .ok (.greedy, rest)

/-! ## No reader lengthens the rest -/

theorem readBraces_length {s rest : Text} {b : Option Bounds} (h : readBraces s = .ok (b, rest)) :
    rest.length ≤ s.length := by
  unfold readBraces at h
  split at h
  · simp only [pure_eq_ok_iff, Prod.mk.injEq] at h
    simp [h.2]
  · simp only [bind_eq_ok_iff] at h
    obtain ⟨⟨low, r⟩, hr, ⟨high, r'⟩, hr', h⟩ := h
    have h₁ : r.length ≤ s.length := readWhile_length hr
    have h₂ : r'.length ≤ r.length := by
      unfold readBraces.readHigh at hr'
      split at hr'
      · simp only [bind_eq_ok_iff] at hr'
        obtain ⟨_, _, hr'⟩ := hr'
        have := readWhile_length hr'
        simp_all only [List.length_cons]
        omega
      · simp_all
    split at h
    · simp only [bind_eq_ok_iff, pure_eq_ok_iff, Prod.mk.injEq] at h
      obtain ⟨_, _, _, _, _, rfl⟩ := h
      simp_all only [List.length_cons]
      omega
    · simp only [pure_eq_ok_iff, Prod.mk.injEq] at h
      simp [h.2]

theorem readBounds_length {c : Char} {s rest : Text} {b : Option Bounds}
    (h : readBounds c s = .ok (b, rest)) : rest.length ≤ s.length := by
  unfold readBounds at h
  repeat' split at h
  · simp_all
  · simp_all
  · simp_all
  · exact readBraces_length h

theorem readMode_length {s rest : Text} {m : Mode} (h : readMode s = .ok (m, rest)) :
    rest.length ≤ s.length := by
  unfold readMode at h
  split at h
  · simp only [bind_eq_ok_iff, pure_eq_ok_iff, Prod.mk.injEq] at h
    obtain ⟨_, _, _, rfl⟩ := h
    simp
  · simp only [bind_eq_ok_iff, pure_eq_ok_iff, Prod.mk.injEq] at h
    obtain ⟨_, _, _, rfl⟩ := h
    simp
  · simp_all

end PathRouter.Regex

import PathRouter.Regex.Fault

/-!
# Reading an expression

An expression is read from left to right in tokens: a backslash with the character after it, or a
single other character. A reader takes the rest of the expression and returns what it read with
what is then left. Stepping onto a backslash that ends the expression is a fault at once, so every
step goes through `settle`. The lemmas say that no reader lengthens the rest.
-/

namespace PathRouter.Regex
set_option autoImplicit false

/-- A fault with `left` characters from its place to the end. -/
def fault {α : Type} (complaint : Complaint) (left : Nat) : Except Fault α :=
  .error (.malformed complaint (some left))

/-- Steps onto the rest of the expression. -/
def settle (rest : Text) : Except Fault Unit :=
  if rest = ['\\'] then fault .danglingBackslash 1 else .ok ()

/-- The next token, empty at the end. -/
def readToken : Text → Except Fault (Text × Text)
  | [] => .ok ([], [])
  | '\\' :: c :: rest => do
    settle rest
    return (['\\', c], rest)
  | c :: rest => do
    settle rest
    return ([c], rest)

/-- Up to `count` characters that satisfy `p`. -/
def readWhile (p : Char → Bool) : Nat → Text → Except Fault (Text × Text)
  | 0, rest => .ok ([], rest)
  | _ + 1, [] => .ok ([], [])
  | n + 1, c :: rest =>
    if p c then do
      settle rest
      let (more, rest) ← readWhile p n rest
      return (c :: more, rest)
    else .ok ([], c :: rest)

/-- The tokens before `terminator`, of which there must be one; the terminator is read too. The
tokens read so far are in `done`, latest first. -/
def readUntil (terminator : Char) (what : String) (done : Text) :
    Text → Except Fault (Text × Text)
  | [] => if done = [] then fault (.missingName what) 0
    else fault (.unterminatedName terminator) done.length
  | '\\' :: c :: rest => do
    settle rest
    readUntil terminator what (c :: '\\' :: done) rest
  | c :: rest => do
    settle rest
    if c = terminator then
      if done = [] then fault (.missingName what) (rest.length + 1) else .ok (done.reverse, rest)
    else readUntil terminator what (c :: done) rest

/-- The value of digits in a base, of which the first digits have the value `high`. -/
def valueOf (base : Nat) (digit : Char → Nat) (high : Nat) : Text → Nat
  | [] => high
  | c :: rest => valueOf base digit (high * base + digit c) rest

/-- The value of a hexadecimal digit. -/
def digitValue (c : Char) : Nat :=
  let n := c.toNat
  if n < 58 then n - 48 else if n < 71 then n - 55 else n - 87

/-- A hexadecimal digit of either case. -/
def isHexDigit (c : Char) : Bool :=
  let n := c.toNat
  CodePoint.isAsciiDigit n || decide (65 ≤ n) && decide (n ≤ 70) ||
    decide (97 ≤ n) && decide (n ≤ 102)

/-- An octal digit. -/
def isOctalDigit (c : Char) : Bool :=
  decide (48 ≤ c.toNat) && decide (c.toNat ≤ 55)

/-- A decimal digit of ASCII. -/
def isDigit (c : Char) : Bool :=
  CodePoint.isAsciiDigit c.toNat

/-! ## No reader lengthens the rest -/

theorem bind_eq_ok_iff {α β : Type} {x : Except Fault α} {f : α → Except Fault β} {b : β} :
    (x >>= f) = .ok b ↔ ∃ a, x = .ok a ∧ f a = .ok b := by
  cases x <;> simp [bind, Except.bind]

theorem settle_eq_ok_iff {rest : Text} : settle rest = .ok () ↔ rest ≠ ['\\'] := by
  unfold settle fault
  split <;> simp_all

theorem pure_eq_ok_iff {α : Type} {a b : α} : (pure a : Except Fault α) = .ok b ↔ a = b := by
  simp [pure, Except.pure]

@[simp] theorem fault_ne_ok {α : Type} {c : Complaint} {left : Nat} {a : α} :
    (fault c left : Except Fault α) ≠ .ok a := by
  simp [fault]

theorem readToken_length {s t rest : Text} (h : readToken s = .ok (t, rest)) :
    rest.length ≤ s.length ∧ (t ≠ [] → rest.length < s.length) := by
  unfold readToken at h
  split at h
  · simp_all
  · simp only [bind_eq_ok_iff, pure_eq_ok_iff, Prod.mk.injEq] at h
    obtain ⟨_, _, _, rfl⟩ := h
    simp
    omega
  · simp only [bind_eq_ok_iff, pure_eq_ok_iff, Prod.mk.injEq] at h
    obtain ⟨_, _, _, rfl⟩ := h
    simp

theorem readWhile_length {p : Char → Bool} {n : Nat} {s t rest : Text}
    (h : readWhile p n s = .ok (t, rest)) : rest.length ≤ s.length := by
  induction n, s using readWhile.induct p generalizing t rest with
  | case1 => simp_all [readWhile]
  | case2 => simp_all [readWhile]
  | case3 n c s hp ih =>
    simp only [readWhile, hp, if_true, bind_eq_ok_iff, pure_eq_ok_iff, Prod.mk.injEq] at h
    obtain ⟨_, _, ⟨a, b⟩, h', _, rfl⟩ := h
    have := ih h'
    simp only [List.length_cons]
    omega
  | case4 n c s hp => simp_all [readWhile]

theorem readUntil_length {t : Char} {what : String} {done s name rest : Text}
    (h : readUntil t what done s = .ok (name, rest)) : rest.length < s.length := by
  fun_induction readUntil t what done s with
  | case1 => simp at h
  | case2 => simp at h
  | case3 done c s ih =>
    simp only [bind_eq_ok_iff] at h
    obtain ⟨_, _, h⟩ := h
    have := ih h
    simp only [List.length_cons]
    omega
  | case4 done c s _ ih =>
    simp only [bind_eq_ok_iff] at h
    obtain ⟨_, _, h⟩ := h
    split at h
    · split at h
      · simp at h
      · simp only [Except.ok.injEq, Prod.mk.injEq] at h
        simp [← h.2]
    · have := ih h
      simp only [List.length_cons]
      omega

end PathRouter.Regex

import PathRouter.Regex.Escape

/-!
# Bracket classes

A class is a list of members between brackets: characters, escapes and ranges. A closing bracket
right at the start is a member, and so is a hyphen before the closing bracket. A class with a single
character is the test for that character.
-/

namespace PathRouter.Regex
set_option autoImplicit false

/-- One character or escape inside a class, with the token that it was read from. `place` is what is
left from the opening bracket on. -/
def readMember (place : Nat) : Text → Except Fault (Text × Member × Text)
  | [] => fault .unterminatedSet place
  | '\\' :: c :: rest => do
    settle rest
    let (member, rest) ← readClassEscape c rest
    return (['\\', c], member, rest)
  | c :: rest => do
    settle rest
    return ([c], .single c.toNat, rest)

/-- The range between two members, which must be single characters in order. -/
def rangeOf (low high : Text) (a b : Member) (rest : Text) : Except Fault Member :=
  match a, b with
  | .single lo, .single hi =>
    if hi < lo then fault (.badRange low high) (rest.length + low.length + 1 + high.length)
    else .ok (.range lo hi)
  | _, _ => fault (.badRange low high) (rest.length + low.length + 1 + high.length)

/-- What follows a member and a hyphen: the end of the class, or the other end of a range. -/
def readRange (place : Nat) (low : Text) (member : Member) :
    Text → Except Fault (List Member × Bool × Text)
  | ']' :: rest => do
    settle rest
    return ([member, .single 45], true, rest)
  | rest => do
    let (high, other, rest) ← readMember place rest
    return ([← rangeOf low high member other rest], false, rest)

/-- The next item of a class: its members, whether it ends the class, and the rest. -/
def readItem (place : Nat) (first : Bool) (s : Text) :
    Except Fault (List Member × Bool × Text) :=
  match first, s with
  | false, ']' :: rest => do
    settle rest
    return ([], true, rest)
  | _, s => do
    let (low, member, rest) ← readMember place s
    match rest with
    | '-' :: rest => do
      settle rest
      readRange place low member rest
    | rest => return ([member], false, rest)

theorem readMember_length {place : Nat} {s t rest : Text} {m : Member}
    (h : readMember place s = .ok (t, m, rest)) : rest.length < s.length := by
  unfold readMember at h
  split at h
  · simp at h
  · simp only [bind_eq_ok_iff, pure_eq_ok_iff, Prod.mk.injEq] at h
    obtain ⟨_, _, ⟨m', r⟩, hr, _, _, rfl⟩ := h
    have : r.length ≤ _ := readClassEscape_length hr
    simp only [List.length_cons]
    omega
  · simp only [bind_eq_ok_iff, pure_eq_ok_iff, Prod.mk.injEq] at h
    obtain ⟨_, _, _, _, rfl⟩ := h
    simp

theorem readRange_length {place : Nat} {low s rest : Text} {m : Member} {ms : List Member}
    {last : Bool} (h : readRange place low m s = .ok (ms, last, rest)) :
    rest.length ≤ s.length := by
  unfold readRange at h
  split at h
  · simp only [bind_eq_ok_iff, pure_eq_ok_iff, Prod.mk.injEq] at h
    obtain ⟨_, _, _, _, rfl⟩ := h
    simp
  · simp only [bind_eq_ok_iff, pure_eq_ok_iff, Prod.mk.injEq] at h
    obtain ⟨⟨t, m', r⟩, hr, _, _, _, _, rfl⟩ := h
    exact Nat.le_of_lt (readMember_length hr)

theorem readItem_length {place : Nat} {first last : Bool} {s rest : Text} {ms : List Member}
    (h : readItem place first s = .ok (ms, last, rest)) : rest.length < s.length := by
  unfold readItem at h
  split at h
  · simp only [bind_eq_ok_iff, pure_eq_ok_iff, Prod.mk.injEq] at h
    obtain ⟨_, _, _, _, rfl⟩ := h
    simp
  · simp only [bind_eq_ok_iff] at h
    obtain ⟨⟨t, m, r⟩, hr, h⟩ := h
    have hr := readMember_length hr
    split at h
    · simp only [bind_eq_ok_iff] at h
      obtain ⟨_, _, h⟩ := h
      have := readRange_length h
      simp_all only [List.length_cons]
      omega
    · simp only [pure_eq_ok_iff, Prod.mk.injEq] at h
      obtain ⟨_, _, rfl⟩ := h
      exact hr

/-- The members of a class after `done`, up to and with its closing bracket. -/
def readMembers (place : Nat) (done : List Member) (s : Text) :
    Except Fault (List Member × Text) :=
  match _h : readItem place done.isEmpty s with
  | .error e => .error e
  | .ok (ms, true, rest) => .ok (done ++ ms, rest)
  | .ok (ms, false, rest) => readMembers place (done ++ ms) rest
termination_by s.length
decreasing_by exact readItem_length _h

theorem readMembers_length {place : Nat} {done ms : List Member} {s rest : Text}
    (h : readMembers place done s = .ok (ms, rest)) : rest.length < s.length := by
  fun_induction readMembers place done s with
  | case1 => simp at h
  | case2 done s ms' r hr =>
    simp only [Except.ok.injEq, Prod.mk.injEq] at h
    obtain ⟨_, rfl⟩ := h
    exact readItem_length hr
  | case3 done s ms' r hr ih => exact Nat.lt_trans (ih h) (readItem_length hr)

/-- The test of a class: a class with one character is a test for that character, and members that
repeat an earlier one are dropped. -/
def classTest (negated : Bool) (members : List Member) : CharTest :=
  match members.eraseDups with
  | [.single c] => if negated then .notLiteral c else .literal c
  | ms => .set negated ms

/-- A class after its opening bracket. -/
def readClass (s : Text) : Except Fault (CharTest × Text) :=
  match s with
  | '^' :: rest => do
    settle rest
    let (members, rest) ← readMembers (s.length + 1) [] rest
    return (classTest true members, rest)
  | _ => do
    let (members, rest) ← readMembers (s.length + 1) [] s
    return (classTest false members, rest)

theorem readClass_length {s rest : Text} {t : CharTest} (h : readClass s = .ok (t, rest)) :
    rest.length < s.length := by
  unfold readClass at h
  split at h
  · simp only [bind_eq_ok_iff, pure_eq_ok_iff, Prod.mk.injEq] at h
    obtain ⟨_, _, ⟨ms, r⟩, hr, _, rfl⟩ := h
    have := readMembers_length hr
    simp only [List.length_cons]
    omega
  · simp only [bind_eq_ok_iff, pure_eq_ok_iff, Prod.mk.injEq] at h
    obtain ⟨⟨ms, r⟩, hr, _, rfl⟩ := h
    exact readMembers_length hr

end PathRouter.Regex

import PathRouter.CodePoint.Identifier
import PathRouter.Regex.Escape
import PathRouter.Text.Numeral

/-!
# Opening parentheses

What an opening parenthesis begins: a capturing group with or without a name, a group with flags, an
atomic group, a look around or a conditional. Three constructs are complete at their closing
parenthesis: a reference by name, a comment and global flags.
-/

namespace PathRouter.Regex
set_option autoImplicit false

/-- What an opening parenthesis begins. -/
inductive Opening
  /-- A capturing group. -/
  | capture (name : Option Text)
  /-- A group with flags turned on and off, possibly none. -/
  | scope (on off : List Flag)
  /-- A group that keeps its first match. -/
  | atomic
  /-- A look ahead or behind. -/
  | look (behind negated : Bool)
  /-- A conditional on a group; one given by number is checked at the end of the expression, and
  `place` says where it stands. -/
  | conditional (group : Nat) (place : Option Nat)
  /-- A reference by name. -/
  | reference (group : Nat)
  /-- A comment. -/
  | comment
  /-- Flags for the whole expression. -/
  | globals (on : List Flag)
  deriving DecidableEq

/-- A letter of any script. -/
def isAnyLetter (c : Char) : Bool :=
  CodePoint.isAlphabetic c.toNat

/-- The complaint about something else where a flag may stand. -/
def flagComplaint (other : Complaint) (c : Char) : Complaint :=
  if isAnyLetter c then .unknownFlag else other

/-- The flags that are turned off, after those in `off`. -/
def readOff (on off : List Flag) : Text → Except Fault (Opening × Text)
  | [] => fault (if off = [] then .missingFlag else .missingColon) 0
  | '\\' :: _ :: rest => do
    settle rest
    fault (if off = [] then .missingFlag else .missingColon) (rest.length + 2)
  | c :: rest => do
    settle rest
    if c = ':' ∧ off ≠ [] then
      if .template ∈ off then fault .globalFlagOff (rest.length + 1)
      else if on.any (off.contains ·) then fault .flagOnAndOff (rest.length + 1)
      else return (.scope on off, rest)
    else match Flag.ofChar? c with
      | some f =>
        if f.isCharset then fault .charsetOff rest.length else readOff on (f :: off) rest
      | none =>
        fault (flagComplaint (if off = [] then .missingFlag else .missingColon) c)
          (rest.length + 1)

/-- The flags that are turned on, after those in `on`. -/
def readOn (on : List Flag) : Text → Except Fault (Opening × Text)
  | [] => fault .missingFlagEnd 0
  | '\\' :: _ :: rest => do
    settle rest
    fault .missingFlagEnd (rest.length + 2)
  | c :: rest => do
    settle rest
    if c = ')' then return (.globals on, rest)
    else if c = ':' then
      if .template ∈ on then fault .globalFlagOn (rest.length + 1)
      else return (.scope on [], rest)
    else if c = '-' then
      if .template ∈ on then fault .globalFlagOn (rest.length + 1) else readOff on [] rest
    else match Flag.ofChar? c with
      | some f =>
        if f = .locale then fault .localeFlag rest.length
        else if f.isCharset && on.any fun g => g.isCharset && g != f then
          fault .charsetClash rest.length
        else readOn (f :: on) rest
      | none => fault (flagComplaint .missingFlagEnd c) (rest.length + 1)

/-- A comment up to and with its closing parenthesis. `place` is what is left from its opening
parenthesis on. -/
def readComment (place : Nat) : Text → Except Fault (Opening × Text)
  | [] => fault .unterminatedComment place
  | '\\' :: _ :: rest => do
    settle rest
    readComment place rest
  | c :: rest => do
    settle rest
    if c = ')' then return (.comment, rest) else readComment place rest

/-- A group name up to and with its terminator. -/
def readGroupName (terminator : Char) (s : Text) : Except Fault (Text × Text) := do
  let (name, rest) ← readUntil terminator "group name" [] s
  if CodePoint.isIdentifier (name.map Char.toNat) then return (name, rest)
  else fault (.badGroupName name) (rest.length + name.length + 1)

/-- A reference by name, after the equals sign. -/
def readReference (env : Surroundings) (s : Text) : Except Fault (Opening × Text) := do
  let (name, rest) ← readGroupName ')' s
  let place := rest.length + name.length + 1
  match env.groups.ofName? name with
  | none => fault (.unknownGroup name) place
  | some g =>
    if (env.groups.width? g).isNone then fault .openGroup place
    else do
      env.checkBehind g rest.length
      return (.reference g, rest)

/-- The largest number of groups. -/
def maxGroups : Nat := 1073741823

/-- The group of a conditional that is not a name. -/
def conditionalGroup (name : Text) (place : Nat) : Except Fault Nat :=
  match Text.integer? name with
  | some (.ofNat g) =>
    if g = 0 then fault .groupZero place
    else if maxGroups ≤ g then fault (.invalidGroup g) place
    else .ok g
  | _ => fault (.badGroupName name) place

/-- A conditional, after its second parenthesis. -/
def readConditional (env : Surroundings) (s : Text) : Except Fault (Opening × Text) := do
  let (name, rest) ← readUntil ')' "group name" [] s
  let place := rest.length + name.length + 1
  if CodePoint.isIdentifier (name.map Char.toNat) then
    match env.groups.ofName? name with
    | none => fault (.unknownGroup name) place
    | some g => do
      env.checkBehind g rest.length
      return (.conditional g none, rest)
  else do
    let g ← conditionalGroup name place
    env.checkBehind g rest.length
    return (.conditional g (some place), rest)

/-- A construct with a name, after the letter `P`. -/
def readNamedConstruct (env : Surroundings) : Text → Except Fault (Opening × Text)
  | '<' :: rest => do
    settle rest
    let (name, rest) ← readGroupName '>' rest
    return (.capture (some name), rest)
  | '=' :: rest => do
    settle rest
    readReference env rest
  | s => do
    let (token, rest) ← readToken s
    if token = [] then fault .unexpectedEnd 0
    else fault (.unknownExtension ('P' :: token)) (rest.length + token.length + 2)

/-- A look behind, after the angle bracket. -/
def readBehind : Text → Except Fault (Opening × Text)
  | '=' :: rest => do
    settle rest
    return (.look true false, rest)
  | '!' :: rest => do
    settle rest
    return (.look true true, rest)
  | s => do
    let (token, rest) ← readToken s
    if token = [] then fault .unexpectedEnd 0
    else fault (.unknownExtension ('<' :: token)) (rest.length + token.length + 2)

/-- An extension, after the question mark. `place` is what is left from the opening parenthesis
on. -/
def readExtension (env : Surroundings) (place : Nat) (s : Text) :
    Except Fault (Opening × Text) := do
  let (token, rest) ← readToken s
  match token with
  | [] => fault .unexpectedEnd 0
  | ['P'] => readNamedConstruct env rest
  | [':'] => return (.scope [] [], rest)
  | ['#'] => readComment place rest
  | ['='] => return (.look false false, rest)
  | ['!'] => return (.look false true, rest)
  | ['<'] => readBehind rest
  | ['('] => readConditional env rest
  | ['>'] => return (.atomic, rest)
  | _ =>
    if isFlagStart token then readOn [] s
    else fault (.unknownExtension token) (rest.length + token.length + 1)
where
  /-- The token begins a group of flags. -/
  isFlagStart : Text → Bool
    | [c] => c == '-' || (Flag.ofChar? c).isSome
    | _ => false

/-- What the parenthesis before `s` begins. -/
def readOpening (env : Surroundings) : Text → Except Fault (Opening × Text)
  | '?' :: rest => do
    settle rest
    readExtension env (rest.length + 2) rest
  | s => .ok (.capture none, s)

/-! ## No reader lengthens the rest -/

theorem readOff_length {on off : List Flag} {s rest : Text} {o : Opening}
    (h : readOff on off s = .ok (o, rest)) : rest.length ≤ s.length := by
  fun_induction readOff on off s with
  | case1 => simp at h
  | case2 => simp [bind_eq_ok_iff] at h
  | case3 off c s _ ih =>
    simp only [bind_eq_ok_iff] at h
    obtain ⟨_, _, h⟩ := h
    split at h
    · repeat' split at h
      · simp at h
      · simp at h
      · simp only [pure_eq_ok_iff, Prod.mk.injEq] at h
        obtain ⟨_, rfl⟩ := h
        simp
    · cases hf : Flag.ofChar? c with
      | none => simp [hf] at h
      | some f =>
        simp only [hf] at h
        split at h
        · simp at h
        · have := ih _ h
          simp only [List.length_cons]
          omega

theorem readOn_length {on : List Flag} {s rest : Text} {o : Opening}
    (h : readOn on s = .ok (o, rest)) : rest.length ≤ s.length := by
  fun_induction readOn on s with
  | case1 => simp at h
  | case2 => simp [bind_eq_ok_iff] at h
  | case3 on c s _ ih =>
    simp only [bind_eq_ok_iff] at h
    obtain ⟨_, _, h⟩ := h
    split at h
    · simp only [pure_eq_ok_iff, Prod.mk.injEq] at h
      obtain ⟨_, rfl⟩ := h
      simp
    · split at h
      · split at h
        · simp at h
        · simp only [pure_eq_ok_iff, Prod.mk.injEq] at h
          obtain ⟨_, rfl⟩ := h
          simp
      · split at h
        · split at h
          · simp at h
          · exact Nat.le_succ_of_le (readOff_length h)
        · cases hf : Flag.ofChar? c with
          | none => simp [hf] at h
          | some f =>
            simp only [hf] at h
            repeat' split at h
            · simp at h
            · simp at h
            · exact Nat.le_succ_of_le (ih _ h)

theorem readComment_length {place : Nat} {s rest : Text} {o : Opening}
    (h : readComment place s = .ok (o, rest)) : rest.length ≤ s.length := by
  fun_induction readComment place s with
  | case1 => simp at h
  | case2 _ s ih =>
    simp only [bind_eq_ok_iff] at h
    obtain ⟨_, _, h⟩ := h
    have := ih h
    simp only [List.length_cons]
    omega
  | case3 c s _ ih =>
    simp only [bind_eq_ok_iff] at h
    obtain ⟨_, _, h⟩ := h
    split at h
    · simp only [pure_eq_ok_iff, Prod.mk.injEq] at h
      obtain ⟨_, rfl⟩ := h
      simp
    · have := ih h
      simp only [List.length_cons]
      omega

theorem readGroupName_length {t : Char} {s name rest : Text}
    (h : readGroupName t s = .ok (name, rest)) : rest.length ≤ s.length := by
  simp only [readGroupName, bind_eq_ok_iff] at h
  obtain ⟨⟨n, r⟩, hr, h⟩ := h
  have hr : r.length < s.length := readUntil_length hr
  split at h
  · simp only [pure_eq_ok_iff, Prod.mk.injEq] at h
    obtain ⟨_, rfl⟩ := h
    omega
  · simp at h

theorem readReference_length {env : Surroundings} {s rest : Text} {o : Opening}
    (h : readReference env s = .ok (o, rest)) : rest.length ≤ s.length := by
  simp only [readReference, bind_eq_ok_iff] at h
  obtain ⟨⟨n, r⟩, hr, h⟩ := h
  have hr : r.length ≤ s.length := readGroupName_length hr
  split at h
  · simp at h
  · split at h
    · simp at h
    · simp only [bind_eq_ok_iff, pure_eq_ok_iff, Prod.mk.injEq] at h
      obtain ⟨_, _, _, rfl⟩ := h
      exact hr

theorem readConditional_length {env : Surroundings} {s rest : Text} {o : Opening}
    (h : readConditional env s = .ok (o, rest)) : rest.length ≤ s.length := by
  simp only [readConditional, bind_eq_ok_iff] at h
  obtain ⟨⟨n, r⟩, hr, h⟩ := h
  have hr : r.length < s.length := readUntil_length hr
  split at h
  · split at h
    · simp at h
    · simp only [bind_eq_ok_iff, pure_eq_ok_iff, Prod.mk.injEq] at h
      obtain ⟨_, _, _, rfl⟩ := h
      omega
  · simp only [bind_eq_ok_iff, pure_eq_ok_iff, Prod.mk.injEq] at h
    obtain ⟨_, _, _, _, _, rfl⟩ := h
    omega

theorem readNamedConstruct_length {env : Surroundings} {s rest : Text} {o : Opening}
    (h : readNamedConstruct env s = .ok (o, rest)) : rest.length ≤ s.length := by
  unfold readNamedConstruct at h
  split at h
  · simp only [bind_eq_ok_iff, pure_eq_ok_iff, Prod.mk.injEq] at h
    obtain ⟨_, _, ⟨n, r⟩, hr, _, rfl⟩ := h
    exact Nat.le_succ_of_le (readGroupName_length hr)
  · simp only [bind_eq_ok_iff] at h
    obtain ⟨_, _, h⟩ := h
    exact Nat.le_succ_of_le (readReference_length h)
  · simp only [bind_eq_ok_iff] at h
    obtain ⟨⟨t, r⟩, _, h⟩ := h
    split at h <;> simp at h

theorem readBehind_length {s rest : Text} {o : Opening} (h : readBehind s = .ok (o, rest)) :
    rest.length ≤ s.length := by
  unfold readBehind at h
  split at h
  · simp only [bind_eq_ok_iff, pure_eq_ok_iff, Prod.mk.injEq] at h
    obtain ⟨_, _, _, rfl⟩ := h
    simp
  · simp only [bind_eq_ok_iff, pure_eq_ok_iff, Prod.mk.injEq] at h
    obtain ⟨_, _, _, rfl⟩ := h
    simp
  · simp only [bind_eq_ok_iff] at h
    obtain ⟨⟨t, r⟩, _, h⟩ := h
    split at h <;> simp at h

theorem readExtension_length {env : Surroundings} {place : Nat} {s rest : Text} {o : Opening}
    (h : readExtension env place s = .ok (o, rest)) : rest.length ≤ s.length := by
  simp only [readExtension, bind_eq_ok_iff] at h
  obtain ⟨⟨t, r⟩, hr, h⟩ := h
  have hr : r.length ≤ s.length := (readToken_length hr).1
  split at h
  · simp at h
  · exact Nat.le_trans (readNamedConstruct_length h) hr
  · simp_all [pure_eq_ok_iff]
  · exact Nat.le_trans (readComment_length h) hr
  · simp_all [pure_eq_ok_iff]
  · simp_all [pure_eq_ok_iff]
  · exact Nat.le_trans (readBehind_length h) hr
  · exact Nat.le_trans (readConditional_length h) hr
  · simp_all [pure_eq_ok_iff]
  · split at h
    · exact readOn_length h
    · simp at h

theorem readOpening_length {env : Surroundings} {s rest : Text} {o : Opening}
    (h : readOpening env s = .ok (o, rest)) : rest.length ≤ s.length := by
  unfold readOpening at h
  split at h
  · simp only [bind_eq_ok_iff] at h
    obtain ⟨_, _, h⟩ := h
    exact Nat.le_succ_of_le (readExtension_length h)
  · simp_all

end PathRouter.Regex

import PathRouter.Pattern.Error

/-!
# Keeping slashes out of a span

An expression that mentions no slash is narrowed so that what it matches has none. A dot becomes
a class without the slash, and so do the capital shorthands. A negated class is given the slash as
a member; before any other class a look ahead refuses the slash, since a range may contain it. All
else stays as it is.
-/

namespace PathRouter.Confine
set_option autoImplicit false

/-- The class that replaces an escape. -/
def shorthand? : Char → Option Text
  | 'S' => some ['[', '^', '\\', 's', '/', ']']
  | 'W' => some ['[', '^', '\\', 'w', '/', ']']
  | 'D' => some ['[', '^', '\\', 'd', '/', ']']
  | _ => none

/-- What an escape becomes. -/
def escape (c : Char) : Text :=
  (shorthand? c).getD ['\\', c]

/-- What a dot becomes. -/
def dot : Text := ['[', '^', '/', ']']

/-- What a class becomes. -/
def bracketed (body : Text) : Text :=
  if body.head? = some '^' then '[' :: body ++ ['/', ']']
  else ['(', '?', ':', '(', '?', '!', '/', ')', '['] ++ body ++ [']', ')']

/-- The body of a class up to its closing bracket, and what follows that. -/
def splitMembers : Text → Option (Text × Text)
  | [] => none
  | '\\' :: rest =>
    match rest with
    | [] => none
    | c :: rest => (splitMembers rest).map fun (body, after) => ('\\' :: c :: body, after)
  | c :: rest =>
    if c = ']' then some ([], rest)
    else (splitMembers rest).map fun (body, after) => (c :: body, after)

/-- The same at the start of a class or after its caret, where a closing bracket is a member. -/
def splitFirst : Text → Option (Text × Text)
  | ']' :: rest => (splitMembers rest).map fun (body, after) => (']' :: body, after)
  | rest => splitMembers rest

/-- The body of a class after its opening bracket, and what follows its closing one. -/
def splitClass : Text → Option (Text × Text)
  | '^' :: rest => (splitFirst rest).map fun (body, after) => ('^' :: body, after)
  | rest => splitFirst rest

theorem splitMembers_length {s body after : Text} (h : splitMembers s = some (body, after)) :
    after.length < s.length := by
  fun_induction splitMembers s generalizing body after with
  | case1 => simp at h
  | case2 => simp at h
  | case3 c s ih =>
    simp only [Option.map_eq_some_iff, Prod.mk.injEq] at h
    obtain ⟨⟨b, a⟩, hb, _, rfl⟩ := h
    have := ih hb
    simp only [List.length_cons]
    omega
  | case4 s _ =>
    simp only [Option.some.injEq, Prod.mk.injEq] at h
    obtain ⟨_, rfl⟩ := h
    simp
  | case5 c s _ _ ih =>
    simp only [Option.map_eq_some_iff, Prod.mk.injEq] at h
    obtain ⟨⟨b, a⟩, hb, _, rfl⟩ := h
    have := ih hb
    simp only [List.length_cons]
    omega

theorem splitFirst_length {s body after : Text} (h : splitFirst s = some (body, after)) :
    after.length < s.length := by
  unfold splitFirst at h
  split at h
  · simp only [Option.map_eq_some_iff, Prod.mk.injEq] at h
    obtain ⟨⟨b, a⟩, hb, _, rfl⟩ := h
    exact Nat.lt_succ_of_lt (splitMembers_length hb)
  · exact splitMembers_length h

theorem splitClass_length {s body after : Text} (h : splitClass s = some (body, after)) :
    after.length < s.length := by
  unfold splitClass at h
  split at h
  · simp only [Option.map_eq_some_iff, Prod.mk.injEq] at h
    obtain ⟨⟨b, a⟩, hb, _, rfl⟩ := h
    exact Nat.lt_succ_of_lt (splitFirst_length hb)
  · exact splitFirst_length h

end Confine

/-- The narrowed expression, unless a class of it does not end. -/
def confine (s : Text) : Option Text :=
  match s with
  | [] => some []
  | '\\' :: rest =>
    match rest with
    | [] => some ['\\']
    | c :: rest => (confine rest).map (Confine.escape c ++ ·)
  | c :: rest =>
    if c = '.' then (confine rest).map (Confine.dot ++ ·)
    else if c = '[' then
      match _h : Confine.splitClass rest with
      | none => none
      | some (body, after) => (confine after).map (Confine.bracketed body ++ ·)
    else (confine rest).map (c :: ·)
termination_by s.length
decreasing_by
  · simp only [List.length_cons]
    omega
  · simp
  · have := Confine.splitClass_length _h
    simp
    omega
  · simp

end PathRouter

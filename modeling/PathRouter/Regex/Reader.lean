import PathRouter.Regex.BracketClass
import PathRouter.Regex.Opening
import PathRouter.Regex.Quantifier

/-!
# Reading a whole expression

The reader walks over the expression construct by construct. The groups that are open form a stack
of frames; a frame holds the alternatives of its group that are finished and the parts of the
current one. At a closing parenthesis the innermost frame becomes a part of the frame below it.
`step` takes one construct and always shortens the rest, so `readConstructs` ends.
-/

namespace PathRouter.Regex
set_option autoImplicit false

/-- What an open group becomes when it is closed. -/
inductive GroupKind
  | whole
  | capture (index : Nat)
  | scope (on off : List Flag)
  | atomic
  | lookahead (negated : Bool)
  /-- `outermost` says that no look behind surrounds this one. -/
  | lookbehind (negated outermost : Bool)
  | conditional (group : Nat)
  deriving DecidableEq

/-- An open group. -/
structure Frame where
  kind : GroupKind
  /-- What is left from the opening parenthesis on. -/
  place : Nat
  /-- Blanks and line comments are skipped. -/
  verbose : Bool
  /-- The alternatives that are finished, latest first. -/
  finished : List Node
  /-- The parts of the current alternative, latest first. -/
  parts : List Node

namespace Frame

/-- A group that has just been opened. -/
def start (kind : GroupKind) (place : Nat) (verbose : Bool) : Frame :=
  ⟨kind, place, verbose, [], []⟩

/-- The current alternative. -/
def current (f : Frame) : Node :=
  .ofList f.parts.reverse

/-- The tree of what the group holds. -/
def body (f : Frame) : Node :=
  .ofAlternatives (f.current :: f.finished).reverse

end Frame

/-- How far an expression has been read. -/
structure Progress where
  /-- The innermost open group. -/
  frame : Frame
  /-- The groups around it, innermost first. -/
  outer : List Frame
  groups : Groups
  /-- The flags set for the whole expression. -/
  flags : List Flag
  /-- Inside a look behind, the number that the first group opened inside it gets. -/
  behind : Option Nat
  /-- The groups that conditionals ask for by number, each with the place of the first. -/
  asked : List (Nat × Nat)

namespace Progress

/-- Nothing has been read of an expression of the given length. -/
def start (length : Nat) : Progress :=
  ⟨.start .whole length false, [], .none, [], none, []⟩

/-- What escapes and parentheses need to know. -/
def surroundings (p : Progress) : Surroundings :=
  ⟨p.groups, p.behind⟩

/-- Adds a part to the current alternative. -/
def add (p : Progress) (n : Node) : Progress :=
  { p with frame := { p.frame with parts := n :: p.frame.parts } }

/-- Opens a group. -/
def enter (p : Progress) (kind : GroupKind) (place : Nat) (verbose : Bool) : Progress :=
  { p with frame := .start kind place verbose, outer := p.frame :: p.outer }

/-- Goes on with what an opening parenthesis began; `rest` is what follows and `place` what is left
from the parenthesis on. -/
def begin (p : Progress) (place : Nat) (rest : Text) : Opening → Except Fault Progress
  | .capture name => do
    match name.bind fun n => (p.groups.ofName? n).map (n, ·) with
    | some (n, old) =>
      fault (.redefinedGroup n p.groups.next old) (rest.length + n.length + 1)
    | none =>
      let q := p.enter (.capture p.groups.next) place p.frame.verbose
      return { q with groups := p.groups.opened name }
  | .scope on off =>
    return p.enter (.scope on off) place
      ((p.frame.verbose || on.contains .verbose) && !off.contains .verbose)
  | .atomic => return p.enter .atomic place p.frame.verbose
  | .look false negated => return p.enter (.lookahead negated) place p.frame.verbose
  | .look true negated =>
    let q := p.enter (.lookbehind negated p.behind.isNone) place p.frame.verbose
    return { q with behind := some (p.behind.getD p.groups.next) }
  | .conditional group asked =>
    let q := p.enter (.conditional group) place p.frame.verbose
    match asked with
    | some first =>
      if p.asked.any fun e => e.1 == group then return q
      else return { q with asked := p.asked ++ [(group, first)] }
    | none => return q
  | .reference group => return p.add (.backreference group)
  | .comment => return p
  | .globals on =>
    if p.outer.isEmpty && p.frame.finished.isEmpty && p.frame.parts.isEmpty then
      let flags := on ++ p.flags
      return { p with flags := flags, frame := { p.frame with verbose := flags.contains .verbose } }
    else fault .lateGlobalFlags place

/-- Ends the current alternative; `left` is what is left from the bar on. A conditional has two. -/
def nextAlternative (p : Progress) (left : Nat) : Except Fault Progress :=
  match p.frame.kind, p.frame.finished with
  | .conditional _, _ :: _ => fault .tooManyBranches left
  | _, _ =>
    .ok { p with frame := { p.frame with
      finished := p.frame.current :: p.frame.finished, parts := [] } }

/-- The tree that the innermost group becomes, and the groups with it closed. -/
def closing (p : Progress) : Node × Groups :=
  let body := p.frame.body
  match p.frame.kind with
  | .whole => (body, p.groups)
  | .capture i => (.group i body, p.groups.closed i (body.width p.groups.widthOf))
  | .scope on off => (.flagged on off body, p.groups)
  | .atomic => (.atomic body, p.groups)
  | .lookahead negated => (.look none negated body, p.groups)
  | .lookbehind negated _ => (.look (some (body.width p.groups.widthOf)) negated body, p.groups)
  | .conditional g =>
    match p.frame.finished with
    | [] => (.conditional g p.frame.current .empty, p.groups)
    | yes :: _ => (.conditional g yes p.frame.current, p.groups)

/-- Closes the innermost group, inside `frame` and the groups `outer` around that. -/
def leave (p : Progress) (frame : Frame) (outer : List Frame) : Progress :=
  let (tree, groups) := p.closing
  { p with
    frame := { frame with parts := tree :: frame.parts }, outer := outer, groups := groups,
    behind := if p.frame.kind matches .lookbehind _ true then none else p.behind }

/-- Quantifies the latest part; `place` is what is left from the quantifier on and `rest` what
follows its bounds. -/
def quantify (p : Progress) (bounds : Bounds) (place : Nat) (rest : Text) :
    Except Fault (Progress × Text) :=
  match p.frame.parts with
  | [] | .anchor _ :: _ => fault .nothingToRepeat place
  | .quantified _ _ _ _ :: _ => fault .multipleRepeat place
  | part :: parts => do
    let (mode, rest) ← readMode rest
    let repeated := Node.quantified mode bounds.least bounds.most part
    return ({ p with frame := { p.frame with parts := repeated :: parts } }, rest)

end Progress

/-- A line comment up to and with the end of its line. -/
def readLine : Text → Except Fault Text
  | [] => .ok []
  | '\\' :: _ :: rest => do
    settle rest
    readLine rest
  | c :: rest => do
    settle rest
    if c = '\n' then return rest else readLine rest

/-- A special character, other than those that end an alternative, that has just been stepped
over. -/
def stepSpecial (p : Progress) (c : Char) (rest : Text) : Except Fault (Progress × Text) :=
  if c = '[' then do
    let (test, rest) ← readClass rest
    return (p.add (.char test), rest)
  else if isQuantifierStart c then do
    let (bounds, after) ← readBounds c rest
    match bounds with
    | some b => p.quantify b (rest.length + 1) after
    | none => return (p.add (.ofCode c.toNat), after)
  else if c = '.' then return (p.add (.char .any), rest)
  else if c = '(' then do
    let (opening, after) ← readOpening p.surroundings rest
    return (← p.begin (rest.length + 1) after opening, after)
  else if c = '^' then return (p.add (.anchor .lineStart), rest)
  else if c = '$' then return (p.add (.anchor .lineEnd), rest)
  else return (p.add (.ofCode c.toNat), rest)

/-- One construct that begins with `c`, which is not an escape. -/
def stepChar (p : Progress) (c : Char) (rest : Text) : Except Fault (Progress × Text) :=
  if c = '|' then do
    let p ← p.nextAlternative (rest.length + 1)
    settle rest
    return (p, rest)
  else match c, p.outer with
    | ')', frame :: outer => do
      settle rest
      return (p.leave frame outer, rest)
    | _, _ => do
      settle rest
      if p.frame.verbose && CodePoint.isAsciiBlank c.toNat then return (p, rest)
      else if p.frame.verbose && c == '#' then return (p, ← readLine rest)
      else stepSpecial p c rest

/-- One construct. -/
def step (p : Progress) : Text → Except Fault (Progress × Text)
  | [] => .ok (p, [])
  | '\\' :: c :: rest => do
    settle rest
    let (n, rest) ← readEscape p.surroundings c rest
    return (p.add n, rest)
  | c :: rest => stepChar p c rest

/-! ## Every construct shortens the rest -/

theorem readLine_length {s rest : Text} (h : readLine s = .ok rest) : rest.length ≤ s.length := by
  fun_induction readLine s with
  | case1 => simp_all
  | case2 _ s ih =>
    simp only [bind_eq_ok_iff] at h
    obtain ⟨_, _, h⟩ := h
    have := ih h
    simp only [List.length_cons]
    omega
  | case3 c s _ ih =>
    simp only [bind_eq_ok_iff] at h
    obtain ⟨_, _, h⟩ := h
    split at h
    · simp only [pure_eq_ok_iff] at h
      simp [h]
    · exact Nat.le_succ_of_le (ih h)

theorem Progress.quantify_length {p q : Progress} {b : Bounds} {place : Nat} {s rest : Text}
    (h : p.quantify b place s = .ok (q, rest)) : rest.length ≤ s.length := by
  unfold Progress.quantify at h
  split at h
  · simp at h
  · simp at h
  · simp at h
  · simp only [bind_eq_ok_iff, pure_eq_ok_iff, Prod.mk.injEq] at h
    obtain ⟨⟨m, r⟩, hr, _, rfl⟩ := h
    exact readMode_length hr

theorem stepSpecial_length {p q : Progress} {c : Char} {s rest : Text}
    (h : stepSpecial p c s = .ok (q, rest)) : rest.length ≤ s.length := by
  unfold stepSpecial at h
  split at h
  · simp only [bind_eq_ok_iff, pure_eq_ok_iff, Prod.mk.injEq] at h
    obtain ⟨⟨t, r⟩, hr, _, rfl⟩ := h
    exact Nat.le_of_lt (readClass_length hr)
  · split at h
    · simp only [bind_eq_ok_iff] at h
      obtain ⟨⟨b, r⟩, hr, h⟩ := h
      have hr : r.length ≤ s.length := readBounds_length hr
      split at h
      · exact Nat.le_trans (Progress.quantify_length h) hr
      · simp only [pure_eq_ok_iff, Prod.mk.injEq] at h
        obtain ⟨_, rfl⟩ := h
        exact hr
    · split at h
      · simp_all [pure_eq_ok_iff]
      · split at h
        · simp only [bind_eq_ok_iff, pure_eq_ok_iff, Prod.mk.injEq] at h
          obtain ⟨⟨o, r⟩, hr, _, _, _, rfl⟩ := h
          exact readOpening_length hr
        · repeat' split at h
          all_goals simp_all [pure_eq_ok_iff]

theorem stepChar_length {p q : Progress} {c : Char} {s rest : Text}
    (h : stepChar p c s = .ok (q, rest)) : rest.length ≤ s.length := by
  unfold stepChar at h
  split at h
  · simp only [bind_eq_ok_iff, pure_eq_ok_iff, Prod.mk.injEq] at h
    obtain ⟨_, _, _, _, _, rfl⟩ := h
    exact Nat.le_refl _
  · split at h
    · simp only [bind_eq_ok_iff, pure_eq_ok_iff, Prod.mk.injEq] at h
      obtain ⟨_, _, _, rfl⟩ := h
      exact Nat.le_refl _
    · simp only [bind_eq_ok_iff] at h
      obtain ⟨_, _, h⟩ := h
      split at h
      · simp_all [pure_eq_ok_iff]
      · split at h
        · simp only [bind_eq_ok_iff, pure_eq_ok_iff, Prod.mk.injEq] at h
          obtain ⟨r, hr, _, rfl⟩ := h
          exact readLine_length hr
        · exact stepSpecial_length h

theorem step_length {p q : Progress} {c : Char} {s rest : Text}
    (h : step p (c :: s) = .ok (q, rest)) : rest.length ≤ s.length := by
  unfold step at h
  split at h
  · simp_all
  · rename_i heq
    obtain ⟨rfl, rfl⟩ := List.cons.inj heq
    simp only [bind_eq_ok_iff, pure_eq_ok_iff, Prod.mk.injEq] at h
    obtain ⟨_, _, ⟨n, r⟩, hr, _, rfl⟩ := h
    exact Nat.le_succ_of_le (readEscape_length hr)
  · rename_i heq
    obtain ⟨rfl, rfl⟩ := List.cons.inj heq
    exact stepChar_length h

/-! ## Whole expressions -/

/-- Reads constructs until the expression ends or a parenthesis closes no group. -/
def readConstructs (p : Progress) (s : Text) : Except Fault (Progress × Text) :=
  match s with
  | [] => .ok (p, [])
  | c :: s =>
    if c = ')' ∧ p.outer = [] then .ok (p, c :: s)
    else match _h : step p (c :: s) with
      | .error e => .error e
      | .ok (q, rest) => readConstructs q rest
termination_by s.length
decreasing_by exact Nat.lt_succ_of_le (step_length _h)

/-- The conditions on an expression that has been read; `rest` is what could not be. -/
def Progress.checkEnd (p : Progress) (rest : Text) : Except Fault Unit :=
  if p.outer ≠ [] then fault .unterminatedGroup p.frame.place
  else if p.flags.contains .ascii && p.flags.contains .unicode then .error .charsetConflict
  else if rest ≠ [] then fault .unbalancedParenthesis rest.length
  else match p.asked.find? fun e => decide (p.groups.next ≤ e.1) with
    | some (group, place) => fault (.invalidGroup group) place
    | none => .ok ()

/-- An expression that has been read: its tree, its width, its groups and its flags. -/
structure Expression where
  /-- The tree of the text as it stands. -/
  tree : Node
  width : Width
  groups : Nat
  names : List (Text × Nat)
  flags : List Flag
  deriving DecidableEq

/-- The expression that a text spells, as far as its syntax goes. -/
def readExpression (text : Text) : Except Fault Expression := do
  settle text
  let (p, rest) ← readConstructs (.start text.length) text
  p.checkEnd rest
  let tree := p.frame.body
  return ⟨tree, tree.width p.groups.widthOf, p.groups.widths.length, p.groups.names, p.flags⟩

end PathRouter.Regex

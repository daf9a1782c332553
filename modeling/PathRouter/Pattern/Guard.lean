import PathRouter.Pattern.Error
import PathRouter.Regex.Expression

/-!
# The guard of inline expressions

Only expressions that are matched in linear time may stand in a pattern. Refused are references,
look arounds, conditionals, named groups, and a group that is repeated while it holds an unbounded
quantifier or an alternation. The guard scans the text of the expression from left to right with
one pair of marks per open group. It knows escapes, bracket classes, group openings and
quantifiers, and nothing else of the grammar.
-/

namespace PathRouter
set_option autoImplicit false

/-- How often a quantifier repeats what is before it. -/
inductive Repetition
  /-- No more than once. -/
  | optional
  /-- More than once, up to a bound. -/
  | bounded
  /-- As often as possible. -/
  | unbounded
  deriving DecidableEq

namespace Repetition

/-- More than once is possible. -/
def isRepeated : Repetition → Bool
  | optional => false
  | bounded | unbounded => true

end Repetition

namespace Guard

/-- The characters of the leading decimal digits of any script, and the rest. -/
def spanDigits (s : Text) : Text × Text :=
  (s.takeWhile fun c => CodePoint.isDecimal c.toNat,
    s.dropWhile fun c => CodePoint.isDecimal c.toNat)

/-- The value of decimal digits of any script, if there are not too many. -/
def countOf (digits : Text) : Except BuildFailure Nat :=
  if Text.maxDigits < digits.length then .error (.limit (.numeralTooLong digits.length))
  else .ok (digits.foldl (fun n c => n * 10 + (CodePoint.decimalValue? c.toNat).getD 0) 0)

/-- The repetition that a count gives. -/
def ofCount (n : Nat) : Repetition :=
  if 1 < n then .bounded else .optional

/-- The repetition that bounds in braces give, after the opening brace, with the rest. -/
def braces? (s : Text) : Except BuildFailure (Option (Repetition × Text)) :=
  let (low, afterLow) := spanDigits s
  match afterLow with
  | '\x7d' :: rest =>
    if low = [] then .ok none
    else do
      let n ← countOf low
      return some (ofCount n, rest)
  | ',' :: afterComma =>
    let (high, afterHigh) := spanDigits afterComma
    match afterHigh with
    | '\x7d' :: rest =>
      if high = [] then .ok (some (.unbounded, rest))
      else do
        let n ← countOf high
        return some (ofCount n, rest)
    | _ => .ok none
  | _ => .ok none

/-- The rest after the first character if that is one of `cs`. -/
def skipOne (cs : List Char) : Text → Text
  | [] => []
  | c :: rest => if c ∈ cs then rest else c :: rest

/-- The rest after a question mark or plus sign that qualifies a quantifier. -/
def dropSuffix (s : Text) : Text :=
  skipOne ['?', '+'] s

/-- The quantifier at the start, if there is one, with the rest. -/
def quantifier? : Text → Except BuildFailure (Option (Repetition × Text))
  | [] => .ok none
  | c :: rest =>
    if c = '*' ∨ c = '+' then .ok (some (.unbounded, dropSuffix rest))
    else if c = '?' then .ok (some (.optional, dropSuffix rest))
    else if c = '\x7b' then do
      let found ← braces? rest
      return found.map fun (r, rest) => (r, dropSuffix rest)
    else .ok none

/-- The construct that a group opening begins, after the parenthesis, if it is refused. -/
def refusedOpening? : Text → Option Rejection
  | '?' :: '=' :: _ | '?' :: '!' :: _ => some .lookaround
  | '?' :: '<' :: '=' :: _ | '?' :: '<' :: '!' :: _ => some .lookaround
  | '?' :: 'P' :: '=' :: _ => some .backreference
  | '?' :: 'P' :: '<' :: _ | '?' :: '<' :: _ => some .namedGroup
  | '?' :: '(' :: _ => some .conditional
  | _ => none

/-- What a group holds so far. -/
structure Marks where
  unbounded : Bool
  alternation : Bool
  deriving DecidableEq

/-- A group that holds nothing. -/
def Marks.clear : Marks := ⟨false, false⟩

/-- The marks of the group around a group with the marks `inner` under a quantifier. -/
def Marks.absorb (outer inner : Marks) (repetition : Option Repetition) : Marks :=
  ⟨outer.unbounded || inner.unbounded || repetition == some .unbounded,
    outer.alternation || inner.alternation⟩

/-- The fault of a group with the marks `inner` under a quantifier. -/
def Marks.fault? (inner : Marks) (repetition : Option Repetition) : Option Rejection :=
  if (repetition.map Repetition.isRepeated).getD false then
    if inner.unbounded then some .nestedUnbounded
    else if inner.alternation then some .repeatedAlternation
    else none
  else none

/-- The rest of a class after a caret and a closing bracket that may stand first in it. -/
def enterClass (s : Text) : Text :=
  skipOne [']'] (skipOne ['^'] s)

/-- Where a scan stands: the marks of the open groups, innermost first, and whether it is inside a
bracket class. -/
structure Scan where
  marks : Marks
  outer : List Marks
  inClass : Bool

/-- How a scan can end early. -/
inductive Stop
  | rejected (reason : Rejection)
  | failed (failure : BuildFailure)

/-- One construct of the scan, with the rest after it. -/
def step (scan : Scan) : Text → Except Stop (Scan × Text)
  | [] => .ok (scan, [])
  | '\\' :: rest =>
    match rest with
    | [] => .ok (scan, [])
    | c :: after =>
      if !scan.inClass && CodePoint.isDigit c.toNat && c != '0' then
        .error (.rejected .backreference)
      else .ok (scan, after)
  | c :: rest =>
    if scan.inClass then .ok ({ scan with inClass := c != ']' }, rest)
    else if c = '[' then .ok ({ scan with inClass := true }, enterClass rest)
    else if c = '|' then
      .ok ({ scan with marks := { scan.marks with alternation := true } }, rest)
    else if c = '(' then
      match refusedOpening? rest with
      | some reason => .error (.rejected reason)
      | none => .ok (⟨.clear, scan.marks :: scan.outer, false⟩, rest)
    else if c = ')' then
      match quantifier? rest with
      | .error failure => .error (.failed failure)
      | .ok found =>
        let repetition := found.map Prod.fst
        match scan.marks.fault? repetition, scan.outer with
        | some reason, _ => .error (.rejected reason)
        | none, [] => .error (.failed .closedTooOften)
        | none, parent :: outer =>
          .ok (⟨parent.absorb scan.marks repetition, outer, false⟩,
            (found.map Prod.snd).getD rest)
    else
      match quantifier? (c :: rest) with
      | .error failure => .error (.failed failure)
      | .ok none => .ok (scan, rest)
      | .ok (some (repetition, after)) =>
        .ok ({ scan with
          marks := { scan.marks with
            unbounded := scan.marks.unbounded || repetition == .unbounded } }, after)

/-! ## Every construct shortens the rest -/

theorem skipOne_length (cs : List Char) (s : Text) : (skipOne cs s).length ≤ s.length := by
  unfold skipOne
  split
  · simp
  · split <;> simp

theorem dropSuffix_length (s : Text) : (dropSuffix s).length ≤ s.length :=
  skipOne_length _ s

theorem spanDigits_length (s : Text) : (spanDigits s).2.length ≤ s.length := by
  unfold spanDigits
  exact (List.dropWhile_sublist _).length_le

theorem braces_length {s rest : Text} {r : Repetition} (h : braces? s = .ok (some (r, rest))) :
    rest.length < s.length := by
  have hs := spanDigits_length s
  unfold braces? at h
  simp only at h
  split at h
  · rename_i r' heq
    rw [heq] at hs
    split at h
    · simp at h
    · cases hc : countOf (spanDigits s).1 with
      | error e => simp [hc, bind, Except.bind] at h
      | ok n =>
        simp only [hc, bind, Except.bind, pure, Except.pure, Except.ok.injEq, Option.some.injEq,
          Prod.mk.injEq] at h
        obtain ⟨_, rfl⟩ := h
        simp at hs
        omega
  · rename_i r' heq
    rw [heq] at hs
    have ht := spanDigits_length r'
    split at h
    · rename_i r'' heq'
      rw [heq'] at ht
      split at h
      · simp only [Except.ok.injEq, Option.some.injEq, Prod.mk.injEq] at h
        obtain ⟨_, rfl⟩ := h
        simp at hs ht
        omega
      · cases hc : countOf (spanDigits r').1 with
        | error e => simp [hc, bind, Except.bind] at h
        | ok n =>
          simp only [hc, bind, Except.bind, pure, Except.pure, Except.ok.injEq,
            Option.some.injEq, Prod.mk.injEq] at h
          obtain ⟨_, rfl⟩ := h
          simp at hs ht
          omega
    · simp at h
  · simp at h

theorem quantifier_length {s rest : Text} {r : Repetition}
    (h : quantifier? s = .ok (some (r, rest))) : rest.length < s.length := by
  unfold quantifier? at h
  split at h
  · simp at h
  · rename_i c s
    have hd := dropSuffix_length s
    split at h
    · simp only [Except.ok.injEq, Option.some.injEq, Prod.mk.injEq] at h
      obtain ⟨_, rfl⟩ := h
      simp
      omega
    · split at h
      · simp only [Except.ok.injEq, Option.some.injEq, Prod.mk.injEq] at h
        obtain ⟨_, rfl⟩ := h
        simp
        omega
      · split at h
        · cases hb : braces? s with
          | error e => simp [hb, bind, Except.bind] at h
          | ok found =>
            cases found with
            | none => simp [hb, bind, Except.bind, pure, Except.pure] at h
            | some found =>
              obtain ⟨r', t⟩ := found
              simp only [hb, bind, Except.bind, pure, Except.pure, Option.map_some,
                Except.ok.injEq, Option.some.injEq, Prod.mk.injEq] at h
              obtain ⟨_, rfl⟩ := h
              have := braces_length hb
              have := dropSuffix_length t
              simp
              omega
        · simp at h

theorem enterClass_length (s : Text) : (enterClass s).length ≤ s.length :=
  Nat.le_trans (skipOne_length _ _) (skipOne_length _ _)

theorem step_length {scan scan' : Scan} {c : Char} {s rest : Text}
    (h : step scan (c :: s) = .ok (scan', rest)) : rest.length ≤ s.length := by
  unfold step at h
  split at h
  · simp_all
  · rename_i heq
    obtain ⟨rfl, rfl⟩ := List.cons.inj heq
    split at h
    · simp_all
    · split at h
      · simp at h
      · simp only [Except.ok.injEq, Prod.mk.injEq] at h
        obtain ⟨_, rfl⟩ := h
        simp
  · rename_i heq
    obtain ⟨rfl, rfl⟩ := List.cons.inj heq
    have hc := enterClass_length s
    split at h
    · simp_all
    · split at h
      · simp_all
      · split at h
        · simp_all
        · split at h
          · split at h <;> simp_all
          · split at h
            · split at h
              · simp at h
              · rename_i found hq
                simp only at h
                split at h
                · simp at h
                · simp at h
                · simp only [Except.ok.injEq, Prod.mk.injEq] at h
                  obtain ⟨_, rfl⟩ := h
                  cases found with
                  | none => simp
                  | some f =>
                    have := quantifier_length hq
                    simp
                    omega
            · split at h
              · simp at h
              · simp_all
              · rename_i hq
                simp only [Except.ok.injEq, Prod.mk.injEq] at h
                obtain ⟨_, rfl⟩ := h
                have := quantifier_length hq
                simp at this
                omega

/-- The scan to the end of the text. -/
def scanFrom (scan : Scan) (s : Text) : Except Stop Unit :=
  match s with
  | [] => .ok ()
  | c :: s =>
    match _h : step scan (c :: s) with
    | .error stop => .error stop
    | .ok (scan', rest) => scanFrom scan' rest
termination_by s.length
decreasing_by exact Nat.lt_succ_of_le (step_length _h)

/-- The scan of an expression from its start. -/
def scanExpression (expression : Text) : Except Stop Unit :=
  scanFrom ⟨.clear, [], false⟩ expression

end Guard

/-- Accepts an inline expression or says why not. It must be short enough, be an expression, and
pass the scan. -/
def checkInline (expression pattern : Text) (limit : Int) : Except BuildFailure Unit :=
  let refuse (reason : Rejection) : Except BuildFailure Unit :=
    .error (.refused (.rejected expression pattern reason))
  if limit < expression.length then refuse (.tooLong limit)
  else match Regex.Expression.ofText expression with
    | .error fault => if fault.isMalformed then refuse (.malformed fault) else .error (.limit fault)
    | .ok _ =>
      match Guard.scanExpression expression with
      | .error (.rejected reason) => refuse reason
      | .error (.failed failure) => .error failure
      | .ok () => .ok ()

end PathRouter

import PathRouter.Regex.Lead

/-!
# Searches

A search looks for a way on from a point such that what has to follow succeeds from the point that
is reached; of all ways the first one in the order of preference counts. An attempt leaves a trail,
also when it fails: the spot it noted last and the marks that groups have set. Marks outlive a
failure where nothing undoes them.

A possessive quantifier takes as many copies as it can get, as an atomic group around the greedy one
does: a copy that fails leaves nothing behind. In the early edition of the engine such a copy gave
back its marks only, and what follows was tried from the spot that it had noted last.
-/

namespace PathRouter.Regex
set_option autoImplicit false

/-- The editions of the engine. They differ in what a possessive quantifier does with a copy that
fails. -/
inductive Edition
  /-- The spot that the copy noted is kept. -/
  | early
  /-- The copy leaves nothing behind. -/
  | current
  deriving DecidableEq

/-- What an attempt leaves behind. -/
structure Trail where
  /-- The point that was noted last. -/
  spot : Point
  /-- The points where groups were last entered and left. The marks of the first group come first,
  and there are as many as have been needed so far. -/
  marks : List (Option Point)
  deriving DecidableEq

namespace Trail

/-- Notes a point. -/
def note (t : Trail) (p : Point) : Trail :=
  { t with spot := p }

/-- Sets a mark. -/
def mark (t : Trail) (index : Nat) (p : Point) : Trail :=
  { t with marks :=
      if index < t.marks.length then t.marks.set index (some p)
      else t.marks ++ List.replicate (index - t.marks.length) none ++ [some p] }

/-- A group is entered. -/
def enter (t : Trail) (group : Nat) (p : Point) : Trail :=
  t.mark (2 * group - 2) p

/-- A group is left. -/
def leave (t : Trail) (group : Nat) (p : Point) : Trail :=
  t.mark (2 * group - 1) p

/-- Where a group was last entered and left. -/
def span? (t : Trail) (group : Nat) : Option (Point × Point) := do
  return (← (← t.marks[2 * group - 2]?), ← (← t.marks[2 * group - 1]?))

/-- The text that a group captured. A group that was entered again but not left has none. -/
def captured? (t : Trail) (group : Nat) : Option Text := do
  let (start, stop) ← t.span? group
  if start.position ≤ stop.position then some (start.textTo stop) else none

/-- Undoes the marks that a failed attempt set after `old`. In a repeated part all of them get back
what they were; elsewhere only those that are new are removed. -/
def undo (t : Trail) (repeated : Bool) (old : Trail) : Trail :=
  { t with marks := if repeated then old.marks else t.marks.take old.marks.length }

end Trail

/-- How an attempt ends. -/
inductive Outcome
  | matched (trail : Trail)
  | failed (trail : Trail)
  deriving DecidableEq

namespace Outcome

/-- Tries something else after a failure. -/
def orElse (o : Outcome) (other : Trail → Outcome) : Outcome :=
  match o with
  | matched t => matched t
  | failed t => other t

/-- A failure notes the point. -/
def failingAt (o : Outcome) (p : Point) : Outcome :=
  o.orElse fun t => failed (t.note p)

/-- The trail of a success. -/
def trail? : Outcome → Option Trail
  | matched t => some t
  | failed _ => none

end Outcome

/-- A search from a point, for a way from which what has to follow succeeds. -/
abbrev Search := Point → Trail → (Point → Trail → Outcome) → Outcome

namespace Search

/-- The first way, not to be reconsidered. Its end is the spot of the trail. -/
def first (s : Search) (p : Point) (t : Trail) : Outcome :=
  s p (t.note p) fun q u => .matched (u.note q)

/-- Goes on from `p`, unless the character after it fails the test that has to follow. -/
def onward (repeated : Bool) (next : Option FlaggedTest) (old : Trail)
    (k : Point → Trail → Outcome) (p : Point) (t : Trail) : Outcome :=
  if next.all (·.holdsAfter p) then
    match k p (t.note p) with
    | .matched u => .matched u
    | .failed u => .failed (u.undo repeated old)
  else .failed t

/-- One of several alternatives. It is not tried if the next character fails the test that it
begins with. -/
def alternative (s : Search) (repeated : Bool) (lead : Option FlaggedTest) : Search := fun p t k =>
  onward repeated lead t (fun q u => s q u k) p t

/-! ## Copies of a part -/

/-- `n` copies. -/
def times (s : Search) : Nat → Search
  | 0, p, t, k => k p t
  | n + 1, p, t, k => (s p (t.note p) fun q u => times s n q u k).failingAt p

/-- Up to `n` copies, more before fewer. The copy before this one started at `last`. -/
def greedy (s : Search) : Nat → Option Nat → Search
  | 0, _, p, t, k => (k p (t.note p)).failingAt p
  | n + 1, last, p, t, k =>
    if last = some p.position then (k p (t.note p)).failingAt p
    else (s p (t.note p) fun q u => greedy s n (some p.position) q u k).orElse fun _ =>
      (k p (t.note p)).failingAt p

/-- Up to `n` copies, fewer before more. The copy before this one started at `last`. -/
def lazy (s : Search) (repeated : Bool) : Nat → Option Nat → Search
  | 0, _, p, t, k => (k p (t.note p)).orElse fun u => .failed ((u.undo repeated t).note p)
  | n + 1, last, p, t, k =>
    (k p (t.note p)).orElse fun u =>
      let v := (u.undo repeated t).note p
      if last = some p.position then .failed v
      else (s p v fun q w => lazy s repeated n (some p.position) q w k).failingAt p

/-- `n` copies from the spot, each the first way. -/
def firstTimes (s : Search) : Nat → Trail → Outcome
  | 0, t => .matched t
  | n + 1, t =>
    match s.first t.spot t with
    | .matched u => firstTimes s n u
    | .failed u => .failed u

/-- Up to `n` copies from the spot, each the first way. The copy before this one started at `last`.
The copy that fails ends them. -/
def firstMost (s : Search) (edition : Edition) : Nat → Option Nat → Trail → Trail
  | 0, _, t => t
  | n + 1, last, t =>
    if last = some t.spot.position then t
    else match s.first t.spot t with
      | .matched u => firstMost s edition n (some t.spot.position) u
      | .failed u =>
        match edition with
        | .early => t.note u.spot
        | .current => t

/-- How many optional copies can be tried from `p`: without an upper bound, more than there are
pairs of points of the text, so that a search that ends by itself is not cut short. -/
def optional (least : Nat) (most : Option Nat) (p : Point) : Nat :=
  match most with
  | some m => m - least
  | none => (p.textLength + 1) * (p.textLength + 1)

/-- Between `least` and `most` copies. -/
def copies (s : Search) (edition : Edition) (repeated : Bool) (mode : Mode) (least : Nat)
    (most : Option Nat) : Search := fun p t k =>
  match mode with
  | .greedy => s.times least p t fun q u => s.greedy (optional least most q) none q u k
  | .lazy => s.times least p t fun q u => s.lazy repeated (optional least most q) none q u k
  | .possessive =>
    match s.firstTimes least (t.note p) with
    | .matched u =>
      let v := s.firstMost edition (optional least most u.spot) none u
      k v.spot v
    | .failed u => .failed (u.note p)

/-! ## Copies of a single character -/

/-- Goes on from `p` and, failing that, from up to `n` points before it. -/
def fewer (repeated : Bool) (next : Option FlaggedTest) (old : Trail)
    (k : Point → Trail → Outcome) (n : Nat) (p : Point) (t : Trail) : Outcome :=
  match onward repeated next old k p t, n with
  | .failed u, n + 1 => fewer repeated next old k n p.backward u
  | o, _ => o

/-- Goes on from `p` and, failing that, after up to `n` more characters that pass the test. -/
def more (repeated : Bool) (single : FlaggedTest) (old : Trail)
    (k : Point → Trail → Outcome) : Nat → Point → Trail → Outcome
  | n, p, t =>
    (k p (t.note p)).orElse fun u =>
      let v := (u.undo repeated old).note p
      match p.forward? with
      | some (c, q) =>
        if single.holds c then
          let w := if single.isFolding then v.note q else v
          match n with
          | 0 => .failed w
          | n + 1 => more repeated single old k n q w
        else .failed v
      | none => .failed v

/-- Between `least` and `most` characters that pass a test, where `next` is the direct test that has
to follow. -/
def characters (single : FlaggedTest) (repeated : Bool) (next : Option FlaggedTest) (mode : Mode)
    (least : Nat) (most : Option Nat) : Search := fun p t k =>
  if !p.hasAhead least then .failed t
  else
    let (count, q) := p.run single.holds (if mode = .lazy then some least else most)
    let u := t.note (if single.isFolding then q else p)
    if count < least then .failed u
    else match mode with
      | .greedy => fewer repeated (next.filter (·.isLiteral)) u k (count - least) q u
      | .lazy => more repeated single u k ((most.map (· - least)).getD q.after.length) q u
      | .possessive => k q u

end Search

end PathRouter.Regex

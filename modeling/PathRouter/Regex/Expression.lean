import PathRouter.Regex.Limits
import PathRouter.Regex.Match
import PathRouter.Regex.Reader
import PathRouter.Regex.Simplify

/-!
# Expressions

An expression is read from its text, checked against the limits, and matched by an edition of the
engine against a text from a position. Every character is matched by a dot. A match begins at the
position, but anchors and look behinds see what precedes it.
-/

namespace PathRouter.Regex
set_option autoImplicit false

namespace Expression

/-- The expression that a text spells. -/
def ofText (text : Text) : Except Fault Expression := do
  let e ← readExpression text
  e.tree.check (e.flags.contains .template)
  if e.tree.stepsTooFar then .error .programTooLarge else return e

/-- The flags in force at the start. -/
def startFlags (e : Expression) : Flags where
  ignoreCase := e.flags.contains .ignoreCase
  multiline := e.flags.contains .multiline
  dotAll := true
  ascii := e.flags.contains .ascii

/-- Searches for a match from a point that ends where `accepts` holds. Nothing shorter than the
expression is searched. -/
def search (e : Expression) (edition : Edition) (p : Point) (accepts : Point → Bool) : Outcome :=
  if !p.hasAhead e.width.least then .failed ⟨p, []⟩
  else e.tree.simplified.run ⟨e.startFlags, false, none, edition⟩ p ⟨p, []⟩ fun q t =>
    if accepts q then .matched (t.note q) else .failed t

/-- The trail of the preferred match from a position. Its spot is the end of the match. -/
def matchAt (e : Expression) (edition : Edition) (text : Text) (position : Nat) : Option Trail :=
  (e.search edition (.ofText text position) fun _ => true).trail?

/-- The trail of the preferred match of the whole text. -/
def fullMatch (e : Expression) (edition : Edition) (text : Text) : Option Trail :=
  (e.search edition (.ofText text 0) (·.after.isEmpty)).trail?

/-- Some group was left before it was entered, so that its span cannot be told. -/
def hasReversedSpan (e : Expression) (t : Trail) : Bool :=
  (List.range' 1 e.groups).any fun g => (t.span? g).any fun (start, stop) =>
    decide (stop.position < start.position)

end Expression

end PathRouter.Regex

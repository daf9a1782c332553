import PathRouter.Regex.Fault

/-!
# Limits on expressions

Two conditions that are not syntax: a look behind needs a fixed width, which also is limited, and
under the template flag nothing may be quantified. They are checked in the order of the text, each
part before what is inside it.
-/

namespace PathRouter.Regex
set_option autoImplicit false

/-- The first width of a look behind that a program cannot hold. -/
def maxStepBack : Nat := 2147483648

/-- The condition on the width of a look behind. -/
def Width.check (w : Width) : Except Fault Unit :=
  if w.least ≠ w.most then .error (.malformed .lookbehindWidth none) else .ok ()

namespace Node

/-- The conditions on a tree, under the template flag or not. -/
def check (template : Bool) : Node → Except Fault Unit
  | empty | char _ | anchor _ | backreference _ => .ok ()
  | seq a b | alt a b | conditional _ a b => do
    a.check template
    b.check template
  | quantified mode _ _ body =>
    if template then .error (.malformed (.templateRepeat mode) none) else body.check template
  | group _ body | flagged _ _ body | atomic body | look none _ body => body.check template
  | look (some w) _ body => do
    w.check
    body.check template

/-- Some look behind is wider than a program can hold. -/
def stepsTooFar : Node → Bool
  | empty | char _ | anchor _ | backreference _ => false
  | seq a b | alt a b | conditional _ a b => a.stepsTooFar || b.stepsTooFar
  | quantified _ _ _ body | group _ body | flagged _ _ body | atomic body | look none _ body =>
    body.stepsTooFar
  | look (some w) _ body => decide (maxStepBack ≤ w.least) || body.stepsTooFar

end Node

end PathRouter.Regex

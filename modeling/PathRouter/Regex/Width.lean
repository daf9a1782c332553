import PathRouter.Regex.Syntax

/-!
# Widths

Bounds on the length of the texts that an expression matches. A look behind needs the two bounds to
agree, and a reference is as wide as its group. Lengths are counted up to a limit only. What has no
upper bound counts as that long, and a lower bound stays below it, so that bounds which have grown
to the limit never agree.
-/

namespace PathRouter.Regex
set_option autoImplicit false

namespace Width

/-- The length up to which widths are counted. -/
def limit : Nat := 4294967295

/-- The width with bounds as far as they are counted. -/
def upToLimit (least most : Nat) : Width :=
  ⟨min least (limit - 1), min most limit⟩

/-- The width of the empty text. -/
def zero : Width := ⟨0, 0⟩

/-- The width of one character. -/
def one : Width := ⟨1, 1⟩

/-- The width of one part after another. -/
def add (a b : Width) : Width :=
  upToLimit (a.least + b.least) (a.most + b.most)

/-- The width of either of two parts. -/
def either (a b : Width) : Width :=
  ⟨min a.least b.least, max a.most b.most⟩

/-- The width of `least` to `most` copies. -/
def copies (w : Width) (least : Nat) (most : Option Nat) : Width :=
  upToLimit (w.least * least) (w.most * most.getD limit)

end Width

/-- The width of a tree, where `groups` gives the widths of the groups that it refers to. -/
def Node.width (groups : Nat → Width) : Node → Width
  | empty | anchor _ | look _ _ _ => .zero
  | char _ => .one
  | backreference g => groups g
  | seq a b => (a.width groups).add (b.width groups)
  | alt a b => (a.width groups).either (b.width groups)
  | quantified _ least most body => (body.width groups).copies least most
  | group _ body | flagged _ _ body | atomic body => body.width groups
  | conditional _ yes no => (yes.width groups).either (no.width groups)

end PathRouter.Regex

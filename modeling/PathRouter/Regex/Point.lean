import PathRouter.Regex.CharTest
import PathRouter.Text.Basic

/-!
# Points of a text

A point lies between two characters of a text, or at one of its ends. Anchors are conditions on
points.
-/

namespace PathRouter.Regex
set_option autoImplicit false

/-- A point of a text. -/
structure Point where
  /-- What precedes the point, nearest first. -/
  before : Text
  /-- What follows the point. -/
  after : Text
  deriving DecidableEq

namespace Point

/-- The point of a text after so many characters. -/
def ofText (text : Text) (position : Nat) : Point :=
  ⟨(text.take position).reverse, text.drop position⟩

/-- The number of characters before the point. -/
def position (p : Point) : Nat :=
  p.before.length

/-- The length of the whole text. -/
def textLength (p : Point) : Nat :=
  p.before.length + p.after.length

/-- At least `n` characters follow. -/
def hasAhead (p : Point) (n : Nat) : Bool :=
  (p.after.take n).length == n

theorem hasAhead_iff {p : Point} {n : Nat} : p.hasAhead n = true ↔ n ≤ p.after.length := by
  simp only [hasAhead, List.length_take, beq_iff_eq]
  omega

/-- The next character and the point after it. -/
def forward? (p : Point) : Option (Char × Point) :=
  match p.after with
  | [] => none
  | c :: rest => some (c, ⟨c :: p.before, rest⟩)

/-- The point `n` characters on, or the end. -/
def skip (p : Point) (n : Nat) : Point :=
  ⟨(p.after.take n).reverse ++ p.before, p.after.drop n⟩

/-- The point one character back, or the start. -/
def backward (p : Point) : Point :=
  match p.before with
  | [] => p
  | c :: rest => ⟨rest, c :: p.after⟩

/-- The point `n` characters back, if there are as many. -/
def back? (p : Point) (n : Nat) : Option Point :=
  if p.before.length < n then none
  else some ⟨p.before.drop n, (p.before.take n).reverse ++ p.after⟩

/-- The text from one point to a later one. -/
def textTo (p q : Point) : Text :=
  p.after.take (q.position - p.position)

/-- Steps over the next characters that pass a test, up to `most` of them: how many there are, and
the point after them. -/
def run (p : Point) (passes : Char → Bool) (most : Option Nat) : Nat × Point :=
  go 0 p.before p.after
where
  /-- Goes on after `n` characters. -/
  go (n : Nat) (before : Text) : Text → Nat × Point
    | [] => (n, ⟨before, []⟩)
    | c :: rest =>
      if most ≠ some n ∧ passes c then go (n + 1) (c :: before) rest
      else (n, ⟨before, c :: rest⟩)

end Point

/-- The character counts as part of a word. -/
def Flags.isWord (f : Flags) (c : Option Char) : Bool :=
  match c with
  | some c => Category.word.holds f.ascii c.toNat
  | none => false

/-- The point satisfies the condition. An empty text has no word boundary and no place that is
none. -/
def Anchor.holds (f : Flags) (p : Point) : Anchor → Bool
  | textStart => p.before.isEmpty
  | textEnd => p.after.isEmpty
  | lineStart => p.before.isEmpty || f.multiline && p.before.head? == some '\n'
  | lineEnd =>
    p.after.isEmpty || p.after == ['\n'] || f.multiline && p.after.head? == some '\n'
  | wordBoundary => f.isWord p.before.head? != f.isWord p.after.head?
  | notWordBoundary =>
    !(p.before.isEmpty && p.after.isEmpty) && f.isWord p.before.head? == f.isWord p.after.head?

/-- The texts agree under the flags. -/
def Flags.agree (f : Flags) (a b : Text) : Bool :=
  if f.ignoreCase then a.map (fun c => f.lower c.toNat) == b.map fun c => f.lower c.toNat
  else a == b

end PathRouter.Regex

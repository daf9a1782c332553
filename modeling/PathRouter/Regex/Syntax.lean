import PathRouter.CodePoint.Basic

/-!
# Syntax trees of expressions

A tree says what an expression matches. Sequences and alternations are binary, so that functions
on trees are plain structural recursions. Flags are not stored in the tests and anchors; they
are a parameter of matching, changed by `flagged` for the part of a tree below it.
-/

namespace PathRouter.Regex
set_option autoImplicit false

/-- An inline flag. -/
inductive Flag
  | ignoreCase
  | locale
  | multiline
  | dotAll
  | verbose
  | ascii
  | template
  | unicode
  deriving DecidableEq

namespace Flag

/-- The flag of a letter. -/
def ofChar? : Char → Option Flag
  | 'i' => some ignoreCase
  | 'L' => some locale
  | 'm' => some multiline
  | 's' => some dotAll
  | 'x' => some verbose
  | 'a' => some ascii
  | 't' => some template
  | 'u' => some unicode
  | _ => none

/-- The flag chooses a character set. -/
def isCharset (f : Flag) : Bool :=
  f == ascii || f == locale || f == unicode

end Flag

/-- A named class of characters. -/
inductive Category
  | digit
  | space
  | word
  deriving DecidableEq

/-- A member of a bracket class. -/
inductive Member
  | single (code : CodePoint)
  | range (low high : CodePoint)
  | category (kind : Category) (negated : Bool)
  deriving DecidableEq

/-- A test on one character. -/
inductive CharTest
  | literal (code : CodePoint)
  | notLiteral (code : CodePoint)
  | any
  | set (negated : Bool) (members : List Member)
  deriving DecidableEq

/-- A condition on a position. -/
inductive Anchor
  | textStart
  | textEnd
  | lineStart
  | lineEnd
  | wordBoundary
  | notWordBoundary
  deriving DecidableEq

/-- Bounds on the length of what is matched. -/
structure Width where
  least : Nat
  most : Nat
  deriving DecidableEq

/-- In which order a quantifier tries its counts. -/
inductive Mode
  | greedy
  | lazy
  | possessive
  deriving DecidableEq

/-- The syntax tree of an expression. -/
inductive Node
  /-- Matches the empty text. -/
  | empty
  /-- One character that passes a test. -/
  | char (test : CharTest)
  /-- The position satisfies a condition. -/
  | anchor (kind : Anchor)
  /-- The text that a group captured. -/
  | backreference (group : Nat)
  /-- One after the other. -/
  | seq (first second : Node)
  /-- One or else the other. -/
  | alt (first second : Node)
  /-- Between `least` and `most` copies; no upper bound is `none`. -/
  | quantified (mode : Mode) (least : Nat) (most : Option Nat) (body : Node)
  /-- A capturing group. -/
  | group (index : Nat) (body : Node)
  /-- A group with flags turned on and off. -/
  | flagged (on off : List Flag) (body : Node)
  /-- A group that keeps its first match. -/
  | atomic (body : Node)
  /-- A look ahead, or a look behind at the characters that the body is wide. -/
  | look (behind : Option Width) (negated : Bool) (body : Node)
  /-- One of two parts, by whether a group has captured. -/
  | conditional (group : Nat) (yes no : Node)
  deriving DecidableEq

namespace Node

/-- A tree with no tree below it. Only these are compared when alternatives are factored. -/
def isAtom : Node → Bool
  | char _ | anchor _ | backreference _ => true
  | _ => false

/-- The tree of a list of parts. -/
def ofList : List Node → Node
  | [] => empty
  | [n] => n
  | n :: rest => seq n (ofList rest)

/-- The alternation of a list of trees. -/
def ofAlternatives : List Node → Node
  | [] => empty
  | [n] => n
  | n :: rest => alt n (ofAlternatives rest)

end Node

end PathRouter.Regex

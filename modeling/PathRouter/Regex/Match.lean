import PathRouter.Regex.Search

/-!
# Matching

`Node.run` searches for a way to match a tree from a point of a text such that what has to follow
succeeds from the point that is reached. Alternatives are tried from left to right, a greedy
quantifier tries more copies before fewer and a lazy one fewer before more. Optional copies end when
a copy would start where the one before it started. A possessive quantifier, an atomic group and a
look around keep the first way of their body and are not reconsidered.
-/

namespace PathRouter.Regex
set_option autoImplicit false

/-- Where a part of a tree stands. -/
structure Setting where
  flags : Flags
  /-- The part is repeated by a quantifier around it that can reconsider its copies. -/
  repeated : Bool
  /-- The direct test that has to follow the part. -/
  next : Option FlaggedTest
  edition : Edition
  deriving DecidableEq

namespace Setting

/-- The setting of a part that is followed by no test. -/
def inner (s : Setting) : Setting :=
  { s with next := none }

/-- The setting of what is quantified. -/
def copied (s : Setting) (mode : Mode) : Setting :=
  { s with repeated := s.repeated || mode != .possessive, next := none }

end Setting

/-- Searches for a way to match a tree from a point. -/
def Node.run (s : Setting) : Node → Search
  | empty, p, t, k => k p t
  | char test, p, t, k =>
    match p.forward? with
    | some (c, q) => if test.holds s.flags c then k q t else .failed t
    | none => .failed t
  | anchor a, p, t, k => if a.holds s.flags p then k p t else .failed t
  | backreference g, p, t, k =>
    match t.captured? g with
    | some x =>
      if s.flags.agree (p.after.take x.length) x then k (p.skip x.length) t else .failed t
    | none => .failed t
  | seq a b, p, t, k =>
    a.run { s with next := b.lead s.flags s.next } p t fun q u => b.run s q u k
  | alt a b, p, t, k =>
    ((a.run s.inner).alternative s.repeated (a.lead s.flags none) p t k).orElse fun u =>
      if b.isAlternation then b.run s p u k
      else (b.run s.inner).alternative s.repeated (b.lead s.flags none) p u k
  | quantified mode least most body, p, t, k =>
    match body.single? s.flags with
    | some test => Search.characters test s.repeated s.next mode least most p t k
    | none => Search.copies (body.run (s.copied mode)) s.edition s.repeated mode least most p t k
  | group i body, p, t, k =>
    body.run s.inner p (t.enter i p) fun q u => k q (u.leave i q)
  | flagged on off body, p, t, k => body.run { s with flags := s.flags.update on off } p t k
  | atomic body, p, t, k =>
    match Search.first (body.run s.inner) p t with
    | .matched u => k u.spot u
    | .failed u => .failed (u.note p)
  | look behind negated body, p, t, k =>
    match behind.elim (some p) (fun w => p.back? w.least) with
    | some q =>
      match Search.first (body.run s.inner) q t with
      | .matched u => if negated then .failed u else k p u
      | .failed u => if negated then k p (u.undo s.repeated t) else .failed u
    | none => if negated then k p t else .failed t
  | conditional g yes no, p, t, k =>
    if (t.captured? g).isSome then
      yes.run { s with next := if no = .empty then s.next else none } p t k
    else no.run s p t k

namespace Node

variable {s : Setting} {mode : Mode} {least : Nat} {most : Option Nat} {body : Node}

/-- Copies of a direct test are not searched one by one. -/
theorem run_quantified_characters {single : FlaggedTest} (h : body.single? s.flags = some single) :
    (quantified mode least most body).run s =
      Search.characters single s.repeated s.next mode least most := by
  funext p t k
  rw [run, h]

theorem run_quantified_copies (h : body.single? s.flags = none) :
    (quantified mode least most body).run s =
      Search.copies (body.run (s.copied mode)) s.edition s.repeated mode least most := by
  funext p t k
  rw [run, h]

end Node

end PathRouter.Regex

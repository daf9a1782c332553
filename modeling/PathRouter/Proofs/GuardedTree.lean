import PathRouter.Proofs.GuardQuantifier

/-!
# What the guard is for

The constructs that the guard refuses, told from the tree of an expression: references, look
arounds, conditionals, and parts that are repeated while something in them, however deep, is
unbounded or an alternation. The guard keeps a pair of marks for each open group. The marks cover
the group if whatever its parts hold is marked.
-/

namespace PathRouter
set_option autoImplicit false

namespace Regex.Node

/-- Something in the tree is repeated without bound. -/
def holdsUnbounded : Node → Bool
  | empty | char _ | anchor _ | backreference _ => false
  | seq first second | alt first second | conditional _ first second =>
    first.holdsUnbounded || second.holdsUnbounded
  | quantified _ _ most body => most.isNone || body.holdsUnbounded
  | group _ body | flagged _ _ body | atomic body | look _ _ body => body.holdsUnbounded

/-- Something in the tree is an alternation. -/
def holdsAlternation : Node → Bool
  | empty | char _ | anchor _ | backreference _ => false
  | alt _ _ => true
  | seq first second | conditional _ first second =>
    first.holdsAlternation || second.holdsAlternation
  | quantified _ _ _ body | group _ body | flagged _ _ body | atomic body | look _ _ body =>
    body.holdsAlternation

/-- More than one copy is possible. -/
def isRepeating (most : Option Nat) : Bool :=
  most.all fun n => decide (1 < n)

/-- There is no reference, look around or conditional, and nothing that is repeated holds something
unbounded or an alternation. -/
def isGuarded : Node → Bool
  | empty | char _ | anchor _ => true
  | backreference _ | look _ _ _ | conditional _ _ _ => false
  | seq first second | alt first second => first.isGuarded && second.isGuarded
  | quantified _ _ most body =>
    body.isGuarded && !(isRepeating most && (body.holdsUnbounded || body.holdsAlternation))
  | group _ body | flagged _ _ body | atomic body => body.isGuarded

/-- The part must not be repeated. A part that has a quantifier already cannot be given another. -/
def isUnrepeatable : Node → Bool
  | quantified _ _ _ _ => false
  | n => n.holdsUnbounded || n.holdsAlternation

theorem holds_eq_false_of_not_isUnrepeatable {n : Node} (h : n.isUnrepeatable = false)
    (hfirst : ∀ m l u body, n ≠ .quantified m l u body) :
    n.holdsUnbounded = false ∧ n.holdsAlternation = false := by
  rw [isUnrepeatable] at h
  · exact Bool.or_eq_false_iff.1 h
  · exact hfirst

end Regex.Node

namespace Guard

open Regex

/-! ## Marks -/

/-- The tree is guarded, and what it holds is marked. -/
structure Covers (marks : Marks) (n : Node) : Prop where
  guarded : n.isGuarded = true
  unbounded : n.holdsUnbounded = true → marks.unbounded = true
  alternation : n.holdsAlternation = true → marks.alternation = true

section Trees

variable {marks marks' : Marks} {n : Node} {ns : List Node}

theorem Covers.mono (h : Covers marks n) (hgrows : marks.Grows marks') : Covers marks' n where
  guarded := h.guarded
  unbounded hn := hgrows.unbounded (h.unbounded hn)
  alternation hn := hgrows.alternation (h.alternation hn)

/-- A group that is repeated without fault is free of marks. -/
theorem eq_clear_of_fault? {repetition : Repetition} (h : marks.fault? (some repetition) = none)
    (hrepeated : repetition.isRepeated = true) : marks = .clear := by
  obtain ⟨unbounded, alternation⟩ := marks
  cases unbounded <;> cases alternation <;> simp_all [Marks.fault?, Marks.clear]

theorem Covers.char (test : CharTest) : Covers .clear (.char test) :=
  ⟨rfl, (absurd · Bool.false_ne_true), (absurd · Bool.false_ne_true)⟩

theorem Covers.anchor (a : Anchor) : Covers .clear (.anchor a) :=
  ⟨rfl, (absurd · Bool.false_ne_true), (absurd · Bool.false_ne_true)⟩

theorem grows_clear (marks : Marks) : Marks.clear.Grows marks :=
  ⟨(absurd · Bool.false_ne_true), (absurd · Bool.false_ne_true)⟩

/-- A tree that clear marks cover may be repeated. -/
theorem Covers.isUnrepeatable (h : Covers .clear n) : n.isUnrepeatable = false := by
  have hunbounded : n.holdsUnbounded = false :=
    Bool.eq_false_iff.2 fun hn => absurd (h.unbounded hn) Bool.false_ne_true
  have halternation : n.holdsAlternation = false :=
    Bool.eq_false_iff.2 fun hn => absurd (h.alternation hn) Bool.false_ne_true
  cases n <;> simp only [Node.isUnrepeatable, hunbounded, halternation, Bool.or_self]

theorem Covers.ofList (h : ∀ n ∈ ns, Covers marks n) : Covers marks (Node.ofList ns) := by
  induction ns with
  | nil => exact ⟨rfl, (absurd · Bool.false_ne_true), (absurd · Bool.false_ne_true)⟩
  | cons n ns ih =>
    rw [List.forall_mem_cons] at h
    cases ns with
    | nil => exact h.1
    | cons m ns =>
      have hrest := ih h.2
      refine ⟨?_, fun hn => ?_, fun hn => ?_⟩
      · show (n.isGuarded && (Node.ofList (m :: ns)).isGuarded) = true
        rw [h.1.guarded, hrest.guarded, Bool.and_self]
      · exact (Bool.or_eq_true_iff.1 hn).elim h.1.unbounded hrest.unbounded
      · exact (Bool.or_eq_true_iff.1 hn).elim h.1.alternation hrest.alternation

theorem Covers.ofAlternatives (h : ∀ n ∈ ns, Covers marks n)
    (hmany : 1 < ns.length → marks.alternation = true) :
    Covers marks (Node.ofAlternatives ns) := by
  induction ns with
  | nil => exact ⟨rfl, (absurd · Bool.false_ne_true), (absurd · Bool.false_ne_true)⟩
  | cons n ns ih =>
    rw [List.forall_mem_cons] at h
    cases ns with
    | nil => exact h.1
    | cons m ns =>
      have hmarked : marks.alternation = true := hmany (by simp)
      have hrest := ih h.2 fun _ => hmarked
      refine ⟨?_, fun hn => ?_, fun _ => hmarked⟩
      · show (n.isGuarded && (Node.ofAlternatives (m :: ns)).isGuarded) = true
        rw [h.1.guarded, hrest.guarded, Bool.and_self]
      · exact (Bool.or_eq_true_iff.1 hn).elim h.1.unbounded hrest.unbounded

theorem Covers.quantified {mode : Mode} {b : Bounds} (h : Covers marks n)
    (hmost : b.most = none → marks.unbounded = true)
    (hrepeated : Node.isRepeating b.most = true →
      n.holdsUnbounded = false ∧ n.holdsAlternation = false) :
    Covers marks (.quantified mode b.least b.most n) where
  guarded := by
    show (n.isGuarded &&
      !(Node.isRepeating b.most && (n.holdsUnbounded || n.holdsAlternation))) = true
    rw [h.guarded, Bool.true_and, Bool.not_eq_true']
    by_cases hmany : Node.isRepeating b.most = true
    · obtain ⟨hunbounded, halternation⟩ := hrepeated hmany
      rw [hunbounded, halternation, Bool.or_self, Bool.and_false]
    · rw [Bool.eq_false_iff.2 hmany, Bool.false_and]
  unbounded hn := by
    rcases Bool.or_eq_true_iff.1 hn with hnone | hn
    · exact hmost (Option.isNone_iff_eq_none.1 hnone)
    · exact h.unbounded hn
  alternation := h.alternation

/-- No more than one copy is asked for, if the guard thinks so. -/
theorem AtMost.isRepeating {b : Bounds} {r : Repetition} (h : AtMost b r)
    (hr : r.isRepeated = false) : Node.isRepeating b.most = false := by
  obtain ⟨n, hn, hmost⟩ := h.optional hr
  rw [hmost]
  exact decide_eq_false (Nat.not_lt.2 hn)

end Trees

/-! ## Open groups -/

/-- The group is of a kind that the guard lets pass. -/
def isPassedKind : GroupKind → Bool
  | .whole | .capture _ | .scope _ _ | .atomic => true
  | .lookahead _ | .lookbehind _ _ | .conditional _ => false

/-- The marks cover what an open group holds so far. -/
structure CoversFrame (f : Frame) (marks : Marks) : Prop where
  kind : isPassedKind f.kind = true
  parts : ∀ n ∈ f.parts, Covers marks n
  finished : ∀ n ∈ f.finished, Covers marks n
  alternatives : f.finished ≠ [] → marks.alternation = true

section Frames

variable {f : Frame} {marks marks' : Marks} {p q : Progress} {n : Node}

theorem CoversFrame.mono (h : CoversFrame f marks) (hgrows : marks.Grows marks') :
    CoversFrame f marks' where
  kind := h.kind
  parts n hn := (h.parts n hn).mono hgrows
  finished n hn := (h.finished n hn).mono hgrows
  alternatives hne := hgrows.alternation (h.alternatives hne)

theorem CoversFrame.start {kind : GroupKind} (hkind : isPassedKind kind = true) (place : Nat)
    (verbose : Bool) (marks : Marks) : CoversFrame (.start kind place verbose) marks where
  kind := hkind
  parts _ hn := absurd hn List.not_mem_nil
  finished _ hn := absurd hn List.not_mem_nil
  alternatives hne := absurd rfl hne

/-- The latest part is put in the place of `f.parts`. -/
theorem CoversFrame.push {parts : List Node} (h : CoversFrame f marks)
    (hparts : ∀ m ∈ parts, m ∈ f.parts) (hn : Covers marks n) :
    CoversFrame { f with parts := n :: parts } marks where
  kind := h.kind
  parts := by
    intro m hm
    rcases List.mem_cons.1 hm with rfl | hm
    · exact hn
    · exact h.parts m (hparts m hm)
  finished := h.finished
  alternatives := h.alternatives

theorem CoversFrame.current (h : CoversFrame f marks) : Covers marks f.current :=
  .ofList fun n hn => h.parts n (List.mem_reverse.1 hn)

theorem CoversFrame.body (h : CoversFrame f marks) : Covers marks f.body := by
  refine .ofAlternatives (fun n hn => ?_) fun hlength => ?_
  · rcases List.mem_cons.1 (List.mem_reverse.1 hn) with rfl | hn
    · exact h.current
    · exact h.finished n hn
  · apply h.alternatives
    intro hnil
    simp [hnil] at hlength

/-- A bar sets the mark that the alternative before it asks for. -/
theorem CoversFrame.nextAlternative {left : Nat} (h : CoversFrame p.frame marks)
    (hq : p.nextAlternative left = .ok q) :
    CoversFrame q.frame { marks with alternation := true } ∧ q.frame.parts = [] ∧
      q.outer = p.outer ∧ q.groups = p.groups := by
  have hgrows := Marks.Grows.barred marks
  unfold Progress.nextAlternative at hq
  split at hq
  · exact absurd hq fault_ne_ok
  · obtain rfl := Except.ok.inj hq
    refine ⟨⟨h.kind, fun _ hn => absurd hn List.not_mem_nil, fun n hn => ?_, fun _ => rfl⟩,
      rfl, rfl, rfl⟩
    rcases List.mem_cons.1 hn with rfl | hn
    · exact h.current.mono hgrows
    · exact (h.finished n hn).mono hgrows

/-- What a group becomes is covered as the group was. -/
theorem CoversFrame.closing (h : CoversFrame p.frame marks) : Covers marks p.closing.1 := by
  have hbody := h.body
  have hkind := h.kind
  unfold Progress.closing
  cases hk : p.frame.kind <;> rw [hk] at hkind
  case whole => exact hbody
  case capture => exact ⟨hbody.guarded, hbody.unbounded, hbody.alternation⟩
  case scope => exact ⟨hbody.guarded, hbody.unbounded, hbody.alternation⟩
  case atomic => exact ⟨hbody.guarded, hbody.unbounded, hbody.alternation⟩
  all_goals exact absurd hkind (by simp [isPassedKind])

theorem closing_names (p : Progress) : p.closing.2.names = p.groups.names := by
  unfold Progress.closing
  split <;> try rfl
  split <;> rfl

/-- A quantifier takes the place of the latest part, which has none yet. -/
theorem quantify_eq_ok {b : Bounds} {place : Nat} {s rest : Text}
    (h : p.quantify b place s = .ok (q, rest)) : ∃ part parts mode,
      p.frame.parts = part :: parts ∧ (∀ m l u body, part ≠ .quantified m l u body) ∧
        readMode s = .ok (mode, rest) ∧
        q = { p with frame := { p.frame with
          parts := .quantified mode b.least b.most part :: parts } } := by
  unfold Progress.quantify at h
  split at h
  · exact absurd h fault_ne_ok
  · exact absurd h fault_ne_ok
  · exact absurd h fault_ne_ok
  · rename_i part parts hanchor hquantified hparts
    obtain ⟨⟨mode, r⟩, hmode, h⟩ := bind_eq_ok_iff.1 h
    obtain ⟨rfl, rfl⟩ := Prod.mk.inj (Except.ok.inj h)
    exact ⟨part, parts, mode, hparts, hquantified, hmode, rfl⟩

end Frames

end Guard

end PathRouter

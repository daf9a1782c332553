import PathRouter.Proofs.NarrowableText
import PathRouter.Proofs.SplicedSteps

/-!
# A narrowed expression is an expression

The reader of a narrowed expression goes along with the reader of the expression itself, and has the
same groups, flags and widths. So whatever the expression is refused for, the narrowed one is not
refused for more. This takes that narrowing meets nothing that it mistakes, and that no negated class
ends in a hyphen, which a slash would make a range of.
-/

namespace PathRouter.Regex
set_option autoImplicit false

/-! ## Narrowed trees -/

/-- The second tree is the first one narrowed. -/
inductive Narrows : Node → Node → Prop
  | empty : Narrows .empty .empty
  | char {test : CharTest} {n : Node} : TestMirrors true true test n → Narrows (.char test) n
  | anchor (a : Anchor) : Narrows (.anchor a) (.anchor a)
  | backreference (g : Nat) : Narrows (.backreference g) (.backreference g)
  | seq {a b a' b' : Node} : Narrows a a' → Narrows b b' → Narrows (.seq a b) (.seq a' b')
  | alt {a b a' b' : Node} : Narrows a a' → Narrows b b' → Narrows (.alt a b) (.alt a' b')
  | quantified (mode : Mode) (least : Nat) (most : Option Nat) {a a' : Node} : Narrows a a' →
      Narrows (.quantified mode least most a) (.quantified mode least most a')
  | group (i : Nat) {a a' : Node} : Narrows a a' → Narrows (.group i a) (.group i a')
  | flagged (on off : List Flag) {a a' : Node} : Narrows a a' →
      Narrows (.flagged on off a) (.flagged on off a')
  | atomic {a a' : Node} : Narrows a a' → Narrows (.atomic a) (.atomic a')
  | look (behind : Option Width) (negated : Bool) {a a' : Node} : Narrows a a' →
      Narrows (.look behind negated a) (.look behind negated a')
  | conditional (g : Nat) {a b a' b' : Node} : Narrows a a' → Narrows b b' →
      Narrows (.conditional g a b) (.conditional g a' b')

namespace Narrows

variable {a b : Node}

theorem isTreewise : IsTreewise Narrows :=
  ⟨.empty, .seq, .alt⟩

theorem width_eq (h : Narrows a b) (groups : Nat → Width) : b.width groups = a.width groups := by
  induction h with
  | empty => rfl
  | char htest =>
    obtain ⟨test', rfl, -⟩ | ⟨-, rfl⟩ := htest.cases
    · rfl
    · rfl
  | anchor a => rfl
  | backreference g => rfl
  | seq _ _ iha ihb => exact congrArg₂ Width.add iha ihb
  | alt _ _ iha ihb => exact congrArg₂ Width.either iha ihb
  | quantified mode least most _ ih => exact congrArg (·.copies least most) ih
  | group i _ ih => exact ih
  | flagged on off _ ih => exact ih
  | atomic _ ih => exact ih
  | look behind negated _ _ => rfl
  | conditional g _ _ iha ihb => exact congrArg₂ Width.either iha ihb

/-- The limits hold of a narrowed tree if they hold of the tree. -/
theorem check_eq (h : Narrows a b) (template : Bool) : b.check template = a.check template := by
  induction h with
  | empty => rfl
  | char htest =>
    obtain ⟨test', rfl, -⟩ | ⟨-, rfl⟩ := htest.cases
    · rfl
    · rfl
  | anchor a => rfl
  | backreference g => rfl
  | seq _ _ iha ihb => rw [Node.check, Node.check, iha, ihb]
  | alt _ _ iha ihb => rw [Node.check, Node.check, iha, ihb]
  | quantified mode least most _ ih => rw [Node.check, Node.check, ih]
  | group i _ ih => exact ih
  | flagged on off _ ih => exact ih
  | atomic _ ih => exact ih
  | look behind negated _ ih =>
    cases behind with
    | none => exact ih
    | some w => rw [Node.check, Node.check, ih]
  | conditional g _ _ iha ihb => rw [Node.check, Node.check, iha, ihb]

theorem stepsTooFar_eq (h : Narrows a b) : b.stepsTooFar = a.stepsTooFar := by
  induction h with
  | empty => rfl
  | char htest =>
    obtain ⟨test', rfl, -⟩ | ⟨-, rfl⟩ := htest.cases
    · rfl
    · rfl
  | anchor a => rfl
  | backreference g => rfl
  | seq _ _ iha ihb => exact congrArg₂ (· || ·) iha ihb
  | alt _ _ iha ihb => exact congrArg₂ (· || ·) iha ihb
  | quantified mode least most _ ih => exact ih
  | group i _ ih => exact ih
  | flagged on off _ ih => exact ih
  | atomic _ ih => exact ih
  | look behind negated _ ih =>
    cases behind with
    | none => exact ih
    | some w => rw [Node.stepsTooFar, Node.stepsTooFar, ih]
  | conditional g _ _ iha ihb => exact congrArg₂ (· || ·) iha ihb

/-- Narrowing adds nothing that cannot be quantified. -/
theorem eq_anchor {k : Anchor} (h : Narrows a (.anchor k)) : a = .anchor k := by
  cases h with
  | char htest =>
    obtain ⟨test', he, -⟩ | ⟨-, he⟩ := htest.cases
    · exact absurd he (by simp)
    · exact absurd he (by simp [guardedTest])
  | anchor k => rfl

theorem eq_quantified {mode : Mode} {least : Nat} {most : Option Nat} {body : Node}
    (h : Narrows a (.quantified mode least most body)) :
    ∃ body', a = .quantified mode least most body' := by
  cases h with
  | char htest =>
    obtain ⟨test', he, -⟩ | ⟨-, he⟩ := htest.cases
    · exact absurd he (by simp)
    · exact absurd he (by simp [guardedTest])
  | quantified mode least most _ => exact ⟨_, rfl⟩

end Narrows

/-! ## The two readers -/

/-- What two frames hold, one narrowed from the other. -/
structure FrameNarrows (f g : Frame) : Prop extends FrameMirrors Narrows f g where
  kind : g.kind = f.kind

theorem FrameNarrows.start (k : GroupKind) (i j : Nat) (verbose : Bool) :
    FrameNarrows (.start k i verbose) (.start k j verbose) :=
  ⟨.start k k i j verbose, rfl⟩

theorem FrameNarrows.add {f g : Frame} {a b : Node} (h : FrameNarrows f g) (hab : Narrows a b) :
    FrameNarrows { f with parts := a :: f.parts } { g with parts := b :: g.parts } :=
  ⟨h.toFrameMirrors.add hab, h.kind⟩

/-- The readers of an expression and of the narrowed one, which have come equally far. -/
structure ReadsNarrowed (p n : Progress) : Prop where
  frame : FrameNarrows p.frame n.frame
  outer : List.Forall₂ FrameNarrows p.outer n.outer
  groups : n.groups = p.groups
  flags : n.flags = p.flags
  behind : n.behind = p.behind
  asked : n.asked.map Prod.fst = p.asked.map Prod.fst

namespace ReadsNarrowed

variable {p n : Progress}

theorem start (i j : Nat) : ReadsNarrowed (.start i) (.start j) :=
  ⟨.start _ _ _ _, .nil, rfl, rfl, rfl, rfl⟩

theorem add {a b : Node} (h : ReadsNarrowed p n) (hab : Narrows a b) :
    ReadsNarrowed (p.add a) (n.add b) :=
  ⟨h.frame.add hab, h.outer, h.groups, h.flags, h.behind, h.asked⟩

theorem enter (h : ReadsNarrowed p n) (k : GroupKind) (i j : Nat) (verbose : Bool) :
    ReadsNarrowed (p.enter k i verbose) (n.enter k j verbose) :=
  ⟨.start k i j verbose, .cons h.frame h.outer, h.groups, h.flags, h.behind, h.asked⟩

theorem asks (h : ReadsNarrowed p n) (test : Nat → Bool) :
    (n.asked.any fun e => test e.1) = p.asked.any fun e => test e.1 := by
  have := congrArg (List.any · test) h.asked
  simpa only [List.any_map, Function.comp_def] using this

theorem begin_agrees (h : ReadsNarrowed p n) {o o' : Opening} {i j : Nat} {r r' : Text}
    (ho : SameOpening true o o') :
    Agrees true ReadsNarrowed (p.begin i r o) (n.begin j r' o') := by
  have hv := h.frame.verbose
  cases ho with
  | capture name =>
    unfold Progress.begin
    dsimp only
    rw [h.groups, hv]
    split
    · exact .fault_left
    · have henter := h.enter (.capture p.groups.next) i j p.frame.verbose
      exact .ok ⟨henter.frame, henter.outer, rfl, henter.flags, henter.behind, henter.asked⟩
  | scope on off =>
    refine .ok ?_
    rw [hv]
    exact h.enter (.scope on off) i j _
  | atomic =>
    refine .ok ?_
    rw [hv]
    exact h.enter .atomic i j _
  | look behind negated =>
    cases behind with
    | false =>
      refine .ok ?_
      rw [hv]
      exact h.enter (.lookahead negated) i j _
    | true =>
      refine .ok ?_
      rw [hv, h.groups, h.behind]
      have henter := h.enter (.lookbehind negated p.behind.isNone) i j p.frame.verbose
      exact ⟨henter.frame, henter.outer, henter.groups, henter.flags, rfl, henter.asked⟩
  | @conditional g g' a a' hsame =>
    obtain ⟨rfl, hasked⟩ := hsame rfl
    have henter := h.enter (.conditional g') i j p.frame.verbose
    unfold Progress.begin
    dsimp only
    rw [hv, h.asks (· == g')]
    cases a with
    | none =>
      obtain rfl : a' = none := by simpa using hasked
      exact .ok henter
    | some first =>
      obtain ⟨first', rfl⟩ := Option.isSome_iff_exists.1 hasked
      dsimp only
      split
      · exact .ok henter
      · refine .ok ⟨henter.frame, henter.outer, henter.groups, henter.flags, henter.behind, ?_⟩
        simp [h.asked]
  | reference hsame =>
    obtain rfl := hsame rfl
    exact .ok (h.add (.backreference _))
  | comment => exact .ok h
  | globals on =>
    have hempty {α β : Type} {Q : α → β → Prop} {xs : List α} {ys : List β}
        (h : List.Forall₂ Q xs ys) : ys.isEmpty = xs.isEmpty := by
      cases h <;> rfl
    unfold Progress.begin
    dsimp only
    rw [hempty h.outer, hempty h.frame.finished, hempty h.frame.parts, h.flags]
    split
    · exact .ok ⟨⟨⟨rfl, h.frame.finished, h.frame.parts⟩, h.frame.kind⟩, h.outer, h.groups, rfl,
        h.behind, h.asked⟩
    · exact .fault_left

theorem nextAlternative_agrees (h : ReadsNarrowed p n) {i j : Nat} :
    Agrees true ReadsNarrowed (p.nextAlternative i) (n.nextAlternative j) := by
  have hfinished := h.frame.finished
  unfold Progress.nextAlternative
  rw [h.frame.kind]
  split
  · exact .fault_left
  · rename_i hsingle
    split
    · rename_i hkind hn
      rw [hn] at hfinished
      obtain ⟨a, as, -, -, hp⟩ := List.forall₂_cons_right_iff.1 hfinished
      exact absurd hp (hsingle _ _ _ hkind)
    · have hcurrent := h.frame.current Narrows.isTreewise
      exact .ok ⟨⟨⟨h.frame.verbose, .cons hcurrent h.frame.finished, .nil⟩, h.frame.kind⟩, h.outer,
        h.groups, h.flags, h.behind, h.asked⟩

/-- A closed group becomes the narrowed tree of the group that is closed with it. -/
theorem closing_narrows (h : ReadsNarrowed p n) :
    Narrows p.closing.1 n.closing.1 ∧ n.closing.2 = p.closing.2 := by
  have hbody := h.frame.body Narrows.isTreewise
  have hcurrent := h.frame.current Narrows.isTreewise
  have hfinished := h.frame.finished
  unfold Progress.closing
  dsimp only
  rw [h.frame.kind, h.groups, hbody.width_eq]
  split
  · exact ⟨hbody, rfl⟩
  · exact ⟨.group _ hbody, rfl⟩
  · exact ⟨.flagged _ _ hbody, rfl⟩
  · exact ⟨.atomic hbody, rfl⟩
  · exact ⟨.look _ _ hbody, rfl⟩
  · exact ⟨.look _ _ hbody, rfl⟩
  · cases hp : p.frame.finished with
    | nil =>
      rw [hp] at hfinished
      rw [List.forall₂_nil_left_iff.1 hfinished]
      exact ⟨.conditional _ hcurrent .empty, rfl⟩
    | cons yes rest =>
      rw [hp] at hfinished
      obtain ⟨yes', rest', hyes, -, hn⟩ := List.forall₂_cons_left_iff.1 hfinished
      rw [hn]
      exact ⟨.conditional _ hyes hcurrent, rfl⟩

theorem leave (h : ReadsNarrowed p n) {f : Frame} {fs : List Frame} (hp : p.outer = f :: fs) :
    ∃ g gs, n.outer = g :: gs ∧ ReadsNarrowed (p.leave f fs) (n.leave g gs) := by
  have houter := h.outer
  rw [hp] at houter
  obtain ⟨g, gs, hframe, hrest, hn⟩ := List.forall₂_cons_left_iff.1 houter
  obtain ⟨htree, hgroups⟩ := h.closing_narrows
  refine ⟨g, gs, hn, hframe.add htree, hrest, hgroups, h.flags, ?_, h.asked⟩
  unfold Progress.leave
  dsimp only
  rw [h.frame.kind, h.behind]

theorem quantify_agrees {T : Text → Text → Prop} (hT : Corresponds T) (h : ReadsNarrowed p n)
    {s t : Text} (hs : T s t) {bounds : Bounds} {i j : Nat} :
    Agrees true (Reads ReadsNarrowed T) (p.quantify bounds i s) (n.quantify bounds j t) := by
  have hparts := h.frame.parts
  unfold Progress.quantify
  split
  · exact .fault_left
  · exact .fault_left
  · exact .fault_left
  · rename_i part parts hanchor hquantified hp
    rw [hp] at hparts
    obtain ⟨part', parts', hpart, hrest, he⟩ := List.forall₂_cons_left_iff.1 hparts
    split
    · rename_i hn
      exact absurd (hn.symm.trans he) (by simp)
    · rename_i hn
      obtain ⟨rfl, -⟩ := List.cons.inj (hn.symm.trans he)
      exact absurd hpart.eq_anchor (hanchor _)
    · rename_i hn
      obtain ⟨rfl, -⟩ := List.cons.inj (hn.symm.trans he)
      obtain ⟨body, hbody⟩ := hpart.eq_quantified
      exact absurd hbody (hquantified _ _ _ _)
    · rename_i hn
      obtain ⟨rfl, rfl⟩ := List.cons.inj (hn.symm.trans he)
      refine (readMode_agrees hT hs).bind ?_
      rintro ⟨mode, r⟩ ⟨mode', r'⟩ ⟨hmode, hr⟩
      obtain rfl : mode = mode' := hmode
      refine .ok ⟨⟨⟨⟨h.frame.verbose, h.frame.finished, ?_⟩, h.frame.kind⟩, h.outer, h.groups,
        h.flags, h.behind, h.asked⟩, hr⟩
      exact .cons (.quantified mode _ _ hpart) hrest

/-- The reader of the narrowed expression reads as much as the reader of the expression. -/
theorem goesAlong : GoesAlong true true Narrows ReadsNarrowed where
  anchor := .anchor
  backreference := .backreference
  char := .char
  surroundings := by
    intro p n h _
    rw [Progress.surroundings, Progress.surroundings, h.groups, h.behind]
  verbose := fun h => h.frame.verbose
  add := fun h hab => h.add hab
  leave := fun h hp => h.leave hp
  begin := fun h ho => h.begin_agrees ho
  nextAlternative := fun h => h.nextAlternative_agrees
  quantify := fun hT h hs => h.quantify_agrees hT hs

/-- Where the expression may end the narrowed one may end. -/
theorem checkEnd (h : ReadsNarrowed p n) (hp : p.checkEnd [] = .ok ()) : n.checkEnd [] = .ok () := by
  unfold Progress.checkEnd at hp ⊢
  split at hp
  · exact absurd hp fault_ne_ok
  · rename_i houter
    have hn : n.outer = [] := by
      have := h.outer
      rw [not_not.1 houter] at this
      exact List.forall₂_nil_left_iff.1 this
    rw [if_neg (by simpa using hn), h.flags, h.groups]
    split at hp
    · exact absurd hp (by simp)
    · rename_i hflags
      rw [if_neg hflags, if_neg (by simp)]
      rw [if_neg (by simp)] at hp
      split at hp
      · exact absurd hp fault_ne_ok
      · rename_i hfound
        have hasks := h.asks fun g => decide (p.groups.next ≤ g)
        have hnone : n.asked.find? (fun e => decide (p.groups.next ≤ e.1)) = none := by
          rw [List.find?_eq_none, ← List.any_eq_false] at hfound ⊢
          rw [hasks, hfound]
        rw [hnone]

end ReadsNarrowed

/-! ## The whole of an expression -/

/-- Narrowing meets nothing that it mistakes, and no class that a slash would change. -/
def narrowsSafely (text : Text) : Bool :=
  narrowsCleanly text && everyConstructOf (fun p s => !hyphenAt p s) text

variable {e : Text} {x : Expression}

theorem readExpression_confine (hx : readExpression e = .ok x) (h : narrowsSafely e = true) :
    ∃ b tree, confine e = some b ∧ readExpression b = .ok { x with tree } ∧
      Narrows x.tree tree := by
  rw [narrowsSafely, narrowsCleanly, Bool.and_eq_true, Bool.and_eq_true] at h
  obtain ⟨⟨hstray, hslash⟩, hhyphen⟩ := h
  obtain ⟨b, hb⟩ := Option.isSome_iff_exists.1 (isNarrowable_of_readExpression hx (by simp) hstray)
  obtain ⟨hne, p, hp, houter, -⟩ := readConstructs_of_readExpression hx
  obtain ⟨⟨⟩, -, hx⟩ := bind_eq_ok_iff.1 hx
  obtain ⟨⟨p', rest⟩, hp', hx⟩ := bind_eq_ok_iff.1 hx
  obtain ⟨rfl, rfl⟩ := Prod.mk.inj (Except.ok.inj (hp'.symm.trans hp))
  obtain ⟨⟨⟩, hend, hx⟩ := bind_eq_ok_iff.1 hx
  obtain rfl := Except.ok.inj hx
  have hspliced : Spliced true [] e b := ⟨hne, b, hb, (List.append_nil b).symm⟩
  obtain ⟨m, hm, hleads⟩ := ReadsNarrowed.goesAlong.run (.inl rfl) (fun he => absurd rfl he)
    (.start e.length b.length) hspliced (fun _ => hstray) (fun _ => hslash) (fun _ _ => hhyphen) hp
    houter (by simp)
  have hbody := hm.frame.body Narrows.isTreewise
  refine ⟨b, m.frame.body, hb, ?_, hbody⟩
  rw [readExpression, settle_ok ((Spliced.parallel (.inl rfl)).settles hspliced), ok_bind,
    hleads.readConstructs_eq, readConstructs_nil, ok_bind]
  dsimp only
  rw [hm.checkEnd hend, ok_bind, hbody.width_eq, hm.groups, hm.flags]
  rfl

/-- A narrowed expression is an expression, with the narrowed tree. -/
theorem ofText_confine (hx : Expression.ofText e = .ok x) (h : narrowsSafely e = true) :
    ∃ b tree, confine e = some b ∧ Expression.ofText b = .ok { x with tree } ∧
      Narrows x.tree tree := by
  obtain ⟨y, hy, hx⟩ := bind_eq_ok_iff.1 hx
  obtain ⟨⟨⟩, hcheck, hx⟩ := bind_eq_ok_iff.1 hx
  split at hx
  · exact absurd hx (by simp)
  · rename_i hfits
    obtain rfl := Except.ok.inj hx
    obtain ⟨b, tree, hb, hread, htree⟩ := readExpression_confine hy h
    refine ⟨b, tree, hb, ?_, htree⟩
    rw [Expression.ofText, hread, ok_bind]
    dsimp only
    rw [htree.check_eq, hcheck, ok_bind, htree.stepsTooFar_eq, if_neg hfits]
    rfl

end PathRouter.Regex

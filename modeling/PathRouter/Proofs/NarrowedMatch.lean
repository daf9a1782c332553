import PathRouter.Proofs.ChosenPoints
import PathRouter.Proofs.NarrowedReading
import PathRouter.Proofs.SpanOrder

/-!
# A narrowed expression matches the same texts without slashes

Each test of a narrowed expression passes the characters that the test it stands for passes, but for
the slash. So on a text without slashes the same way is chosen through the narrowed tree, and none
of its ways gets past a slash. Under some flags a test is changed for other characters as well: a
dot that stops at the end of a line no longer does, and a character beyond the basic plane is no
longer compared in lower case once it is one of several members.
-/

namespace PathRouter
set_option autoImplicit false

namespace Regex

variable {f : Flags}

/-! ## Tests -/

/-- Under the flags the test loses nothing but the slash when it is narrowed. -/
def CharTest.isSteady (f : Flags) : CharTest → Bool
  | any => f.dotAll
  | notLiteral c => !f.ignoreCase || decide (f.lower c < basicPlaneEnd)
  | literal _ | set _ _ => true

theorem isCased_slash (f : Flags) : f.isCased 47 = false := by
  unfold Flags.isCased
  split <;> decide +kernel

theorem isCased_single_slash (f : Flags) : (Member.single 47).isCased f = false := by
  rw [Member.isCased, isCased_slash, lower_slash]
  rfl

/-- A slash is the same as no other character. -/
theorem isSame_slash_eq (f : Flags) (c : CodePoint) : f.isSame c 47 = (c == 47) := by
  rw [Flags.isSame, isCased_slash, Bool.and_false, if_neg (by simp)]

theorem holdsFolded_slash (f : Flags) (c : CodePoint) :
    (Member.single 47).holdsFolded f (f.lower c) = (c == 47) := by
  have hsiblings : CodePoint.caseSiblings 47 = [] := by decide +kernel
  have hfolded : f.folded 47 = [47] := by
    rw [Flags.folded, lower_slash, hsiblings, ite_self]
  rw [Member.holdsFolded, lower_slash, if_neg (by decide), hfolded]
  by_cases hc : c = 47
  · subst hc
    rw [lower_slash]
    rfl
  · have hlower := lower_ne_slash f hc
    simp [hc, hlower]

/-- A slash that is added to the members of a class is the only character that is added. -/
theorem isMember_append_slash (f : Flags) (c : CodePoint) (ms : List Member) :
    f.isMember c (ms ++ [.single 47]) = (f.isMember c ms || c == 47) := by
  simp only [Flags.isMember, List.any_append, List.any_cons, List.any_nil, Bool.or_false,
    isCased_single_slash, holdsFolded_slash]
  split
  · rfl
  · rfl

theorem isMember_category (f : Flags) (c : CodePoint) (kind : Category) (negated : Bool) :
    f.isMember c [.category kind negated] = (kind.holds f.ascii c != negated) := by
  simp [Flags.isMember, Member.isCased, Member.holds]

theorem isMember_eraseDups (f : Flags) (c : CodePoint) (ms : List Member) :
    f.isMember c ms.eraseDups = f.isMember c ms := by
  have hany (test : Member → Bool) : ms.eraseDups.any test = ms.any test := by
    rw [Bool.eq_iff_iff, List.any_eq_true, List.any_eq_true]
    simp only [List.mem_eraseDups]
  simp only [Flags.isMember, hany]

/-- A negated class passes what is no member, also if it has a single one. -/
theorem holds_classTest {ms : List Member} (h : (classTest true ms).isSteady f = true) (c : Char) :
    (classTest true ms).holds f c = !f.isMember c.toNat ms := by
  rw [← isMember_eraseDups]
  unfold classTest at h ⊢
  split at h
  · rename_i code hcode
    rw [hcode]
    change (!f.ignoreCase || decide (f.lower code < basicPlaneEnd)) = true at h
    show (!f.isSame c.toNat code) = !f.isMember c.toNat [.single code]
    rw [Bool.or_eq_true, Bool.not_eq_true', decide_eq_true_eq] at h
    simp only [Flags.isSame, Flags.isMember, List.any_cons, List.any_nil, Bool.or_false,
      Member.isCased, Member.holds, Member.holdsFolded]
    obtain hcase | hbasic := h
    · simp [hcase]
    · simp [Nat.not_le.2 hbasic]
  · show (f.isMember c.toNat _ != true) = _
    simp

theorem isSteady_classTest_slash (f : Flags) (ms : List Member) :
    (classTest true (ms ++ [.single 47])).isSteady f = true := by
  have hmem : Member.single 47 ∈ (ms ++ [Member.single 47]).eraseDups :=
    List.mem_eraseDups.2 (by simp)
  unfold classTest
  split
  · rename_i code hcode
    rw [hcode, List.mem_singleton] at hmem
    obtain rfl := Member.single.inj hmem
    show (!f.ignoreCase || decide (f.lower 47 < basicPlaneEnd)) = true
    rw [lower_slash]
    simp [basicPlaneEnd]
  · rfl

theorem toNat_beq_slash (c : Char) : (c.toNat == 47) = (c == '/') := by
  rw [Bool.eq_iff_iff, beq_iff_eq, beq_iff_eq]
  exact ⟨fun he => Char.ext (UInt32.toNat.inj he), fun he => he ▸ rfl⟩

/-- Behind the look ahead a test passes what it passed, but for the slash. -/
theorem choose_guardedTest (test : CharTest) :
    (guardedTest test).choose f = Choice.single fun c => test.holds f c && c != '/' := by
  funext p g
  have hslash (c : Char) : (CharTest.literal 47).holds f c = (c == '/') :=
    (isSame_slash_eq f c.toNat).trans (toNat_beq_slash c)
  show (if ((Choice.single ((CharTest.literal 47).holds (f.update [] [])) p some).isSome != true)
    then Choice.single (test.holds (f.update [] [])) p g else none) = _
  rw [f.update_nil, funext hslash]
  unfold Choice.single
  cases p.forward? with
  | none => simp
  | some next =>
    obtain ⟨c, q⟩ := next
    by_cases hc : c = '/'
    · simp [hc]
    · simp [hc]

/-- A narrowed test chooses what the test chooses, but for the slash. -/
theorem TestMirrors.choose_eq {test : CharTest} {n : Node} (h : TestMirrors true true test n)
    (hsteady : test.isSteady f = true) :
    n.choose f = Choice.single fun c => test.holds f c && c != '/' := by
  have hchar {test' : CharTest} (hsame : ∀ c, test'.holds f c = (test.holds f c && c != '/')) :
      (Node.char test').choose f = Choice.single fun c => test.holds f c && c != '/' :=
    congrArg Choice.single (funext hsame)
  cases h with
  | same hrefuses =>
    refine hchar fun c => ?_
    by_cases hc : c = '/'
    · rw [hc, hrefuses rfl f, Bool.false_and]
    · simp [hc]
  | dot _ =>
    refine hchar fun c => ?_
    change f.dotAll = true at hsteady
    simp only [CharTest.holds, isSame_slash_eq, toNat_beq_slash, hsteady, Bool.true_or,
      Bool.true_and]
    rfl
  | shorthand kind _ =>
    refine hchar fun c => ?_
    show (f.isMember c.toNat ([.category kind false] ++ [.single 47]) != true) =
      ((f.isMember c.toNat [.category kind true] != false) && c != '/')
    rw [isMember_append_slash, isMember_category, isMember_category, toNat_beq_slash]
    cases kind.holds f.ascii c.toNat <;> cases hc : c == '/' <;> simp [bne, hc]
  | negated _ hms =>
    refine hchar fun c => ?_
    rw [hms.added rfl rfl, holds_classTest (isSteady_classTest_slash f _), holds_classTest hsteady,
      isMember_append_slash, toNat_beq_slash, Bool.not_or]
    rfl
  | guarded _ => exact choose_guardedTest test

/-! ## Trees -/

/-- Under the flags no test in the tree loses more than the slash when it is narrowed. -/
def Node.isSteady (f : Flags) : Node → Bool
  | empty | anchor _ | backreference _ => true
  | char test => test.isSteady f
  | seq a b | alt a b | conditional _ a b => a.isSteady f && b.isSteady f
  | flagged on off body => body.isSteady (f.update on off)
  | quantified _ _ _ body | group _ body | atomic body | look _ _ body => body.isSteady f

namespace Narrows

variable {n m : Node} {p q : Point}

theorem ignoresMarks_eq (h : Narrows n m) (edition : Edition) :
    m.ignoresMarks edition = n.ignoresMarks edition := by
  induction h with
  | empty => rfl
  | char htest =>
    obtain ⟨test', rfl, -⟩ | ⟨-, rfl⟩ := htest.cases
    · rfl
    · rfl
  | anchor a => rfl
  | backreference g => rfl
  | seq _ _ iha ihb => exact congrArg₂ (· && ·) iha ihb
  | alt _ _ iha ihb => exact congrArg₂ (· && ·) iha ihb
  | quantified mode least most _ ih => rw [Node.ignoresMarks, Node.ignoresMarks, ih]
  | group i _ ih => exact ih
  | flagged on off _ ih => exact ih
  | atomic _ ih => exact ih
  | look behind negated _ ih => exact ih
  | conditional g _ _ _ _ => rfl

theorem mergesFaithfully_eq (h : Narrows n m) (f : Flags) :
    m.mergesFaithfully f = n.mergesFaithfully f := by
  induction h generalizing f with
  | empty => rfl
  | char htest =>
    obtain ⟨test', rfl, -⟩ | ⟨-, rfl⟩ := htest.cases
    · rfl
    · rfl
  | anchor a => rfl
  | backreference g => rfl
  | seq _ _ iha ihb => exact congrArg₂ (· && ·) (iha f) (ihb f)
  | alt _ _ iha ihb => rw [Node.mergesFaithfully, Node.mergesFaithfully, iha, ihb]
  | quantified mode least most _ ih => exact ih f
  | group i _ ih => exact ih f
  | flagged on off _ ih => exact ih _
  | atomic _ ih => exact ih f
  | look behind negated _ ih => exact ih f
  | conditional g _ _ iha ihb => exact congrArg₂ (· && ·) (iha f) (ihb f)

/-- In a text without slashes the same way is chosen through a narrowed tree. -/
theorem agreesOn (h : Narrows n m) (hsteady : n.isSteady f = true) {w : Text} (hw : '/' ∉ w) :
    Choice.AgreesOn (InText w) (m.choose f) (n.choose f) := by
  have hkeeps (n : Node) (f : Flags) : (n.choose f).Leads fun p q => InText w p → InText w q :=
    Node.choose_leads (R := fun p q => InText w p → InText w q) (fun _ => id)
      (fun hpq hqr => hqr ∘ hpq) (fun _ _ _ hnext hp => hp.forward hnext) n
  induction h generalizing f with
  | empty => exact fun p g g' hp hg => hg p hp
  | @char test n htest =>
    intro p g g' hp hg
    rw [htest.choose_eq hsteady]
    show Choice.single _ p g = Choice.single (test.holds f) p g'
    unfold Choice.single
    cases hnext : p.forward? with
    | none => rfl
    | some next =>
      obtain ⟨c, q⟩ := next
      have hc : c ≠ '/' := fun he => hw (he ▸ hp.mem_of_forward hnext)
      simp [hc, hg q (hp.forward hnext)]
  | anchor a =>
    intro p g g' hp hg
    rw [Node.choose, Node.choose, hg p hp]
  | backreference g => exact fun _ _ _ _ _ => rfl
  | seq _ _ iha ihb =>
    obtain ⟨ha, hb⟩ := Bool.and_eq_true_iff.1 hsteady
    exact fun p g g' hp hg => iha ha p _ _ hp fun q hq => ihb hb q g g' hq hg
  | alt _ _ iha ihb =>
    obtain ⟨ha, hb⟩ := Bool.and_eq_true_iff.1 hsteady
    intro p g g' hp hg
    rw [Node.choose, Node.choose, iha ha p g g' hp hg, ihb hb p g g' hp hg]
  | quantified mode least most _ ih =>
    exact (ih hsteady).copies (hkeeps _ f) mode least most
  | group i _ ih => exact ih hsteady
  | flagged on off _ ih => exact ih hsteady
  | @atomic a a' _ ih =>
    intro p g g' hp hg
    rw [Node.choose, Node.choose, (ih hsteady).first hp]
    cases hq : a.choose f p some with
    | none => rfl
    | some q => exact hg q ((hkeeps a f).first hq hp)
  | @look behind negated a a' _ ih =>
    intro p g g' hp hg
    have hback : ∀ q, behind.elim (some p) (fun w => p.back? w.least) = some q → InText w q := by
      intro q hq
      cases behind with
      | none => exact Option.some.inj hq ▸ hp
      | some width => exact InText.retreats w p width.least q hp hq
    rw [Node.choose, Node.choose, hg p hp]
    cases hq : behind.elim (some p) fun w => p.back? w.least with
    | none => rfl
    | some q =>
      dsimp only
      rw [(ih hsteady).first (hback q hq)]
  | conditional g _ _ _ _ => exact fun _ _ _ _ _ => rfl

/-- No way through a narrowed tree gets past a slash. -/
theorem leads_slashFree (h : Narrows n m) : (m.choose f).Leads SlashFree := by
  induction h generalizing f with
  | empty => exact fun p g r hr => ⟨p, .refl p, hr⟩
  | char htest =>
    obtain ⟨test', rfl, hrefuses, -⟩ | ⟨-, rfl⟩ := htest.cases
    · refine Choice.leads_single fun p c q hnext hc => .forward ?_ hnext
      rintro rfl
      exact absurd (hc.symm.trans (hrefuses rfl f)) (by simp)
    · rw [choose_guardedTest]
      refine Choice.leads_single fun p c q hnext hc => .forward ?_ hnext
      exact bne_iff_ne.1 (Bool.and_eq_true_iff.1 hc).2
  | anchor a => exact Node.leads_anchor .refl a
  | backreference g => exact fun p g r hr => absurd hr (by simp [Node.choose])
  | seq _ _ iha ihb => exact Node.leads_seq .trans iha ihb
  | alt _ _ iha ihb => exact Node.leads_alt iha ihb
  | quantified mode least most _ ih => exact ih.copies .refl .trans mode least most
  | group i _ ih => exact ih
  | flagged on off _ ih => exact ih
  | atomic _ ih => exact Node.leads_atomic ih
  | look behind negated _ _ => exact Node.leads_look .refl behind negated
  | conditional g _ _ _ _ => exact fun p g r hr => absurd hr (by simp [Node.choose])

end Narrows

/-! ## Whole expressions -/

/-- A certificate that an expression without a slash is narrowed exactly for an edition of the
engine. Narrowing meets nothing that it mistakes, no part of the tree depends on what a group
captured, and no test of it is changed by flags for more than the slash. -/
def narrowsExactly (edition : Edition) (text : Text) : Bool :=
  narrowsSafely text &&
    match readExpression text with
    | .ok x =>
      x.tree.ignoresMarks edition && x.tree.mergesFaithfully plainFlags &&
        x.tree.isSteady plainFlags
    | .error _ => false

/-- What an expression fully matches once it is narrowed: what it matched, but for texts with a
slash. -/
theorem isSome_fullMatch_confine {e : Text} {x : Expression} {tree : Node} {edition : Edition}
    (hx : Expression.ofText e = .ok x) (hflags : x.flags = []) (htree : Narrows x.tree tree)
    (h : narrowsExactly edition e = true) (w : Text) :
    (Expression.fullMatch { x with tree } edition w).isSome = true ↔
      '/' ∉ w ∧ (x.fullMatch edition w).isSome = true := by
  rw [narrowsExactly, readExpression_of_ofText hx, Bool.and_eq_true, Bool.and_eq_true,
    Bool.and_eq_true] at h
  obtain ⟨-, ⟨hmarks, hmerges⟩, hsteady⟩ := h
  have hstart : x.startFlags = plainFlags := by simp [Expression.startFlags, hflags, plainFlags]
  let y : Expression := { x with tree }
  have hmarks' : y.tree.ignoresMarks edition = true := (htree.ignoresMarks_eq edition).trans hmarks
  have hmerges' : y.tree.mergesFaithfully y.startFlags = true :=
    (htree.mergesFaithfully_eq _).trans (hstart ▸ hmerges)
  have hsame (hw : '/' ∉ w) : tree.choose plainFlags (.ofText w 0) Point.ifLast =
      x.tree.choose plainFlags (.ofText w 0) Point.ifLast :=
    htree.agreesOn hsteady hw _ _ _ (InText.ofText w 0) fun _ _ => rfl
  have hslash (h : (tree.choose plainFlags (.ofText w 0) Point.ifLast).isSome = true) :
      '/' ∉ w := by
    obtain ⟨r, hr⟩ := Option.isSome_iff_exists.1 h
    obtain ⟨q, ⟨k, -, rfl, hfree⟩, hlast⟩ := htree.leads_slashFree _ _ r hr
    have hend : w.drop k = [] := by
      unfold Point.ifLast at hlast
      split at hlast
      · rename_i hempty
        exact List.isEmpty_iff.1 hempty
      · exact absurd hlast (by simp)
    rwa [show (Point.ofText w 0).after = w from rfl,
      List.take_of_length_le (List.drop_eq_nil_iff.1 hend)] at hfree
  have hstart' : y.startFlags = plainFlags := hstart
  rw [Expression.isSome_fullMatch_iff_choose hmarks (hstart ▸ hmerges),
    Expression.isSome_fullMatch_iff_choose hmarks' hmerges', hstart, hstart']
  constructor
  · rintro ⟨hahead, hchosen⟩
    have hw := hslash hchosen
    exact ⟨hw, hahead, hsame hw ▸ hchosen⟩
  · rintro ⟨hw, hahead, hchosen⟩
    exact ⟨hahead, (hsame hw).symm ▸ hchosen⟩

end Regex

open Regex

/-- An accepted expression is narrowed to an expression, and that matches a text if the text has no
slash and was matched before. -/
theorem fullMatch_confine_of_checkInline {e pattern : Text} {limit : Int}
    (haccepted : checkInline e pattern limit = .ok ()) (hsafe : narrowsSafely e = true) :
    ∃ x b y, Expression.ofText e = .ok x ∧ confine e = some b ∧ Expression.ofText b = .ok y ∧
      (x.flags = [] → ∀ edition, narrowsExactly edition e = true → ∀ w,
        (y.fullMatch edition w).isSome = true ↔
          '/' ∉ w ∧ (x.fullMatch edition w).isSome = true) := by
  obtain ⟨x, hx⟩ := ofText_of_checkInline haccepted
  obtain ⟨b, tree, hconfine, hb, htree⟩ := ofText_confine hx hsafe
  refine ⟨x, b, _, hx, hconfine, hb, fun hflags edition hexact => ?_⟩
  exact isSome_fullMatch_confine hx hflags htree hexact

/-- A possessive quantifier over a class with a slash, in an atomic group, beside a scoped flag. -/
theorem fullMatch_confine_of_checkInline_scoped : ∃ e x b y,
    checkInline e [] 256 = .ok () ∧ narrowsExactly .current e = true ∧
      Expression.ofText e = .ok x ∧ x.flags = [] ∧ confine e = some b ∧ Expression.ofText b = .ok y ∧
      ∀ w, (y.fullMatch .current w).isSome = true ↔
        '/' ∉ w ∧ (x.fullMatch .current w).isSome = true := by
  let e := "(?i:[^b]\\W)|(?>.?x\x7b1,2\x7d?[+-9]*+)".toList
  have haccepted : checkInline e [] 256 = .ok () := by decide +kernel
  have hsafe : narrowsSafely e = true := by decide +kernel
  have hexact : narrowsExactly .current e = true := by decide +kernel
  have hflags : (Expression.ofText e).toOption.map (·.flags) = some [] := by decide +kernel
  obtain ⟨x, b, y, hx, hb, hy, hmatch⟩ := fullMatch_confine_of_checkInline haccepted hsafe
  have hnone : x.flags = [] := by
    rw [hx] at hflags
    exact Option.some.inj hflags
  exact ⟨e, x, b, y, haccepted, hexact, hx, hnone, hb, hy, hmatch hnone .current hexact⟩

/-- A negated class that ends in a hyphen is given a range up to the slash, and so refuses a comma
that it matched. -/
theorem not_fullMatch_confine_hyphen : ∃ e x b y,
    checkInline e [] 256 = .ok () ∧ (Segment.constrained [] e).allowsSlash = false ∧
      Expression.ofText e = .ok x ∧ x.flags = [] ∧ confine e = some b ∧
      Expression.ofText b = .ok y ∧ '/' ∉ [','] ∧ (x.fullMatch .current [',']).isSome = true ∧
      (y.fullMatch .current [',']).isSome = false := by
  let e := "[^+-]".toList
  have hrun : ((Expression.ofText e).toOption.bind fun x =>
      (confine e).bind fun b => (Expression.ofText b).toOption.map fun y =>
        (x.flags, (x.fullMatch .current [',']).isSome, (y.fullMatch .current [',']).isSome)) =
      some ([], true, false) := by decide +kernel
  obtain ⟨x, hx, hrun⟩ := Option.bind_eq_some_iff.1 hrun
  obtain ⟨b, hb, hrun⟩ := Option.bind_eq_some_iff.1 hrun
  obtain ⟨y, hy, hrun⟩ := Option.map_eq_some_iff.1 hrun
  obtain ⟨hflags, hrun⟩ := Prod.mk.inj hrun
  obtain ⟨hbefore, hafter⟩ := Prod.mk.inj hrun
  exact ⟨e, x, b, y, by decide +kernel, by decide +kernel, eq_ok_of_toOption hx, hflags, hb,
    eq_ok_of_toOption hy, by decide, hbefore, hafter⟩

end PathRouter

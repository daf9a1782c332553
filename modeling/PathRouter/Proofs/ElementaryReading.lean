import PathRouter.Proofs.ElementaryText
import PathRouter.Proofs.ElementaryTree
import PathRouter.Proofs.GuardedTree
import PathRouter.Proofs.GuardQuantifier
import PathRouter.Proofs.TokenReading

/-!
# Reading elementary expressions

The reader of an elementary expression never has other groups open than such as are elementary, and
it stays in step with the depth that is counted in the text. So the tree of such an expression is
elementary, and narrowing meets nothing in it that it mistakes. The invariant is stated for any
property of trees that all trees have which such texts can spell.
-/

namespace PathRouter.Regex
set_option autoImplicit false

/-! ## The constructs of an elementary text -/

section Constructs

variable {strict : Bool} {d : Nat} {c : Char} {s rest : Text}

/-- What is known of an elementary escape that stands for its character. -/
structure IsSelfEscape (c : Char) : Prop where
  category : categoryMember? c = none
  anchor : anchorOf? c = none
  control : controlCode? c = none
  hex : hexCount? c = none
  named : c ≠ 'N'
  digit : isDigit c = false
  letter : isLetter c = false

theorem isElementaryEscape_cases (hc : isElementaryEscape c = true) :
    c ∈ ['d', 'D', 's', 'S', 'w', 'W'] ∨ c = '\\' ∨ IsSelfEscape c := by
  unfold isElementaryEscape at hc
  cases hcategory : categoryMember? c with
  | some m =>
    refine .inl ?_
    unfold categoryMember? at hcategory
    split at hcategory
    all_goals first
      | decide
      | cases hcategory
  | none =>
    simp only [hcategory, Option.isSome_none, Bool.false_or, Bool.not_eq_true',
      Bool.or_eq_false_iff] at hc
    by_cases hbackslash : c = '\\'
    · exact .inr (.inl hbackslash)
    have hletter : ∀ x, isLetter x = true → c ≠ x := by
      rintro x hx rfl
      simp [hc.2] at hx
    refine .inr (.inr ⟨hcategory, ?_, ?_, ?_, hletter 'N' (by decide), hc.1, hc.2⟩)
    · unfold anchorOf?
      split
      all_goals first
        | rfl
        | exact absurd rfl (hletter _ (by decide))
    · unfold controlCode?
      split
      all_goals first
        | rfl
        | exact absurd rfl (hletter _ (by decide))
        | exact absurd rfl hbackslash
    · unfold hexCount?
      split
      all_goals first
        | rfl
        | exact absurd rfl (hletter _ (by decide))

/-- A test is read from an elementary escape, whatever follows. It is a test for a slash only if the
slash was escaped. -/
theorem readEscape_of_elementary (hc : isElementaryEscape c = true) :
    ∃ test, (c ≠ '/' → test ≠ .literal 47) ∧ ∀ env s, readEscape env c s = .ok (.char test, s) := by
  obtain hcategory | rfl | hself := isElementaryEscape_cases hc
  · simp only [List.mem_cons, List.not_mem_nil, or_false] at hcategory
    rcases hcategory with rfl | rfl | rfl | rfl | rfl | rfl
    all_goals exact ⟨.set false [_], by simp, fun _ _ => rfl⟩
  · exact ⟨.literal 92, by simp, fun _ _ => rfl⟩
  · have hzero : c ≠ '0' := by
      rintro rfl
      exact absurd hself.digit (by decide)
    refine ⟨.literal c.toNat, fun hslash he => hslash ?_, fun env s => ?_⟩
    · exact Char.ext (UInt32.toNat.inj (CharTest.literal.inj he))
    · simp [readEscape, hself.category, hself.anchor, hself.control, hself.hex, hself.named, hzero,
        hself.digit, hself.letter, Node.ofCode]

/-- Readers of words go on within an elementary text. -/
theorem Spelled.corresponds : Corresponds (SameWith (Spelled strict d)) where
  word := by
    rintro c s t hc ⟨rfl, hs⟩
    refine ⟨s, rfl, fun _ => ⟨rfl, hs.of_char fun hm => hc ?_⟩⟩
    simp only [framers, List.mem_cons, List.not_mem_nil, or_false] at hm
    rcases hm with rfl | rfl | rfl | rfl <;> decide
  other := by
    rintro s t hs ⟨rfl, -⟩
    exact hs
  settles := by
    rintro s t ⟨rfl, hs⟩
    exact hs.ne_backslash

theorem Spelled.of_agrees {α : Type} {R : α → α → Prop} {x : Except Fault (α × Text)} {a : α}
    {rest : Text} (h : Agrees true (Reads R (SameWith (Spelled strict d))) x x)
    (hx : x = .ok (a, rest)) : Spelled strict d rest :=
  (h.related hx hx).2.2

/-- The openings of groups in elementary texts. -/
inductive PlainOpening (strict : Bool) : Opening → Prop
  | capture : PlainOpening strict (.capture none)
  | scope : PlainOpening strict (.scope [] [])
  | look : strict = false → PlainOpening strict (.look false true)

theorem readOpening_of_spelled (hs : Spelled strict d s)
    (hopen : opensPlainly s = true ∨ strict = false ∧ s.take 2 = ['?', '!']) :
    ∃ o rest, PlainOpening strict o ∧ Spelled strict d rest ∧
      ∀ env, readOpening env s = .ok (o, rest) := by
  by_cases hhead : s.head? = some '?'
  · obtain ⟨s, rfl⟩ := List.head?_eq_some_iff.1 hhead
    have hs := hs.of_char (by decide)
    have hsecond : s.head? = some ':' ∨ strict = false ∧ s.head? = some '!' := by
      cases s with
      | nil => simp [opensPlainly] at hopen
      | cons e s => simpa [opensPlainly] using hopen
    rcases hsecond with hcolon | ⟨hstrict, hbang⟩
    · obtain ⟨s, rfl⟩ := List.head?_eq_some_iff.1 hcolon
      have hs := hs.of_char (by decide)
      exact ⟨_, s, .scope, hs, fun env => readOpening_scope hs.ne_backslash⟩
    · obtain ⟨s, rfl⟩ := List.head?_eq_some_iff.1 hbang
      have hs := hs.of_char (by decide)
      refine ⟨.look false true, s, .look hstrict, hs, fun env => ?_⟩
      simp [readOpening, readExtension, readToken, settle_ok, hs.ne_backslash, ok_bind, pure,
        Except.pure]
  · refine ⟨.capture none, s, .capture, hs, fun env => ?_⟩
    rw [readOpening]
    rintro r rfl
    exact hhead rfl

/-- Bounds come in order. -/
theorem le_of_boundsOf {low high : Text} {place m : Nat} {b : Bounds}
    (h : boundsOf low high place = .ok b) (hm : b.most = some m) : b.least ≤ m := by
  have hmost {least : Nat}
      (h : (if high = [] then .ok ⟨least, none⟩
        else readCount high >>= fun most =>
          if most < least then fault .reversedBounds place
          else .ok (Bounds.mk least (some most))) = .ok b) : b.least ≤ m := by
    split at h
    · obtain rfl := Except.ok.inj h
      exact absurd hm (by simp)
    · obtain ⟨most, -, h⟩ := bind_eq_ok_iff.1 h
      split at h
      · exact absurd h fault_ne_ok
      · rename_i hle
        obtain rfl := Except.ok.inj h
        obtain rfl := Option.some.inj hm
        exact Nat.le_of_not_lt hle
  unfold boundsOf at h
  dsimp only at h
  split at h
  · exact hmost h
  · obtain ⟨least, -, h⟩ := bind_eq_ok_iff.1 h
    exact hmost h

theorem le_of_readBounds {b : Bounds} {m : Nat} (hc : isQuantifierStart c = true)
    (h : readBounds c s = .ok (some b, rest)) (hm : b.most = some m) : b.least ≤ m := by
  rcases Guard.readBounds_cases hc h with ⟨-, -, least, he⟩ | ⟨-, -, he⟩ | ⟨-, hbraces⟩
  · obtain rfl := Option.some.inj he
    exact absurd hm (by simp)
  · obtain rfl := Option.some.inj he
    exact Nat.zero_le _
  · unfold readBraces at hbraces
    split at hbraces
    · exact absurd (Prod.mk.inj (Except.ok.inj hbraces)).1 (by simp)
    · obtain ⟨⟨low, r⟩, -, hbraces⟩ := bind_eq_ok_iff.1 hbraces
      obtain ⟨⟨high, r'⟩, -, hbraces⟩ := bind_eq_ok_iff.1 hbraces
      dsimp only at hbraces
      split at hbraces
      · obtain ⟨⟨⟩, -, hbraces⟩ := bind_eq_ok_iff.1 hbraces
        obtain ⟨b', hb', hbraces⟩ := bind_eq_ok_iff.1 hbraces
        obtain rfl := Option.some.inj (Prod.mk.inj (Except.ok.inj hbraces)).1
        exact le_of_boundsOf hb' hm
      · exact absurd (Prod.mk.inj (Except.ok.inj hbraces)).1 (by simp)

/-- A quantifier is possessive only if a plus sign follows its bounds. -/
theorem mode_ne_possessive {b : Bounds} {after : Text} {mode : Mode}
    (hc : isQuantifierStart c = true) (hb : readBounds c s = .ok (some b, after))
    (hmode : readMode after = .ok (mode, rest)) (h : isPossessive c s = false) :
    mode ≠ .possessive := by
  rw [isPossessive, hc, hb] at h
  unfold readMode at hmode
  split at hmode
  · obtain ⟨⟨⟩, -, hmode⟩ := bind_eq_ok_iff.1 hmode
    obtain ⟨rfl, -⟩ := Prod.mk.inj (Except.ok.inj hmode)
    simp
  · exact absurd h (by simp)
  · obtain ⟨rfl, -⟩ := Prod.mk.inj (Except.ok.inj hmode)
    simp

end Constructs

/-! ## Open groups -/

/-- The property holds of all trees that elementary texts spell. -/
structure Spellable (strict : Bool) (good : Node → Prop) : Prop where
  empty : good .empty
  char : ∀ test, good (.char test)
  anchor : strict = false → ∀ a, good (.anchor a)
  seq : ∀ {a b}, good a → good b → good (.seq a b)
  alt : ∀ {a b}, good a → good b → good (.alt a b)
  quantified : ∀ {mode least most a}, (strict = true → mode ≠ .possessive) →
    (∀ m, most = some m → least ≤ m) → good a → good (.quantified mode least most a)
  group : ∀ i {a}, good a → good (.group i a)
  scope : ∀ {a}, good a → good (.flagged [] [] a)
  look : strict = false → ∀ {a}, good a → good (.look none true a)

section Spells

variable {strict : Bool} {good : Node → Prop} {d : Nat} {c : Char} {s rest : Text}
variable {p q : Progress} {f : Frame} {ns : List Node}

theorem Spellable.ofList (hgood : Spellable strict good) (h : ∀ n ∈ ns, good n) :
    good (.ofList ns) := by
  induction ns with
  | nil => exact hgood.empty
  | cons n ns ih =>
    rw [List.forall_mem_cons] at h
    cases ns with
    | nil => exact h.1
    | cons m ns => exact hgood.seq h.1 (ih h.2)

theorem Spellable.ofAlternatives (hgood : Spellable strict good) (h : ∀ n ∈ ns, good n) :
    good (.ofAlternatives ns) := by
  induction ns with
  | nil => exact hgood.empty
  | cons n ns ih =>
    rw [List.forall_mem_cons] at h
    cases ns with
    | nil => exact h.1
    | cons m ns => exact hgood.alt h.1 (ih h.2)

/-- The kinds of groups in elementary texts. -/
inductive PlainKind (strict : Bool) : GroupKind → Prop
  | whole : PlainKind strict .whole
  | capture (i : Nat) : PlainKind strict (.capture i)
  | scope : PlainKind strict (.scope [] [])
  | look : strict = false → PlainKind strict (.lookahead true)

/-- A group that an elementary text has opened. -/
structure Frame.Spells (strict : Bool) (good : Node → Prop) (f : Frame) : Prop where
  kind : PlainKind strict f.kind
  verbose : f.verbose = false
  finished : ∀ n ∈ f.finished, good n
  parts : ∀ n ∈ f.parts, good n

/-- The reader of an elementary text inside `depth` groups. -/
structure Progress.Spells (strict : Bool) (good : Node → Prop) (depth : Nat) (p : Progress) :
    Prop where
  depth : p.outer.length = depth
  frames : ∀ f ∈ p.frame :: p.outer, f.Spells strict good
  flags : p.flags = []
  asked : p.asked = []

theorem Frame.Spells.start {kind : GroupKind} (hkind : PlainKind strict kind) (place : Nat) :
    (Frame.start kind place false).Spells strict good :=
  ⟨hkind, rfl, fun _ hn => absurd hn List.not_mem_nil, fun _ hn => absurd hn List.not_mem_nil⟩

theorem Frame.Spells.push {parts : List Node} {n : Node} (h : f.Spells strict good)
    (hparts : ∀ m ∈ parts, m ∈ f.parts) (hn : good n) :
    ({ f with parts := n :: parts } : Frame).Spells strict good where
  kind := h.kind
  verbose := h.verbose
  finished := h.finished
  parts := List.forall_mem_cons.2 ⟨hn, fun m hm => h.parts m (hparts m hm)⟩

theorem Frame.Spells.current (hgood : Spellable strict good) (h : f.Spells strict good) :
    good f.current :=
  hgood.ofList fun n hn => h.parts n (List.mem_reverse.1 hn)

theorem Frame.Spells.body (hgood : Spellable strict good) (h : f.Spells strict good) :
    good f.body := by
  apply hgood.ofAlternatives
  intro n hn
  rcases List.mem_cons.1 (List.mem_reverse.1 hn) with rfl | hn
  · exact h.current hgood
  · exact h.finished n hn

namespace Progress.Spells

theorem start (length : Nat) : (Progress.start length).Spells strict good 0 :=
  ⟨rfl, List.forall_mem_singleton.2 (.start .whole length), rfl, rfl⟩

theorem top (h : p.Spells strict good d) : p.frame.Spells strict good :=
  h.frames _ (List.mem_cons_self ..)

/-- The innermost group goes on. -/
theorem replace (h : p.Spells strict good d) (hf : f.Spells strict good) :
    { p with frame := f }.Spells strict good d where
  depth := h.depth
  frames := List.forall_mem_cons.2 ⟨hf, fun g hg => h.frames g (List.mem_cons_of_mem _ hg)⟩
  flags := h.flags
  asked := h.asked

theorem add (h : p.Spells strict good d) {n : Node} (hn : good n) :
    (p.add n).Spells strict good d :=
  h.replace (h.top.push (fun _ hm => hm) hn)

theorem enter (h : p.Spells strict good d) {kind : GroupKind} (hkind : PlainKind strict kind)
    (place : Nat) : (p.enter kind place p.frame.verbose).Spells strict good (d + 1) where
  depth := congrArg (· + 1) h.depth
  frames := List.forall_mem_cons.2 ⟨h.top.verbose ▸ .start hkind place, h.frames⟩
  flags := h.flags
  asked := h.asked

theorem closing (hgood : Spellable strict good) (h : p.Spells strict good d) :
    good p.closing.1 := by
  have hbody := h.top.body hgood
  have hkind := h.top.kind
  unfold Progress.closing
  generalize p.frame.kind = kind at hkind
  cases hkind with
  | whole => exact hbody
  | capture i => exact hgood.group i hbody
  | scope => exact hgood.scope hbody
  | look hstrict => exact hgood.look hstrict hbody

theorem leave (hgood : Spellable strict good) (h : p.Spells strict good (d + 1)) {fs : List Frame}
    (houter : p.outer = f :: fs) : (p.leave f fs).Spells strict good d := by
  have hrest : ∀ g ∈ f :: fs, g.Spells strict good := fun g hg =>
    h.frames g (List.mem_cons_of_mem _ (houter ▸ hg))
  rw [List.forall_mem_cons] at hrest
  refine ⟨?_, List.forall_mem_cons.2 ⟨?_, hrest.2⟩, h.flags, h.asked⟩
  · have := h.depth
    rw [houter] at this
    exact Nat.succ.inj this
  · exact hrest.1.push (fun _ hm => hm) (h.closing hgood)

theorem begin (h : p.Spells strict good d) {o : Opening} (ho : PlainOpening strict o)
    {place : Nat} {r : Text} (hq : p.begin place r o = .ok q) : q.Spells strict good (d + 1) := by
  cases ho with
  | capture =>
    obtain rfl := Except.ok.inj hq
    have henter := h.enter (.capture p.groups.next) place
    exact ⟨henter.depth, henter.frames, henter.flags, henter.asked⟩
  | scope =>
    obtain rfl := Except.ok.inj hq
    have henter := h.enter .scope place
    simpa using henter
  | look hstrict =>
    obtain rfl := Except.ok.inj hq
    exact h.enter (.look hstrict) place

theorem nextAlternative (hgood : Spellable strict good) (h : p.Spells strict good d) {left : Nat}
    (hq : p.nextAlternative left = .ok q) : q.Spells strict good d := by
  unfold Progress.nextAlternative at hq
  split at hq
  · exact absurd hq fault_ne_ok
  · obtain rfl := Except.ok.inj hq
    exact h.replace ⟨h.top.kind, h.top.verbose,
      List.forall_mem_cons.2 ⟨h.top.current hgood, h.top.finished⟩,
      fun _ hn => absurd hn List.not_mem_nil⟩

/-- A construct of an elementary text leads on to elementary text. -/
theorem step (hgood : Spellable strict good) (hp : p.Spells strict good d)
    (hs : Spelled strict d (c :: s)) (h : step p (c :: s) = .ok (q, rest)) :
    ∃ d', q.Spells strict good d' ∧ Spelled strict d' rest := by
  have hquiet : p.frame.verbose ≠ true := by simp [hp.top.verbose]
  cases construct_of_step h with
  | backslash => exact absurd rfl hs.ne_backslash
  | escape hn =>
    cases hs with
    | escape hc hs =>
      obtain ⟨test, -, htest⟩ := readEscape_of_elementary hc
      obtain ⟨rfl, rfl⟩ := Prod.mk.inj (Except.ok.inj ((htest _ _).symm.trans hn))
      exact ⟨d, hp.add (hgood.char test), hs⟩
    | char hc _ _ => exact absurd (by decide) hc
  | bar hq => exact ⟨d, hp.nextAlternative hgood hq, hs.of_char (by decide)⟩
  | close houter =>
    cases hs with
    | close hs => exact ⟨_, hp.leave hgood houter, hs⟩
    | char hc _ _ => exact absurd (by decide) hc
  | blank hv _ => exact absurd hv hquiet
  | line hv _ _ => exact absurd hv hquiet
  | «class» hne htest =>
    cases hs with
    | «class» hsplit _ hs =>
      obtain ⟨-, body, hbody⟩ := readClass_split hne htest
      obtain ⟨-, rfl⟩ := Prod.mk.inj (Option.some.inj (hsplit.symm.trans hbody))
      exact ⟨d, hp.add (hgood.char _), hs⟩
    | char hc _ _ => exact absurd (by decide) hc
  | brace hstart hread =>
    have hs := hs.of_char (not_mem_framers_of_isQuantifierStart hstart)
    have hrest := Spelled.of_agrees (readBounds_agrees Spelled.corresponds c ⟨rfl, hs⟩) hread
    exact ⟨d, hp.add (hgood.char _), hrest⟩
  | quantifier hstart hread hq =>
    have hc := not_mem_framers_of_isQuantifierStart hstart
    have hafter := Spelled.of_agrees
      (readBounds_agrees Spelled.corresponds c ⟨rfl, hs.of_char hc⟩) hread
    obtain ⟨part, parts, mode, hparts, -, hmode, rfl⟩ := Guard.quantify_eq_ok hq
    have hrest := Spelled.of_agrees (readMode_agrees Spelled.corresponds ⟨rfl, hafter⟩) hmode
    refine ⟨d, hp.replace (hp.top.push (fun m hm => by simp [hparts, hm]) ?_), hrest⟩
    refine hgood.quantified (fun hstrict => ?_) (fun m => le_of_readBounds hstart hread)
      (hp.top.parts part (by simp [hparts]))
    exact mode_ne_possessive hstart hread hmode ((hs.char_cases hc).1 hstrict).2.2
  | opening _ ho hq =>
    cases hs with
    | opening hopen hs =>
      obtain ⟨o, r, hplain, hr, ho'⟩ := readOpening_of_spelled hs hopen
      obtain ⟨rfl, rfl⟩ := Prod.mk.inj (Except.ok.inj ((ho' _).symm.trans ho))
      exact ⟨d + 1, hp.begin hplain hq, hr⟩
    | char hc _ _ => exact absurd (by decide) hc
  | anchor hc =>
    have hframer : c ∉ framers := by rcases hc with rfl | rfl <;> decide
    refine ⟨d, hp.add (hgood.anchor ?_ _), hs.of_char hframer⟩
    cases hstrict : strict with
    | false => rfl
    | true =>
      obtain ⟨hup, hend, -⟩ := (hs.char_cases hframer).1 hstrict
      exact absurd hc (not_or.2 ⟨hup, hend⟩)
  | char hc _ hclose =>
    refine ⟨d, hp.add (hgood.char _), hs.of_char ?_⟩
    simp only [List.mem_cons, List.not_mem_nil, or_false, not_or] at hc
    simp only [framers, List.mem_cons, List.not_mem_nil, or_false, not_or]
    refine ⟨hc.1, hc.2.2.1, hc.2.2.2.1, ?_⟩
    rintro rfl
    have hdepth := hp.depth
    rw [hclose rfl] at hdepth
    cases hs with
    | close _ => exact absurd hdepth (by simp)
    | char hc _ _ => exact absurd (by decide) hc

/-- The reader leaves an elementary text with elementary text, whichever tests it passes. -/
theorem run (hgood : Spellable strict good) (hp : p.Spells strict good d)
    (hs : Spelled strict d s) (h : readConstructs p s = .ok (q, rest)) :
    ∃ d', q.Spells strict good d' ∧ Spelled strict d' rest := by
  refine (leads_of_readConstructs h).keeps
    (P := fun q t => ∃ d', q.Spells strict good d' ∧ Spelled strict d' t) ?_ ⟨d, hp, hs⟩
  rintro p q c s rest - hstep ⟨d, hp, hs⟩
  exact hp.step hgood hs hstep

/-- Every construct of an elementary text passes a test that such constructs pass. -/
theorem everyConstruct (hgood : Spellable strict good) {start : Text} {test : Progress → Text → Bool}
    (htest : ∀ {d p c s}, p.Spells strict good d → Spelled strict d (c :: s) →
      Tokenwise start (c :: s) → test p (c :: s) = true)
    (hp : p.Spells strict good d) (hs : Spelled strict d s) (hstart : Tokenwise start s) :
    everyConstruct test p s = true := by
  fun_induction Regex.everyConstruct test p s generalizing d with
  | case1 => rfl
  | case2 => rfl
  | case3 p c s _ ih =>
    rw [htest hp hs hstart, Bool.true_and]
    split
    · rfl
    · rename_i q r hstep
      obtain ⟨d', hq, hr⟩ := hp.step hgood hs hstep
      exact ih q r hstep hq hr (hstart.step hstep)

end Progress.Spells

end Spells

/-! ## The whole of an elementary expression -/

theorem Tokenwise.mem {start s : Text} {c : Char} (h : Tokenwise start s) (hc : c ∈ s) :
    c ∈ start := by
  induction h with
  | start _ => exact hc
  | escape _ _ ih => exact ih (List.mem_cons_of_mem _ (List.mem_cons_of_mem _ hc))
  | char _ _ _ ih => exact ih (List.mem_cons_of_mem _ hc)

theorem spellable_elementary : Spellable true (Node.Elementary false) where
  empty := .empty
  char := .char
  anchor h := absurd h (by simp)
  seq := .seq
  alt := .alt
  quantified hmode hmost h := .quantified (hmode rfl) hmost h
  group := .group
  scope := .scope
  look h := absurd h (by simp)

section Whole

variable {e : Text} {x : Expression}

/-- What is read of an elementary text is an elementary tree without flags. -/
theorem Spelled.of_readExpression {strict : Bool} {good : Node → Prop}
    (hgood : Spellable strict good) (hs : Spelled strict 0 e) (h : readExpression e = .ok x) :
    good x.tree ∧ x.flags = [] := by
  obtain ⟨⟨⟩, hsettle, h⟩ := bind_eq_ok_iff.1 h
  obtain ⟨⟨p, rest⟩, hp, h⟩ := bind_eq_ok_iff.1 h
  obtain ⟨⟨⟩, -, h⟩ := bind_eq_ok_iff.1 h
  obtain rfl := Except.ok.inj h
  obtain ⟨d, hspells, -⟩ := (Progress.Spells.start e.length).run hgood hs hp
  exact ⟨hspells.top.body hgood, hspells.flags⟩

/-- In an elementary text no comment begins. -/
theorem strayAt_of_spelled {strict : Bool} {good : Node → Prop} {d : Nat} {p : Progress}
    {cs : List Char} {s : Text} (hp : p.Spells strict good d) (hs : Spelled strict d s) :
    strayAt cs p s = false := by
  unfold strayAt
  split
  · cases hs with
    | opening hopen _ => simp [opensPlainly] at hopen
    | char hc _ _ => exact absurd (by decide) hc
  · simp [hp.top.verbose]
  · rfl

/-- In an elementary text only a slash denotes a slash. -/
theorem slashAt_of_spelled {strict : Bool} {d : Nat} {p : Progress} {s : Text}
    (hs : Spelled strict d s) (hslash : '/' ∉ s) : slashAt p s = false := by
  unfold slashAt
  split
  · rename_i c rest
    cases hs with
    | escape hc _ =>
      obtain ⟨test, hne, htest⟩ := readEscape_of_elementary hc
      have hc : c ≠ '/' := by
        rintro rfl
        exact hslash (by simp)
      simpa [htest, Node.ofCode] using hne hc
    | char hc _ _ => exact absurd (by decide) hc
  · rename_i c rest hesc
    rw [beq_eq_false_iff_ne]
    rintro rfl
    exact hslash (List.mem_cons_self ..)
  · rfl

/-- Narrowing meets nothing in an elementary expression that it mistakes. -/
theorem narrowsCleanly_of_spelled (hs : Spelled true 0 e) (hslash : '/' ∉ e) :
    narrowsCleanly e = true := by
  have hstart : Progress.Spells true (fun _ => True) 0 (.start e.length) := .start e.length
  have hall : Spellable true fun _ => True := by constructor <;> intros <;> trivial
  refine Bool.and_eq_true_iff.2 ⟨?_, ?_⟩
  · refine hstart.everyConstruct hall (fun hp hs _ => ?_) hs (.start hs.ne_backslash)
    rw [strayAt_of_spelled hp hs]
    rfl
  · refine hstart.everyConstruct hall (fun _ hs htokens => ?_) hs (.start hs.ne_backslash)
    rw [slashAt_of_spelled hs fun hm => hslash (htokens.mem hm)]
    rfl

end Whole

end PathRouter.Regex

import PathRouter.Proofs.GuardOpening
import PathRouter.Proofs.GuardedTree
import PathRouter.Proofs.InlineGroup

/-!
# Accepted expressions are guarded

The guard goes along with the reader, construct by construct. It stands where the reader does, or
behind the quantifier that follows a group: that one it takes together with the parenthesis. What
must not happen is that the reader sees a quantifier after a group where the guard did not look for
one. Three things bring the two apart: a comment with brackets in it, a comment or blank between a
group and its quantifier, and a brace with digits of another script, which the guard takes for
bounds.
-/

namespace PathRouter
set_option autoImplicit false

namespace Guard

open Regex

/-! ## What brings guard and reader apart -/

/-- A quantifier comes here that asks for more than one copy. -/
def repeatsAt (s : Text) : Bool :=
  match quantifier? s with
  | .ok (some (repetition, _)) => repetition.isRepeated
  | _ => false

/-- A comment begins here, or a blank that is skipped. -/
def skippedAt (p : Progress) : Text → Bool
  | '(' :: '?' :: '#' :: _ => true
  | c :: _ => p.frame.verbose && (CodePoint.isAsciiBlank c.toNat || c == '#')
  | [] => false

/-- What is skipped here parts something that must not be repeated from its quantifier. -/
def partedAt (p : Progress) (s : Text) : Bool :=
  skippedAt p s && p.frame.parts.head?.any Node.isUnrepeatable &&
    match Regex.step p s with
    | .ok (_, rest) => repeatsAt rest
    | .error _ => false

/-- The brace here stands for itself, but not to the guard. -/
def misreadAt : Text → Bool
  | '\x7b' :: s =>
    (readBounds '\x7b' s matches .ok (none, _)) && !(quantifier? ('\x7b' :: s) matches .ok none)
  | _ => false

/-- Nothing in the expression brings guard and reader apart. -/
def keepsAlong (text : Text) : Bool :=
  everyConstructOf (fun p s => !(strayAt brackets p s || partedAt p s || misreadAt s)) text

/-! ## Going along -/

/-- The guard stands where the reader does, or behind the quantifier there. -/
def StandsAt (marks : Marks) (s t : Text) : Prop :=
  t = s ∨ ∃ repetition, quantifier? s = .ok (some (repetition, t)) ∧
    (repetition = .unbounded → marks.unbounded = true)

/-- The reader has come to `s` and the guard to `t`. The marks cover all groups that are open, and
no quantifier comes that the latest part must not have. -/
structure Along (p : Progress) (s : Text) (marks : Marks) (around : List Marks) (t : Text) :
    Prop where
  frame : CoversFrame p.frame marks
  outer : List.Forall₂ CoversFrame p.outer around
  names : p.groups.names = []
  latest : ∀ n, p.frame.parts.head? = some n → n.isUnrepeatable = true → repeatsAt s = false
  stands : StandsAt marks s t
  accepts : Accepts ⟨marks, around, false⟩ t

/-- The guard goes along with the reader up to here. -/
def IsAlong (p : Progress) (s : Text) : Prop :=
  ∃ marks outer t, Along p s marks outer t

section Steps

variable {p q : Progress} {c : Char} {n : Node} {s t rest : Text}
variable {marks marks' : Marks} {outer : List Marks}

/-- Before anything but a quantifier the guard stands where the reader does. -/
theorem Along.here (h : Along p (c :: s) marks outer t) (hc : isQuantifierStart c = false) :
    Accepts ⟨marks, outer, false⟩ (c :: s) := by
  rcases h.stands with rfl | ⟨repetition, hq, -⟩
  · exact h.accepts
  · rw [quantifier?_of_not_start hc] at hq
    exact absurd (Except.ok.inj hq) (by simp)

theorem Along.add (h : Along p s marks outer t) (hn : Covers .clear n)
    (haccepts : Accepts ⟨marks, outer, false⟩ rest) : IsAlong (p.add n) rest := by
  refine ⟨marks, outer, rest, ?_, h.outer, h.names, ?_, .inl rfl, haccepts⟩
  · exact h.frame.push (fun m hm => hm) (hn.mono (grows_clear marks))
  · intro m hm hrepeat
    obtain rfl := Option.some.inj hm
    exact absurd (hn.isUnrepeatable.symm.trans hrepeat) Bool.false_ne_true

/-- The guard finds a quantifier after a group only if the group is free to be repeated. -/
theorem Accepts.leave (h : Accepts ⟨marks, outer, false⟩ (')' :: s)) :
    ∃ parent around marks' t, outer = parent :: around ∧ parent.Grows marks' ∧
      marks.Grows marks' ∧ StandsAt marks' s t ∧ Accepts ⟨marks', around, false⟩ t ∧
        (repeatsAt s = true → marks = .clear) := by
  obtain ⟨found, hq, hfault, ⟨-, hr⟩ | ⟨parent, around, rfl, haccepts⟩⟩ :=
    h.closing .accepted trivial
  · exact absurd hr (by simp)
  refine ⟨parent, around, _, _, rfl, ⟨fun hm => ?_, fun hm => ?_⟩, ⟨fun hm => ?_, fun hm => ?_⟩, ?_,
    haccepts, fun hrepeats => ?_⟩
  · simp [Marks.absorb, hm]
  · simp [Marks.absorb, hm]
  · simp [Marks.absorb, hm]
  · simp [Marks.absorb, hm]
  · cases found with
    | none => exact .inl rfl
    | some x =>
      obtain ⟨repetition, t⟩ := x
      refine .inr ⟨repetition, hq, fun hr => ?_⟩
      simp [Marks.absorb, hr]
  · unfold repeatsAt at hrepeats
    rw [hq] at hrepeats
    cases found with
    | none => exact absurd hrepeats Bool.false_ne_true
    | some x => exact eq_clear_of_fault? hfault hrepeats

theorem latest_of_not_partedAt (hpart : partedAt p s = false) (hskip : skippedAt p s = true)
    (hstep : Regex.step p s = .ok (q, rest)) :
    ∀ n, p.frame.parts.head? = some n → n.isUnrepeatable = true → repeatsAt rest = false := by
  intro n hn hrepeat
  unfold partedAt at hpart
  rw [hskip, hn, hstep] at hpart
  simpa [hrepeat] using hpart

/-- Something is skipped. -/
theorem Along.skip (h : Along p s marks outer t) (hgrows : marks.Grows marks')
    (hlatest : ∀ n, p.frame.parts.head? = some n → n.isUnrepeatable = true →
      repeatsAt rest = false) {t' : Text}
    (hstands : StandsAt marks' rest t') (haccepts : Accepts ⟨marks', outer, false⟩ t') :
    IsAlong p rest :=
  ⟨marks', outer, t', h.frame.mono hgrows, h.outer, h.names, hlatest, hstands, haccepts⟩

theorem Along.escape (h : Along p ('\\' :: c :: s) marks outer t)
    (hn : readEscape p.surroundings c s = .ok (n, rest)) : IsAlong (p.add n) rest := by
  obtain ⟨haccepts, hnumber⟩ := (h.here (by decide)).escape .accepted
  have hdigit : ¬(Regex.isDigit c = true ∧ c ≠ '0') := by
    rintro ⟨hdigit, hzero⟩
    exact hnumber ⟨isAnyDigit_of_isDigit hdigit, hzero⟩
  obtain ⟨used, rfl, hused⟩ := readEscape_used hn hdigit
  refine h.add ?_ (haccepts.escapeTail hused)
  rcases readEscape_cases hn with ⟨a, rfl⟩ | ⟨g, rfl⟩ | ⟨code, rfl⟩ | ⟨m, -, rfl⟩
  · exact .anchor a
  · exact absurd (isDigit_of_backreference hn) hdigit
  · exact .char _
  · exact .char _

theorem Along.close {f : Frame} {fs : List Frame} (h : Along p (')' :: s) marks outer t)
    (houter : p.outer = f :: fs) : IsAlong (p.leave f fs) s := by
  obtain ⟨parent, around, marks', t', rfl, hparent, hinner, hstands, haccepts, hclear⟩ :=
    (h.here (by decide)).leave
  have hframes := h.outer
  rw [houter] at hframes
  obtain ⟨hf, hfs⟩ := List.forall₂_cons.1 hframes
  refine ⟨marks', around, t', ?_, hfs, ?_, ?_, hstands, haccepts⟩
  · exact (hf.mono hparent).push (fun m hm => hm) (h.frame.closing.mono hinner)
  · exact (closing_names p).trans h.names
  · intro n hn hrepeat
    obtain rfl := Option.some.inj hn
    rw [← Bool.not_eq_true]
    intro hrepeats
    have htree := h.frame.closing
    rw [hclear hrepeats] at htree
    exact absurd (htree.isUnrepeatable.symm.trans hrepeat) Bool.false_ne_true

theorem skippedAt_verbose (hverbose : p.frame.verbose = true)
    (hc : (CodePoint.isAsciiBlank c.toNat || c == '#') = true) : skippedAt p (c :: s) = true := by
  unfold skippedAt
  split
  · rfl
  · rename_i heq
    obtain ⟨rfl, rfl⟩ := List.cons.inj heq
    rw [hverbose, hc, Bool.and_self]
  · rename_i heq
    exact absurd heq (by simp)

theorem Along.line (h : Along p ('#' :: s) marks outer t) (hverbose : p.frame.verbose = true)
    (hs : s ≠ ['\\']) (hquiet : strayAt brackets p ('#' :: s) = false)
    (hpart : partedAt p ('#' :: s) = false) (hread : readLine s = .ok rest)
    (hstep : Regex.step p ('#' :: s) = .ok (p, rest)) : IsAlong p rest := by
  have hlatest := latest_of_not_partedAt hpart (skippedAt_verbose hverbose (by decide)) hstep
  have hquiet' : holdsBefore '\n' brackets s = false := by
    simpa [strayAt, hverbose] using hquiet
  have hinside := (h.here (by decide)).plain (by decide)
  obtain ⟨marks', hgrows, ⟨r, -, hr, -, haccepts⟩ | ⟨hnil, haccepts⟩⟩ :=
    hinside.skip .accepted skips_line (by decide) hs trivial hquiet' hread
  · obtain rfl : rest = r := hr
    exact h.skip hgrows hlatest (.inl rfl) (haccepts.plain (by decide))
  · obtain rfl := Except.ok.inj hnil
    exact h.skip hgrows hlatest (.inl rfl) haccepts

/-- Both take the same quantifier, the guard now or before. -/
theorem Along.taken {after : Text} {b : Bounds} {mode : Mode} (h : Along p (c :: s) marks outer t)
    (hc : isQuantifierStart c = true) (hb : readBounds c s = .ok (some b, after))
    (hmode : readMode after = .ok (mode, rest)) :
    ∃ repetition marks', quantifier? (c :: s) = .ok (some (repetition, rest)) ∧
      AtMost b repetition ∧ marks.Grows marks' ∧
      (repetition = .unbounded → marks'.unbounded = true) ∧
      Accepts ⟨marks', outer, false⟩ rest := by
  rcases h.stands with rfl | ⟨repetition, hfound, hmarked⟩
  · have hspecial : isSpecial c = false := by
      simp only [isQuantifierStart, Bool.or_eq_true, beq_iff_eq] at hc
      rcases hc with ((rfl | rfl) | rfl) | rfl <;> decide
    obtain ⟨found, hfound, hmarked⟩ := h.accepts.quantifier hspecial
    obtain ⟨repetition, rfl, hmost⟩ := quantifier?_agrees hc hb hmode hfound
    refine ⟨repetition, _, hfound, hmost, .repeated marks _, fun hr => ?_, hmarked _ _ rfl⟩
    simp [hr]
  · obtain ⟨repetition', he, hmost⟩ := quantifier?_agrees hc hb hmode hfound
    obtain ⟨rfl, rfl⟩ := Prod.mk.inj (Option.some.inj he)
    exact ⟨repetition, marks, hfound, hmost, .refl marks, hmarked, h.accepts⟩

theorem Along.quantifier {after : Text} {b : Bounds} (h : Along p (c :: s) marks outer t)
    (hc : isQuantifierStart c = true) (hb : readBounds c s = .ok (some b, after)) {place : Nat}
    (hq : p.quantify b place after = .ok (q, rest)) : IsAlong q rest := by
  obtain ⟨part, parts, mode, hparts, hfirst, hmode, rfl⟩ := quantify_eq_ok hq
  obtain ⟨repetition, marks', hfound, hmost, hgrows, hmarked, haccepts⟩ := h.taken hc hb hmode
  have hpart : Covers marks' part := (h.frame.parts part (by simp [hparts])).mono hgrows
  have hfree : Node.isRepeating b.most = true → part.isUnrepeatable = false := by
    intro hmany
    rw [← Bool.not_eq_true]
    intro hrepeat
    have hrepeats : repeatsAt (c :: s) = false := h.latest part (by rw [hparts]; rfl) hrepeat
    unfold repeatsAt at hrepeats
    rw [hfound] at hrepeats
    exact absurd (hmany.symm.trans (hmost.isRepeating hrepeats)) (by simp)
  refine ⟨marks', outer, rest, ?_, h.outer, h.names, ?_, .inl rfl, haccepts⟩
  · refine (h.frame.mono hgrows).push (fun m hm => by simp [hparts, hm]) ?_
    apply hpart.quantified
    · intro hnone
      exact hmarked (hmost.unbounded hnone)
    · intro hmany
      exact Node.holds_eq_false_of_not_isUnrepeatable (hfree hmany) hfirst
  · intro n hn hrepeat
    obtain rfl := Option.some.inj hn
    exact absurd hrepeat Bool.false_ne_true

/-- The reader and the guard both open a group. -/
theorem Along.enter (h : Along p s marks outer t) (kind : GroupKind) {place : Nat} {verbose : Bool}
    (hkind : isPassedKind kind = true)
    (hq : q.frame = .start kind place verbose ∧ q.outer = p.frame :: p.outer ∧
      q.groups.names = p.groups.names)
    (haccepts : Accepts ⟨.clear, marks :: outer, false⟩ rest) : IsAlong q rest := by
  obtain ⟨hframe, houter, hnames⟩ := hq
  refine ⟨.clear, marks :: outer, rest, ?_, ?_, hnames.trans h.names, ?_, .inl rfl, haccepts⟩
  · rw [hframe]
    exact .start hkind place verbose .clear
  · rw [houter]
    exact .cons h.frame h.outer
  · intro n hn
    rw [hframe] at hn
    exact absurd hn (by simp [Frame.start])

theorem begin_globals {on : List Flag} {place : Nat}
    (h : p.begin place rest (.globals on) = .ok q) : p.frame.parts = [] ∧
      q = { p with
        flags := q.flags
        frame := { p.frame with verbose := q.frame.verbose } } := by
  unfold Progress.begin at h
  dsimp only at h
  split at h
  · rename_i hstart
    simp only [Bool.and_eq_true, List.isEmpty_iff] at hstart
    obtain rfl := Except.ok.inj h
    exact ⟨hstart.2, rfl⟩
  · exact absurd h fault_ne_ok

/-- Flags for the whole expression are a group to the guard. They come before everything else, so
that a quantifier behind them has nothing to repeat. -/
theorem Along.globals {on : List Flag} {place : Nat} (h : Along p s marks outer t)
    (haccepts : Accepts ⟨.clear, marks :: outer, false⟩ (')' :: rest))
    (hq : p.begin place rest (.globals on) = .ok q) : IsAlong q rest := by
  obtain ⟨parent, around, marks', t', he, hgrows, -, hstands, hafter, -⟩ := haccepts.leave
  obtain ⟨rfl, rfl⟩ := List.cons.inj he
  obtain ⟨hparts, he⟩ := begin_globals hq
  have hframe := h.frame.mono hgrows
  rw [he]
  refine ⟨marks', outer, t', ?_, h.outer, h.names, ?_, hstands, hafter⟩
  · exact ⟨hframe.kind, hframe.parts, hframe.finished, hframe.alternatives⟩
  · intro n hn
    rw [hparts] at hn
    exact absurd hn (by simp)

/-- A comment is a group to the guard, which may take the quantifier behind it. -/
theorem Along.comment {place : Nat} (h : Along p s marks outer t) {text : Text}
    (haccepts : Accepts ⟨.clear, marks :: outer, false⟩ text) (htext : text ≠ ['\\'])
    (hquiet : holdsBefore ')' brackets text = false)
    (hread : readComment place text = .ok (.comment, rest))
    (hlatest : ∀ n, p.frame.parts.head? = some n → n.isUnrepeatable = true →
      repeatsAt rest = false) : IsAlong p rest := by
  obtain ⟨inner, -, ⟨r, -, hr, -, hclosed⟩ | ⟨hnil, -⟩⟩ :=
    haccepts.skip .accepted (skips_comment _) (by decide) htext trivial hquiet hread
  · obtain rfl := (Prod.mk.inj hr).2
    obtain ⟨parent, around, marks', t', he, hgrows, -, hstands, hafter, -⟩ := Accepts.leave hclosed
    obtain ⟨rfl, rfl⟩ := List.cons.inj he
    exact h.skip hgrows hlatest hstands hafter
  · exact absurd hnil fault_ne_ok

theorem Along.opening {o : Opening} {place : Nat} (h : Along p ('(' :: s) marks outer t)
    (hquiet : strayAt brackets p ('(' :: s) = false) (hpart : partedAt p ('(' :: s) = false)
    (ho : readOpening p.surroundings s = .ok (o, rest)) (hq : p.begin place rest o = .ok q)
    (hstep : Regex.step p ('(' :: s) = .ok (q, rest)) : IsAlong q rest := by
  obtain ⟨hrefused, haccepts⟩ := (h.here (by decide)).opening .accepted
  cases passedOpening_of_readOpening ho hrefused with
  | capture hhead =>
    obtain rfl := Except.ok.inj hq
    exact h.enter (.capture p.groups.next) rfl ⟨rfl, rfl, rfl⟩ haccepts
  | word hword hne hw =>
    have hafter := haccepts.questionMark hne hw
    rcases hword with rfl | ⟨on, off, rfl⟩
    · obtain rfl := Except.ok.inj hq
      exact h.enter .atomic rfl ⟨rfl, rfl, rfl⟩ hafter
    · obtain rfl := Except.ok.inj hq
      exact h.enter (.scope on off) rfl ⟨rfl, rfl, rfl⟩ hafter
  | globals hne hw => exact h.globals (haccepts.questionMark hne hw) hq
  | comment hs hread =>
    obtain rfl := Except.ok.inj hq
    refine h.comment ?_ hs hquiet hread (latest_of_not_partedAt hpart rfl hstep)
    exact haccepts.questionMark (w := ['#']) (by simp) (List.forall_mem_singleton.2 (by decide))

theorem quantifier?_of_not_misreadAt (hread : readBounds '\x7b' s = .ok (none, rest))
    (h : misreadAt ('\x7b' :: s) = false) : quantifier? ('\x7b' :: s) = .ok none := by
  cases hfound : quantifier? ('\x7b' :: s) with
  | error e => simp [misreadAt, hread, hfound] at h
  | ok found =>
    cases found with
    | none => rfl
    | some x => simp [misreadAt, hread, hfound] at h

theorem Along.brace (h : Along p (c :: s) marks outer t) (hc : isQuantifierStart c = true)
    (hread : readBounds c s = .ok (none, rest)) (hbrace : misreadAt (c :: s) = false) :
    IsAlong (p.add (.ofCode c.toNat)) rest := by
  rcases readBounds_cases hc hread with ⟨-, -, least, he⟩ | ⟨-, -, he⟩ | ⟨rfl, hbraces⟩
  · exact absurd he (by simp)
  · exact absurd he (by simp)
  · obtain rfl := eq_of_readBraces_none hbraces
    have hnone := quantifier?_of_not_misreadAt hread hbrace
    refine h.add (.char _) ?_
    rcases h.stands with rfl | ⟨repetition, hfound, -⟩
    · exact h.accepts.char (by decide) hnone
    · exact absurd (hnone.symm.trans hfound) (by simp)

theorem Along.bar {left : Nat} (h : Along p ('|' :: s) marks outer t)
    (hq : p.nextAlternative left = .ok q) : IsAlong q s := by
  obtain ⟨hframe, hparts, houter, hgroups⟩ := h.frame.nextAlternative hq
  refine ⟨_, outer, s, hframe, ?_, ?_, ?_, .inl rfl, (h.here (by decide)).bar⟩
  · rw [houter]
    exact h.outer
  · rw [hgroups]
    exact h.names
  · intro n hn
    rw [hparts] at hn
    exact absurd hn (by simp)

/-- A character that is read as one part. -/
theorem Along.plain (h : Along p (c :: s) marks outer t) (hn : Covers .clear n)
    (hc : isPlain c = true) : IsAlong (p.add n) s :=
  h.add hn ((h.here (not_start_of_isPlain hc)).plain hc)

/-- One construct is read, and the guard goes along. -/
theorem Along.step (h : Along p (c :: s) marks outer t) (hc : c ≠ ')' ∨ p.outer ≠ [])
    (hquiet : strayAt brackets p (c :: s) = false) (hpart : partedAt p (c :: s) = false)
    (hbrace : misreadAt (c :: s) = false) (hstep : Regex.step p (c :: s) = .ok (q, rest)) :
    IsAlong q rest := by
  cases construct_of_step hstep with
  | backslash => exact h.add (.char _) (by simp [Yields, scanFrom])
  | escape hn => exact h.escape hn
  | bar hq => exact h.bar hq
  | close houter => exact h.close houter
  | blank hverbose hblank =>
    have hplain := isPlain_of_isAsciiBlank hblank
    have hskip := skippedAt_verbose (s := s) hverbose (Bool.or_eq_true_iff.2 (.inl hblank))
    exact h.skip (.refl marks) (latest_of_not_partedAt hpart hskip hstep) (.inl rfl)
      ((h.here (not_start_of_isPlain hplain)).plain hplain)
  | line hverbose hs hread => exact h.line hverbose hs hquiet hpart hread hstep
  | «class» hs hread =>
    obtain ⟨-, body, hsplit⟩ := readClass_split hs hread
    exact h.add (.char _) ((h.here (by decide)).class hsplit)
  | brace hstart hread => exact h.brace hstart hread hbrace
  | quantifier hstart hb hq => exact h.quantifier hstart hb hq
  | opening hs ho hq => exact h.opening hquiet hpart ho hq hstep
  | anchor hc =>
    refine h.plain (.anchor _) ?_
    rcases hc with rfl | rfl <;> decide
  | char hother hstart hclose =>
    refine h.plain (.char _) ?_
    have hright : c ≠ ')' := fun he => hc.elim (· he) (· (hclose he))
    simp only [List.mem_cons, List.not_mem_nil, or_false, not_or] at hother
    simp [isPlain, isSpecial, hstart, hother, hright]

/-- The guard goes along to where the reader ends. -/
theorem IsAlong.run {end' : Progress × Text} (h : IsAlong p s)
    (hclear : everyConstruct
      (fun p s => !(strayAt brackets p s || partedAt p s || misreadAt s)) p s = true)
    (hread : readConstructs p s = .ok end') : IsAlong end'.1 end'.2 := by
  refine (leads_of_readConstructs hread).keeps_of_every hclear ?_ h
  rintro p q c s rest hc hstep htest ⟨marks, outer, t, h⟩
  rw [Bool.not_eq_true', Bool.or_eq_false_iff, Bool.or_eq_false_iff] at htest
  obtain ⟨⟨hquiet, hpart⟩, hbrace⟩ := htest
  exact h.step hc hquiet hpart hbrace hstep

end Steps

end Guard

open Guard

/-- An accepted expression passes the scan. -/
theorem accepts_of_checkInline {expression pattern : Text} {limit : Int}
    (h : checkInline expression pattern limit = .ok ()) :
    Accepts ⟨.clear, [], false⟩ expression := by
  unfold checkInline at h
  dsimp only at h
  split at h
  · exact absurd h (by simp)
  · split at h
    · split at h <;> exact absurd h (by simp)
    · split at h
      · exact absurd h (by simp)
      · exact absurd h (by simp)
      · assumption

/-- What the guard accepts has no named group, no reference, no look around and no conditional, and
repeats nothing that holds something unbounded or an alternation, if nothing brings the guard apart
from the reader. -/
theorem isGuarded_of_checkInline {expression pattern : Text} {limit : Int}
    (h : checkInline expression pattern limit = .ok ()) (halong : keepsAlong expression = true) :
    ∃ x, Regex.Expression.ofText expression = .ok x ∧ x.names = [] ∧ x.tree.isGuarded = true := by
  obtain ⟨x, hx⟩ := ofText_of_checkInline h
  obtain ⟨-, p, hread, houter, htree, hnames⟩ :=
    readConstructs_of_readExpression (readExpression_of_ofText hx)
  have hstart : IsAlong (.start expression.length) expression := by
    refine ⟨.clear, [], expression, .start rfl _ _ _, .nil, rfl, ?_, .inl rfl,
      accepts_of_checkInline h⟩
    intro n hn
    exact absurd hn (by simp [Regex.Progress.start, Regex.Frame.start])
  obtain ⟨marks, outer, t, hend⟩ := hstart.run halong hread
  refine ⟨x, hx, ?_, ?_⟩
  · rw [hnames]
    exact hend.names
  · rw [htree]
    exact hend.frame.body.guarded

theorem isGuarded_of_checkInline_verbose :
    ∃ expression : Text, checkInline expression [] 256 = .ok () ∧ keepsAlong expression = true ∧
      ∃ x, Regex.Expression.ofText expression = .ok x ∧ x.names = [] ∧ x.tree.isGuarded = true := by
  let expression := "(?x: ([a|(]+) \x7b1\x7d # once\n | \\u0031*? )(?:\\d\x7b2,3\x7d)++".toList
  have hcheck : checkInline expression [] 256 = .ok () := by decide +kernel
  have halong : keepsAlong expression = true := by decide +kernel
  exact ⟨expression, hcheck, halong, isGuarded_of_checkInline hcheck halong⟩

/-- The guard accepts the expression although something in it is repeated that must not be. -/
def IsMissed (expression : Text) : Prop :=
  checkInline expression [] 256 = .ok () ∧
    ∃ x, Regex.Expression.ofText expression = .ok x ∧ x.tree.isGuarded = false

/-- A comment parts a group from its quantifier, a bracket in a comment opens a group, and a digit of
another script makes bounds of a brace. Each lets a repeated quantifier through. -/
theorem not_isGuarded_of_checkInline :
    IsMissed "(a+)(?#)+".toList ∧ IsMissed "(a+(?#()b)+".toList ∧
      IsMissed "(a\x7b\u0661\x7d+)+".toList := by
  have hmissed {e : Text} (hcheck : checkInline e [] 256 = .ok ())
      (htree : (Regex.Expression.ofText e).toOption.map (·.tree.isGuarded) = some false) :
      IsMissed e := by
    obtain ⟨x, hx, htree⟩ := Option.map_eq_some_iff.1 htree
    exact ⟨hcheck, x, eq_ok_of_toOption hx, htree⟩
  refine ⟨?_, ?_, ?_⟩
  · exact hmissed (by decide +kernel) (by decide +kernel)
  · exact hmissed (by decide +kernel) (by decide +kernel)
  · exact hmissed (by decide +kernel) (by decide +kernel)

end PathRouter

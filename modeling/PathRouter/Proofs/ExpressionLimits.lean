import PathRouter.Proofs.GuardOpening
import PathRouter.Proofs.GuardedTree
import PathRouter.Proofs.ReaderLimits

/-!
# Expressions within the limits

Besides numerals and codes an expression has two limits: a look behind may be too wide, and both
character sets may be asked for. A text without look behinds can only reach the second, and that only
by flags that stand before everything else.
-/

namespace PathRouter.Regex
set_option autoImplicit false

/-- The conditions on a tree are no limits. -/
theorem Ordinary.check (template : Bool) (n : Node) : Ordinary (n.check template) := by
  induction n with
  | empty => exact .ok _
  | char _ => exact .ok _
  | anchor _ => exact .ok _
  | backreference _ => exact .ok _
  | seq a b iha ihb => exact iha.bind fun _ _ => ihb
  | alt a b iha ihb => exact iha.bind fun _ _ => ihb
  | conditional _ a b iha ihb => exact iha.bind fun _ _ => ihb
  | quantified mode _ _ a ih =>
    rw [Node.check]
    split
    · exact .malformed _ _
    · exact ih
  | group _ a ih => exact ih
  | flagged _ _ a ih => exact ih
  | atomic a ih => exact ih
  | look behind _ a ih =>
    cases behind with
    | none => exact ih
    | some w =>
      refine Ordinary.bind ?_ fun _ _ => ih
      unfold Width.check
      split <;> simp

/-! ## No look behind -/

theorem stepsTooFar_ofAlternatives {ns : List Node} (h : ∀ n ∈ ns, n.stepsTooFar = false) :
    (Node.ofAlternatives ns).stepsTooFar = false := by
  induction ns with
  | nil => rfl
  | cons n ns ih =>
    rw [List.forall_mem_cons] at h
    cases ns with
    | nil => exact h.1
    | cons m ns => simp only [Node.ofAlternatives, Node.stepsTooFar, h.1, ih h.2, Bool.or_self]

/-- The group is no look behind and holds none that is too wide. -/
structure Frame.IsNear (f : Frame) : Prop where
  kind : ∀ negated outermost, f.kind ≠ .lookbehind negated outermost
  parts : ∀ n ∈ f.parts, n.stepsTooFar = false
  finished : ∀ n ∈ f.finished, n.stepsTooFar = false

namespace Frame.IsNear

variable {f : Frame}

theorem start {kind : GroupKind} (place : Nat) (verbose : Bool)
    (h : ∀ negated outermost, kind ≠ .lookbehind negated outermost) :
    (Frame.start kind place verbose).IsNear :=
  ⟨h, fun _ hn => absurd hn List.not_mem_nil, fun _ hn => absurd hn List.not_mem_nil⟩

theorem current (h : f.IsNear) : f.current.stepsTooFar = false :=
  stepsTooFar_ofList fun n hn => h.parts n (List.mem_reverse.1 hn)

theorem body (h : f.IsNear) : f.body.stepsTooFar = false := by
  apply stepsTooFar_ofAlternatives
  intro n hn
  rcases List.mem_cons.1 (List.mem_reverse.1 hn) with rfl | hn
  · exact h.current
  · exact h.finished n hn

/-- The latest part is put in the place of `f.parts`. -/
theorem push {parts : List Node} {n : Node} (h : f.IsNear) (hparts : ∀ m ∈ parts, m ∈ f.parts)
    (hn : n.stepsTooFar = false) : ({ f with parts := n :: parts } : Frame).IsNear where
  kind := h.kind
  parts := List.forall_mem_cons.2 ⟨hn, fun m hm => h.parts m (hparts m hm)⟩
  finished := h.finished

theorem closing {p : Progress} (h : p.frame.IsNear) : p.closing.1.stepsTooFar = false := by
  have hbody := h.body
  have hkind := h.kind
  unfold Progress.closing
  cases hk : p.frame.kind with
  | whole => exact hbody
  | capture i => exact hbody
  | scope on off => exact hbody
  | atomic => exact hbody
  | lookahead negated => exact hbody
  | lookbehind negated o => exact absurd hk (hkind negated o)
  | conditional g =>
    dsimp only
    split
    · simp [Node.stepsTooFar, h.current]
    · rename_i yes rest hfs
      have hyes := h.finished yes (by simp [hfs])
      simp [Node.stepsTooFar, h.current, hyes]

end Frame.IsNear

/-- A look behind is told from the text after its parenthesis. -/
theorem looksBehind_of_readOpening {env : Surroundings} {s rest : Text} {negated : Bool}
    (h : readOpening env s = .ok (.look true negated, rest)) : looksBehind s = true := by
  unfold readOpening at h
  split at h
  · rename_i s
    obtain ⟨⟨⟩, hsettle, h⟩ := bind_eq_ok_iff.1 h
    cases s with
    | nil => exact absurd h fault_ne_ok
    | cons c s =>
      by_cases hesc : c = '\\'
      · subst hesc
        exact absurd h (readExtension_narrowable (by decide) (settle_eq_ok_iff.1 hsettle))
      · rw [readExtension_char hesc] at h
        obtain ⟨⟨⟩, -, h⟩ := bind_eq_ok_iff.1 h
        unfold extensionOf at h
        split at h
        · obtain ⟨name, he⟩ | ⟨g, he⟩ := named_of_readNamedConstruct h <;> exact absurd he (by simp)
        · exact absurd (Prod.mk.inj (Except.ok.inj h)).1 (by simp)
        · exact absurd (Guard.eq_comment_of_readComment h) (by simp)
        · exact absurd (Prod.mk.inj (Except.ok.inj h)).1 (by simp)
        · exact absurd (Prod.mk.inj (Except.ok.inj h)).1 (by simp)
        · unfold readBehind at h
          split at h
          · simp [looksBehind]
          · simp [looksBehind]
          · exact absurd h unknownToken_ne_ok
        · obtain ⟨name, g, a, -, -, he⟩ := readConditional_eq h
          exact absurd he (by simp)
        · exact absurd (Prod.mk.inj (Except.ok.inj h)).1 (by simp)
        · split at h
          · have hword := Guard.readOn_used h
            generalize c :: s = t at hword
            cases hword
          · exact absurd h fault_ne_ok
  · exact absurd (Prod.mk.inj (Except.ok.inj h)).1 (by simp)

/-- What an opening parenthesis does to the reader: it opens a group, adds a part, does nothing, or
sets flags before everything else. -/
theorem begin_cases {p q : Progress} {place : Nat} {rest : Text} {o : Opening}
    (h : p.begin place rest o = .ok q) :
    (∃ kind verbose, q.frame = .start kind place verbose ∧ q.outer = p.frame :: p.outer ∧
      q.flags = p.flags ∧
      ∀ negated outermost, kind = .lookbehind negated outermost → o = .look true negated) ∨
    (∃ g, q = p.add (.backreference g)) ∨ (o = .comment ∧ q = p) ∨
    ((∃ on, o = .globals on) ∧ (p.outer = [] ∧ p.frame.finished = [] ∧ p.frame.parts = []) ∧
      q.outer = p.outer ∧ q.frame = { p.frame with verbose := q.frame.verbose }) := by
  cases o with
  | capture name =>
    unfold Progress.begin at h
    dsimp only at h
    split at h
    · exact absurd h fault_ne_ok
    · obtain rfl := Except.ok.inj h
      exact .inl ⟨_, _, rfl, rfl, rfl, nofun⟩
  | scope on off =>
    obtain rfl := Except.ok.inj h
    exact .inl ⟨_, _, rfl, rfl, rfl, nofun⟩
  | atomic =>
    obtain rfl := Except.ok.inj h
    exact .inl ⟨_, _, rfl, rfl, rfl, nofun⟩
  | look behind negated =>
    cases behind with
    | false =>
      obtain rfl := Except.ok.inj h
      exact .inl ⟨_, _, rfl, rfl, rfl, nofun⟩
    | true =>
      obtain rfl := Except.ok.inj h
      refine .inl ⟨_, _, rfl, rfl, rfl, fun n b he => ?_⟩
      obtain ⟨rfl, -⟩ := GroupKind.lookbehind.inj he
      rfl
  | conditional g asked =>
    unfold Progress.begin at h
    dsimp only at h
    split at h
    · split at h
      · obtain rfl := Except.ok.inj h
        exact .inl ⟨_, _, rfl, rfl, rfl, nofun⟩
      · obtain rfl := Except.ok.inj h
        exact .inl ⟨_, _, rfl, rfl, rfl, nofun⟩
    · obtain rfl := Except.ok.inj h
      exact .inl ⟨_, _, rfl, rfl, rfl, nofun⟩
  | reference g =>
    obtain rfl := Except.ok.inj h
    exact .inr (.inl ⟨g, rfl⟩)
  | comment =>
    obtain rfl := Except.ok.inj h
    exact .inr (.inr (.inl ⟨rfl, rfl⟩))
  | globals on =>
    unfold Progress.begin at h
    dsimp only at h
    split at h
    · rename_i hstart
      simp only [Bool.and_eq_true, List.isEmpty_iff, and_assoc] at hstart
      obtain rfl := Except.ok.inj h
      exact .inr (.inr (.inr ⟨⟨on, rfl⟩, hstart, rfl, rfl⟩))
    · exact absurd h fault_ne_ok

/-- No open group is a look behind, and nothing that was read is one that is too wide. -/
def Progress.IsNear (p : Progress) : Prop :=
  ∀ f ∈ p.frame :: p.outer, f.IsNear

section Steps

variable {p q : Progress} {c : Char} {s rest : Text}

theorem Progress.IsNear.replace {f : Frame} (h : p.IsNear) (hq : q.frame = f)
    (houter : q.outer = p.outer) (hf : f.IsNear) : q.IsNear := by
  intro g hg
  rw [hq, houter] at hg
  rcases List.mem_cons.1 hg with rfl | hg
  · exact hf
  · exact h g (List.mem_cons_of_mem _ hg)

theorem Progress.IsNear.add (h : p.IsNear) {n : Node} (hn : n.stepsTooFar = false) :
    (p.add n).IsNear :=
  h.replace rfl rfl ((h _ (List.mem_cons_self ..)).push (fun _ hm => hm) hn)

theorem Progress.IsNear.leave (h : p.IsNear) {f : Frame} {fs : List Frame}
    (houter : p.outer = f :: fs) : (p.leave f fs).IsNear := by
  have htop := h p.frame (List.mem_cons_self ..)
  have hf := h f (by simp [houter])
  intro g hg
  rcases List.mem_cons.1 hg with rfl | hg
  · exact hf.push (fun _ hm => hm) htop.closing
  · refine h g ?_
    rw [houter]
    exact List.mem_cons_of_mem _ (List.mem_cons_of_mem _ hg)

/-- A construct of a text without look behinds is none, and what it quantifies or closes holds
none. -/
theorem Progress.IsNear.step (h : p.IsNear) (hs : staysInLimits (c :: s) = true)
    (hstep : step p (c :: s) = .ok (q, rest)) : q.IsNear := by
  have htop := h p.frame (List.mem_cons_self ..)
  cases construct_of_step hstep with
  | backslash => exact h.add rfl
  | escape hn =>
    apply h.add
    obtain ⟨a, rfl⟩ | ⟨g, rfl⟩ | ⟨code, rfl⟩ | ⟨m, -, rfl⟩ := readEscape_cases hn <;> rfl
  | bar hq =>
    unfold Progress.nextAlternative at hq
    split at hq
    · exact absurd hq fault_ne_ok
    · obtain rfl := Except.ok.inj hq
      refine h.replace rfl rfl ⟨htop.kind, fun _ hn => absurd hn List.not_mem_nil, ?_⟩
      exact List.forall_mem_cons.2 ⟨htop.current, htop.finished⟩
  | close houter => exact h.leave houter
  | blank _ _ => exact h
  | line _ _ _ => exact h
  | «class» _ _ => exact h.add rfl
  | brace _ _ => exact h.add rfl
  | quantifier _ _ hq =>
    obtain ⟨part, parts, mode, hparts, -, -, rfl⟩ := Guard.quantify_eq_ok hq
    refine h.replace rfl rfl (htop.push (fun m hm => by simp [hparts, hm]) ?_)
    exact htop.parts part (by simp [hparts])
  | opening _ ho hq =>
    obtain ⟨kind, verbose, hframe, houter, -, hbehind⟩ | ⟨g, rfl⟩ | ⟨-, rfl⟩ |
        ⟨-, -, houter, hframe⟩ := begin_cases hq
    · intro f hf
      rw [hframe, houter] at hf
      rcases List.mem_cons.1 hf with rfl | hf
      · refine .start _ _ fun negated outermost he => ?_
        rw [hbehind negated outermost he] at ho
        rw [staysInLimits_char (by decide), charFits, looksBehind_of_readOpening ho] at hs
        exact absurd hs (by simp)
      · exact h f hf
    · exact h.add rfl
    · exact h
    · exact h.replace hframe houter ⟨htop.kind, htop.parts, htop.finished⟩
  | anchor _ => exact h.add rfl
  | char _ _ _ => exact h.add rfl

/-! ## No flags -/

/-- Something stands before the place, so that flags for the whole expression come too late. -/
def Progress.HasBegun (p : Progress) : Prop :=
  p.outer ≠ [] ∨ p.frame.finished ≠ [] ∨ p.frame.parts ≠ []

/-- What a construct does to the flags: it is skipped, or flags come too late after it, or it sets
flags itself. -/
theorem begun_of_step (hstep : step p (c :: s) = .ok (q, rest)) :
    (q = p ∧ (p.frame.verbose = true ∨
      c = '(' ∧ readOpening p.surroundings s = .ok (.comment, rest))) ∨
    (q.HasBegun ∧ q.flags = p.flags) ∨
    (¬p.HasBegun ∧ c = '(' ∧ ∃ on, readOpening p.surroundings s = .ok (.globals on, rest)) := by
  have hadd {n : Node} : (p.add n).HasBegun ∧ (p.add n).flags = p.flags :=
    ⟨.inr (.inr (List.cons_ne_nil _ _)), rfl⟩
  cases construct_of_step hstep with
  | backslash => exact .inr (.inl hadd)
  | escape _ => exact .inr (.inl hadd)
  | bar hq =>
    unfold Progress.nextAlternative at hq
    split at hq
    · exact absurd hq fault_ne_ok
    · obtain rfl := Except.ok.inj hq
      exact .inr (.inl ⟨.inr (.inl (List.cons_ne_nil _ _)), rfl⟩)
  | close _ => exact .inr (.inl ⟨.inr (.inr (List.cons_ne_nil _ _)), rfl⟩)
  | blank hverbose _ => exact .inl ⟨rfl, .inl hverbose⟩
  | line hverbose _ _ => exact .inl ⟨rfl, .inl hverbose⟩
  | «class» _ _ => exact .inr (.inl hadd)
  | brace _ _ => exact .inr (.inl hadd)
  | quantifier _ _ hq =>
    obtain ⟨part, parts, mode, -, -, -, rfl⟩ := Guard.quantify_eq_ok hq
    exact .inr (.inl ⟨.inr (.inr (List.cons_ne_nil _ _)), rfl⟩)
  | opening _ hread hq =>
    obtain ⟨kind, verbose, -, houter, hflags, -⟩ | ⟨g, rfl⟩ | ⟨rfl, rfl⟩ |
        ⟨⟨on, rfl⟩, ⟨ho, hf, hp⟩, -, -⟩ := begin_cases hq
    · exact .inr (.inl ⟨.inl (by simp [houter]), hflags⟩)
    · exact .inr (.inl hadd)
    · exact .inl ⟨rfl, .inr ⟨rfl, hread⟩⟩
    · exact .inr (.inr ⟨by simp [Progress.HasBegun, ho, hf, hp], rfl, on, hread⟩)
  | anchor _ => exact .inr (.inl hadd)
  | char _ _ _ => exact .inr (.inl hadd)

theorem Progress.HasBegun.step (h : p.HasBegun) (hstep : step p (c :: s) = .ok (q, rest)) :
    q.HasBegun ∧ q.flags = p.flags := by
  obtain ⟨rfl, -⟩ | hbegun | ⟨hnot, -⟩ := begun_of_step hstep
  · exact ⟨h, rfl⟩
  · exact hbegun
  · exact absurd h hnot

theorem Progress.HasBegun.run {end' : Progress × Text} (h : p.HasBegun)
    (hread : readConstructs p s = .ok end') : end'.1.flags = p.flags := by
  refine ((leads_of_readConstructs hread).keeps
    (P := fun q _ => q.HasBegun ∧ q.flags = p.flags) ?_ ⟨h, rfl⟩).2
  rintro p' q c s rest - hstep ⟨hbegun, hflags⟩
  obtain ⟨hbegun', hflags'⟩ := hbegun.step hstep
  exact ⟨hbegun', hflags'.trans hflags⟩

/-- The text begins with a construct that is neither skipped nor sets flags. -/
def beginsPlainly : Text → Bool
  | '(' :: '?' :: 'P' :: _ | '(' :: '?' :: '=' :: _ => true
  | c :: _ => c != '('
  | [] => true

theorem readOpening_named {env : Surroundings} {o : Opening}
    (h : readOpening env ('?' :: 'P' :: s) = .ok (o, rest)) :
    o ≠ .comment ∧ ∀ on, o ≠ .globals on := by
  obtain ⟨⟨⟩, -, h⟩ := bind_eq_ok_iff.1 h
  rw [readExtension_char (by decide)] at h
  obtain ⟨⟨⟩, -, h⟩ := bind_eq_ok_iff.1 h
  obtain ⟨name, rfl⟩ | ⟨g, rfl⟩ := named_of_readNamedConstruct h <;> exact ⟨nofun, nofun⟩

theorem readOpening_ahead {env : Surroundings} {o : Opening}
    (h : readOpening env ('?' :: '=' :: s) = .ok (o, rest)) :
    o ≠ .comment ∧ ∀ on, o ≠ .globals on := by
  obtain ⟨⟨⟩, -, h⟩ := bind_eq_ok_iff.1 h
  rw [readExtension_char (by decide)] at h
  obtain ⟨⟨⟩, -, h⟩ := bind_eq_ok_iff.1 h
  obtain ⟨rfl, -⟩ := Prod.mk.inj (Except.ok.inj h)
  exact ⟨nofun, nofun⟩

/-- A text that begins with a construct has no flags for the whole expression. -/
theorem flags_of_beginsPlainly {end' : Progress × Text} (hv : p.frame.verbose = false)
    (hs : beginsPlainly s = true) (hread : readConstructs p s = .ok end') :
    Progress.flags end'.1 = p.flags := by
  fun_cases readConstructs p s with
  | case1 =>
    rw [readConstructs_nil] at hread
    obtain rfl := Except.ok.inj hread
    rfl
  | case2 c s hend =>
    rw [readConstructs, if_pos hend] at hread
    obtain rfl := Except.ok.inj hread
    rfl
  | case3 c s hgoes f hstep =>
    rw [readConstructs_cons (not_and_or.1 hgoes), hstep] at hread
    exact absurd hread (by simp [bind, Except.bind])
  | case4 c s hgoes q rest hstep =>
    rw [readConstructs_step (not_and_or.1 hgoes) hstep] at hread
    have hopen {o : Opening} (hc : c = '(') (ho : readOpening p.surroundings s = .ok (o, rest)) :
        o ≠ .comment ∧ ∀ on, o ≠ .globals on := by
      subst hc
      unfold beginsPlainly at hs
      split at hs
      · rename_i he
        obtain ⟨-, rfl⟩ := List.cons.inj he
        exact readOpening_named ho
      · rename_i he
        obtain ⟨-, rfl⟩ := List.cons.inj he
        exact readOpening_ahead ho
      · rename_i he
        obtain ⟨rfl, -⟩ := List.cons.inj he
        exact absurd hs (by simp)
      · rename_i he
        exact absurd he (by simp)
    obtain ⟨-, hverbose | ⟨hc, ho⟩⟩ | ⟨hbegun, hflags⟩ | ⟨-, hc, on, ho⟩ := begun_of_step hstep
    · exact absurd (hverbose.symm.trans hv) (by simp)
    · exact absurd rfl (hopen hc ho).1
    · exact (hbegun.run hread).trans hflags
    · exact absurd rfl ((hopen hc ho).2 on)

end Steps

/-! ## Whole expressions -/

theorem Progress.IsNear.run {p : Progress} {s : Text} {end' : Progress × Text} (h : p.IsNear)
    (hne : s ≠ ['\\']) (hs : staysInLimits s = true) (hread : readConstructs p s = .ok end') :
    Progress.IsNear end'.1 := by
  refine ((leads_of_readConstructs hread).keeps
    (P := fun q t => q.IsNear ∧ Tokenwise s t) ?_ ⟨h, .start hne⟩).1
  rintro p' q c t rest - hstep ⟨hnear, ht⟩
  exact ⟨hnear.step (ht.staysInLimits hs) hstep, ht.step hstep⟩

theorem Progress.start_isNear (length : Nat) : (Progress.start length).IsNear := by
  intro f hf
  obtain rfl := List.mem_singleton.1 hf
  exact .start _ _ nofun

theorem bind_eq_error_iff {α β : Type} {x : Except Fault α} {g : α → Except Fault β} {f : Fault} :
    (x >>= g) = .error f ↔ x = .error f ∨ ∃ a, x = .ok a ∧ g a = .error f := by
  cases x <;> simp [bind, Except.bind]

theorem checkEnd_verdict {p : Progress} {rest : Text} {f : Fault}
    (h : p.checkEnd rest = .error f) : f.isMalformed = true ∨
      f = .charsetConflict ∧ (p.flags.contains .ascii && p.flags.contains .unicode) = true := by
  unfold Progress.checkEnd at h
  split at h
  · exact .inl (Ordinary.fault _ _ f h)
  · split at h
    · obtain rfl := Except.error.inj h
      exact .inr ⟨rfl, ‹_›⟩
    · refine .inl ?_
      split at h
      · exact Ordinary.fault _ _ f h
      · split at h
        · exact Ordinary.fault _ _ f h
        · exact absurd h (by simp)

/-- A text within the limits is an expression, or malformed, or it asks for both character sets. -/
theorem ofText_verdict {text : Text} {f : Fault} (hs : staysInLimits text = true)
    (h : Expression.ofText text = .error f) : f.isMalformed = true ∨
      f = .charsetConflict ∧ ∃ end', readConstructs (.start text.length) text = .ok end' ∧
        (end'.1.flags.contains .ascii && end'.1.flags.contains .unicode) = true := by
  obtain hread | ⟨x, hread, h⟩ := bind_eq_error_iff.1 h
  · obtain hsettle | ⟨⟨⟩, hsettle, hread⟩ := bind_eq_error_iff.1 hread
    · exact .inl (Ordinary.settle _ f hsettle)
    · have hne := settle_eq_ok_iff.1 hsettle
      obtain hread | ⟨end', hend', hread⟩ := bind_eq_error_iff.1 hread
      · exact .inl (Ordinary.readConstructs hne hs f hread)
      · obtain hcheck | ⟨-, -, hread⟩ := bind_eq_error_iff.1 hread
        · exact (checkEnd_verdict hcheck).imp_right fun hflags => ⟨hflags.1, end', hend', hflags.2⟩
        · exact absurd hread (by simp [pure, Except.pure])
  · obtain hcheck | ⟨⟨⟩, -, h⟩ := bind_eq_error_iff.1 h
    · exact .inl (Ordinary.check _ _ f hcheck)
    · obtain ⟨hne, p, hp, -, htree, -⟩ := readConstructs_of_readExpression hread
      have hnear := (Progress.start_isNear text.length).run hne hs hp
      rw [htree, (hnear _ (List.mem_cons_self ..)).body] at h
      exact absurd h (by simp [pure, Except.pure])

/-- A text within the limits that begins with a construct is an expression, or malformed. -/
theorem Ordinary.ofText {text : Text} (hs : staysInLimits text = true)
    (hbegins : beginsPlainly text = true) : Ordinary (Expression.ofText text) := by
  intro f h
  obtain hf | ⟨-, end', hread, hflags⟩ := ofText_verdict hs h
  · exact hf
  · rw [flags_of_beginsPlainly rfl hbegins hread] at hflags
    exact absurd hflags (by simp [Progress.start])

end PathRouter.Regex

import PathRouter.Proofs.ElementaryReading

/-!
# Elementary expressions by themselves

An elementary expression that is compiled as part of a pattern is an expression by itself, and so is
what narrowing makes of it. What could go wrong is seen in either place: a range that is out of
order, or a quantifier with nothing before it. Hence the group of such an expression holds the image
of the tree that its text has alone.
-/

namespace PathRouter.Regex
set_option autoImplicit false

/-- A class is read again where something else follows it. -/
theorem readClass_again {s body after next r : Text} {test : CharTest}
    (hsplit : Confine.splitClass s = some (body, after)) (hafter : after ≠ ['\\'])
    (h : readClass (body ++ ']' :: next) = .ok (test, r)) : readClass s = .ok (test, after) := by
  have hnext : Confine.splitClass (body ++ ']' :: next) = some (body, next) := by
    simpa using splitClass_append (r := next) hsplit .nil
  have hbody : ClassBody false next after (body ++ ']' :: next) s :=
    ⟨body, hnext, by simp [splitClass_eq hsplit, addedSlash]⟩
  have hread : Agrees true _ (readClass (body ++ ']' :: next)) (readClass s) :=
    readClass_agrees hafter (by simp) hbody
  obtain ⟨⟨test', after'⟩, htest', -, hrest, hsame⟩ := hread.exists_related h
  obtain rfl : after' = after := hrest
  obtain rfl : test' = test := hsame.same rfl
  exact htest'

/-! ## Quantifiers -/

section Quantifiers

variable {strict : Bool} {d : Nat} {c : Char} {s tail : Text} {first : Nat} {base : List Frame}
variable {names : List Nat} {p n : Progress}

theorem Spelled.spliced (hs : Spelled strict d s) (tail : Text) :
    Spliced false (')' :: tail) s (s ++ ')' :: tail) :=
  ⟨hs.ne_backslash, s, rfl, rfl⟩

/-- An elementary text before a closing parenthesis, and by itself. -/
def BeforeClosing (strict : Bool) (d : Nat) (tail t s : Text) : Prop :=
  t = s ++ ')' :: tail ∧ Spelled strict d s

theorem BeforeClosing.corresponds : Corresponds (BeforeClosing strict d tail) where
  word := by
    rintro c t s hc ⟨he, hs⟩
    cases s with
    | nil =>
      obtain ⟨rfl, -⟩ := List.cons.inj he
      exact absurd (by decide) hc
    | cons e s =>
      obtain ⟨rfl, rfl⟩ := List.cons.inj he
      refine ⟨s, rfl, fun _ => ⟨rfl, hs.of_char fun hm => hc ?_⟩⟩
      simp only [framers, List.mem_cons, List.not_mem_nil, or_false] at hm
      rcases hm with rfl | rfl | rfl | rfl <;> decide
  other := by
    rintro t s ht ⟨rfl, -⟩ c hc
    obtain ⟨s, rfl⟩ := List.head?_eq_some_iff.1 hc
    exact ht c rfl
  settles := fun h => h.2.ne_backslash

/-- What can be quantified in one place can be quantified in the other. -/
theorem quantify_ok (h : Beside false first base names p n) (hs : Spelled strict d s) {b : Bounds}
    {i j : Nat} {t : Text} {x : Progress × Text} (hx : n.quantify b j t = .ok x) :
    ∃ y, p.quantify b i s = .ok y := by
  have hparts := h.stack.top.parts
  unfold Progress.quantify at hx ⊢
  split
  · rename_i hp
    rw [hp] at hparts
    rw [List.forall₂_nil_left_iff.1 hparts] at hx
    exact absurd hx fault_ne_ok
  · rename_i hp
    rw [hp] at hparts
    obtain ⟨part, parts, hpart, -, he⟩ := List.forall₂_cons_left_iff.1 hparts
    cases hpart with
    | anchor a =>
      rw [he] at hx
      exact absurd hx fault_ne_ok
  · rename_i hp
    rw [hp] at hparts
    obtain ⟨part, parts, hpart, -, he⟩ := List.forall₂_cons_left_iff.1 hparts
    cases hpart with
    | quantified mode least most _ =>
      rw [he] at hx
      exact absurd hx fault_ne_ok
  · have hread : ∃ x, readMode s = .ok x := by
      unfold readMode
      split
      · exact ⟨_, by rw [settle_ok (hs.of_char (by decide)).ne_backslash]; rfl⟩
      · exact ⟨_, by rw [settle_ok (hs.of_char (by decide)).ne_backslash]; rfl⟩
      · exact ⟨_, rfl⟩
    obtain ⟨⟨mode, r⟩, hmode⟩ := hread
    exact ⟨_, by rw [hmode]; rfl⟩

end Quantifiers

/-! ## Constructs -/

section Constructs

variable {good : Node → Prop} {strict : Bool} {d : Nat} {c : Char} {s tail : Text} {first : Nat}
variable {base : List Frame} {names : List Nat} {p n : Progress}

theorem begin_ok {o : Opening} (ho : PlainOpening strict o) (p : Progress) (place : Nat) (r : Text) :
    ∃ q, p.begin place r o = .ok q := by
  cases ho with
  | capture => exact ⟨_, rfl⟩
  | scope => exact ⟨_, rfl⟩
  | look _ => exact ⟨_, rfl⟩

theorem nextAlternative_ok (h : p.Spells strict good d) (left : Nat) :
    ∃ q, p.nextAlternative left = .ok q := by
  have hkind := h.top.kind
  unfold Progress.nextAlternative
  generalize p.frame.kind = kind at hkind
  cases hkind with
  | whole => exact ⟨_, rfl⟩
  | capture i => exact ⟨_, rfl⟩
  | scope => exact ⟨_, rfl⟩
  | look _ => exact ⟨_, rfl⟩

/-- A character outside classes that is no escape and no parenthesis. -/
theorem stepSpecial_ok (h : Beside false first base names p n) (hc : c ∉ framers)
    (hs : Spelled strict d s) {x : Progress × Text}
    (hx : stepSpecial n c (s ++ ')' :: tail) = .ok x) : ∃ y, stepSpecial p c s = .ok y := by
  simp only [framers, List.mem_cons, List.not_mem_nil, or_false, not_or] at hc
  unfold stepSpecial at hx ⊢
  rw [if_neg hc.2.1] at hx ⊢
  split
  · rw [if_pos ‹_›] at hx
    obtain ⟨⟨found, r⟩, hfound, hx⟩ := bind_eq_ok_iff.1 hx
    have hread : Agrees true (Reads Eq (BeforeClosing strict d tail)) (readBounds c (s ++ ')' :: tail))
        (readBounds c s) :=
      readBounds_agrees BeforeClosing.corresponds c ⟨rfl, hs⟩
    obtain ⟨⟨found', r'⟩, hfound', he, hr⟩ := hread.exists_related hfound
    obtain rfl : found = found' := he
    rw [hfound', ok_bind]
    cases found with
    | none => exact ⟨_, rfl⟩
    | some b => exact quantify_ok h hr.2 hx
  · split
    · exact ⟨_, rfl⟩
    · rw [if_neg hc.2.2.1]
      split
      · exact ⟨_, rfl⟩
      · split
        · exact ⟨_, rfl⟩
        · exact ⟨_, rfl⟩

/-- A construct that is read in its place is read alone. -/
theorem step_ok (h : Beside false first base names p n) (hp : p.Spells false good d)
    (hs : Spelled false d (c :: s)) {x : Progress × Text}
    (hx : step n (c :: (s ++ ')' :: tail)) = .ok x) : ∃ y, step p (c :: s) = .ok y := by
  have hv := hp.top.verbose
  cases hs with
  | escape hc hs =>
    obtain ⟨test, -, htest⟩ := readEscape_of_elementary hc
    exact ⟨_, by rw [step, settle_ok hs.ne_backslash, ok_bind, htest]; rfl⟩
  | @«class» _ _ body after hsplit hbody hs =>
    rw [splitClass_eq hsplit, List.append_assoc, List.cons_append] at hx
    obtain ⟨-, test, htest, -⟩ := step_class hx
    have hread := readClass_again hsplit hs.ne_backslash htest
    have hne : s ≠ ['\\'] := by
      rw [splitClass_eq hsplit]
      exact append_cons_settles (by decide) body after
    rw [step_special hv (by decide) hne]
    exact ⟨_, by rw [stepSpecial, if_pos rfl, hread]; rfl⟩
  | opening hopen hs =>
    obtain ⟨o, r, ho, -, hread⟩ := readOpening_of_spelled hs hopen
    obtain ⟨q, hq⟩ := begin_ok ho p (s.length + 1) r
    exact ⟨_, step_open hs.ne_backslash (hread _) hq⟩
  | close hs =>
    obtain ⟨f, fs, houter⟩ := List.exists_cons_of_length_eq_add_one hp.depth
    exact ⟨_, step_close houter hs.ne_backslash⟩
  | char hc _ hs =>
    have hesc : c ≠ '\\' := fun he => hc (he ▸ by decide)
    have hclose : c ≠ ')' := fun he => hc (he ▸ by decide)
    by_cases hbar : c = '|'
    · obtain ⟨q, hq⟩ := nextAlternative_ok hp (s.length + 1)
      rw [step_char hesc]
      unfold stepChar
      rw [if_pos hbar, hq, ok_bind, settle_ok hs.ne_backslash]
      exact ⟨_, rfl⟩
    · have hne : s ++ ')' :: tail ≠ ['\\'] := append_cons_settles (by decide) s tail
      rw [step_special (h.verbose.trans hv) ⟨hesc, hbar, hclose⟩ hne] at hx
      rw [step_special hv ⟨hesc, hbar, hclose⟩ hs.ne_backslash]
      exact stepSpecial_ok h hc hs hx

/-- An elementary text that is read in its place is read alone, and closes the groups that it
opens. -/
theorem readConstructs_ok (hbase : base ≠ []) (h : Beside false first base names p n)
    (hp : p.Spells false (fun _ => True) d) (hs : Spelled false d s) {result : Progress × Text}
    (hy : readConstructs n (s ++ ')' :: tail) = .ok result) :
    ∃ q, readConstructs p s = .ok (q, []) ∧ q.Spells false (fun _ => True) 0 := by
  have hall : Spellable false fun _ => True := by constructor <;> intros <;> trivial
  induction hlen : s.length using Nat.strongRecOn generalizing s p n d with
  | _ length ih =>
  cases s with
  | nil =>
    cases hs
    exact ⟨p, readConstructs_nil p, hp⟩
  | cons c s =>
    have hclose : c ≠ ')' ∨ p.outer ≠ [] := by
      by_cases hc : c = ')'
      · subst hc
        refine .inr fun houter => ?_
        have hdepth := hp.depth
        rw [houter] at hdepth
        cases hs with
        | close _ => exact absurd hdepth (by simp)
        | char hc _ _ => exact absurd (by decide) hc
      · exact .inl hc
    have hy' := hy
    rw [List.cons_append, readConstructs_cons (.inr (h.outer_ne hbase))] at hy'
    obtain ⟨x, hx, -⟩ := bind_eq_ok_iff.1 hy'
    obtain ⟨⟨q, rest⟩, hstep⟩ := step_ok h hp hs hx
    obtain ⟨d', hq, hrest⟩ := hp.step hall hs hstep
    obtain ⟨m, rest', hm, hspliced, hleads⟩ | ⟨-, -, -, hv⟩ :=
      (Beside.goesAlong hbase).step (.inr ⟨tail, rfl⟩) h (hs.spliced tail) nofun nofun nofun hclose
        hstep fun _ => ⟨result, hy⟩
    · obtain ⟨-, b, hb, rfl⟩ := hspliced
      obtain rfl := Option.some.inj hb
      have hread := hleads.readConstructs_eq.symm.trans hy
      have hshort : rest.length < length := hlen ▸ Nat.lt_succ_of_le (step_length hstep)
      obtain ⟨r, hr, hspells⟩ := ih rest.length hshort hm hq hrest hread rfl
      exact ⟨r, (readConstructs_step hclose hstep).trans hr, hspells⟩
    · exact absurd (hv.symm.trans hp.top.verbose) (by simp)

end Constructs

/-! ## The whole of an inline expression -/

theorem check_of_isRegular {n : Node} (h : n.isRegular = true) : n.check false = .ok () := by
  induction n with
  | empty => rfl
  | char _ => rfl
  | anchor _ => rfl
  | backreference _ => rfl
  | seq a b iha ihb =>
    obtain ⟨ha, hb⟩ := Bool.and_eq_true_iff.1 h
    rw [Node.check, iha ha]
    exact ihb hb
  | alt a b iha ihb =>
    obtain ⟨ha, hb⟩ := Bool.and_eq_true_iff.1 h
    rw [Node.check, iha ha]
    exact ihb hb
  | quantified mode least most a ih => exact ih (Node.isRegular_quantified.1 h).2.2
  | group i a ih => exact ih h
  | flagged on off a ih => exact ih h
  | atomic a _ => exact absurd h (by simp [Node.isRegular])
  | look behind negated a ih =>
    cases behind with
    | none => exact ih h
    | some w => exact absurd h (by simp [Node.isRegular])
  | conditional g a b _ _ => exact absurd h (by simp [Node.isRegular])

theorem stepsTooFar_of_isRegular {n : Node} (h : n.isRegular = true) : n.stepsTooFar = false := by
  induction n with
  | empty => rfl
  | char _ => rfl
  | anchor _ => rfl
  | backreference _ => rfl
  | seq a b iha ihb =>
    obtain ⟨ha, hb⟩ := Bool.and_eq_true_iff.1 h
    exact Bool.or_eq_false_iff.2 ⟨iha ha, ihb hb⟩
  | alt a b iha ihb =>
    obtain ⟨ha, hb⟩ := Bool.and_eq_true_iff.1 h
    exact Bool.or_eq_false_iff.2 ⟨iha ha, ihb hb⟩
  | quantified mode least most a ih => exact ih (Node.isRegular_quantified.1 h).2.2
  | group i a ih => exact ih h
  | flagged on off a ih => exact ih h
  | atomic a _ => exact absurd h (by simp [Node.isRegular])
  | look behind negated a ih =>
    cases behind with
    | none => exact ih h
    | some w => exact absurd h (by simp [Node.isRegular])
  | conditional g a b _ _ => exact absurd h (by simp [Node.isRegular])

end PathRouter.Regex

namespace PathRouter

open Regex

theorem mentionsSlash_of_mem {e : Text} (h : '/' ∈ e) : Segment.mentionsSlash e = true := by
  induction e with
  | nil => exact absurd h List.not_mem_nil
  | cons c e ih =>
    rw [Segment.mentionsSlash]
    rcases List.mem_cons.1 h with rfl | h
    · simp
    · rw [ih h, Bool.or_true]

/-- What an elementary inline expression becomes in its group: the image of the tree that its text
has alone, which is elementary. -/
def ElementaryBody (e : Text) (i _j : Nat) (n : Node) : Prop :=
  ∃ b x a narrowed, splicedText e = some b ∧ Expression.ofText b = .ok x ∧ x.flags = [] ∧
    n = .flagged [] [] a ∧ Mirrors false (i + 1) x.tree a ∧ a.Elementary narrowed

/-- An elementary inline expression is read as a group of its own. -/
theorem readsAs_elementaryBody {e b : Text} {x : Expression} (he : isElementary e = true)
    (hx : readExpression e = .ok x) (hb : splicedText e = some b) : ReadsAs ElementaryBody e b := by
  intro p gs rest result hp hrest hread
  have hspelled : Spelled true 0 e := spelled_of_isElementaryFrom he
  have hall : Spellable false fun _ => True := by constructor <;> intros <;> trivial
  obtain ⟨narrowed, hsource, hclean, hb'⟩ : ∃ narrowed,
      (if narrowed then confine e else some e) = some b ∧
        (narrowed = true → narrowsCleanly e = true) ∧ Spelled false 0 b := by
    unfold splicedText at hb
    split at hb
    · obtain rfl := Option.some.inj hb
      exact ⟨false, rfl, nofun, hspelled.weaken⟩
    · rename_i hslash
      have hnone : '/' ∉ e := fun hm => hslash (mentionsSlash_of_mem hm)
      exact ⟨true, hb, fun _ => narrowsCleanly_of_spelled hspelled hnone, hspelled.confine hb⟩
  -- What stands for the expression is an expression by itself, as it is read inside its group.
  obtain ⟨hfresh, place, place', hinside⟩ := readConstructs_inlineHead hp hread
  obtain ⟨q, hq, hspells⟩ := readConstructs_ok (by simp) (inline_beside hp hfresh false _ _ b.length)
    (.start _) hb' hinside
  have hy : readExpression b = .ok ⟨q.frame.body, q.frame.body.width q.groups.widthOf,
      q.groups.widths.length, q.groups.names, q.flags⟩ := by
    have houter : q.outer = [] := List.eq_nil_of_length_eq_zero hspells.depth
    have hend : q.checkEnd [] = .ok () := by
      simp [Progress.checkEnd, houter, hspells.flags, hspells.asked]
    rw [readExpression, settle_ok hb'.ne_backslash, ok_bind, hq, ok_bind]
    dsimp only
    rw [hend]
    rfl
  obtain ⟨closed, body, hclosed, htop, hparts, himage, hnext⟩ :=
    readsAs_inlineBody hb hy p gs rest result hp hrest hread
  refine ⟨closed, body, hclosed, htop, hparts, ?_, hnext⟩
  obtain ⟨b', y, a, hb'', hy', rfl, hmirrors⟩ := himage
  obtain rfl := Option.some.inj (hb''.symm.trans hb)
  have hflags := (hb'.of_readExpression hall hy').2
  have hsame := hmirrors false b' y rfl hy' nofun
  have hplain := (hspelled.of_readExpression spellable_elementary hx).1
  have helementary := (hmirrors narrowed e x hsource hx hclean).elementary hplain
  have hregular : y.tree.isRegular = true := hsame.isRegular_eq.symm.trans helementary.isRegular
  refine ⟨b', y, a, narrowed, hb, ?_, hflags, rfl, hsame, helementary⟩
  rw [Expression.ofText, hy', ok_bind, hflags]
  rw [show ([] : List Flag).contains .template = false from rfl, check_of_isRegular hregular, ok_bind,
    stepsTooFar_of_isRegular hregular]
  rfl

end PathRouter

import PathRouter.Proofs.MirroredTree
import PathRouter.Proofs.ReaderSteps
import PathRouter.Proofs.SplicedOpening

/-!
# The constructs of an expression and of its image

The reader of an expression and the reader of its image go along with each other, construct by
construct. How they are related in between depends on what surrounds the image; here that is a
relation that the operations of the reader keep. A class that is guarded stands for several
constructs of the image.
-/

namespace PathRouter.Regex
set_option autoImplicit false

/-- The relation `R` between two readers is kept by what they do, if `N` relates the parts that they
add. -/
structure GoesAlong (total narrowed : Bool) (N : Node → Node → Prop)
    (R : Progress → Progress → Prop) : Prop where
  anchor : ∀ a, N (.anchor a) (.anchor a)
  backreference : ∀ g, N (.backreference g) (.backreference g)
  char : ∀ {test n}, TestMirrors total narrowed test n → N (.char test) n
  surroundings : ∀ {p n}, R p n → total = true → p.surroundings = n.surroundings
  verbose : ∀ {p n}, R p n → n.frame.verbose = p.frame.verbose
  add : ∀ {p n a b}, R p n → N a b → R (p.add a) (n.add b)
  leave : ∀ {p n f fs}, R p n → p.outer = f :: fs →
    ∃ g gs, n.outer = g :: gs ∧ R (p.leave f fs) (n.leave g gs)
  begin : ∀ {p n o o' i j r r'}, R p n → SameOpening total o o' →
    Agrees total R (p.begin i r o) (n.begin j r' o')
  nextAlternative : ∀ {p n i j}, R p n →
    Agrees total R (p.nextAlternative i) (n.nextAlternative j)
  quantify : ∀ {p n bounds i j T s t}, Corresponds T → R p n → T s t →
    Agrees total (Reads R T) (p.quantify bounds i s) (n.quantify bounds j t)

/-! ## Escapes -/

/-- What a shorthand for a negated class is replaced by. -/
theorem shorthand?_eq {c : Char} {w : Text} (h : Confine.shorthand? c = some w) :
    ∃ k kind, w = ['[', '^', '\\', k, '/', ']'] ∧ c ≠ '\\' ∧
      (∀ r, readClassEscape k r = .ok (.category kind false, r)) ∧
      ∀ env r, readEscape env c r = .ok (.char (.set false [.category kind true]), r) := by
  unfold Confine.shorthand? at h
  split at h
  · obtain rfl := Option.some.inj h
    exact ⟨'s', .space, rfl, by decide, fun _ => rfl, fun _ _ => rfl⟩
  · obtain rfl := Option.some.inj h
    exact ⟨'w', .word, rfl, by decide, fun _ => rfl, fun _ _ => rfl⟩
  · obtain rfl := Option.some.inj h
    exact ⟨'d', .digit, rfl, by decide, fun _ => rfl, fun _ _ => rfl⟩
  · exact absurd h (by simp)

/-- A category that narrowing leaves alone. -/
theorem categoryMember?_kept {c : Char} {m : Member} (hm : categoryMember? c = some m)
    (hc : Confine.shorthand? c = none) : ∃ kind, m = .category kind false := by
  unfold categoryMember? at hm
  split at hm
  · exact ⟨_, (Option.some.inj hm).symm⟩
  · exact absurd hc (by decide)
  · exact ⟨_, (Option.some.inj hm).symm⟩
  · exact absurd hc (by decide)
  · exact ⟨_, (Option.some.inj hm).symm⟩
  · exact absurd hc (by decide)
  · exact absurd hm (by simp)

section Constructs

variable {total narrowed : Bool} {ending : Text} {N : Node → Node → Prop}
variable {R : Progress → Progress → Prop} {p n : Progress} {c : Char} {s t : Text}

theorem GoesAlong.literal (hR : GoesAlong total narrowed N R) {code : CodePoint}
    (h : narrowed = true → code ≠ 47) : N (.ofCode code) (.ofCode code) :=
  hR.char (.same fun hn => refusesSlash_literal (h hn))

/-- An escape that narrowing leaves alone is read as the same tree. -/
theorem GoesAlong.escape (hR : GoesAlong total narrowed N R) {env : Surroundings} {rest : Text}
    {node : Node} (h : readEscape env c s = .ok (node, rest))
    (hn : narrowed = true → Confine.shorthand? c = none ∧ node ≠ .ofCode 47) : N node node := by
  obtain ⟨a, rfl⟩ | ⟨g, rfl⟩ | ⟨code, rfl⟩ | ⟨m, hm, rfl⟩ := readEscape_cases h
  · exact hR.anchor a
  · exact hR.backreference g
  · exact hR.literal fun he hcode => (hn he).2 (hcode ▸ rfl)
  · refine hR.char (.same fun he => ?_)
    obtain ⟨kind, rfl⟩ := categoryMember?_kept hm (hn he).1
    exact refusesSlash_category kind

theorem shorthand_agrees (hR : GoesAlong total narrowed N R) (hending : IsEnding ending)
    (h : R p n) {w : Text} (hn : narrowed = true) (hw : Confine.shorthand? c = some w)
    (hrest : s ≠ ['\\'] → Spliced narrowed ending s t) :
    Agrees total (Reads R (Spliced narrowed ending)) (step p ('\\' :: c :: s)) (step n (w ++ t)) := by
  obtain ⟨k, kind, rfl, -, hk, hc⟩ := shorthand?_eq hw
  refine .of_exists fun a ha => ?_
  obtain ⟨⟨⟩, hsettle, ha⟩ := bind_eq_ok_iff.1 ha
  rw [hc, ok_bind] at ha
  obtain rfl := Except.ok.inj ha
  have hrest := hrest (settle_eq_ok_iff.1 hsettle)
  have hclass : readClass ('^' :: '\\' :: k :: '/' :: ']' :: t) =
      .ok (.set true [.category kind false, .single 47], t) := by
    rw [readClass_caret, settle_ok (by simp), ok_bind,
      readMembers_shorthand hk ((Spliced.parallel hending).settles hrest)]
    rfl
  refine ⟨(n.add (.char (.set true [.category kind false, .single 47])), t), ?_,
    hR.add h (hR.char (.shorthand kind hn)), hrest⟩
  show step n ('[' :: '^' :: '\\' :: k :: '/' :: ']' :: t) = _
  rw [step_visible (by decide) (.inr (by decide)), settle_ok (by simp), ok_bind, stepSpecial,
    if_pos rfl, hclass]
  rfl

theorem escape_agrees (hR : GoesAlong total narrowed N R) (hending : IsEnding ending) (h : R p n)
    (hs : Spliced narrowed ending ('\\' :: c :: s) t)
    (hslash : narrowed = true → slashAt p ('\\' :: c :: s) = false) :
    Agrees total (Reads R (Spliced narrowed ending)) (step p ('\\' :: c :: s)) (step n t) := by
  have hwords : Corresponds (Spliced narrowed ending) := (Spliced.parallel hending).corresponds
  obtain ⟨t', rfl, hrest⟩ := hs.escape
  have hkept (hn : narrowed = true → Confine.shorthand? c = none) :
      Agrees total (Reads R (Spliced narrowed ending)) (step p ('\\' :: c :: s))
        (step n ('\\' :: c :: t')) := by
    refine hwords.step hrest fun hst => ?_
    refine (readEscape_agrees hwords (hR.surroundings h) c hst).with_left.bind ?_
    rintro ⟨node, r⟩ ⟨node', r'⟩ ⟨hx, hnode, hr⟩
    obtain rfl : node = node' := hnode
    refine .ok ⟨hR.add h (hR.escape hx fun he => ⟨hn he, ?_⟩), hr⟩
    have := hslash he
    rw [slashAt, hx] at this
    simpa using this
  cases narrowed with
  | false => exact hkept nofun
  | true =>
    show Agrees total _ _ (step n (Confine.escape c ++ t'))
    unfold Confine.escape
    cases hw : Confine.shorthand? c with
    | none => exact hkept fun _ => hw
    | some w => exact shorthand_agrees hR hending h rfl hw hrest

/-! ## Other characters -/

theorem stepSpecial_agrees (hR : GoesAlong total narrowed N R) (hending : IsEnding ending) (h : R p n)
    (hc : c ∉ narrowable) (hs : Spliced narrowed ending s t)
    (hquiet : narrowed = true → strayAt ['['] p (c :: s) = false ∧ c ≠ '/') :
    Agrees total (Reads R (Spliced narrowed ending)) (stepSpecial p c s) (stepSpecial n c t) := by
  have hparallel : Parallel (Spliced narrowed ending) := Spliced.parallel hending
  have hliteral : N (.ofCode c.toNat) (.ofCode c.toNat) :=
    hR.literal fun hn he => (hquiet hn).2 (Char.ext (UInt32.toNat.inj he))
  unfold stepSpecial
  split
  · rename_i hclass
    exact absurd (hclass ▸ by decide) hc
  · split
    · refine (readBounds_agrees hparallel.corresponds c hs).bind ?_
      rintro ⟨bounds, r⟩ ⟨bounds', r'⟩ ⟨hb, hr⟩
      obtain rfl : bounds = bounds' := hb
      cases bounds with
      | none => exact .ok ⟨hR.add h hliteral, hr⟩
      | some b => exact hR.quantify hparallel.corresponds h hr
    · split
      · rename_i hdot
        exact absurd (hdot ▸ by decide) hc
      · split
        · rename_i hopen
          refine (readOpening_agrees hparallel (hR.surroundings h) hs fun _ _ r r' he hr => ?_).bind ?_
          · refine readComment_agrees hending hr fun hn => ?_
            have := (hquiet hn).1
            rwa [hopen, he] at this
          · rintro ⟨o, r⟩ ⟨o', r'⟩ ⟨ho, hr⟩
            exact (hR.begin h ho).bind fun q m hqm => .ok ⟨hqm, hr⟩
        · split
          · exact .ok ⟨hR.add h (hR.anchor _), hs⟩
          · split
            · exact .ok ⟨hR.add h (hR.anchor _), hs⟩
            · exact .ok ⟨hR.add h hliteral, hs⟩

theorem stepChar_agrees (hR : GoesAlong total narrowed N R) (hending : IsEnding ending) (h : R p n)
    (hc : c ∉ narrowable) (hrest : s ≠ ['\\'] → Spliced narrowed ending s t)
    (hquiet : narrowed = true → strayAt ['['] p (c :: s) = false ∧ c ≠ '/')
    (hline : ¬(p.frame.verbose = true ∧ c = '#')) (hclose : c = ')' → p.outer ≠ []) :
    Agrees total (Reads R (Spliced narrowed ending)) (stepChar p c s) (stepChar n c t) := by
  have hwords : Corresponds (Spliced narrowed ending) := (Spliced.parallel hending).corresponds
  by_cases hbar : c = '|'
  · unfold stepChar
    rw [if_pos hbar, if_pos hbar]
    exact (hR.nextAlternative h).bind fun q m hqm =>
      hwords.step hrest fun hst => .ok ⟨hqm, hst⟩
  · by_cases hclosed : c = ')'
    · subst hclosed
      obtain ⟨f, fs, hp⟩ := List.exists_cons_of_ne_nil (hclose rfl)
      obtain ⟨g, gs, hn, hleave⟩ := hR.leave h hp
      unfold stepChar
      rw [if_neg hbar, if_neg hbar, hp, hn]
      exact hwords.step hrest fun hst => .ok ⟨hleave, hst⟩
    · have hplain {q : Progress} {u : Text} : stepChar q c u = settle u >>= fun _ =>
          if q.frame.verbose && CodePoint.isAsciiBlank c.toNat then .ok (q, u)
          else if q.frame.verbose && c == '#' then readLine u >>= fun r => .ok (q, r)
          else stepSpecial q c u := by
        rw [stepChar, if_neg hbar]
        · rfl
        · exact fun _ _ he => absurd he hclosed
      rw [hplain, hplain, hR.verbose h]
      refine hwords.step hrest fun hst => ?_
      split
      · exact .ok ⟨h, hst⟩
      · split
        · rename_i hhash
          exact absurd (by simpa using hhash) hline
        · exact stepSpecial_agrees hR hending h hc hst hquiet

/-! ## Dots and classes -/

theorem step_slashless (ht : t ≠ ['\\']) :
    step n (Confine.dot ++ t) = .ok (n.add (.char (.notLiteral 47)), t) := by
  show step n ('[' :: '^' :: '/' :: ']' :: t) = _
  rw [step_visible (by decide) (.inr (by decide)), settle_ok (by simp), ok_bind, stepSpecial,
    if_pos rfl, readClass_slashless ht]
  rfl

theorem dot_agrees (hR : GoesAlong total narrowed N R) (hending : IsEnding ending) (h : R p n)
    (hs : Spliced narrowed ending ('.' :: s) t) :
    Agrees total (Reads R (Spliced narrowed ending)) (step p ('.' :: s)) (step n t) := by
  obtain ⟨t', rfl, hrest⟩ := hs.dot
  refine .of_exists fun a ha => ?_
  rw [step_visible (by decide) (.inr (by decide))] at ha
  obtain ⟨⟨⟩, hsettle, ha⟩ := bind_eq_ok_iff.1 ha
  have hrest := hrest (settle_eq_ok_iff.1 hsettle)
  have hsettles := (Spliced.parallel hending).settles hrest
  obtain rfl := Except.ok.inj ha
  cases narrowed with
  | false =>
    refine ⟨(n.add (.char .any), t'), ?_, hR.add h (hR.char (.same nofun)), hrest⟩
    show step n ('.' :: t') = _
    rw [step_visible (by decide) (.inr (by decide)), settle_ok hsettles]
    rfl
  | true => exact ⟨_, step_slashless hsettles, hR.add h (hR.char (.dot rfl)), hrest⟩

theorem step_class_eq (p : Progress) (hs : s ≠ ['\\']) :
    step p ('[' :: s) = readClass s >>= fun x => .ok (p.add (.char x.1), x.2) := by
  rw [step_visible (by decide) (.inr (by decide)), settle_ok hs, ok_bind, stepSpecial, if_pos rfl]
  rfl

/-- A class that is kept, or a negated class that is given a slash. -/
theorem class_agrees (hR : GoesAlong total narrowed N R) (hending : IsEnding ending) (h : R p n)
    (hs : Spliced narrowed ending ('[' :: s) t) (hnegated : narrowed = true → s.head? = some '^')
    (hhyphen : total = true → narrowed = true → negatedEndsInHyphen s = false) :
    Agrees total (Reads R (Spliced narrowed ending)) (step p ('[' :: s)) (step n t) := by
  have hparallel : Parallel (Spliced narrowed ending) := Spliced.parallel hending
  refine .of_left fun x hx => ?_
  obtain ⟨hne, test, htest, -⟩ := step_class hx
  obtain ⟨hrest, body, hbody⟩ := readClass_split hne htest
  rw [step_class_eq p hne]
  obtain ⟨rfl, t', rfl, hsame⟩ | ⟨rfl, body', after, t', hsplit, rfl, hsame⟩ := hs.class
  · have hsame := hsame hne
    obtain ⟨-, b, hb, rfl⟩ := id hsame
    obtain rfl := Option.some.inj hb
    have hafter : Spliced false ending x.2 (x.2 ++ ending) := ⟨hrest, x.2, rfl, rfl⟩
    have hclass : ClassBody false x.2 (x.2 ++ ending) s (s ++ ending) :=
      ⟨body, hbody, by simp [splitClass_eq hbody, addedSlash]⟩
    rw [step_class_eq n (hparallel.settles hsame)]
    refine (readClass_agrees (hparallel.settles hafter) (by simp) hclass).bind fun y z hyz => ?_
    refine .ok ⟨?_, ?_⟩
    · rw [hyz.2.2.same rfl]
      exact hR.add h (hR.char (.same (by simp)))
    · rw [hyz.1, hyz.2.1]
      exact hafter
  · obtain ⟨rfl, rfl⟩ := Prod.mk.inj (Option.some.inj (hbody.symm.trans hsplit))
    have hcaret := hnegated rfl
    have hsame := hsame hrest
    have hclass : ClassBody true x.2 t' s (body ++ ['/', ']'] ++ t') :=
      ⟨body, hbody, by simp [addedSlash]⟩
    rw [Confine.bracketed, if_pos ((splitClass_head hbody).2 hcaret)]
    show Agrees total _ _ (step n ('[' :: (body ++ ['/', ']'] ++ t')))
    rw [step_class_eq n (by simp [List.append_eq_cons_iff])]
    refine (readClass_agrees (hparallel.settles hsame)
      (fun htotal _ => ⟨hcaret, hhyphen htotal rfl⟩) hclass).bind ?_
    rintro ⟨test, r⟩ ⟨test', r'⟩ ⟨hr, hr', hboth⟩
    obtain rfl : r = x.2 := hr
    obtain rfl : r' = t' := hr'
    obtain ⟨ms, ms', htest, htest', hms⟩ := hboth.slash rfl hcaret
    obtain rfl : test = _ := htest
    obtain rfl : test' = _ := htest'
    exact .ok ⟨hR.add h (hR.char (.negated rfl hms)), hsame⟩

/-- Where a narrowed class is read, a group is opened, a look ahead refuses a slash, and the class
is read before the group is closed. -/
theorem leads_guard (n : Progress) (u : Text) : ∃ m,
    Leads n (['(', '?', ':', '(', '?', '!', '/', ')', '['] ++ u) m ('[' :: u) ∧
      ∀ t test, t ≠ ['\\'] → readClass u = .ok (test, ')' :: t) →
        Leads m ('[' :: u) (n.add (guardedTest test)) t := by
  have hscope := step_open (p := n) (s := '?' :: ':' :: '(' :: '?' :: '!' :: '/' :: ')' :: '[' :: u)
    (o := .scope [] []) (by simp) rfl rfl
  refine ⟨_, .step (.inl (by decide)) hscope <|
    .step (.inl (by decide)) (step_open (by simp) (o := .look false true) rfl rfl) <|
    .step (.inl (by decide))
      (show step _ ('/' :: ')' :: _) = .ok (_, ')' :: _) from
        (step_visible (by decide) (.inr (by decide))).trans rfl) <|
    .step (.inr (by simp [Progress.add, Progress.enter])) (step_close rfl (by simp)) (.refl _ _), ?_⟩
  intro t test ht hread
  have hu : u ≠ ['\\'] := by
    rintro rfl
    exact absurd (readClass_length hread) (by simp)
  refine .step (.inl (by decide)) ((step_class_eq _ hu).trans (by rw [hread, ok_bind])) <|
    .step (.inr (by simp [Progress.add, Progress.leave, Progress.enter])) (step_close rfl ht)
      (.refl _ _)

theorem guard_agrees (hR : GoesAlong total true N R) (hending : IsEnding ending) (h : R p n)
    (hs : Spliced true ending ('[' :: s) t) (hcaret : s.head? ≠ some '^') {q : Progress}
    {rest : Text} (hx : step p ('[' :: s) = .ok (q, rest))
    (hy : total = false → ∃ result, readConstructs n t = .ok result) :
    ∃ m t', R q m ∧ Spliced true ending rest t' ∧ Leads n t m t' := by
  obtain ⟨hne, test, htest, rfl⟩ := step_class hx
  obtain ⟨hrest, body, hbody⟩ := readClass_split hne htest
  obtain ⟨hn, -⟩ | ⟨-, body', after, t', hsplit, rfl, hsame⟩ := hs.class
  · exact absurd hn (by simp)
  · obtain ⟨rfl, rfl⟩ := Prod.mk.inj (Option.some.inj (hbody.symm.trans hsplit))
    have hsame := hsame hrest
    have htext : Confine.bracketed body ++ t' =
        ['(', '?', ':', '(', '?', '!', '/', ')', '['] ++ (body ++ ']' :: ')' :: t') := by
      rw [Confine.bracketed, if_neg fun he => hcaret ((splitClass_head hbody).1 he)]
      simp
    rw [htext] at hy ⊢
    obtain ⟨m, hopened, hclosed⟩ := leads_guard n (body ++ ']' :: ')' :: t')
    have hclass : ClassBody false rest (')' :: t') s (body ++ ']' :: ')' :: t') :=
      ⟨body, hbody, by simp [addedSlash]⟩
    have hread : Agrees total _ (readClass s) (readClass (body ++ ']' :: ')' :: t')) :=
      readClass_agrees (by simp) (by simp) hclass
    obtain ⟨⟨test', rest'⟩, htest'⟩ : ∃ y, readClass (body ++ ']' :: ')' :: t') = .ok y := by
      cases total with
      | true => exact (hread _ htest).1 rfl
      | false =>
        obtain ⟨result, hy⟩ := hy rfl
        rw [hopened.readConstructs_eq, readConstructs_cons (.inl (by decide))] at hy
        obtain ⟨⟨q, r⟩, hstep, -⟩ := bind_eq_ok_iff.1 hy
        obtain ⟨-, y, hy, -⟩ := step_class hstep
        exact ⟨_, hy⟩
    obtain ⟨-, hend, hboth⟩ := hread.related htest htest'
    obtain rfl : rest' = _ := hend
    obtain rfl : test' = test := hboth.same rfl
    exact ⟨_, t', hR.add h (hR.char (.guarded rfl)), hsame,
      hopened.trans (hclosed _ _ ((Spliced.parallel hending).settles hsame) htest')⟩

/-! ## Construct by construct -/

/-- A negated class begins here that ends in a hyphen after a member. -/
def hyphenAt (_ : Progress) : Text → Bool
  | '[' :: s => negatedEndsInHyphen s
  | _ => false

/-- The image of a construct that is no closing parenthesis does not begin with one. -/
theorem Spliced.head_close (h : Spliced narrowed ending (c :: s) t) :
    ∃ d t', t = d :: t' ∧ (d = ')' → c = ')') := by
  have hother {d : Char} {u : Text} (hd : u.head? = some d) (hne : d ≠ ')') :
      ∃ d t', u = d :: t' ∧ (d = ')' → c = ')') := by
    obtain ⟨t', rfl⟩ := List.head?_eq_some_iff.1 hd
    exact ⟨d, t', rfl, fun he => absurd he hne⟩
  by_cases hchar : c ∈ narrowable
  · simp only [narrowable, List.mem_cons, List.not_mem_nil, or_false] at hchar
    rcases hchar with rfl | rfl | rfl
    · cases s with
      | nil => exact absurd rfl h.1
      | cons e s =>
        obtain ⟨t', rfl, -⟩ := h.escape
        cases narrowed with
        | false => exact hother rfl (by decide)
        | true =>
          obtain he | he := escape_head e t'
          · exact hother he (by decide)
          · exact hother he (by decide)
    · obtain ⟨t', rfl, -⟩ := h.dot
      cases narrowed with
      | false => exact hother rfl (by decide)
      | true => exact hother rfl (by decide)
    · obtain ⟨-, t', rfl, -⟩ | ⟨-, body, after, t', -, rfl, -⟩ := h.class
      · exact hother rfl (by decide)
      · obtain he | he := bracketed_head body t'
        · exact hother he (by decide)
        · exact hother he (by decide)
  · obtain ⟨t', rfl, -⟩ := h.char hchar
    exact ⟨c, t', rfl, id⟩

/-- One construct is read in both places, unless it is a comment that ends the expression. -/
theorem GoesAlong.step (hR : GoesAlong total narrowed N R) (hending : IsEnding ending) (h : R p n)
    (hs : Spliced narrowed ending (c :: s) t)
    (hstray : narrowed = true → strayAt ['['] p (c :: s) = false)
    (hslash : narrowed = true → slashAt p (c :: s) = false)
    (hhyphen : total = true → narrowed = true → hyphenAt p (c :: s) = false)
    (hclose : c ≠ ')' ∨ p.outer ≠ []) {q : Progress} {rest : Text}
    (hstep : Regex.step p (c :: s) = .ok (q, rest))
    (hy : total = false → ∃ result, readConstructs n t = .ok result) :
    (∃ m t', R q m ∧ Spliced narrowed ending rest t' ∧ Leads n t m t') ∨
      ending ≠ [] ∧ rest = [] ∧ q = p ∧ p.frame.verbose = true := by
  obtain ⟨d, t', rfl, hhead⟩ := hs.head_close
  have hopen' : d ≠ ')' ∨ n.outer ≠ [] := by
    by_cases hd : d = ')'
    · have houter := hclose.resolve_left (not_not_intro (hhead hd))
      obtain ⟨f, fs, hp⟩ := List.exists_cons_of_ne_nil houter
      obtain ⟨g, gs, hn, -⟩ := hR.leave h hp
      exact .inr (by simp [hn])
    · exact .inl hd
  have hagrees (hread : Agrees total (Reads R (Spliced narrowed ending)) (Regex.step p (c :: s))
      (Regex.step n (d :: t'))) :
      ∃ m u, R q m ∧ Spliced narrowed ending rest u ∧ Leads n (d :: t') m u := by
    obtain ⟨⟨m, u⟩, hm⟩ : ∃ y, Regex.step n (d :: t') = .ok y := by
      cases total with
      | true => exact (hread _ hstep).1 rfl
      | false =>
        obtain ⟨result, hy⟩ := hy rfl
        rw [readConstructs_cons hopen'] at hy
        obtain ⟨y, hm, -⟩ := bind_eq_ok_iff.1 hy
        exact ⟨y, hm⟩
    obtain ⟨hqm, hrest⟩ := hread.related hstep hm
    exact ⟨m, u, hqm, hrest, .step hopen' hm (.refl _ _)⟩
  by_cases hesc : c = '\\'
  · subst hesc
    cases s with
    | nil => exact absurd rfl hs.1
    | cons e s => exact .inl (hagrees (escape_agrees hR hending h hs hslash))
  by_cases hdot : c = '.'
  · subst hdot
    exact .inl (hagrees (dot_agrees hR hending h hs))
  by_cases hopen : c = '['
  · subst hopen
    by_cases hnegated : narrowed = true → s.head? = some '^'
    · exact .inl (hagrees (class_agrees hR hending h hs hnegated hhyphen))
    · obtain ⟨hn, hcaret⟩ := Classical.not_imp.1 hnegated
      subst hn
      exact .inl (guard_agrees hR hending h hs hcaret hstep hy)
  have hc : c ∉ narrowable := by simp [narrowable, hesc, hdot, hopen]
  obtain ⟨t'', he, hrest⟩ := hs.char hc
  obtain ⟨rfl, rfl⟩ := List.cons.inj he
  by_cases hline : p.frame.verbose = true ∧ d = '#'
  · obtain ⟨hv, rfl⟩ := hline
    obtain ⟨hne, rfl, hskip⟩ := step_line hv hstep
    have hholds : narrowed = true → holdsBefore '\n' ['['] s = false := by
      intro hn
      simpa [strayAt, hv] using hstray hn
    have hstep' : Regex.step n ('#' :: t') = readLine t' >>= fun u => .ok (n, u) := by
      rw [step_char (by decide), stepChar, if_neg (by decide)]
      · rw [settle_ok ((Spliced.parallel hending).settles (hrest hne)), ok_bind, hR.verbose h, hv,
          if_neg (by decide), if_pos (by decide)]
        rfl
      · exact fun _ _ he => absurd he (by decide)
    have hline {u : Text} (hu : readLine t' = .ok u) : Leads n ('#' :: t') n u :=
      .step hopen' (by rw [hstep', hu]; rfl) (.refl _ _)
    obtain ⟨r, r', rfl, hr', hr⟩ | ⟨hnil, hends⟩ :=
      skips_line.agrees skips_line hending (hrest hne) hholds hskip
    · exact .inl ⟨n, r', h, hr, hline hr'⟩
    · obtain rfl : [] = rest := Except.ok.inj hnil
      by_cases hempty : ending = []
      · subst hempty
        refine .inl ⟨n, [], h, ⟨by simp, [], ?_, rfl⟩, hline (hends.trans hnil)⟩
        cases narrowed with
        | false => rfl
        | true => simp [confine]
      · exact .inr ⟨hempty, rfl, rfl, hv⟩
  · refine .inl (hagrees ?_)
    rw [step_char hesc, step_char hesc]
    refine stepChar_agrees hR hending h hc hrest (fun hn => ⟨hstray hn, ?_⟩) hline ?_
    · have := hslash hn
      rw [slashAt] at this
      · simpa using this
      · exact fun _ _ he => absurd he hesc
    · exact fun he => hclose.resolve_left (not_not_intro he)

/-- The whole of an expression is read in both places. -/
theorem GoesAlong.run (hR : GoesAlong total narrowed N R) (hending : IsEnding ending)
    (hwhole : ending ≠ [] → ∀ {p n}, R p n → p.outer = [] → p.frame.verbose = false) (h : R p n)
    (hs : Spliced narrowed ending s t)
    (hstray : narrowed = true → everyConstruct (fun p s => !strayAt ['['] p s) p s = true)
    (hslash : narrowed = true → everyConstruct (fun p s => !slashAt p s) p s = true)
    (hhyphen : total = true → narrowed = true → everyConstruct (fun p s => !hyphenAt p s) p s = true)
    {end' : Progress} (hx : readConstructs p s = .ok (end', [])) (hend : end'.outer = [])
    (hy : total = false → ∃ result, readConstructs n t = .ok result) :
    ∃ m, R end' m ∧ Leads n t m ending := by
  induction hlen : s.length using Nat.strongRecOn generalizing s t p n with
  | _ length ih =>
  cases s with
  | nil =>
    rw [hs.nil]
    rw [readConstructs_nil] at hx
    obtain ⟨rfl, -⟩ := Prod.mk.inj (Except.ok.inj hx)
    exact ⟨n, h, .refl _ _⟩
  | cons c s =>
    have hclose : c ≠ ')' ∨ p.outer ≠ [] := by
      by_cases he : c = ')' ∧ p.outer = []
      · rw [readConstructs, if_pos he] at hx
        exact absurd (Prod.mk.inj (Except.ok.inj hx)).2 (by simp)
      · exact Decidable.not_and_iff_or_not.1 he
    rw [readConstructs_cons hclose] at hx
    obtain ⟨⟨q, rest⟩, hstep, hmore⟩ := bind_eq_ok_iff.1 hx
    have hshort : rest.length < length := hlen ▸ Nat.lt_succ_of_le (step_length hstep)
    have hhead {test : Progress → Text → Bool}
        (h : everyConstruct (fun p s => !test p s) p (c :: s) = true) :
        test p (c :: s) = false ∧ everyConstruct (fun p s => !test p s) q rest = true :=
      ⟨by simpa using (everyConstruct_cons hclose h).1, (everyConstruct_cons hclose h).2 q rest hstep⟩
    obtain ⟨m, rest', hm, hrest, hleads⟩ | ⟨hne, rfl, rfl, hv⟩ :=
      hR.step hending h hs (fun hn => (hhead (hstray hn)).1) (fun hn => (hhead (hslash hn)).1)
        (fun ht hn => (hhead (hhyphen ht hn)).1) hclose hstep hy
    · obtain ⟨m', hm', hleads'⟩ := ih rest.length hshort hm hrest
        (fun hn => (hhead (hstray hn)).2) (fun hn => (hhead (hslash hn)).2)
        (fun ht hn => (hhead (hhyphen ht hn)).2) hmore
        (hleads.readConstructs_eq ▸ hy) rfl
      exact ⟨m', hm', hleads.trans hleads'⟩
    · -- A comment that ends the expression leaves a group open.
      rw [readConstructs_nil] at hmore
      obtain ⟨rfl, -⟩ := Prod.mk.inj (Except.ok.inj hmore)
      exact absurd (hv.symm.trans (hwhole hne h hend)) (by simp)

end Constructs

end PathRouter.Regex

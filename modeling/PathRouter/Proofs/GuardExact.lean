import PathRouter.Proofs.CompiledTree
import PathRouter.Proofs.WrittenTree

/-!
# The guard is exact on ordinary expressions

What the guard notes of an open group is what the group holds so far: whether there is a quantifier
without a maximum in it, and whether there are alternatives, at any depth. So of the ordinary
expressions the guard rejects those in which a group that holds one of the two may be repeated, and
no others.
-/

namespace PathRouter
set_option autoImplicit false

open Regex Guard

namespace Written

/-! ## Quantifiers -/

/-- How the guard takes the quantifier. -/
def Quantifier.repetition (q : Quantifier) : Repetition :=
  match q.count.most with
  | none => .unbounded
  | some n => ofCount n

theorem Quantifier.isRepeated_repetition (q : Quantifier) :
    q.repetition.isRepeated = q.isRepeated := by
  unfold repetition isRepeated
  cases q.count.most with
  | none => rfl
  | some n =>
    unfold ofCount
    by_cases h : 1 < n <;> simp [h, Repetition.isRepeated]

theorem Quantifier.repetition_eq_unbounded (q : Quantifier) :
    (q.repetition == .unbounded) = q.isUnbounded := by
  unfold repetition isUnbounded
  cases q.count.most with
  | none => rfl
  | some n =>
    unfold ofCount
    by_cases h : 1 < n <;> simp [h]

theorem dropSuffix_modeText (mode : Mode) {t : Text}
    (ht : ∀ c, t.head? = some c → isQuantifierStart c = false) :
    dropSuffix (modeText mode ++ t) = t := by
  cases mode with
  | lazy | possessive => rfl
  | greedy =>
    cases t with
    | nil => rfl
    | cons c t =>
      have hc := ht c rfl
      show skipOne ['?', '+'] (c :: t) = c :: t
      rw [skipOne, if_neg]
      intro hmem
      exact absurd (forall_eq_false (p := fun c => !isQuantifierStart c) (by decide) c hmem)
        (by simp [hc])

theorem countOf_numeral {n : Numeral} (h : n.digits.length ≤ Text.maxDigits) :
    countOf n.digits = .ok n.value := by
  obtain ⟨m, hm⟩ := countOf_of_length_le h
  rw [hm, countOf_eq_ok n.forall_isDigit hm]
  rfl

theorem isDecimal_punctuation_head {d : Char} (hd : d ∈ [',', '\x7d']) (s : Text) (c : Char)
    (hc : (d :: s).head? = some c) : CodePoint.isDecimal c.toNat = false := by
  obtain rfl := Option.some.inj hc
  exact isDecimal_punctuation d hd

/-- Bounds in braces, as the guard finds them. -/
theorem braces?_text {count : Count} {s t : Text} (hcount : count.text ++ t = '\x7b' :: s)
    (hfits : ∀ n ∈ count.limit?, n.digits.length ≤ Text.maxDigits) :
    braces? s = .ok (some (match count.most with | none => .unbounded | some n => ofCount n, t)) := by
  cases count with
  | star | plus | mark => exact absurd (List.cons.inj hcount).1 (by decide)
  | exactly n =>
    obtain rfl : n.digits ++ '\x7d' :: t = s := by simpa [Count.text] using hcount
    rw [braces?_single (spanDigits_append n.forall_isDigit (isDecimal_punctuation_head (by simp) _)),
      if_neg n.ne_nil, countOf_numeral (hfits n rfl)]
    rfl
  | range low high =>
    obtain rfl : boundText low ++ ',' :: (boundText high ++ '\x7d' :: t) = s := by
      simpa [Count.text] using hcount
    rw [braces?_pair
      (spanDigits_append (forall_isDigit_boundText low) (isDecimal_punctuation_head (by simp) _))
      (spanDigits_append (forall_isDigit_boundText high) (isDecimal_punctuation_head (by simp) _))]
    cases high with
    | none => rfl
    | some n =>
      rw [show boundText (some n) = n.digits from rfl, if_neg n.ne_nil, countOf_numeral (hfits n rfl)]
      rfl

/-- The guard takes what is written as a quantifier for what it is. -/
theorem quantifier?_text {q : Quantifier} (hq : q.Fits) {t : Text}
    (ht : ∀ c, t.head? = some c → isQuantifierStart c = false) :
    quantifier? (q.text ++ t) = .ok (some (q.repetition, t)) := by
  obtain ⟨count, mode⟩ := q
  have hdrop := dropSuffix_modeText mode ht
  rw [Quantifier.text, List.append_assoc]
  cases count with
  | star | plus | mark =>
    show Except.ok (some (_, dropSuffix (modeText mode ++ t))) = _
    rw [hdrop]
    rfl
  | exactly _ | range _ _ =>
    have hbraces := braces?_text (t := modeText mode ++ t) rfl hq
    show quantifier? ('\x7b' :: _) = _
    rw [quantifier?, if_neg (by decide), if_neg (by decide), if_pos rfl, hbraces]
    show Except.ok (some (_, dropSuffix (modeText mode ++ t))) = _
    rw [hdrop]
    rfl

/-! ## What the guard finds -/

/-- The marks of a group that is read further. -/
def join (marks more : Marks) : Marks :=
  ⟨marks.unbounded || more.unbounded, marks.alternation || more.alternation⟩

theorem join_clear (marks : Marks) : join marks .clear = marks := by
  simp [join, Marks.clear]

theorem clear_join (marks : Marks) : join .clear marks = marks := by
  simp [join, Marks.clear]

theorem join_assoc (a b c : Marks) : join (join a b) c = join a (join b c) := by
  simp [join, Bool.or_assoc]

/-- What the guard notes of a group. -/
def marks (t : Written) : Marks :=
  ⟨t.tokens.any fun token => token.quantifier?.any Quantifier.isUnbounded,
    t.tokens.any fun token => token matches .bar⟩

theorem marks_done : done.marks = .clear :=
  rfl

theorem marks_leaf (a : Leaf) (q : Option Quantifier) (next : Written) :
    (leaf a q next).marks = join ⟨q.any Quantifier.isUnbounded, false⟩ next.marks :=
  rfl

theorem marks_bar (next : Written) : (bar next).marks = join ⟨false, true⟩ next.marks :=
  rfl

theorem marks_group (captures : Bool) (body next : Written) (q : Option Quantifier) :
    (group captures body q next).marks =
      join (join body.marks ⟨q.any Quantifier.isUnbounded, false⟩) next.marks := by
  simp [marks, join, tokens, Token.quantifier?, Bool.or_assoc]

/-- The first fault of a group, in the order in which the groups are closed. -/
def fault? : Written → Option Rejection
  | done => none
  | leaf _ _ next | bar next => next.fault?
  | group _ body q next =>
    (body.fault?.or (body.marks.fault? (q.map Quantifier.repetition))).or next.fault?

section Scan

variable {r : Except Stop Unit} {marks : Marks} {outer : List Marks} {s : Text}

theorem isDigit_of_isEscapable {c : Char} (h : isEscapable c = true) :
    CodePoint.isDigit c.toNat = false := by
  simp only [isEscapable, Bool.and_eq_true, decide_eq_true_eq, Bool.not_eq_true'] at h
  rw [CodePoint.isDigit, if_pos (Nat.lt_of_le_of_lt h.1.2 (by decide))]
  exact h.2

/-- The guard passes over a leaf. -/
theorem yields_leaf {a : Leaf} (h : Yields r ⟨marks, outer, false⟩ (a.text ++ s)) :
    Yields r ⟨marks, outer, false⟩ s := by
  cases a with
  | char c hc =>
    refine h.plain ?_
    simp only [List.mem_cons, List.not_mem_nil, or_false, not_or] at hc
    simp [isPlain, isSpecial, isQuantifierStart, hc]
  | escape c hc => exact h.after (by simp [Guard.step, isDigit_of_isEscapable hc])
  | bracket b =>
    have hclass : Yields r ⟨marks, outer, false⟩ ('[' :: (b.body ++ ']' :: s)) := by
      simpa [Leaf.text] using h
    exact hclass.class (splitClass_body b s)

/-- A quantifier that stands by itself marks the group. -/
theorem yields_quantifier {q : Quantifier} (hq : q.Fits)
    (hs : ∀ c, s.head? = some c → isQuantifierStart c = false)
    (h : Yields r ⟨marks, outer, false⟩ (q.text ++ s)) :
    Yields r ⟨{ marks with unbounded := marks.unbounded || q.isUnbounded }, outer, false⟩ s := by
  have hfound := quantifier?_text hq hs
  obtain ⟨c, t, htext, hc⟩ := q.text_head
  rw [htext, List.cons_append] at h hfound
  have hspecial : isSpecial c = false := by
    simp only [isQuantifierStart, Bool.or_eq_true, beq_iff_eq] at hc
    rcases hc with ((rfl | rfl) | rfl) | rfl <;> decide
  rw [← q.repetition_eq_unbounded]
  exact h.quantified hspecial hfound

theorem text_leaf (a : Leaf) (q : Option Quantifier) (next : Written) :
    (leaf a q next).text = a.text ++ (quantifierText q ++ next.text) := by
  simp [text, tokens, textOf, Token.text]

theorem text_group (captures : Bool) (body next : Written) (q : Option Quantifier) :
    (group captures body q next).text =
      (Token.opening captures).text ++ (body.text ++ ')' :: (quantifierText q ++ next.text)) := by
  simp [text, tokens, textOf, Token.text]

theorem text_bar (next : Written) : (bar next).text = '|' :: next.text := by
  simp [text, tokens, textOf, Token.text]

theorem text_append_head {t : Written} (hs : ∀ c, s.head? = some c → isQuantifierStart c = false)
    (c : Char) (h : (t.text ++ s).head? = some c) : isQuantifierStart c = false := by
  cases ht : t.text with
  | nil =>
    rw [ht] at h
    exact hs c h
  | cons d more =>
    rw [ht] at h
    exact textOf_head t.tokens (by rw [show textOf t.tokens = _ from ht]; exact h)

/-- The guard is inside a group that has just been opened. -/
theorem yields_opening {captures : Bool}
    (hs : ∀ c, s.head? = some c → isQuantifierStart c = false)
    (h : Yields r ⟨marks, outer, false⟩ ((Token.opening captures).text ++ s)) :
    Yields r ⟨.clear, marks :: outer, false⟩ s := by
  cases captures with
  | true =>
    refine h.after ?_
    show Guard.step _ ('(' :: s) = _
    rw [step_opening]
    have hnone : refusedOpening? s = none := by
      unfold refusedOpening?
      split
      all_goals first | rfl | exact absurd (hs '?' rfl) (by decide)
    rw [hnone]
  | false =>
    have hinside : Yields r ⟨.clear, marks :: outer, false⟩ ('?' :: [':'] ++ s) :=
      h.after (step_opening _)
    exact hinside.questionMark (by simp) (List.forall_mem_singleton.2 (by decide))

/-- The guard at the end of a group: the quantifier is a fault, or the group around takes over the
marks. -/
theorem yields_closing {parent : Marks} {q : Option Quantifier} (hq : ∀ x ∈ q, x.Fits)
    (hs : ∀ c, s.head? = some c → isQuantifierStart c = false)
    (h : Yields r ⟨marks, parent :: outer, false⟩ (')' :: (quantifierText q ++ s))) :
    (∃ reason, marks.fault? (q.map Quantifier.repetition) = some reason ∧
      r = .error (.rejected reason)) ∨
    marks.fault? (q.map Quantifier.repetition) = none ∧
      Yields r ⟨parent.absorb marks (q.map Quantifier.repetition), outer, false⟩ s := by
  have hfound : quantifier? (quantifierText q ++ s) = .ok (q.map fun x => (x.repetition, s)) := by
    cases q with
    | some x => exact quantifier?_text (hq x rfl) hs
    | none =>
      cases s with
      | nil => rfl
      | cons c s => exact quantifier?_of_not_start (hs c rfl)
  have hkind : (q.map fun x => (x.repetition, s)).map Prod.fst = q.map Quantifier.repetition := by
    cases q <;> rfl
  have hafter : afterQuantifier (q.map fun x => (x.repetition, s)) (quantifierText q ++ s) = s := by
    cases q <;> rfl
  have hstep : Guard.step ⟨marks, parent :: outer, false⟩ (')' :: (quantifierText q ++ s)) = _ :=
    step_closing _
  rw [hfound] at hstep
  dsimp only at hstep
  rw [hkind, hafter] at hstep
  cases hfault : marks.fault? (q.map Quantifier.repetition) with
  | some reason =>
    rw [hfault] at hstep
    exact .inl ⟨reason, rfl, h.stopped hstep⟩
  | none =>
    rw [hfault] at hstep
    exact .inr ⟨rfl, h.after hstep⟩

/-- A group takes over the marks of a group in it. -/
theorem absorb_eq (parent inner : Marks) (q : Option Quantifier) :
    parent.absorb inner (q.map Quantifier.repetition) =
      join parent (join inner ⟨q.any Quantifier.isUnbounded, false⟩) := by
  cases q with
  | none => simp [Marks.absorb, join]
  | some x => simp [Marks.absorb, join, ← x.repetition_eq_unbounded, Bool.or_assoc]

/-- The guard at the end of what is written: it stopped at the first fault, or the marks of the group
have grown by what there is. -/
theorem yields_text {t : Written} (hfits : ∀ token ∈ t.tokens, ∀ q ∈ token.quantifier?, q.Fits)
    (hs : ∀ c, s.head? = some c → isQuantifierStart c = false)
    (h : Yields r ⟨marks, outer, false⟩ (t.text ++ s)) :
    (∃ reason, t.fault? = some reason ∧ r = .error (.rejected reason)) ∨
      t.fault? = none ∧ Yields r ⟨join marks t.marks, outer, false⟩ s := by
  induction t generalizing marks outer s with
  | done =>
    refine .inr ⟨rfl, ?_⟩
    rw [marks_done, join_clear]
    exact h
  | leaf a q next ih =>
    rw [tokens, List.forall_mem_cons] at hfits
    rw [text_leaf, List.append_assoc, List.append_assoc] at h
    have hq : Yields r ⟨join marks ⟨q.any Quantifier.isUnbounded, false⟩, outer, false⟩
        (next.text ++ s) := by
      cases q with
      | none =>
        rw [Option.any_none, show (⟨false, false⟩ : Marks) = .clear from rfl, join_clear]
        exact yields_leaf h
      | some x =>
        have hmarked := yields_quantifier (hfits.1 x rfl) (text_append_head hs) (yields_leaf h)
        simpa [join] using hmarked
    rw [marks_leaf, ← join_assoc]
    exact ih hfits.2 hs hq
  | bar next ih =>
    rw [tokens, List.forall_mem_cons] at hfits
    rw [text_bar, List.cons_append] at h
    have hbar : Yields r ⟨join marks ⟨false, true⟩, outer, false⟩ (next.text ++ s) := by
      simpa [join] using h.bar
    rw [marks_bar, ← join_assoc]
    exact ih hfits.2 hs hbar
  | group captures body q next ihbody ihnext =>
    rw [tokens, List.cons_append, List.forall_mem_cons, List.forall_mem_append,
      List.forall_mem_cons] at hfits
    obtain ⟨-, hfitsBody, hfitsQuantifier, hfitsNext⟩ := hfits
    have hq : ∀ x ∈ q, x.Fits := hfitsQuantifier
    have hclosing : ∀ c, (')' :: (quantifierText q ++ (next.text ++ s))).head? = some c →
        isQuantifierStart c = false := by
      intro c hc
      obtain rfl := Option.some.inj hc
      decide
    have hopening : Yields r ⟨marks, outer, false⟩ ((Token.opening captures).text ++
        (body.text ++ ')' :: (quantifierText q ++ (next.text ++ s)))) := by
      simpa [text_group] using h
    have hinside := yields_opening (text_append_head hclosing) hopening
    rw [fault?]
    rcases ihbody hfitsBody hclosing hinside with ⟨reason, hfault, hr⟩ | ⟨hfault, hend⟩
    · exact .inl ⟨reason, by simp [hfault], hr⟩
    · rw [clear_join] at hend
      rcases yields_closing hq (text_append_head hs) hend with
        ⟨reason, hfault', hr⟩ | ⟨hfault', hafter⟩
      · exact .inl ⟨reason, by simp [hfault, hfault'], hr⟩
      · have hmarks : marks.absorb body.marks (q.map Quantifier.repetition) =
            join marks (join body.marks ⟨q.any Quantifier.isUnbounded, false⟩) :=
          absorb_eq marks body.marks q
        rw [hmarks] at hafter
        rw [hfault, hfault', Option.none_or, Option.none_or, marks_group, ← join_assoc]
        exact ihnext hfitsNext hs hafter

end Scan

/-! ## The faults of an expression -/

theorem marks_unbounded_iff (t : Written) : t.marks.unbounded = true ↔ t.HoldsUnbounded := by
  simp only [marks, List.any_eq_true, Option.any_eq_true, HoldsUnbounded, Option.mem_def]

theorem marks_alternation_iff (t : Written) : t.marks.alternation = true ↔ t.HoldsAlternatives := by
  simp only [marks, List.any_eq_true, HoldsAlternatives]
  refine exists_congr fun token => and_congr_right fun _ => ?_
  cases token <;> simp

theorem isSome_fault?_iff (inner : Marks) (repetition : Option Repetition) :
    (inner.fault? repetition).isSome = true ↔ ∃ kind ∈ repetition, kind.isRepeated = true ∧
      (inner.unbounded = true ∨ inner.alternation = true) := by
  cases repetition with
  | none => simp [Marks.fault?]
  | some kind =>
    obtain ⟨unbounded, alternation⟩ := inner
    cases kind <;> cases unbounded <;> cases alternation <;>
      simp [Marks.fault?, Repetition.isRepeated]

/-- There is a fault just if some group is one under its quantifier. -/
theorem fault?_isSome_iff (t : Written) : t.fault?.isSome = true ↔ t.RepeatsChoice := by
  induction t with
  | done => simp [fault?, RepeatsChoice, groups]
  | leaf a q next ih => exact ih
  | bar next ih => exact ih
  | group captures body q next ihbody ihnext =>
    have hgroup : (body.marks.fault? (q.map Quantifier.repetition)).isSome = true ↔
        ∃ x ∈ q, x.isRepeated = true ∧ (body.HoldsUnbounded ∨ body.HoldsAlternatives) := by
      rw [isSome_fault?_iff, marks_unbounded_iff, marks_alternation_iff]
      simp [Quantifier.isRepeated_repetition]
    rw [fault?, Option.isSome_or, Option.isSome_or, Bool.or_eq_true, Bool.or_eq_true, ihbody, ihnext,
      hgroup]
    simp only [RepeatsChoice, groups, List.cons_append, List.mem_cons, List.mem_append,
      or_and_right, exists_or, exists_eq_left]
    rw [← or_assoc]
    exact or_congr or_comm Iff.rfl

/-- Of an ordinary expression that is an expression and not too long, the guard rejects a group that
may be repeated and holds a quantifier without a maximum or alternatives, and nothing else. -/
theorem checkInline_text (t : Written) (pattern : Text) {limit : Int} {e : Expression}
    (hread : Expression.ofText t.text = .ok e) (hlimit : (t.text.length : Int) ≤ limit) :
    ((∃ reason, checkInline t.text pattern limit =
        .error (.refused (.rejected t.text pattern reason))) ↔ t.RepeatsChoice) ∧
      (¬t.RepeatsChoice → checkInline t.text pattern limit = .ok ()) := by
  have hend : Yields (scanExpression t.text) ⟨.clear, [], false⟩ (t.text ++ []) := by
    rw [List.append_nil]
    rfl
  have hscan := yields_text (fits_of_ofText hread) (by simp) hend
  rw [← fault?_isSome_iff, checkInline]
  dsimp only
  rw [if_neg (Int.not_lt.2 hlimit), hread]
  dsimp only
  rcases hscan with ⟨reason, hfault, hr⟩ | ⟨hfault, hr⟩
  · rw [hr, hfault]
    exact ⟨iff_of_true ⟨reason, rfl⟩ rfl, fun h => absurd rfl h⟩
  · have hr' : scanExpression t.text = .ok () := by
      have hnil : scanFrom _ [] = scanExpression t.text := hr
      rw [← hnil, scanFrom]
    rw [hr', hfault]
    exact ⟨iff_of_false (by simp) (by simp), fun _ => rfl⟩

/-- A loop around a loop is rejected, and alternatives that are tried at most once are not. -/
theorem checkInline_text_loops :
    (∃ reason, checkInline "(?:[^]a]+\\.)\x7b2,\x7d?".toList [] 256 =
      .error (.refused (.rejected "(?:[^]a]+\\.)\x7b2,\x7d?".toList [] reason))) ∧
    checkInline "(a|b)?+c*".toList [] 256 = .ok () := by
  let two : Numeral := ⟨['2'], by simp, List.forall_mem_singleton.2 (by decide)⟩
  let members : BracketClass := ⟨true, true, [.char 'a' (by decide)], .inl rfl, by simp⟩
  let loop : Quantifier := ⟨.plus, .greedy⟩
  let nested : Written :=
    .group false (.leaf (.bracket members) (some loop) (.leaf (.escape '.' (by decide)) none .done))
      (some ⟨.range (some two) none, .lazy⟩) .done
  let choice : Written :=
    .group true (.leaf (.char 'a' (by decide)) none (.bar (.leaf (.char 'b' (by decide)) none .done)))
      (some ⟨.mark, .possessive⟩) (.leaf (.char 'c' (by decide)) (some ⟨.star, .greedy⟩) .done)
  have hnested : nested.RepeatsChoice :=
    ⟨_, List.mem_cons_self .., _, rfl, rfl, .inl ⟨_, List.mem_cons_self .., loop, rfl, rfl⟩⟩
  have hchoice : ¬choice.RepeatsChoice := by
    rw [← fault?_isSome_iff]
    decide
  have hreadNested : ((Expression.ofText nested.text).toOption).isSome = true := by decide +kernel
  have hreadChoice : ((Expression.ofText choice.text).toOption).isSome = true := by decide +kernel
  obtain ⟨e, he⟩ := Option.isSome_iff_exists.1 hreadNested
  obtain ⟨e', he'⟩ := Option.isSome_iff_exists.1 hreadChoice
  exact ⟨(checkInline_text nested [] (eq_ok_of_toOption he) (by decide)).1.2 hnested,
    (checkInline_text choice [] (eq_ok_of_toOption he') (by decide)).2 hchoice⟩

end Written

end PathRouter

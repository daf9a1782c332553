import PathRouter.Pattern.Guard
import PathRouter.Proofs.SplicedText

/-!
# What the guard accepts

One lemma for each thing the guard comes across: what it makes of a scan that is accepted from there
on. The guard knows less of the grammar than the reader does. It goes through most of what the
reader takes at once character by character, and takes a quantifier together with the parenthesis
before it.
-/

namespace PathRouter.Guard
set_option autoImplicit false

/-- The scan of the rest of an expression ends with the result `r`. -/
def Yields (r : Except Stop Unit) (scan : Scan) (s : Text) : Prop :=
  scanFrom scan s = r

/-- The rest of an expression passes the scan. -/
abbrev Accepts (scan : Scan) (s : Text) : Prop :=
  Yields (.ok ()) scan s

/-- A result other than a rejection, and a condition on what is left to scan: it is kept from token
to token, and under it no numeral breaks off the scan with the result. -/
structure Ending (r : Except Stop Unit) (P : Text → Prop) : Prop where
  unrejected : ∀ reason, r ≠ .error (.rejected reason)
  char : ∀ {c : Char} {s : Text}, c ≠ '\\' → P (c :: s) → P s
  escape : ∀ {c : Char} {s : Text}, P ('\\' :: c :: s) → P s
  counted : ∀ {s : Text} {failure : BuildFailure}, P s → quantifier? s = .error failure →
    r ≠ .error (.failed failure)

theorem Ending.word {r : Except Stop Unit} {P : Text → Prop} (hr : Ending r P) {w s : Text}
    (hw : ∀ c ∈ w, c ≠ '\\') (h : P (w ++ s)) : P s := by
  induction w with
  | nil => exact h
  | cons c w ih =>
    rw [List.forall_mem_cons] at hw
    exact ih hw.2 (hr.char hw.1 h)

/-- A scan that is passed ends under any condition. -/
theorem Ending.accepted : Ending (.ok ()) fun _ => True :=
  ⟨nofun, fun _ h => h, fun h => h, fun _ _ => nofun⟩

/-- The characters that the guard does more about than look for a quantifier. -/
def isSpecial (c : Char) : Bool :=
  c == '\\' || c == '[' || c == '|' || c == '(' || c == ')'

/-- The guard passes over the character. -/
def isPlain (c : Char) : Bool :=
  !isSpecial c && !Regex.isQuantifierStart c

/-- The rest after a parenthesis and a quantifier that follows it. -/
def afterQuantifier (found : Option (Repetition × Text)) (s : Text) : Text :=
  (found.map Prod.snd).getD s

variable {r : Except Stop Unit} {P : Text → Prop} {scan : Scan} {c : Char} {s t : Text}

/-- The scan ends at once, or goes on after a step. -/
theorem Yields.cases (h : Yields r scan (c :: s)) :
    (∃ stop, step scan (c :: s) = .error stop ∧ r = .error stop) ∨
      ∃ scan' rest, step scan (c :: s) = .ok (scan', rest) ∧ Yields r scan' rest := by
  unfold Yields at h
  rw [scanFrom] at h
  split at h
  · exact .inl ⟨_, ‹_›, h.symm⟩
  · exact .inr ⟨_, _, ‹_›, h⟩

theorem Yields.after {scan' : Scan} {rest : Text} (h : Yields r scan (c :: s))
    (hstep : step scan (c :: s) = .ok (scan', rest)) : Yields r scan' rest := by
  obtain ⟨stop, hstop, -⟩ | ⟨scan'', rest', hstep', hrest⟩ := h.cases
  · exact absurd (hstep.symm.trans hstop) (by simp)
  · obtain ⟨rfl, rfl⟩ := Prod.mk.inj (Except.ok.inj (hstep.symm.trans hstep'))
    exact hrest

/-- A step that ends the scan gives its result. -/
theorem Yields.stopped {stop : Stop} (h : Yields r scan (c :: s))
    (hstep : step scan (c :: s) = .error stop) : r = .error stop := by
  obtain ⟨stop', hstop, hr⟩ | ⟨scan', rest, hstep', -⟩ := h.cases
  · rw [hr, ← Except.error.inj (hstep.symm.trans hstop)]
  · exact absurd (hstep.symm.trans hstep') (by simp)

/-! ## Outside of classes -/

section Outside

variable {marks : Marks} {outer : List Marks}

theorem quantifier?_of_not_start (h : Regex.isQuantifierStart c = false) :
    quantifier? (c :: s) = .ok none := by
  simp only [Regex.isQuantifierStart, Bool.or_eq_false_iff, beq_eq_false_iff_ne] at h
  obtain ⟨⟨⟨hstar, hplus⟩, hmark⟩, hbrace⟩ := h
  rw [quantifier?, if_neg (by simp [hstar, hplus]), if_neg hmark, if_neg hbrace]

/-- A character that is not special may begin a quantifier. -/
theorem step_of_not_special (hc : isSpecial c = false) :
    step ⟨marks, outer, false⟩ (c :: s) =
      match quantifier? (c :: s) with
      | .error failure => .error (.failed failure)
      | .ok none => .ok (⟨marks, outer, false⟩, s)
      | .ok (some (repetition, after)) =>
        .ok (⟨{ marks with unbounded := marks.unbounded || repetition == .unbounded }, outer, false⟩,
          after) := by
  simp only [isSpecial, Bool.or_eq_false_iff, beq_eq_false_iff_ne] at hc
  obtain ⟨⟨⟨⟨hesc, hopen⟩, hbar⟩, hleft⟩, hright⟩ := hc
  rw [step.eq_def]
  split
  · rename_i heq
    exact absurd heq (by simp)
  · rename_i heq
    exact absurd (List.cons.inj heq).1 hesc
  · rename_i heq
    obtain ⟨rfl, rfl⟩ := List.cons.inj heq
    exact (if_neg Bool.false_ne_true).trans <| (if_neg hopen).trans <| (if_neg hbar).trans <|
      (if_neg hleft).trans (if_neg hright)

theorem Yields.char (h : Yields r ⟨marks, outer, false⟩ (c :: s)) (hc : isSpecial c = false)
    (hnone : quantifier? (c :: s) = .ok none) : Yields r ⟨marks, outer, false⟩ s := by
  apply h.after
  rw [step_of_not_special hc, hnone]

theorem Yields.plain (h : Yields r ⟨marks, outer, false⟩ (c :: s)) (hc : isPlain c = true) :
    Yields r ⟨marks, outer, false⟩ s := by
  simp only [isPlain, Bool.and_eq_true, Bool.not_eq_true'] at hc
  exact h.char hc.1 (quantifier?_of_not_start hc.2)

theorem Yields.word {w : Text} (h : Yields r ⟨marks, outer, false⟩ (w ++ s))
    (hw : ∀ c ∈ w, isPlain c = true) : Yields r ⟨marks, outer, false⟩ s := by
  induction w with
  | nil => exact h
  | cons c w ih =>
    rw [List.forall_mem_cons] at hw
    exact ih (h.plain hw.1) hw.2

/-- A quantifier that is met by itself marks the group. -/
theorem Yields.quantified {repetition : Repetition} {after : Text}
    (h : Yields r ⟨marks, outer, false⟩ (c :: s)) (hc : isSpecial c = false)
    (hfound : quantifier? (c :: s) = .ok (some (repetition, after))) :
    Yields r ⟨{ marks with unbounded := marks.unbounded || repetition == .unbounded }, outer, false⟩
      after := by
  apply h.after
  rw [step_of_not_special hc, hfound]

/-- A scan is not broken off where a quantifier may be. -/
theorem Yields.exists_found (hr : Ending r P) (h : Yields r ⟨marks, outer, false⟩ (c :: s))
    (hs : P (c :: s)) (hc : isSpecial c = false) : ∃ found, quantifier? (c :: s) = .ok found := by
  cases hq : quantifier? (c :: s) with
  | ok found => exact ⟨found, rfl⟩
  | error failure =>
    refine absurd (h.stopped ?_) (hr.counted hs hq)
    rw [step_of_not_special hc, hq]

theorem Accepts.quantifier (h : Accepts ⟨marks, outer, false⟩ (c :: s)) (hc : isSpecial c = false) :
    ∃ found, quantifier? (c :: s) = .ok found ∧ ∀ repetition after,
      found = some (repetition, after) →
      Accepts ⟨{ marks with unbounded := marks.unbounded || repetition == .unbounded }, outer, false⟩
        after := by
  obtain ⟨found, hfound⟩ := h.exists_found .accepted trivial hc
  refine ⟨found, hfound, ?_⟩
  rintro repetition after rfl
  exact h.quantified hc hfound

/-- No escape outside a class is a reference. -/
theorem Yields.escape (hr : Ending r P) (h : Yields r ⟨marks, outer, false⟩ ('\\' :: c :: s)) :
    Yields r ⟨marks, outer, false⟩ s ∧ ¬(CodePoint.isDigit c.toNat = true ∧ c ≠ '0') := by
  have hstep : step ⟨marks, outer, false⟩ ('\\' :: c :: s) =
      if CodePoint.isDigit c.toNat && c != '0' then .error (.rejected .backreference)
      else .ok (⟨marks, outer, false⟩, s) := by
    simp [step]
  by_cases hdigit : CodePoint.isDigit c.toNat && c != '0'
  · rw [if_pos hdigit] at hstep
    exact absurd (h.stopped hstep) (hr.unrejected _)
  · rw [if_neg hdigit] at hstep
    exact ⟨h.after hstep, by simpa using hdigit⟩

theorem Yields.bar (h : Yields r ⟨marks, outer, false⟩ ('|' :: s)) :
    Yields r ⟨{ marks with alternation := true }, outer, false⟩ s :=
  h.after (by simp [step])

theorem step_opening (s : Text) :
    step ⟨marks, outer, false⟩ ('(' :: s) =
      match refusedOpening? s with
      | some reason => .error (.rejected reason)
      | none => .ok (⟨.clear, marks :: outer, false⟩, s) := by
  rw [step]
  · rfl
  · exact fun he => absurd he (by decide)

/-- A group is opened by none of the refused constructs. -/
theorem Yields.opening (hr : Ending r P) (h : Yields r ⟨marks, outer, false⟩ ('(' :: s)) :
    refusedOpening? s = none ∧ Yields r ⟨.clear, marks :: outer, false⟩ s := by
  have hstep : step ⟨marks, outer, false⟩ ('(' :: s) = _ := step_opening s
  cases hrefused : refusedOpening? s with
  | some reason =>
    rw [hrefused] at hstep
    exact absurd (h.stopped hstep) (hr.unrejected _)
  | none =>
    rw [hrefused] at hstep
    exact ⟨rfl, h.after hstep⟩

theorem step_closing (s : Text) :
    step ⟨marks, outer, false⟩ (')' :: s) =
      match quantifier? s with
      | .error failure => .error (.failed failure)
      | .ok found =>
        match marks.fault? (found.map Prod.fst), outer with
        | some reason, _ => .error (.rejected reason)
        | none, [] => .error (.failed .closedTooOften)
        | none, parent :: around =>
          .ok (⟨parent.absorb marks (found.map Prod.fst), around, false⟩,
            afterQuantifier found s) := by
  rw [step]
  · simp only [Char.reduceEq, Bool.false_eq_true, if_false, if_true]
    rfl
  · exact fun he => absurd he (by decide)

/-- A group is closed and, if a quantifier follows, repeated without fault, unless no group is
open. -/
theorem Yields.closing (hr : Ending r P) (hs : P s) (h : Yields r ⟨marks, outer, false⟩ (')' :: s)) :
    ∃ found, quantifier? s = .ok found ∧ marks.fault? (found.map Prod.fst) = none ∧
      (outer = [] ∧ r = .error (.failed .closedTooOften) ∨
        ∃ parent around, outer = parent :: around ∧
          Yields r ⟨parent.absorb marks (found.map Prod.fst), around, false⟩
            (afterQuantifier found s)) := by
  have hstep : step ⟨marks, outer, false⟩ (')' :: s) = _ := step_closing s
  cases hq : quantifier? s with
  | error failure =>
    rw [hq] at hstep
    exact absurd (h.stopped hstep) (hr.counted hs hq)
  | ok found =>
    rw [hq] at hstep
    dsimp only at hstep
    refine ⟨found, rfl, ?_⟩
    cases hfault : marks.fault? (found.map Prod.fst) with
    | some reason =>
      rw [hfault] at hstep
      exact absurd (h.stopped hstep) (hr.unrejected _)
    | none =>
      rw [hfault] at hstep
      refine ⟨rfl, ?_⟩
      cases outer with
      | nil => exact .inl ⟨rfl, h.stopped hstep⟩
      | cons parent around => exact .inr ⟨parent, around, rfl, h.after hstep⟩

end Outside

/-! ## Classes -/

section Classes

open Confine

variable {marks : Marks} {outer : List Marks} {body after : Text}

theorem step_inClass (hc : c ≠ '\\') :
    step ⟨marks, outer, true⟩ (c :: s) = .ok (⟨marks, outer, c != ']'⟩, s) := by
  rw [step]
  · rfl
  · exact fun h => absurd h hc

/-- The scan leaves a class where its members end. -/
theorem Yields.members (h : Yields r ⟨marks, outer, true⟩ s)
    (hsplit : splitMembers s = some (body, after)) : Yields r ⟨marks, outer, false⟩ after := by
  fun_induction splitMembers s generalizing body after with
  | case1 => exact absurd hsplit (by simp)
  | case2 => exact absurd hsplit (by simp)
  | case3 c s ih =>
    obtain ⟨⟨b, a⟩, hb, he⟩ := Option.map_eq_some_iff.1 hsplit
    obtain ⟨rfl, rfl⟩ := Prod.mk.inj he
    exact ih (h.after (by simp [step])) hb
  | case4 s _ =>
    obtain ⟨rfl, rfl⟩ := Prod.mk.inj (Option.some.inj hsplit)
    exact h.after (step_inClass (by decide))
  | case5 c s hesc hclose ih =>
    obtain ⟨⟨b, a⟩, hb, he⟩ := Option.map_eq_some_iff.1 hsplit
    obtain ⟨rfl, rfl⟩ := Prod.mk.inj he
    refine ih (h.after ?_) hb
    rw [step_inClass hesc, bne_iff_ne.2 hclose]

theorem splitMembers_of_splitFirst (h : splitFirst s = some (body, after)) :
    ∃ body', splitMembers (skipOne [']'] s) = some (body', after) := by
  unfold splitFirst at h
  split at h
  · rename_i rest
    obtain ⟨⟨b, a⟩, hb, he⟩ := Option.map_eq_some_iff.1 h
    obtain ⟨rfl, rfl⟩ := Prod.mk.inj he
    exact ⟨b, by simpa [skipOne] using hb⟩
  · rename_i hnot
    refine ⟨body, ?_⟩
    cases s with
    | nil => exact h
    | cons c s =>
      rw [skipOne, if_neg]
      · exact h
      · intro hc
        exact hnot s (by rw [List.mem_singleton.1 hc])

/-- The scan and the splitting of a class agree on where its members begin. -/
theorem splitMembers_enterClass (h : splitClass s = some (body, after)) :
    ∃ body', splitMembers (enterClass s) = some (body', after) := by
  unfold splitClass at h
  split at h
  · rename_i rest
    obtain ⟨⟨b, a⟩, hb, he⟩ := Option.map_eq_some_iff.1 h
    obtain ⟨rfl, rfl⟩ := Prod.mk.inj he
    have hskip : skipOne ['^'] ('^' :: rest) = rest := by simp [skipOne]
    rw [enterClass, hskip]
    exact splitMembers_of_splitFirst hb
  · rename_i hnot
    have hskip : skipOne ['^'] s = s := by
      cases s with
      | nil => rfl
      | cons c s =>
        rw [skipOne, if_neg]
        intro hc
        exact hnot s (by rw [List.mem_singleton.1 hc])
    rw [enterClass, hskip]
    exact splitMembers_of_splitFirst h

/-- A class is passed over as a whole. -/
theorem Yields.class (h : Yields r ⟨marks, outer, false⟩ ('[' :: s))
    (hsplit : splitClass s = some (body, after)) : Yields r ⟨marks, outer, false⟩ after := by
  have hstep : step ⟨marks, outer, false⟩ ('[' :: s) =
      .ok (⟨marks, outer, true⟩, enterClass s) := by
    rw [step]
    · rfl
    · exact fun he => absurd he (by decide)
  obtain ⟨body', hbody'⟩ := splitMembers_enterClass hsplit
  exact (h.after hstep).members hbody'

end Classes

/-! ## Quantifiers -/

/-- The characters of a quantifier. -/
def isQuantifying (c : Char) : Bool :=
  c == '*' || c == '+' || c == '?' || c == '\x7b' || c == ',' || c == '\x7d' ||
    CodePoint.isDecimal c.toNat

theorem spanDigits_eq (s : Text) : s = (spanDigits s).1 ++ (spanDigits s).2 :=
  (List.takeWhile_append_dropWhile).symm

theorem isQuantifying_of_mem_spanDigits (h : c ∈ (spanDigits s).1) : isQuantifying c = true := by
  have hdigit : CodePoint.isDecimal c.toNat = true := List.all_eq_true.1 List.all_takeWhile c h
  simp [isQuantifying, hdigit]

theorem skipOne_used (cs : List Char) (s : Text) :
    ∃ used, s = used ++ skipOne cs s ∧ ∀ c ∈ used, c ∈ cs := by
  unfold skipOne
  split
  · exact ⟨[], rfl, by simp⟩
  · split
    · exact ⟨[_], rfl, by simpa⟩
    · exact ⟨[], rfl, by simp⟩

/-- A count of digits is followed by what follows them. -/
theorem counted_eq_ok {digits rest : Text} {found : Option (Repetition × Text)}
    (h : (do
      let n ← countOf digits
      return some (ofCount n, rest)) = Except.ok found) :
    ∃ n, countOf digits = .ok n ∧ found = some (ofCount n, rest) := by
  cases hn : countOf digits with
  | error e =>
    rw [hn] at h
    exact absurd h (by simp [bind, Except.bind])
  | ok n =>
    rw [hn] at h
    exact ⟨n, rfl, (Except.ok.inj h).symm⟩

theorem braces?_used {repetition : Repetition} (h : braces? s = .ok (some (repetition, t))) :
    ∃ used, s = used ++ t ∧ ∀ c ∈ used, isQuantifying c = true := by
  have hdigits {u : Text} : ∀ c ∈ (spanDigits u).1, isQuantifying c = true :=
    fun _ => isQuantifying_of_mem_spanDigits
  have hbrace : isQuantifying '\x7d' = true := by decide
  have hcomma : isQuantifying ',' = true := by decide
  unfold braces? at h
  dsimp only at h
  split at h
  · rename_i rest hlow
    split at h
    · exact absurd h (by simp)
    · obtain ⟨n, -, he⟩ := counted_eq_ok h
      obtain ⟨-, rfl⟩ := Prod.mk.inj (Option.some.inj he)
      refine ⟨(spanDigits s).1 ++ ['\x7d'], ?_, ?_⟩
      · rw [List.append_assoc, List.singleton_append, ← hlow]
        exact spanDigits_eq s
      · exact List.forall_mem_append.2 ⟨hdigits, List.forall_mem_singleton.2 hbrace⟩
  · rename_i afterComma hlow
    split at h
    · rename_i rest hhigh
      have ht : t = rest := by
        split at h
        · exact (Prod.mk.inj (Option.some.inj (Except.ok.inj h))).2.symm
        · obtain ⟨n, -, he⟩ := counted_eq_ok h
          exact (Prod.mk.inj (Option.some.inj he)).2
      subst ht
      refine ⟨(spanDigits s).1 ++ ',' :: ((spanDigits afterComma).1 ++ ['\x7d']), ?_, ?_⟩
      · rw [List.append_assoc, List.cons_append, List.append_assoc, List.singleton_append, ← hhigh,
          ← spanDigits_eq afterComma, ← hlow]
        exact spanDigits_eq s
      · have hlast : ∀ c ∈ (spanDigits afterComma).1 ++ ['\x7d'], isQuantifying c = true :=
          List.forall_mem_append.2 ⟨hdigits, List.forall_mem_singleton.2 hbrace⟩
        exact List.forall_mem_append.2 ⟨hdigits, List.forall_mem_cons.2 ⟨hcomma, hlast⟩⟩
    · exact absurd h (by simp)
  · exact absurd h (by simp)

theorem dropSuffix_used (s : Text) :
    ∃ used, s = used ++ dropSuffix s ∧ ∀ c ∈ used, isQuantifying c = true := by
  obtain ⟨used, hs, hmem⟩ := skipOne_used ['?', '+'] s
  refine ⟨used, hs, ?_⟩
  intro c hc
  have hsuffix := hmem c hc
  simp only [List.mem_cons, List.not_mem_nil, or_false] at hsuffix
  rcases hsuffix with rfl | rfl <;> decide

/-- A quantifier consists of characters of its own. -/
theorem quantifier?_used {repetition : Repetition}
    (h : quantifier? s = .ok (some (repetition, t))) :
    ∃ c used, s = c :: used ++ t ∧ isQuantifying c = true ∧ ∀ d ∈ used, isQuantifying d = true := by
  cases s with
  | nil => exact absurd (Except.ok.inj h) (by simp)
  | cons c s =>
    have hsingle {r : Repetition} (hc : isQuantifying c = true)
        (h : Except.ok (some (r, dropSuffix s)) =
          (.ok (some (repetition, t)) : Except BuildFailure _)) :
        ∃ d used, c :: s = d :: used ++ t ∧ isQuantifying d = true ∧
          ∀ d ∈ used, isQuantifying d = true := by
      obtain ⟨-, rfl⟩ := Prod.mk.inj (Option.some.inj (Except.ok.inj h))
      obtain ⟨used, hused, hall⟩ := dropSuffix_used s
      exact ⟨c, used, congrArg (c :: ·) hused, hc, hall⟩
    rw [quantifier?] at h
    split at h
    · rename_i hc
      refine hsingle ?_ h
      rcases hc with rfl | rfl <;> decide
    · split at h
      · rename_i hc
        refine hsingle ?_ h
        rw [hc]
        decide
      · split at h
        · rename_i hc
          cases hb : braces? s with
          | error e =>
            rw [hb] at h
            exact absurd h (by simp [bind, Except.bind])
          | ok found =>
            rw [hb] at h
            obtain ⟨⟨r, u⟩, rfl, he⟩ := Option.map_eq_some_iff.1 (Except.ok.inj h)
            obtain ⟨rfl, rfl⟩ := Prod.mk.inj he
            obtain ⟨used, rfl, hall⟩ := braces?_used hb
            obtain ⟨more, hmore, hall'⟩ := dropSuffix_used u
            refine ⟨c, used ++ more, ?_, ?_, List.forall_mem_append.2 ⟨hall, hall'⟩⟩
            · rw [List.cons_append, List.append_assoc, ← hmore]
            · rw [hc]
              decide
        · exact absurd (Except.ok.inj h) (by simp)

/-! ## Comments -/

/-- Marks that were set stay set. -/
structure Marks.Grows (m m' : Marks) : Prop where
  unbounded : m.unbounded = true → m'.unbounded = true
  alternation : m.alternation = true → m'.alternation = true

namespace Marks.Grows

variable {m m' m'' : Marks}

theorem refl (m : Marks) : m.Grows m := ⟨id, id⟩

theorem trans (h : m.Grows m') (h' : m'.Grows m'') : m.Grows m'' :=
  ⟨fun hm => h'.unbounded (h.unbounded hm), fun hm => h'.alternation (h.alternation hm)⟩

theorem repeated (m : Marks) (b : Bool) : m.Grows { m with unbounded := m.unbounded || b } :=
  ⟨fun hm => by rw [hm, Bool.true_or], id⟩

theorem barred (m : Marks) : m.Grows { m with alternation := true } :=
  ⟨id, fun _ => rfl⟩

end Marks.Grows

/-- The brackets that mislead the guard in a comment. -/
def brackets : List Char := ['[', '(', ')']

section Comments

open Regex

variable {α : Type} {stop : Char} {found : Text → α} {read : Text → Except Fault α} {a : α}
variable {marks : Marks} {outer : List Marks}

theorem of_word (hr : Skips stop found read) {w : Text} (hw : ∀ c ∈ w, c ≠ '\\' ∧ c ≠ stop)
    (hne : w ≠ []) (h : read (w ++ s) = .ok a) : s ≠ ['\\'] ∧ read s = .ok a := by
  induction w with
  | nil => exact absurd rfl hne
  | cons c w ih =>
    rw [List.forall_mem_cons] at hw
    rw [List.cons_append, hr.other c _ hw.1.1 hw.1.2] at h
    obtain ⟨⟨⟩, hsettle, h⟩ := bind_eq_ok_iff.1 h
    cases w with
    | nil => exact ⟨settle_eq_ok_iff.1 hsettle, h⟩
    | cons d w => exact ih hw.2 (by simp) h

theorem holdsBefore_word {cs : List Char} {w : Text} (hw : ∀ c ∈ w, c ≠ '\\' ∧ c ≠ stop)
    (h : holdsBefore stop cs (w ++ s) = false) : holdsBefore stop cs s = false := by
  induction w with
  | nil => exact h
  | cons c w ih =>
    rw [List.forall_mem_cons] at hw
    rw [List.cons_append, holdsBefore, if_neg hw.1.2, Bool.or_eq_false_iff] at h
    · exact ih hw.2 h.2
    · exact fun d rest he => absurd he hw.1.1

/-- No character of a quantifier means anything else to the guard or ends a comment. -/
theorem not_isQuantifying : ∀ c ∈ ['\\', '[', '(', ')', '|', '\n'], isQuantifying c = false :=
  Regex.forall_eq_false (by decide)

/-- The guard goes through a comment without brackets, and only sets marks. -/
theorem Yields.skip (he : Ending r P) (hr : Skips stop found read)
    (hstop : isQuantifying stop = false) (hs : s ≠ ['\\']) (hP : P s)
    (hquiet : holdsBefore stop brackets s = false) (hread : read s = .ok a)
    (h : Yields r ⟨marks, outer, false⟩ s) :
    ∃ marks', marks.Grows marks' ∧
      ((∃ rest, rest ≠ ['\\'] ∧ a = found rest ∧ P (stop :: rest) ∧
        Yields r ⟨marks', outer, false⟩ (stop :: rest)) ∨
        read [] = .ok a ∧ Yields r ⟨marks', outer, false⟩ []) := by
  induction hlen : s.length using Nat.strongRecOn generalizing s marks with
  | _ length ih =>
  cases s with
  | nil => exact ⟨marks, .refl _, .inr ⟨hread, h⟩⟩
  | cons c s =>
    have hshort : s.length < length := hlen ▸ Nat.lt_succ_self _
    by_cases hesc : c = '\\'
    · subst hesc
      cases s with
      | nil => exact absurd rfl hs
      | cons c s =>
        rw [hr.escape] at hread
        obtain ⟨⟨⟩, hsettle, hread⟩ := bind_eq_ok_iff.1 hread
        exact ih s.length (Nat.lt_of_succ_lt hshort) (settle_eq_ok_iff.1 hsettle) (he.escape hP) hquiet
          hread (h.escape he).1 rfl
    by_cases hend : c = stop
    · subst hend
      rw [hr.ends] at hread
      obtain ⟨⟨⟩, hsettle, hread⟩ := bind_eq_ok_iff.1 hread
      exact ⟨marks, .refl _, .inl ⟨s, settle_eq_ok_iff.1 hsettle, (Except.ok.inj hread).symm, hP, h⟩⟩
    have hone : ∀ d ∈ [c], d ≠ '\\' ∧ d ≠ stop := by simpa using ⟨hesc, hend⟩
    obtain ⟨hs', hread'⟩ := of_word hr hone (by simp) (show read ([c] ++ s) = .ok a from hread)
    have hquiet' := holdsBefore_word hone (show holdsBefore stop brackets ([c] ++ s) = false from hquiet)
    by_cases hbar : c = '|'
    · subst hbar
      obtain ⟨marks', hgrows, hfound⟩ := ih s.length hshort hs' (he.char hesc hP) hquiet' hread' h.bar rfl
      exact ⟨marks', (Marks.Grows.barred marks).trans hgrows, hfound⟩
    have hbracket : c ∉ brackets := by
      rw [holdsBefore, if_neg hend, Bool.or_eq_false_iff] at hquiet
      · simpa using hquiet.1
      · exact fun d rest he => absurd he hesc
    have hspecial : isSpecial c = false := by
      simpa [isSpecial, brackets, hesc, hbar, and_assoc] using hbracket
    obtain ⟨found', hq⟩ := h.exists_found he hP hspecial
    cases found' with
    | none =>
      exact ih s.length hshort hs' (he.char hesc hP) hquiet' hread' (h.char hspecial hq) rfl
    | some x =>
      obtain ⟨repetition, after⟩ := x
      obtain ⟨d, used, htext, hd, hused⟩ := quantifier?_used hq
      have hword : ∀ e ∈ d :: used, e ≠ '\\' ∧ e ≠ stop := by
        intro e hmem
        have hquantifying : isQuantifying e = true := by
          rcases List.mem_cons.1 hmem with rfl | hmem
          · exact hd
          · exact hused e hmem
        constructor
        · rintro rfl
          exact absurd (hquantifying.symm.trans (not_isQuantifying _ (by simp))) (by simp)
        · rintro rfl
          exact absurd (hquantifying.symm.trans hstop) (by simp)
      rw [htext] at hread hquiet hlen hP
      obtain ⟨hafter, hread''⟩ := of_word hr hword (by simp) hread
      have hlt : after.length < length := by
        rw [List.length_append, List.length_cons] at hlen
        omega
      obtain ⟨marks', hgrows, hfound⟩ := ih after.length hlt hafter
        (he.word (fun e hmem => (hword e hmem).1) hP) (holdsBefore_word hword hquiet) hread''
        (h.quantified hspecial hq) rfl
      exact ⟨marks', (Marks.Grows.repeated marks _).trans hgrows, hfound⟩

end Comments

end PathRouter.Guard

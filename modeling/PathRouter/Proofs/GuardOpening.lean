import PathRouter.Proofs.GuardScan
import PathRouter.Proofs.ReaderSteps
import PathRouter.Proofs.SplicedOpening

/-!
# What the guard passes over

The guard looks at an escape no further than at its letter, and at the opening of a group no further
than to see whether it is refused. The rest of both it goes through as if it stood for itself. In
the opening of a group it takes the question mark for a quantifier. None of this leaves a mark.
-/

namespace PathRouter.Guard
set_option autoImplicit false

open Regex

variable {r : Except Stop Unit} {marks : Marks} {outer : List Marks} {c : Char} {s rest : Text}

theorem isPlain_of_forall {p : Char → Bool}
    (h : ∀ c ∈ ['\\', '[', '|', '(', ')', '*', '+', '?', '\x7b'], p c = false) (hc : p c = true) :
    isPlain c = true := by
  have hne : ∀ d ∈ ['\\', '[', '|', '(', ')', '*', '+', '?', '\x7b'], c ≠ d := by
    rintro d hd rfl
    exact absurd ((h c hd).symm.trans hc) Bool.false_ne_true
  simp only [List.forall_mem_cons] at hne
  simp [isPlain, isSpecial, isQuantifierStart, hne]

/-! ## Escapes -/

theorem isPlain_of_isAsciiBlank (hc : CodePoint.isAsciiBlank c.toNat = true) : isPlain c = true :=
  isPlain_of_forall (p := fun c => CodePoint.isAsciiBlank c.toNat) (forall_eq_false (by decide)) hc

theorem not_start_of_isPlain (hc : isPlain c = true) : isQuantifierStart c = false := by
  rw [isPlain, Bool.and_eq_true, Bool.not_eq_true', Bool.not_eq_true'] at hc
  exact hc.2

/-- A digit that the reader takes for part of a reference is a digit to the guard. -/
theorem isAnyDigit_of_isDigit (h : Regex.isDigit c = true) : CodePoint.isDigit c.toNat = true := by
  have hle : c.toNat ≤ 57 := by
    simp only [Regex.isDigit, CodePoint.isAsciiDigit, Bool.and_eq_true, decide_eq_true_eq] at h
    exact h.2
  rw [CodePoint.isDigit, if_pos (Nat.lt_of_le_of_lt hle (by decide))]
  exact h

theorem isPlain_of_isHexDigit (hc : isHexDigit c = true) : isPlain c = true :=
  isPlain_of_forall (forall_eq_false (by decide)) hc

theorem isPlain_of_isAsciiLetter (hc : CodePoint.isAsciiLetter c.toNat = true) :
    isPlain c = true :=
  isPlain_of_forall (p := fun c => CodePoint.isAsciiLetter c.toNat) (forall_eq_false (by decide)) hc

theorem isPlain_of_isNamePart (hc : CodePoint.isNamePart c = true) : isPlain c = true :=
  isPlain_of_forall (forall_eq_false (by decide)) hc

theorem isDecimal_of_isAsciiLetter {code : CodePoint} (h : CodePoint.isAsciiLetter code = true) :
    CodePoint.isDecimal code = false := by
  simp only [CodePoint.isAsciiLetter, Bool.or_eq_true, Bool.and_eq_true, decide_eq_true_eq] at h
  have hlow : 65 ≤ code := h.elim (·.1) fun h => Nat.le_trans (by decide) h.1
  have hhigh : code ≤ 122 := h.elim (fun h => Nat.le_trans h.2 (by decide)) (·.2)
  rw [CodePoint.isDecimal, if_pos (Nat.lt_of_le_of_lt hhigh (by decide)), CodePoint.isAsciiDigit,
    decide_eq_false (Nat.not_le.2 (Nat.lt_of_lt_of_le (by decide) hlow)), Bool.and_false]

/-- A brace before a letter begins no bounds. -/
theorem quantifier?_letter (hc : CodePoint.isAsciiLetter c.toNat = true) :
    quantifier? ('\x7b' :: c :: s) = .ok none := by
  have hdecimal : CodePoint.isDecimal c.toNat = false := isDecimal_of_isAsciiLetter hc
  have hspan : spanDigits (c :: s) = ([], c :: s) := by
    simp [spanDigits, hdecimal]
  have hne : ∀ d ∈ ['\x7d', ','], c ≠ d := by
    rintro d hd rfl
    exact absurd (hc.symm.trans (forall_eq_false (p := fun c => CodePoint.isAsciiLetter c.toNat)
      (by decide) c hd)) (by simp)
  have hbraces : braces? (c :: s) = .ok none := by
    unfold braces?
    rw [hspan]
    dsimp only
    split
    · rename_i heq
      exact absurd (List.cons.inj heq).1 (hne _ (by simp))
    · rename_i heq
      exact absurd (List.cons.inj heq).1 (hne _ (by simp))
    · rfl
  rw [quantifier?, if_neg (by decide), if_neg (by decide), if_pos rfl, hbraces]
  rfl

/-- What an escape uses after its letter is passed over. -/
theorem Yields.escapeTail {used : Text} (h : Yields r ⟨marks, outer, false⟩ (used ++ s))
    (hused : EscapeTail used) : Yields r ⟨marks, outer, false⟩ s := by
  cases hused with
  | digits hdigits => exact h.word fun c hc => isPlain_of_isHexDigit (hdigits c hc)
  | @name name hspelling =>
    cases name with
    | nil => exact absurd hspelling (by decide)
    | cons c name =>
      rw [CodePoint.isSpelling, Bool.and_eq_true, List.all_eq_true] at hspelling
      obtain ⟨hletter, hparts⟩ := hspelling
      have hinside : Yields r ⟨marks, outer, false⟩ (((c :: name) ++ ['\x7d']) ++ s) :=
        h.char (by decide) (quantifier?_letter hletter)
      refine hinside.word fun d hd => ?_
      simp only [List.cons_append, List.mem_cons, List.mem_append, List.not_mem_nil, or_false] at hd
      rcases hd with rfl | hd | rfl
      · exact isPlain_of_isAsciiLetter hletter
      · exact isPlain_of_isNamePart (hparts d hd)
      · decide

/-! ## Openings of groups -/

/-- The openings that the guard lets pass. -/
inductive PassedOpening : Text → Opening → Text → Prop
  | capture {s : Text} : s.head? ≠ some '?' → PassedOpening s (.capture none) s
  /-- An atomic group, or flags for the group. -/
  | word {w rest : Text} {o : Opening} : (o = .atomic ∨ ∃ on off, o = .scope on off) → w ≠ [] →
      (∀ c ∈ w, isPlain c = true) → PassedOpening ('?' :: w ++ rest) o rest
  | globals {w rest : Text} {on : List Flag} : w ≠ [] → (∀ c ∈ w, isPlain c = true) →
      PassedOpening ('?' :: w ++ ')' :: rest) (.globals on) rest
  | comment {s rest : Text} {place : Nat} : s ≠ ['\\'] →
      readComment place s = .ok (.comment, rest) → PassedOpening ('?' :: '#' :: s) .comment rest

theorem isPlain_of_flag {f : Flag} (h : Flag.ofChar? c = some f) : isPlain c = true := by
  refine isPlain_of_forall (p := fun c => (Flag.ofChar? c).isSome) (forall_eq_false (by decide)) ?_
  show (Flag.ofChar? c).isSome = true
  rw [h, Option.isSome_some]

/-- What flags use up: up to the colon before the group, or up to the parenthesis after flags for the
whole expression. -/
inductive FlagWord : Text → Opening → Text → Prop
  | scope {w rest : Text} {on off : List Flag} : w ≠ [] → (∀ c ∈ w, isPlain c = true) →
      FlagWord (w ++ rest) (.scope on off) rest
  | globals {w rest : Text} {on : List Flag} : (∀ c ∈ w, isPlain c = true) →
      FlagWord (w ++ ')' :: rest) (.globals on) rest

theorem FlagWord.cons {o : Opening} (h : FlagWord s o rest) (hc : isPlain c = true) :
    FlagWord (c :: s) o rest := by
  cases h with
  | scope hne hw => exact .scope (List.cons_ne_nil _ _) (List.forall_mem_cons.2 ⟨hc, hw⟩)
  | @globals w _ _ hw => exact .globals (w := c :: w) (List.forall_mem_cons.2 ⟨hc, hw⟩)

theorem FlagWord.colon (on off : List Flag) (s : Text) :
    FlagWord (':' :: s) (.scope on off) s :=
  .scope (w := [':']) (List.cons_ne_nil _ _) (List.forall_mem_singleton.2 (by decide))

theorem readOff_used {on off : List Flag} {o : Opening} (h : readOff on off s = .ok (o, rest)) :
    FlagWord s o rest := by
  fun_induction readOff on off s with
  | case1 => exact absurd h fault_ne_ok
  | case2 off c s =>
    obtain ⟨⟨⟩, -, h⟩ := bind_eq_ok_iff.1 h
    exact absurd h fault_ne_ok
  | case3 off c s hesc ih =>
    obtain ⟨⟨⟩, -, h⟩ := bind_eq_ok_iff.1 h
    split at h
    · rename_i hcolon
      split at h
      · exact absurd h fault_ne_ok
      · split at h
        · exact absurd h fault_ne_ok
        · obtain ⟨rfl, rfl⟩ := Prod.mk.inj (Except.ok.inj h)
          rw [hcolon.1]
          exact .colon on off s
    · cases hf : Flag.ofChar? c with
      | none =>
        simp only [hf] at h
        exact absurd h fault_ne_ok
      | some f =>
        simp only [hf] at h
        split at h
        · exact absurd h fault_ne_ok
        · exact (ih f h).cons (isPlain_of_flag hf)

theorem readOn_used {on : List Flag} {o : Opening} (h : readOn on s = .ok (o, rest)) :
    FlagWord s o rest := by
  fun_induction readOn on s with
  | case1 => exact absurd h fault_ne_ok
  | case2 c s =>
    obtain ⟨⟨⟩, -, h⟩ := bind_eq_ok_iff.1 h
    exact absurd h fault_ne_ok
  | case3 on c s hesc ih =>
    obtain ⟨⟨⟩, -, h⟩ := bind_eq_ok_iff.1 h
    split at h
    · rename_i hclose
      obtain ⟨rfl, rfl⟩ := Prod.mk.inj (Except.ok.inj h)
      rw [hclose]
      exact .globals (w := []) (by simp)
    · split at h
      · rename_i hcolon
        split at h
        · exact absurd h fault_ne_ok
        · obtain ⟨rfl, rfl⟩ := Prod.mk.inj (Except.ok.inj h)
          rw [hcolon]
          exact .colon on [] s
      · split at h
        · rename_i hminus
          split at h
          · exact absurd h fault_ne_ok
          · rw [hminus]
            exact (readOff_used h).cons (by decide)
        · cases hf : Flag.ofChar? c with
          | none =>
            simp only [hf] at h
            exact absurd h fault_ne_ok
          | some f =>
            simp only [hf] at h
            split at h
            · exact absurd h fault_ne_ok
            · split at h
              · exact absurd h fault_ne_ok
              · exact (ih f h).cons (isPlain_of_flag hf)

theorem eq_comment_of_readComment {place : Nat} {o : Opening}
    (h : readComment place s = .ok (o, rest)) : o = .comment := by
  fun_induction readComment place s with
  | case1 => exact absurd h fault_ne_ok
  | case2 c s ih =>
    obtain ⟨⟨⟩, -, h⟩ := bind_eq_ok_iff.1 h
    exact ih h
  | case3 c s hesc ih =>
    obtain ⟨⟨⟩, -, h⟩ := bind_eq_ok_iff.1 h
    split at h
    · exact (Prod.mk.inj (Except.ok.inj h)).1.symm
    · exact ih h

theorem refusedOpening?_behind (s : Text) : refusedOpening? ('?' :: '<' :: s) ≠ none := by
  unfold refusedOpening?
  split <;> simp_all

/-- Every construct with a name after the letter is refused. -/
theorem readNamedConstruct_refused {env : Surroundings} {x : Opening × Text}
    (h : readNamedConstruct env s = .ok x) : refusedOpening? ('?' :: 'P' :: s) ≠ none := by
  unfold readNamedConstruct at h
  split at h
  · exact Option.some_ne_none _
  · exact Option.some_ne_none _
  · obtain ⟨⟨token, r⟩, -, h⟩ := bind_eq_ok_iff.1 h
    dsimp only at h
    split at h <;> exact absurd h fault_ne_ok

theorem FlagWord.passedOpening {o : Opening} (h : FlagWord (c :: s) o rest)
    (hc : isPlain c = true) : PassedOpening ('?' :: c :: s) o rest := by
  generalize he : c :: s = t at h
  cases h with
  | scope hne hw => exact .word (.inr ⟨_, _, rfl⟩) hne hw
  | @globals w _ on hw =>
    refine .globals ?_ hw
    rintro rfl
    obtain rfl := (List.cons.inj he).1
    exact absurd hc (by decide)

/-- An opening that the guard does not refuse is one of a few. -/
theorem passedOpening_of_readOpening {env : Surroundings} {o : Opening}
    (h : readOpening env s = .ok (o, rest)) (hrefused : refusedOpening? s = none) :
    PassedOpening s o rest := by
  unfold readOpening at h
  split at h
  · rename_i s
    obtain ⟨⟨⟩, hsettle, h⟩ := bind_eq_ok_iff.1 h
    cases s with
    | nil => exact absurd h fault_ne_ok
    | cons c s =>
      by_cases hesc : c = '\\'
      · refine absurd h (readExtension_narrowable ?_ (settle_eq_ok_iff.1 hsettle))
        rw [hesc]
        decide
      · rw [readExtension_char hesc] at h
        obtain ⟨⟨⟩, hrest, h⟩ := bind_eq_ok_iff.1 h
        unfold extensionOf at h
        split at h
        · exact absurd hrefused (readNamedConstruct_refused h)
        · obtain ⟨rfl, rfl⟩ := Prod.mk.inj (Except.ok.inj h)
          exact (FlagWord.colon [] [] s).passedOpening (by decide)
        · obtain rfl := eq_comment_of_readComment h
          exact .comment (settle_eq_ok_iff.1 hrest) h
        · exact absurd hrefused (Option.some_ne_none _)
        · exact absurd hrefused (Option.some_ne_none _)
        · exact absurd hrefused (refusedOpening?_behind s)
        · exact absurd hrefused (Option.some_ne_none _)
        · obtain ⟨rfl, rfl⟩ := Prod.mk.inj (Except.ok.inj h)
          exact .word (w := ['>']) (.inl rfl) (by simp) (List.forall_mem_singleton.2 (by decide))
        · split at h
          · rename_i hflag
            rw [Bool.or_eq_true, beq_iff_eq] at hflag
            refine (readOn_used h).passedOpening ?_
            rcases hflag with rfl | hflag
            · decide
            · obtain ⟨f, hf⟩ := Option.isSome_iff_exists.1 hflag
              exact isPlain_of_flag hf
          · exact absurd h fault_ne_ok
  · rename_i hmark
    obtain ⟨rfl, rfl⟩ := Prod.mk.inj (Except.ok.inj h)
    refine .capture fun hhead => ?_
    obtain ⟨s', rfl⟩ := List.head?_eq_some_iff.1 hhead
    exact hmark s' rfl

/-- The question mark of an opening is taken for a quantifier, and leaves no mark. -/
theorem Yields.questionMark {w : Text} (h : Yields r ⟨marks, outer, false⟩ ('?' :: w ++ s))
    (hne : w ≠ []) (hw : ∀ c ∈ w, isPlain c = true) : Yields r ⟨marks, outer, false⟩ s := by
  have hdrop : dropSuffix (w ++ s) = w ++ s := by
    cases w with
    | nil => exact absurd rfl hne
    | cons c w =>
      have hc := hw c (by simp)
      refine if_neg fun hm => ?_
      simp only [List.mem_cons, List.not_mem_nil, or_false] at hm
      rcases hm with rfl | rfl <;> exact absurd hc (by decide)
  have hmark : quantifier? ('?' :: w ++ s) = .ok (some (.optional, w ++ s)) := by
    show quantifier? ('?' :: (w ++ s)) = _
    rw [quantifier?, if_neg (by decide), if_pos rfl, hdrop]
  have hafter := h.quantified (by decide) hmark
  have hsame : (marks.unbounded || Repetition.optional == .unbounded) = marks.unbounded :=
    Bool.or_false _
  rw [hsame] at hafter
  exact hafter.word hw

end PathRouter.Guard

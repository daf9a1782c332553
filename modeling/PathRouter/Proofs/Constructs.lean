import PathRouter.Proofs.Reading

/-!
# Tests on the constructs of an expression

Some facts about an expression are facts about its constructs one by one: what a comment holds, what
an escape denotes. Such a test sees how far the reader is and what is left from the construct on,
and can be run. What each construct keeps holds where the reader ends.
-/

namespace PathRouter.Regex
set_option autoImplicit false

/-- The reader goes construct by construct from one place to another. -/
inductive Leads : Progress → Text → Progress → Text → Prop
  | refl (p : Progress) (s : Text) : Leads p s p s
  | step {p q r : Progress} {c : Char} {s rest t : Text} : c ≠ ')' ∨ p.outer ≠ [] →
      step p (c :: s) = .ok (q, rest) → Leads q rest r t → Leads p (c :: s) r t

namespace Leads

variable {p q r : Progress} {s t u : Text}

theorem trans (h : Leads p s q t) (h' : Leads q t r u) : Leads p s r u := by
  induction h with
  | refl p s => exact h'
  | step hc hstep _ ih => exact .step hc hstep (ih h')

theorem length_le (h : Leads p s q t) : t.length ≤ s.length := by
  induction h with
  | refl p s => exact Nat.le_refl _
  | step hc hstep _ ih => exact Nat.le_trans ih (Nat.le_succ_of_le (step_length hstep))

/-- The whole reading goes on from any place that it comes to. -/
theorem readConstructs_eq (h : Leads p s q t) : readConstructs p s = readConstructs q t := by
  induction h with
  | refl p s => rfl
  | step hc hstep _ ih => exact (readConstructs_step hc hstep).trans ih

/-- What every construct keeps is kept all the way. -/
theorem keeps {P : Progress → Text → Prop} (h : Leads p s q t)
    (hstep : ∀ {p q : Progress} {c : Char} {s rest : Text}, c ≠ ')' ∨ p.outer ≠ [] →
      Regex.step p (c :: s) = .ok (q, rest) → P p (c :: s) → P q rest)
    (hstart : P p s) : P q t := by
  induction h with
  | refl p s => exact hstart
  | step hc hread _ ih => exact ih (hstep hc hread hstart)

/-- The reader is at each place once. -/
theorem unique (h : Leads p s q t) (h' : Leads p s r t) : q = r := by
  induction h with
  | refl p s =>
    cases h' with
    | refl => rfl
    | step hc hstep hrest =>
      have := hrest.length_le
      have := step_length hstep
      simp only [List.length_cons] at *
      omega
  | step hc hstep hrest ih =>
    cases h' with
    | refl =>
      have := hrest.length_le
      have := step_length hstep
      simp only [List.length_cons] at *
      omega
    | step hc' hstep' hrest' =>
      obtain ⟨rfl, rfl⟩ := Prod.mk.inj (Except.ok.inj (hstep.symm.trans hstep'))
      exact ih hrest'

end Leads

/-- A reading that ends goes to its end construct by construct. -/
theorem leads_of_readConstructs {p : Progress} {s : Text} {end' : Progress × Text}
    (h : readConstructs p s = .ok end') : Leads p s end'.1 end'.2 := by
  fun_induction readConstructs p s with
  | case1 p =>
    obtain rfl := Except.ok.inj h
    exact .refl _ _
  | case2 p c s hend =>
    obtain rfl := Except.ok.inj h
    exact .refl _ _
  | case3 p c s hgoes e hstep => exact absurd h (by simp)
  | case4 p c s hgoes q rest hstep ih =>
    exact .step (Decidable.not_and_iff_not_or_not.1 hgoes) hstep (ih h)

/-- Every construct that the reader comes to from `p` on passes the test. -/
def everyConstruct (test : Progress → Text → Bool) (p : Progress) (s : Text) : Bool :=
  match s with
  | [] => true
  | c :: s =>
    if c = ')' ∧ p.outer = [] then true
    else test p (c :: s) &&
      match _h : step p (c :: s) with
      | .error _ => true
      | .ok (q, rest) => everyConstruct test q rest
termination_by s.length
decreasing_by exact Nat.lt_succ_of_le (step_length _h)

/-- Every construct of the expression passes the test. -/
def everyConstructOf (test : Progress → Text → Bool) (text : Text) : Bool :=
  everyConstruct test (.start text.length) text

theorem everyConstruct_cons {test : Progress → Text → Bool} {p : Progress} {c : Char} {s : Text}
    (hc : c ≠ ')' ∨ p.outer ≠ []) (h : everyConstruct test p (c :: s) = true) :
    test p (c :: s) = true ∧
      ∀ q rest, step p (c :: s) = .ok (q, rest) → everyConstruct test q rest = true := by
  rw [everyConstruct, if_neg fun he => hc.elim (· he.1) (· he.2), Bool.and_eq_true] at h
  refine ⟨h.1, fun q rest hstep => ?_⟩
  have hrest := h.2
  split at hrest
  · rename_i e he
    exact absurd (he.symm.trans hstep) (by simp)
  · rename_i q' rest' he
    obtain ⟨rfl, rfl⟩ := Prod.mk.inj (Except.ok.inj (he.symm.trans hstep))
    exact hrest

/-- What every construct that passes the test keeps is kept all the way, where every construct
passes. -/
theorem Leads.keeps_of_every {test : Progress → Text → Bool} {P : Progress → Text → Prop}
    {p q : Progress} {s t : Text} (h : Leads p s q t) (hevery : everyConstruct test p s = true)
    (hstep : ∀ {p q : Progress} {c : Char} {s rest : Text}, c ≠ ')' ∨ p.outer ≠ [] →
      Regex.step p (c :: s) = .ok (q, rest) → test p (c :: s) = true → P p (c :: s) → P q rest)
    (hstart : P p s) : P q t := by
  refine (h.keeps (P := fun p s => P p s ∧ everyConstruct test p s = true) ?_ ⟨hstart, hevery⟩).1
  rintro p q c s rest hc hread ⟨hp, hevery⟩
  obtain ⟨htest, hrest⟩ := everyConstruct_cons hc hevery
  exact ⟨hstep hc hread htest hp, hrest q rest hread⟩

/-- Before the next `stop` there is one of the characters, other than after a backslash. -/
def holdsBefore (stop : Char) (cs : List Char) : Text → Bool
  | [] => false
  | '\\' :: _ :: rest => holdsBefore stop cs rest
  | c :: rest => if c = stop then false else cs.contains c || holdsBefore stop cs rest

/-- A comment begins here that holds one of the characters. -/
def strayAt (cs : List Char) (p : Progress) : Text → Bool
  | '(' :: '?' :: '#' :: rest => holdsBefore ')' cs rest
  | '#' :: rest => p.frame.verbose && holdsBefore '\n' cs rest
  | _ => false

/-- A slash comes here, or an escape outside a class that denotes one. -/
def slashAt (p : Progress) : Text → Bool
  | '\\' :: c :: rest =>
    match readEscape p.surroundings c rest with
    | .ok (n, _) => n == .ofCode 47
    | .error _ => false
  | c :: _ => c == '/'
  | [] => false

end PathRouter.Regex

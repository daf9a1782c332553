import PathRouter.Proofs.Reaching

/-!
# Searches and what they reach

A search for a regular tree succeeds if and only if what has to follow succeeds from some point that
the tree reaches. One half is soundness: what follows is tried from points that are reached only,
and what is known of trails is kept. The other half is completeness: however many ways have failed
before, no way that is reached is left out. Both are proved for every combinator on searches, and
from that for every regular tree.
-/

namespace PathRouter.Regex
set_option autoImplicit false

/-! ## Soundness -/

/-- What is known of the trails of a search: where it is tried, where what follows is tried, where
what follows has failed, and where the search itself has failed. -/
structure Contract where
  tried : Trail → Prop
  reached : Trail → Prop
  dropped : Trail → Prop
  lost : Trail → Prop

namespace Contract

/-- The same is known everywhere. -/
def always (held : Trail → Prop) : Contract :=
  ⟨held, held, held, held⟩

/-- What a search can rely on: noting a point and undoing a failure keep what is known. -/
structure Lawful (c : Contract) (repeated : Bool) : Prop where
  note : ∀ {t : Trail} (p : Point), c.tried t → c.tried (t.note p)
  noteLost : ∀ {t : Trail} (p : Point), c.lost t → c.lost (t.note p)
  reach : ∀ {t : Trail}, c.tried t → c.reached t
  lose : ∀ {t : Trail}, c.tried t → c.lost t
  drop : ∀ {t : Trail}, c.dropped t → c.lost t
  undo : ∀ {t old : Trail}, c.dropped t → c.tried old → c.tried (t.undo repeated old)

end Contract

namespace Search

/-- What follows is tried from points that are reached only, and the contract is kept if what follows
keeps it. -/
def Sound (reach : Point → Point → Prop) (c : Contract) (s : Search) : Prop :=
  ∀ (found : Trail → Prop) (p : Point) (t : Trail) (k : Point → Trail → Outcome), c.tried t →
    (∀ q u, reach p q → c.reached u → (k q u).Ends c.dropped found) →
    (s p t k).Ends c.lost found

section Sound

variable {reach reach' : Point → Point → Prop} {c c' : Contract} {s : Search} {repeated : Bool}
variable {found : Trail → Prop} {p : Point} {t old : Trail} {k : Point → Trail → Outcome}
variable {held dropped lost : Trail → Prop}

theorem Sound.mono (h : s.Sound reach c) (hreach : ∀ p q, reach p q → reach' p q) :
    s.Sound reach' c :=
  fun found p t k ht hk => h found p t k ht fun q u hq => hk q u (hreach p q hq)

theorem Sound.weaken (h : s.Sound reach c) (htried : ∀ t, c'.tried t → c.tried t)
    (hreached : ∀ t, c.reached t → c'.reached t) (hdropped : ∀ t, c'.dropped t → c.dropped t)
    (hlost : ∀ t, c.lost t → c'.lost t) : s.Sound reach c' := by
  intro found p t k ht hk
  refine (h found p t k (htried t ht) fun q u hq hu => ?_).mono hlost fun _ hv => hv
  exact (hk q u hq (hreached u hu)).mono hdropped fun _ hv => hv

/-- What an attempt leaves behind is undone, so that the next one can be made. -/
theorem onward_ends (hundo : ∀ {u : Trail}, lost u → held (u.undo repeated old)) (ht : held t)
    (next : Option FlaggedTest) (hk : (k p (t.note p)).Ends lost found) :
    (onward repeated next old k p t).Ends held found := by
  unfold onward
  split
  · cases hr : k p (t.note p) with
    | matched u => rwa [hr] at hk
    | failed u =>
      rw [hr] at hk
      exact hundo hk
  · exact ht

theorem Sound.alternative (h : s.Sound reach c) (hc : c.Lawful repeated)
    (hundo : ∀ {u old : Trail}, c.lost u → c.tried old → c.tried (u.undo repeated old))
    (lead : Option FlaggedTest) (ht : c.tried t)
    (hk : ∀ q u, reach p q → c.reached u → (k q u).Ends c.dropped found) :
    (s.alternative repeated lead p t k).Ends c.tried found :=
  onward_ends (fun hu => hundo hu ht) ht lead (h found p (t.note p) k (hc.note p ht) hk)

/-! ### Copies -/

section Copies

variable (h : s.Sound reach ⟨held, held, lost, lost⟩)
variable (hc : Contract.Lawful ⟨held, held, dropped, lost⟩ repeated)

include h hc

theorem Sound.times (n : Nat) : (s.times n).Sound (Copies reach n) ⟨held, held, lost, lost⟩ := by
  induction n with
  | zero =>
    intro found p t k ht hk
    exact hk p t (.zero p) ht
  | succ n ih =>
    intro found p t k ht hk
    have hfirst : (s p (t.note p) fun q u => s.times n q u k).Ends lost found := by
      apply h found p (t.note p) _ (hc.note p ht)
      intro q u hq hu
      exact ih found q u k hu fun r v hr hv => hk r v (.succ hq hr) hv
    exact hfirst.orElse fun _ hu => hc.noteLost p hu

theorem Sound.greedy (n : Nat) (last : Option Nat) :
    (s.greedy n last).Sound (fun p q => ∃ m, m ≤ n ∧ Copies reach m p q)
      ⟨held, held, dropped, lost⟩ := by
  have hstop {found : Trail → Prop} {p : Point} {t : Trail} {k : Point → Trail → Outcome}
      (ht : held t) (hk : ∀ u, held u → (k p u).Ends dropped found) :
      ((k p (t.note p)).failingAt p).Ends lost found :=
    (hk _ (hc.note p ht)).orElse fun _ hu => hc.noteLost p (hc.drop hu)
  induction n generalizing last with
  | zero =>
    intro found p t k ht hk
    exact hstop ht fun u hu => hk p u ⟨0, Nat.le_refl 0, .zero p⟩ hu
  | succ n ih =>
    intro found p t k ht hk
    have hnone (u : Trail) (hu : held u) : (k p u).Ends dropped found :=
      hk p u ⟨0, Nat.zero_le _, .zero p⟩ hu
    show (Search.greedy s (n + 1) last p t k).Ends _ _
    rw [Search.greedy]
    split
    · exact hstop ht hnone
    · have hmore : (s p (t.note p) fun q u => s.greedy n (some p.position) q u k).Ends lost
          found := by
        apply h found p (t.note p) _ (hc.note p ht)
        intro q u hq hu
        apply ih (some p.position) found q u k hu
        rintro r v ⟨m, hm, hcopies⟩ hv
        exact hk r v ⟨m + 1, Nat.succ_le_succ hm, .succ hq hcopies⟩ hv
      exact hmore.orElse fun _ _ => hstop ht hnone

theorem Sound.lazy (n : Nat) (last : Option Nat) :
    (s.lazy repeated n last).Sound (fun p q => ∃ m, m ≤ n ∧ Copies reach m p q)
      ⟨held, held, dropped, lost⟩ := by
  induction n generalizing last with
  | zero =>
    intro found p t k ht hk
    apply (hk p _ ⟨0, Nat.le_refl 0, .zero p⟩ (hc.note p ht)).orElse
    intro u hu
    exact hc.lose (hc.note p (hc.undo hu ht))
  | succ n ih =>
    intro found p t k ht hk
    show (Search.lazy s repeated (n + 1) last p t k).Ends _ _
    rw [Search.lazy]
    apply (hk p _ ⟨0, Nat.zero_le _, .zero p⟩ (hc.note p ht)).orElse
    intro u hu
    have hv := hc.note p (hc.undo hu ht)
    dsimp only
    split
    · exact hc.lose hv
    · have hmore : (s p ((u.undo repeated t).note p) fun q w =>
          s.lazy repeated n (some p.position) q w k).Ends lost found := by
        apply h found p _ _ hv
        intro q w hq hw
        apply ih (some p.position) found q w k hw
        rintro r v ⟨m, hm, hcopies⟩ hv
        exact hk r v ⟨m + 1, Nat.succ_le_succ hm, .succ hq hcopies⟩ hv
      exact hmore.orElse fun _ hw => hc.noteLost p hw

/-- A quantifier that reconsiders its copies tries as many as are asked for. -/
theorem Sound.copies {mode : Mode} (hmode : mode ≠ .possessive) {least : Nat} {most : Option Nat}
    (hmost : ∀ m, most = some m → least ≤ m) (edition : Edition) :
    (s.copies edition repeated mode least most).Sound
      (fun p q => ∃ n, CountsAs least most n ∧ Copies reach n p q)
      ⟨held, held, dropped, lost⟩ := by
  have hcount {q : Point} {m : Nat} (hm : m ≤ optional least most q) :
      CountsAs least most (least + m) := by
    refine ⟨Nat.le_add_right _ _, ?_⟩
    rintro n rfl
    have := hmost n rfl
    simp only [optional] at hm
    omega
  intro found p t k ht hk
  unfold Search.copies
  cases mode with
  | possessive => exact absurd rfl hmode
  | greedy =>
    apply h.times hc least found p t _ ht
    intro q u hq hu
    apply h.greedy hc _ none found q u k hu
    rintro r v ⟨m, hm, hr⟩ hv
    exact hk r v ⟨least + m, hcount hm, hq.trans hr⟩ hv
  | lazy =>
    apply h.times hc least found p t _ ht
    intro q u hq hu
    apply h.lazy hc _ none found q u k hu
    rintro r v ⟨m, hm, hr⟩ hv
    exact hk r v ⟨least + m, hcount hm, hq.trans hr⟩ hv

end Copies

/-! ### Copies of a single character -/

theorem fewer_ends (hc : c.Lawful repeated) (hold : c.tried old) (next : Option FlaggedTest) {n : Nat}
    (hn : n ≤ p.after.length) (ht : c.tried t)
    (hk : ∀ m u, m ≤ n → c.reached u → (k (p.skip m) u).Ends c.dropped found) :
    (fewer repeated next old k n (p.skip n) t).Ends c.tried found := by
  have honward {m : Nat} {t : Trail} (hm : m ≤ n) (ht : c.tried t) :
      (onward repeated next old k (p.skip m) t).Ends c.tried found :=
    onward_ends (fun hu => hc.undo hu hold) ht next (hk m _ hm (hc.reach (hc.note _ ht)))
  induction n generalizing t with
  | zero =>
    have h := honward (Nat.le_refl 0) ht
    unfold fewer
    split
    · rename_i he
      exact absurd he (by simp)
    · exact h
  | succ n ih =>
    have h := honward (Nat.le_refl _) ht
    unfold fewer
    split
    · rename_i u m hu hm
      obtain rfl : n = m := Nat.succ.inj hm
      rw [hu] at h
      rw [Point.skip_backward (by omega)]
      exact ih (by omega) h (fun m u hm => hk m u (by omega)) fun hm => honward (by omega)
    · exact h

theorem more_ends (hc : c.Lawful repeated) (hold : c.tried old) (single : FlaggedTest) {n : Nat}
    (ht : c.tried t)
    (hk : ∀ m q u, m ≤ n → Copies (Takes single.holds) m p q → c.reached u →
      (k q u).Ends c.dropped found) :
    (more repeated single old k n p t).Ends c.tried found := by
  induction n generalizing p t with
  | zero =>
    rw [more]
    apply (hk 0 p _ (Nat.le_refl 0) (.zero p) (hc.reach (hc.note p ht))).orElse
    intro u hu
    have hv := hc.note p (hc.undo hu hold)
    cases hnext : p.forward? with
    | none => exact hv
    | some next =>
      obtain ⟨d, q⟩ := next
      dsimp only
      split
      · split
        · exact hc.note q hv
        · exact hv
      · exact hv
  | succ n ih =>
    rw [more]
    apply (hk 0 p _ (Nat.zero_le _) (.zero p) (hc.reach (hc.note p ht))).orElse
    intro u hu
    have hv := hc.note p (hc.undo hu hold)
    cases hnext : p.forward? with
    | none => exact hv
    | some next =>
      obtain ⟨d, q⟩ := next
      dsimp only
      split
      · rename_i hpass
        have hrest : ∀ m r u, m ≤ n → Copies (Takes single.holds) m q r → c.reached u →
            (k r u).Ends c.dropped found := fun m r u hm hr hu =>
          hk (m + 1) r u (Nat.succ_le_succ hm) (.succ ⟨d, hnext, hpass⟩ hr) hu
        split
        · exact ih (hc.note q hv) hrest
        · exact ih hv hrest
      · exact hv

theorem sound_characters (hc : c.Lawful repeated) (single : FlaggedTest)
    (next : Option FlaggedTest) {mode : Mode} (hmode : mode ≠ .possessive) {least : Nat}
    {most : Option Nat} (hmost : ∀ m, most = some m → least ≤ m) :
    (characters single repeated next mode least most).Sound
      (fun p q => ∃ n, CountsAs least most n ∧ Copies (Takes single.holds) n p q) c := by
  intro found p t k ht hk
  unfold characters
  split
  · exact hc.lose ht
  · obtain ⟨hle, hend, hpass⟩ :=
      p.run_spec single.holds (if mode = .lazy then some least else most)
    have hbound (m : Nat) := p.run_le single.holds (if mode = .lazy then some least else most) (m := m)
    generalize p.run single.holds (if mode = .lazy then some least else most) = run at *
    obtain ⟨count, q⟩ := run
    dsimp only at *
    subst hend
    have hu : c.tried (t.note (if single.isFolding then p.skip count else p)) := hc.note _ ht
    generalize t.note (if single.isFolding then p.skip count else p) = noted at hu ⊢
    have hcopies {n : Nat} (hn : n ≤ count) : Copies (Takes single.holds) n p (p.skip n) :=
      copies_takes_iff.2 ⟨Nat.le_trans hn hle, rfl, fun d hd =>
        hpass d ((List.take_prefix_take_left hn).subset hd)⟩
    split
    · exact hc.lose hu
    · cases mode with
      | possessive => exact absurd rfl hmode
      | greedy =>
        obtain ⟨n, rfl⟩ : ∃ n, count = least + n := ⟨count - least, by omega⟩
        dsimp only
        have hrest : n ≤ (p.skip least).after.length := by
          rw [Point.skip_after, List.length_drop]
          omega
        rw [Nat.add_sub_cancel_left, ← Point.skip_skip]
        refine (fewer_ends hc hu _ hrest hu ?_).mono (fun _ => hc.lose) fun _ hv => hv
        intro m u hm hu
        rw [Point.skip_skip]
        refine hk _ u ⟨least + m, ⟨by omega, ?_⟩, hcopies (by omega)⟩ hu
        intro b hb
        have := hbound b (by simpa using hb)
        omega
      | lazy =>
        obtain rfl : count = least := by
          have := hbound least (if_pos rfl)
          omega
        refine (more_ends hc hu single hu ?_).mono (fun _ => hc.lose) fun _ hv => hv
        intro m r u hm hr hu
        refine hk r u ⟨count + m, ⟨by omega, ?_⟩, (hcopies (Nat.le_refl _)).trans hr⟩ hu
        rintro b rfl
        have := hmost b rfl
        simp only [Option.map_some, Option.getD_some] at hm
        omega

end Sound

end Search

/-! ## Completeness -/

namespace Outcome

/-- The attempt succeeds. -/
def IsMatched : Outcome → Prop
  | matched _ => True
  | failed _ => False

theorem IsMatched.orElse {o : Outcome} (h : o.IsMatched) (other : Trail → Outcome) :
    (o.orElse other).IsMatched := by
  cases o with
  | matched t => trivial
  | failed t => exact h.elim

theorem isMatched_of_other (o : Outcome) {other : Trail → Outcome} (h : ∀ t, (other t).IsMatched) :
    (o.orElse other).IsMatched := by
  cases o with
  | matched t => trivial
  | failed t => exact h t

theorem Ends.of_isMatched {o : Outcome} {lost found : Trail → Prop} (h : o.Ends lost found)
    (ho : o.IsMatched) : ∃ t, o = .matched t ∧ found t := by
  cases o with
  | matched t => exact ⟨t, rfl, h⟩
  | failed t => exact ho.elim

end Outcome

namespace Search

/-- What follows succeeds at a point, whatever has been tried before. -/
def Succeeds (k : Point → Trail → Outcome) (p : Point) : Prop :=
  ∀ t, (k p t).IsMatched

/-- The search succeeds if what follows succeeds at some point that is reached, where the test that
has to follow holds. -/
def Complete (reach : Point → Point → Prop) (next : Option FlaggedTest) (s : Search) : Prop :=
  ∀ (p q : Point) (k : Point → Trail → Outcome), reach p q →
    next.all (·.holdsAfter q) = true → Succeeds k q → ∀ t, (s p t k).IsMatched

section Complete

variable {reach : Point → Point → Prop} {next : Option FlaggedTest} {s : Search} {repeated : Bool}
variable {p q : Point} {t old : Trail} {k : Point → Trail → Outcome}

theorem Succeeds.onward (h : Succeeds k p) (hnext : next.all (·.holdsAfter p) = true)
    (repeated : Bool) (old t : Trail) : (onward repeated next old k p t).IsMatched := by
  unfold Search.onward
  rw [if_pos hnext]
  have hk := h (t.note p)
  cases hr : k p (t.note p) with
  | matched u => trivial
  | failed u =>
    rw [hr] at hk
    exact hk

theorem Complete.first (h : s.Complete reach none) (hq : reach p q) (t : Trail) :
    (s.first p t).IsMatched :=
  h p q (fun q u => .matched (u.note q)) hq rfl (fun _ => trivial) (t.note p)

theorem Succeeds.alternative {lead : Option FlaggedTest} (h : ∀ t, (s p t k).IsMatched)
    (hlead : lead.all (·.holdsAfter p) = true) (t : Trail) :
    (s.alternative repeated lead p t k).IsMatched :=
  Succeeds.onward (k := fun q u => s q u k) h hlead repeated t t

/-! ### Copies -/

section Copies

variable (h : s.Complete reach none)

include h

theorem Complete.times {n : Nat} (hcopies : Copies reach n p q) (hk : Succeeds k q) (t : Trail) :
    (s.times n p t k).IsMatched := by
  induction n generalizing p t with
  | zero =>
    cases hcopies
    exact hk t
  | succ n ih =>
    cases hcopies with
    | @succ _ _ r _ hpq hrest =>
      have hmore : Succeeds (fun q u => s.times n q u k) r := fun u => ih hrest u
      exact (h p r _ hpq rfl hmore (t.note p)).orElse _

/-- Copies that are not empty are never cut short. -/
theorem Complete.greedy (hahead : ∀ p q, reach p q → p.IsAhead q) {m n : Nat} {last : Option Nat}
    (hcopies : Copies (fun p q => reach p q ∧ q ≠ p) m p q) (hm : m ≤ n)
    (hlast : m ≠ 0 → last ≠ some p.position) (hk : Succeeds k q) (t : Trail) :
    (s.greedy n last p t k).IsMatched := by
  induction hcopies generalizing n last t with
  | zero p =>
    have hstop (t : Trail) : ((k p (t.note p)).failingAt p).IsMatched := (hk (t.note p)).orElse _
    cases n with
    | zero => exact hstop t
    | succ n =>
      rw [Search.greedy]
      split
      · exact hstop t
      · exact Outcome.isMatched_of_other _ fun _ => hstop t
  | @succ m p q r hpq _ ih =>
    obtain ⟨n, rfl⟩ : ∃ i, n = i + 1 := ⟨n - 1, by omega⟩
    rw [Search.greedy, if_neg (hlast (Nat.succ_ne_zero m))]
    have hmoved : some p.position ≠ some q.position := fun he =>
      (hahead p q hpq.1).position_ne hpq.2 (Option.some.inj he).symm
    have hrest : Succeeds (fun q u => s.greedy n (some p.position) q u k) q := fun u =>
      ih (Nat.le_of_succ_le_succ hm) (fun _ => hmoved) hk u
    exact (h p q _ hpq.1 rfl hrest (t.note p)).orElse _

theorem Complete.lazy (hahead : ∀ p q, reach p q → p.IsAhead q) {m n : Nat} {last : Option Nat}
    (hcopies : Copies (fun p q => reach p q ∧ q ≠ p) m p q) (hm : m ≤ n)
    (hlast : m ≠ 0 → last ≠ some p.position) (hk : Succeeds k q) (t : Trail) :
    (s.lazy repeated n last p t k).IsMatched := by
  induction hcopies generalizing n last t with
  | zero p => cases n <;> exact (hk (t.note p)).orElse _
  | @succ m p q r hpq _ ih =>
    obtain ⟨n, rfl⟩ : ∃ i, n = i + 1 := ⟨n - 1, by omega⟩
    rw [Search.lazy]
    apply Outcome.isMatched_of_other
    intro u
    dsimp only
    rw [if_neg (hlast (Nat.succ_ne_zero m))]
    have hmoved : some p.position ≠ some q.position := fun he =>
      (hahead p q hpq.1).position_ne hpq.2 (Option.some.inj he).symm
    have hrest : Succeeds (fun q w => s.lazy repeated n (some p.position) q w k) q := fun w =>
      ih (Nat.le_of_succ_le_succ hm) (fun _ => hmoved) hk w
    exact (h p q _ hpq.1 rfl hrest _).orElse _

/-- A quantifier that reconsiders its copies finds a way if there is one for some count. -/
theorem Complete.copies (hahead : ∀ p q, reach p q → p.IsAhead q) {mode : Mode}
    (hmode : mode ≠ .possessive) (edition : Edition) (repeated : Bool) (least : Nat)
    (most : Option Nat) : (s.copies edition repeated mode least most).Complete
      (fun p q => ∃ n, CountsAs least most n ∧ Copies reach n p q) next := by
  rintro p q k ⟨n, ⟨hleast, hmost⟩, hcopies⟩ - hk t
  obtain ⟨i, rfl⟩ : ∃ i, n = least + i := ⟨n - least, by omega⟩
  obtain ⟨r, hfirst, hrest⟩ := hcopies.split
  obtain ⟨m, hm, hrest⟩ := hrest.drop_empty
  have hfuel : m ≤ optional least most r := by
    cases most with
    | some b =>
      have := hmost b rfl
      simp only [optional]
      omega
    | none =>
      have hlength := hrest.length_le hahead
      have hle : r.after.length ≤ r.textLength := Nat.le_add_left ..
      have hsquare := lt_square r.textLength
      simp only [optional]
      omega
  unfold Search.copies
  cases mode with
  | possessive => exact absurd rfl hmode
  | greedy => exact h.times hfirst (fun u => h.greedy hahead hrest hfuel (by simp) hk u) t
  | lazy => exact h.times hfirst (fun u => h.lazy hahead hrest hfuel (by simp) hk u) t

end Copies

/-! ### Copies of a single character -/

theorem Succeeds.fewer {m n : Nat} (h : Succeeds k (p.skip m)) (hm : m ≤ n)
    (hn : n ≤ p.after.length) (hnext : next.all (·.holdsAfter (p.skip m)) = true) (repeated : Bool)
    (old t : Trail) : (fewer repeated next old k n (p.skip n) t).IsMatched := by
  induction n generalizing t with
  | zero =>
    obtain rfl := Nat.le_zero.1 hm
    have honward := h.onward hnext repeated old t
    unfold Search.fewer
    split
    · rename_i he
      exact absurd he (by simp)
    · exact honward
  | succ n ih =>
    unfold Search.fewer
    split
    · rename_i u i hu hi
      obtain rfl : n = i := Nat.succ.inj hi
      have hne : m ≠ n + 1 := by
        rintro rfl
        have honward := h.onward hnext repeated old t
        rw [hu] at honward
        exact honward
      rw [Point.skip_backward (by omega)]
      exact ih (by omega) (by omega) u
    · rename_i hstop
      cases hr : Search.onward repeated next old k (p.skip (n + 1)) t with
      | matched u => trivial
      | failed u => exact absurd hr fun hr => hstop u n hr rfl

theorem Succeeds.more {m n : Nat} {single : FlaggedTest}
    (hcopies : Copies (Takes single.holds) m p q) (hm : m ≤ n) (h : Succeeds k q) (repeated : Bool)
    (old t : Trail) : (more repeated single old k n p t).IsMatched := by
  induction hcopies generalizing n t with
  | zero p =>
    rw [Search.more]
    exact (h (t.note p)).orElse _
  | @succ m p q r hpq _ ih =>
    obtain ⟨n, rfl⟩ : ∃ i, n = i + 1 := ⟨n - 1, by omega⟩
    obtain ⟨d, hnext, hpass⟩ := hpq
    rw [Search.more]
    apply Outcome.isMatched_of_other
    intro u
    rw [hnext]
    dsimp only
    rw [if_pos hpass]
    exact ih (Nat.le_of_succ_le_succ hm) h _

theorem complete_characters (single : FlaggedTest) (repeated : Bool) {mode : Mode}
    (hmode : mode ≠ .possessive) (least : Nat) (most : Option Nat) :
    (characters single repeated next mode least most).Complete
      (fun p q => ∃ n, CountsAs least most n ∧ Copies (Takes single.holds) n p q) next := by
  rintro p q k ⟨n, ⟨hleast, hmost⟩, hcopies⟩ hnext hk t
  obtain ⟨hn, hq, hpass⟩ := copies_takes_iff.1 hcopies
  have hahead : p.hasAhead least = true := Point.hasAhead_iff.2 (Nat.le_trans hleast hn)
  unfold characters
  rw [hahead]
  cases mode with
  | possessive => exact absurd rfl hmode
  | greedy =>
    obtain ⟨hle, hend, -⟩ := p.run_spec single.holds most
    have hcount : n ≤ (p.run single.holds most).1 := p.le_run single.holds most hn hmost hpass
    simp only [Bool.not_true, Bool.false_eq_true, if_false, reduceCtorEq]
    generalize p.run single.holds most = run at *
    obtain ⟨count, r⟩ := run
    dsimp only at *
    subst hend
    obtain ⟨i, rfl⟩ : ∃ i, count = least + i := ⟨count - least, by omega⟩
    rw [if_neg (by omega), Nat.add_sub_cancel_left, ← Point.skip_skip]
    have hrest : i ≤ (p.skip least).after.length := by
      rw [Point.skip_after, List.length_drop]
      omega
    have hq' : q = (p.skip least).skip (n - least) := by
      rw [hq, Point.skip_skip]
      congr 1
      omega
    have hfilter : (next.filter (·.isLiteral)).all (·.holdsAfter q) = true := by
      cases next with
      | none => rfl
      | some test =>
        rw [Option.filter_some]
        split
        · exact hnext
        · rfl
    rw [hq'] at hk hfilter
    exact hk.fewer (by omega) hrest hfilter repeated _ _
  | lazy =>
    obtain ⟨hle, hend, -⟩ := p.run_spec single.holds (some least)
    have hupper : (p.run single.holds (some least)).1 ≤ least := p.run_le _ _ rfl
    have hcount : least ≤ (p.run single.holds (some least)).1 := by
      apply p.le_run single.holds (some least) (Nat.le_trans hleast hn)
      · rintro m ⟨⟩
        exact Nat.le_refl _
      · exact fun d hd => hpass d ((List.take_prefix_take_left hleast).subset hd)
    simp only [Bool.not_true, Bool.false_eq_true, if_false, if_true]
    generalize p.run single.holds (some least) = run at *
    obtain ⟨count, r⟩ := run
    dsimp only at *
    obtain rfl : count = least := Nat.le_antisymm hupper hcount
    subst hend
    rw [if_neg (Nat.lt_irrefl _)]
    obtain ⟨i, rfl⟩ : ∃ i, n = count + i := ⟨n - count, by omega⟩
    obtain ⟨r, hfirst, hrest⟩ := hcopies.split
    obtain rfl := (copies_takes_iff.1 hfirst).2.1
    refine Succeeds.more hrest ?_ hk repeated _ _
    cases most with
    | some b =>
      have := hmost b rfl
      simp only [Option.map_some, Option.getD_some]
      omega
    | none => exact (copies_takes_iff.1 hrest).1

end Complete

end Search

/-! ## Trees -/

namespace Node

theorem isRegular_quantified {mode : Mode} {least : Nat} {most : Option Nat} {body : Node} :
    (quantified mode least most body).isRegular = true ↔
      mode ≠ .possessive ∧ (∀ m, most = some m → least ≤ m) ∧ body.isRegular = true := by
  have hmost : most.all (fun m => decide (least ≤ m)) = true ↔ ∀ m, most = some m → least ≤ m := by
    cases most <;> simp
  rw [isRegular, Bool.and_eq_true, Bool.and_eq_true, hmost, bne_iff_ne, and_assoc]

section

variable {a b body : Node} {s : Setting} {c : Contract} {tried mid reached droppedMid dropped lost
  held : Trail → Prop}

theorem sound_char (test : CharTest) (hc : c.Lawful s.repeated) :
    ((char test).run s).Sound (Takes (test.holds s.flags)) c := by
  intro found p t k ht hk
  rw [run]
  cases hnext : p.forward? with
  | none => exact hc.lose ht
  | some next =>
    obtain ⟨d, q⟩ := next
    dsimp only
    split
    · exact (hk q t ⟨d, hnext, ‹_›⟩ (hc.reach ht)).mono (fun _ => hc.drop) fun _ hv => hv
    · exact hc.lose ht

theorem sound_anchor (a : Anchor) (hc : c.Lawful s.repeated) :
    ((anchor a).run s).Sound ((anchor a).Reaches s.flags) c := by
  intro found p t k ht hk
  rw [run]
  split
  · exact (hk p t ⟨rfl, ‹_›⟩ (hc.reach ht)).mono (fun _ => hc.drop) fun _ hv => hv
  · exact hc.lose ht

theorem sound_seq (ha : (a.run { s with next := b.lead s.flags s.next }).Sound (a.Reaches s.flags)
      ⟨tried, mid, droppedMid, lost⟩)
    (hb : (b.run s).Sound (b.Reaches s.flags) ⟨mid, reached, dropped, droppedMid⟩) :
    ((seq a b).run s).Sound ((seq a b).Reaches s.flags) ⟨tried, reached, dropped, lost⟩ := by
  intro found p t k ht hk
  apply ha found p t _ ht
  intro r u hr hu
  exact hb found r u k hu fun q v hq hv => hk q v ⟨r, hr, hq⟩ hv

theorem sound_alt (ha : (a.run s.inner).Sound (a.Reaches s.flags) c)
    (hb : (b.run s.inner).Sound (b.Reaches s.flags) c)
    (hlast : (b.run s).Sound (b.Reaches s.flags) c) (hc : c.Lawful s.repeated)
    (hundo : ∀ {u old : Trail}, c.lost u → c.tried old → c.tried (u.undo s.repeated old)) :
    ((alt a b).run s).Sound ((alt a b).Reaches s.flags) c := by
  intro found p t k ht hk
  rw [run]
  apply (ha.alternative hc hundo _ ht fun q u hq hu => hk q u (.inl hq) hu).orElse
  intro u hu
  have hk' : ∀ q u, b.Reaches s.flags p q → c.reached u → (k q u).Ends c.dropped found :=
    fun q u hq hu => hk q u (.inr hq) hu
  split
  · exact hlast found p u k hu hk'
  · exact (hb.alternative hc hundo _ hu hk').mono (fun _ => hc.lose) fun _ hv => hv

theorem sound_quantified {mode : Mode} {least : Nat} {most : Option Nat}
    (hn : (quantified mode least most body).isRegular = true) (hc : c.Lawful s.repeated)
    (hbody : (body.run (s.copied mode)).Sound (body.Reaches s.flags) ⟨held, held, c.lost, c.lost⟩)
    (hloop : Contract.Lawful ⟨held, held, c.dropped, c.lost⟩ s.repeated)
    (htried : ∀ t, c.tried t → held t) (hreached : ∀ t, held t → c.reached t) :
    ((quantified mode least most body).run s).Sound
      ((quantified mode least most body).Reaches s.flags) c := by
  obtain ⟨hmode, hmost, -⟩ := isRegular_quantified.1 hn
  intro found p t k ht hk
  cases hsingle : body.single? s.flags with
  | some single =>
    rw [run_quantified_characters hsingle]
    apply Search.sound_characters hc single s.next hmode hmost found p t k ht
    rintro q u ⟨m, hm, hcopies⟩ hu
    exact hk q u ⟨m, hm, hcopies.mono fun _ _ => (reaches_of_single? hsingle).2⟩ hu
  | none =>
    have h := (hbody.copies hloop hmode hmost s.edition).weaken htried hreached
      (fun _ hu => hu) fun _ hu => hu
    rw [run_quantified_copies hsingle]
    exact h found p t k ht hk

theorem sound_look {negated : Bool} (hc : c.Lawful s.repeated)
    (hbody : (body.run s.inner).Sound (body.Reaches s.flags) ⟨c.tried, held, c.dropped, c.lost⟩)
    (hcomplete : (body.run s.inner).Complete (body.Reaches s.flags) none)
    (hheld : ∀ t p, held t → c.reached (t.note p) ∧ c.lost (t.note p))
    (hundo : ∀ {u old : Trail}, c.lost u → c.tried old → c.tried (u.undo s.repeated old)) :
    ((look none negated body).run s).Sound ((look none negated body).Reaches s.flags) c := by
  intro found p t k ht hk
  have hfirst : (Search.first (body.run s.inner) p t).Ends c.lost fun u =>
      c.reached u ∧ c.lost u ∧ ∃ r, body.Reaches s.flags p r := by
    apply hbody _ p _ _ (hc.note p ht)
    intro q u hq hu
    exact ⟨(hheld u q hu).1, (hheld u q hu).2, q, hq⟩
  rw [run]
  simp only [Option.elim_none]
  cases hr : Search.first (body.run s.inner) p t with
  | matched u =>
    rw [hr] at hfirst
    obtain ⟨hreached, hlost, hreaches⟩ := hfirst
    dsimp only
    split
    · exact hlost
    · rename_i hnegated
      have hpass : (look none negated body).Reaches s.flags p p :=
        ⟨rfl, fun _ => by simpa using hnegated, fun _ => hreaches⟩
      exact (hk p u hpass hreached).mono (fun _ => hc.drop) fun _ hv => hv
  | failed u =>
    rw [hr] at hfirst
    dsimp only
    split
    · rename_i hnegated
      have hnone : ¬∃ r, body.Reaches s.flags p r := by
        rintro ⟨r, hreaches⟩
        have hmatched := hcomplete.first hreaches t
        rw [hr] at hmatched
        exact hmatched
      have hpass : (look none negated body).Reaches s.flags p p :=
        ⟨rfl, fun h => absurd h hnone, fun h => absurd (hnegated.symm.trans h) (by simp)⟩
      exact (hk p _ hpass (hc.reach (hundo hfirst ht))).mono (fun _ => hc.drop) fun _ hv => hv
    · exact hfirst

theorem complete_alt (ha : (a.run s.inner).Complete (a.Reaches s.flags) none)
    (hb : (b.run s.inner).Complete (b.Reaches s.flags) none)
    (hlast : (b.run s).Complete (b.Reaches s.flags) s.next) :
    ((alt a b).run s).Complete ((alt a b).Reaches s.flags) s.next := by
  intro p q k hpq hnext hk t
  rw [run]
  rcases hpq with hpq | hpq
  · have hfirst : ∀ u, (a.run s.inner p u k).IsMatched := ha p q k hpq rfl hk
    exact (Search.Succeeds.alternative hfirst (lead_of_reaches hpq rfl) t).orElse _
  · apply Outcome.isMatched_of_other
    intro u
    split
    · exact hlast p q k hpq hnext hk u
    · have hsecond : ∀ u, (b.run s.inner p u k).IsMatched := hb p q k hpq rfl hk
      exact Search.Succeeds.alternative hsecond (lead_of_reaches hpq rfl) u

/-- Of the search for the body of a look it matters only whether it succeeds. -/
theorem complete_look {negated : Bool}
    (hsound : (body.run s.inner).Sound (body.Reaches s.flags) (.always fun _ => True))
    (hcomplete : (body.run s.inner).Complete (body.Reaches s.flags) none) :
    ((look none negated body).run s).Complete ((look none negated body).Reaches s.flags) s.next := by
  rintro p q k ⟨rfl, hpass⟩ - hk t
  have hfirst : (Search.first (body.run s.inner) q t).Ends (fun _ => True) fun _ =>
      ∃ r, body.Reaches s.flags q r :=
    hsound _ q (t.note q) _ trivial fun r _ hr _ => ⟨r, hr⟩
  rw [run]
  simp only [Option.elim_none]
  cases hr : Search.first (body.run s.inner) q t with
  | matched u =>
    rw [hr] at hfirst
    have hnegated : negated = false := hpass.1 hfirst
    dsimp only
    rw [if_neg (by simp [hnegated])]
    exact hk u
  | failed u =>
    dsimp only
    split
    · exact hk _
    · rename_i hnegated
      obtain ⟨r, hreaches⟩ := hpass.2 (by simpa using hnegated)
      have hmatched := hcomplete.first hreaches t
      rw [hr] at hmatched
      exact hmatched

end

end Node

/-- The marks that are known are set. -/
def Knows (known : List (Nat × Point)) (t : Trail) : Prop :=
  Holds (fun _ => True) known false t

theorem knows_nil (t : Trail) : Knows [] t := ⟨nofun, by simp⟩

theorem knows_undo {known : List (Nat × Point)} {t old : Trail} (repeated : Bool)
    (ht : Knows known t) (hold : Knows known old) : Knows known (t.undo repeated old) :=
  Holds.undo ht hold repeated

theorem knows_lawful (known : List (Nat × Point)) (repeated : Bool) :
    (Contract.always (Knows known)).Lawful repeated where
  note _ ht := Holds.note ht trivial
  noteLost _ ht := Holds.note ht trivial
  reach ht := ht
  lose ht := ht
  drop ht := ht
  undo ht hold := knows_undo repeated ht hold

namespace Node

/-- What follows a regular tree is tried from points that the tree reaches, and the marks of other
groups are kept; and wherever what follows succeeds from such a point, the search does. -/
theorem run_adequate {n : Node} (hn : n.isRegular = true) :
    (∀ (s : Setting) (first : Nat) (known : List (Nat × Point)), n.GroupsFrom first →
      (∀ m ∈ known, m.1 < 2 * first - 2) →
      (n.run s).Sound (n.Reaches s.flags) (.always (Knows known))) ∧
    ∀ s : Setting, (n.run s).Complete (n.Reaches s.flags) s.next := by
  induction n with
  | empty =>
    refine ⟨fun s _ _ _ _ found p t k ht hk => hk p t rfl ht, ?_⟩
    rintro s p q k rfl - hk t
    exact hk t
  | char test =>
    refine ⟨fun s _ known _ _ => sound_char test (knows_lawful known s.repeated), ?_⟩
    rintro s p q k ⟨c, hnext, hpass⟩ - hk t
    rw [run, hnext]
    dsimp only
    rw [if_pos hpass]
    exact hk t
  | anchor a =>
    refine ⟨fun s _ known _ _ => sound_anchor a (knows_lawful known s.repeated), ?_⟩
    rintro s p q k ⟨rfl, hholds⟩ - hk t
    rw [run, if_pos hholds]
    exact hk t
  | seq a b iha ihb =>
    obtain ⟨ha, hb⟩ := Bool.and_eq_true_iff.1 hn
    let front (s : Setting) : Setting := { s with next := b.lead s.flags s.next }
    refine ⟨fun s first known hgroups hknown => ?_, ?_⟩
    · exact sound_seq ((iha ha).1 (front s) first known hgroups.1 hknown)
        ((ihb hb).1 s first known hgroups.2 hknown)
    · rintro s p q k ⟨r, hpr, hrq⟩ hnext hk t
      have hrest : Search.Succeeds (fun q u => b.run s q u k) r :=
        (ihb hb).2 s r q k hrq hnext hk
      exact (iha ha).2 (front s) p r _ hpr (lead_of_reaches hrq hnext) hrest t
  | alt a b iha ihb =>
    obtain ⟨ha, hb⟩ := Bool.and_eq_true_iff.1 hn
    refine ⟨fun s first known hgroups hknown => ?_, ?_⟩
    · exact sound_alt ((iha ha).1 s.inner first known hgroups.1 hknown)
        ((ihb hb).1 s.inner first known hgroups.2 hknown)
        ((ihb hb).1 s first known hgroups.2 hknown) (knows_lawful known s.repeated)
        (knows_undo s.repeated)
    · exact fun s => complete_alt ((iha ha).2 s.inner) ((ihb hb).2 s.inner) ((ihb hb).2 s)
  | quantified mode least most body ih =>
    obtain ⟨hmode, hmost, hbody⟩ := isRegular_quantified.1 hn
    refine ⟨fun s first known hgroups hknown => ?_, ?_⟩
    · exact sound_quantified hn (knows_lawful known s.repeated)
        ((ih hbody).1 (s.copied mode) first known hgroups hknown) (knows_lawful known s.repeated)
        (fun _ ht => ht) fun _ ht => ht
    · intro s p q k hpq hnext hk t
      cases hsingle : body.single? s.flags with
      | some single =>
        obtain ⟨m, hm, hcopies⟩ := hpq
        rw [run_quantified_characters hsingle]
        exact Search.complete_characters single s.repeated hmode least most p q k
          ⟨m, hm, hcopies.mono fun _ _ => (reaches_of_single? hsingle).1⟩ hnext hk t
      | none =>
        rw [run_quantified_copies hsingle]
        exact ((ih hbody).2 (s.copied mode)).copies (fun _ _ => isAhead_of_reaches) hmode
          s.edition s.repeated least most p q k hpq hnext hk t
  | group i body ih =>
    refine ⟨fun s first known hgroups hknown => ?_, ?_⟩
    · intro found p t k ht hk
      rw [run]
      apply (ih hn).1 s.inner first known hgroups.2 hknown found p (t.enter i p) _
        (Holds.enter_of_le ht hknown hgroups.1 p)
      intro q u hq hu
      exact hk q _ hq (Holds.leave_of_le hu hknown hgroups.1 q)
    · intro s p q k hpq _ hk t
      exact (ih hn).2 s.inner p q _ hpq rfl (fun u => hk (u.leave i q)) (t.enter i p)
  | flagged on off body ih =>
    refine ⟨fun s first known hgroups hknown => ?_, ?_⟩
    · exact (ih hn).1 { s with flags := s.flags.update on off } first known hgroups hknown
    · exact fun s => (ih hn).2 { s with flags := s.flags.update on off }
  | look behind negated body ih =>
    cases behind with
    | some w => exact absurd hn (by simp [isRegular])
    | none =>
      refine ⟨fun s first known hgroups hknown => ?_, ?_⟩
      · exact sound_look (knows_lawful known s.repeated)
          ((ih hn).1 s.inner first known hgroups hknown) ((ih hn).2 s.inner)
          (fun t p ht => ⟨Holds.note ht trivial, Holds.note ht trivial⟩) (knows_undo s.repeated)
      · intro s
        have hsound := (ih hn).1 s.inner 0 [] body.groupsFrom_zero (by simp)
        exact complete_look (hsound.weaken (fun t _ => knows_nil t) (fun _ _ => trivial)
          (fun t _ => knows_nil t) fun _ _ => trivial) ((ih hn).2 s.inner)
  | backreference g => exact absurd hn (by simp [isRegular])
  | atomic body _ => exact absurd hn (by simp [isRegular])
  | conditional g yes no _ _ => exact absurd hn (by simp [isRegular])

end Node

end PathRouter.Regex

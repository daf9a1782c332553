import PathRouter.Proofs.SearchChoice

/-!
# Where choices lead

What is chosen lies ahead in every sense that single characters are passed in, and two choices that
agree on the points of a region give the same there.
-/

namespace PathRouter.Regex
set_option autoImplicit false

/-- What is chosen is related to the point that it is chosen from. -/
def Choice.Leads (R : Point → Point → Prop) (c : Choice) : Prop :=
  ∀ p g r, c p g = some r → ∃ q, R p q ∧ g q = some r

/-- From the points of a region the choices are the same, whatever follows is outside of it. -/
def Choice.AgreesOn (region : Point → Prop) (c c' : Choice) : Prop :=
  ∀ p g g', region p → (∀ q, region q → g q = g' q) → c p g = c' p g'

namespace Choice

/-! ## Leading on -/

section Leads

variable {R : Point → Point → Prop} {c : Choice} {passes : Char → Bool}

theorem Leads.first (h : c.Leads R) {p q : Point} (hq : c p some = some q) : R p q := by
  obtain ⟨r, hr, he⟩ := h p some q hq
  exact Option.some.inj he ▸ hr

theorem leads_single (h : ∀ p c q, p.forward? = some (c, q) → passes c = true → R p q) :
    (single passes).Leads R := by
  intro p g r hr
  unfold single at hr
  split at hr
  · rename_i d q hnext
    split at hr
    · exact ⟨q, h p d q hnext ‹_›, hr⟩
    · exact absurd hr (by simp)
  · exact absurd hr (by simp)

variable (hrefl : ∀ p, R p p) (htrans : ∀ {p q r}, R p q → R q r → R p r)

include hrefl htrans

theorem Leads.times (h : c.Leads R) (n : Nat) : (c.times n).Leads R := by
  induction n with
  | zero => exact fun p g r hr => ⟨p, hrefl p, hr⟩
  | succ n ih =>
    intro p g r hr
    obtain ⟨q, hq, hrest⟩ := h p _ r hr
    obtain ⟨q', hq', hg⟩ := ih q g r hrest
    exact ⟨q', htrans hq hq', hg⟩

theorem Leads.greedy (h : c.Leads R) (n : Nat) (last : Option Nat) :
    (c.greedy n last).Leads R := by
  induction n generalizing last with
  | zero => exact fun p g r hr => ⟨p, hrefl p, hr⟩
  | succ n ih =>
    intro p g r hr
    rw [Choice.greedy] at hr
    split at hr
    · exact ⟨p, hrefl p, hr⟩
    · rcases Option.or_eq_some_iff.1 hr with hr | ⟨-, hr⟩
      · obtain ⟨q, hq, hrest⟩ := h p _ r hr
        obtain ⟨q', hq', hg⟩ := ih _ q g r hrest
        exact ⟨q', htrans hq hq', hg⟩
      · exact ⟨p, hrefl p, hr⟩

theorem Leads.lazy (h : c.Leads R) (n : Nat) (last : Option Nat) : (c.lazy n last).Leads R := by
  induction n generalizing last with
  | zero => exact fun p g r hr => ⟨p, hrefl p, hr⟩
  | succ n ih =>
    intro p g r hr
    rw [Choice.lazy] at hr
    rcases Option.or_eq_some_iff.1 hr with hr | ⟨-, hr⟩
    · exact ⟨p, hrefl p, hr⟩
    · split at hr
      · exact absurd hr (by simp)
      · obtain ⟨q, hq, hrest⟩ := h p _ r hr
        obtain ⟨q', hq', hg⟩ := ih _ q g r hrest
        exact ⟨q', htrans hq hq', hg⟩

theorem Leads.firstTimes (h : c.Leads R) {n : Nat} {p q : Point} (hq : c.firstTimes n p = some q) :
    R p q := by
  induction n generalizing p with
  | zero =>
    obtain rfl := Option.some.inj hq
    exact hrefl p
  | succ n ih =>
    obtain ⟨r, hr, hrest⟩ := Option.bind_eq_some_iff.1 hq
    exact htrans (h.first hr) (ih hrest)

theorem Leads.firstMost (h : c.Leads R) (n : Nat) (last : Option Nat) (p : Point) :
    R p (c.firstMost n last p) := by
  induction n generalizing last p with
  | zero => exact hrefl p
  | succ n ih =>
    rw [Choice.firstMost]
    split
    · exact hrefl p
    · cases hq : c p some with
      | none => exact hrefl p
      | some q => exact htrans (h.first hq) (ih _ q)

theorem Leads.copies (h : c.Leads R) (mode : Mode) (least : Nat) (most : Option Nat) :
    (c.copies mode least most).Leads R := by
  intro p g r hr
  cases mode with
  | greedy =>
    obtain ⟨q, hq, hrest⟩ := h.times hrefl htrans least p _ r hr
    obtain ⟨q', hq', hg⟩ := h.greedy hrefl htrans _ _ q g r hrest
    exact ⟨q', htrans hq hq', hg⟩
  | lazy =>
    obtain ⟨q, hq, hrest⟩ := h.times hrefl htrans least p _ r hr
    obtain ⟨q', hq', hg⟩ := h.lazy hrefl htrans _ _ q g r hrest
    exact ⟨q', htrans hq hq', hg⟩
  | possessive =>
    obtain ⟨q, hq, hg⟩ := Option.bind_eq_some_iff.1 hr
    exact ⟨_, htrans (h.firstTimes hrefl htrans hq) (h.firstMost hrefl htrans _ _ q), hg⟩

end Leads

/-! ## Agreeing -/

section AgreesOn

variable {region : Point → Prop} {c c' : Choice}

theorem AgreesOn.times (h : AgreesOn region c c') (n : Nat) :
    AgreesOn region (c.times n) (c'.times n) := by
  induction n with
  | zero => exact fun p g g' hp hg => hg p hp
  | succ n ih => exact fun p g g' hp hg => h p _ _ hp fun q hq => ih q g g' hq hg

theorem AgreesOn.greedy (h : AgreesOn region c c') (n : Nat) (last : Option Nat) :
    AgreesOn region (c.greedy n last) (c'.greedy n last) := by
  induction n generalizing last with
  | zero => exact fun p g g' hp hg => hg p hp
  | succ n ih =>
    intro p g g' hp hg
    have hcopy : (c p fun q => c.greedy n (some p.position) q g) =
        c' p fun q => c'.greedy n (some p.position) q g' :=
      h p _ _ hp fun q hq => ih _ q g g' hq hg
    rw [Choice.greedy, Choice.greedy, hcopy, hg p hp]

theorem AgreesOn.lazy (h : AgreesOn region c c') (n : Nat) (last : Option Nat) :
    AgreesOn region (c.lazy n last) (c'.lazy n last) := by
  induction n generalizing last with
  | zero => exact fun p g g' hp hg => hg p hp
  | succ n ih =>
    intro p g g' hp hg
    have hcopy : (c p fun q => c.lazy n (some p.position) q g) =
        c' p fun q => c'.lazy n (some p.position) q g' :=
      h p _ _ hp fun q hq => ih _ q g g' hq hg
    rw [Choice.lazy, Choice.lazy, hcopy, hg p hp]

theorem AgreesOn.first (h : AgreesOn region c c') {p : Point} (hp : region p) :
    c p some = c' p some :=
  h p some some hp fun _ _ => rfl

variable (hkeeps : c'.Leads fun p q => region p → region q)

include hkeeps

theorem AgreesOn.firstTimes (h : AgreesOn region c c') (n : Nat) {p : Point} (hp : region p) :
    c.firstTimes n p = c'.firstTimes n p := by
  induction n generalizing p with
  | zero => rfl
  | succ n ih =>
    rw [Choice.firstTimes, Choice.firstTimes, h.first hp]
    cases hq : c' p some with
    | none => rfl
    | some q => exact ih (hkeeps.first hq hp)

theorem AgreesOn.firstMost (h : AgreesOn region c c') (n : Nat) (last : Option Nat) {p : Point}
    (hp : region p) : c.firstMost n last p = c'.firstMost n last p := by
  induction n generalizing last p with
  | zero => rfl
  | succ n ih =>
    rw [Choice.firstMost, Choice.firstMost, h.first hp]
    cases hq : c' p some with
    | none => rfl
    | some q =>
      dsimp only
      rw [ih (some p.position) (hkeeps.first hq hp)]

theorem AgreesOn.copies (h : AgreesOn region c c') (mode : Mode) (least : Nat)
    (most : Option Nat) : AgreesOn region (c.copies mode least most) (c'.copies mode least most) := by
  intro p g g' hp hg
  cases mode with
  | greedy => exact h.times least p _ _ hp fun q hq => h.greedy _ none q g g' hq hg
  | lazy => exact h.times least p _ _ hp fun q hq => h.lazy _ none q g g' hq hg
  | possessive =>
    let R (p q : Point) : Prop := region p → region q
    have hrefl (p : Point) : R p p := id
    have htrans {p q r : Point} (hpq : R p q) (hqr : R q r) : R p r := hqr ∘ hpq
    rw [Choice.copies, Choice.copies, h.firstTimes hkeeps least hp]
    cases hq : c'.firstTimes least p with
    | none => rfl
    | some q =>
      have hregion : region q := hkeeps.firstTimes hrefl htrans hq hp
      rw [Option.bind_some, Option.bind_some, h.firstMost hkeeps _ _ hregion]
      exact hg _ (hkeeps.firstMost hrefl htrans _ _ q hregion)

end AgreesOn

end Choice

namespace Node

/-! ## Trees -/

section

variable {R : Point → Point → Prop} {f : Flags} {a b body : Node}

theorem leads_seq (htrans : ∀ {p q r}, R p q → R q r → R p r) (ha : (a.choose f).Leads R)
    (hb : (b.choose f).Leads R) : ((seq a b).choose f).Leads R := by
  intro p g r hr
  obtain ⟨q, hq, hrest⟩ := ha p _ r hr
  obtain ⟨q', hq', hg⟩ := hb q g r hrest
  exact ⟨q', htrans hq hq', hg⟩

theorem leads_alt (ha : (a.choose f).Leads R) (hb : (b.choose f).Leads R) :
    ((alt a b).choose f).Leads R := fun p g r hr =>
  (Option.or_eq_some_iff.1 hr).elim (ha p g r) fun h => hb p g r h.2

theorem leads_anchor (hrefl : ∀ p, R p p) (k : Anchor) : ((anchor k).choose f).Leads R := by
  intro p g r hr
  rw [choose] at hr
  split at hr
  · exact ⟨p, hrefl p, hr⟩
  · exact absurd hr (by simp)

theorem leads_atomic (hbody : (body.choose f).Leads R) : ((atomic body).choose f).Leads R := by
  intro p g r hr
  obtain ⟨q, hq, hg⟩ := Option.bind_eq_some_iff.1 hr
  exact ⟨q, hbody.first hq, hg⟩

theorem leads_look (hrefl : ∀ p, R p p) (behind : Option Width) (negated : Bool) :
    ((look behind negated body).choose f).Leads R := by
  intro p g r hr
  rw [choose] at hr
  split at hr
  · split at hr
    · exact ⟨p, hrefl p, hr⟩
    · exact absurd hr (by simp)
  · split at hr
    · exact ⟨p, hrefl p, hr⟩
    · exact absurd hr (by simp)

/-- A tree leads on in the sense that each of its characters is passed in. -/
theorem choose_leads (hrefl : ∀ p, R p p) (htrans : ∀ {p q r}, R p q → R q r → R p r)
    (hstep : ∀ p c q, p.forward? = some (c, q) → R p q) (n : Node) : (n.choose f).Leads R := by
  induction n generalizing f with
  | empty => exact fun p g r hr => ⟨p, hrefl p, hr⟩
  | char test => exact Choice.leads_single fun p c q hnext _ => hstep p c q hnext
  | anchor k => exact leads_anchor hrefl k
  | seq a b iha ihb => exact leads_seq htrans iha ihb
  | alt a b iha ihb => exact leads_alt iha ihb
  | quantified mode least most body ih => exact ih.copies hrefl htrans mode least most
  | group i body ih => exact ih
  | flagged on off body ih => exact ih
  | atomic body ih => exact leads_atomic ih
  | look behind negated body _ => exact leads_look hrefl behind negated
  | backreference g => exact fun p g r hr => absurd hr (by simp [choose])
  | conditional g yes no _ _ => exact fun p g r hr => absurd hr (by simp [choose])

end

end Node

end PathRouter.Regex

import PathRouter.Proofs.SearchAhead
import PathRouter.Regex.Expression

/-!
# What a tree reaches

The points up to which a tree can match from a point, said without a search: no order of
preference, no marks, no trail. For a tree that is regular this is all that decides whether a search
succeeds. Where a quantifier asks for copies, those that match the empty text can be left out.
-/

namespace PathRouter.Regex
set_option autoImplicit false

/-- The second point is reached from the first in so many steps. -/
inductive Copies (step : Point → Point → Prop) : Nat → Point → Point → Prop
  | zero (p : Point) : Copies step 0 p p
  | succ {n : Nat} {p q r : Point} : step p q → Copies step n q r → Copies step (n + 1) p r

/-- So many copies are as many as are asked for. -/
def CountsAs (least : Nat) (most : Option Nat) (n : Nat) : Prop :=
  least ≤ n ∧ ∀ m, most = some m → n ≤ m

/-- One character that passes a test. -/
def Takes (passes : Char → Bool) (p q : Point) : Prop :=
  ∃ c, p.forward? = some (c, q) ∧ passes c = true

namespace Node

/-- A tree matches the text from the first point to the second. What depends on the marks of groups
or on an order of preference reaches nothing. -/
def Reaches (f : Flags) : Node → Point → Point → Prop
  | empty, p, q => q = p
  | char test, p, q => Takes (test.holds f) p q
  | anchor a, p, q => q = p ∧ a.holds f p = true
  | seq a b, p, q => ∃ r, a.Reaches f p r ∧ b.Reaches f r q
  | alt a b, p, q => a.Reaches f p q ∨ b.Reaches f p q
  | quantified _ least most body, p, q =>
    ∃ n, CountsAs least most n ∧ Copies (body.Reaches f) n p q
  | group _ body, p, q => body.Reaches f p q
  | flagged on off body, p, q => body.Reaches (f.update on off) p q
  | look none negated body, p, q => q = p ∧ ((∃ r, body.Reaches f p r) ↔ negated = false)
  | look (some _) _ _, _, _ | backreference _, _, _ | atomic _, _, _ | conditional _ _ _, _, _ =>
    False

/-- What the tree reaches decides what a search for it does: nothing in it refers to a group, keeps
its first match or looks behind. -/
def isRegular : Node → Bool
  | empty | char _ | anchor _ => true
  | seq a b | alt a b => a.isRegular && b.isRegular
  | quantified mode least most body =>
    mode != .possessive && most.all (least ≤ ·) && body.isRegular
  | group _ body | flagged _ _ body | look none _ body => body.isRegular
  | _ => false

end Node

/-! ## Copies -/

namespace Copies

variable {step other : Point → Point → Prop} {m n : Nat} {p q r : Point}

theorem mono (h : Copies step n p q) (hstep : ∀ p q, step p q → other p q) : Copies other n p q := by
  induction h with
  | zero p => exact .zero p
  | succ hpq _ ih => exact .succ (hstep _ _ hpq) ih

theorem congr (hstep : ∀ p q, step p q ↔ other p q) : Copies step n p q ↔ Copies other n p q :=
  ⟨fun h => h.mono fun p q => (hstep p q).1, fun h => h.mono fun p q => (hstep p q).2⟩

theorem trans (h : Copies step m p q) (h' : Copies step n q r) : Copies step (m + n) p r := by
  induction h with
  | zero p => rwa [Nat.zero_add]
  | succ hpq _ ih =>
    rw [Nat.add_right_comm]
    exact .succ hpq (ih h')

/-- The first copies and the ones after them. -/
theorem split (h : Copies step (m + n) p r) : ∃ q, Copies step m p q ∧ Copies step n q r := by
  induction m generalizing p with
  | zero => exact ⟨p, .zero p, by rwa [Nat.zero_add] at h⟩
  | succ m ih =>
    rw [Nat.add_right_comm] at h
    cases h with
    | succ hpq hrest =>
      obtain ⟨q, hq, hr⟩ := ih hrest
      exact ⟨q, .succ hpq hq, hr⟩

/-- Copies of the empty text can be left out. -/
theorem drop_empty (h : Copies step n p q) :
    ∃ m, m ≤ n ∧ Copies (fun p q => step p q ∧ q ≠ p) m p q := by
  induction h with
  | zero p => exact ⟨0, Nat.le_refl 0, .zero p⟩
  | @succ n p q r hpq _ ih =>
    obtain ⟨m, hm, hrest⟩ := ih
    by_cases he : q = p
    · exact ⟨m, Nat.le_succ_of_le hm, he ▸ hrest⟩
    · exact ⟨m + 1, Nat.succ_le_succ hm, .succ ⟨hpq, he⟩ hrest⟩

theorem isAhead (h : Copies step n p q) (hstep : ∀ p q, step p q → p.IsAhead q) : p.IsAhead q := by
  induction h with
  | zero p => exact .refl p
  | succ hpq _ ih => exact (hstep _ _ hpq).trans ih

/-- Each copy that is not empty takes a character at least. -/
theorem length_le (h : Copies (fun p q => step p q ∧ q ≠ p) n p q)
    (hstep : ∀ p q, step p q → p.IsAhead q) : n + q.after.length ≤ p.after.length := by
  induction h with
  | zero p => omega
  | succ hpq _ ih =>
    have hlt := (hstep _ _ hpq.1).eq_or_lt.resolve_left hpq.2
    omega

end Copies

/-! ## Points that are reached -/

namespace Point.IsAhead

variable {p q : Point}

/-- A point ahead is another one only if its position is. -/
theorem position_ne (h : p.IsAhead q) (hne : q ≠ p) : q.position ≠ p.position := by
  have hlt := h.eq_or_lt.resolve_left hne
  obtain ⟨n, rfl⟩ := h
  rw [← p.skip_length_take] at hlt ⊢
  have hle : (p.after.take n).length ≤ p.after.length := by
    rw [List.length_take]
    exact Nat.min_le_right _ _
  rw [Point.skip_position hle]
  rw [Point.skip_after, List.length_drop] at hlt
  omega

end Point.IsAhead

namespace Node

variable {f : Flags} {p q : Point} {n : Node}

theorem isAhead_of_reaches (h : n.Reaches f p q) : p.IsAhead q := by
  induction n generalizing f p q with
  | empty =>
    obtain rfl : q = p := h
    exact .refl q
  | char test =>
    obtain ⟨c, hnext, -⟩ := h
    exact .forward hnext
  | anchor a =>
    obtain ⟨rfl, -⟩ := h
    exact .refl q
  | seq a b iha ihb =>
    obtain ⟨r, ha, hb⟩ := h
    exact (iha ha).trans (ihb hb)
  | alt a b iha ihb => exact h.elim iha ihb
  | quantified mode least most body ih =>
    obtain ⟨n, -, hcopies⟩ := h
    exact hcopies.isAhead fun _ _ => ih
  | group i body ih => exact ih h
  | flagged on off body ih => exact ih h
  | look behind negated body _ =>
    cases behind with
    | none =>
      obtain ⟨rfl, -⟩ := h
      exact .refl q
    | some w => exact h.elim
  | backreference g => exact h.elim
  | atomic body _ => exact h.elim
  | conditional g yes no _ _ => exact h.elim

/-- A tree matches no text shorter than its least width. -/
theorem least_le_of_reaches (groups : Nat → Width) (h : n.Reaches f p q) :
    (n.width groups).least + q.after.length ≤ p.after.length := by
  induction n generalizing f p q with
  | empty =>
    obtain rfl : q = p := h
    exact Nat.le_of_eq (Nat.zero_add _)
  | char test =>
    obtain ⟨c, hnext, -⟩ := h
    obtain ⟨⟨rest, hafter⟩, rfl⟩ := Point.forward?_eq_some hnext
    simp only [width, Width.one, Point.skip_after, hafter, List.drop_one, List.tail_cons,
      List.length_cons]
    omega
  | anchor a =>
    obtain ⟨rfl, -⟩ := h
    exact Nat.le_of_eq (Nat.zero_add _)
  | seq a b iha ihb =>
    obtain ⟨r, ha, hb⟩ := h
    have hab := iha ha
    have hba := ihb hb
    simp only [width, Width.add, Width.upToLimit]
    omega
  | alt a b iha ihb =>
    simp only [width, Width.either]
    rcases h with h | h
    · have := iha h
      omega
    · have := ihb h
      omega
  | quantified mode least most body ih =>
    obtain ⟨n, hn, hcopies⟩ := h
    have hall : (body.width groups).least * n + q.after.length ≤ p.after.length := by
      clear hn
      induction hcopies with
      | zero p => simp
      | succ hpq _ ihn =>
        have := ih hpq
        rw [Nat.mul_succ]
        omega
    have hmul := Nat.mul_le_mul_left (body.width groups).least hn.1
    simp only [width, Width.copies, Width.upToLimit]
    omega
  | group i body ih => exact ih h
  | flagged on off body ih => exact ih h
  | look behind negated body _ =>
    cases behind with
    | none =>
      obtain ⟨rfl, -⟩ := h
      exact Nat.le_of_eq (Nat.zero_add _)
    | some w => exact h.elim
  | backreference g => exact h.elim
  | atomic body _ => exact h.elim
  | conditional g yes no _ _ => exact h.elim

/-- Where a tree matches, the next character passes the test that the tree begins with. -/
theorem lead_of_reaches {next : Option FlaggedTest} (h : n.Reaches f p q)
    (hnext : next.all (·.holdsAfter q) = true) : (n.lead f next).all (·.holdsAfter p) = true := by
  induction n generalizing f p q next with
  | empty =>
    obtain rfl : q = p := h
    exact hnext
  | char test =>
    obtain ⟨c, hforward, hpass⟩ := h
    obtain ⟨⟨rest, hafter⟩, -⟩ := Point.forward?_eq_some hforward
    rw [lead]
    split
    · simpa [FlaggedTest.holdsAfter, FlaggedTest.holds, hafter] using hpass
    · rfl
  | seq a b iha ihb =>
    obtain ⟨r, ha, hb⟩ := h
    exact iha ha (ihb hb hnext)
  | flagged on off body ih => exact ih h hnext
  | _ => rfl

/-- A tree that consists of one test takes one character that passes it. -/
theorem reaches_of_single? {single : FlaggedTest} (h : n.single? f = some single) :
    n.Reaches f p q ↔ Takes single.holds p q := by
  induction n generalizing f with
  | char test =>
    obtain rfl := Option.some.inj h
    rfl
  | flagged on off body ih => exact ih h
  | _ => exact absurd h (by simp [single?])

end Node

/-! ## Copies of a single character -/

/-- Copies of a single character are characters that all pass the test. -/
theorem copies_takes_iff {passes : Char → Bool} {n : Nat} {p q : Point} :
    Copies (Takes passes) n p q ↔
      n ≤ p.after.length ∧ q = p.skip n ∧ ∀ c ∈ p.after.take n, passes c = true := by
  induction n generalizing p with
  | zero =>
    constructor
    · rintro ⟨⟩
      simp
    · rintro ⟨-, rfl, -⟩
      exact .zero p
  | succ n ih =>
    constructor
    · intro h
      cases h with
      | succ hstep hrest =>
        obtain ⟨c, hnext, hpass⟩ := hstep
        obtain ⟨⟨rest, hafter⟩, rfl⟩ := Point.forward?_eq_some hnext
        obtain ⟨hle, rfl, hall⟩ := ih.1 hrest
        have hrest' : (p.skip 1).after = rest := by simp [hafter]
        rw [hrest'] at hle hall
        rw [hafter]
        refine ⟨Nat.succ_le_succ hle, by rw [Point.skip_skip, Nat.add_comm], ?_⟩
        rw [List.take_succ_cons, List.forall_mem_cons]
        exact ⟨hpass, hall⟩
    · rintro ⟨hle, rfl, hall⟩
      cases hafter : p.after with
      | nil => simp [hafter] at hle
      | cons c rest =>
        rw [hafter, List.take_succ_cons, List.forall_mem_cons] at hall
        have hrest' : (p.skip 1).after = rest := by simp [hafter]
        rw [hafter] at hle
        refine .succ ⟨c, Point.forward?_cons hafter, hall.1⟩ (ih.2 ⟨?_, ?_, ?_⟩)
        · rw [hrest']
          exact Nat.le_of_succ_le_succ hle
        · rw [Point.skip_skip, Nat.add_comm]
        · rw [hrest']
          exact hall.2

end PathRouter.Regex

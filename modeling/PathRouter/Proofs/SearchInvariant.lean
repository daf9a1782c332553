import PathRouter.Proofs.Points
import PathRouter.Regex.Match

/-!
# What a search keeps

A search from a point of a region stays in the region, keeps the marks that are known before it, and
so do its failures, as long as what has to follow does. The region is a parameter: the points of one
text, or those that are reached without a slash. In the early edition the spot of a failed copy
decides where a possessive quantifier goes on, so inside one the spot has to stay in the region as
well, also after a failure.

The invariant is proved for every combinator on searches, and from that for every tree whose tests
do not leave the region.
-/

namespace PathRouter.Regex
set_option autoImplicit false

/-- A quantifier of this mode goes on from the spot of a failure. -/
def Edition.follows (edition : Edition) (mode : Mode) : Bool :=
  edition == .early && mode == .possessive

theorem Edition.eq_early_of_follows {edition : Edition} {mode : Mode}
    (h : edition.follows mode = true) : edition = .early :=
  eq_of_beq (Bool.and_eq_true_iff.1 h).1

/-- A success leaves a trail as `found` says, and a failure one as `lost` says. -/
def Outcome.Ends (lost found : Trail → Prop) : Outcome → Prop
  | .matched t => found t
  | .failed t => lost t

/-- The known marks are set, and the spot lies in the region if it is followed. -/
structure Holds (region : Point → Prop) (known : List (Nat × Point)) (followed : Bool) (t : Trail) :
    Prop where
  spot : followed = true → region t.spot
  marks : ∀ m ∈ known, t.marks[m.1]? = some (some m.2)

/-- A search keeps to the region and what holds, if what has to follow keeps it. -/
def Search.Keeps (region : Point → Prop) (known : List (Nat × Point)) (followed : Bool)
    (s : Search) : Prop :=
  ∀ (found : Trail → Prop) (p : Point) (t : Trail) (k : Point → Trail → Outcome),
    region p → Holds region known followed t →
    (∀ q u, region q → Holds region known followed u →
      (k q u).Ends (Holds region known followed) found) →
    (s p t k).Ends (Holds region known followed) found

section

variable {region : Point → Prop} {known : List (Nat × Point)} {followed : Bool}
variable {found lost : Trail → Prop} {t old : Trail} {p : Point} {o : Outcome}

namespace Holds

theorem note (h : Holds region known followed t) (hp : region p) :
    Holds region known followed (t.note p) :=
  ⟨fun _ => hp, h.marks⟩

/-- A mark beyond the known ones is set. -/
theorem mark (h : Holds region known followed t) {index : Nat} (hk : ∀ m ∈ known, m.1 < index)
    (p : Point) : Holds region known followed (t.mark index p) :=
  ⟨h.spot, fun m hm => t.mark_of_lt p (hk m hm) (h.marks m hm)⟩

/-- The groups from `first` on set their marks beyond the known ones. -/
theorem enter_of_le (h : Holds region known followed t) {first i : Nat}
    (hknown : ∀ m ∈ known, m.1 < 2 * first - 2) (hi : first ≤ i) (p : Point) :
    Holds region known followed (t.enter i p) := by
  apply h.mark
  intro m hm
  have := hknown m hm
  omega

theorem leave_of_le (h : Holds region known followed t) {first i : Nat}
    (hknown : ∀ m ∈ known, m.1 < 2 * first - 2) (hi : first ≤ i) (p : Point) :
    Holds region known followed (t.leave i p) := by
  apply h.mark
  intro m hm
  have := hknown m hm
  omega

theorem undo (h : Holds region known followed t) (hold : Holds region known followed old)
    (repeated : Bool) : Holds region known followed (t.undo repeated old) := by
  refine ⟨h.spot, ?_⟩
  intro m hm
  have hlt := (List.getElem?_eq_some_iff.1 (hold.marks m hm)).1
  cases repeated with
  | true => exact hold.marks m hm
  | false =>
    show (t.marks.take old.marks.length)[m.1]? = some (some m.2)
    rw [List.getElem?_take_of_lt hlt]
    exact h.marks m hm

/-- What is known with the spot is known without it. -/
theorem unfollow (h : Holds region known true t) : Holds region known followed t :=
  ⟨fun _ => h.spot rfl, h.marks⟩

theorem follow (h : Holds region known followed t) (hs : region t.spot) :
    Holds region known true t :=
  ⟨fun _ => hs, h.marks⟩

end Holds

namespace Outcome

theorem Ends.mono {lost' found' : Trail → Prop} (h : o.Ends lost found)
    (hlost : ∀ t, lost t → lost' t) (hfound : ∀ t, found t → found' t) : o.Ends lost' found' := by
  cases o with
  | matched t => exact hfound t h
  | failed t => exact hlost t h

theorem Ends.orElse {lost' : Trail → Prop} {other : Trail → Outcome} (h : o.Ends lost found)
    (hother : ∀ t, lost t → (other t).Ends lost' found) : (o.orElse other).Ends lost' found := by
  cases o with
  | matched t => exact h
  | failed t => exact hother t h

theorem Ends.failingAt (h : o.Ends (Holds region known followed) found) (hp : region p) :
    (o.failingAt p).Ends (Holds region known followed) found :=
  h.orElse fun _ ht => ht.note hp

end Outcome

/-! ## One way -/

namespace Search

variable {s : Search} {k : Point → Trail → Outcome}

theorem Keeps.first (h : s.Keeps region known followed) (hp : region p)
    (ht : Holds region known followed t) :
    (s.first p t).Ends (Holds region known followed) (Holds region known true) := by
  apply h _ p (t.note p) _ hp (ht.note hp)
  intro q u hq hu
  exact (hu.note hq).follow hq

/-- What may follow from a point of the region. -/
def Follows (region : Point → Prop) (known : List (Nat × Point)) (followed : Bool)
    (found : Trail → Prop) (k : Point → Trail → Outcome) : Prop :=
  ∀ q u, region q → Holds region known followed u →
    (k q u).Ends (Holds region known followed) found

theorem Follows.onward (hk : Follows region known followed found k) (hp : region p)
    (ht : Holds region known followed t) (hold : Holds region known followed old) (repeated : Bool)
    (next : Option FlaggedTest) :
    (onward repeated next old k p t).Ends (Holds region known followed) found := by
  unfold Search.onward
  split
  · have h := hk p (t.note p) hp (ht.note hp)
    cases hr : k p (t.note p) with
    | matched u => rwa [hr] at h
    | failed u =>
      rw [hr] at h
      exact Holds.undo h hold repeated
  · exact ht

theorem Keeps.alternative (h : s.Keeps region known followed) (repeated : Bool)
    (lead : Option FlaggedTest) : (s.alternative repeated lead).Keeps region known followed := by
  intro found p t k hp ht hk
  have hs : Follows region known followed found fun q u => s q u k :=
    fun q u hq hu => h found q u k hq hu hk
  exact hs.onward hp ht ht repeated lead

/-! ## Copies -/

theorem Keeps.times (h : s.Keeps region known followed) (n : Nat) :
    (s.times n).Keeps region known followed := by
  induction n with
  | zero =>
    intro found p t k hp ht hk
    exact hk p t hp ht
  | succ n ih =>
    intro found p t k hp ht hk
    apply Outcome.Ends.failingAt _ hp
    apply h found p (t.note p) _ hp (ht.note hp)
    intro q u hq hu
    exact ih found q u k hq hu hk

theorem Keeps.greedy (h : s.Keeps region known followed) (n : Nat) (last : Option Nat) :
    (s.greedy n last).Keeps region known followed := by
  have hstop {found : Trail → Prop} {p : Point} {t : Trail} {k : Point → Trail → Outcome}
      (hp : region p) (ht : Holds region known followed t)
      (hk : Follows region known followed found k) :
      ((k p (t.note p)).failingAt p).Ends (Holds region known followed) found :=
    (hk p _ hp (ht.note hp)).failingAt hp
  induction n generalizing last with
  | zero =>
    intro found p t k hp ht hk
    exact hstop hp ht hk
  | succ n ih =>
    intro found p t k hp ht hk
    show (Search.greedy s (n + 1) last p t k).Ends _ _
    rw [Search.greedy]
    split
    · exact hstop hp ht hk
    · have hmore : (s p (t.note p) fun q u => s.greedy n (some p.position) q u k).Ends
          (Holds region known followed) found := by
        apply h found p (t.note p) _ hp (ht.note hp)
        intro q u hq hu
        exact ih (some p.position) found q u k hq hu hk
      exact hmore.orElse fun _ _ => hstop hp ht hk

theorem Keeps.lazy (h : s.Keeps region known followed) (repeated : Bool) (n : Nat)
    (last : Option Nat) :
    (s.lazy repeated n last).Keeps region known followed := by
  induction n generalizing last with
  | zero =>
    intro found p t k hp ht hk
    exact (hk p _ hp (ht.note hp)).orElse fun u hu => (hu.undo ht repeated).note hp
  | succ n ih =>
    intro found p t k hp ht hk
    show (Search.lazy s repeated (n + 1) last p t k).Ends _ _
    rw [Search.lazy]
    apply (hk p _ hp (ht.note hp)).orElse
    intro u hu
    have hv := (hu.undo ht repeated).note hp
    dsimp only
    split
    · exact hv
    · apply Outcome.Ends.failingAt _ hp
      apply h found p _ _ hp hv
      intro q w hq hw
      exact ih (some p.position) found q w k hq hw hk

theorem Keeps.firstTimes (h : s.Keeps region known followed) (n : Nat)
    (ht : Holds region known true t) :
    (s.firstTimes n t).Ends (Holds region known followed) (Holds region known true) := by
  induction n generalizing t with
  | zero => exact ht
  | succ n ih =>
    have hfirst := h.first (ht.spot rfl) ht.unfollow
    rw [Search.firstTimes]
    cases hr : s.first t.spot t with
    | matched u =>
      rw [hr] at hfirst
      exact ih hfirst
    | failed u =>
      rw [hr] at hfirst
      exact hfirst

theorem Keeps.firstMost {edition : Edition} (h : s.Keeps region known followed)
    (hedition : edition = .early → followed = true) (n : Nat) (last : Option Nat)
    (ht : Holds region known true t) : Holds region known true (s.firstMost edition n last t) := by
  induction n generalizing last t with
  | zero => exact ht
  | succ n ih =>
    rw [Search.firstMost]
    split
    · exact ht
    · have hfirst := h.first (ht.spot rfl) ht.unfollow
      cases hr : s.first t.spot t with
      | matched u =>
        rw [hr] at hfirst
        exact ih _ hfirst
      | failed u =>
        rw [hr] at hfirst
        cases edition with
        | early => exact ht.note (hfirst.spot (hedition rfl))
        | current => exact ht

/-- Inside a possessive quantifier of the early edition the spot has to be followed. -/
theorem Keeps.copies {edition : Edition} {mode : Mode}
    (h : s.Keeps region known (followed || edition.follows mode))
    (repeated : Bool) (least : Nat) (most : Option Nat) :
    (s.copies edition repeated mode least most).Keeps region known followed := by
  intro found p t k hp ht hk
  cases mode with
  | greedy =>
    have h' : s.Keeps region known followed := by
      rwa [show edition.follows .greedy = false from Bool.and_false _, Bool.or_false] at h
    apply h'.times least found p t _ hp ht
    intro q u hq hu
    exact h'.greedy _ none found q u k hq hu hk
  | lazy =>
    have h' : s.Keeps region known followed := by
      rwa [show edition.follows .lazy = false from Bool.and_false _, Bool.or_false] at h
    apply h'.times least found p t _ hp ht
    intro q u hq hu
    exact h'.lazy repeated _ none found q u k hq hu hk
  | possessive =>
    have hearly : edition = .early → (followed || edition.follows .possessive) = true := by
      rintro rfl
      exact Bool.or_true _
    have htimes := h.firstTimes least ((ht.note hp).follow hp)
    unfold Search.copies
    dsimp only
    cases hr : s.firstTimes least (t.note p) with
    | matched u =>
      rw [hr] at htimes
      have hmost := h.firstMost hearly (optional least most u.spot) none htimes
      exact hk _ _ (hmost.spot rfl) hmost.unfollow
    | failed u =>
      rw [hr] at htimes
      exact ⟨fun _ => hp, htimes.marks⟩

/-! ## Copies of a single character -/

/-- Steps over a character that passes the test stay in the region. -/
def Advances (region : Point → Prop) (passes : Char → Bool) : Prop :=
  ∀ p c q, region p → p.forward? = some (c, q) → passes c = true → region q

theorem Advances.skip {passes : Char → Bool} (h : Advances region passes) (hp : region p) {n : Nat}
    (hn : n ≤ p.after.length) (hpass : ∀ c ∈ p.after.take n, passes c = true) :
    region (p.skip n) := by
  induction n with
  | zero => exact hp
  | succ n ih =>
    have hrest := ih (Nat.le_of_succ_le hn) fun c hc =>
      hpass c ((List.take_prefix_take_left (Nat.le_succ n)).subset hc)
    have hc : p.after[n] ∈ p.after.take (n + 1) :=
      List.mem_take_iff_getElem.2 ⟨n, by omega, rfl⟩
    have hnext : (p.skip n).forward? = some (p.after[n], (p.skip n).skip 1) :=
      Point.forward?_cons (List.drop_eq_getElem_cons hn)
    rw [← Point.skip_skip]
    exact h _ _ _ hrest hnext (hpass _ hc)

theorem Follows.fewer (hk : Follows region known followed found k) (repeated : Bool)
    (next : Option FlaggedTest) (hold : Holds region known followed old) {a n : Nat}
    (hn : a + n ≤ p.after.length) (hskip : ∀ m, m ≤ a + n → region (p.skip m))
    (ht : Holds region known followed t) :
    (Search.fewer repeated next old k n (p.skip (a + n)) t).Ends
      (Holds region known followed) found := by
  induction n generalizing t with
  | zero =>
    have h := hk.onward (hskip _ (Nat.le_refl _)) ht hold repeated next
    unfold Search.fewer
    split
    · simp_all
    · exact h
  | succ n ih =>
    have h := hk.onward (hskip _ (Nat.le_refl _)) ht hold repeated next
    unfold Search.fewer
    split
    · rename_i u m hu hm
      obtain rfl : n = m := Nat.succ.inj hm
      rw [hu] at h
      rw [← Nat.add_assoc, Point.skip_backward (by omega)]
      exact ih (by omega) (fun m hm => hskip m (by omega)) h
    · exact h

theorem Follows.more (hk : Follows region known followed found k) (repeated : Bool)
    (single : FlaggedTest) (hadvance : Advances region single.holds)
    (hold : Holds region known followed old) (n : Nat) (hp : region p)
    (ht : Holds region known followed t) :
    (Search.more repeated single old k n p t).Ends (Holds region known followed) found := by
  induction n generalizing p t with
  | zero =>
    rw [Search.more]
    apply (hk p _ hp (ht.note hp)).orElse
    intro u hu
    have hv := (hu.undo hold repeated).note hp
    cases hnext : p.forward? with
    | none => exact hv
    | some next =>
      obtain ⟨c, q⟩ := next
      dsimp only
      split
      · have hq := hadvance p c q hp hnext ‹_›
        split
        · exact hv.note hq
        · exact hv
      · exact hv
  | succ n ih =>
    rw [Search.more]
    apply (hk p _ hp (ht.note hp)).orElse
    intro u hu
    have hv := (hu.undo hold repeated).note hp
    cases hnext : p.forward? with
    | none => exact hv
    | some next =>
      obtain ⟨c, q⟩ := next
      dsimp only
      split
      · have hq := hadvance p c q hp hnext ‹_›
        apply ih hq
        split
        · exact hv.note hq
        · exact hv
      · exact hv

theorem keeps_characters (single : FlaggedTest) (hadvance : Advances region single.holds)
    (repeated : Bool) (next : Option FlaggedTest) (mode : Mode) (least : Nat) (most : Option Nat) :
    (Search.characters single repeated next mode least most).Keeps region known followed := by
  intro found p t k hp ht hk
  unfold Search.characters
  split
  · exact ht
  · obtain ⟨hle, hend, hpass⟩ :=
      p.run_spec single.holds (if mode = .lazy then some least else most)
    have hskip : ∀ m, m ≤ (p.run single.holds (if mode = .lazy then some least else most)).1 →
        region (p.skip m) := by
      intro m hm
      apply hadvance.skip hp (Nat.le_trans hm hle)
      intro c hc
      exact hpass c ((List.take_prefix_take_left hm).subset hc)
    generalize p.run single.holds (if mode = .lazy then some least else most) = run at *
    obtain ⟨count, q⟩ := run
    dsimp only at *
    subst hend
    have hq := hskip count (Nat.le_refl _)
    have hu : Holds region known followed
        (t.note (if single.isFolding then p.skip count else p)) := by
      apply ht.note
      split
      · exact hq
      · exact hp
    split
    · exact hu
    · cases mode with
      | greedy =>
        obtain ⟨n, rfl⟩ : ∃ n, count = least + n := ⟨count - least, by omega⟩
        dsimp only
        rw [Nat.add_sub_cancel_left]
        exact Follows.fewer hk repeated _ hu hle hskip hu
      | lazy => exact Follows.more hk repeated single hadvance hu _ hq hu
      | possessive => exact hk _ _ hq hu

end Search

/-! ## Trees -/

/-- The steps that a look behind makes back from a point of the region stay in it. -/
def Retreats (region : Point → Prop) : Prop :=
  ∀ p n q, region p → p.back? n = some q → region q

/-- What can be said of the next character after a tree has matched: a look ahead has refused it. -/
def Node.permits (f : Flags) : Node → Char → Bool
  | look none true (char test), c => !test.holds f c
  | _, _ => true

/-- The next character, if there is one, passes a test. -/
def Point.NextPasses (next : Char → Bool) (p : Point) : Prop :=
  ∀ c q, p.forward? = some (c, q) → next c = true

/-- No test of the tree leaves the region, where it is known of the next character that it passes
`next`. Where the spot is not followed, it does not matter how far a look around looks. -/
def Node.WithinAfter (edition : Edition) (region : Point → Prop) (followed : Bool) (f : Flags) :
    (next : Char → Bool) → Node → Prop
  | _, empty | _, anchor _ => True
  | next, char test => Search.Advances region fun c => next c && test.holds f c
  | _, backreference _ => ∀ p n, region p → region (p.skip n)
  | next, seq a b =>
    a.WithinAfter edition region followed f next ∧
      b.WithinAfter edition region followed f (a.permits f)
  | _, alt a b | _, conditional _ a b =>
    a.WithinAfter edition region followed f (fun _ => true) ∧
      b.WithinAfter edition region followed f (fun _ => true)
  | _, quantified mode _ _ body =>
    body.WithinAfter edition region (followed || edition.follows mode) f (fun _ => true)
  | _, group _ body | _, atomic body => body.WithinAfter edition region followed f (fun _ => true)
  | _, flagged on off body =>
    body.WithinAfter edition region followed (f.update on off) (fun _ => true)
  | _, look _ _ body =>
    followed = true → body.WithinAfter edition region true f (fun _ => true) ∧ Retreats region

/-- No test of the tree leaves the region. -/
def Node.Within (edition : Edition) (region : Point → Prop) (followed : Bool) (f : Flags)
    (n : Node) : Prop :=
  n.WithinAfter edition region followed f fun _ => true

/-- The groups of the tree are numbered from a number on. -/
def Node.GroupsFrom (first : Nat) : Node → Prop
  | empty | anchor _ | char _ | backreference _ => True
  | seq a b | alt a b | conditional _ a b => a.GroupsFrom first ∧ b.GroupsFrom first
  | quantified _ _ _ body | flagged _ _ body | atomic body | look _ _ body => body.GroupsFrom first
  | group i body => first ≤ i ∧ body.GroupsFrom first

namespace Node

theorem groupsFrom_zero (n : Node) : n.GroupsFrom 0 := by
  induction n with
  | group i body ih => exact ⟨Nat.zero_le i, ih⟩
  | _ => simp_all [GroupsFrom]

/-- A region that no step ahead leaves contains whatever a tree does. Steps back matter only where
the spot is followed. -/
theorem within_of_closed {region : Point → Prop} (hskip : ∀ p n, region p → region (p.skip n))
    {edition : Edition} {followed : Bool}
    (hback : edition = .early ∨ followed = true → Retreats region) (n : Node) (f : Flags) :
    n.Within edition region followed f := by
  have hadvance (passes : Char → Bool) : Search.Advances region passes := by
    intro p c q hp hnext _
    cases hafter : p.after with
    | nil => simp [Point.forward?_nil hafter] at hnext
    | cons d rest =>
      rw [Point.forward?_cons hafter] at hnext
      obtain ⟨-, rfl⟩ := Prod.mk.inj (Option.some.inj hnext)
      exact hskip p 1 hp
  unfold Within
  generalize (fun _ => true : Char → Bool) = next
  induction n generalizing followed f next with
  | empty => trivial
  | anchor _ => trivial
  | char test => exact hadvance _
  | backreference _ => exact hskip
  | seq a b iha ihb => exact ⟨iha hback _ _, ihb hback _ _⟩
  | alt a b iha ihb => exact ⟨iha hback _ _, ihb hback _ _⟩
  | conditional _ a b iha ihb => exact ⟨iha hback _ _, ihb hback _ _⟩
  | quantified _ _ _ _ ih =>
    refine ih (fun h => hback ?_) _ _
    rcases h with hearly | hfollowed
    · exact .inl hearly
    · exact (Bool.or_eq_true_iff.1 hfollowed).symm.imp Edition.eq_early_of_follows id
  | group _ _ ih => exact ih hback _ _
  | atomic _ ih => exact ih hback _ _
  | flagged _ _ _ ih => exact ih hback _ _
  | look _ _ _ ih =>
    intro hfollowed
    obtain rfl := hfollowed
    exact ⟨ih hback _ _, hback (.inr rfl)⟩

theorem advances_of_single? {edition : Edition} {n : Node} {f : Flags} {single : FlaggedTest}
    (h : n.single? f = some single) (hn : n.Within edition region followed f) :
    Search.Advances region single.holds := by
  induction n generalizing f with
  | char test =>
    obtain rfl := Option.some.inj h
    exact hn
  | flagged on off body ih => exact ih h hn
  | _ => exact absurd h (by simp [single?])

/-- Only a look ahead that refuses a character says something of the next one. -/
theorem permits_cases (f : Flags) (n : Node) :
    (∀ c, n.permits f c = true) ∨ ∃ test, n = look none true (char test) := by
  cases n with
  | look behind negated body =>
    match behind, negated, body with
    | none, true, char test => exact .inr ⟨test, rfl⟩
    | none, true, empty | none, true, anchor _ | none, true, backreference _
    | none, true, seq _ _ | none, true, alt _ _ | none, true, quantified _ _ _ _
    | none, true, group _ _ | none, true, flagged _ _ _ | none, true, atomic _
    | none, true, look _ _ _ | none, true, conditional _ _ _ => exact .inl fun _ => rfl
    | none, false, _ => exact .inl fun _ => rfl
    | some _, _, _ => exact .inl fun _ => rfl
  | _ => exact .inl fun _ => rfl

/-- Where a test fails, the next character does not pass it. -/
theorem holds_of_first_failed {test : CharTest} {s : Setting} {t u : Trail}
    (h : Search.first ((char test).run s) p t = .failed u) :
    ∀ c q, p.forward? = some (c, q) → test.holds s.flags c = false := by
  intro c q hnext
  rw [Search.first, run, hnext] at h
  dsimp only at h
  split at h
  · exact absurd h (by simp)
  · rename_i hpass
    exact Bool.eq_false_iff.2 hpass

/-- A test moves on to a point of the region. -/
theorem char_ends {test : CharTest} {s : Setting} {next : Char → Bool}
    {k : Point → Trail → Outcome}
    (hn : (char test).WithinAfter s.edition region followed s.flags next)
    (hp : region p) (hnext : p.NextPasses next) (ht : Holds region known followed t)
    (hk : Search.Follows region known followed found k) :
    ((char test).run s p t k).Ends (Holds region known followed) found := by
  rw [run]
  cases hforward : p.forward? with
  | none => exact ht
  | some step =>
    obtain ⟨c, q⟩ := step
    dsimp only
    split
    · rename_i hpass
      have hq : region q := by
        apply hn p c q hp hforward
        show (next c && test.holds s.flags c) = true
        rw [hnext c q hforward, hpass]
        rfl
      exact hk q t hq ht
    · exact ht

/-- The body of a look around is searched from another point, where the spot is not followed
anywhere. -/
theorem first_of_look {behind : Option Width} {body : Node} {s : Setting}
    (hn : followed = true → body.Within s.edition region true s.flags ∧ Retreats region)
    (hbody : ∀ {region : Point → Prop} {followed : Bool}, body.Within s.edition region followed s.flags →
      (body.run s.inner).Keeps region known followed) (hp : region p)
    (ht : Holds region known followed t) (q : Point)
    (hq : behind.elim (some p) (fun w => p.back? w.least) = some q) :
    (Search.first (body.run s.inner) q t).Ends (Holds region known followed)
      (Holds region known followed) := by
  cases followed with
  | true =>
    obtain ⟨hwithin, hback⟩ := hn rfl
    have hregion : region q := by
      cases behind with
      | none => exact Option.some.inj hq ▸ hp
      | some w => exact hback p w.least q hp hq
    exact (hbody hwithin).first hregion ht
  | false =>
    have hwithin : body.Within s.edition (fun _ => True) false s.flags :=
      within_of_closed (fun _ _ _ => trivial) (fun _ _ _ _ _ _ => trivial) body s.flags
    have h := (hbody hwithin).first (p := q) trivial ⟨nofun, ht.marks⟩
    exact h.mono (fun u hu => ⟨nofun, hu.marks⟩) fun u hu => ⟨nofun, hu.marks⟩

/-- A look around goes on from where it stands, with what it says of the next character. -/
theorem look_ends {behind : Option Width} {negated : Bool} {body : Node} {s : Setting}
    {k : Point → Trail → Outcome} (ht : Holds region known followed t)
    (hfirst : ∀ q, behind.elim (some p) (fun w => p.back? w.least) = some q →
      (Search.first (body.run s.inner) q t).Ends (Holds region known followed)
        (Holds region known followed))
    (hk : ∀ u, Holds region known followed u →
      p.NextPasses ((look behind negated body).permits s.flags) →
      (k p u).Ends (Holds region known followed) found) :
    ((look behind negated body).run s p t k).Ends (Holds region known followed) found := by
  have hpass (h : ∀ test, behind = none → negated = true → body = char test →
      p.NextPasses fun c => !test.holds s.flags c) :
      p.NextPasses ((look behind negated body).permits s.flags) := by
    rcases permits_cases s.flags (look behind negated body) with htrue | ⟨test, he⟩
    · exact fun c _ _ => htrue c
    · obtain ⟨rfl, rfl, rfl⟩ := look.inj he
      exact h test rfl rfl rfl
  rw [run]
  split
  · rename_i q hq
    have h := hfirst q hq
    cases hr : Search.first (body.run s.inner) q t with
    | matched u =>
      rw [hr] at h
      dsimp only
      split
      · exact h
      · rename_i hnegated
        exact hk u h (hpass fun _ _ he _ => absurd he hnegated)
    | failed u =>
      rw [hr] at h
      dsimp only
      split
      · apply hk _ (Holds.undo h ht s.repeated)
        apply hpass
        rintro test rfl - rfl c r hnext
        obtain rfl := Option.some.inj hq
        have hfails := holds_of_first_failed hr c r hnext
        exact congrArg Bool.not hfails
      · exact h
  · rename_i hnone
    split
    · exact hk t ht (hpass fun _ he _ _ => absurd hnone (by simp [he]))
    · exact ht

/-- The second of two alternatives is tried from where the first has failed. -/
theorem alt_ends {a b : Node} {s : Setting} {k : Point → Trail → Outcome}
    (ha : (a.run s.inner).Keeps region known followed)
    (hb : (b.run s.inner).Keeps region known followed)
    (hlast : ∀ u, Holds region known followed u →
      (b.run s p u k).Ends (Holds region known followed) found)
    (hp : region p) (ht : Holds region known followed t)
    (hk : Search.Follows region known followed found k) :
    ((alt a b).run s p t k).Ends (Holds region known followed) found := by
  have hfirst : ((a.run s.inner).alternative s.repeated (a.lead s.flags none)).Keeps region known
      followed := Search.Keeps.alternative ha _ _
  have hsecond : ((b.run s.inner).alternative s.repeated (b.lead s.flags none)).Keeps region known
      followed := Search.Keeps.alternative hb _ _
  rw [run]
  apply (hfirst found p t k hp ht hk).orElse
  intro u hu
  split
  · exact hlast u hu
  · exact hsecond found p u k hp hu hk

/-- What follows an atomic group goes on from its first match only. -/
theorem atomic_ends {body : Node} {s : Setting} {k : Point → Trail → Outcome}
    (hbody : (body.run s.inner).Keeps region known followed) (hp : region p)
    (ht : Holds region known followed t) (hk : Search.Follows region known followed found k) :
    ((atomic body).run s p t k).Ends (Holds region known followed) found := by
  have hfirst := hbody.first hp ht
  rw [run]
  cases hr : Search.first (body.run s.inner) p t with
  | matched u =>
    rw [hr] at hfirst
    exact hk _ u (hfirst.spot rfl) hfirst.unfollow
  | failed u =>
    rw [hr] at hfirst
    exact Holds.note hfirst hp

/-- A tree within a region keeps to it, and to the marks of the groups before its own. -/
theorem run_ends (n : Node) {region : Point → Prop} {followed : Bool} (s : Setting) {first : Nat}
    {next : Char → Bool} {found : Trail → Prop} {p : Point} {t : Trail}
    {k : Point → Trail → Outcome} (hn : n.WithinAfter s.edition region followed s.flags next)
    (hgroups : n.GroupsFrom first) (hknown : ∀ m ∈ known, m.1 < 2 * first - 2) (hp : region p)
    (hnext : p.NextPasses next) (ht : Holds region known followed t)
    (hk : Search.Follows region known followed found k) :
    (n.run s p t k).Ends (Holds region known followed) found := by
  have hany (p : Point) : p.NextPasses fun _ => true := fun _ _ _ => rfl
  induction n generalizing region followed s next found p t k with
  | empty => exact hk p t hp ht
  | char test => exact char_ends hn hp hnext ht hk
  | anchor a =>
    rw [run]
    split
    · exact hk p t hp ht
    · exact ht
  | backreference g =>
    rw [run]
    split
    · split
      · exact hk _ t (hn p _ hp) ht
      · exact ht
    · exact ht
  | seq a b iha ihb =>
    rw [run]
    rcases permits_cases s.flags a with htrue | ⟨test, rfl⟩
    · apply iha { s with next := b.lead s.flags s.next } hn.1 hgroups.1 hp hnext ht
      intro q u hq hu
      exact ihb s hn.2 hgroups.2 hq (fun c _ _ => htrue c) hu hk
    · -- the look ahead goes on where the next character does not pass its test
      let ahead : Setting := { s with next := b.lead s.flags s.next }
      have hbody {region : Point → Prop} {followed : Bool}
          (h : (char test).Within s.edition region followed s.flags) :
          ((char test).run ahead.inner).Keeps region known followed := by
        intro found p t k hp ht hk
        exact char_ends h hp (hany p) ht hk
      apply look_ends (s := ahead) ht (first_of_look hn.1 hbody hp ht)
      intro u hu hpass
      exact ihb s hn.2 hgroups.2 hp hpass hu hk
  | alt a b iha ihb =>
    apply alt_ends _ _ _ hp ht hk
    · intro found p t k hp ht hk
      exact iha s.inner hn.1 hgroups.1 hp (hany p) ht hk
    · intro found p t k hp ht hk
      exact ihb s.inner hn.2 hgroups.2 hp (hany p) ht hk
    · intro u hu
      exact ihb s hn.2 hgroups.2 hp (hany p) hu hk
  | quantified mode least most body ih =>
    cases hsingle : body.single? s.flags with
    | some single =>
      have hadvance := advances_of_single? hsingle hn
      rw [run_quantified_characters hsingle]
      exact Search.keeps_characters single hadvance s.repeated s.next mode least most
        found p t k hp ht hk
    | none =>
      have hbody : (body.run (s.copied mode)).Keeps region known
          (followed || s.edition.follows mode) := by
        intro found p t k hp ht hk
        exact ih (s.copied mode) hn hgroups hp (hany p) ht hk
      rw [run_quantified_copies hsingle]
      exact hbody.copies s.repeated least most found p t k hp ht hk
  | group i body ih =>
    rw [run]
    apply ih s.inner hn hgroups.2 hp (hany p) (ht.enter_of_le hknown hgroups.1 p)
    intro q u hq hu
    exact hk q _ hq (hu.leave_of_le hknown hgroups.1 q)
  | flagged on off body ih =>
    exact ih { s with flags := s.flags.update on off } hn hgroups hp (hany p) ht hk
  | atomic body ih =>
    refine atomic_ends ?_ hp ht hk
    intro found p t k hp ht hk
    exact ih s.inner hn hgroups hp (hany p) ht hk
  | look behind negated body ih =>
    have hbody {region : Point → Prop} {followed : Bool}
        (h : body.Within s.edition region followed s.flags) :
        (body.run s.inner).Keeps region known followed := by
      intro found p t k hp ht hk
      exact ih s.inner h hgroups hp (hany p) ht hk
    apply look_ends ht (first_of_look hn hbody hp ht)
    intro u hu _
    exact hk p u hp hu
  | conditional g yes no ihyes ihno =>
    rw [run]
    split
    · exact ihyes { s with next := if no = .empty then s.next else none } hn.1 hgroups.1 hp
        (hany p) ht hk
    · exact ihno s hn.2 hgroups.2 hp (hany p) ht hk

theorem run_keeps (n : Node) (s : Setting) {first : Nat}
    (hn : n.Within s.edition region followed s.flags) (hgroups : n.GroupsFrom first)
    (hknown : ∀ m ∈ known, m.1 < 2 * first - 2) : (n.run s).Keeps region known followed := by
  intro found p t k hp ht hk
  exact n.run_ends s hn hgroups hknown hp (fun _ _ _ => rfl) ht hk

end Node

end

end PathRouter.Regex

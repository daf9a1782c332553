import PathRouter.Proofs.SearchInvariant

/-!
# Searches that look ahead

A tree that looks at nothing before the point where it is tried is searched in the same way whatever
text stands before that point. The two searches may differ in how many optional copies they allow
for, since that depends on the length of the whole text; but each copy that is followed by another
one moves on, so that neither is cut short.
-/

namespace PathRouter.Regex
set_option autoImplicit false

/-! ## The same point in a longer text -/

namespace Point

/-- The point of a longer text, with `front` before the text, nearest first. -/
def behind (front : Text) (p : Point) : Point :=
  ⟨p.before ++ front, p.after⟩

variable (front : Text) (p q : Point)

@[simp] theorem behind_after : (p.behind front).after = p.after := rfl

@[simp] theorem behind_position : (p.behind front).position = p.position + front.length :=
  List.length_append

theorem behind_skip (n : Nat) : (p.behind front).skip n = (p.skip n).behind front := by
  simp [behind, skip]

theorem behind_forward? :
    (p.behind front).forward? = p.forward?.map fun (c, q) => (c, q.behind front) := by
  unfold forward?
  cases hafter : p.after with
  | nil => simp [hafter]
  | cons c rest => simp [hafter, behind]

theorem behind_run (passes : Char → Bool) (most : Option Nat) :
    (p.behind front).run passes most =
      ((p.run passes most).1, (p.run passes most).2.behind front) := by
  have hgo : ∀ (rest : Text) (n : Nat) (before : Text),
      run.go passes most n (before ++ front) rest =
        ((run.go passes most n before rest).1, (run.go passes most n before rest).2.behind front) := by
    intro rest
    induction rest with
    | nil => intro n before; rfl
    | cons c rest ih =>
      intro n before
      rw [run.go, run.go]
      split
      · exact ih (n + 1) (c :: before)
      · rfl
  exact hgo p.after 0 p.before

theorem behind_textTo : (p.behind front).textTo (q.behind front) = p.textTo q := by
  simp only [textTo, behind_position, behind_after, Nat.add_sub_add_right]

/-- A position of a text is the start of the rest of it, behind what comes before. -/
theorem ofText_eq_behind (text : Text) (n : Nat) :
    ofText text n = (ofText (text.drop n) 0).behind (text.take n).reverse := by
  simp [ofText, behind]

/-! ## Points ahead -/

/-- The second point is reached from the first by skipping characters. -/
def IsAhead (p q : Point) : Prop :=
  ∃ n, q = p.skip n

variable {p q}

namespace IsAhead

theorem refl (p : Point) : p.IsAhead p :=
  ⟨0, rfl⟩

theorem skip (h : p.IsAhead q) (n : Nat) : p.IsAhead (q.skip n) := by
  obtain ⟨m, rfl⟩ := h
  exact ⟨m + n, p.skip_skip m n⟩

theorem trans {r : Point} (h : p.IsAhead q) (hr : q.IsAhead r) : p.IsAhead r := by
  obtain ⟨n, rfl⟩ := hr
  exact h.skip n

theorem forward {c : Char} (h : p.forward? = some (c, q)) : p.IsAhead q := by
  cases hafter : p.after with
  | nil => simp [forward?_nil hafter] at h
  | cons d rest =>
    rw [forward?_cons hafter] at h
    obtain ⟨-, rfl⟩ := Prod.mk.inj (Option.some.inj h)
    exact ⟨1, rfl⟩

/-- A point ahead is the same one, or less text follows it. -/
theorem eq_or_lt (h : p.IsAhead q) : q = p ∨ q.after.length < p.after.length := by
  obtain ⟨n, rfl⟩ := h
  cases hafter : p.after with
  | nil =>
    left
    rw [← p.skip_length_take, hafter, List.take_nil]
    rfl
  | cons c rest =>
    cases n with
    | zero => exact .inl rfl
    | succ n =>
      right
      simp only [skip_after, hafter, List.length_drop, List.length_cons]
      omega

end IsAhead

end Point

namespace Trail

/-- The trail of a longer text. -/
def behind (front : Text) (t : Trail) : Trail :=
  ⟨t.spot.behind front, t.marks.map (Option.map (Point.behind front))⟩

variable (front : Text) (t : Trail) (p : Point)

@[simp] theorem behind_spot : (t.behind front).spot = t.spot.behind front := rfl

theorem behind_note : (t.behind front).note (p.behind front) = (t.note p).behind front := rfl

theorem behind_mark (index : Nat) :
    (t.behind front).mark index (p.behind front) = (t.mark index p).behind front := by
  unfold mark behind
  simp only [List.length_map, mk.injEq, true_and]
  split
  · rw [List.map_set]
    rfl
  · simp

theorem behind_undo (repeated : Bool) (old : Trail) :
    (t.behind front).undo repeated (old.behind front) = (t.undo repeated old).behind front := by
  cases repeated <;> simp [undo, behind, List.map_take]

theorem behind_span? (group : Nat) :
    (t.behind front).span? group =
      (t.span? group).map fun (p, q) => (p.behind front, q.behind front) := by
  have hmark (i : Nat) : (t.behind front).marks[i]?.join =
      t.marks[i]?.join.map (Point.behind front) := by
    show (t.marks.map _)[i]?.join = _
    rw [List.getElem?_map]
    cases t.marks[i]? with
    | none => rfl
    | some m => rfl
  have hspan (u : Trail) : u.span? group =
      u.marks[2 * group - 2]?.join.bind fun p => u.marks[2 * group - 1]?.join.map fun q => (p, q) := by
    unfold span?
    cases u.marks[2 * group - 2]? with
    | none => rfl
    | some m =>
      cases m with
      | none => rfl
      | some p =>
        cases u.marks[2 * group - 1]? with
        | none => rfl
        | some m => cases m <;> rfl
  rw [hspan, hspan, hmark, hmark]
  cases t.marks[2 * group - 2]?.join with
  | none => rfl
  | some p => cases t.marks[2 * group - 1]?.join <;> rfl

theorem behind_captured? (group : Nat) :
    (t.behind front).captured? group = t.captured? group := by
  unfold captured?
  rw [behind_span?]
  cases t.span? group with
  | none => rfl
  | some span =>
    obtain ⟨p, q⟩ := span
    simp [Point.behind_textTo]

end Trail

/-! ## Searches -/

/-- Two outcomes are the same but for the text before, a success with a trail as `found` says and a
failure with a spot ahead of the origin. -/
inductive Outcome.Agrees (front : Text) (origin : Point) (found : Trail → Prop) :
    Outcome → Outcome → Prop
  | matched {t : Trail} : found t →
      Agrees front origin found (.matched t) (.matched (t.behind front))
  | failed {t : Trail} : origin.IsAhead t.spot →
      Agrees front origin found (.failed t) (.failed (t.behind front))

section

variable {front : Text} {origin p : Point} {found : Trail → Prop} {t old : Trail} {o o' : Outcome}

namespace Outcome

theorem Agrees.orElse {other other' : Trail → Outcome} (h : o.Agrees front origin found o')
    (hother : ∀ u, origin.IsAhead u.spot →
      (other u).Agrees front origin found (other' (u.behind front))) :
    (o.orElse other).Agrees front origin found (o'.orElse other') := by
  cases h with
  | matched ht => exact .matched ht
  | failed hspot => exact hother _ hspot

theorem Agrees.failingAt (h : o.Agrees front origin found o') (hp : origin.IsAhead p) :
    (o.failingAt p).Agrees front origin found (o'.failingAt (p.behind front)) :=
  h.orElse fun _ _ => .failed hp

end Outcome

namespace Search

/-- What follows from a point and the points ahead of it does not depend on the text before. -/
def AgreesFrom (front : Text) (origin : Point) (found : Trail → Prop) (p : Point)
    (k k' : Point → Trail → Outcome) : Prop :=
  ∀ q u, p.IsAhead q → origin.IsAhead u.spot →
    (k q u).Agrees front origin found (k' (q.behind front) (u.behind front))

/-- A search does not depend on the text before, if what has to follow does not. -/
def IsLocal (front : Text) (s : Search) : Prop :=
  ∀ (origin : Point) (found : Trail → Prop) (p : Point) (t : Trail)
    (k k' : Point → Trail → Outcome), origin.IsAhead p → origin.IsAhead t.spot →
    AgreesFrom front origin found p k k' →
    (s p t k).Agrees front origin found (s (p.behind front) (t.behind front) k')

variable {s : Search} {k k' : Point → Trail → Outcome}

theorem AgreesFrom.here (hk : AgreesFrom front origin found p k k') (ht : origin.IsAhead t.spot) :
    (k p t).Agrees front origin found (k' (p.behind front) (t.behind front)) :=
  hk p t (.refl p) ht

theorem AgreesFrom.ahead (hk : AgreesFrom front origin found p k k') {q : Point}
    (hq : p.IsAhead q) : AgreesFrom front origin found q k k' :=
  fun r u hr hu => hk r u (hq.trans hr) hu

theorem AgreesFrom.noted (hk : AgreesFrom front origin found p k k') (hp : origin.IsAhead p)
    (t : Trail) :
    (k p (t.note p)).Agrees front origin found
      (k' (p.behind front) ((t.behind front).note (p.behind front))) :=
  hk.here (t := t.note p) hp

/-- The first way of a search ends ahead of where it starts, and so does what a failure notes. -/
theorem IsLocal.first (h : s.IsLocal front) (p : Point) (t : Trail) :
    (s.first p t).Agrees front p (fun u => p.IsAhead u.spot)
      (s.first (p.behind front) (t.behind front)) := by
  apply h p _ p (t.note p) _ _ (.refl p) (.refl p)
  intro q u hq _
  exact .matched (t := u.note q) hq

theorem AgreesFrom.onward (hk : AgreesFrom front origin found p k k') (hp : origin.IsAhead p)
    (ht : origin.IsAhead t.spot) (repeated : Bool) (next : Option FlaggedTest) (old : Trail) :
    (onward repeated next old k p t).Agrees front origin found
      (onward repeated next (old.behind front) k' (p.behind front) (t.behind front)) := by
  have hnext : (next.all fun test => test.holdsAfter (p.behind front)) =
      next.all fun test => test.holdsAfter p := rfl
  unfold Search.onward
  rw [hnext]
  split
  · have h := hk.noted hp t
    generalize k p (t.note p) = o at h
    generalize k' (p.behind front) ((t.behind front).note (p.behind front)) = o' at h
    cases h with
    | matched ht => exact .matched ht
    | failed hspot =>
      dsimp only
      rw [Trail.behind_undo]
      exact .failed hspot
  · exact .failed ht

theorem IsLocal.alternative (h : s.IsLocal front) (repeated : Bool) (lead : Option FlaggedTest) :
    (s.alternative repeated lead).IsLocal front := by
  intro origin found p t k k' hp ht hk
  have hs : AgreesFrom front origin found p (fun q u => s q u k) fun q u => s q u k' := by
    intro q u hq hu
    obtain hp' := hp.trans hq
    exact h origin found q u k k' hp' hu (hk.ahead hq)
  exact hs.onward hp ht repeated lead t

/-! ### Copies -/

theorem IsLocal.times (h : s.IsLocal front) (n : Nat) : (s.times n).IsLocal front := by
  induction n with
  | zero =>
    intro origin found p t k k' hp ht hk
    exact hk.here ht
  | succ n ih =>
    intro origin found p t k k' hp ht hk
    apply Outcome.Agrees.failingAt _ hp
    apply h origin found p (t.note p) _ _ hp hp
    intro q u hq hu
    exact ih origin found q u k k' (hp.trans hq) hu (hk.ahead hq)

/-- Two counts of copies allow for the same: they are equal, or more than the characters that
follow. -/
def SameFuel (p : Point) (n m : Nat) : Prop :=
  n = m ∨ p.after.length < n ∧ p.after.length < m

theorem SameFuel.next {n m : Nat} (h : SameFuel p (n + 1) (m + 1)) {q : Point} (hq : p.IsAhead q)
    (hne : q ≠ p) : SameFuel q n m := by
  have hlt := (hq.eq_or_lt).resolve_left hne
  unfold SameFuel at h ⊢
  omega

/-- Where the copy before this one started, in the longer text. -/
def lastBehind (front : Text) (last : Option Nat) : Option Nat :=
  last.map (· + front.length)

theorem lastBehind_eq_iff {last : Option Nat} :
    lastBehind front last = some (p.behind front).position ↔ last = some p.position := by
  cases last with
  | none => simp [lastBehind]
  | some n => simp [lastBehind]

/-- No copy is tried where the one before it started. -/
theorem greedy_last (s : Search) (n : Nat) (p : Point) (t : Trail)
    (k : Point → Trail → Outcome) :
    s.greedy n (some p.position) p t k = (k p (t.note p)).failingAt p := by
  cases n with
  | zero => rfl
  | succ n => rw [greedy, if_pos rfl]

theorem lazy_last (s : Search) (repeated : Bool) (n : Nat) (p : Point) (t : Trail)
    (k : Point → Trail → Outcome) :
    s.lazy repeated n (some p.position) p t k =
      (k p (t.note p)).orElse fun u => .failed ((u.undo repeated t).note p) := by
  cases n with
  | zero => rfl
  | succ n => simp only [Search.lazy, if_true]

theorem firstMost_last (s : Search) (edition : Edition) (n : Nat) (t : Trail) :
    s.firstMost edition n (some t.spot.position) t = t := by
  cases n with
  | zero => rfl
  | succ n => rw [firstMost, if_pos rfl]

theorem IsLocal.greedy (h : s.IsLocal front) {n m : Nat} (hfuel : SameFuel p n m)
    (last : Option Nat) (hp : origin.IsAhead p) (hk : AgreesFrom front origin found p k k') :
    (s.greedy n last p t k).Agrees front origin found
      (s.greedy m (lastBehind front last) (p.behind front) (t.behind front) k') := by
  have hstop {p : Point} (hp : origin.IsAhead p) (hk : AgreesFrom front origin found p k k')
      (t : Trail) := (hk.noted hp t).failingAt hp
  induction n generalizing m last p t with
  | zero =>
    obtain rfl : m = 0 := by unfold SameFuel at hfuel; omega
    exact hstop hp hk t
  | succ n ih =>
    obtain ⟨m, rfl⟩ : ∃ i, m = i + 1 := ⟨m - 1, by unfold SameFuel at hfuel; omega⟩
    rw [Search.greedy, Search.greedy]
    by_cases hlast : last = some p.position
    · rw [if_pos hlast, if_pos (lastBehind_eq_iff.2 hlast)]
      exact hstop hp hk t
    · rw [if_neg hlast, if_neg (mt lastBehind_eq_iff.1 hlast)]
      refine Outcome.Agrees.orElse ?_ fun _ _ => hstop hp hk t
      apply h origin found p (t.note p) _ _ hp hp
      intro q u hq hu
      have hposition : some (p.behind front).position = lastBehind front (some p.position) :=
        (lastBehind_eq_iff.2 rfl).symm
      dsimp only
      by_cases hne : q = p
      · subst hne
        rw [greedy_last, greedy_last]
        exact hstop hp hk u
      · rw [hposition]
        exact ih (hfuel.next hq hne) _ (hp.trans hq) (hk.ahead hq)

theorem IsLocal.lazy (h : s.IsLocal front) (repeated : Bool) {n m : Nat} (hfuel : SameFuel p n m)
    (last : Option Nat) (hp : origin.IsAhead p) (hk : AgreesFrom front origin found p k k') :
    (s.lazy repeated n last p t k).Agrees front origin found
      (s.lazy repeated m (lastBehind front last) (p.behind front) (t.behind front) k') := by
  induction n generalizing m last p t with
  | zero =>
    obtain rfl : m = 0 := by unfold SameFuel at hfuel; omega
    apply (hk.noted hp t).orElse
    intro u _
    rw [Trail.behind_undo]
    exact .failed hp
  | succ n ih =>
    obtain ⟨m, rfl⟩ : ∃ i, m = i + 1 := ⟨m - 1, by unfold SameFuel at hfuel; omega⟩
    rw [Search.lazy, Search.lazy]
    apply (hk.noted hp t).orElse
    intro u _
    rw [Trail.behind_undo]
    dsimp only
    by_cases hlast : last = some p.position
    · rw [if_pos hlast, if_pos (lastBehind_eq_iff.2 hlast)]
      exact .failed hp
    · rw [if_neg hlast, if_neg (mt lastBehind_eq_iff.1 hlast)]
      apply Outcome.Agrees.failingAt _ hp
      apply h origin found p ((u.undo repeated t).note p) _ _ hp hp
      intro q w hq hw
      have hposition : some (p.behind front).position = lastBehind front (some p.position) :=
        (lastBehind_eq_iff.2 rfl).symm
      dsimp only
      by_cases hne : q = p
      · subst hne
        rw [lazy_last, lazy_last]
        apply (hk.noted hp w).orElse
        intro v _
        rw [Trail.behind_undo]
        exact .failed hp
      · rw [hposition]
        exact ih (hfuel.next hq hne) _ (hp.trans hq) (hk.ahead hq)

theorem IsLocal.firstTimes (h : s.IsLocal front) (n : Nat) (ht : origin.IsAhead t.spot) :
    (s.firstTimes n t).Agrees front origin (fun u => t.spot.IsAhead u.spot)
      (s.firstTimes n (t.behind front)) := by
  induction n generalizing t with
  | zero => exact .matched (.refl _)
  | succ n ih =>
    have hfirst := h.first t.spot t
    rw [Search.firstTimes, Search.firstTimes, Trail.behind_spot]
    generalize s.first t.spot t = o at hfirst
    generalize s.first (t.spot.behind front) (t.behind front) = o' at hfirst
    cases hfirst with
    | @matched u hu =>
      have hrest := ih (ht.trans hu)
      dsimp only
      generalize s.firstTimes n u = o at hrest
      generalize s.firstTimes n (u.behind front) = o' at hrest
      cases hrest with
      | matched hv => exact .matched (hu.trans hv)
      | failed hv => exact .failed hv
    | failed hu => exact .failed (ht.trans hu)

theorem IsLocal.firstMost (h : s.IsLocal front) (edition : Edition) {n m : Nat}
    (hfuel : SameFuel t.spot n m) (last : Option Nat) :
    t.spot.IsAhead (s.firstMost edition n last t).spot ∧
      s.firstMost edition m (lastBehind front last) (t.behind front) =
        (s.firstMost edition n last t).behind front := by
  induction n generalizing m last t with
  | zero =>
    obtain rfl : m = 0 := by unfold SameFuel at hfuel; omega
    exact ⟨.refl _, rfl⟩
  | succ n ih =>
    obtain ⟨m, rfl⟩ : ∃ i, m = i + 1 := ⟨m - 1, by unfold SameFuel at hfuel; omega⟩
    rw [Search.firstMost, Search.firstMost, Trail.behind_spot]
    by_cases hlast : last = some t.spot.position
    · rw [if_pos hlast, if_pos (lastBehind_eq_iff.2 hlast)]
      exact ⟨.refl _, rfl⟩
    · rw [if_neg hlast, if_neg (mt lastBehind_eq_iff.1 hlast)]
      have hfirst := h.first t.spot t
      generalize s.first t.spot t = o at hfirst
      generalize s.first (t.spot.behind front) (t.behind front) = o' at hfirst
      cases hfirst with
      | @matched u hu =>
        dsimp only
        have hposition : some (t.spot.behind front).position =
            lastBehind front (some t.spot.position) := (lastBehind_eq_iff.2 rfl).symm
        by_cases hne : u.spot = t.spot
        · rw [← hne, firstMost_last, ← Trail.behind_spot, firstMost_last]
          exact ⟨.refl _, rfl⟩
        · rw [hposition]
          obtain ⟨hspot, heq⟩ := ih (hfuel.next hu hne) (some t.spot.position)
          exact ⟨hu.trans hspot, heq⟩
      | failed hu =>
        cases edition with
        | early => exact ⟨hu, rfl⟩
        | current => exact ⟨.refl _, rfl⟩

theorem lt_square (n : Nat) : n < (n + 1) * (n + 1) := by
  rw [Nat.mul_succ]
  omega

theorem sameFuel_optional (least : Nat) (most : Option Nat) (p : Point) :
    SameFuel p (optional least most p) (optional least most (p.behind front)) := by
  cases most with
  | some m => exact .inl rfl
  | none =>
    have hle : p.after.length ≤ p.textLength := Nat.le_add_left ..
    have hle' : p.after.length ≤ (p.behind front).textLength := Nat.le_add_left ..
    exact .inr ⟨Nat.lt_of_le_of_lt hle (lt_square _), Nat.lt_of_le_of_lt hle' (lt_square _)⟩

theorem IsLocal.copies (h : s.IsLocal front) (edition : Edition) (repeated : Bool) (mode : Mode)
    (least : Nat) (most : Option Nat) :
    (s.copies edition repeated mode least most).IsLocal front := by
  intro origin found p t k k' hp ht hk
  unfold Search.copies
  cases mode with
  | greedy =>
    apply h.times least origin found p t _ _ hp ht
    intro q u hq _
    exact h.greedy (sameFuel_optional least most q) none (hp.trans hq) (hk.ahead hq)
  | lazy =>
    apply h.times least origin found p t _ _ hp ht
    intro q u hq _
    exact h.lazy repeated (sameFuel_optional least most q) none (hp.trans hq) (hk.ahead hq)
  | possessive =>
    have htimes := h.firstTimes (t := t.note p) least hp
    rw [← Trail.behind_note] at htimes
    dsimp only
    generalize s.firstTimes least (t.note p) = o at htimes
    generalize s.firstTimes least ((t.behind front).note (p.behind front)) = o' at htimes
    cases htimes with
    | @matched u hu =>
      let n := optional least most u.spot
      obtain ⟨hspot, heq⟩ :=
        h.firstMost edition (t := u) (sameFuel_optional least most u.spot) none
      have hmost : s.firstMost edition (optional least most (u.behind front).spot) none
          (u.behind front) = (s.firstMost edition n none u).behind front := heq
      dsimp only
      rw [hmost]
      have hahead : p.IsAhead (s.firstMost edition n none u).spot := hu.trans hspot
      exact hk _ _ hahead (hp.trans hahead)
    | failed _ => exact .failed hp

/-! ### Copies of a single character -/

theorem AgreesFrom.fewer (hk : AgreesFrom front origin found p k k') (repeated : Bool)
    (next : Option FlaggedTest) (old : Trail) {a n : Nat} (hn : a + n ≤ p.after.length)
    (hp : origin.IsAhead p) (ht : origin.IsAhead t.spot) :
    (Search.fewer repeated next old k n (p.skip (a + n)) t).Agrees front origin found
      (Search.fewer repeated next (old.behind front) k' n ((p.behind front).skip (a + n))
        (t.behind front)) := by
  induction n generalizing t with
  | zero =>
    have hahead : p.IsAhead (p.skip (a + 0)) := ⟨_, rfl⟩
    have h := (hk.ahead hahead).onward (hp.trans hahead) ht repeated next old
    rw [Point.behind_skip]
    unfold Search.fewer
    generalize Search.onward repeated next old k (p.skip (a + 0)) t = o at h
    generalize Search.onward repeated next (old.behind front) k' _ _ = o' at h
    cases h with
    | matched hu => exact .matched hu
    | failed hu => exact .failed hu
  | succ n ih =>
    have hahead : p.IsAhead (p.skip (a + (n + 1))) := ⟨_, rfl⟩
    have h := (hk.ahead hahead).onward (hp.trans hahead) ht repeated next old
    rw [← Point.behind_skip] at h
    unfold Search.fewer
    generalize Search.onward repeated next old k (p.skip (a + (n + 1))) t = o at h
    generalize Search.onward repeated next (old.behind front) k' _ _ = o' at h
    cases h with
    | matched hu => exact .matched hu
    | failed hu =>
      dsimp only
      rw [← Nat.add_assoc, Point.skip_backward (by omega), Point.skip_backward (by simp; omega)]
      exact ih (by omega) hu

theorem AgreesFrom.more (hk : AgreesFrom front origin found p k k') (repeated : Bool)
    (single : FlaggedTest) (old : Trail) (n : Nat) (hp : origin.IsAhead p) :
    (Search.more repeated single old k n p t).Agrees front origin found
      (Search.more repeated single (old.behind front) k' n (p.behind front) (t.behind front)) := by
  induction n generalizing p t with
  | zero =>
    rw [Search.more, Search.more, Point.behind_forward?]
    apply (hk.noted hp t).orElse
    intro u _
    rw [Trail.behind_undo]
    cases hnext : p.forward? with
    | none => exact .failed hp
    | some next =>
      obtain ⟨c, q⟩ := next
      have hq := Point.IsAhead.forward hnext
      simp only [Option.map_some]
      split
      · split
        · exact .failed (hp.trans hq)
        · exact .failed hp
      · exact .failed hp
  | succ n ih =>
    rw [Search.more, Search.more, Point.behind_forward?]
    apply (hk.noted hp t).orElse
    intro u _
    rw [Trail.behind_undo]
    cases hnext : p.forward? with
    | none => exact .failed hp
    | some next =>
      obtain ⟨c, q⟩ := next
      have hq := Point.IsAhead.forward hnext
      simp only [Option.map_some]
      split
      · split
        · exact ih (hk.ahead hq) (hp.trans hq)
        · exact ih (hk.ahead hq) (hp.trans hq)
      · exact .failed hp

theorem isLocal_characters (single : FlaggedTest) (repeated : Bool) (next : Option FlaggedTest)
    (mode : Mode) (least : Nat) (most : Option Nat) :
    (Search.characters single repeated next mode least most).IsLocal front := by
  intro origin found p t k k' hp ht hk
  have hahead : (p.behind front).hasAhead least = p.hasAhead least := rfl
  unfold Search.characters
  rw [hahead]
  split
  · exact .failed ht
  · rw [Point.behind_run]
    obtain ⟨hle, hend, -⟩ :=
      p.run_spec single.holds (if mode = .lazy then some least else most)
    generalize p.run single.holds (if mode = .lazy then some least else most) = run at *
    obtain ⟨count, q⟩ := run
    dsimp only at *
    subst hend
    have hq : p.IsAhead (p.skip count) := ⟨count, rfl⟩
    have hnote : (t.behind front).note
        (if single.isFolding then (p.skip count).behind front else p.behind front) =
          (t.note (if single.isFolding then p.skip count else p)).behind front := by
      split <;> rfl
    have hu : origin.IsAhead (t.note (if single.isFolding then p.skip count else p)).spot := by
      rw [Trail.note_spot]
      split
      · exact hp.trans hq
      · exact hp
    rw [hnote]
    split
    · exact .failed hu
    · cases mode with
      | greedy =>
        obtain ⟨n, rfl⟩ : ∃ n, count = least + n := ⟨count - least, by omega⟩
        dsimp only
        rw [Nat.add_sub_cancel_left, ← Point.behind_skip]
        exact hk.fewer repeated _ _ hle hp hu
      | lazy => exact (hk.ahead hq).more repeated single _ _ (hp.trans hq)
      | possessive => exact hk _ _ hq hu

end Search

end

/-! ## Trees -/

/-- Nothing in the tree looks at the text before the point where it is tried. -/
def Node.looksAhead : Node → Bool
  | empty | char _ | backreference _ | anchor .textEnd | anchor .lineEnd => true
  | anchor _ | look (some _) _ _ => false
  | seq a b | alt a b | conditional _ a b => a.looksAhead && b.looksAhead
  | quantified _ _ _ body | group _ body | flagged _ _ body | atomic body | look none _ body =>
    body.looksAhead

namespace Node

variable {front : Text}

theorem holds_behind {a : Anchor} (h : (anchor a).looksAhead = true) (f : Flags) (p : Point) :
    a.holds f (p.behind front) = a.holds f p := by
  cases a with
  | textEnd => rfl
  | lineEnd => rfl
  | _ => exact absurd h (by simp [looksAhead])

theorem isLocal_char (test : CharTest) (s : Setting) : ((char test).run s).IsLocal front := by
  intro origin found p t k k' hp ht hk
  rw [run, run, Point.behind_forward?]
  cases hnext : p.forward? with
  | none => exact .failed ht
  | some step =>
    obtain ⟨c, q⟩ := step
    simp only [Option.map_some]
    split
    · exact hk q t (.forward hnext) ht
    · exact .failed ht

theorem isLocal_backreference (g : Nat) (s : Setting) :
    ((backreference g).run s).IsLocal front := by
  intro origin found p t k k' hp ht hk
  rw [run, run, Trail.behind_captured?]
  cases t.captured? g with
  | none => exact .failed ht
  | some x =>
    simp only [Point.behind_after, Point.behind_skip]
    split
    · exact hk _ t ⟨_, rfl⟩ ht
    · exact .failed ht

theorem isLocal_look {negated : Bool} {body : Node} {s : Setting}
    (hbody : (body.run s.inner).IsLocal front) :
    ((look none negated body).run s).IsLocal front := by
  intro origin found p t k k' hp ht hk
  have hfirst := hbody.first p t
  rw [run, run]
  simp only [Option.elim_none]
  generalize Search.first (body.run s.inner) p t = o at hfirst
  generalize Search.first (body.run s.inner) (p.behind front) (t.behind front) = o' at hfirst
  cases hfirst with
  | @matched u hu =>
    dsimp only
    split
    · exact .failed (hp.trans hu)
    · exact hk.here (hp.trans hu)
  | @failed u hu =>
    dsimp only
    split
    · rw [Trail.behind_undo]
      exact hk.here (t := u.undo s.repeated t) (hp.trans hu)
    · exact .failed (hp.trans hu)

/-- A tree that looks ahead is searched in the same way behind any text. -/
theorem run_isLocal {n : Node} (h : n.looksAhead = true) (s : Setting) :
    (n.run s).IsLocal front := by
  induction n generalizing s with
  | empty =>
    intro origin found p t k k' hp ht hk
    exact hk.here ht
  | char test => exact isLocal_char test s
  | anchor a =>
    intro origin found p t k k' hp ht hk
    rw [run, run, holds_behind h]
    split
    · exact hk.here ht
    · exact .failed ht
  | backreference g => exact isLocal_backreference g s
  | seq a b iha ihb =>
    obtain ⟨ha, hb⟩ := Bool.and_eq_true_iff.1 h
    intro origin found p t k k' hp ht hk
    apply iha ha _ origin found p t _ _ hp ht
    intro q u hq hu
    exact ihb hb s origin found q u k k' (hp.trans hq) hu (hk.ahead hq)
  | alt a b iha ihb =>
    obtain ⟨ha, hb⟩ := Bool.and_eq_true_iff.1 h
    intro origin found p t k k' hp ht hk
    have hfirst := (iha ha s.inner).alternative s.repeated (a.lead s.flags none)
    have hsecond := (ihb hb s.inner).alternative s.repeated (b.lead s.flags none)
    rw [run, run]
    apply (hfirst origin found p t k k' hp ht hk).orElse
    intro u hu
    split
    · exact ihb hb s origin found p u k k' hp hu hk
    · exact hsecond origin found p u k k' hp hu hk
  | quantified mode least most body ih =>
    cases hsingle : body.single? s.flags with
    | some single =>
      rw [run_quantified_characters hsingle]
      exact Search.isLocal_characters single s.repeated s.next mode least most
    | none =>
      rw [run_quantified_copies hsingle]
      exact (ih h (s.copied mode)).copies s.edition s.repeated mode least most
  | group i body ih =>
    intro origin found p t k k' hp ht hk
    rw [run, run]
    have henter : (t.behind front).enter i (p.behind front) = (t.enter i p).behind front :=
      Trail.behind_mark front t p _
    rw [henter]
    apply ih h s.inner origin found p (t.enter i p) _ _ hp ht
    intro q u hq hu
    have hleave : (u.behind front).leave i (q.behind front) = (u.leave i q).behind front :=
      Trail.behind_mark front u q _
    dsimp only
    rw [hleave]
    exact hk q _ hq hu
  | flagged on off body ih => exact ih h { s with flags := s.flags.update on off }
  | atomic body ih =>
    intro origin found p t k k' hp ht hk
    have hfirst := (ih h s.inner).first p t
    rw [run, run]
    generalize Search.first (body.run s.inner) p t = o at hfirst
    generalize Search.first (body.run s.inner) (p.behind front) (t.behind front) = o' at hfirst
    cases hfirst with
    | @matched u hu => exact hk u.spot u hu (hp.trans hu)
    | failed _ => exact .failed hp
  | look around negated body ih =>
    cases around with
    | some w => exact absurd h (by simp [looksAhead])
    | none => exact isLocal_look (ih h s.inner)
  | conditional g yes no ihyes ihno =>
    obtain ⟨hyes, hno⟩ := Bool.and_eq_true_iff.1 h
    intro origin found p t k k' hp ht hk
    rw [run, run, Trail.behind_captured?]
    split
    · exact ihyes hyes _ origin found p t k k' hp ht hk
    · exact ihno hno s origin found p t k k' hp ht hk

end Node

end PathRouter.Regex

import PathRouter.Proofs.Points
import PathRouter.Regex.Match

/-!
# What a search chooses

A search tries ways on from a point and takes the first one that what follows succeeds from. For a
tree that refers to no group this can be said without trails: the marks that are left behind decide
nothing, and of the spots only those where a possessive quantifier or an atomic group has come to.
What is left is a choice, which is given what follows as a function from points to where it ends.
-/

namespace PathRouter.Regex
set_option autoImplicit false

/-- Chooses a way on from a point: the first whose end what follows accepts. -/
abbrev Choice := Point → (Point → Option Point) → Option Point

namespace Choice

/-- One character that passes a test. -/
def single (passes : Char → Bool) : Choice := fun p g =>
  match p.forward? with
  | some (c, q) => if passes c then g q else none
  | none => none

/-- `n` copies. -/
def times (c : Choice) : Nat → Choice
  | 0, p, g => g p
  | n + 1, p, g => c p fun q => times c n q g

/-- Up to `n` copies, more before fewer. The copy before this one started at `last`. -/
def greedy (c : Choice) : Nat → Option Nat → Choice
  | 0, _, p, g => g p
  | n + 1, last, p, g =>
    if last = some p.position then g p
    else (c p fun q => greedy c n (some p.position) q g).or (g p)

/-- Up to `n` copies, fewer before more. The copy before this one started at `last`. -/
def lazy (c : Choice) : Nat → Option Nat → Choice
  | 0, _, p, g => g p
  | n + 1, last, p, g =>
    (g p).or (if last = some p.position then none
      else c p fun q => lazy c n (some p.position) q g)

/-- Where `n` copies end, each the first way. -/
def firstTimes (c : Choice) : Nat → Point → Option Point
  | 0, p => some p
  | n + 1, p => (c p some).bind (firstTimes c n)

/-- Where up to `n` copies end, each the first way. The copy before this one started at `last`. -/
def firstMost (c : Choice) : Nat → Option Nat → Point → Point
  | 0, _, p => p
  | n + 1, last, p =>
    if last = some p.position then p
    else match c p some with
      | some q => firstMost c n (some p.position) q
      | none => p

/-- Between `least` and `most` copies. -/
def copies (c : Choice) (mode : Mode) (least : Nat) (most : Option Nat) : Choice := fun p g =>
  let optional := Search.optional least most
  match mode with
  | .greedy => c.times least p fun q => c.greedy (optional q) none q g
  | .lazy => c.times least p fun q => c.lazy (optional q) none q g
  | .possessive => (c.firstTimes least p).bind fun q => g (c.firstMost (optional q) none q)

end Choice

namespace Node

/-- The way on from a point that is chosen through a tree. Of what depends on the marks of groups
nothing is said: it chooses no way. -/
def choose (f : Flags) : Node → Choice
  | empty, p, g => g p
  | char test, p, g => Choice.single (test.holds f) p g
  | anchor a, p, g => if a.holds f p then g p else none
  | seq a b, p, g => a.choose f p fun q => b.choose f q g
  | alt a b, p, g => (a.choose f p g).or (b.choose f p g)
  | quantified mode least most body, p, g => Choice.copies (body.choose f) mode least most p g
  | group _ body, p, g => body.choose f p g
  | flagged on off body, p, g => body.choose (f.update on off) p g
  | atomic body, p, g => (body.choose f p some).bind g
  | look behind negated body, p, g =>
    match behind.elim (some p) (fun w => p.back? w.least) with
    | some q => if (body.choose f q some).isSome != negated then g p else none
    | none => if negated then g p else none
  | backreference _, _, _ | conditional _ _ _, _, _ => none

/-- Whether the tree matches depends on no mark of a group, in this edition of the engine. -/
def ignoresMarks (edition : Edition) : Node → Bool
  | empty | char _ | anchor _ => true
  | seq a b | alt a b => a.ignoresMarks edition && b.ignoresMarks edition
  | quantified mode least most body =>
    (edition == .current || mode != .possessive) && most.all (least ≤ ·) &&
      body.ignoresMarks edition
  | group _ body | flagged _ _ body | atomic body | look _ _ body => body.ignoresMarks edition
  | backreference _ | conditional _ _ _ => false

theorem ignoresMarks_quantified {edition : Edition} {mode : Mode} {least : Nat} {most : Option Nat}
    {body : Node} : (quantified mode least most body).ignoresMarks edition = true ↔
      (mode = .possessive → edition = .current) ∧ (∀ m, most = some m → least ≤ m) ∧
        body.ignoresMarks edition = true := by
  have hmost : most.all (fun m => decide (least ≤ m)) = true ↔ ∀ m, most = some m → least ≤ m := by
    cases most <;> simp
  have hmode : (edition == .current || mode != .possessive) = true ↔
      (mode = .possessive → edition = .current) := by
    cases edition <;> cases mode <;> decide
  rw [ignoresMarks, Bool.and_eq_true, Bool.and_eq_true, hmost, hmode, and_assoc]

end Node

/-! ## Searches that choose -/

/-- Where a success ends. -/
def Outcome.spot? (o : Outcome) : Option Point :=
  o.trail?.map (·.spot)

namespace Outcome

variable {o : Outcome}

@[simp] theorem spot?_matched (t : Trail) : (matched t).spot? = some t.spot := rfl

@[simp] theorem spot?_failed (t : Trail) : (failed t).spot? = none := rfl

theorem spot?_orElse {other : Trail → Outcome} {r : Option Point} (h : ∀ u, (other u).spot? = r) :
    (o.orElse other).spot? = o.spot?.or r := by
  cases o with
  | matched t => rfl
  | failed t => exact h t

@[simp] theorem spot?_failingAt (p : Point) : (o.failingAt p).spot? = o.spot? := by
  cases o with
  | matched t => rfl
  | failed t => rfl

end Outcome

/-- What follows ends where `g` tells, whatever the trail; and it does not succeed from a point where
the next character fails the test that has to follow. -/
structure Answers (next : Option FlaggedTest) (k : Point → Trail → Outcome)
    (g : Point → Option Point) : Prop where
  spot : ∀ q u, (k q u).spot? = g q
  refused : ∀ q, next.all (·.holdsAfter q) = false → g q = none

theorem Answers.of_spot {k : Point → Trail → Outcome} {g : Point → Option Point}
    (h : ∀ q u, (k q u).spot? = g q) : Answers none k g :=
  ⟨h, by simp⟩

theorem Answers.filter {next : Option FlaggedTest} {k : Point → Trail → Outcome}
    {g : Point → Option Point} (h : Answers next k g) (keeps : FlaggedTest → Bool) :
    Answers (next.filter keeps) k g := by
  refine ⟨h.spot, fun q hq => h.refused q ?_⟩
  cases next with
  | none => exact absurd hq (by simp)
  | some test =>
    rw [Option.filter_some] at hq
    split at hq
    · exact hq
    · exact absurd hq (by simp)

/-- The search ends where the choice tells. -/
def Search.Chooses (s : Search) (next : Option FlaggedTest) (c : Choice) : Prop :=
  ∀ (p : Point) (t : Trail) (k : Point → Trail → Outcome) (g : Point → Option Point),
    Answers next k g → (s p t k).spot? = c p g

namespace Search

variable {s : Search} {c : Choice} {next : Option FlaggedTest} {k : Point → Trail → Outcome}
variable {g : Point → Option Point}

theorem Chooses.followed (h : s.Chooses none c) (next : Option FlaggedTest) : s.Chooses next c :=
  fun p t k g hk => h p t k g (.of_spot hk.spot)

theorem Chooses.first (h : s.Chooses none c) (p : Point) (t : Trail) :
    (s.first p t).spot? = c p some :=
  h p _ _ _ (.of_spot fun _ _ => rfl)

/-- The test that has to follow is made ahead of what would fail it. -/
theorem onward_spot? (hk : Answers next k g) (repeated : Bool) (old : Trail) (p : Point)
    (t : Trail) : (onward repeated next old k p t).spot? = g p := by
  unfold onward
  split
  · rw [← hk.spot p (t.note p)]
    cases k p (t.note p) with
    | matched u => rfl
    | failed u => rfl
  · rename_i hfails
    rw [hk.refused p (by simpa using hfails)]
    rfl

/-! ### Copies -/

theorem Chooses.times (h : s.Chooses none c) (n : Nat) : (s.times n).Chooses none (c.times n) := by
  induction n with
  | zero => exact fun p t k g hk => hk.spot p t
  | succ n ih =>
    intro p t k g hk
    rw [Search.times, Outcome.spot?_failingAt]
    exact h p _ _ _ (.of_spot fun q u => ih q u k g hk)

theorem Chooses.greedy (h : s.Chooses none c) (n : Nat) (last : Option Nat) :
    (s.greedy n last).Chooses none (c.greedy n last) := by
  induction n generalizing last with
  | zero =>
    intro p t k g hk
    rw [Search.greedy, Outcome.spot?_failingAt]
    exact hk.spot p _
  | succ n ih =>
    intro p t k g hk
    have hstop (t : Trail) : ((k p (t.note p)).failingAt p).spot? = g p := by
      rw [Outcome.spot?_failingAt]
      exact hk.spot p _
    rw [Search.greedy, Choice.greedy]
    split
    · exact hstop t
    · rw [Outcome.spot?_orElse fun _ => hstop t,
        h p _ _ _ (.of_spot fun q u => ih (some p.position) q u k g hk)]

theorem Chooses.lazy (h : s.Chooses none c) (repeated : Bool) (n : Nat) (last : Option Nat) :
    (s.lazy repeated n last).Chooses none (c.lazy n last) := by
  induction n generalizing last with
  | zero =>
    intro p t k g hk
    rw [Search.lazy, Outcome.spot?_orElse fun u => Outcome.spot?_failed _, hk.spot]
    exact Option.or_none
  | succ n ih =>
    intro p t k g hk
    rw [Search.lazy, Choice.lazy]
    rw [Outcome.spot?_orElse (r := _) fun u => ?_, hk.spot]
    dsimp only
    split
    · rfl
    · rw [Outcome.spot?_failingAt]
      exact h p _ _ _ (.of_spot fun q u => ih (some p.position) q u k g hk)

theorem Chooses.firstTimes (h : s.Chooses none c) (n : Nat) (t : Trail) :
    (s.firstTimes n t).spot? = c.firstTimes n t.spot := by
  induction n generalizing t with
  | zero => rfl
  | succ n ih =>
    have hfirst := h.first t.spot t
    rw [Search.firstTimes, Choice.firstTimes, ← hfirst]
    cases s.first t.spot t with
    | matched u => exact ih u
    | failed u => rfl

theorem Chooses.firstMost (h : s.Chooses none c) (n : Nat) (last : Option Nat) (t : Trail) :
    (s.firstMost .current n last t).spot = c.firstMost n last t.spot := by
  induction n generalizing last t with
  | zero => rfl
  | succ n ih =>
    have hfirst := h.first t.spot t
    rw [Search.firstMost, Choice.firstMost, ← hfirst]
    split
    · rfl
    · cases s.first t.spot t with
      | matched u => exact ih _ u
      | failed u => rfl

theorem Chooses.copies (h : s.Chooses none c) {edition : Edition} {mode : Mode}
    (hmode : mode = .possessive → edition = .current) (repeated : Bool) (least : Nat)
    (most : Option Nat) :
    (s.copies edition repeated mode least most).Chooses none (c.copies mode least most) := by
  intro p t k g hk
  cases mode with
  | greedy =>
    exact h.times least p t _ _ (.of_spot fun q u => h.greedy _ none q u k g hk)
  | lazy =>
    exact h.times least p t _ _ (.of_spot fun q u => h.lazy repeated _ none q u k g hk)
  | possessive =>
    obtain rfl := hmode rfl
    have htimes := h.firstTimes least (t.note p)
    rw [Trail.note_spot] at htimes
    rw [Search.copies, Choice.copies, ← htimes]
    cases s.firstTimes least (t.note p) with
    | matched u =>
      dsimp only
      rw [hk.spot, h.firstMost]
      rfl
    | failed u => rfl

end Search

/-! ## Copies of a single character -/

/-- No character that passes the test comes next. -/
def StopsAt (passes : Char → Bool) (p : Point) : Prop :=
  ∀ c q, p.forward? = some (c, q) → passes c = false

/-- As many characters pass the test, of those that are asked for: all of them, or as many as there
are. -/
inductive RunsFor (passes : Char → Bool) : Nat → Nat → Point → Prop
  | full (p : Point) : RunsFor passes 0 0 p
  | stop {n : Nat} {p : Point} : StopsAt passes p → RunsFor passes n 0 p
  | step {n i : Nat} {c : Char} {p q : Point} : p.forward? = some (c, q) → passes c = true →
      RunsFor passes n i q → RunsFor passes (n + 1) (i + 1) p

theorem Point.position_forward {p q : Point} {c : Char} (h : p.forward? = some (c, q)) :
    q.position = p.position + 1 := by
  obtain ⟨⟨rest, hafter⟩, rfl⟩ := Point.forward?_eq_some h
  exact Point.skip_position (by simp [hafter])

theorem RunsFor.of_take {passes : Char → Bool} {n i : Nat} {p : Point} (hn : i ≤ n)
    (hall : ∀ c ∈ p.after.take i, passes c = true) (hle : i ≤ p.after.length)
    (hend : i = n ∨ StopsAt passes (p.skip i)) : RunsFor passes n i p := by
  induction i generalizing n p with
  | zero =>
    obtain rfl | hstop := hend
    · exact .full p
    · exact .stop hstop
  | succ i ih =>
    obtain ⟨m, rfl⟩ : ∃ m, n = m + 1 := ⟨n - 1, by omega⟩
    cases hafter : p.after with
    | nil => simp [hafter] at hle
    | cons c rest =>
      have hrest : (p.skip 1).after = rest := by simp [hafter]
      rw [hafter, List.take_succ_cons, List.forall_mem_cons] at hall
      rw [hafter, List.length_cons] at hle
      refine .step (Point.forward?_cons hafter) hall.1 (ih (by omega) ?_ ?_ ?_)
      · rw [hrest]
        exact hall.2
      · rw [hrest]
        omega
      · rw [Point.skip_skip, Nat.add_comm 1 i]
        exact hend.imp (fun he => by omega) id

namespace Choice

variable {passes : Char → Bool} {p q : Point} {c : Char} {g : Point → Option Point} {n i : Nat}

theorem single_forward (h : p.forward? = some (c, q)) :
    single passes p g = if passes c then g q else none := by
  rw [single, h]

theorem single_stop (h : StopsAt passes p) : single passes p g = none := by
  unfold single
  split
  · rename_i c q hnext
    rw [h c q hnext]
    rfl
  · rfl

theorem single_bind (passes : Char → Bool) (p : Point) (g : Point → Option Point) :
    (single passes p some).bind g = single passes p g := by
  unfold single
  split
  · split
    · rfl
    · rfl
  · rfl

theorem times_single (hle : n ≤ p.after.length) (hall : ∀ c ∈ p.after.take n, passes c = true) :
    (single passes).times n p g = g (p.skip n) := by
  induction n generalizing p with
  | zero => rfl
  | succ n ih =>
    cases hafter : p.after with
    | nil => simp [hafter] at hle
    | cons c rest =>
      have hrest : (p.skip 1).after = rest := by simp [hafter]
      rw [hafter, List.take_succ_cons, List.forall_mem_cons] at hall
      rw [hafter, List.length_cons] at hle
      rw [times, single_forward (Point.forward?_cons hafter), if_pos hall.1,
        ih (by rw [hrest]; omega) (by rw [hrest]; exact hall.2), Point.skip_skip, Nat.add_comm]

theorem times_single_eq_none
    (h : ¬(n ≤ p.after.length ∧ ∀ c ∈ p.after.take n, passes c = true)) :
    (single passes).times n p g = none := by
  induction n generalizing p with
  | zero => exact absurd ⟨Nat.zero_le _, by simp⟩ h
  | succ n ih =>
    rw [times]
    cases hafter : p.after with
    | nil => rw [single, Point.forward?_nil hafter]
    | cons c rest =>
      have hrest : (p.skip 1).after = rest := by simp [hafter]
      rw [single_forward (Point.forward?_cons hafter)]
      split
      · rename_i hc
        apply ih
        rintro ⟨hle, hall⟩
        rw [hrest] at hle hall
        refine h ⟨by rw [hafter]; exact Nat.succ_le_succ hle, ?_⟩
        rw [hafter, List.take_succ_cons, List.forall_mem_cons]
        exact ⟨hc, hall⟩
      · rfl

/-- A character has no second way, so it does not matter that the first way is kept. -/
theorem firstTimes_single (n : Nat) (p : Point) :
    (single passes).firstTimes n p = (single passes).times n p some := by
  induction n generalizing p with
  | zero => rfl
  | succ n ih => rw [firstTimes, times, single_bind, funext ih]

theorem firstMost_single (h : RunsFor passes n i p) {last : Option Nat}
    (hlast : last ≠ some p.position) : (single passes).firstMost n last p = p.skip i := by
  induction h generalizing last with
  | full p => rfl
  | @stop n p hstop =>
    cases n with
    | zero => rfl
    | succ n =>
      rw [firstMost, if_neg hlast, single_stop hstop]
      rfl
  | @step n i c p q hnext hc _ ih =>
    have hposition := Point.position_forward hnext
    rw [firstMost, if_neg hlast, single_forward hnext, if_pos hc]
    dsimp only
    rw [ih (by simp [hposition]), (Point.forward?_eq_some hnext).2, Point.skip_skip, Nat.add_comm]

/-- Goes on after `n` characters, and failing that after fewer. -/
def descending (p : Point) (g : Point → Option Point) : Nat → Option Point
  | 0 => g p
  | n + 1 => (g (p.skip (n + 1))).or (descending p g n)

theorem descending_succ (p : Point) (g : Point → Option Point) (n : Nat) :
    descending p g (n + 1) = (descending (p.skip 1) g n).or (g p) := by
  induction n with
  | zero => rfl
  | succ n ih =>
    rw [descending, ih, ← Option.or_assoc, descending, Point.skip_skip, Nat.add_comm 1]

theorem greedy_single (h : RunsFor passes n i p) {last : Option Nat}
    (hlast : last ≠ some p.position) : (single passes).greedy n last p g = descending p g i := by
  induction h generalizing last with
  | full p => rfl
  | @stop n p hstop =>
    cases n with
    | zero => rfl
    | succ n =>
      rw [greedy, if_neg hlast, single_stop hstop]
      exact Option.none_or
  | @step n i c p q hnext hc _ ih =>
    have hposition := Point.position_forward hnext
    rw [greedy, if_neg hlast, single_forward hnext, if_pos hc, ih (by simp [hposition]),
      descending_succ, (Point.forward?_eq_some hnext).2]

end Choice

namespace Search

variable {next : Option FlaggedTest} {k : Point → Trail → Outcome} {g : Point → Option Point}

theorem fewer_spot? (hk : Answers next k g) (repeated : Bool) (old : Trail) {n : Nat} {p : Point}
    (hn : n ≤ p.after.length) (t : Trail) :
    (fewer repeated next old k n (p.skip n) t).spot? = Choice.descending p g n := by
  induction n generalizing t with
  | zero =>
    rw [fewer]
    · exact onward_spot? hk repeated old p t
    · simp
  | succ n ih =>
    have honward := onward_spot? hk repeated old (p.skip (n + 1)) t
    rw [Choice.descending, ← honward]
    unfold fewer
    cases onward repeated next old k (p.skip (n + 1)) t with
    | matched u => rfl
    | failed u =>
      dsimp only
      rw [Point.skip_backward (by omega), ih (by omega)]
      rfl

/-- More copies than there are characters left change nothing. -/
theorem more_spot? (hk : ∀ q u, (k q u).spot? = g q) (single : FlaggedTest) (repeated : Bool)
    (old : Trail) {n m : Nat} {p : Point} (hnm : min n p.after.length = min m p.after.length)
    {last : Option Nat} (hlast : last ≠ some p.position) (t : Trail) :
    (more repeated single old k n p t).spot? = (Choice.single single.holds).lazy m last p g := by
  induction m generalizing n p last t with
  | zero =>
    rw [Choice.lazy, ← Option.or_none (o := g p), ← hk p (t.note p)]
    unfold more
    refine Outcome.spot?_orElse fun u => ?_
    cases hnext : p.forward? with
    | none => rfl
    | some next =>
      obtain ⟨c, q⟩ := next
      obtain ⟨⟨rest, hafter⟩, -⟩ := Point.forward?_eq_some hnext
      rw [hafter, List.length_cons] at hnm
      obtain rfl : n = 0 := by omega
      dsimp only
      split
      · rfl
      · rfl
  | succ m ih =>
    rw [Choice.lazy, if_neg hlast, ← hk p (t.note p)]
    unfold more
    refine Outcome.spot?_orElse fun u => ?_
    cases hnext : p.forward? with
    | none =>
      rw [Choice.single, hnext]
      rfl
    | some next =>
      obtain ⟨c, q⟩ := next
      have hposition := Point.position_forward hnext
      obtain ⟨⟨rest, hafter⟩, hq⟩ := Point.forward?_eq_some hnext
      have hrest : q.after = rest := by
        rw [hq, Point.skip_after, hafter]
        rfl
      rw [hafter, List.length_cons] at hnm
      obtain ⟨n, rfl⟩ : ∃ n', n = n' + 1 := ⟨n - 1, by omega⟩
      rw [Choice.single_forward hnext]
      dsimp only
      split
      · exact ih (by rw [hrest]; omega) (by simp [hposition]) _
      · rfl

end Search

/-- A run stops where it may have no more, or where no more comes that passes the test. -/
theorem Point.run_stop (p : Point) (passes : Char → Bool) (most : Option Nat) :
    most = some (p.run passes most).1 ∨ StopsAt passes (p.run passes most).2 := by
  obtain ⟨hle, hend, hall⟩ := p.run_spec passes most
  by_cases hmost : most = some (p.run passes most).1
  · exact .inl hmost
  · refine .inr fun c q hnext => Bool.eq_false_iff.2 fun hc => ?_
    rw [hend] at hnext
    obtain ⟨⟨rest, hafter⟩, -⟩ := Point.forward?_eq_some hnext
    rw [Point.skip_after] at hafter
    generalize hcount : (p.run passes most).1 = count at *
    have hlt : count < p.after.length := by
      have := congrArg List.length hafter
      rw [List.length_drop, List.length_cons] at this
      omega
    have hmore : count + 1 ≤ (p.run passes most).1 := by
      refine p.le_run passes most hlt (fun m hm => ?_) fun d hd => ?_
      · have := p.run_le passes most hm
        have hne : m ≠ count := fun he => hmost (he ▸ hm)
        omega
      · rw [List.take_add_one, List.mem_append] at hd
        refine hd.elim (hall d) fun hd => ?_
        rw [← List.head?_drop, hafter] at hd
        obtain rfl : d = c := by simpa using hd
        exact hc
    omega

namespace Choice

variable {passes : Char → Bool} {p : Point} {g : Point → Option Point} {least : Nat}

/-- Fewer characters than are asked for. -/
theorem copies_single_eq_none (mode : Mode) (most : Option Nat)
    (h : ¬(least ≤ p.after.length ∧ ∀ c ∈ p.after.take least, passes c = true)) :
    (single passes).copies mode least most p g = none := by
  cases mode with
  | greedy => exact times_single_eq_none h
  | lazy => exact times_single_eq_none h
  | possessive =>
    rw [copies, firstTimes_single, times_single_eq_none h]
    rfl

end Choice

namespace Search

variable {next : Option FlaggedTest} {least : Nat} {most : Option Nat}

/-- Without an upper bound more copies are tried than there are characters. -/
theorem length_le_optional (p : Point) : p.after.length ≤ optional least none p := by
  have hsquare := Nat.le_mul_self (p.textLength + 1)
  unfold Point.textLength at hsquare
  simp only [optional, Point.textLength]
  omega

/-- What a run of characters does beyond the least number of them. -/
theorem runsFor_of_run {p : Point} {passes : Char → Bool} {i : Nat}
    (hcount : (p.run passes most).1 = least + i) :
    RunsFor passes (optional least most (p.skip least)) i (p.skip least) ∧
      (p.run passes most).2 = (p.skip least).skip i ∧ i ≤ (p.skip least).after.length := by
  obtain ⟨hle, hend, hall⟩ := p.run_spec passes most
  have hstop := p.run_stop passes most
  rw [hcount] at hle hend hall hstop
  rw [hend, ← Point.skip_skip] at hstop
  have hlength : i ≤ (p.skip least).after.length := by
    rw [Point.skip_after, List.length_drop]
    omega
  refine ⟨.of_take ?_ ?_ hlength ?_, by rw [hend, Point.skip_skip], hlength⟩
  · cases hmost : most with
    | none => exact Nat.le_trans hlength (length_le_optional _)
    | some m =>
      have := p.run_le passes most hmost
      simp only [optional]
      omega
  · rw [Point.skip_after, List.take_drop]
    exact fun c hc => hall c (List.mem_of_mem_drop hc)
  · refine hstop.imp (fun hmost => ?_) id
    rw [hmost]
    simp only [optional]
    omega

/-- Copies of a single character are chosen as copies of any part. -/
theorem chooses_characters (single : FlaggedTest) (repeated : Bool) (mode : Mode)
    (hmost : ∀ m, most = some m → least ≤ m) :
    (characters single repeated next mode least most).Chooses next
      ((Choice.single single.holds).copies mode least most) := by
  intro p t k g hk
  rw [characters]
  split
  · rename_i hahead
    refine (Choice.copies_single_eq_none mode most fun h => ?_).symm
    rw [Point.hasAhead_iff.2 h.1] at hahead
    exact absurd hahead (by simp)
  · have hbound : ∀ m, (if mode = .lazy then some least else most) = some m → least ≤ m := by
      intro m hm
      split at hm
      · exact Nat.le_of_eq (Option.some.inj hm)
      · exact hmost m hm
    generalize hb : (if mode = .lazy then some least else most) = bound at hbound
    have hrun := @runsFor_of_run least bound p single.holds
    have hfew := fun h : least ≤ p.after.length ∧ ∀ c ∈ p.after.take least, single.holds c = true =>
      p.le_run single.holds bound h.1 hbound h.2
    obtain ⟨hle, -, hall⟩ := p.run_spec single.holds bound
    have hupper := fun m (hm : bound = some m) => p.run_le single.holds bound hm
    generalize p.run single.holds bound = run at *
    obtain ⟨count, q⟩ := run
    dsimp only at *
    split
    · exact (Choice.copies_single_eq_none mode most fun h => by have := hfew h; omega).symm
    · obtain ⟨i, rfl⟩ : ∃ i, count = least + i := ⟨count - least, by omega⟩
      obtain ⟨hfor, rfl, hrest⟩ := hrun rfl
      have hleast : least ≤ p.after.length := by omega
      have hfirst : ∀ c ∈ p.after.take least, single.holds c = true := fun c hc =>
        hall c ((List.take_prefix_take_left (Nat.le_add_right ..)).subset hc)
      cases mode with
      | greedy =>
        obtain rfl : most = bound := hb
        dsimp only
        rw [Nat.add_sub_cancel_left, fewer_spot? (hk.filter _) repeated _ hrest, Choice.copies,
          Choice.times_single hleast hfirst, Choice.greedy_single hfor (by simp)]
      | lazy =>
        obtain rfl : some least = bound := hb
        obtain rfl : i = 0 := by have := hupper least rfl; omega
        rw [Choice.copies, Choice.times_single hleast hfirst]
        refine more_spot? hk.spot single repeated _ ?_ (by simp) _
        cases most with
        | some m => rfl
        | none =>
          have hoptional : _ ≤ optional least none _ := length_le_optional (p.skip least)
          rw [Option.map_none, Option.getD_none, Point.skip_zero]
          omega
      | possessive =>
        obtain rfl : most = bound := hb
        rw [hk.spot, Choice.copies, Choice.firstTimes_single, Choice.times_single hleast hfirst,
          Option.bind_some, Choice.firstMost_single hfor (by simp)]

end Search

end PathRouter.Regex

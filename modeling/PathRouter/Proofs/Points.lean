import PathRouter.Regex.Search

/-!
# Moving over a text

Skipping characters from a point, stepping back, and where a run of characters ends. A trail notes
points and marks, and only the one that is set changes.
-/

namespace PathRouter.Regex
set_option autoImplicit false

namespace Point

@[simp] theorem skip_after (p : Point) (n : Nat) : (p.skip n).after = p.after.drop n := rfl

@[simp] theorem skip_zero (p : Point) : p.skip 0 = p := rfl

theorem skip_skip (p : Point) (m n : Nat) : (p.skip m).skip n = p.skip (m + n) := by
  simp only [skip, List.drop_drop, mk.injEq, and_true]
  rw [← List.append_assoc, ← List.reverse_append, ← List.take_add]

/-- Skipping beyond the end is skipping to the end. -/
theorem skip_length_take (p : Point) (n : Nat) : p.skip (p.after.take n).length = p.skip n := by
  rcases Nat.le_total n p.after.length with h | h
  · rw [List.length_take_of_le h]
  · rw [List.take_of_length_le h]
    simp [skip, List.take_of_length_le h, List.drop_eq_nil_of_le h]

theorem skip_position {p : Point} {n : Nat} (h : n ≤ p.after.length) :
    (p.skip n).position = p.position + n := by
  simp only [position, skip, List.length_append, List.length_reverse, List.length_take]
  omega

theorem position_le_skip (p : Point) (n : Nat) : p.position ≤ (p.skip n).position := by
  simp [position, skip]

theorem ofText_skip (text : Text) (m n : Nat) :
    (Point.ofText text m).skip n = Point.ofText text (m + n) := by
  simp [Point.ofText, Point.skip, List.take_add, List.drop_drop]

theorem ofText_position {text : Text} {n : Nat} (h : n ≤ text.length) :
    (Point.ofText text n).position = n := by
  simp [Point.ofText, Point.position, h]

theorem forward?_cons {p : Point} {c : Char} {rest : Text} (h : p.after = c :: rest) :
    p.forward? = some (c, p.skip 1) := by
  simp [forward?, skip, h]

theorem forward?_nil {p : Point} (h : p.after = []) : p.forward? = none := by
  simp [forward?, h]

theorem forward?_eq_some {p q : Point} {c : Char} (h : p.forward? = some (c, q)) :
    (∃ rest, p.after = c :: rest) ∧ q = p.skip 1 := by
  cases hafter : p.after with
  | nil => simp [forward?_nil hafter] at h
  | cons d rest =>
    rw [forward?_cons hafter] at h
    obtain ⟨rfl, rfl⟩ := Prod.mk.inj (Option.some.inj h)
    exact ⟨⟨rest, rfl⟩, rfl⟩

theorem skip_backward {p : Point} {n : Nat} (h : n < p.after.length) :
    (p.skip (n + 1)).backward = p.skip n := by
  have htake : p.after.take (n + 1) = p.after.take n ++ [p.after[n]] := by
    rw [List.take_add_one, List.getElem?_eq_getElem h]
    rfl
  have hdrop : p.after.drop n = p.after[n] :: p.after.drop (n + 1) := List.drop_eq_getElem_cons h
  rw [skip, skip, hdrop, htake, List.reverse_append]
  rfl

/-- Without an upper bound a run goes on as long as characters pass the test. -/
theorem run_eq (p : Point) (passes : Char → Bool) :
    p.run passes none =
      ((p.after.takeWhile passes).length, p.skip (p.after.takeWhile passes).length) := by
  have hgo : ∀ (rest : Text) (n : Nat) (before : Text), run.go passes none n before rest =
      (n + (rest.takeWhile passes).length,
        ⟨(rest.takeWhile passes).reverse ++ before, rest.dropWhile passes⟩) := by
    intro rest
    induction rest with
    | nil => simp [run.go]
    | cons c rest ih =>
      intro n before
      by_cases hc : passes c
      · simp only [run.go, ne_eq, reduceCtorEq, not_false_eq_true, hc, and_self, if_true, ih,
          List.takeWhile_cons, List.dropWhile_cons, List.length_cons, List.reverse_cons,
          List.append_assoc, List.singleton_append, Prod.mk.injEq, and_true]
        omega
      · simp [run.go, hc]
  rw [run, hgo, Nat.zero_add]
  have htake : p.after.take (p.after.takeWhile passes).length = p.after.takeWhile passes :=
    (List.prefix_iff_eq_take.1 (List.takeWhile_prefix passes)).symm
  have hdrop : p.after.dropWhile passes = p.after.drop (p.after.takeWhile passes).length :=
    calc p.after.dropWhile passes
      _ = (p.after.takeWhile passes ++ p.after.dropWhile passes).drop
            (p.after.takeWhile passes).length := List.drop_left.symm
      _ = p.after.drop (p.after.takeWhile passes).length := by
        rw [List.takeWhile_append_dropWhile]
  rw [skip, htake, hdrop]

/-- A run stops after characters that all pass the test. -/
theorem run_spec (p : Point) (passes : Char → Bool) (most : Option Nat) :
    (p.run passes most).1 ≤ p.after.length ∧
      (p.run passes most).2 = p.skip (p.run passes most).1 ∧
      ∀ c ∈ p.after.take (p.run passes most).1, passes c = true := by
  have hgo : ∀ (rest : Text) (n : Nat) (before : Text), ∃ m,
      run.go passes most n before rest = (n + m, ⟨(rest.take m).reverse ++ before, rest.drop m⟩) ∧
        m ≤ rest.length ∧ ∀ c ∈ rest.take m, passes c = true := by
    intro rest
    induction rest with
    | nil =>
      intro n before
      exact ⟨0, rfl, Nat.le_refl _, by simp⟩
    | cons c rest ih =>
      intro n before
      rw [run.go]
      split
      · rename_i hc
        obtain ⟨m, hm, hle, hall⟩ := ih (n + 1) (c :: before)
        refine ⟨m + 1, ?_, Nat.succ_le_succ hle, ?_⟩
        · rw [hm]
          simp
          omega
        · intro d hd
          rcases List.mem_cons.1 hd with rfl | hd
          · exact hc.2
          · exact hall d hd
      · exact ⟨0, rfl, Nat.zero_le _, by simp⟩
  obtain ⟨m, hm, hle, hall⟩ := hgo p.after 0 p.before
  rw [run, hm, Nat.zero_add]
  exact ⟨hle, rfl, hall⟩

/-- A run has no more characters than it may have. -/
theorem run_le (p : Point) (passes : Char → Bool) (most : Option Nat) {m : Nat}
    (h : most = some m) : (p.run passes most).1 ≤ m := by
  subst h
  have hgo : ∀ (rest : Text) (n : Nat) (before : Text), n ≤ m →
      (run.go passes (some m) n before rest).1 ≤ m := by
    intro rest
    induction rest with
    | nil => exact fun n before hn => hn
    | cons c rest ih =>
      intro n before hn
      rw [run.go]
      split
      · rename_i hc
        have hne : m ≠ n := fun he => hc.1 (congrArg some he)
        exact ih (n + 1) (c :: before) (by omega)
      · exact hn
  exact hgo p.after 0 p.before (Nat.zero_le m)

theorem le_run_go (passes : Char → Bool) (most : Option Nat) (rest : Text) (n : Nat)
    (before : Text) : n ≤ (run.go passes most n before rest).1 := by
  induction rest generalizing n before with
  | nil => exact Nat.le_refl n
  | cons c rest ih =>
    rw [run.go]
    split
    · exact Nat.le_trans (Nat.le_succ n) (ih (n + 1) (c :: before))
    · exact Nat.le_refl n

/-- A run takes as many characters as pass the test. -/
theorem le_run (p : Point) (passes : Char → Bool) (most : Option Nat) {n : Nat}
    (hn : n ≤ p.after.length) (hmost : ∀ m, most = some m → n ≤ m)
    (hpass : ∀ c ∈ p.after.take n, passes c = true) : n ≤ (p.run passes most).1 := by
  have hgo : ∀ (rest : Text) (i : Nat) (before : Text), i ≤ n → n - i ≤ rest.length →
      (∀ c ∈ rest.take (n - i), passes c = true) →
      n ≤ (run.go passes most i before rest).1 := by
    intro rest
    induction rest with
    | nil =>
      intro i before hi hle _
      simp only [List.length_nil] at hle
      simp only [run.go]
      omega
    | cons c rest ih =>
      intro i before hi hle hall
      by_cases hni : n = i
      · subst hni
        exact le_run_go passes most (c :: rest) n before
      · obtain ⟨j, hj⟩ : ∃ j, n - i = j + 1 := ⟨n - i - 1, by omega⟩
        rw [hj, List.take_succ_cons, List.forall_mem_cons] at hall
        have hopen : most ≠ some i := by
          intro he
          have := hmost i he
          omega
        rw [run.go, if_pos ⟨hopen, hall.1⟩]
        have hrest : n - (i + 1) = j := by omega
        simp only [List.length_cons] at hle
        exact ih (i + 1) (c :: before) (by omega) (by omega) (by rw [hrest]; exact hall.2)
  exact hgo p.after 0 p.before (Nat.zero_le n) hn hpass

end Point

namespace Trail

@[simp] theorem note_marks (t : Trail) (p : Point) : (t.note p).marks = t.marks := rfl

@[simp] theorem note_spot (t : Trail) (p : Point) : (t.note p).spot = p := rfl

/-- Setting a mark leaves those before it as they are. -/
theorem mark_of_lt (t : Trail) {index i : Nat} (p : Point) (h : i < index) {m : Option Point}
    (hm : t.marks[i]? = some m) : (t.mark index p).marks[i]? = some m := by
  have hi : i < t.marks.length := (List.getElem?_eq_some_iff.1 hm).1
  unfold mark
  split
  · show (t.marks.set index (some p))[i]? = some m
    rw [List.getElem?_set_ne (by omega), hm]
  · show (t.marks ++ List.replicate (index - t.marks.length) none ++ [some p])[i]? = some m
    rw [List.append_assoc, List.getElem?_append_left hi, hm]

/-- The mark that is set is there. -/
theorem mark_self (t : Trail) (index : Nat) (p : Point) :
    (t.mark index p).marks[index]? = some (some p) := by
  unfold mark
  split
  · rename_i h
    show (t.marks.set index (some p))[index]? = some (some p)
    rw [List.getElem?_set_self h]
  · rename_i h
    show (t.marks ++ List.replicate (index - t.marks.length) none ++ [some p])[index]? = _
    have hlen : (t.marks ++ List.replicate (index - t.marks.length) none).length = index := by
      rw [List.length_append, List.length_replicate]
      omega
    rw [List.getElem?_append_right (Nat.le_of_eq hlen), hlen, Nat.sub_self]
    rfl

end Trail

end PathRouter.Regex

import PathRouter.Proofs.TokenReading

/-!
# Expressions that can be narrowed

Narrowing fails on a text with a class that does not end. In an expression every class ends, and the
reader steps over each as a whole. Only inside a comment narrowing may see a class where there is
none.
-/

namespace PathRouter.Regex
set_option autoImplicit false

variable {start s rest : Text} {c : Char} {cs : List Char}

/-- Narrowing finds the end of every class. -/
def IsNarrowable (s : Text) : Prop :=
  (confine s).isSome = true

theorem isNarrowable_nil : IsNarrowable [] := by
  simp [IsNarrowable, confine]

theorem isNarrowable_escape : IsNarrowable ('\\' :: c :: s) ↔ IsNarrowable s := by
  rw [IsNarrowable, confine_escape, Option.isSome_map, IsNarrowable]

theorem isNarrowable_char (hc : c ≠ '\\' ∧ c ≠ '[') : IsNarrowable (c :: s) ↔ IsNarrowable s := by
  by_cases hdot : c = '.'
  · rw [IsNarrowable, hdot, confine_dot, Option.isSome_map, IsNarrowable]
  · rw [IsNarrowable, confine_char (by simp [narrowable, hc, hdot]), Option.isSome_map, IsNarrowable]

theorem isNarrowable_class {body after : Text} (h : Confine.splitClass s = some (body, after)) :
    IsNarrowable ('[' :: s) ↔ IsNarrowable after := by
  have hclass : confine ('[' :: s) = (confine after).map (Confine.bracketed body ++ ·) := by
    rw [confine]
    · rw [if_neg (by decide), if_pos rfl]
      split
      · rename_i hnone
        exact absurd (hnone.symm.trans h) (by simp)
      · rename_i b a hsome
        obtain ⟨rfl, rfl⟩ := Prod.mk.inj (Option.some.inj (hsome.symm.trans h))
        rfl
    · exact fun he => absurd he (by decide)
  rw [IsNarrowable, hclass, Option.isSome_map, IsNarrowable]

/-! ## Reading from class to class -/

/-- The text `start` can be narrowed if what is left of it can be. -/
def NarrowsWith (start s : Text) : Prop :=
  s ≠ ['\\'] ∧ (IsNarrowable s → IsNarrowable start)

namespace NarrowsWith

theorem escape (h : NarrowsWith start ('\\' :: c :: s)) (hs : s ≠ ['\\']) : NarrowsWith start s :=
  ⟨hs, fun hrest => h.2 (isNarrowable_escape.2 hrest)⟩

theorem char (h : NarrowsWith start (c :: s)) (hc : c ≠ '\\' ∧ c ≠ '[') (hs : s ≠ ['\\']) :
    NarrowsWith start s :=
  ⟨hs, fun hrest => h.2 ((isNarrowable_char hc).2 hrest)⟩

theorem «class» (h : NarrowsWith start ('[' :: s)) {body : Text}
    (hsplit : Confine.splitClass s = some (body, rest)) (hrest : rest ≠ ['\\']) :
    NarrowsWith start rest :=
  ⟨hrest, fun hnarrowable => h.2 ((isNarrowable_class hsplit).2 hnarrowable)⟩

theorem isKept (start : Text) : IsKept (NarrowsWith start) where
  start := fun h => h.1
  char := by
    intro c s hc hs h
    refine h.char ⟨?_, ?_⟩ hs
    · rintro rfl
      exact hc (by decide)
    · rintro rfl
      exact hc (by decide)

/-- No class begins in a comment without brackets. -/
theorem skips {α : Type} {stop : Char} {found : Text → α} {read : Text → Except Fault α} {a : α}
    (hr : Skips stop found read) (hcs : '[' ∈ cs) (h : NarrowsWith start s)
    (hquiet : holdsBefore stop cs s = false) (hread : read s = .ok a) :
    (∃ rest, a = found rest ∧ NarrowsWith start rest) ∨ read [] = .ok a ∧ NarrowsWith start [] := by
  fun_induction holdsBefore stop cs s with
  | case1 => exact .inr ⟨hread, h⟩
  | case2 c s ih =>
    rw [hr.escape] at hread
    obtain ⟨⟨⟩, hsettle, hread⟩ := bind_eq_ok_iff.1 hread
    exact ih (h.escape (settle_eq_ok_iff.1 hsettle)) hquiet hread
  | case3 s hesc =>
    rw [hr.ends] at hread
    obtain ⟨⟨⟩, hsettle, hread⟩ := bind_eq_ok_iff.1 hread
    have hstop := hr.ne
    exact .inl ⟨s, (Except.ok.inj hread).symm,
      h.char ⟨Ne.symm hstop.1, Ne.symm hstop.2.2.1⟩ (settle_eq_ok_iff.1 hsettle)⟩
  | case4 c s hesc hstop ih =>
    have hc : c ≠ '\\' := by
      rintro rfl
      cases s with
      | nil => exact h.1 rfl
      | cons d r => exact hesc d r rfl rfl
    rw [Bool.or_eq_false_iff] at hquiet
    have hopen : c ≠ '[' := by
      rintro rfl
      simp [hcs] at hquiet
    rw [hr.other c s hc hstop] at hread
    obtain ⟨⟨⟩, hsettle, hread⟩ := bind_eq_ok_iff.1 hread
    exact ih (h.char ⟨hc, hopen⟩ (settle_eq_ok_iff.1 hsettle)) hquiet.2 hread

/-- After a construct the text still is narrowable if the rest is. -/
theorem step {p q : Progress} (h : NarrowsWith start (c :: s)) (hcs : '[' ∈ cs)
    (hquiet : strayAt cs p (c :: s) = false) (hstep : Regex.step p (c :: s) = .ok (q, rest)) :
    NarrowsWith start rest := by
  have hwords := (isKept start).parallel.corresponds
  have hnext (hc : c ≠ '\\' ∧ c ≠ '[') : NarrowsWith start s :=
    h.char hc (ne_backslash_of_step hc.1 hstep)
  cases construct_of_step hstep with
  | backslash => exact absurd rfl h.1
  | @escape c s rest n hn =>
    obtain ⟨⟨⟩, hsettle, -⟩ := bind_eq_ok_iff.1 hstep
    exact IsKept.of_agrees
      (readEscape_agrees hwords (fun _ => rfl) c ⟨rfl, h.escape (settle_eq_ok_iff.1 hsettle)⟩) hn
  | bar _ => exact hnext (by decide)
  | close _ => exact hnext (by decide)
  | blank _ hblank =>
    refine hnext ⟨?_, ?_⟩ <;> rintro rfl <;> exact absurd hblank (by decide)
  | line hv _ hread =>
    obtain ⟨r, rfl, hr⟩ | ⟨hnil, hend⟩ :=
      (hnext (by decide)).skips skips_line hcs (by simpa [strayAt, hv] using hquiet) hread
    · exact hr
    · obtain rfl := Except.ok.inj hnil
      exact hend
  | «class» hs hread =>
    obtain ⟨hrest, body, hbody⟩ := readClass_split hs hread
    exact h.class hbody hrest
  | brace hstart hread =>
    have hc : c ≠ '\\' ∧ c ≠ '[' := by
      constructor <;> rintro rfl <;> exact absurd hstart (by decide)
    exact IsKept.of_agrees (readBounds_agrees hwords c ⟨rfl, hnext hc⟩) hread
  | quantifier hstart hread hquantify =>
    have hc : c ≠ '\\' ∧ c ≠ '[' := by
      constructor <;> rintro rfl <;> exact absurd hstart (by decide)
    have hafter := IsKept.of_agrees (readBounds_agrees hwords c ⟨rfl, hnext hc⟩) hread
    unfold Progress.quantify at hquantify
    split at hquantify
    · exact absurd hquantify fault_ne_ok
    · exact absurd hquantify fault_ne_ok
    · exact absurd hquantify fault_ne_ok
    · obtain ⟨⟨m, r⟩, hmode, hquantify⟩ := bind_eq_ok_iff.1 hquantify
      obtain ⟨-, rfl⟩ := Prod.mk.inj (Except.ok.inj hquantify)
      exact IsKept.of_agrees (readMode_agrees hwords ⟨rfl, hafter⟩) hmode
  | opening _ hread _ =>
    refine (isKept start).readOpening (hnext (by decide)) ?_ hread
    rintro place r rest rfl hr hcomment
    obtain ⟨r', he, hr'⟩ | ⟨hnil, -⟩ := hr.skips (skips_comment place) hcs hquiet hcomment
    · obtain ⟨-, rfl⟩ := Prod.mk.inj he
      exact hr'
    · exact absurd hnil fault_ne_ok
  | anchor hc =>
    refine hnext ?_
    rcases hc with rfl | rfl <;> decide
  | char hc _ _ =>
    simp only [List.mem_cons, List.not_mem_nil, or_false, not_or] at hc
    exact hnext ⟨hc.1, hc.2.2.1⟩

theorem run {p : Progress} {end' : Progress × Text} (h : NarrowsWith start s) (hcs : '[' ∈ cs)
    (hquiet : everyConstruct (fun p s => !strayAt cs p s) p s = true)
    (hread : readConstructs p s = .ok end') : NarrowsWith start end'.2 := by
  refine (leads_of_readConstructs hread).keeps_of_every (P := fun _ t => NarrowsWith start t)
    hquiet ?_ h
  intro p q c s rest _ hstep htest h
  exact h.step hcs (by simpa using htest) hstep

end NarrowsWith

/-- An expression can be narrowed, unless a comment in it has a bracket. -/
theorem isNarrowable_of_readExpression {x : Expression} (hx : readExpression s = .ok x)
    (hcs : '[' ∈ cs) (hquiet : everyConstructOf (fun p s => !strayAt cs p s) s = true) :
    IsNarrowable s := by
  obtain ⟨hne, p, hread, -⟩ := readConstructs_of_readExpression hx
  have hstart : NarrowsWith s s := ⟨hne, id⟩
  exact (hstart.run hcs hquiet hread).2 isNarrowable_nil

end PathRouter.Regex

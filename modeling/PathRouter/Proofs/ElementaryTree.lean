import PathRouter.Proofs.MirroredTree
import PathRouter.Proofs.SimplifiedReach

/-!
# Elementary trees

A tree is elementary if it is built from tests on characters by sequences, alternatives, groups and
quantifiers that reconsider their copies. If it was narrowed, a class behind a look ahead counts as
a test. What an elementary tree matches depends on the matched text only, not on what stands around
it, so a span can be taken out of its text and be matched alone.
-/

namespace PathRouter.Regex
set_option autoImplicit false

/-- The tree is built from tests on characters, and nothing in it looks at other text than it
matches. -/
inductive Node.Elementary (narrowed : Bool) : Node → Prop
  | empty : Elementary narrowed .empty
  | char (test : CharTest) : Elementary narrowed (.char test)
  | guarded (test : CharTest) : narrowed = true → Elementary narrowed (guardedTest test)
  | seq {a b : Node} : Elementary narrowed a → Elementary narrowed b →
      Elementary narrowed (.seq a b)
  | alt {a b : Node} : Elementary narrowed a → Elementary narrowed b →
      Elementary narrowed (.alt a b)
  | quantified {mode : Mode} {least : Nat} {most : Option Nat} {a : Node} :
      mode ≠ .possessive → (∀ m, most = some m → least ≤ m) → Elementary narrowed a →
      Elementary narrowed (.quantified mode least most a)
  | group (i : Nat) {a : Node} : Elementary narrowed a → Elementary narrowed (.group i a)
  | scope {a : Node} : Elementary narrowed a → Elementary narrowed (.flagged [] [] a)

/-! ## Points of two texts -/

namespace Point

variable {p q r : Point} {w s : Text}

/-- A point between the ends of a span splits it in two. -/
theorem IsAhead.split_span (hp : p.after = w ++ s) (h : p.IsAhead r)
    (h' : r.IsAhead (p.skip w.length)) :
    ∃ w₁ w₂, w = w₁ ++ w₂ ∧ r = p.skip w₁.length ∧ r.after = w₂ ++ s ∧
      p.skip w.length = r.skip w₂.length := by
  obtain ⟨j, rfl⟩ := h
  rw [← p.skip_length_take j] at h' ⊢
  have hle : (p.after.take j).length ≤ w.length := by
    have hlength : (p.skip w.length).after.length ≤
        (p.skip (p.after.take j).length).after.length := by
      rcases h'.eq_or_lt with he | hlt
      · exact Nat.le_of_eq (by rw [he])
      · exact Nat.le_of_lt hlt
    simp only [skip_after, List.length_drop, List.length_take, hp, List.length_append] at hlength ⊢
    omega
  generalize (p.after.take j).length = i at hle
  have hi : (w.take i).length = i := List.length_take_of_le hle
  refine ⟨w.take i, w.drop i, (List.take_append_drop i w).symm, by rw [hi], ?_, ?_⟩
  · rw [skip_after, hp, List.drop_append_of_le_length hle]
  · rw [skip_skip, List.length_drop]
    congr 1
    omega

/-- A step over one character is a span of one character. -/
theorem length_of_forward? {c : Char} (hp : p.after = w ++ s)
    (h : p.forward? = some (c, p.skip w.length)) : w = [c] := by
  obtain ⟨⟨rest, hafter⟩, hskip⟩ := forward?_eq_some h
  have hlength := congrArg (fun q : Point => q.after.length) hskip
  simp only [skip_after, List.length_drop, hp, List.length_append] at hlength
  rw [hafter] at hp
  cases w with
  | nil =>
    simp only [List.length_nil, List.nil_append] at hlength hp
    rw [← hp] at hlength
    simp at hlength
  | cons d w =>
    obtain ⟨rfl, -⟩ := List.cons.inj hp
    have : w = [] := List.eq_nil_of_length_eq_zero (by simp only [List.length_cons] at hlength; omega)
    rw [this]

/-- Where nothing follows is the end of the text. -/
theorem IsAhead.eq_end (h : p.IsAhead q) (hq : q.after = []) : q = p.skip p.after.length := by
  obtain ⟨n, rfl⟩ := h
  rw [skip_after, List.drop_eq_nil_iff] at hq
  rw [← p.skip_length_take n, List.take_of_length_le hq]

end Point

namespace Node

variable {narrowed : Bool} {f : Flags} {n : Node}

theorem Elementary.isRegular (h : n.Elementary narrowed) : n.isRegular = true := by
  induction h with
  | empty => rfl
  | char test => rfl
  | guarded test _ => rfl
  | seq _ _ iha ihb => exact Bool.and_eq_true_iff.2 ⟨iha, ihb⟩
  | alt _ _ iha ihb => exact Bool.and_eq_true_iff.2 ⟨iha, ihb⟩
  | quantified hmode hmost _ ih => exact isRegular_quantified.2 ⟨hmode, hmost, ih⟩
  | group i _ ih => exact ih
  | scope _ ih => exact ih

theorem Elementary.mergesFaithfully (h : n.Elementary narrowed) (hf : f.ignoreCase = false) :
    n.mergesFaithfully f = true := by
  induction h with
  | empty => rfl
  | char test => rfl
  | guarded test _ => rfl
  | seq _ _ iha ihb => exact Bool.and_eq_true_iff.2 ⟨iha, ihb⟩
  | alt _ _ iha ihb => simp [Node.mergesFaithfully, hf, iha, ihb]
  | quantified _ _ _ ih => exact ih
  | group i _ ih => exact ih
  | scope _ ih => rwa [Node.mergesFaithfully, f.update_nil]

/-- What a relation between points says of a span does not depend on what stands around it. -/
def IsLocal (reach : Point → Point → Prop) : Prop :=
  ∀ (p p' : Point) (w s s' : Text), p.after = w ++ s → p'.after = w ++ s' →
    reach p (p.skip w.length) → reach p' (p'.skip w.length)

theorem isLocal_takes (passes : Char → Bool) : IsLocal (Takes passes) := by
  rintro p p' w s s' hp hp' ⟨c, hnext, hpass⟩
  obtain rfl := Point.length_of_forward? hp hnext
  exact ⟨c, Point.forward?_cons hp', hpass⟩

theorem isLocal_copies {reach : Point → Point → Prop} (h : IsLocal reach)
    (hahead : ∀ p q, reach p q → p.IsAhead q) (n : Nat) : IsLocal (Copies reach n) := by
  induction n with
  | zero =>
    intro p p' w s s' hp hp' hcopies
    generalize hq : p.skip w.length = q at hcopies
    cases hcopies
    have hlength := congrArg (fun q : Point => q.after.length) hq
    simp only [Point.skip_after, List.length_drop, hp, List.length_append] at hlength
    obtain rfl : w = [] := List.eq_nil_of_length_eq_zero (by omega)
    exact .zero p'
  | succ n ih =>
    intro p p' w s s' hp hp' hcopies
    generalize hq : p.skip w.length = q at hcopies
    cases hcopies with
    | @succ _ _ r _ hpr hrest =>
      obtain ⟨w₁, w₂, rfl, rfl, hr, hskip⟩ := (hahead p r hpr).split_span hp
        (hq ▸ hrest.isAhead hahead)
      rw [← hq, hskip] at hrest
      have hp₁ : p.after = w₁ ++ (w₂ ++ s) := by rw [hp, List.append_assoc]
      have hp₁' : p'.after = w₁ ++ (w₂ ++ s') := by rw [hp', List.append_assoc]
      have hr' : (p'.skip w₁.length).after = w₂ ++ s' := by
        rw [Point.skip_after, hp₁', List.drop_left]
      have hmore := ih _ _ w₂ s s' hr hr' hrest
      rw [Point.skip_skip, ← List.length_append] at hmore
      exact .succ (h p p' w₁ _ _ hp₁ hp₁' hpr) hmore

/-- What an elementary tree matches depends on the matched text only. -/
theorem Elementary.isLocal (h : n.Elementary narrowed) : IsLocal (n.Reaches f) := by
  induction h with
  | empty =>
    intro p p' w s s' hp hp' hreach
    have hlength := congrArg (fun q : Point => q.after.length) (show p.skip w.length = p from hreach)
    simp only [Point.skip_after, List.length_drop, hp, List.length_append] at hlength
    obtain rfl : w = [] := List.eq_nil_of_length_eq_zero (by omega)
    exact rfl
  | char test => exact isLocal_takes _
  | guarded test _ =>
    rintro p p' w s s' hp hp' ⟨r, ⟨rfl, hahead⟩, c, hnext, hpass⟩
    obtain rfl := Point.length_of_forward? hp hnext
    have hnext' : p'.forward? = some (c, p'.skip 1) := Point.forward?_cons hp'
    refine ⟨p', ⟨rfl, ?_⟩, c, hnext', hpass⟩
    rw [← hahead]
    constructor
    · rintro ⟨q, d, hd, htest⟩
      obtain ⟨rfl, -⟩ := Prod.mk.inj (Option.some.inj (hnext'.symm.trans hd))
      exact ⟨_, c, hnext, htest⟩
    · rintro ⟨q, d, hd, htest⟩
      obtain ⟨rfl, -⟩ := Prod.mk.inj (Option.some.inj (hnext.symm.trans hd))
      exact ⟨_, c, hnext', htest⟩
  | seq _ _ iha ihb =>
    rintro p p' w s s' hp hp' ⟨r, hpr, hrq⟩
    obtain ⟨w₁, w₂, rfl, rfl, hr, hskip⟩ := (isAhead_of_reaches hpr).split_span hp
      (isAhead_of_reaches hrq)
    rw [hskip] at hrq
    have hp₁ : p.after = w₁ ++ (w₂ ++ s) := by rw [hp, List.append_assoc]
    have hp₁' : p'.after = w₁ ++ (w₂ ++ s') := by rw [hp', List.append_assoc]
    have hr' : (p'.skip w₁.length).after = w₂ ++ s' := by
      rw [Point.skip_after, hp₁', List.drop_left]
    have hmore := ihb _ _ w₂ s s' hr hr' hrq
    rw [Point.skip_skip, ← List.length_append] at hmore
    exact ⟨_, iha p p' w₁ _ _ hp₁ hp₁' hpr, hmore⟩
  | alt _ _ iha ihb =>
    intro p p' w s s' hp hp' hreach
    exact hreach.imp (iha p p' w s s' hp hp') (ihb p p' w s s' hp hp')
  | quantified _ _ _ ih =>
    rintro p p' w s s' hp hp' ⟨m, hm, hcopies⟩
    exact ⟨m, hm, isLocal_copies ih (fun _ _ => isAhead_of_reaches) m p p' w s s' hp hp' hcopies⟩
  | group i _ ih => exact ih
  | scope _ ih =>
    intro p p' w s s' hp hp' hreach
    have hreach' := hreach
    simp only [Reaches, Flags.update_nil] at hreach' ⊢
    exact ih p p' w s s' hp hp' hreach'

end Node

/-! ## The image of a tree -/

section Mirrors

variable {first : Nat} {f : Flags} {n m : Node} {p q : Point}

/-- The image of a tree that was not narrowed reaches the same points. -/
theorem Mirrors.reaches_iff (h : Mirrors false first n m) : m.Reaches f p q ↔ n.Reaches f p q := by
  induction h generalizing f p q with
  | empty => rfl
  | char htest => rw [htest.eq_char]
  | anchor a => rfl
  | backreference g g' => rfl
  | seq _ _ iha ihb => exact exists_congr fun r => and_congr iha ihb
  | alt _ _ iha ihb => exact or_congr iha ihb
  | quantified mode least most _ ih =>
    exact exists_congr fun i => and_congr_right fun _ => Copies.congr fun _ _ => ih
  | group _ _ ih => exact ih
  | flagged on off _ ih => exact ih
  | atomic _ _ => rfl
  | @look behind behind' negated a a' hbehind _ ih =>
    cases behind with
    | none =>
      obtain rfl : behind' = none := by simpa using hbehind
      exact and_congr_right fun _ => iff_congr (exists_congr fun r => ih) Iff.rfl
    | some w =>
      obtain ⟨w', rfl⟩ := Option.isSome_iff_exists.1 hbehind
      rfl
  | conditional g g' _ _ _ _ => rfl

theorem Mirrors.isRegular_eq (h : Mirrors false first n m) : m.isRegular = n.isRegular := by
  induction h with
  | empty => rfl
  | char htest => rw [htest.eq_char]
  | anchor a => rfl
  | backreference g g' => rfl
  | seq _ _ iha ihb => exact congrArg₂ (· && ·) iha ihb
  | alt _ _ iha ihb => exact congrArg₂ (· && ·) iha ihb
  | quantified mode least most _ ih => simp only [Node.isRegular, ih]
  | group _ _ ih => exact ih
  | flagged on off _ ih => exact ih
  | atomic _ _ => rfl
  | @look behind behind' negated a a' hbehind _ ih =>
    cases behind with
    | none =>
      obtain rfl : behind' = none := by simpa using hbehind
      exact ih
    | some w =>
      obtain ⟨w', rfl⟩ := Option.isSome_iff_exists.1 hbehind
      rfl
  | conditional g g' _ _ _ _ => rfl

theorem Mirrors.mergesFaithfully_eq (h : Mirrors false first n m) :
    m.mergesFaithfully f = n.mergesFaithfully f := by
  induction h generalizing f with
  | empty => rfl
  | char htest => rw [htest.eq_char]
  | anchor a => rfl
  | backreference g g' => rfl
  | seq _ _ iha ihb => exact congrArg₂ (· && ·) iha ihb
  | alt _ _ iha ihb => simp only [Node.mergesFaithfully, iha, ihb]
  | quantified mode least most _ ih => exact ih
  | group _ _ ih => exact ih
  | flagged on off _ ih => exact ih
  | atomic _ ih => exact ih
  | look negated _ _ ih => exact ih
  | conditional g g' _ _ iha ihb => exact congrArg₂ (· && ·) iha ihb

/-- The image of an elementary tree is elementary. -/
theorem Mirrors.elementary {narrowed : Bool} (h : Mirrors narrowed first n m)
    (hn : n.Elementary false) : m.Elementary narrowed := by
  induction h with
  | empty => exact .empty
  | char htest =>
    obtain ⟨test', rfl, -⟩ | ⟨hnarrowed, rfl⟩ := htest.cases
    · exact .char _
    · exact .guarded _ hnarrowed
  | anchor a => cases hn
  | backreference g g' => cases hn
  | seq _ _ iha ihb =>
    cases hn with
    | seq ha hb => exact .seq (iha ha) (ihb hb)
  | alt _ _ iha ihb =>
    cases hn with
    | alt ha hb => exact .alt (iha ha) (ihb hb)
  | quantified mode least most _ ih =>
    cases hn with
    | quantified hmode hmost ha => exact .quantified hmode hmost (ih ha)
  | group _ _ ih =>
    cases hn with
    | group i ha => exact .group _ (ih ha)
  | flagged on off _ ih =>
    cases hn with
    | guarded test he => exact absurd he (by simp)
    | scope ha => exact .scope (ih ha)
  | atomic _ _ => cases hn
  | look negated _ _ _ => cases hn
  | conditional g g' _ _ _ _ => cases hn

end Mirrors

end PathRouter.Regex

import PathRouter.Proofs.Choosing
import PathRouter.Proofs.SimplifiedTree
import PathRouter.Proofs.SimplifyingLaws
import PathRouter.Regex.Expression

/-!
# The search for a match as a choice

The search through a tree ends where the choice through the tree tells, whatever trail it starts
with. Simplifying the tree leaves the choice as it is, so that whether an expression matches a text
is said by its tree as it was read: with the order of preference, possessive quantifiers, atomic
groups and look behinds, and without trails.
-/

namespace PathRouter.Regex
set_option autoImplicit false

namespace Node

variable {f : Flags} {n : Node} {p : Point} {g : Point → Option Point}

/-- No way is chosen where the next character fails the test that the tree begins with. -/
theorem choose_eq_none_of_lead {next : Option FlaggedTest}
    (hlead : (n.lead f next).all (·.holdsAfter p) = false)
    (hg : ∀ q, next.all (·.holdsAfter q) = false → g q = none) : n.choose f p g = none := by
  induction n generalizing f p g next with
  | empty => exact hg p hlead
  | char test =>
    rw [lead] at hlead
    split at hlead
    · refine Choice.single_stop fun c q hnext => ?_
      obtain ⟨⟨rest, hafter⟩, -⟩ := Point.forward?_eq_some hnext
      simpa [FlaggedTest.holdsAfter, FlaggedTest.holds, hafter] using hlead
    · exact absurd hlead (by simp)
  | seq a b iha ihb => exact iha hlead fun q hq => ihb hq hg
  | flagged on off body ih => exact ih hlead hg
  | _ => exact absurd hlead (by simp [lead])

/-- A tree that consists of one test chooses by that. -/
theorem choose_of_single? {single : FlaggedTest} (h : n.single? f = some single) :
    n.choose f = Choice.single single.holds := by
  induction n generalizing f with
  | char test =>
    obtain rfl := Option.some.inj h
    rfl
  | flagged on off body ih => exact ih h
  | _ => exact absurd h (by simp [single?])

/-! ## Searches through trees -/

section

variable {s : Setting} {a b body : Node}

theorem chooses_alt (ha : (a.run s.inner).Chooses none (a.choose s.flags))
    (hb : (b.run s.inner).Chooses none (b.choose s.flags))
    (hlast : (b.run s).Chooses s.next (b.choose s.flags)) :
    ((alt a b).run s).Chooses s.next ((alt a b).choose s.flags) := by
  have halternative {m : Node} (hm : (m.run s.inner).Chooses none (m.choose s.flags))
      {k : Point → Trail → Outcome} {g : Point → Option Point} (hk : Answers s.next k g) (p : Point)
      (t : Trail) : ((m.run s.inner).alternative s.repeated (m.lead s.flags none) p t k).spot? =
        m.choose s.flags p g := by
    refine Search.onward_spot? ⟨fun q u => hm q u k g (.of_spot hk.spot), fun q hq => ?_⟩ _ _ p t
    exact choose_eq_none_of_lead hq (by simp)
  intro p t k g hk
  rw [run, Outcome.spot?_orElse fun u => ?_, halternative ha hk]
  · rfl
  · split
    · exact hlast p u k g hk
    · exact halternative hb hk p u

theorem chooses_quantified {mode : Mode} {least : Nat} {most : Option Nat}
    (hmode : mode = .possessive → s.edition = .current) (hmost : ∀ m, most = some m → least ≤ m)
    (hbody : (body.run (s.copied mode)).Chooses none (body.choose s.flags)) :
    ((quantified mode least most body).run s).Chooses s.next
      ((quantified mode least most body).choose s.flags) := by
  intro p t k g hk
  rw [choose]
  cases hsingle : body.single? s.flags with
  | some single =>
    rw [run_quantified_characters hsingle, choose_of_single? hsingle]
    exact Search.chooses_characters single s.repeated mode hmost p t k g hk
  | none =>
    rw [run_quantified_copies hsingle]
    exact hbody.copies hmode s.repeated least most p t k g (.of_spot hk.spot)

theorem chooses_atomic (hbody : (body.run s.inner).Chooses none (body.choose s.flags)) :
    ((atomic body).run s).Chooses s.next ((atomic body).choose s.flags) := by
  intro p t k g hk
  rw [run, choose, ← hbody.first p t]
  cases Search.first (body.run s.inner) p t with
  | matched u => exact hk.spot u.spot u
  | failed u => rfl

theorem chooses_look {behind : Option Width} {negated : Bool}
    (hbody : (body.run s.inner).Chooses none (body.choose s.flags)) :
    ((look behind negated body).run s).Chooses s.next
      ((look behind negated body).choose s.flags) := by
  intro p t k g hk
  rw [run, choose]
  cases behind.elim (some p) fun w => p.back? w.least with
  | none =>
    dsimp only
    split
    · exact hk.spot p t
    · rfl
  | some q =>
    dsimp only
    rw [← hbody.first q t]
    cases Search.first (body.run s.inner) q t with
    | matched u => cases negated <;> simp [hk.spot]
    | failed u => cases negated <;> simp [hk.spot]

end

/-- The search through a tree that ignores marks ends where the tree tells. -/
theorem run_chooses {s : Setting} (hn : n.ignoresMarks s.edition = true) :
    (n.run s).Chooses s.next (n.choose s.flags) := by
  induction n generalizing s with
  | empty => exact fun p t k g hk => hk.spot p t
  | char test =>
    intro p t k g hk
    rw [run, choose, Choice.single]
    cases p.forward? with
    | none => rfl
    | some next =>
      dsimp only
      split
      · exact hk.spot _ _
      · rfl
  | anchor a =>
    intro p t k g hk
    rw [run, choose]
    split
    · exact hk.spot p t
    · rfl
  | seq a b iha ihb =>
    obtain ⟨ha, hb⟩ := Bool.and_eq_true_iff.1 hn
    intro p t k g hk
    refine @iha { s with next := b.lead s.flags s.next } ha p t _ _ ⟨fun q u => ?_, fun q hq => ?_⟩
    · exact ihb hb q u k g hk
    · exact choose_eq_none_of_lead hq hk.refused
  | alt a b iha ihb =>
    obtain ⟨ha, hb⟩ := Bool.and_eq_true_iff.1 hn
    exact chooses_alt (@iha s.inner ha) (@ihb s.inner hb) (ihb hb)
  | quantified mode least most body ih =>
    obtain ⟨hmode, hmost, hbody⟩ := ignoresMarks_quantified.1 hn
    exact chooses_quantified hmode hmost (@ih (s.copied mode) hbody)
  | group i body ih =>
    intro p t k g hk
    exact @ih s.inner hn p (t.enter i p) _ g (.of_spot fun q u => hk.spot q (u.leave i q))
  | flagged on off body ih => exact @ih { s with flags := s.flags.update on off } hn
  | atomic body ih => exact chooses_atomic (@ih s.inner hn)
  | look behind negated body ih => exact chooses_look (@ih s.inner hn)
  | backreference g => exact absurd hn (by simp [ignoresMarks])
  | conditional g yes no _ _ => exact absurd hn (by simp [ignoresMarks])

/-! ## Simplified trees -/

/-- Trees that choose alike count as the same. -/
theorem simplifyingLaws_choose : SimplifyingLaws fun f n m => n.choose f = m.choose f where
  refl _ := rfl
  trans := Eq.trans
  symm := Eq.symm
  seq ha hb := by
    funext p g
    rw [choose, choose, ha, hb]
  alt ha hb := by
    funext p g
    rw [choose, choose, ha, hb]
  quantified ha := by
    funext p g
    rw [choose, choose, ha]
  group ha := ha
  flagged ha := ha
  atomic ha := by
    funext p g
    rw [choose, choose, ha]
  look ha := by
    funext p g
    rw [choose, choose, ha]
  conditional _ _ := rfl
  emptySeq _ := rfl
  seqEmpty _ := rfl
  seqSeq _ _ _ := rfl
  scope {f} a := by
    show a.choose (f.update [] []) = a.choose f
    rw [f.update_nil]
  factor {f n} a b hn := by
    funext p g
    cases n with
    | char test =>
      change ((Choice.single _ p _).or (Choice.single _ p _)) = Choice.single _ p _
      unfold Choice.single
      split
      · split
        · rfl
        · rfl
      · rfl
    | anchor k =>
      simp only [choose]
      split
      · rfl
      · rfl
    | backreference i => rfl
    | _ => exact absurd hn (by simp [isAtom])
  test hsame := by
    funext p g
    rw [choose, choose, funext hsame]
  union {f t t' u} hunion := by
    funext p g
    simp only [choose, Choice.single]
    cases p.forward? with
    | none => rfl
    | some next =>
      obtain ⟨c, q⟩ := next
      simp only [hunion, Bool.or_eq_true]
      by_cases ht : t.holds f c = true
      · by_cases ht' : t'.holds f c = true
        · simp [ht, ht']
        · simp [ht, ht']
      · simp [ht]

theorem hereditary_ignoresMarks (edition : Edition) :
    Hereditary fun n => n.ignoresMarks edition = true where
  empty := rfl
  char _ := rfl
  seq _ _ := Bool.and_eq_true_iff
  alt _ _ := Bool.and_eq_true_iff
  quantified _ _ _ _ h := by
    obtain ⟨hmode, hmost, hbody⟩ := ignoresMarks_quantified.1 h
    exact ⟨hbody, fun _ hb => ignoresMarks_quantified.2 ⟨hmode, hmost, hb⟩⟩
  group _ _ h := ⟨h, fun _ hb => hb⟩
  flagged _ _ _ := Iff.rfl
  atomic _ h := ⟨h, fun _ hb => hb⟩
  look _ _ _ h := ⟨h, fun _ hb => hb⟩
  conditional _ _ _ h := absurd h (by simp [ignoresMarks])

end Node

/-- Accepts the end of the text. -/
def Point.ifLast (p : Point) : Option Point :=
  if p.after.isEmpty then some p else none

/-- An expression fully matches a text that is long enough if its tree, as it was read, chooses a way
to the end. -/
theorem Expression.isSome_fullMatch_iff_choose {e : Expression} {edition : Edition}
    (htree : e.tree.ignoresMarks edition = true)
    (hmerges : e.tree.mergesFaithfully e.startFlags = true) (w : Text) :
    (e.fullMatch edition w).isSome = true ↔
      (Point.ofText w 0).hasAhead e.width.least = true ∧
        (e.tree.choose e.startFlags (.ofText w 0) Point.ifLast).isSome = true := by
  let p := Point.ofText w 0
  let s : Setting := ⟨e.startFlags, false, none, edition⟩
  let k : Point → Trail → Outcome := fun q t =>
    if q.after.isEmpty then .matched (t.note q) else .failed t
  have hk (q : Point) (t : Trail) : (k q t).spot? = q.ifLast := by
    dsimp only [k]
    rw [Point.ifLast]
    split
    · rfl
    · rfl
  have hrun : (e.tree.simplified.run s p ⟨p, []⟩ k).spot? =
      e.tree.choose e.startFlags p Point.ifLast := by
    rw [Node.run_chooses ((Node.hereditary_ignoresMarks edition).simplified htree) p ⟨p, []⟩ k _
      (.of_spot hk), Node.simplifyingLaws_choose.simplified hmerges]
  have hsearch : e.fullMatch edition w =
      (if !p.hasAhead e.width.least then Outcome.failed ⟨p, []⟩
        else e.tree.simplified.run s p ⟨p, []⟩ k).trail? := rfl
  rw [hsearch, ← hrun, Outcome.spot?, Option.isSome_map]
  cases p.hasAhead e.width.least with
  | false => simp [Outcome.trail?]
  | true => simp

end PathRouter.Regex

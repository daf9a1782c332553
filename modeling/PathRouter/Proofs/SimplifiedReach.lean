import PathRouter.Proofs.SearchAdequacy
import PathRouter.Proofs.SimplifiedTree
import PathRouter.Proofs.SimplifyingLaws

/-!
# What a simplified tree reaches

Simplifying a regular tree changes neither that it is regular nor what it reaches, as long as
alternatives stand where case matters. So an expression with a regular tree is found to match up to
some point if and only if its tree, as it was read, reaches that point.
-/

namespace PathRouter.Regex
set_option autoImplicit false

namespace Node

variable {f : Flags} {p q : Point} {n : Node} {ns : List Node}

/-- A sequence reaches a point if its parts do, one after the other. -/
theorem reaches_cons :
    (ofList (n :: ns)).Reaches f p q ↔ ∃ r, n.Reaches f p r ∧ (ofList ns).Reaches f r q := by
  cases ns with
  | nil =>
    constructor
    · exact fun h => ⟨q, h, rfl⟩
    · rintro ⟨r, h, rfl⟩
      exact h
  | cons m ns => rfl

/-- Trees that reach the same points count as the same. -/
theorem simplifyingLaws_reaches :
    SimplifyingLaws fun f n m => ∀ p q, n.Reaches f p q ↔ m.Reaches f p q where
  refl _ _ _ := Iff.rfl
  trans hab hbc p q := (hab p q).trans (hbc p q)
  symm hab p q := (hab p q).symm
  seq ha hb p q := exists_congr fun r => and_congr (ha p r) (hb r q)
  alt ha hb p q := or_congr (ha p q) (hb p q)
  quantified ha p q := exists_congr fun _ => and_congr_right fun _ => Copies.congr ha
  group ha := ha
  flagged ha := ha
  atomic _ _ _ := Iff.rfl
  look := by
    intro f behind negated a a' ha p q
    cases behind with
    | none => exact and_congr_right fun _ => iff_congr (exists_congr fun r => ha p r) Iff.rfl
    | some w => exact Iff.rfl
  conditional _ _ _ _ := Iff.rfl
  emptySeq _ p q := by
    constructor
    · rintro ⟨r, rfl, h⟩
      exact h
    · exact fun h => ⟨p, rfl, h⟩
  seqEmpty _ p q := by
    constructor
    · rintro ⟨r, h, rfl⟩
      exact h
    · exact fun h => ⟨q, h, rfl⟩
  seqSeq _ _ _ p q := by
    constructor
    · rintro ⟨s, ⟨r, ha, hb⟩, hc⟩
      exact ⟨r, ha, s, hb, hc⟩
    · rintro ⟨r, ha, s, hb, hc⟩
      exact ⟨s, ⟨r, ha, hb⟩, hc⟩
  scope a p q := by
    rename_i f
    show a.Reaches (f.update [] []) p q ↔ _
    rw [f.update_nil]
  factor _ _ _ p q := by
    constructor
    · rintro (⟨r, hn, h⟩ | ⟨r, hn, h⟩)
      · exact ⟨r, hn, .inl h⟩
      · exact ⟨r, hn, .inr h⟩
    · rintro ⟨r, hn, h | h⟩
      · exact .inl ⟨r, hn, h⟩
      · exact .inr ⟨r, hn, h⟩
  test hsame p q := exists_congr fun c => and_congr_right fun _ =>
    iff_of_eq (congrArg (· = true) (hsame c))
  union hunion p q := by
    constructor
    · rintro (⟨c, hnext, h⟩ | ⟨c, hnext, h⟩)
      · exact ⟨c, hnext, (hunion c).trans (Bool.or_eq_true_iff.2 (.inl h))⟩
      · exact ⟨c, hnext, (hunion c).trans (Bool.or_eq_true_iff.2 (.inr h))⟩
    · rintro ⟨c, hnext, h⟩
      have heither := Bool.or_eq_true_iff.1 ((hunion c).symm.trans h)
      exact heither.imp (⟨c, hnext, ·⟩) (⟨c, hnext, ·⟩)

/-- Simplifying a tree does not change what it reaches. -/
theorem reaches_simplified (hmerges : n.mergesFaithfully f = true) :
    n.simplified.Reaches f p q ↔ n.Reaches f p q :=
  simplifyingLaws_reaches.simplified hmerges p q

/-! ## Regular trees -/

/-- Simplifying keeps a tree regular. -/
theorem hereditary_isRegular : Hereditary fun n => n.isRegular = true where
  empty := rfl
  char _ := rfl
  seq _ _ := Bool.and_eq_true_iff
  alt _ _ := Bool.and_eq_true_iff
  quantified _ _ _ _ h := by
    obtain ⟨hmode, hmost, hbody⟩ := isRegular_quantified.1 h
    exact ⟨hbody, fun _ hb => isRegular_quantified.2 ⟨hmode, hmost, hb⟩⟩
  group _ _ h := ⟨h, fun _ hb => hb⟩
  flagged _ _ _ := Iff.rfl
  atomic _ h := absurd h (by simp [isRegular])
  look behind _ _ h := by
    cases behind with
    | none => exact ⟨h, fun _ hb => hb⟩
    | some w => exact absurd h (by simp [isRegular])
  conditional _ _ _ h := absurd h (by simp [isRegular])

theorem mergesFaithfully_ofList (h : ∀ n ∈ ns, n.mergesFaithfully f = true) :
    (ofList ns).mergesFaithfully f = true := by
  induction ns with
  | nil => rfl
  | cons n ns ih =>
    rw [List.forall_mem_cons] at h
    cases ns with
    | nil => exact h.1
    | cons m ns => exact Bool.and_eq_true_iff.2 ⟨h.1, ih h.2⟩

end Node

/-- A search finds a match up to some point that is accepted exactly if the tree, as it was read,
reaches such a point. -/
theorem Expression.isMatched_search_iff {e : Expression} (htree : e.tree.isRegular = true)
    (hmerges : e.tree.mergesFaithfully e.startFlags = true)
    (hwidth : ∃ groups, e.width = e.tree.width groups) (edition : Edition)
    (p : Point) (accepts : Point → Bool) :
    (e.search edition p accepts).IsMatched ↔
      ∃ q, e.tree.Reaches e.startFlags p q ∧ accepts q = true := by
  let s : Setting := ⟨e.startFlags, false, none, edition⟩
  let k : Point → Trail → Outcome := fun q t =>
    if accepts q then .matched (t.note q) else .failed t
  have hreaches (q : Point) : e.tree.simplified.Reaches e.startFlags p q ↔
      e.tree.Reaches e.startFlags p q := Node.reaches_simplified hmerges
  obtain ⟨hsound, hcomplete⟩ := Node.run_adequate (Node.hereditary_isRegular.simplified htree)
  have hsearch : e.search edition p accepts = if !p.hasAhead e.width.least then .failed ⟨p, []⟩
      else e.tree.simplified.run s p ⟨p, []⟩ k := rfl
  rw [hsearch]
  constructor
  · intro h
    split at h
    · exact h.elim
    · have hends := hsound s 0 [] (Node.groupsFrom_zero _) (by simp)
        (fun _ => ∃ q, e.tree.Reaches e.startFlags p q ∧ accepts q = true) p ⟨p, []⟩ k
        (knows_nil _) ?_
      · obtain ⟨t, -, hfound⟩ := hends.of_isMatched h
        exact hfound
      · intro q u hq hu
        dsimp only [k]
        split
        · exact ⟨q, (hreaches q).1 hq, ‹_›⟩
        · exact hu
  · rintro ⟨q, hq, haccepts⟩
    obtain ⟨groups, hwidth⟩ := hwidth
    have hahead : p.hasAhead e.width.least = true := by
      have := Node.least_le_of_reaches groups hq
      rw [Point.hasAhead_iff, hwidth]
      omega
    rw [hahead]
    apply hcomplete s p q k ((hreaches q).2 hq) rfl
    intro u
    dsimp only [k]
    rw [if_pos haccepts]
    trivial

end PathRouter.Regex

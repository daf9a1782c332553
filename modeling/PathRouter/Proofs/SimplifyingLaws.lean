import PathRouter.Regex.Lead
import PathRouter.Regex.Simplify

/-!
# Laws that make simplifying harmless

Simplifying moves atoms in front of an alternation, makes one class of several characters and takes
away groups that capture nothing. Two trees can count as the same in more than one way: they match
up to the same points, or a search chooses the same way through both. Whatever is meant, a tree is
the same as what it is simplified to if these steps respect it and alternatives stand where case
matters.
-/

namespace PathRouter.Regex
set_option autoImplicit false

namespace Node

/-- Alternatives stand only where case matters, so that nothing changes if they are merged into a
class. -/
def mergesFaithfully (f : Flags) : Node → Bool
  | empty | char _ | anchor _ | backreference _ => true
  | alt a b => !f.ignoreCase && (a.mergesFaithfully f && b.mergesFaithfully f)
  | seq a b | conditional _ a b => a.mergesFaithfully f && b.mergesFaithfully f
  | flagged on off body => body.mergesFaithfully (f.update on off)
  | quantified _ _ _ body | group _ body | atomic body | look _ _ body => body.mergesFaithfully f

/-- Only an alternation has more than one alternative. -/
theorem branches_eq_singleton {n : Node} (h : n.isAlternation = false) :
    ∃ ns, n.branches = [ns] := by
  cases n with
  | alt a b => exact absurd h (by simp [isAlternation])
  | flagged on off body =>
    match on, off with
    | [], [] => exact ⟨_, rfl⟩
    | [], _ :: _ => exact ⟨_, rfl⟩
    | _ :: _, _ => exact ⟨_, rfl⟩
  | _ => exact ⟨_, rfl⟩

theorem branches_ne_nil (n : Node) : n.branches ≠ [] := by
  cases halt : n.isAlternation with
  | false =>
    obtain ⟨ns, hns⟩ := branches_eq_singleton halt
    rw [hns]
    exact List.cons_ne_nil _ _
  | true =>
    cases n with
    | alt a b => exact List.cons_ne_nil _ _
    | _ => exact absurd halt (by simp [isAlternation])

end Node

theorem factor_ne_nil (first : List Node) (others : List (List Node)) :
    (factor first others).2 ≠ [] := by
  induction first generalizing others with
  | nil => exact List.cons_ne_nil _ _
  | cons n rest ih =>
    rw [factor]
    split
    · exact ih _
    · exact List.cons_ne_nil _ _

theorem Flags.update_nil (f : Flags) : f.update [] [] = f := by
  simp [Flags.update]

/-- Where case matters, a character is in a class if it is in one of the members as written. -/
theorem isMember_eq_any {f : Flags} (hf : f.ignoreCase = false) (c : CodePoint)
    (members : List Member) : f.isMember c members = members.any (·.holds f.ascii c) := by
  simp [Flags.isMember, hf]

/-- What a sameness of trees under flags has to respect. -/
structure SimplifyingLaws (Same : Flags → Node → Node → Prop) : Prop where
  refl : ∀ {f} n, Same f n n
  trans : ∀ {f a b c}, Same f a b → Same f b c → Same f a c
  symm : ∀ {f a b}, Same f a b → Same f b a
  seq : ∀ {f a a' b b'}, Same f a a' → Same f b b' → Same f (.seq a b) (.seq a' b')
  alt : ∀ {f a a' b b'}, Same f a a' → Same f b b' → Same f (.alt a b) (.alt a' b')
  quantified : ∀ {f mode least most a a'}, Same f a a' →
    Same f (.quantified mode least most a) (.quantified mode least most a')
  group : ∀ {f i a a'}, Same f a a' → Same f (.group i a) (.group i a')
  flagged : ∀ {f on off a a'}, Same (f.update on off) a a' →
    Same f (.flagged on off a) (.flagged on off a')
  atomic : ∀ {f a a'}, Same f a a' → Same f (.atomic a) (.atomic a')
  look : ∀ {f behind negated a a'}, Same f a a' →
    Same f (.look behind negated a) (.look behind negated a')
  conditional : ∀ {f g a a' b b'}, Same f a a' → Same f b b' →
    Same f (.conditional g a b) (.conditional g a' b')
  emptySeq : ∀ {f} a, Same f (.seq .empty a) a
  seqEmpty : ∀ {f} a, Same f (.seq a .empty) a
  seqSeq : ∀ {f} a b c, Same f (.seq (.seq a b) c) (.seq a (.seq b c))
  scope : ∀ {f} a, Same f (.flagged [] [] a) a
  /-- An atom that two alternatives begin with. -/
  factor : ∀ {f n} a b, n.isAtom = true → Same f (.alt (.seq n a) (.seq n b)) (.seq n (.alt a b))
  test : ∀ {f t t'}, (∀ c, t.holds f c = t'.holds f c) → Same f (.char t) (.char t')
  /-- A test for what passes either of two tests. -/
  union : ∀ {f t t' u}, (∀ c, u.holds f c = (t.holds f c || t'.holds f c)) →
    Same f (.alt (.char t) (.char t')) (.char u)

namespace SimplifyingLaws

variable {Same : Flags → Node → Node → Prop} {f : Flags} {n : Node} {ns ms : List Node}

section

variable (h : SimplifyingLaws Same)

include h

/-! ## Lists of trees -/

theorem ofList_cons : Same f (.ofList (n :: ns)) (.seq n (.ofList ns)) := by
  cases ns with
  | nil => exact h.symm (h.seqEmpty n)
  | cons m ns => exact h.refl _

theorem ofList_append : Same f (.ofList (ns ++ ms)) (.seq (.ofList ns) (.ofList ms)) := by
  induction ns with
  | nil => exact h.symm (h.emptySeq _)
  | cons n ns ih =>
    have hfirst : Same f (.ofList (n :: (ns ++ ms))) (.seq n (.seq (.ofList ns) (.ofList ms))) :=
      h.trans h.ofList_cons (h.seq (h.refl n) ih)
    exact h.trans hfirst (h.trans (h.symm (h.seqSeq ..)) (h.seq (h.symm h.ofList_cons) (h.refl _)))

/-- Trees that are the same one by one are the same as alternatives. -/
theorem ofAlternatives_map {α : Type} {a b : α → Node} {xs : List α}
    (hsame : ∀ x ∈ xs, Same f (a x) (b x)) :
    Same f (.ofAlternatives (xs.map a)) (.ofAlternatives (xs.map b)) := by
  induction xs with
  | nil => exact h.refl _
  | cons x xs ih =>
    rw [List.forall_mem_cons] at hsame
    cases xs with
    | nil => exact hsame.1
    | cons y xs => exact h.alt hsame.1 (ih hsame.2)

theorem asAlternative : Same f (asAlternative ns) (.ofList ns) := by
  unfold Regex.asAlternative
  split
  · rename_i a b heq
    rw [heq]
    exact h.scope _
  · exact h.refl _

/-! ## Merging alternatives -/

/-- An atom that all alternatives begin with can stand before them. -/
theorem front {tails : List (List Node)} (hn : n.isAtom = true) (hne : tails ≠ []) :
    Same f (.ofAlternatives (tails.map fun xs => .ofList (n :: xs)))
      (.seq n (.ofAlternatives (tails.map .ofList))) := by
  induction tails with
  | nil => exact absurd rfl hne
  | cons xs tails ih =>
    cases tails with
    | nil => exact h.ofList_cons
    | cons ys tails =>
      have hrest : Same f (.ofAlternatives ((ys :: tails).map fun xs => .ofList (n :: xs)))
          (.seq n (.ofAlternatives ((ys :: tails).map .ofList))) := ih (by simp)
      exact h.trans (h.alt h.ofList_cons hrest) (h.factor _ _ hn)

/-- What all alternatives begin with can be matched before one of them is chosen. -/
theorem alternatives_factor (first : List Node) (others : List (List Node)) :
    Same f (.ofAlternatives ((first :: others).map .ofList))
      (.seq (.ofList (Regex.factor first others).1)
        (.ofAlternatives ((Regex.factor first others).2.map .ofList))) := by
  induction first generalizing others with
  | nil => exact h.symm (h.emptySeq _)
  | cons n rest ih =>
    rw [Regex.factor]
    split
    · rename_i hn
      simp only [Bool.and_eq_true, List.all_eq_true, beq_iff_eq] at hn
      obtain ⟨hatom, hheads⟩ := hn
      have htails : (n :: rest) :: others = (rest :: others.map List.tail).map (n :: ·) := by
        have hothers : others.map ((n :: ·) ∘ List.tail) = others.map id := by
          refine List.map_congr_left fun xs hxs => ?_
          obtain ⟨zs, rfl⟩ := List.head?_eq_some_iff.1 (hheads xs hxs)
          rfl
        rw [List.map_cons, List.map_map, hothers, List.map_id]
      rw [htails, List.map_map]
      exact h.trans (h.front hatom (by simp)) (h.trans (h.seq (h.refl n) (ih _))
        (h.trans (h.symm (h.seqSeq ..)) (h.seq (h.symm h.ofList_cons) (h.refl _))))
    · exact h.symm (h.emptySeq _)

/-- The members of a single character are the members of its class. -/
theorem singleMembers (hf : f.ignoreCase = false) {members : List Member}
    (hns : singleMembers? ns = some members) : Same f (.ofList ns) (.char (.set false members)) := by
  unfold singleMembers? at hns
  split at hns
  · obtain rfl := Option.some.inj hns
    exact h.test fun c => by
      simp [CharTest.holds, Flags.isSame, isMember_eq_any hf, Member.holds, hf]
  · obtain rfl := Option.some.inj hns
    exact h.refl _
  · exact absurd hns (by simp)

/-- Alternatives that are single characters become one class. -/
theorem singles (hf : f.ignoreCase = false) {alternatives : List (List Node)}
    {members : List (List Member)} (hne : alternatives ≠ [])
    (hmembers : alternatives.mapM singleMembers? = some members) :
    Same f (.ofAlternatives (alternatives.map .ofList))
      (.char (.set false members.flatten.eraseDups)) := by
  have hunion : Same f (.ofAlternatives (alternatives.map .ofList))
      (.char (.set false members.flatten)) := by
    induction alternatives generalizing members with
    | nil => exact absurd rfl hne
    | cons xs alternatives ih =>
      simp only [List.mapM_cons, Option.bind_eq_bind, Option.bind_eq_some_iff, Option.pure_def,
        Option.some.injEq] at hmembers
      obtain ⟨ms, hms, rest, hrest, rfl⟩ := hmembers
      cases alternatives with
      | nil =>
        obtain rfl : rest = [] := by simpa using hrest.symm
        rw [List.flatten_cons, List.flatten_nil, List.append_nil]
        exact h.singleMembers hf hms
      | cons ys alternatives =>
        refine h.trans (h.alt (h.singleMembers hf hms) (ih (by simp) hrest)) (h.union fun c => ?_)
        simp [CharTest.holds, isMember_eq_any hf, List.any_append]
  refine h.trans hunion (h.test fun c => ?_)
  simp only [CharTest.holds, isMember_eq_any hf]
  rw [Bool.eq_iff_iff]
  simp only [bne_iff_ne, ne_eq, Bool.not_eq_false, List.any_eq_true, List.mem_eraseDups]

/-- Merged alternatives are the same as the alternatives. -/
theorem merged (hf : f.ignoreCase = false) {alternatives : List (List Node)}
    (hne : alternatives ≠ []) : Same f (.ofList (mergeAlternatives alternatives))
      (.ofAlternatives (alternatives.map .ofList)) := by
  match alternatives with
  | [] => exact absurd rfl hne
  | [only] => exact h.refl _
  | first :: second :: others =>
    have hfactor := h.symm (h.alternatives_factor (f := f) first (second :: others))
    have hne := factor_ne_nil first (second :: others)
    rw [mergeAlternatives]
    · dsimp only
      split
      · rename_i members hmembers
        refine h.trans (h.trans h.ofList_append ?_) hfactor
        exact h.seq (h.refl _) (h.symm (h.singles hf hne hmembers))
      · refine h.trans (h.trans h.ofList_append ?_) hfactor
        rw [show Node.ofList [.ofAlternatives _] = _ from rfl]
        exact h.seq (h.refl _) (h.ofAlternatives_map fun xs _ => h.asAlternative)
    · simp

/-! ## Simplified trees -/

/-- Merging the alternatives of a tree changes nothing where case matters, or if there is one. -/
theorem simplified_branches (hn : n.mergesFaithfully f = true) :
    Same f n.simplified (.ofAlternatives (n.branches.map .ofList)) := by
  cases halt : n.isAlternation with
  | false =>
    obtain ⟨ns, hns⟩ := Node.branches_eq_singleton halt
    rw [Node.simplified, hns]
    exact h.refl _
  | true =>
    cases n with
    | alt a b =>
      have hcase : f.ignoreCase = false := by
        have hmerges := (Bool.and_eq_true_iff.1 hn).1
        simpa using hmerges
      exact h.merged hcase (List.cons_ne_nil _ _)
    | _ => exact absurd halt (by simp [Node.isAlternation])

/-- A tree is the same as its simplified alternatives. -/
theorem branches (hn : n.mergesFaithfully f = true) :
    Same f (.ofAlternatives (n.branches.map .ofList)) n := by
  have hparts {n : Node} {f : Flags} (hn : n.mergesFaithfully f = true)
      (ih : Same f (.ofAlternatives (n.branches.map .ofList)) n) : Same f n.simplified n :=
    h.trans (h.simplified_branches hn) ih
  induction n generalizing f with
  | empty => exact h.refl _
  | char test => exact h.refl _
  | anchor a => exact h.refl _
  | backreference g => exact h.refl _
  | seq a b iha ihb =>
    obtain ⟨ha, hb⟩ := Bool.and_eq_true_iff.1 hn
    exact h.trans h.ofList_append (h.seq (hparts ha (iha ha)) (hparts hb (ihb hb)))
  | alt a b iha ihb =>
    obtain ⟨ha, hb⟩ := Bool.and_eq_true_iff.1 (Bool.and_eq_true_iff.1 hn).2
    have hrest := ihb hb
    rw [Node.branches]
    cases hbranches : b.branches with
    | nil => exact absurd hbranches b.branches_ne_nil
    | cons xs others =>
      rw [hbranches] at hrest
      exact h.alt (hparts ha (iha ha)) hrest
  | quantified mode least most body ih => exact h.quantified (hparts hn (ih hn))
  | group i body ih => exact h.group (hparts hn (ih hn))
  | flagged on off body ih =>
    have hbody : Same (f.update on off) body.simplified body := hparts hn (ih hn)
    match on, off with
    | [], [] => exact h.trans (h.symm (h.scope _)) (h.flagged hbody)
    | [], _ :: _ => exact h.flagged hbody
    | _ :: _, _ => exact h.flagged hbody
  | atomic body ih => exact h.atomic (hparts hn (ih hn))
  | look behind negated body ih => exact h.look (hparts hn (ih hn))
  | conditional g a b iha ihb =>
    obtain ⟨ha, hb⟩ := Bool.and_eq_true_iff.1 hn
    exact h.conditional (hparts ha (iha ha)) (hparts hb (ihb hb))

/-- A tree is the same as the simplified one. -/
theorem simplified (hn : n.mergesFaithfully f = true) : Same f n.simplified n :=
  h.trans (h.simplified_branches hn) (h.branches hn)

end

end SimplifyingLaws

end PathRouter.Regex

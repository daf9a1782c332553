import PathRouter.Proofs.SplicedSteps

/-!
# Reading an inline expression in its place

The reader of a compiled expression, inside the group of an inline expression, goes along with the
reader of that expression alone. What holds after each construct is `Beside`: the same groups are
open in both places, and they hold images of the same trees. So the group is closed where the inline
expression ends, and holds the image of its tree.
-/

namespace PathRouter.Regex
set_option autoImplicit false

section Operations

variable {narrowed : Bool} {first : Nat} {base : List Frame} {names : List Nat} {p n : Progress}

theorem Beside.opened (h : Beside narrowed first base names p n) (name name' : Option Text)
    (hname : ∀ t, name' = some t → n.groups.ofName? t = none) :
    Beside narrowed first base names { p with groups := p.groups.opened name }
      { n with groups := n.groups.opened name' } := by
  refine ⟨h.stack, h.flags, ?_, fun k hk => ?_⟩
  · rw [Groups.next_opened]
    exact Nat.le_succ_of_le h.next
  · cases name' with
    | none => exact h.named k hk
    | some t =>
      rw [Groups.ofName?_opened, if_neg]
      · exact h.named k hk
      · rintro rfl
        exact absurd ((hname _ rfl).symm.trans (h.named k hk)) (by simp)

/-- A group is opened in both places, or in neither. -/
theorem begin_agrees (h : Beside narrowed first base names p n) (hbase : base ≠ []) {i j : Nat}
    {r r' : Text} {o o' : Opening} (ho : SameOpening false o o') :
    Agrees false (Beside narrowed first base names) (p.begin i r o) (n.begin j r' o') := by
  have hv := h.verbose
  cases ho with
  | capture name =>
    refine .of_related fun a b ha hb => ?_
    simp only [Progress.begin] at ha hb
    split at ha
    · exact absurd ha fault_ne_ok
    · split at hb
      · exact absurd hb fault_ne_ok
      · rename_i hname
        obtain rfl := Except.ok.inj ha
        obtain rfl := Except.ok.inj hb
        rw [hv]
        refine (h.enter (.capture _ h.next) i j _).opened name name ?_
        rintro t rfl
        show n.groups.ofName? t = none
        simpa using hname
  | scope on off =>
    refine .ok ?_
    rw [hv]
    exact h.enter (.scope on off) i j _
  | atomic =>
    refine .ok ?_
    rw [hv]
    exact h.enter .atomic i j _
  | look behind negated =>
    cases behind with
    | false =>
      refine .ok ?_
      rw [hv]
      exact h.enter (.lookahead negated) i j _
    | true =>
      refine .ok ?_
      rw [hv]
      have := h.enter (.lookbehind negated p.behind.isNone n.behind.isNone) i j p.frame.verbose
      exact ⟨this.stack, this.flags, this.next, this.named⟩
  | @conditional g g' a a' =>
    have henter := h.enter (.conditional g g') i j p.frame.verbose
    refine .of_related fun q m hq hm => ?_
    have hp : ∃ asked, q = { p.enter (.conditional g) i p.frame.verbose with asked := asked } := by
      simp only [Progress.begin] at hq
      split at hq
      · split at hq
        · exact ⟨_, (Except.ok.inj hq).symm⟩
        · exact ⟨_, (Except.ok.inj hq).symm⟩
      · exact ⟨_, (Except.ok.inj hq).symm⟩
    have hn : ∃ asked, m = { n.enter (.conditional g') j n.frame.verbose with asked := asked } := by
      simp only [Progress.begin] at hm
      split at hm
      · split at hm
        · exact ⟨_, (Except.ok.inj hm).symm⟩
        · exact ⟨_, (Except.ok.inj hm).symm⟩
      · exact ⟨_, (Except.ok.inj hm).symm⟩
    obtain ⟨_, rfl⟩ := hp
    obtain ⟨_, rfl⟩ := hn
    rw [hv]
    exact ⟨henter.stack, henter.flags, henter.next, henter.named⟩
  | reference _ => exact .ok (h.add (.backreference _ _))
  | comment => exact .ok h
  | globals on =>
    have houter : n.outer.isEmpty = false := by simpa using h.outer_ne hbase
    refine .of_related fun a b _ hb => ?_
    simp only [Progress.begin, houter, Bool.false_and, Bool.false_eq_true, if_false] at hb
    exact absurd hb fault_ne_ok

theorem nextAlternative_agrees (h : Beside narrowed first base names p n) {i j : Nat} :
    Agrees false (Beside narrowed first base names) (p.nextAlternative i) (n.nextAlternative j) := by
  unfold Progress.nextAlternative
  split
  · exact .fault_left
  · split
    · exact .fault_right
    · refine .ok ⟨h.stack.replace rfl rfl rfl ?_, h.flags, h.next, h.named⟩
      exact ⟨h.verbose, .cons (h.stack.top.current Mirrors.isTreewise) h.stack.top.finished, .nil⟩

/-- A closed group becomes the image of the group that is closed with it. -/
theorem closing_mirrors (h : FrameMirrors (Mirrors narrowed first) p.frame n.frame)
    (hk : KindMirrors first p.frame.kind n.frame.kind) :
    Mirrors narrowed first p.closing.1 n.closing.1 := by
  have hbody := h.body Mirrors.isTreewise
  have hcurrent := h.current Mirrors.isTreewise
  have hfinished := h.finished
  unfold Progress.closing
  generalize p.frame.kind = k at hk ⊢
  generalize n.frame.kind = k' at hk ⊢
  cases hk with
  | capture i hle => exact .group hle hbody
  | scope on off => exact .flagged on off hbody
  | atomic => exact .atomic hbody
  | lookahead negated => exact .look negated rfl hbody
  | lookbehind negated o o' => exact .look negated rfl hbody
  | conditional g g' =>
    dsimp only
    cases hfs : p.frame.finished with
    | nil =>
      rw [hfs] at hfinished
      rw [List.forall₂_nil_left_iff.1 hfinished]
      exact .conditional g g' hcurrent .empty
    | cons yes rest =>
      rw [hfs] at hfinished
      obtain ⟨yes', rest', hyes, -, he⟩ := List.forall₂_cons_left_iff.1 hfinished
      rw [he]
      exact .conditional g g' hyes hcurrent

theorem closing_groups (n : Progress) : n.closing.2.next = n.groups.next ∧
    ∀ name, n.closing.2.ofName? name = n.groups.ofName? name := by
  unfold Progress.closing
  split
  · exact ⟨rfl, fun _ => rfl⟩
  · exact ⟨Groups.next_closed .., fun _ => rfl⟩
  · exact ⟨rfl, fun _ => rfl⟩
  · exact ⟨rfl, fun _ => rfl⟩
  · exact ⟨rfl, fun _ => rfl⟩
  · exact ⟨rfl, fun _ => rfl⟩
  · split <;> exact ⟨rfl, fun _ => rfl⟩

theorem leave_beside (h : Beside narrowed first base names p n) {f : Frame} {fs : List Frame}
    (hp : p.outer = f :: fs) :
    ∃ g gs, n.outer = g :: gs ∧ Beside narrowed first base names (p.leave f fs) (n.leave g gs) := by
  have hstack := h.stack
  rw [hp] at hstack
  obtain ⟨hk, hrest⟩ := hstack.of_inner
  obtain ⟨g, gs, hn⟩ := hrest.exists_cons
  rw [hn] at hrest
  obtain ⟨hnext, hnamed⟩ := closing_groups n
  refine ⟨g, gs, hn, ?_⟩
  refine ⟨hrest.replace rfl rfl rfl ?_, h.flags, ?_, fun k hk => ?_⟩
  · exact hrest.top.add (closing_mirrors hstack.top hk)
  · exact hnext ▸ h.next
  · exact (hnamed _).trans (h.named k hk)

theorem quantify_agrees {T : Text → Text → Prop} (hT : Corresponds T)
    (h : Beside narrowed first base names p n) {s t : Text} (hs : T s t) {bounds : Bounds}
    {i j : Nat} : Agrees false (Reads (Beside narrowed first base names) T) (p.quantify bounds i s)
      (n.quantify bounds j t) := by
  have hparts := h.stack.top.parts
  unfold Progress.quantify
  split
  · exact .fault_left
  · exact .fault_left
  · exact .fault_left
  · rename_i part parts _ _ hp
    rw [hp] at hparts
    obtain ⟨part', parts', hpart, hrest, he⟩ := List.forall₂_cons_left_iff.1 hparts
    split
    · exact .fault_right
    · exact .fault_right
    · exact .fault_right
    · rename_i part'' parts'' _ _ hn
      obtain ⟨rfl, rfl⟩ := List.cons.inj (hn.symm.trans he)
      refine (readMode_agrees hT hs).bind ?_
      rintro ⟨mode, r⟩ ⟨mode', r'⟩ ⟨hmode, hr⟩
      obtain rfl : mode = mode' := hmode
      refine .ok ⟨⟨h.stack.replace rfl rfl rfl ?_, h.flags, h.next, h.named⟩, hr⟩
      exact ⟨h.verbose, h.stack.top.finished, .cons (.quantified mode _ _ hpart) hrest⟩

/-! ## The whole of an inline expression -/

/-- The reader in the group of an inline expression goes along with the reader of the expression. -/
theorem Beside.goesAlong (hbase : base ≠ []) :
    GoesAlong false narrowed (Mirrors narrowed first) (Beside narrowed first base names) where
  anchor := .anchor
  backreference := fun g => .backreference g g
  char := .char
  surroundings := fun _ he => absurd he (by simp)
  verbose := Beside.verbose
  add := fun h hpart => h.add hpart
  leave := fun h hp => leave_beside h hp
  begin := fun h ho => begin_agrees h hbase ho
  nextAlternative := fun h => nextAlternative_agrees h
  quantify := fun hT h hs => quantify_agrees hT h hs

variable {tail s t : Text}

/-- The rest of an inline expression is read in its place. -/
theorem run_beside (hbase : base ≠ []) (h : Beside narrowed first base names p n)
    (hs : Spliced narrowed (')' :: tail) s t)
    (hquiet : narrowed = true → everyConstruct (fun p s => !strayAt ['['] p s) p s = true ∧
      everyConstruct (fun p s => !slashAt p s) p s = true)
    {end' : Progress} {result : Progress × Text} (hx : readConstructs p s = .ok (end', []))
    (hend : end'.outer = []) (hy : readConstructs n t = .ok result) :
    ∃ m, Beside narrowed first base names end' m ∧ Leads n t m (')' :: tail) := by
  refine (Beside.goesAlong hbase).run (.inr ⟨tail, rfl⟩) (fun _ p n h houter => ?_) h hs
    (fun hn => (hquiet hn).1) (fun hn => (hquiet hn).2) nofun hx hend fun _ => ⟨result, hy⟩
  have hstack := h.stack
  rw [houter] at hstack
  exact hstack.eq_base.2.2

end Operations

end PathRouter.Regex

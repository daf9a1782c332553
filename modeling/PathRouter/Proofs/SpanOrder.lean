import PathRouter.Proofs.SearchInvariant
import PathRouter.Proofs.SplitSearch

/-!
# Where captures lie

Every match of a compiled pattern captures from left to right. A capture starts no earlier than the
one before it stopped, and the match ends as the extent demands after all of them. This holds
whatever the inline expressions are, as long as each is a tree of its own, with groups of its own,
inside the group of its capture. How far an inline expression reaches from where it starts is a
parameter.
-/

namespace PathRouter
set_option autoImplicit false

open Regex

/-- A point of the text. -/
def InText (text : Text) (p : Point) : Prop :=
  p.before.reverse ++ p.after = text

/-- There is no slash between the points. -/
def SlashFree (p q : Point) : Prop :=
  ∃ n, n ≤ p.after.length ∧ q = p.skip n ∧ '/' ∉ p.after.take n

namespace InText

variable {text : Text} {p : Point}

theorem position_le (h : InText text p) : p.position ≤ text.length := by
  have := congrArg List.length h
  simp only [List.length_append, List.length_reverse] at this
  unfold Point.position
  omega

theorem drop_eq (h : InText text p) : text.drop p.position = p.after := by
  rw [← h, Point.position, ← List.length_reverse, List.drop_left]

theorem skip (h : InText text p) (n : Nat) : InText text (p.skip n) := by
  unfold InText Point.skip
  rw [List.reverse_append, List.reverse_reverse, List.append_assoc, List.take_append_drop]
  exact h

theorem ofText (text : Text) (n : Nat) : InText text (.ofText text n) := by
  unfold InText Point.ofText
  rw [List.reverse_reverse, List.take_append_drop]

theorem forward {q : Point} {c : Char} (h : InText text p)
    (hnext : p.forward? = some (c, q)) : InText text q := by
  obtain ⟨-, rfl⟩ := Point.forward?_eq_some hnext
  exact h.skip 1

theorem mem_of_forward {q : Point} {c : Char} (h : InText text p)
    (hnext : p.forward? = some (c, q)) : c ∈ text := by
  obtain ⟨⟨rest, hafter⟩, -⟩ := Point.forward?_eq_some hnext
  rw [← h, hafter]
  simp

theorem retreats (text : Text) : Retreats (InText text) := by
  intro p n q hp hq
  unfold Point.back? at hq
  split at hq
  · exact absurd hq (by simp)
  · obtain rfl := Option.some.inj hq
    show (p.before.drop n).reverse ++ ((p.before.take n).reverse ++ p.after) = text
    rw [← List.append_assoc, ← List.reverse_append, List.take_append_drop]
    exact hp

end InText

namespace SlashFree

theorem refl (p : Point) : SlashFree p p :=
  ⟨0, Nat.zero_le _, rfl, by simp⟩

theorem trans {p q r : Point} (h : SlashFree p q) (h' : SlashFree q r) : SlashFree p r := by
  obtain ⟨n, hn, rfl, hslash⟩ := h
  obtain ⟨k, hk, rfl, hslash'⟩ := h'
  rw [Point.skip_after] at hslash'
  rw [Point.skip_after, List.length_drop] at hk
  refine ⟨n + k, by omega, Point.skip_skip p n k, ?_⟩
  rw [List.take_add, List.mem_append]
  exact fun hm => hm.elim hslash hslash'

theorem forward {p q : Point} {c : Char} (hc : c ≠ '/') (hnext : p.forward? = some (c, q)) :
    SlashFree p q := by
  obtain ⟨⟨rest, hafter⟩, rfl⟩ := Point.forward?_eq_some hnext
  refine ⟨1, by simp [hafter], rfl, ?_⟩
  rw [hafter]
  simpa using Ne.symm hc

/-- A step over another character than a slash. -/
theorem step {p q r : Point} {c : Char} (h : SlashFree p q) (hc : c ≠ '/')
    (hnext : q.forward? = some (c, r)) : SlashFree p r :=
  h.trans (.forward hc hnext)

end SlashFree

/-- How far the span of a segment reaches; `reach` says it for an inline expression. -/
def Segment.Reaches (reach : Text → Point → Point → Prop) : Segment → Point → Point → Prop
  | dynamic _, p, q => SlashFree p q
  | constrained _ e, p, q => reach e p q
  | _, _, _ => True

/-- The match ends as the extent demands. -/
def EndsAt (extent : Extent) (p : Point) : Prop :=
  match extent with
  | .exact => p.after = []
  | .leading => ∀ c, p.after.head? = some c → c = '/'

/-- The groups `gs` of the captures lie one after the other from a position on, and all before the
point `last`. -/
inductive Lies (text : Text) (reach : Text → Point → Point → Prop) (t : Trail) (last : Point) :
    Nat → List Segment → List Nat → Prop
  | done {pos : Nat} : pos ≤ last.position → Lies text reach t last pos [] []
  | plain {pos : Nat} {s : Segment} {rest : List Segment} {gs : List Nat} :
      s.name? = none → Lies text reach t last pos rest gs → Lies text reach t last pos (s :: rest) gs
  | capture {pos g : Nat} {s : Segment} {rest : List Segment} {gs : List Nat} {p q : Point} :
      s.name?.isSome → t.span? g = some (p, q) → pos ≤ p.position → InText text p → InText text q →
      s.Reaches reach p q → Lies text reach t last q.position rest gs →
      Lies text reach t last pos (s :: rest) (g :: gs)

/-- What inline expressions become keeps to how far they reach, and to groups of its own. -/
structure Contained (edition : Edition) (text : Text) (reach : Text → Point → Point → Prop)
    (Body : Text → Nat → Nat → Node → Prop) : Prop where
  start : ∀ e p, reach e p p
  within : ∀ {e i j n p}, Body e i j n → InText text p →
    n.Within edition (fun q => InText text q ∧ reach e p q) false plainFlags
  groups : ∀ {e i j n}, Body e i j n → n.GroupsFrom (i + 1)

section Ends

variable {text : Text} {reach : Text → Point → Point → Prop}
variable {known more : List (Nat × Point)} {t : Trail} {p : Point}

theorem Regex.Holds.subset {region : Point → Prop} {followed : Bool}
    (h : Holds region known followed t) (hsub : ∀ m ∈ more, m ∈ known) :
    Holds region more followed t :=
  ⟨h.spot, fun m hm => h.marks m (hsub m hm)⟩

/-- What a match of the rest of a pattern leaves behind. -/
def Arrives (text : Text) (reach : Text → Point → Point → Prop) (extent : Extent)
    (known : List (Nat × Point)) (pos : Nat) (segments : List Segment) (gs : List Nat)
    (t : Trail) : Prop :=
  Holds (InText text) known true t ∧ EndsAt extent t.spot ∧
    Lies text reach t t.spot pos segments gs

theorem acceptAny_arrives {extent : Extent} {pos : Nat} {segments : List Segment}
    (hnames : ∀ s ∈ segments, s.name? = none) (hp : InText text p)
    (ht : Holds (InText text) known false t) (hend : EndsAt extent p) (hpos : pos ≤ p.position) :
    (acceptAny p t).Ends (Holds (InText text) known false)
      (Arrives text reach extent known pos segments []) := by
  refine ⟨(ht.note hp).follow hp, hend, ?_⟩
  induction segments with
  | nil => exact .done hpos
  | cons s rest ih =>
    exact .plain (hnames s (List.mem_cons_self ..)) (ih fun s hs => hnames s (List.mem_cons_of_mem _ hs))

/-- The marks of a group are before those of the groups after it. -/
theorem known_pair {i j : Nat} {p q : Point} (hi : 1 ≤ i)
    (hknown : ∀ m ∈ known, m.1 < 2 * i - 2) (hlt : i < j) :
    ∀ m ∈ (2 * i - 1, q) :: (2 * i - 2, p) :: known, m.1 < 2 * j - 2 := by
  intro m hm
  rcases List.mem_cons.1 hm with rfl | hm
  · show 2 * i - 1 < 2 * j - 2
    omega
  · rcases List.mem_cons.1 hm with rfl | hm
    · show 2 * i - 2 < 2 * j - 2
      omega
    · have := hknown m hm
      omega

/-- The mark of a group that is entered is before those of the groups inside it. -/
theorem known_entered {i : Nat} (hi : 1 ≤ i) (hknown : ∀ m ∈ known, m.1 < 2 * i - 2) :
    ∀ m ∈ (2 * i - 2, p) :: known, m.1 < 2 * (i + 1) - 2 := by
  intro m hm
  rcases List.mem_cons.1 hm with rfl | hm
  · show 2 * i - 2 < _
    omega
  · have := hknown m hm
    omega

section Groups

variable {region inside : Point → Prop} {i : Nat} {q : Point}

/-- Where the spot is not followed, it does not matter which region the search keeps to. -/
theorem Regex.Holds.elsewhere (h : Holds inside known false t) (hsub : ∀ m ∈ more, m ∈ known) :
    Holds region more false t :=
  ⟨nofun, fun m hm => h.marks m (hsub m hm)⟩

theorem Regex.Holds.enter (h : Holds region known false t) (hknown : ∀ m ∈ known, m.1 < 2 * i - 2)
    (p : Point) : Holds inside ((2 * i - 2, p) :: known) false (t.enter i p) := by
  refine ⟨nofun, fun m hm => ?_⟩
  rcases List.mem_cons.1 hm with rfl | hm
  · exact t.mark_self _ p
  · exact t.mark_of_lt p (hknown m hm) (h.marks m hm)

theorem Regex.Holds.leave (h : Holds inside ((2 * i - 2, p) :: known) false t) (hi : 1 ≤ i)
    (hknown : ∀ m ∈ known, m.1 < 2 * i - 2) (q : Point) :
    Holds region ((2 * i - 1, q) :: (2 * i - 2, p) :: known) false (t.leave i q) := by
  refine ⟨nofun, fun m hm => ?_⟩
  rcases List.mem_cons.1 hm with rfl | hm
  · exact t.mark_self _ q
  · refine t.mark_of_lt q ?_ (h.marks m hm)
    rcases List.mem_cons.1 hm with rfl | hm
    · show 2 * i - 2 < 2 * i - 1
      omega
    · have := hknown m hm
      omega

/-- The span of a group whose marks are known. -/
theorem Regex.Holds.span? {followed : Bool}
    (h : Holds region ((2 * i - 1, q) :: (2 * i - 2, p) :: known) followed t) :
    t.span? i = some (p, q) := by
  have hin := h.marks (2 * i - 2, p) (by simp)
  have hout := h.marks (2 * i - 1, q) (by simp)
  simp only at hin hout
  simp [Trail.span?, hin, hout]

end Groups

/-- A capture, where the rest of the pattern arrives from wherever its body stops. -/
theorem group_arrives {extent : Extent} {segments : List Segment} {seg : Segment} {gs : List Nat}
    {i pos : Nat} {body : Node} {s : Setting} {k : Point → Trail → Outcome} (hi : 1 ≤ i)
    (hname : seg.name?.isSome) (hs : s.flags = plainFlags)
    (hwithin : body.Within s.edition (fun q => InText text q ∧ seg.Reaches reach p q) false
      plainFlags)
    (hgroups : body.GroupsFrom (i + 1)) (hstart : seg.Reaches reach p p)
    (hknown : ∀ m ∈ known, m.1 < 2 * i - 2) (hp : InText text p)
    (ht : Holds (InText text) known false t) (hpos : pos ≤ p.position)
    (hrest : ∀ q u, InText text q →
      Holds (InText text) ((2 * i - 1, q) :: (2 * i - 2, p) :: known) false u →
      (k q u).Ends (Holds (InText text) ((2 * i - 1, q) :: (2 * i - 2, p) :: known) false)
        (Arrives text reach extent ((2 * i - 1, q) :: (2 * i - 2, p) :: known) q.position segments
          gs)) :
    ((Node.group i body).run s p t k).Ends (Holds (InText text) known false)
      (Arrives text reach extent known pos (seg :: segments) (i :: gs)) := by
  let region q := InText text q ∧ seg.Reaches reach p q
  have hkeeps : (body.run s.inner).Keeps region ((2 * i - 2, p) :: known) false := by
    apply body.run_keeps s.inner _ hgroups (known_entered hi hknown)
    show body.Within s.edition region false s.flags
    rw [hs]
    exact hwithin
  rw [Node.run]
  have h := hkeeps (Arrives text reach extent known pos (seg :: segments) (i :: gs)) p (t.enter i p)
    (fun q u => k q (u.leave i q)) ⟨hp, hstart⟩ (ht.enter hknown p)
  refine (h ?_).mono (fun u hu => ?_) fun _ hu => hu
  · intro q u hq hu
    refine (hrest q _ hq.1 (hu.leave hi hknown q)).mono (fun v hv => ?_) fun v hv => ?_
    · exact hv.elsewhere fun m hm => List.mem_cons_of_mem _ hm
    · obtain ⟨hholds, hend, hlies⟩ := hv
      refine ⟨hholds.subset fun m hm => List.mem_cons_of_mem _ (List.mem_cons_of_mem _ hm), hend, ?_⟩
      exact .capture hname hholds.span? hpos hp hq.1 hq.2 hlies
  · exact hu.elsewhere fun m hm => List.mem_cons_of_mem _ hm

/-- A step that no slash passes does not leave the points before the next slash. -/
theorem advances_slashFree (text : Text) (p : Point) {passes : Char → Bool}
    (hslash : passes '/' = false) :
    Search.Advances (fun q => InText text q ∧ SlashFree p q) passes := by
  intro q c r hq hnext hpass
  have hc : c ≠ '/' := by
    rintro rfl
    exact absurd (hslash.symm.trans hpass) (by simp)
  refine ⟨?_, hq.2.step hc hnext⟩
  cases hafter : q.after with
  | nil => simp [Point.forward?_nil hafter] at hnext
  | cons d rest =>
    rw [Point.forward?_cons hafter] at hnext
    obtain ⟨-, rfl⟩ := Prod.mk.inj (Option.some.inj hnext)
    exact hq.1.skip 1

/-- A span without slash does not leave the points before the next slash. -/
theorem within_slashlessSpan (edition : Edition) (text : Text) (p : Point) :
    slashlessSpan.Within edition (fun q => InText text q ∧ SlashFree p q) false plainFlags :=
  advances_slashFree text p (holds_slashless '/')

/-- A leading part whose literal ends in a slash stops before it. -/
theorem slashAhead_arrives {extent : Extent} {literal : Text}
    (hleaves : LeavesSlash extent literal [.boundary]) {s : Setting} (hs : s.flags = plainFlags)
    {pos : Nat} (hp : InText text p) (ht : Holds (InText text) known false t)
    (hpos : pos ≤ p.position) :
    ((Node.ofList (literalNodes literal.dropLast ++ [slashAheadNode])).run s p t acceptAny).Ends
      (Holds (InText text) known false)
      (Arrives text reach extent known pos [.literal literal, .boundary] []) := by
  obtain ⟨u, hu, hrun⟩ :=
    run_slashAhead (p := p.skip literal.dropLast.length) (t := t) (k := acceptAny) hs
  have hu' : Holds (InText text) known false u := ⟨nofun, fun m hm => hu ▸ ht.marks m hm⟩
  rw [run_literal hs, hrun]
  split
  · split
    · rename_i hslash
      have hend : EndsAt extent (p.skip literal.dropLast.length) := by
        rw [hleaves.1]
        intro c hc
        exact Option.some.inj (hc.symm.trans hslash)
      apply acceptAny_arrives (by simp [Segment.name?]) (hp.skip _) hu' hend
      exact Nat.le_trans hpos (p.position_le_skip _)
    · exact hu'
  · exact ht

/-- A tail runs to the end of the text. -/
theorem tail_arrives {extent : Extent} {i : Nat} (name : Text) (allowEmpty : Bool) (hi : 1 ≤ i)
    {s : Setting} (hs : s.flags = plainFlags) {pos : Nat} (hknown : ∀ m ∈ known, m.1 < 2 * i - 2)
    (hp : InText text p) (ht : Holds (InText text) known false t) (hpos : pos ≤ p.position) :
    ((Node.ofList (.group i (restOfText allowEmpty) :: closingNodes extent)).run s p t
      acceptAny).Ends (Holds (InText text) known false)
      (Arrives text reach extent known pos (.tail name allowEmpty :: Pattern.endSegments extent)
        [i]) := by
  let q := p.skip p.after.length
  have henter : Holds (InText text) ((2 * i - 2, p) :: known) false (t.enter i p) :=
    ht.enter hknown p
  let ending := Node.ofList (closingNodes extent)
  have hrun := run_restOfText (s := { s with next := ending.lead s.flags s.next }) (p := p)
    (t := t) (i := i) (k := fun q u => ending.run s q u acceptAny) allowEmpty hs
    fun u => ⟨_, run_closingNodes extent u⟩
  rw [Node.run_cons, hrun, run_closingNodes]
  split
  · exact henter.subset fun m hm => List.mem_cons_of_mem _ hm
  · have hnoted : Holds (InText text) ((2 * i - 2, p) :: known) false
        (((t.enter i p).note p).note q) := (henter.note hp).note (hp.skip _)
    have hu : Holds (InText text) ((2 * i - 1, q) :: (2 * i - 2, p) :: known) false
        ((((t.enter i p).note p).note q).leave i q) := hnoted.leave hi hknown q
    have hq : InText text q := hp.skip _
    have hend : EndsAt extent q := by
      have hafter : q.after = [] := by simp [q]
      cases extent with
      | exact => exact hafter
      | leading =>
        intro c hc
        simp [hafter] at hc
    have hholds := (hu.note hq).follow hq
    refine ⟨hholds.subset fun m hm => List.mem_cons_of_mem _ (List.mem_cons_of_mem _ hm), hend, ?_⟩
    have hreach : (Segment.tail name allowEmpty).Reaches reach p q := trivial
    apply Lies.capture rfl hholds.span? hpos hp hq hreach
    cases extent with
    | exact => exact .done (Nat.le_refl _)
    | leading => exact .plain rfl (.done (Nat.le_refl _))

/-- The search for a match of a compiled pattern arrives at its end. -/
theorem Compiled.run_arrives {Body : Text → Nat → Nat → Node → Prop} {extent : Extent} {i j : Nat}
    {segments : List Segment} {ns : List Node} {gs : List Nat}
    (h : Compiled Body extent i j segments ns gs) {s : Setting}
    (hbody : Contained s.edition text reach Body) (hi : 1 ≤ i) (hs : s.flags = plainFlags)
    {pos : Nat} (hknown : ∀ m ∈ known, m.1 < 2 * i - 2) (hp : InText text p) (ht : Holds (InText text) known false t) (hpos : pos ≤ p.position) :
    ((Node.ofList ns).run s p t acceptAny).Ends (Holds (InText text) known false)
      (Arrives text reach extent known pos segments gs) := by
  induction h generalizing s p t known pos with
  | textEnd he =>
    rw [run_textEnd]
    split
    · subst he
      exact acceptAny_arrives (by simp) hp ht ‹_› hpos
    · exact ht
  | boundary he =>
    obtain ⟨u, hu, hrun⟩ := run_boundary (p := p) (t := t) (k := acceptAny) hs
    have hu' : Holds (InText text) known false u := ⟨nofun, fun m hm => hu ▸ ht.marks m hm⟩
    rw [hrun]
    split
    · rename_i hahead
      subst he
      apply acceptAny_arrives (by simp [Segment.name?]) hp hu' _ hpos
      intro c hc
      simpa [hc] using hahead
    · exact hu'
  | slashAhead hleaves => exact slashAhead_arrives hleaves hs hp ht hpos
  | @literal i j lit rest ns gs _ _ ih =>
    rw [run_literal hs]
    split
    · have hrest := ih hbody hi hs hknown (hp.skip lit.length) ht
        (Nat.le_trans hpos (p.position_le_skip lit.length))
      exact hrest.mono (fun _ hu => hu) fun v hv => ⟨hv.1, hv.2.1, .plain rfl hv.2.2⟩
    · exact ht
  | @dynamic i j name rest ns gs hrest ih =>
    rw [Node.run_cons]
    have hgroups : slashlessSpan.GroupsFrom (i + 1) := trivial
    have hstart : (Segment.dynamic name).Reaches reach p p := SlashFree.refl p
    apply group_arrives hi rfl (s := { s with next := (Node.ofList ns).lead s.flags s.next }) hs
      (within_slashlessSpan s.edition text p) hgroups hstart hknown hp ht hpos
    intro q u hq hu
    exact ih hbody (by omega) hs (known_pair hi hknown (Nat.lt_succ_self i)) hq hu (Nat.le_refl _)
  | @constrained i j l name e body rest ns gs hb hlt hrest ih =>
    rw [Node.run_cons]
    have hstart : (Segment.constrained name e).Reaches reach p p := hbody.start e p
    apply group_arrives hi rfl (s := { s with next := (Node.ofList ns).lead s.flags s.next }) hs
      (hbody.within hb hp) (hbody.groups hb) hstart hknown hp ht hpos
    intro q u hq hu
    exact ih hbody (by omega) hs (known_pair hi hknown hlt) hq hu (Nat.le_refl _)
  | @tail i name allowEmpty => exact tail_arrives name allowEmpty hi hs hknown hp ht hpos

end Ends

end PathRouter

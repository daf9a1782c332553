import PathRouter.Proofs.ElementaryAlone
import PathRouter.Proofs.ParsedSegments
import PathRouter.Proofs.SpanOrder
import PathRouter.Proofs.WellFormedMatch

/-!
# Cutting a text by a pattern

What a pattern with elementary inline expressions means, segment by segment: the text is cut into
consecutive spans, one for each segment, and the span of an inline expression is a text that the
expression compiled for it matches by itself. A pattern matches where there is such a cut, and the
captures of the match are the spans of one.
-/

namespace PathRouter
set_option autoImplicit false

open Regex

/-- What is compiled for an inline expression matches all of a text that stands alone. -/
def FullyMatches (e span : Text) : Prop :=
  ∃ b x, splicedText e = some b ∧ Expression.ofText b = .ok x ∧ (x.fullMatch .current span).isSome = true

/-- A text begins with one span for each of the segments, and goes on as the extent demands. -/
inductive Cuts (extent : Extent) : List Segment → Text → List Text → Prop
  /-- The last span of an exact pattern ends with the text. -/
  | textEnd : extent = .exact → Cuts extent [] [] []
  /-- The last span of a pattern for a leading part ends with the text or before a slash. -/
  | boundary {s : Text} : extent = .leading → (∀ c, s.head? = some c → c = '/') →
      Cuts extent [.boundary] s []
  /-- A slash that ends such a pattern has to be there, but is left to what follows. -/
  | slashAhead {text s : Text} : LeavesSlash extent text [.boundary] →
      Cuts extent [.literal text, .boundary] (text ++ s) [text.dropLast]
  /-- The span of any other literal is its text. -/
  | literal {text s : Text} {rest : List Segment} {spans : List Text} :
      ¬LeavesSlash extent text rest → Cuts extent rest s spans →
      Cuts extent (.literal text :: rest) (text ++ s) (text :: spans)
  /-- The span of a plain capture is not empty and has no slash. -/
  | dynamic {name span s : Text} {rest : List Segment} {spans : List Text} :
      span ≠ [] → '/' ∉ span → Cuts extent rest s spans →
      Cuts extent (.dynamic name :: rest) (span ++ s) (span :: spans)
  /-- The span of an inline expression is matched by the expression alone. -/
  | constrained {name e span s : Text} {rest : List Segment} {spans : List Text} :
      FullyMatches e span → Cuts extent rest s spans →
      Cuts extent (.constrained name e :: rest) (span ++ s) (span :: spans)
  /-- The span of a tail runs to the end of the text. -/
  | tail {name s : Text} {allowEmpty : Bool} : (s = [] → allowEmpty = true) →
      Cuts extent (.tail name allowEmpty :: Pattern.endSegments extent) s [s]

/-- The spans of a cut stand one after the other at the start of the text. -/
theorem Cuts.prefix_flatten {extent : Extent} {segments : List Segment} {s : Text}
    {spans : List Text} (h : Cuts extent segments s spans) : spans.flatten <+: s := by
  induction h with
  | textEnd _ => exact List.nil_prefix
  | boundary _ _ => exact List.nil_prefix
  | @slashAhead text s _ =>
    rw [List.flatten_cons, List.flatten_nil, List.append_nil]
    exact (List.dropLast_prefix text).trans (List.prefix_append text s)
  | literal _ _ ih => exact (List.prefix_append_right_inj _).2 ih
  | dynamic _ _ _ ih => exact (List.prefix_append_right_inj _).2 ih
  | constrained _ _ ih => exact (List.prefix_append_right_inj _).2 ih
  | tail _ => simp

/-- The names of captures, each with the start and the end of its span, where the spans stand one
after the other from `start`. -/
def spanPlaces (start : Nat) : List Segment → List Text → List (Text × Int × Int)
  | s :: segments, span :: spans =>
    match s.name? with
    | some name =>
      (name, (start : Int), ((start + span.length : Nat) : Int)) ::
        spanPlaces (start + span.length) segments spans
    | none => spanPlaces (start + span.length) segments spans
  | _, _ => []

/-- The points where the spans of captures start and end. -/
def spanPoints (p : Point) : List Segment → List Text → List (Point × Point)
  | s :: segments, span :: spans =>
    if s.name?.isSome then
      (p, p.skip span.length) :: spanPoints (p.skip span.length) segments spans
    else spanPoints (p.skip span.length) segments spans
  | _, _ => []

/-- A trail ends where the spans of a cut do, and the groups `gs` captured them. -/
def CutsTo (extent : Extent) (p : Point) (segments : List Segment) (gs : List Nat) (t : Trail) :
    Prop :=
  ∃ spans, Cuts extent segments p.after spans ∧ t.spot = p.skip spans.flatten.length ∧
    gs.map t.span? = (spanPoints p segments spans).map some

/-! ## What the parts of a pattern reach -/

section Parts

variable {p q : Point} {w : Text}

/-- A point ahead is behind a span of the text. -/
theorem Regex.Point.IsAhead.exists_span (h : p.IsAhead q) :
    ∃ w, p.after = w ++ q.after ∧ q = p.skip w.length := by
  obtain ⟨n, rfl⟩ := h
  exact ⟨p.after.take n, (List.take_append_drop n _).symm, (p.skip_length_take n).symm⟩

theorem reaches_slashlessSpan :
    slashlessSpan.Reaches plainFlags p q ↔
      ∃ w, p.after = w ++ q.after ∧ q = p.skip w.length ∧ w ≠ [] ∧ '/' ∉ w := by
  have hreach : slashlessSpan.Reaches plainFlags p q ↔
      ∃ n, 1 ≤ n ∧ Copies (Takes fun c => decide (c ≠ '/')) n p q := by
    refine exists_congr fun n => and_congr ⟨fun h => h.1, fun h => ⟨h, nofun⟩⟩ ?_
    exact Copies.congr fun p q => by simp only [Node.Reaches, Takes, holds_slashless]
  rw [hreach]
  constructor
  · rintro ⟨n, hn, hcopies⟩
    obtain ⟨hle, rfl, hall⟩ := copies_takes_iff.1 hcopies
    have hlength : (p.after.take n).length = n := List.length_take_of_le hle
    refine ⟨p.after.take n, (List.take_append_drop n _).symm, (p.skip_length_take n).symm, ?_, ?_⟩
    · intro he
      rw [he, List.length_nil] at hlength
      omega
    · exact fun hm => by simpa using hall '/' hm
  · rintro ⟨w, hafter, rfl, hne, hslash⟩
    refine ⟨w.length, List.length_pos_iff.2 hne, copies_takes_iff.2 ⟨?_, rfl, ?_⟩⟩
    · rw [hafter, List.length_append]
      exact Nat.le_add_right _ _
    · rw [hafter, List.take_left]
      exact fun c hc => decide_eq_true fun he => hslash (he ▸ hc)

theorem reaches_literalNodes {text : Text} {ns : List Node} {r : Text} (h : p.after = text ++ r)
    (hrest : (Node.ofList ns).Reaches plainFlags (p.skip text.length) q) :
    (Node.ofList (literalNodes text ++ ns)).Reaches plainFlags p q := by
  induction text generalizing p with
  | nil => exact hrest
  | cons c text ih =>
    have hcons : literalNodes (c :: text) ++ ns =
        .char (.literal c.toNat) :: (literalNodes text ++ ns) := rfl
    rw [hcons, Node.reaches_cons]
    refine ⟨p.skip 1, ⟨c, Point.forward?_cons h, by simp [holds_ofCode]⟩, ih ?_ ?_⟩
    · rw [Point.skip_after, h]
      rfl
    · rwa [Point.skip_skip, Nat.add_comm]

theorem isRegular_literalNodes (text : Text) : ∀ n ∈ literalNodes text, n.isRegular = true := by
  intro n hn
  obtain ⟨c, -, rfl⟩ := List.mem_map.1 hn
  rfl

theorem mergesFaithfully_literalNodes (text : Text) :
    ∀ n ∈ literalNodes text, n.mergesFaithfully plainFlags = true := by
  intro n hn
  obtain ⟨c, -, rfl⟩ := List.mem_map.1 hn
  rfl

end Parts

/-! ## Inline expressions -/

/-- What inline expressions become matches by itself what they match, and keeps to groups of its
own. -/
structure StandsAlone (Body : Text → Nat → Nat → Node → Prop) : Prop where
  regular : ∀ {e i j n}, Body e i j n → n.isRegular = true
  groups : ∀ {e i j n}, Body e i j n → n.GroupsFrom (i + 1)
  reaches : ∀ {e i j n} {p q : Point}, Body e i j n → (n.Reaches plainFlags p q ↔
    ∃ w, p.after = w ++ q.after ∧ q = p.skip w.length ∧ FullyMatches e w)

theorem StandsAlone.simplified {Body : Text → Nat → Nat → Node → Prop} (h : StandsAlone Body)
    (hmerges : ∀ {e i j n}, Body e i j n → n.mergesFaithfully plainFlags = true) :
    StandsAlone (SimplifiedBody Body) where
  regular := by
    rintro e i j n ⟨body, hbody, rfl⟩
    exact Node.hereditary_isRegular.simplified (h.regular hbody)
  groups := by
    rintro e i j n ⟨body, hbody, rfl⟩
    exact (h.groups hbody).simplified
  reaches := by
    rintro e i j n p q ⟨body, hbody, rfl⟩
    rw [Node.reaches_simplified (hmerges hbody)]
    exact h.reaches hbody

/-- An expression fully matches a text if its tree reaches the end from the start. -/
theorem isSome_fullMatch_iff {b : Text} {x : Expression} (hx : Expression.ofText b = .ok x)
    (hflags : x.flags = []) (hregular : x.tree.isRegular = true)
    (hmerges : x.tree.mergesFaithfully plainFlags = true) (edition : Edition) (w : Text) :
    (x.fullMatch edition w).isSome = true ↔
      ∃ q, x.tree.Reaches plainFlags (.ofText w 0) q ∧ q.after = [] := by
  have hwidth : ∃ groups, x.width = x.tree.width groups := by
    obtain ⟨_, -, h⟩ := regex_bind_ok.1 (readExpression_of_ofText hx)
    obtain ⟨_, -, h⟩ := regex_bind_ok.1 h
    obtain ⟨_, -, h⟩ := regex_bind_ok.1 h
    obtain rfl := Except.ok.inj h
    exact ⟨_, rfl⟩
  have hstart : x.startFlags = plainFlags := by simp [Expression.startFlags, hflags, plainFlags]
  have hsearch := Expression.isMatched_search_iff hregular (hstart ▸ hmerges) hwidth
    edition (.ofText w 0) (·.after.isEmpty)
  simp only [hstart, List.isEmpty_iff] at hsearch
  rw [← hsearch, Expression.fullMatch]
  cases x.search edition (.ofText w 0) (·.after.isEmpty) with
  | matched t => exact ⟨fun _ => trivial, fun _ => rfl⟩
  | failed t => exact ⟨fun h => absurd h (by simp [Outcome.trail?]), fun h => h.elim⟩

theorem mergesFaithfully_of_elementaryBody {e : Text} {i j : Nat} {n : Node}
    (h : ElementaryBody e i j n) : n.mergesFaithfully plainFlags = true := by
  obtain ⟨b, x, a, narrowed, -, -, -, rfl, -, helementary⟩ := h
  exact helementary.scope.mergesFaithfully rfl

theorem standsAlone_elementaryBody : StandsAlone ElementaryBody where
  regular := by
    rintro e i j n ⟨b, x, a, narrowed, -, -, -, rfl, -, helementary⟩
    exact helementary.isRegular
  groups := by
    rintro e i j n ⟨b, x, a, narrowed, -, -, -, rfl, hmirrors, -⟩
    exact hmirrors.groupsFrom
  reaches := by
    rintro e i j n p q ⟨b, x, a, narrowed, hb, hx, hflags, rfl, hmirrors, helementary⟩
    have hmatches (w : Text) := isSome_fullMatch_iff hx hflags
      (hmirrors.isRegular_eq.symm.trans helementary.isRegular)
      (hmirrors.mergesFaithfully_eq.symm.trans (helementary.mergesFaithfully rfl)) .current w
    have hlocal := helementary.isLocal (f := plainFlags)
    have hreach (p q : Point) : (Node.flagged [] [] a).Reaches plainFlags p q ↔
        a.Reaches plainFlags p q := by simp only [Node.Reaches, Flags.update_nil]
    rw [hreach]
    constructor
    · intro hpq
      obtain ⟨w, hafter, hq⟩ := (Node.isAhead_of_reaches hpq).exists_span
      refine ⟨w, hafter, hq, b, x, hb, hx, (hmatches w).2 ?_⟩
      subst hq
      refine ⟨Point.skip (.ofText w 0) w.length, hmirrors.reaches_iff.1 ?_, by simp [Point.ofText]⟩
      exact hlocal p (.ofText w 0) w _ [] hafter (List.append_nil w).symm hpq
    · rintro ⟨w, hafter, rfl, b', x', hb', hx', hmatch⟩
      obtain rfl := Option.some.inj (hb.symm.trans hb')
      obtain rfl := Except.ok.inj (hx.symm.trans hx')
      obtain ⟨q, hreach, hend⟩ := (hmatches w).1 hmatch
      have hq : q = Point.skip (.ofText w 0) w.length :=
        (Node.isAhead_of_reaches hreach).eq_end hend
      rw [hq] at hreach
      exact hlocal (.ofText w 0) p w [] _ (List.append_nil w).symm hafter
        (hmirrors.reaches_iff.2 hreach)

/-! ## The search for a cut -/

section Search

variable {extent : Extent} {segments rest : List Segment} {gs : List Nat} {i j : Nat}
variable {known : List (Nat × Point)} {p q : Point} {t v : Trail} {w : Text}
variable {Body : Text → Nat → Nat → Node → Prop}

theorem acceptAny_cuts (ht : Knows known t) (hcuts : Cuts extent segments p.after [])
    (hsegments : spanPoints p segments [] = []) :
    (acceptAny p t).Ends (Knows known) fun v => Knows known v ∧ CutsTo extent p segments [] v :=
  ⟨ht.note trivial, [], hcuts, rfl, by rw [hsegments]; rfl⟩

/-- A span that is no capture, before the spans of the rest. -/
theorem CutsTo.plain {s : Segment} (hname : s.name? = none)
    (hcuts : ∀ spans, Cuts extent rest (p.skip w.length).after spans →
      Cuts extent (s :: rest) p.after (w :: spans))
    (h : CutsTo extent (p.skip w.length) rest gs v) : CutsTo extent p (s :: rest) gs v := by
  obtain ⟨spans, hspans, hspot, hplaces⟩ := h
  refine ⟨w :: spans, hcuts spans hspans, ?_, ?_⟩
  · rw [hspot, Point.skip_skip, List.flatten_cons, List.length_append]
  · rw [hplaces, spanPoints, hname, if_neg (by simp)]

/-- A span that a group captured, before the spans of the rest. -/
theorem CutsTo.capture {s : Segment} {g : Nat} (hname : s.name?.isSome)
    (hspan : v.span? g = some (p, p.skip w.length))
    (hcuts : ∀ spans, Cuts extent rest (p.skip w.length).after spans →
      Cuts extent (s :: rest) p.after (w :: spans))
    (h : CutsTo extent (p.skip w.length) rest gs v) : CutsTo extent p (s :: rest) (g :: gs) v := by
  obtain ⟨spans, hspans, hspot, hplaces⟩ := h
  refine ⟨w :: spans, hcuts spans hspans, ?_, ?_⟩
  · rw [hspot, Point.skip_skip, List.flatten_cons, List.length_append]
  · rw [List.map_cons, hspan, hplaces, spanPoints, if_pos hname, List.map_cons]

/-- A capture, where the rest of the pattern cuts the text from wherever its body stops. -/
theorem group_cuts {s : Segment} {body : Node} {c : Setting}
    {k : Point → Trail → Outcome} (hi : 1 ≤ i) (hname : s.name?.isSome)
    (hflags : c.flags = plainFlags) (hregular : body.isRegular = true)
    (hgroups : body.GroupsFrom (i + 1))
    (hspan : ∀ q, body.Reaches plainFlags p q → ∃ w, q = p.skip w.length ∧
      ∀ spans, Cuts extent rest q.after spans → Cuts extent (s :: rest) p.after (w :: spans))
    (hknown : ∀ m ∈ known, m.1 < 2 * i - 2) (ht : Knows known t)
    (hrest : ∀ q u, Knows ((2 * i - 1, q) :: (2 * i - 2, p) :: known) u →
      (k q u).Ends (Knows ((2 * i - 1, q) :: (2 * i - 2, p) :: known)) fun v =>
        Knows ((2 * i - 1, q) :: (2 * i - 2, p) :: known) v ∧ CutsTo extent q rest gs v) :
    ((Node.group i body).run c p t k).Ends (Knows known) fun v =>
      Knows known v ∧ CutsTo extent p (s :: rest) (i :: gs) v := by
  have hsound := (Node.run_adequate hregular).1 c.inner (i + 1) _ hgroups (known_entered hi hknown)
    (fun v => Knows known v ∧ CutsTo extent p (s :: rest) (i :: gs) v) p (t.enter i p)
    (fun q u => k q (u.leave i q)) (ht.enter hknown p)
  rw [Node.run]
  refine (hsound ?_).mono (fun u hu => ?_) fun _ hu => hu
  · intro q u hq hu
    obtain ⟨w, hw, hcuts⟩ := hspan q (by rw [← hflags]; exact hq)
    refine (hrest q _ (hu.leave hi hknown q)).mono (fun v hv => ?_) fun v hv => ⟨?_, ?_⟩
    · exact hv.subset fun m hm => List.mem_cons_of_mem _ hm
    · exact hv.1.subset fun m hm => List.mem_cons_of_mem _ (List.mem_cons_of_mem _ hm)
    · subst hw
      exact .capture hname hv.1.span? hcuts hv.2
  · exact hu.subset fun m hm => List.mem_cons_of_mem _ hm

/-- A tail takes what is left of the text. -/
theorem tail_cuts (name : Text) (allowEmpty : Bool) (hi : 1 ≤ i) {s : Setting}
    (hs : s.flags = plainFlags) (hknown : ∀ m ∈ known, m.1 < 2 * i - 2) (ht : Knows known t) :
    ((Node.ofList (.group i (restOfText allowEmpty) :: closingNodes extent)).run s p t
      acceptAny).Ends (Knows known) fun v =>
        Knows known v ∧ CutsTo extent p (.tail name allowEmpty :: Pattern.endSegments extent) [i] v := by
  have hend : ∀ u, ∃ v, (Node.ofList (closingNodes extent)).run s (p.skip p.after.length) u
      acceptAny = .matched v := fun u => ⟨_, run_closingNodes extent u⟩
  have hflags : { s with next := (Node.ofList (closingNodes extent)).lead s.flags s.next }.flags =
      plainFlags := hs
  have henter : Knows ((2 * i - 2, p) :: known) (t.enter i p) := ht.enter hknown p
  rw [Node.run_cons, run_restOfText allowEmpty hflags hend]
  split
  · exact henter.subset fun m hm => List.mem_cons_of_mem _ hm
  · rename_i hempty
    have hnoted : Knows _ (((t.enter i p).note p).note (p.skip p.after.length)) :=
      (henter.note trivial).note trivial
    have hleave : Knows ((2 * i - 1, p.skip p.after.length) :: (2 * i - 2, p) :: known) _ :=
      hnoted.leave hi hknown (p.skip p.after.length)
    rw [run_closingNodes]
    have hcuts : Cuts extent (.tail name allowEmpty :: Pattern.endSegments extent) p.after
        [p.after] := .tail fun he => by simpa [he] using hempty
    refine ⟨(hleave.note trivial).subset fun m hm => ?_, [p.after], hcuts, by simp, ?_⟩
    · exact List.mem_cons_of_mem _ (List.mem_cons_of_mem _ hm)
    · rw [List.map_singleton, (hleave.note trivial).span?]
      simp [spanPoints, Segment.name?]

/-- The search for a match of a compiled pattern ends with a cut. -/
theorem Compiled.run_cuts {ns : List Node} (h : Compiled Body extent i j segments ns gs)
    (hbody : StandsAlone Body) (hi : 1 ≤ i) {s : Setting} (hs : s.flags = plainFlags)
    (hknown : ∀ m ∈ known, m.1 < 2 * i - 2) (ht : Knows known t) :
    ((Node.ofList ns).run s p t acceptAny).Ends (Knows known) fun v =>
      Knows known v ∧ CutsTo extent p segments gs v := by
  induction h generalizing s p t known with
  | textEnd he =>
    rw [run_textEnd]
    split
    · rename_i hend
      exact acceptAny_cuts ht (hend ▸ .textEnd he) rfl
    · exact ht
  | boundary he =>
    obtain ⟨u, hu, hrun⟩ := run_boundary (p := p) (t := t) (k := acceptAny) hs
    have hu' : Knows known u := ⟨nofun, fun m hm => hu ▸ ht.marks m hm⟩
    rw [hrun]
    split
    · rename_i hahead
      refine acceptAny_cuts hu' (.boundary he fun c hc => ?_) rfl
      simpa [hc] using hahead
    · exact hu'
  | @slashAhead i text hleaves =>
    obtain ⟨u, hu, hrun⟩ :=
      run_slashAhead (p := p.skip text.dropLast.length) (t := t) (k := acceptAny) hs
    have hu' : Knows known u := ⟨nofun, fun m hm => hu ▸ ht.marks m hm⟩
    have hslashes := isPrefixOf_endsInSlash (s := p.after) hleaves.2.1
    rw [run_literal hs, hrun]
    split
    · rename_i hlit
      split
      · rename_i hslash
        rw [hlit, show (p.after.drop text.dropLast.length).head? = some '/' from hslash] at hslashes
        obtain ⟨r, hr⟩ := List.isPrefixOf_iff_prefix.1 (hslashes.trans rfl)
        refine ⟨hu'.note trivial, [text.dropLast], hr ▸ .slashAhead hleaves, ?_, rfl⟩
        simp
      · exact hu'
    · exact ht
  | @literal i j text rest ns gs hleaves _ ih =>
    rw [run_literal hs]
    split
    · rename_i hlit
      obtain ⟨r, hr⟩ := List.isPrefixOf_iff_prefix.1 hlit
      have hafter : p.after = text ++ (p.skip text.length).after := by
        rw [Point.skip_after, ← hr, List.drop_left]
      refine (ih hi hs hknown ht).mono (fun _ hv => hv) fun v hv => ⟨hv.1, hv.2.plain rfl ?_⟩
      exact fun spans hspans => hafter ▸ .literal hleaves hspans
    · exact ht
  | @dynamic i j name rest ns gs _ ih =>
    rw [Node.run_cons]
    apply group_cuts hi rfl (c := { s with next := (Node.ofList ns).lead s.flags s.next }) hs
      (by rfl) (show slashlessSpan.GroupsFrom (i + 1) from trivial) _ hknown ht
    · intro q u hu
      exact ih (by omega) hs (known_pair hi hknown (Nat.lt_succ_self i)) hu
    · intro q hq
      obtain ⟨w, hafter, hw, hne, hslash⟩ := reaches_slashlessSpan.1 hq
      exact ⟨w, hw, fun spans hspans => hafter ▸ .dynamic hne hslash hspans⟩
  | @constrained i j l name e body rest ns gs hb hlt _ ih =>
    rw [Node.run_cons]
    apply group_cuts hi rfl (c := { s with next := (Node.ofList ns).lead s.flags s.next }) hs
      (hbody.regular hb) (hbody.groups hb) _ hknown ht
    · intro q u hu
      exact ih (by omega) hs (known_pair hi hknown hlt) hu
    · intro q hq
      obtain ⟨w, hafter, hw, hmatches⟩ := (hbody.reaches hb).1 hq
      exact ⟨w, hw, fun spans hspans => hafter ▸ .constrained hmatches hspans⟩
  | @tail i name allowEmpty => exact tail_cuts name allowEmpty hi hs hknown ht

theorem reaches_restOfText {allowEmpty : Bool} (h : p.after = [] → allowEmpty = true) :
    (restOfText allowEmpty).Reaches plainFlags p (p.skip p.after.length) := by
  refine ⟨p.after.length, ⟨?_, nofun⟩, copies_takes_iff.2 ⟨Nat.le_refl _, rfl, fun _ _ => rfl⟩⟩
  split
  · exact Nat.zero_le _
  · rename_i hempty
    exact List.length_pos_iff.2 fun he => hempty (h he)

/-- The point behind a capture, where its span and what follows can be matched. -/
theorem reaches_group_cons {body : Node} {ns : List Node} {r : Text} (hafter : p.after = w ++ r)
    (hspan : body.Reaches plainFlags p (p.skip w.length))
    (hrest : ∀ {q : Point}, q.after = r → ∃ q', (Node.ofList ns).Reaches plainFlags q q') :
    ∃ q, (Node.ofList (.group i body :: ns)).Reaches plainFlags p q := by
  obtain ⟨q, hq⟩ := hrest (q := p.skip w.length) (by rw [Point.skip_after, hafter, List.drop_left])
  exact ⟨q, Node.reaches_cons.2 ⟨_, hspan, hq⟩⟩

/-- Where a text can be cut, the parts of the compiled pattern can be matched. -/
theorem Compiled.reaches_of_cuts {ns : List Node} (h : Compiled Body extent i j segments ns gs)
    (hbody : StandsAlone Body) {s : Text} (hs : p.after = s) {spans : List Text}
    (hcuts : Cuts extent segments s spans) : ∃ q, (Node.ofList ns).Reaches plainFlags p q := by
  induction h generalizing p s spans with
  | textEnd _ =>
    cases hcuts
    exact ⟨p, rfl, by rw [Anchor.holds, hs]; rfl⟩
  | boundary _ =>
    cases hcuts with
    | boundary _ hahead =>
      refine ⟨p, rfl, iff_of_true ?_ rfl⟩
      rw [← hs] at hahead
      cases hp : p.after with
      | nil => exact ⟨p, .inr ⟨rfl, by rw [Anchor.holds, hp]; rfl⟩⟩
      | cons c rest =>
        obtain rfl := hahead c (by rw [hp]; rfl)
        exact ⟨_, .inl ⟨'/', Point.forward?_cons hp, rfl⟩⟩
  | @slashAhead i text hleaves =>
    obtain ⟨front, hfront⟩ : ∃ front, text = front ++ ['/'] :=
      List.getLast?_eq_some_iff.1 (by simpa [Draft.endsInSlash] using hleaves.2.1)
    have hsplit : ∃ r, p.after = front ++ '/' :: r := by
      cases hcuts with
      | @slashAhead _ r _ => exact ⟨r, by rw [hs, hfront, List.append_assoc]; rfl⟩
      | literal hnot _ => exact absurd hleaves hnot
    obtain ⟨r, hr⟩ := hsplit
    have hslash : (p.skip front.length).after = '/' :: r := by
      rw [Point.skip_after, hr, List.drop_left]
    rw [hfront, List.dropLast_concat]
    refine ⟨p.skip front.length, reaches_literalNodes hr ⟨rfl, iff_of_true ?_ rfl⟩⟩
    exact ⟨_, '/', Point.forward?_cons hslash, rfl⟩
  | @literal i j text rest ns gs hnot _ ih =>
    cases hcuts with
    | slashAhead hleaves => exact absurd hleaves hnot
    | literal _ hrest =>
      obtain ⟨q, hq⟩ := ih (p := p.skip text.length)
        (by rw [Point.skip_after, hs, List.drop_left]) hrest
      exact ⟨q, reaches_literalNodes hs hq⟩
  | dynamic _ ih =>
    cases hcuts with
    | @dynamic _ span r _ _ hne hslash hrest =>
      have hspan : slashlessSpan.Reaches plainFlags p (p.skip span.length) :=
        reaches_slashlessSpan.2 ⟨span, by rw [Point.skip_after, hs, List.drop_left], rfl, hne, hslash⟩
      exact reaches_group_cons hs hspan fun hq => ih hq hrest
  | constrained hb _ _ ih =>
    cases hcuts with
    | @constrained _ _ span r _ _ hmatches hrest =>
      have hspan := (hbody.reaches (p := p) (q := p.skip span.length) hb).2
        ⟨span, by rw [Point.skip_after, hs, List.drop_left], rfl, hmatches⟩
      exact reaches_group_cons hs hspan fun hq => ih hq hrest
  | @tail i name allowEmpty =>
    cases hcuts with
    | tail hempty =>
      have hspan := reaches_restOfText (hs ▸ hempty)
      refine reaches_group_cons (List.append_nil _).symm hspan fun {q} hq => ?_
      cases extent with
      | exact => exact ⟨q, rfl, by rw [Anchor.holds, hq]; rfl⟩
      | leading => exact ⟨q, rfl⟩

theorem Compiled.mergesFaithfully {ns : List Node} (h : Compiled Body extent i j segments ns gs)
    (hmerges : ∀ {e i j n}, Body e i j n → n.mergesFaithfully plainFlags = true) :
    ∀ n ∈ ns, n.mergesFaithfully plainFlags = true := by
  induction h with
  | textEnd _ => simp [textEndNode, Node.mergesFaithfully]
  | boundary _ => simp [boundaryNode, textEndNode, Node.ofCode, Node.mergesFaithfully, plainFlags]
  | slashAhead _ =>
    rw [List.forall_mem_append]
    exact ⟨mergesFaithfully_literalNodes _,
      by simp [slashAheadNode, Node.ofCode, Node.mergesFaithfully]⟩
  | literal _ _ ih =>
    rw [List.forall_mem_append]
    exact ⟨mergesFaithfully_literalNodes _, ih⟩
  | dynamic _ ih =>
    rw [List.forall_mem_cons]
    exact ⟨rfl, ih⟩
  | constrained hb _ _ ih =>
    rw [List.forall_mem_cons]
    have hbody := hmerges hb
    exact ⟨hbody, ih⟩
  | tail =>
    rw [List.forall_mem_cons]
    refine ⟨rfl, ?_⟩
    cases extent with
    | exact => simp [closingNodes, textEndNode, Node.mergesFaithfully]
    | leading => simp [closingNodes]

/-- The parts of a compiled pattern are regular. -/
theorem Compiled.isRegular {ns : List Node} (h : Compiled Body extent i j segments ns gs)
    (hbody : StandsAlone Body) : ∀ n ∈ ns, n.isRegular = true := by
  induction h with
  | textEnd _ => simp [textEndNode, Node.isRegular]
  | boundary _ => simp [boundaryNode, textEndNode, Node.ofCode, Node.isRegular]
  | slashAhead _ =>
    rw [List.forall_mem_append]
    exact ⟨isRegular_literalNodes _, by simp [slashAheadNode, Node.ofCode, Node.isRegular]⟩
  | literal _ _ ih =>
    rw [List.forall_mem_append]
    exact ⟨isRegular_literalNodes _, ih⟩
  | dynamic _ ih =>
    rw [List.forall_mem_cons]
    exact ⟨rfl, ih⟩
  | constrained hb _ _ ih =>
    rw [List.forall_mem_cons]
    have hregular := hbody.regular hb
    exact ⟨hregular, ih⟩
  | @tail _ _ allowEmpty =>
    rw [List.forall_mem_cons]
    refine ⟨by cases allowEmpty <;> rfl, ?_⟩
    cases extent with
    | exact => simp [closingNodes, textEndNode, Node.isRegular]
    | leading => simp [closingNodes]

end Search

/-! ## Compiled patterns -/

theorem RegexAlternative.IsOf.isMatched_iff {Body : Text → Nat → Nat → Node → Prop} {extent : Extent}
    {segments : List Segment} {a : RegexAlternative} {nodes : List Node} {gs : List Nat}
    (ha : a.IsOf Body extent segments nodes gs) (hbody : StandsAlone Body)
    (hmerges : ∀ {e i j n}, Body e i j n → n.mergesFaithfully plainFlags = true) (text : Text)
    (pos : Nat) :
    (∃ t, a.expression.matchAt a.edition text pos = some t) ↔
      ∃ q, a.expression.tree.Reaches plainFlags (.ofText text pos) q := by
  have hflags := ha.startFlags
  have hregular : a.expression.tree.isRegular = true := by
    rw [ha.tree]
    exact Node.hereditary_isRegular.ofList (ha.compiled.isRegular hbody)
  have hfaithful : a.expression.tree.mergesFaithfully a.expression.startFlags = true := by
    rw [ha.tree, hflags]
    exact Node.mergesFaithfully_ofList (ha.compiled.mergesFaithfully hmerges)
  have hsearch := Expression.isMatched_search_iff hregular hfaithful ha.width
    a.edition (.ofText text pos) fun _ => true
  simp only [hflags, and_true] at hsearch
  rw [← hsearch, Expression.matchAt]
  cases a.expression.search a.edition (.ofText text pos) fun _ => true with
  | matched t => exact ⟨fun _ => trivial, fun _ => ⟨t, rfl⟩⟩
  | failed t =>
    refine iff_of_false ?_ id
    rintro ⟨_, h⟩
    exact absurd h (by simp [Outcome.trail?])

/-- Where a compiled pattern matches, its groups captured the spans of a cut. -/
theorem RegexAlternative.IsOf.cutsTo {Body : Text → Nat → Nat → Node → Prop} {extent : Extent}
    {segments : List Segment} {a : RegexAlternative} {nodes : List Node} {gs : List Nat} {text : Text}
    {pos : Nat} {t : Trail} (ha : a.IsOf Body extent segments nodes gs) (hbody : StandsAlone Body)
    (hmerges : ∀ {e i j n}, Body e i j n → n.mergesFaithfully plainFlags = true)
    (ht : a.expression.matchAt a.edition text pos = some t) :
    CutsTo extent (.ofText text pos) segments gs t := by
  obtain ⟨ns, htree, hcompiled⟩ := ha.simplified
  let p := Point.ofText text pos
  have hcuts := hcompiled.run_cuts (hbody.simplified hmerges) (Nat.le_refl 1)
    (s := ⟨a.expression.startFlags, false, none, a.edition⟩) (p := p) ha.startFlags (by simp)
    (knows_nil ⟨p, []⟩)
  rw [Expression.run_of_matchAt htree ht] at hcuts
  exact hcuts.2

/-- The groups of the captures, numbered from `first` on, have the numbers `gs` in the expression. -/
def RegexAlternative.Numbers (a : RegexAlternative) (first : Nat) (gs : List Nat) : Prop :=
  ∀ (k : Nat) (hk : k < gs.length),
    (a.expression.names.find? fun e => e.1 == groupName (first + k)).map Prod.snd = some gs[k]

section Captured

variable {a : RegexAlternative} {t : Trail} {p : Point} {first : Nat} {gs : List Nat}

theorem RegexAlternative.Numbers.span_head {g : Nat} {q : Point} (h : a.Numbers first (g :: gs))
    (hg : t.span? g = some (p, q)) :
    a.span t (groupName first) = ((p.position : Int), (q.position : Int)) := by
  have hfirst := h 0 (Nat.succ_pos _)
  rw [Nat.add_zero] at hfirst
  rw [RegexAlternative.span, hfirst]
  simp [hg]

theorem RegexAlternative.Numbers.tail {g : Nat} (h : a.Numbers first (g :: gs)) :
    a.Numbers (first + 1) gs := by
  intro k hk
  have hnext := h (k + 1) (Nat.succ_lt_succ hk)
  rwa [show first + (k + 1) = first + 1 + k by omega] at hnext

/-- A capture is the group of the first number that is left. -/
theorem RegexAlternative.Numbers.map_span_cons {s : Segment} {name span r : Text}
    {rest : List Segment} {spans : List Text} (h : a.Numbers first gs) (hname : s.name? = some name)
    (hafter : p.after = span ++ r)
    (hspans : gs.map t.span? = (spanPoints p (s :: rest) (span :: spans)).map some)
    (hrest : ∀ {q : Point} {gs : List Nat} (first : Nat), q.after = r →
      gs.map t.span? = (spanPoints q rest spans).map some → a.Numbers first gs →
      ((captureGroups first rest).map fun g => (g.2, a.span t g.1)) =
        spanPlaces q.position rest spans) :
    ((captureGroups first (s :: rest)).map fun g => (g.2, a.span t g.1)) =
      spanPlaces p.position (s :: rest) (span :: spans) := by
  have hposition : (p.skip span.length).position = p.position + span.length :=
    Point.skip_position (by rw [hafter, List.length_append]; exact Nat.le_add_right _ _)
  rw [spanPoints, if_pos (by rw [hname]; rfl), List.map_cons, List.map_eq_cons_iff] at hspans
  obtain ⟨g, gs, rfl, hg, hspans⟩ := hspans
  have hgroup := h.span_head hg
  have hlater := hrest (q := p.skip span.length) (first + 1)
    (by rw [Point.skip_after, hafter, List.drop_left]) hspans h.tail
  rw [hposition] at hgroup hlater
  rw [captureGroups, spanPlaces]
  simp only [hname, List.map_cons, hgroup, hlater]

/-- The spans of a cut are where the groups that captured them say. -/
theorem Cuts.map_span {extent : Extent} {segments : List Segment} {spans : List Text} {s : Text}
    (h : Cuts extent segments s spans) (hs : p.after = s)
    (hspans : gs.map t.span? = (spanPoints p segments spans).map some)
    (hnumbers : a.Numbers first gs) :
    ((captureGroups first segments).map fun g => (g.2, a.span t g.1)) =
      spanPlaces p.position segments spans := by
  induction h generalizing p gs first with
  | textEnd _ => rfl
  | boundary _ _ => rfl
  | slashAhead _ => rfl
  | @literal text r rest spans _ _ ih =>
    have hposition : (p.skip text.length).position = p.position + text.length :=
      Point.skip_position (by rw [hs, List.length_append]; exact Nat.le_add_right _ _)
    have hrest := ih (p := p.skip text.length) (by rw [Point.skip_after, hs, List.drop_left])
      hspans hnumbers
    rw [hposition] at hrest
    exact hrest
  | dynamic _ _ _ ih => exact hnumbers.map_span_cons rfl hs hspans fun _ => ih
  | constrained _ _ ih => exact hnumbers.map_span_cons rfl hs hspans fun _ => ih
  | @tail name s allowEmpty _ =>
    refine hnumbers.map_span_cons (r := []) rfl (hs.trans (List.append_nil s).symm) hspans ?_
    intro p gs first _ _ _
    cases extent <;> rfl

end Captured

/-- A pattern whose inline expressions are elementary matches where the text can be cut into spans,
one for each segment, and its captures are the spans of such a cut. -/
theorem RegexAlternative.matchAt_iff_cuts {config : Config} {extent : Extent} {pattern : Text}
    {segments : List Segment} {edition : Edition} {a : RegexAlternative} {text : Text} {pos : Nat}
    (hparse : Pattern.parse config extent pattern = .ok segments)
    (helementary : ∀ name e, .constrained name e ∈ segments → isElementary e = true)
    (ha : RegexAlternative.ofSegments edition extent segments = .ok a) (hpos : pos ≤ text.length) :
    ((∃ t, a.expression.matchAt a.edition text pos = some t) ↔
      ∃ spans, Cuts extent segments (text.drop pos) spans) ∧
    ∀ t, a.expression.matchAt a.edition text pos = some t →
      ∃ spans, Cuts extent segments (text.drop pos) spans ∧
        t.spot.position = pos + spans.flatten.length ∧
        (a.groups.map fun g => (g.2, a.span t g.1)) = spanPlaces pos segments spans := by
  have hreads : ∀ name e b, .constrained name e ∈ segments → splicedText e = some b →
      ReadsAs ElementaryBody e b := by
    intro name e b hmem hb
    obtain ⟨x, hx⟩ := ofText_of_checkInline (Pattern.checkInline_of_parse hparse hmem)
    exact readsAs_elementaryBody (helementary name e hmem) (readExpression_of_ofText hx) hb
  obtain ⟨nodes, gs, hof⟩ :=
    RegexAlternative.isOf_of_ofSegments (Pattern.endsWell_of_parse hparse) hreads ha
  have hcut (t : Trail) (ht : a.expression.matchAt a.edition text pos = some t) :=
    hof.cutsTo standsAlone_elementaryBody mergesFaithfully_of_elementaryBody ht
  refine ⟨⟨?_, ?_⟩, fun t ht => ?_⟩
  · rintro ⟨t, ht⟩
    obtain ⟨spans, hcuts, -⟩ := hcut t ht
    exact ⟨spans, hcuts⟩
  · rintro ⟨spans, hcuts⟩
    rw [hof.isMatched_iff standsAlone_elementaryBody mergesFaithfully_of_elementaryBody, hof.tree]
    exact hof.compiled.reaches_of_cuts standsAlone_elementaryBody rfl hcuts
  · obtain ⟨spans, hcuts, hspot, hplaces⟩ := hcut t ht
    have hposition := Point.ofText_position hpos
    refine ⟨spans, hcuts, ?_, ?_⟩
    · have hle : spans.flatten.length ≤ (Point.ofText text pos).after.length :=
        hcuts.prefix_flatten.length_le
      rw [hspot, Point.skip_position hle, hposition]
    · rw [hof.groups]
      have hnumbers : a.Numbers 0 gs := by
        intro k hk
        rw [Nat.zero_add]
        exact hof.named k hk
      have h := hcuts.map_span rfl hplaces hnumbers
      rwa [hposition] at h

/-- A lazy quantifier gives way to a class, and a group inside an inline expression is no capture of
the pattern. -/
theorem RegexAlternative.matchAt_iff_cuts_lazy :
    ∃ segments a t spans,
      Pattern.parse .standard .leading
        "/\x7bv:(x|yz)\\w*?\x7d\x7bn:[^x]\\d\x7b1,3\x7d\x7d/".toList = .ok segments ∧
      (∀ name e, .constrained name e ∈ segments → isElementary e = true) ∧
      RegexAlternative.ofSegments .current .leading segments = .ok a ∧ 1 ≤ "+/yz12345/".toList.length ∧
      a.expression.matchAt a.edition "+/yz12345/".toList 1 = some t ∧
      Cuts .leading segments ("+/yz12345/".toList.drop 1) spans ∧
      t.spot.position = 1 + spans.flatten.length ∧
      spanPlaces 1 segments spans = [(['v'], 2, 5), (['n'], 5, 9)] := by
  let e := "(x|yz)\\w*?".toList
  let e' := "[^x]\\d\x7b1,3\x7d".toList
  let segments : List Segment :=
    [.literal ['/'], .constrained ['v'] e, .constrained ['n'] e', .literal ['/'], .boundary]
  have hparse : Pattern.parse .standard .leading
      "/\x7bv:(x|yz)\\w*?\x7d\x7bn:[^x]\\d\x7b1,3\x7d\x7d/".toList = .ok segments := by decide +kernel
  have hrun : ((RegexAlternative.ofSegments .current .leading segments).toOption.bind fun a =>
      (a.expression.matchAt a.edition "+/yz12345/".toList 1).map fun t =>
        a.groups.map fun g => (g.2, a.span t g.1)) = some [(['v'], 2, 5), (['n'], 5, 9)] := by
    decide +kernel
  obtain ⟨a, ha, hmatch⟩ := Option.bind_eq_some_iff.1 hrun
  obtain ⟨t, ht, hplaces⟩ := Option.map_eq_some_iff.1 hmatch
  have helementary : ∀ name e, .constrained name e ∈ segments → isElementary e = true := by
    intro name f hmem
    have hf : name = ['v'] ∧ f = e ∨ name = ['n'] ∧ f = e' := by simpa [segments] using hmem
    rcases hf with ⟨-, rfl⟩ | ⟨-, rfl⟩
    · decide +kernel
    · decide +kernel
  have hpos : 1 ≤ "+/yz12345/".toList.length := by decide
  have hcompiled := eq_ok_of_toOption ha
  obtain ⟨spans, hcuts, hspot, hspans⟩ :=
    (RegexAlternative.matchAt_iff_cuts hparse helementary hcompiled hpos).2 t ht
  exact ⟨segments, a, t, spans, hparse, helementary, hcompiled, hpos, ht, hcuts, hspot,
    hspans.symm.trans hplaces⟩

end PathRouter

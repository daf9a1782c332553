import PathRouter.Proofs.ParsedSegments
import PathRouter.Proofs.PlainText
import PathRouter.Proofs.SplitSearch
import PathRouter.Resource

/-!
# Matching a pattern without inline expressions

A resource of one pattern that has captures but no inline expression matches a text exactly as the
greatest split says: nothing matches where there is no split, and otherwise the spans of the split
are what is consumed and captured.
-/

namespace PathRouter
set_option autoImplicit false

open Regex

/-! ## Widths -/

theorem Regex.Node.width_cons_le (f : Nat → Width) (n : Node) (ns : List Node) :
    ((ofList (n :: ns)).width f).least ≤ (n.width f).least + ((ofList ns).width f).least := by
  cases ns with
  | nil => exact Nat.le_add_right _ _
  | cons m ns => exact Nat.min_le_left _ _

theorem width_literalNodes_le (f : Nat → Width) (text : Text) (ns : List Node) :
    ((Node.ofList (literalNodes text ++ ns)).width f).least ≤
      text.length + ((Node.ofList ns).width f).least := by
  induction text with
  | nil => simp [literalNodes]
  | cons c text ih =>
    have h := Node.width_cons_le f (.ofCode c.toNat) (literalNodes text ++ ns)
    have hc : ((Node.ofCode c.toNat).width f).least = 1 := rfl
    change ((Node.ofList (.ofCode c.toNat :: (literalNodes text ++ ns))).width f).least ≤ _
    rw [List.length_cons]
    omega

/-- A text that can be split is as long as the expression is wide. -/
theorem Compiled.width_le {Body : Text → Nat → Nat → Node → Prop} {extent : Extent} {i j : Nat}
    {segments : List Segment} {ns : List Node} {gs : List Nat}
    (h : Compiled Body extent i j segments ns gs) (f : Nat → Width) {s : Text} {spans : List Text}
    (hs : Splits extent segments s spans) : ((Node.ofList ns).width f).least ≤ s.length := by
  induction h generalizing s spans with
  | textEnd _ => exact Nat.zero_le _
  | boundary _ => exact Nat.zero_le _
  | @slashAhead i text hleaves =>
    have h := width_literalNodes_le f text.dropLast [slashAheadNode]
    have hlook : ((Node.ofList [slashAheadNode]).width f).least = 0 := rfl
    cases hs with
    | slashAhead _ =>
      simp only [List.length_append, List.length_dropLast] at *
      omega
    | literal hnot _ => exact absurd hleaves hnot
  | @literal i j text rest ns gs hnot _ ih =>
    have h := width_literalNodes_le f text ns
    cases hs with
    | slashAhead hleaves => exact absurd hleaves hnot
    | literal _ hs =>
      have := ih hs
      rw [List.length_append]
      omega
  | @dynamic i j name rest ns gs _ ih =>
    have h := Node.width_cons_le f (.group i slashlessSpan) ns
    have hone : ((Node.group i slashlessSpan).width f).least = 1 := rfl
    cases hs with
    | dynamic hne _ hs =>
      have := ih hs
      have := List.length_pos_iff.2 hne
      rw [List.length_append]
      omega
  | constrained _ _ _ _ => cases hs
  | @tail i name allowEmpty =>
    have h := Node.width_cons_le f (.group i (restOfText allowEmpty)) (closingNodes extent)
    have hzero : ((Node.ofList (closingNodes extent)).width f).least = 0 := by
      cases extent <;> rfl
    cases hs with
    | tail hempty =>
      cases allowEmpty with
      | true =>
        have htail : ((Node.group i (restOfText true)).width f).least = 0 := rfl
        omega
      | false =>
        have htail : ((Node.group i (restOfText false)).width f).least = 1 := rfl
        have : s ≠ [] := fun e => by simpa using hempty e
        have := List.length_pos_iff.2 this
        omega

/-! ## Captures -/

/-- The groups of captures without groups of their own have consecutive numbers. -/
theorem Compiled.groups_eq {Body : Text → Nat → Nat → Node → Prop} {extent : Extent} {i j : Nat}
    {segments : List Segment} {ns : List Node} {gs : List Nat}
    (h : Compiled Body extent i j segments ns gs) (hplain : IsPlain segments) :
    gs = List.range' i (captureNames segments).length ∧
      j = i + (captureNames segments).length := by
  induction h with
  | textEnd _ => exact ⟨rfl, rfl⟩
  | boundary _ => exact ⟨rfl, rfl⟩
  | slashAhead _ => exact ⟨rfl, rfl⟩
  | literal _ _ ih => exact ih hplain.tail
  | @dynamic i j name rest ns gs _ ih =>
    obtain ⟨hgs, hj⟩ := ih hplain.tail
    have hnames : captureNames (.dynamic name :: rest) = name :: captureNames rest := rfl
    rw [hgs, hj, hnames]
    exact ⟨rfl, by simp; omega⟩
  | constrained _ _ _ _ => exact absurd (List.mem_cons_self ..) (hplain _ _)
  | tail => cases extent <;> exact ⟨rfl, rfl⟩

/-- What follows a span follows its end. -/
theorem drop_span {text span s : Text} {pos : Nat} (hpos : pos ≤ text.length)
    (h : text.drop pos = span ++ s) :
    pos + span.length ≤ text.length ∧ text.drop (pos + span.length) = s := by
  have hlen := congrArg List.length h
  rw [List.length_drop, List.length_append] at hlen
  exact ⟨by omega, by rw [← List.drop_drop, h, List.drop_left]⟩

/-- The span that begins what follows a position. -/
theorem slice_of_drop {text span s : Text} {pos : Nat} (hpos : pos ≤ text.length)
    (h : text.drop pos = span ++ s) :
    Text.slice text (pos : Int) ((pos + span.length : Nat) : Int) = span := by
  have hlen := congrArg List.length h
  rw [List.length_drop, List.length_append] at hlen
  rw [Text.slice, Text.clampOffset_natCast hpos, Text.clampOffset_natCast (by omega)]
  rw [List.drop_take, h, Nat.add_sub_cancel_left, List.take_left]

/-- The capture of a span that is found at its place. -/
theorem capture?_of_drop {text span s : Text} {pos : Nat} (name : Text) (hpos : pos ≤ text.length)
    (h : text.drop pos = span ++ s) :
    RegexAlternative.capture? name text ((pos : Int), ((pos + span.length : Nat) : Int)) =
      spanCapture? name text pos span := by
  rw [RegexAlternative.capture?, slice_of_drop hpos h, spanCapture?]
  by_cases hsign : '%' ∈ span
  · simp only [hsign, if_true]
    cases Percent.decodeText span <;> rfl
  · simp only [hsign, if_false, Percent.decodeText_of_not_mem hsign]
    rfl

/-- A captured span has the decoded text as its value. -/
theorem decodeText_raw_of_spanCapture? {name text span s : Text} {pos : Nat} {c : Capture}
    (hpos : pos ≤ text.length) (h : text.drop pos = span ++ s)
    (hc : spanCapture? name text pos span = some c) :
    c.name = name ∧ Percent.decodeText c.raw = .ok c.value := by
  rw [spanCapture?] at hc
  split at hc
  · rename_i value hvalue
    obtain rfl := Option.some.inj hc
    refine ⟨rfl, ?_⟩
    have hraw := slice_of_drop hpos h
    simp only [Capture.raw, Capture.value, Int.natCast_add] at hraw ⊢
    rw [hraw, hvalue]
    by_cases hsign : '%' ∈ span
    · simp [hsign]
    · rw [Percent.decodeText_of_not_mem hsign] at hvalue
      obtain rfl : span = value := Except.ok.inj hvalue
      simp [hsign]
  · exact absurd hc (by simp)

section Captures

variable {extent : Extent} {segments : List Segment} {text : Text} {spans : List Text}

/-- The group of the first capture has the first two of the marks that follow those before it. -/
theorem span_of_marks {a : RegexAlternative} {t : Trail} {first : Nat} {p q : Point}
    {front more : List (Option Point)} (hfront : front.length = 2 * first)
    (hmarks : front ++ some p :: some q :: more <+: t.marks)
    (hspan : ∀ start stop, t.marks[2 * first]? = some (some start) →
      t.marks[2 * first + 1]? = some (some stop) →
      a.span t (groupName first) = ((start.position : Int), (stop.position : Int))) :
    a.span t (groupName first) = ((p.position : Int), (q.position : Int)) := by
  obtain ⟨r, hr⟩ := hmarks
  rw [← hr, ← hfront] at hspan
  exact hspan p q (by simp) (by simp)

/-- One capture and those after it. -/
theorem mapM_captureGroups_cons {a : RegexAlternative} {t : Trail} {seg : Segment} {name span s : Text}
    {pos first : Nat} (hname : seg.name? = some name) (hpos : pos ≤ text.length)
    (htext : text.drop pos = span ++ s)
    (hspan : a.span t (groupName first) = ((pos : Int), ((pos + span.length : Nat) : Int)))
    (hrest : ((captureGroups (first + 1) segments).mapM fun (group, name) =>
      RegexAlternative.capture? name text (a.span t group)) =
      spanCaptures? text (pos + span.length) segments spans) :
    ((captureGroups first (seg :: segments)).mapM fun (group, name) =>
      RegexAlternative.capture? name text (a.span t group)) =
      spanCaptures? text pos (seg :: segments) (span :: spans) := by
  simp only [captureGroups, hname, List.mapM_cons, hspan, spanCaptures?,
    capture?_of_drop name hpos htext, hrest]

/-- The groups of captures have the spans of a split, where those are marked. -/
theorem mapM_captureGroups {a : RegexAlternative} {t : Trail} {s : Text} {pos first count : Nat}
    {front : List (Option Point)} (hs : Splits extent segments s spans)
    (htext : text.drop pos = s) (hpos : pos ≤ text.length) (hfront : front.length = 2 * first)
    (hmarks : front ++ spanMarks (.ofText text pos) segments spans <+: t.marks)
    (hcount : first + (captureNames segments).length ≤ count)
    (hspan : ∀ k start stop, k < count → t.marks[2 * k]? = some (some start) →
      t.marks[2 * k + 1]? = some (some stop) →
      a.span t (groupName k) = ((start.position : Int), (stop.position : Int))) :
    ((captureGroups first segments).mapM fun (group, name) =>
      RegexAlternative.capture? name text (a.span t group)) =
      spanCaptures? text pos segments spans := by
  induction hs generalizing pos first front with
  | textEnd _ => rfl
  | boundary _ _ => rfl
  | slashAhead _ => rfl
  | @literal lit s rest spans _ _ ih =>
    obtain ⟨hle, hdrop⟩ := drop_span hpos htext
    rw [spanMarks, if_neg (by simp [Segment.name?]), Point.ofText_skip] at hmarks
    exact ih hdrop hle hfront hmarks hcount
  | @dynamic name span s rest spans _ _ _ ih =>
    obtain ⟨hle, hdrop⟩ := drop_span hpos htext
    rw [spanMarks_capture rfl, Point.ofText_skip] at hmarks
    have hcount' : first + 1 + (captureNames rest).length ≤ count := by
      have : (captureNames (.dynamic name :: rest)).length = (captureNames rest).length + 1 := rfl
      omega
    have hfirst := span_of_marks hfront hmarks fun start stop => hspan first start stop (by omega)
    rw [Point.ofText_position hpos, Point.ofText_position hle] at hfirst
    have hmarks' : (front ++ [some (.ofText text pos), some (.ofText text (pos + span.length))]) ++
        spanMarks (.ofText text (pos + span.length)) rest spans <+: t.marks := by
      simpa using hmarks
    exact mapM_captureGroups_cons rfl hpos htext hfirst
      (ih hdrop hle (by simp; omega) hmarks' hcount')
  | @tail name s allowEmpty _ =>
    have htext' : text.drop pos = s ++ [] := by simpa using htext
    obtain ⟨hle, -⟩ := drop_span hpos htext'
    rw [spanMarks_capture rfl, Point.ofText_skip] at hmarks
    have hfirst := span_of_marks hfront hmarks fun start stop => hspan first start stop <| by
      have : (captureNames (.tail name allowEmpty :: Pattern.endSegments extent)).length =
        (captureNames (Pattern.endSegments extent)).length + 1 := rfl
      omega
    rw [Point.ofText_position hpos, Point.ofText_position hle] at hfirst
    refine mapM_captureGroups_cons rfl hpos htext' hfirst ?_
    cases extent <;> rfl

/-- Each capture is marked where it starts and where it stops. -/
theorem spanMarks_ordered {s : Text} (hs : Splits extent segments s spans) (p : Point) {k : Nat}
    (hk : k < (captureNames segments).length) :
    ∃ start stop, (spanMarks p segments spans)[2 * k]? = some (some start) ∧
      (spanMarks p segments spans)[2 * k + 1]? = some (some stop) ∧
      start.position ≤ stop.position := by
  induction hs generalizing p k with
  | textEnd _ => exact absurd hk (Nat.not_lt_zero k)
  | boundary _ _ => exact absurd hk (Nat.not_lt_zero k)
  | slashAhead _ => exact absurd hk (Nat.not_lt_zero k)
  | literal _ _ ih => exact ih _ hk
  | dynamic _ _ _ ih =>
    rw [spanMarks_capture rfl]
    cases k with
    | zero => exact ⟨_, _, rfl, rfl, p.position_le_skip _⟩
    | succ k => exact ih _ (Nat.lt_of_succ_lt_succ hk)
  | @tail name s allowEmpty _ =>
    rw [spanMarks_capture rfl]
    obtain rfl : k = 0 := by
      have : (captureNames (.tail name allowEmpty :: Pattern.endSegments extent)).length = 1 := by
        cases extent <;> rfl
      omega
    exact ⟨_, _, rfl, rfl, p.position_le_skip _⟩

theorem span?_of_marks {t : Trail} {k : Nat} {start stop : Point}
    (hstart : t.marks[2 * k]? = some (some start)) (hstop : t.marks[2 * k + 1]? = some (some stop)) :
    t.span? (k + 1) = some (start, stop) := by
  have h₁ : 2 * (k + 1) - 2 = 2 * k := by omega
  have h₂ : 2 * (k + 1) - 1 = 2 * k + 1 := by omega
  simp [Trail.span?, h₁, h₂, hstart, hstop]

/-- No capture that is marked in order is reversed. -/
theorem hasReversedSpan_eq_false {e : Expression} {t : Trail} {s : Text} {p : Point}
    (hs : Splits extent segments s spans) (hgroups : e.groups = (captureNames segments).length)
    (hmarks : spanMarks p segments spans <+: t.marks) : e.hasReversedSpan t = false := by
  simp only [Expression.hasReversedSpan, List.any_eq_false, List.mem_range'_1]
  rintro g ⟨hg, hgn⟩
  obtain ⟨k, rfl⟩ : ∃ k, g = k + 1 := ⟨g - 1, by omega⟩
  obtain ⟨start, stop, hstart, hstop, hle⟩ := spanMarks_ordered hs p (k := k) (by omega)
  have hget {n : Nat} {m : Option Point} (h : (spanMarks p segments spans)[n]? = some m) :
      t.marks[n]? = some m := by
    obtain ⟨more, hmore⟩ := hmarks
    rw [← hmore, List.getElem?_append_left (List.getElem?_eq_some_iff.1 h).1, h]
  simpa [span?_of_marks (hget hstart) (hget hstop)] using hle

end Captures

/-! ## Matching -/

section Matching

variable {extent : Extent} {segments : List Segment}

/-- A match of the expression of a pattern ends and marks captures as the greatest split does. -/
theorem matchAt_eq_best {a : RegexAlternative} {nodes : List Node} {gs : List Nat}
    (hend : EndsWell extent segments) (hplain : IsPlain segments)
    (ha : a.IsOf NoBody extent segments nodes gs) (text : Text) (pos : Nat) :
    match best extent segments (text.drop pos) with
    | none => a.expression.matchAt a.edition text pos = none
    | some spans => ∃ t, a.expression.matchAt a.edition text pos = some t ∧
        t.spot = .ofText text (pos + spans.flatten.length) ∧
        spanMarks (.ofText text pos) segments spans <+: t.marks := by
  obtain ⟨ns, htree, hcompiled⟩ := ha.simplified
  obtain ⟨f, hwidth⟩ := ha.width
  let p := Point.ofText text pos
  have hfinds : Finds [] ((best extent segments p.after).map (spanEnd p segments))
      ((Node.ofList ns).run ⟨a.expression.startFlags, false, none, a.edition⟩ p ⟨p, []⟩ acceptAny) :=
    hcompiled.finds_best hplain (Nat.le_refl 1) ha.startFlags rfl rfl List.nil_prefix
  rw [Expression.matchAt, Expression.search_ofList htree]
  change Finds [] ((best extent segments (text.drop pos)).map _) _ at hfinds
  cases hbest : best extent segments (text.drop pos) with
  | none =>
    rw [hbest] at hfinds
    dsimp only
    split
    · rfl
    · exact hfinds.trail?_eq_none
  | some spans =>
    rw [hbest] at hfinds
    obtain ⟨t, hrun, hspot, hmarks⟩ := hfinds.matched
    have hahead : p.hasAhead a.expression.width.least = true := by
      rw [Point.hasAhead_iff, hwidth, ha.tree]
      exact ha.compiled.width_le f (splits_of_best hend hbest)
    refine ⟨t, by rw [hahead, hrun]; rfl, ?_, by simpa [spanEnd] using hmarks⟩
    rw [hspot, spanEnd, Point.ofText_skip]

/-- The expression of a pattern gives what the greatest split gives. Where there is no split, the
alternatives after it are tried. -/
theorem firstMatch_cons_eq_best {a : RegexAlternative} {nodes : List Node} {gs : List Nat}
    (hend : EndsWell extent segments) (hplain : IsPlain segments)
    (ha : a.IsOf NoBody extent segments nodes gs) (others : List RegexAlternative) {text : Text}
    {pos : Nat} (hpos : pos ≤ text.length) :
    RegexAlternative.firstMatch text pos (a :: others) =
      match best extent segments (text.drop pos) with
      | none => RegexAlternative.firstMatch text pos others
      | some spans =>
        .ok ((spanCaptures? text pos segments spans).map (⟨spans.flatten.length, ·⟩)) := by
  have hmatch := matchAt_eq_best hend hplain ha text pos
  obtain ⟨hgs, hgroups⟩ := ha.compiled.groups_eq hplain
  have hmin : min ((pos : Int).toNat) text.length = pos := by omega
  rw [RegexAlternative.firstMatch, hmin]
  cases hbest : best extent segments (text.drop pos) with
  | none =>
    rw [hbest] at hmatch
    rw [hmatch]
  | some spans =>
    rw [hbest] at hmatch
    obtain ⟨t, hfound, hspot, hmarks⟩ := hmatch
    have hsplits := splits_of_best hend hbest
    have hcaptures : a.captures? text t = spanCaptures? text pos segments spans := by
      rw [RegexAlternative.captures?, ha.groups]
      refine mapM_captureGroups hsplits rfl hpos (List.length_nil) (by simpa using hmarks)
        (Nat.le_of_eq (Nat.zero_add _)) fun k start stop hk hstart hstop => ?_
      have hk' : k < gs.length := by simpa [hgs] using hk
      have hnumber : gs[k] = k + 1 := by
        simp [hgs, Nat.add_comm]
      have hspan : t.span? (k + 1) = some (start, stop) := span?_of_marks hstart hstop
      rw [RegexAlternative.span, ha.named k hk', hnumber, Option.bind_some, hspan]
    have hle : pos + spans.flatten.length ≤ text.length := by
      have := hsplits.prefix_flatten.length_le
      rw [List.length_drop] at this
      omega
    have hconsumed : ((pos + spans.flatten.length : Nat) : Int) - (pos : Int) =
        (spans.flatten.length : Int) := by omega
    have hordered : a.expression.hasReversedSpan t = false :=
      hasReversedSpan_eq_false hsplits (by omega) hmarks
    simp only [hfound, hordered, hcaptures, hspot,
      Point.ofText_position hle, hconsumed, Bool.false_eq_true, if_false]

/-- The expression of a single pattern gives what the greatest split gives. -/
theorem firstMatch_eq_best {a : RegexAlternative} {nodes : List Node} {gs : List Nat}
    (hend : EndsWell extent segments) (hplain : IsPlain segments)
    (ha : a.IsOf NoBody extent segments nodes gs) {text : Text} {pos : Nat}
    (hpos : pos ≤ text.length) :
    RegexAlternative.firstMatch text pos [a] =
      .ok ((best extent segments (text.drop pos)).bind fun spans =>
        (spanCaptures? text pos segments spans).map (⟨spans.flatten.length, ·⟩)) := by
  rw [firstMatch_cons_eq_best hend hplain ha [] hpos]
  cases best extent segments (text.drop pos) with
  | none => rfl
  | some spans => rfl

/-- The first capture of a sequence and those after it. -/
theorem entries_cons {text span s name : Text} {spans : List Text} {seg : Segment}
    {captures : List Capture} {pos : Nat} (hname : seg.name? = some name)
    (hpos : pos ≤ text.length) (htext : text.drop pos = span ++ s)
    (h : spanCaptures? text pos (seg :: segments) (span :: spans) = some captures)
    (hrest : ∀ cs, spanCaptures? text (pos + span.length) segments spans = some cs →
      cs.map Capture.name = captureNames segments ∧
        ∀ c ∈ cs, Percent.decodeText c.raw = .ok c.value) :
    captures.map Capture.name = captureNames (seg :: segments) ∧
      ∀ c ∈ captures, Percent.decodeText c.raw = .ok c.value := by
  simp only [spanCaptures?, hname, Option.bind_eq_bind, Option.bind_eq_some_iff, Option.pure_def,
    Option.some.injEq] at h
  obtain ⟨c, hc, cs, hcs, rfl⟩ := h
  obtain ⟨hfirst, hvalue⟩ := decodeText_raw_of_spanCapture? hpos htext hc
  obtain ⟨hnames, hvalues⟩ := hrest cs hcs
  refine ⟨?_, fun d hd => ?_⟩
  · rw [List.map_cons, hfirst, hnames]
    exact (List.filterMap_cons_some hname).symm
  · rcases List.mem_cons.1 hd with rfl | hd
    · exact hvalue
    · exact hvalues d hd

/-- The captures of a split have the names of the pattern in order, and each has the decoded text of
its span as its value. -/
theorem spanCaptures?_entries {text s : Text} {spans : List Text} {captures : List Capture} {pos : Nat}
    (hs : Splits extent segments s spans) (htext : text.drop pos = s) (hpos : pos ≤ text.length)
    (h : spanCaptures? text pos segments spans = some captures) :
    captures.map Capture.name = captureNames segments ∧
      ∀ c ∈ captures, Percent.decodeText c.raw = .ok c.value := by
  induction hs generalizing pos captures with
  | textEnd _ =>
    obtain rfl := Option.some.inj h
    exact ⟨rfl, by simp⟩
  | boundary _ _ =>
    obtain rfl := Option.some.inj h
    exact ⟨rfl, by simp⟩
  | slashAhead _ =>
    obtain rfl := Option.some.inj h
    exact ⟨rfl, by simp⟩
  | literal _ _ ih =>
    obtain ⟨hle, hdrop⟩ := drop_span hpos htext
    exact ih hdrop hle h
  | @dynamic name span s rest spans _ _ _ ih =>
    obtain ⟨hle, hdrop⟩ := drop_span hpos htext
    exact entries_cons rfl hpos htext h (fun cs hcs => ih hdrop hle hcs)
  | @tail name s allowEmpty _ =>
    have htext' : text.drop pos = s ++ [] := by simpa using htext
    refine entries_cons rfl hpos htext' h fun cs hcs => ?_
    cases extent <;> (obtain rfl := Option.some.inj hcs; exact ⟨rfl, by simp⟩)

/-- A pattern with captures and without inline expressions always gives a resource, which matches as
the greatest split says. -/
theorem Resource.matchAt_eq_greatestSplit {config : Config} {extent : Extent} {pattern : Text}
    (name : Option Text) (hparse : Pattern.parse config extent pattern = .ok segments)
    (hplain : IsPlain segments) (hcaptures : PathRouter.captureNames segments ≠ []) :
    ∃ r, Resource.ofPatterns config extent name [pattern] = .ok r ∧
      ∀ (text : Text) (pos : Nat), pos ≤ text.length → isMachineInteger pos →
        ((∀ spans, ¬Splits extent segments (text.drop pos) spans) → r.matchAt text pos = .ok none) ∧
        ((∃ spans, Splits extent segments (text.drop pos) spans) →
          ∃ spans, IsGreatestSplit extent segments (text.drop pos) spans) ∧
        ∀ spans, IsGreatestSplit extent segments (text.drop pos) spans →
          r.matchAt text pos = .ok
            ((spanCaptures? text pos segments spans).map (⟨spans.flatten.length, ·⟩)) ∧
          ∀ captures, spanCaptures? text pos segments spans = some captures →
            captures.map Capture.name = PathRouter.captureNames segments ∧
              ∀ c ∈ captures, Percent.decodeText c.raw = .ok c.value := by
  have hend := Pattern.endsWell_of_parse hparse
  obtain ⟨a, nodes, gs, hof, ha⟩ := RegexAlternative.ofSegments_of_isPlain config.edition hend hplain
  have hnot : isCaptureFree segments = false := by
    rw [Bool.eq_false_iff]
    intro hfree
    refine hcaptures (List.filterMap_eq_nil_iff.2 fun s hs => ?_)
    simpa using List.all_eq_true.1 hfree s hs
  have hbuild : Resource.ofPatterns config extent name [pattern] =
      .ok ⟨[pattern], extent, name, config, [segments], .regex [a] extent⟩ := by
    simp [Resource.ofPatterns, Pattern.parseAll, hparse, Matcher.ofSequences, hnot, hof, bind,
      Except.bind, pure, Except.pure]
  refine ⟨_, hbuild, fun text pos hpos hword => ?_⟩
  have hmatch : Resource.matchAt ⟨[pattern], extent, name, config, [segments], .regex [a] extent⟩
      text pos = RegexAlternative.firstMatch text pos [a] := by
    simp only [Resource.matchAt, Matcher.matchAt, hword, if_true]
  rw [firstMatch_eq_best hend hplain ha hpos] at hmatch
  refine ⟨fun hnone => ?_, fun ⟨spans, hs⟩ => ?_, fun spans hspans => ⟨?_, fun captures h => ?_⟩⟩
  · rw [hmatch, (best_eq_none_iff hend).2 hnone]
    rfl
  · obtain ⟨found, hfound, -⟩ := hs.le_best
    exact ⟨found, best_isGreatest hend hfound⟩
  · rw [hmatch, hspans.best_eq hend]
    rfl
  · exact spanCaptures?_entries hspans.splits rfl hpos h

/-- Of two captures that touch, the first takes all but one character. -/
theorem Resource.matchAt_eq_greatestSplit_adjacent :
    ∃ r, Resource.ofPatterns .standard .leading none ["/v.{a}{b}/{rest}*".toList] = .ok r ∧
      r.matchAt "/v.x%20y/p/q".toList 0 = .ok (some ⟨12,
        [⟨['a'], "/v.x%20y/p/q".toList, 3, 7, some "x ".toList⟩,
          ⟨['b'], "/v.x%20y/p/q".toList, 7, 8, none⟩,
          ⟨"rest".toList, "/v.x%20y/p/q".toList, 9, 12, none⟩]⟩) := by
  let segments : List Segment := [.literal "/v.".toList, .dynamic ['a'], .dynamic ['b'],
    .literal ['/'], .tail "rest".toList false, .boundary]
  have hparse : Pattern.parse .standard .leading "/v.{a}{b}/{rest}*".toList = .ok segments :=
    eq_ok_of_toOption (by decide +kernel)
  obtain ⟨r, hr, hmatch⟩ := Resource.matchAt_eq_greatestSplit none hparse
    (by simp [IsPlain, segments]) (by decide)
  refine ⟨r, hr, ?_⟩
  have hbest : best .leading segments "/v.x%20y/p/q".toList =
      some ["/v.".toList, "x%20".toList, ['y'], ['/'], "p/q".toList] := by decide +kernel
  have hgreatest := best_isGreatest (by simp [EndsWell, segments, Pattern.endSegments]) hbest
  have hcaptures := ((hmatch "/v.x%20y/p/q".toList 0 (by decide) (by decide)).2.2 _ hgreatest).1
  have hspans : spanCaptures? "/v.x%20y/p/q".toList 0 segments
      ["/v.".toList, "x%20".toList, ['y'], ['/'], "p/q".toList] = some
      [⟨['a'], "/v.x%20y/p/q".toList, 3, 7, some "x ".toList⟩,
        ⟨['b'], "/v.x%20y/p/q".toList, 7, 8, none⟩,
        ⟨"rest".toList, "/v.x%20y/p/q".toList, 9, 12, none⟩] := by decide +kernel
  rw [hspans] at hcaptures
  exact hcaptures

end Matching

end PathRouter

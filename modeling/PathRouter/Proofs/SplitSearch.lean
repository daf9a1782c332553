import PathRouter.Proofs.Points
import PathRouter.Proofs.SimplifiedTree
import PathRouter.Proofs.Split

/-!
# Searching for the greatest split

The search for a match of a compiled pattern without inline expressions ends with the greatest
split. A greedy capture takes as many characters as it can and gives them back one by one, which is
the order in which `best` tries them. Attempts that fail leave marks behind, but never before those
of the group that is tried anew, so that the marks of the split are the ones that count.
-/

namespace PathRouter.Regex
set_option autoImplicit false

/-! ## Marks -/

namespace Trail

variable {t : Trail} {marks : List (Option Point)}

/-- A mark is set right after those that are known. -/
theorem prefix_mark (h : marks <+: t.marks) (p : Point) :
    marks ++ [some p] <+: (t.mark marks.length p).marks := by
  obtain ⟨more, hmore⟩ := h
  simp only [mark, ← hmore, List.length_append]
  cases more with
  | nil => simp
  | cons m more =>
    rw [if_pos (by simp), List.set_append_right _ _ (Nat.le_refl _), Nat.sub_self]
    exact ⟨more, by simp⟩

/-- What a failed attempt leaves behind is undone up to the marks that were there before it. -/
theorem prefix_undo {old : Trail} (ht : marks <+: t.marks) (hold : marks <+: old.marks)
    (repeated : Bool) : marks <+: (t.undo repeated old).marks := by
  cases repeated with
  | true => exact hold
  | false => exact List.prefix_take_iff.2 ⟨ht, hold.length_le⟩

end Trail

/-- The attempt ends at the point that is found, and the marks found with it come right after
`known`. It fails if there is none. -/
def Finds (known : List (Option Point)) (found : Option (Point × List (Option Point))) :
    Outcome → Prop
  | .matched t => ∃ marks, found = some (t.spot, marks) ∧ known ++ marks <+: t.marks
  | .failed t => found = none ∧ known <+: t.marks

namespace Finds

variable {known : List (Option Point)} {found : Option (Point × List (Option Point))} {o : Outcome}

/-- Marks that were set before the rest was searched are part of what is found. -/
theorem prepend {marks : List (Option Point)} (h : Finds (known ++ marks) found o) :
    Finds known (found.map fun f => (f.1, marks ++ f.2)) o := by
  cases o with
  | failed t =>
    exact ⟨by rw [h.1, Option.map_none], (List.prefix_append ..).trans h.2⟩
  | matched t =>
    obtain ⟨more, rfl, hmore⟩ := h
    exact ⟨marks ++ more, rfl, by simpa using hmore⟩

theorem failed {t : Trail} (h : known <+: t.marks) : Finds known none (.failed t) :=
  ⟨rfl, h⟩

theorem trail?_eq_none (h : Finds known none o) : o.trail? = none := by
  cases o with
  | failed t => rfl
  | matched t =>
    obtain ⟨_, hf, -⟩ := h
    exact absurd hf (by simp)

theorem matched {f : Point × List (Option Point)} (h : Finds known (some f) o) :
    ∃ t, o = .matched t ∧ t.spot = f.1 ∧ known ++ f.2 <+: t.marks := by
  cases o with
  | failed t => exact absurd h.1 (by simp)
  | matched t =>
    obtain ⟨marks, hf, hmarks⟩ := h
    obtain rfl := Option.some.inj hf
    exact ⟨t, rfl, rfl, hmarks⟩

end Finds

/-! ## Single parts -/

namespace Node

/-- A sequence is its first part and then the rest. -/
theorem run_cons (s : Setting) (n : Node) (ns : List Node) (p : Point) (t : Trail)
    (k : Point → Trail → Outcome) :
    (ofList (n :: ns)).run s p t k =
      n.run { s with next := (ofList ns).lead s.flags s.next } p t fun q u =>
        (ofList ns).run s q u k := by
  cases ns <;> rfl

end Node

end PathRouter.Regex

namespace PathRouter
open Regex

/-- The flags of an expression that sets none, under which a dot matches every character. -/
def plainFlags : Flags := ⟨false, false, true, false⟩

theorem holds_ofCode (c d : Char) :
    (CharTest.literal c.toNat).holds plainFlags d = (d == c) := by
  have : (d.toNat == c.toNat) = (d == c) := by
    rw [Bool.eq_iff_iff]
    simp only [beq_iff_eq]
    exact ⟨fun h => Char.ext (UInt32.toNat_inj.1 h), fun h => h ▸ rfl⟩
  simpa [CharTest.holds, Flags.isSame, plainFlags] using this

theorem holds_slashless (c : Char) :
    (CharTest.notLiteral 47).holds plainFlags c = decide (c ≠ '/') := by
  have h := holds_ofCode '/' c
  simp only [CharTest.holds] at h ⊢
  rw [show (47 : CodePoint) = '/'.toNat from rfl, h]
  by_cases hc : c = '/' <;> simp [hc]

section Parts

variable {s : Setting} {p : Point} {t : Trail} {k : Point → Trail → Outcome} {ns : List Node}

/-- The characters of a literal have to follow. -/
theorem run_literal (hs : s.flags = plainFlags) (text : Text) :
    (Node.ofList (literalNodes text ++ ns)).run s p t k =
      if text.isPrefixOf p.after then (Node.ofList ns).run s (p.skip text.length) t k
      else .failed t := by
  induction text generalizing p with
  | nil => rfl
  | cons c text ih =>
    have hcons : literalNodes (c :: text) ++ ns =
        .char (.literal c.toNat) :: (literalNodes text ++ ns) := rfl
    rw [hcons, Node.run_cons]
    cases hp : p.after with
    | nil => simp [Node.run, Point.forward?_nil hp]
    | cons d rest =>
      have hrest : (p.skip 1).after = rest := by simp [hp]
      simp only [Node.run, Point.forward?_cons hp, hs, holds_ofCode, ih, hrest,
        List.isPrefixOf, Bool.and_eq_true, beq_iff_eq, Point.skip_skip, List.length_cons]
      by_cases hdc : d = c
      · simp [hdc, Nat.add_comm]
      · simp [hdc, Ne.symm hdc]

/-- The end has to be reached. -/
theorem run_textEnd (s : Setting) : (Node.ofList [textEndNode]).run s p t k =
    if p.after = [] then k p t else .failed t := by
  cases hp : p.after <;> simp [Node.ofList, textEndNode, Node.run, Anchor.holds, hp]

/-- A slash has to follow. -/
theorem run_slashAhead (hs : s.flags = plainFlags) : ∃ u : Trail, u.marks = t.marks ∧
    (Node.ofList [slashAheadNode]).run s p t k =
      if p.after.head? = some '/' then k p u else .failed u := by
  have hslash (c : Char) : (CharTest.literal 47).holds plainFlags c = (c == '/') :=
    holds_ofCode '/' c
  cases hp : p.after with
  | nil =>
    exact ⟨t.note p, rfl, by simp [Node.ofList, slashAheadNode, Node.ofCode, Node.run,
      Search.first, Point.forward?_nil hp]⟩
  | cons c rest =>
    by_cases hc : c = '/'
    · exact ⟨(t.note p).note (p.skip 1), rfl, by simp [Node.ofList, slashAheadNode, Node.ofCode,
        Node.run, Search.first, Setting.inner, Point.forward?_cons hp, hs, hslash, hc]⟩
    · exact ⟨t.note p, rfl, by simp [Node.ofList, slashAheadNode, Node.ofCode, Node.run,
        Search.first, Setting.inner, Point.forward?_cons hp, hs, hslash, hc]⟩

/-- The end of the text or a slash has to follow. -/
theorem run_boundary (hs : s.flags = plainFlags) : ∃ u : Trail, u.marks = t.marks ∧
    (Node.ofList [boundaryNode]).run s p t k =
      if p.after.head?.all (· == '/') then k p u else .failed u := by
  have hslash (c : Char) : (CharTest.literal 47).holds plainFlags c = (c == '/') :=
    holds_ofCode '/' c
  have hlead : (Node.char (.literal 47)).lead plainFlags none = some ⟨plainFlags, .literal 47⟩ := rfl
  have hend : (Node.anchor .textEnd).lead plainFlags none = none := rfl
  cases hp : p.after with
  | nil =>
    exact ⟨((t.note p).note p).note p, rfl, by
      simp [Node.ofList, boundaryNode, textEndNode, Node.ofCode, Node.run, Search.first, hs,
        Setting.inner, Search.alternative, Search.onward, hlead, hend, FlaggedTest.holdsAfter,
        Node.isAlternation, Anchor.holds, Outcome.orElse, hp]⟩
  | cons c rest =>
    by_cases hc : c = '/'
    · exact ⟨((t.note p).note p).note (p.skip 1), rfl, by
        simp [Node.ofList, boundaryNode, Node.ofCode, Node.run, Search.first, hs, Setting.inner,
          Search.alternative, Search.onward, hlead, FlaggedTest.holdsAfter, FlaggedTest.holds,
          hslash, hc, Outcome.orElse, Point.forward?_cons hp, hp]⟩
    · exact ⟨((t.note p).note p).undo s.repeated (t.note p),
        by cases s.repeated <;> simp [Trail.undo], by
        simp [Node.ofList, boundaryNode, textEndNode, Node.ofCode, Node.run, Search.first, hs,
          Setting.inner, Search.alternative, Search.onward, hlead, hend, FlaggedTest.holdsAfter,
          FlaggedTest.holds, hslash, hc, Node.isAlternation, Anchor.holds, Outcome.orElse, hp]⟩

end Parts

/-! ## Captures -/

/-- Where a greedy part gives its characters back one by one, the first count from which the rest
can be found decides. -/
theorem fewer_finds {known : List (Option Point)} {p : Point} {old t : Trail}
    {k : Point → Trail → Outcome} {found : Nat → Option (Point × List (Option Point))} {n : Nat}
    (hk : ∀ m u, 1 ≤ m → m ≤ n + 1 → known <+: u.marks → Finds known (found m) (k (p.skip m) u))
    (hn : n + 1 ≤ p.after.length) (hold : known <+: old.marks) (ht : known <+: t.marks) :
    Finds known (downFrom found (n + 1))
      (Search.fewer false none old k n (p.skip (n + 1)) t) := by
  induction n generalizing t with
  | zero =>
    have h := hk 1 (t.note (p.skip 1)) (by omega) (by omega) ht
    unfold Search.fewer Search.onward
    simp only [Option.all_none, if_true, downFrom, Option.or_none]
    cases hr : k (p.skip 1) (t.note (p.skip 1)) with
    | matched u => simpa [hr] using h
    | failed u =>
      rw [hr] at h
      exact ⟨h.1, Trail.prefix_undo h.2 hold false⟩
  | succ n ih =>
    have h := hk (n + 2) (t.note (p.skip (n + 2))) (by omega) (by omega) ht
    unfold Search.fewer Search.onward
    simp only [Option.all_none, if_true]
    rw [downFrom]
    cases hr : k (p.skip (n + 2)) (t.note (p.skip (n + 2))) with
    | matched u =>
      rw [hr] at h
      obtain ⟨marks, hfound, hmarks⟩ := h
      exact ⟨marks, by rw [hfound]; rfl, hmarks⟩
    | failed u =>
      rw [hr] at h
      simp only [h.1, Option.none_or]
      rw [Point.skip_backward (by omega)]
      exact ih (fun m u h₁ hm => hk m u h₁ (by omega)) (by omega) (Trail.prefix_undo h.2 hold false)

/-- Nothing is given back if all that was taken is right. -/
theorem fewer_of_matched {p : Point} {old t u : Trail} {k : Point → Trail → Outcome} {n : Nat}
    (repeated : Bool) (h : k p (t.note p) = .matched u) :
    Search.fewer repeated none old k n p t = .matched u := by
  unfold Search.fewer Search.onward
  simp [h]

/-- The marks before those of a group, once it is entered and left. -/
theorem marks_enter_leave {known : List (Option Point)} {t : Trail} {i : Nat} (p q : Point)
    (hi : 1 ≤ i) (hlen : known.length = 2 * i - 2) (ht : known <+: t.marks) :
    known ++ [some p] <+: (t.enter i p).marks ∧
      ∀ u : Trail, known ++ [some p] <+: u.marks →
        known ++ [some p, some q] <+: (u.leave i q).marks := by
  constructor
  · rw [Trail.enter, ← hlen]
    exact Trail.prefix_mark ht p
  · intro u hu
    have hlen' : 2 * i - 1 = (known ++ [some p]).length := by
      simp
      omega
    rw [Trail.leave, hlen']
    simpa using Trail.prefix_mark hu q

section Captures

variable {s : Setting} {p : Point} {t : Trail} {k : Point → Trail → Outcome}
variable {known : List (Option Point)} {i : Nat}

/-- A capture without slash takes as many characters as it can, and gives them back one by one. -/
theorem finds_slashlessSpan {found : Nat → Option (Point × List (Option Point))}
    (hs : s.flags = plainFlags) (hr : s.repeated = false) (hi : 1 ≤ i)
    (hlen : known.length = 2 * i - 2) (ht : known <+: t.marks)
    (hk : ∀ n u, n ≤ slashlessLength p.after →
      known ++ [some p, some (p.skip n)] <+: u.marks →
      Finds (known ++ [some p, some (p.skip n)]) (found n) (k (p.skip n) u)) :
    Finds known
      (downFrom (fun n => (found n).map fun f => (f.1, some p :: some (p.skip n) :: f.2))
        (slashlessLength p.after))
      ((Node.group i slashlessSpan).run s p t k) := by
  have henter := (marks_enter_leave p p hi hlen ht).1
  have hknown : known <+: (t.enter i p).marks := (List.prefix_append ..).trans henter
  have hrun : p.run (FlaggedTest.holds ⟨plainFlags, .notLiteral 47⟩) none =
      (slashlessLength p.after, p.skip (slashlessLength p.after)) := by
    have hpasses : FlaggedTest.holds ⟨plainFlags, .notLiteral 47⟩ = fun c => decide (c ≠ '/') :=
      funext holds_slashless
    rw [hpasses, Point.run_eq]
    rfl
  have hfold : FlaggedTest.isFolding ⟨plainFlags, .notLiteral 47⟩ = false := rfl
  simp only [Node.run, slashlessSpan, Node.single?, Setting.inner, hs, hr, Search.characters,
    reduceCtorEq, if_false, hrun, hfold, Option.filter_none, Bool.false_eq_true]
  have hback : ∀ (n : Nat) (u : Trail), n ≤ slashlessLength p.after → known ++ [some p] <+: u.marks →
      Finds (known ++ [some p]) ((found n).map fun f => (f.1, some (p.skip n) :: f.2))
        (k (p.skip n) (u.leave i (p.skip n))) := by
    intro n u hn hu
    have hleave := (marks_enter_leave p (p.skip n) hi hlen ht).2 u hu
    have h := hk n (u.leave i (p.skip n)) hn hleave
    rw [show known ++ [some p, some (p.skip n)] = known ++ [some p] ++ [some (p.skip n)] by simp] at h
    exact h.prepend
  cases hn : slashlessLength p.after with
  | zero =>
    rw [downFrom]
    split
    · exact .failed hknown
    · exact .failed hknown
  | succ n =>
    have hle : n + 1 ≤ p.after.length :=
      hn ▸ (List.takeWhile_prefix (fun c => decide (c ≠ '/'))).length_le
    rw [if_neg (by simpa [Point.hasAhead_iff] using by omega), if_neg (by omega)]
    have h := fewer_finds (k := fun q u => k q (u.leave i q))
      (fun m u _ hm => hback m u (by omega)) hle
      (show known ++ [some p] <+: ((t.enter i p).note p).marks from henter)
      (show known ++ [some p] <+: ((t.enter i p).note p).marks from henter)
    simpa [downFrom_map, Function.comp_def] using h.prepend

/-- A tail takes the rest of the text, unless that is empty and must not be. -/
theorem run_restOfText (allowEmpty : Bool) (hs : s.flags = plainFlags)
    (hk : ∀ u, ∃ v, k (p.skip p.after.length) u = .matched v) :
    (Node.group i (restOfText allowEmpty)).run s p t k =
      if p.after = [] ∧ !allowEmpty then .failed (t.enter i p)
      else k (p.skip p.after.length)
        ((((t.enter i p).note p).note (p.skip p.after.length)).leave i (p.skip p.after.length)) := by
  have hrun : p.run (FlaggedTest.holds ⟨plainFlags, .any⟩) none =
      (p.after.length, p.skip p.after.length) := by
    have hpasses : FlaggedTest.holds ⟨plainFlags, .any⟩ = fun _ => true := rfl
    have hall : p.after.takeWhile (fun _ => true) = p.after := by
      induction p.after <;> simp_all
    rw [hpasses, Point.run_eq, hall]
  have hfold : FlaggedTest.isFolding ⟨plainFlags, .any⟩ = false := rfl
  simp only [Node.run, restOfText, Node.single?, Setting.inner, hs, Search.characters,
    reduceCtorEq, if_false, hrun, hfold, Option.filter_none, Bool.false_eq_true]
  by_cases hempty : p.after = [] ∧ !allowEmpty
  · have ha : allowEmpty = false := by simpa using hempty.2
    have hahead : p.hasAhead 1 = false := by simp [Point.hasAhead, hempty.1]
    rw [if_pos hempty, ha]
    simp [hahead]
  · have hle : (if allowEmpty then 0 else 1) ≤ p.after.length := by
      have hpos : allowEmpty = false → p.after ≠ [] := fun ha hp => hempty ⟨hp, by simp [ha]⟩
      cases allowEmpty with
      | true => exact Nat.zero_le _
      | false => exact List.length_pos_iff.2 (hpos rfl)
    obtain ⟨v, hv⟩ := hk
      ((((t.enter i p).note p).note (p.skip p.after.length)).leave i (p.skip p.after.length))
    have hahead : ¬(!p.hasAhead (if allowEmpty then 0 else 1)) = true := by
      simpa [Point.hasAhead_iff] using hle
    rw [if_neg hempty, if_neg hahead, if_neg (Nat.not_lt.2 hle), fewer_of_matched s.repeated hv, hv]

theorem finds_restOfText {f : Point × List (Option Point)} (allowEmpty : Bool)
    (hs : s.flags = plainFlags) (hi : 1 ≤ i) (hlen : known.length = 2 * i - 2)
    (ht : known <+: t.marks) (hk : ∀ u, ∃ v, k (p.skip p.after.length) u = .matched v)
    (hfinds : ∀ u : Trail, known ++ [some p, some (p.skip p.after.length)] <+: u.marks →
      Finds (known ++ [some p, some (p.skip p.after.length)]) (some f)
        (k (p.skip p.after.length) u)) :
    Finds known
      (if p.after = [] ∧ !allowEmpty then none
        else some (f.1, some p :: some (p.skip p.after.length) :: f.2))
      ((Node.group i (restOfText allowEmpty)).run s p t k) := by
  have henter := (marks_enter_leave p p hi hlen ht).1
  rw [run_restOfText allowEmpty hs hk]
  split
  · exact .failed ((List.prefix_append ..).trans henter)
  · have hleave := (marks_enter_leave p (p.skip p.after.length) hi hlen ht).2
      (((t.enter i p).note p).note (p.skip p.after.length)) henter
    have h := hfinds _ hleave
    rw [show known ++ [some p, some (p.skip p.after.length)] =
      known ++ [some p] ++ [some (p.skip p.after.length)] by simp] at h
    simpa using h.prepend.prepend

end Captures

/-! ## Whole patterns -/

/-- The marks of the captures of spans that stand one after the other from a point. -/
def spanMarks (p : Point) : List Segment → List Text → List (Option Point)
  | s :: segments, span :: spans =>
    if s.name?.isSome then
      some p :: some (p.skip span.length) :: spanMarks (p.skip span.length) segments spans
    else spanMarks (p.skip span.length) segments spans
  | _, _ => []

theorem spanMarks_capture {s : Segment} (h : s.name?.isSome) (p : Point) (segments : List Segment)
    (span : Text) (spans : List Text) : spanMarks p (s :: segments) (span :: spans) =
      some p :: some (p.skip span.length) :: spanMarks (p.skip span.length) segments spans := by
  rw [spanMarks, if_pos h]

/-- The end and the marks of spans. -/
def spanEnd (p : Point) (segments : List Segment) (spans : List Text) :
    Point × List (Option Point) :=
  (p.skip spans.flatten.length, spanMarks p segments spans)

theorem spanEnd_capture (p : Point) {s : Segment} (h : s.name?.isSome) (segments : List Segment)
    (span : Text) (spans : List Text) :
    spanEnd p (s :: segments) (span :: spans) =
      ((spanEnd (p.skip span.length) segments spans).1,
        some p :: some (p.skip span.length) :: (spanEnd (p.skip span.length) segments spans).2) := by
  simp only [spanEnd, spanMarks_capture h, List.flatten_cons, List.length_append, Point.skip_skip]

theorem spanEnd_literal (p : Point) (text span : Text) (segments : List Segment)
    (spans : List Text) : spanEnd p (.literal text :: segments) (span :: spans) =
      spanEnd (p.skip span.length) segments spans := by
  simp [spanEnd, spanMarks, Segment.name?, Point.skip_skip]

/-- A text with a slash at its end begins what begins with the rest of it and then has a slash. -/
theorem isPrefixOf_endsInSlash {text s : Text} (h : Draft.endsInSlash text) :
    text.isPrefixOf s =
      (text.dropLast.isPrefixOf s && (s.drop text.dropLast.length).head? == some '/') := by
  have hlast : text.getLast? = some '/' := by simpa [Draft.endsInSlash] using h
  obtain ⟨front, rfl⟩ := List.getLast?_eq_some_iff.1 hlast
  rw [Bool.eq_iff_iff]
  simp only [List.dropLast_concat, Bool.and_eq_true, List.isPrefixOf_iff_prefix, beq_iff_eq]
  constructor
  · rintro ⟨r, rfl⟩
    simp
  · rintro ⟨⟨r, rfl⟩, hr⟩
    rw [List.drop_left] at hr
    obtain ⟨r, rfl⟩ := List.head?_eq_some_iff.1 hr
    exact ⟨r, by simp⟩

/-- Any end is accepted. -/
def acceptAny (p : Point) (t : Trail) : Outcome :=
  .matched (t.note p)

/-- After a tail nothing can fail. -/
theorem run_closingNodes {s : Setting} {p : Point} (extent : Extent) (u : Trail) :
    (Node.ofList (closingNodes extent)).run s (p.skip p.after.length) u acceptAny =
      acceptAny (p.skip p.after.length) u := by
  cases extent with
  | exact => rw [closingNodes, run_textEnd, if_pos (by simp)]
  | leading => rfl

/-- The search ends with the greatest split, or fails if there is none. -/
theorem Compiled.finds_best {Body : Text → Nat → Nat → Node → Prop} {extent : Extent} {i j : Nat}
    {segments : List Segment} {ns : List Node} {gs : List Nat}
    (h : Compiled Body extent i j segments ns gs) (hplain : IsPlain segments) (hi : 1 ≤ i)
    {s : Setting} (hs : s.flags = plainFlags) (hr : s.repeated = false) {p : Point} {t : Trail}
    {known : List (Option Point)} (hlen : known.length = 2 * i - 2) (ht : known <+: t.marks) :
    Finds known ((best extent segments p.after).map (spanEnd p segments))
      ((Node.ofList ns).run s p t acceptAny) := by
  induction h generalizing s p t known with
  | textEnd _ =>
    rw [run_textEnd, best]
    split
    · exact ⟨[], rfl, by simpa [acceptAny] using ht⟩
    · exact .failed ht
  | boundary _ =>
    obtain ⟨u, hu, hrun⟩ := run_boundary (p := p) (t := t) (k := acceptAny) hs
    rw [hrun, best]
    split
    · exact ⟨[], rfl, by simpa [acceptAny, hu] using ht⟩
    · exact .failed (hu ▸ ht)
  | @slashAhead i text hleaves =>
    obtain ⟨u, hu, hrun⟩ :=
      run_slashAhead (p := p.skip text.dropLast.length) (t := t) (k := acceptAny) hs
    rw [run_literal hs, hrun, best, if_pos hleaves]
    rw [isPrefixOf_endsInSlash hleaves.2.1]
    by_cases hlit : text.dropLast.isPrefixOf p.after
    · by_cases hslash : (p.after.drop text.dropLast.length).head? = some '/'
      · simp only [Point.skip_after, hlit, hslash, beq_self_eq_true, Bool.and_self, if_true]
        exact ⟨[], by simp [spanEnd, spanMarks, Segment.name?], by simpa [hu] using ht⟩
      · have hb : ((p.after.drop text.dropLast.length).head? == some '/') = false :=
          beq_eq_false_iff_ne.2 hslash
        rw [hlit, hb, if_pos rfl, Point.skip_after, if_neg hslash]
        exact .failed (hu ▸ ht)
    · simpa [hlit] using Finds.failed ht
  | @literal i j text rest ns gs hleaves _ ih =>
    rw [run_literal hs, best, if_neg hleaves]
    split
    · have h := ih hplain.tail hi hs hr (p := p.skip text.length) hlen ht
      rw [Option.map_map, show spanEnd p (.literal text :: rest) ∘ (text :: ·) =
        spanEnd (p.skip text.length) rest from funext (spanEnd_literal p text text rest)]
      exact h
    · exact .failed ht
  | constrained _ _ _ _ => exact absurd (List.mem_cons_self ..) (hplain _ _)
  | @dynamic i j name rest ns gs _ ih =>
    let found n := (best extent rest (p.after.drop n)).map (spanEnd (p.skip n) rest)
    have hk : ∀ (n : Nat) (u : Trail), n ≤ slashlessLength p.after →
        known ++ [some p, some (p.skip n)] <+: u.marks →
        Finds (known ++ [some p, some (p.skip n)]) (found n)
          ((Node.ofList ns).run s (p.skip n) u acceptAny) :=
      fun n u _ hu => ih hplain.tail (by omega) hs hr (by simp; omega) hu
    rw [Node.run_cons, best, downFrom_map]
    have hfound : ∀ n, ((best extent rest (p.after.drop n)).map (p.after.take n :: ·)).map
        (spanEnd p (.dynamic name :: rest)) =
        (found n).map fun f => (f.1, some p :: some (p.skip n) :: f.2) := by
      intro n
      simp only [found, Option.map_map, Function.comp_def,
        spanEnd_capture p (s := .dynamic name) rfl, Point.skip_length_take]
    simp only [hfound]
    exact finds_slashlessSpan (k := fun q u => (Node.ofList ns).run s q u acceptAny) hs hr hi hlen ht hk
  | @tail i name allowEmpty =>
    have hk : ∀ u : Trail, known ++ [some p, some (p.skip p.after.length)] <+: u.marks →
        Finds (known ++ [some p, some (p.skip p.after.length)]) (some (p.skip p.after.length, []))
          ((Node.ofList (closingNodes extent)).run s (p.skip p.after.length) u acceptAny) := by
      intro u hu
      rw [run_closingNodes]
      exact ⟨[], rfl, by simpa [acceptAny] using hu⟩
    have hfound : spanEnd p (.tail name allowEmpty :: Pattern.endSegments extent) [p.after] =
        (p.skip p.after.length, some p :: some (p.skip p.after.length) :: []) := by
      rw [spanEnd_capture p rfl]
      simp [spanEnd, spanMarks]
    rw [Node.run_cons, best]
    refine cast (congrArg (Finds known · _) ?_)
      (finds_restOfText allowEmpty hs hi hlen ht (fun u => ⟨_, run_closingNodes extent u⟩) hk)
    split <;> simp [hfound]

/-! ## Whole expressions -/

theorem RegexAlternative.IsOf.startFlags {Body : Text → Nat → Nat → Node → Prop} {extent : Extent}
    {segments : List Segment} {a : RegexAlternative} {nodes : List Node} {gs : List Nat}
    (h : a.IsOf Body extent segments nodes gs) : a.expression.startFlags = plainFlags := by
  simp [Expression.startFlags, h.flags, plainFlags]

/-- A search runs the simplified parts of the tree, where the least width of the expression is
left. -/
theorem Regex.Expression.search_ofList {e : Expression} {ns : List Node}
    (h : e.tree.simplified = .ofList ns) (edition : Edition) (p : Point) :
    e.search edition p (fun _ => true) =
      if !p.hasAhead e.width.least then .failed ⟨p, []⟩
      else (Node.ofList ns).run ⟨e.startFlags, false, none, edition⟩ p ⟨p, []⟩ acceptAny := by
  rw [Expression.search, h]
  rfl

/-- What an expression matches, the simplified parts of its tree match. -/
theorem Regex.Expression.run_of_matchAt {e : Expression} {edition : Edition} {ns : List Node}
    {text : Text} {pos : Nat} {t : Trail} (h : e.tree.simplified = .ofList ns)
    (ht : e.matchAt edition text pos = some t) :
    (Node.ofList ns).run ⟨e.startFlags, false, none, edition⟩ (.ofText text pos)
      ⟨.ofText text pos, []⟩ acceptAny = .matched t := by
  rw [Expression.matchAt, Expression.search_ofList h] at ht
  split at ht
  · exact absurd ht (by simp [Outcome.trail?])
  · cases hrun : (Node.ofList ns).run ⟨e.startFlags, false, none, edition⟩ (.ofText text pos)
        ⟨.ofText text pos, []⟩ acceptAny with
    | failed u =>
      rw [hrun] at ht
      exact absurd ht (by simp [Outcome.trail?])
    | matched u =>
      rw [hrun] at ht
      exact congrArg Outcome.matched (Option.some.inj ht)

end PathRouter

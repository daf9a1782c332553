import PathRouter.Proofs.ParsedSegments
import PathRouter.Proofs.SpanOrder
import PathRouter.Resource

/-!
# The shape of a match

What a resource consumes and captures, for any patterns. The captures are those of one of the
patterns from left to right, and the match ends as the extent demands. Of an inline expression only
that matters which is known of how it is read in its group.
-/

namespace PathRouter
set_option autoImplicit false

open Regex

/-- The captures of segments lie one after the other between two positions of a text, and reach as
far as their segments allow. -/
inductive Spread (text : Text) (reach : Text → Point → Point → Prop) (last : Nat) :
    Nat → List Segment → List Capture → Prop
  | done {pos : Nat} : pos ≤ last → Spread text reach last pos [] []
  | plain {pos : Nat} {s : Segment} {rest : List Segment} {cs : List Capture} :
      s.name? = none → Spread text reach last pos rest cs →
      Spread text reach last pos (s :: rest) cs
  | capture {pos start stop : Nat} {s : Segment} {rest : List Segment} {c : Capture}
      {cs : List Capture} :
      s.name? = some c.name → c.source = text → c.start = start → c.stop = stop → pos ≤ start →
      start ≤ stop → stop ≤ text.length →
      s.Reaches reach (.ofText text start) (.ofText text stop) →
      Spread text reach last stop rest cs → Spread text reach last pos (s :: rest) (c :: cs)

theorem Spread.le {text : Text} {reach : Text → Point → Point → Prop} {last pos : Nat}
    {segments : List Segment} {cs : List Capture} (h : Spread text reach last pos segments cs) :
    pos ≤ last := by
  induction h with
  | done hpos => exact hpos
  | plain _ _ ih => exact ih
  | capture _ _ _ _ hpos hle _ _ _ ih => exact Nat.le_trans hpos (Nat.le_trans hle ih)

theorem InText.eq_ofText {text : Text} {p : Point} (h : InText text p) :
    p = .ofText text p.position := by
  have hbefore : text.take p.position = p.before.reverse := by
    rw [← h, Point.position, ← List.length_reverse, List.take_left]
  unfold Point.ofText
  rw [hbefore, h.drop_eq, List.reverse_reverse]

/-! ## One alternative -/

section Alternative

variable {text : Text} {reach : Text → Point → Point → Prop}

theorem capture?_eq_some {name text : Text} {span : Int × Int} {c : Capture}
    (h : RegexAlternative.capture? name text span = some c) :
    c.name = name ∧ c.source = text ∧ c.start = span.1 ∧ c.stop = span.2 := by
  unfold RegexAlternative.capture? at h
  dsimp only at h
  split at h
  · split at h
    · obtain rfl := Option.some.inj h
      exact ⟨rfl, rfl, rfl, rfl⟩
    · exact absurd h (by simp)
  · obtain rfl := Option.some.inj h
    exact ⟨rfl, rfl, rfl, rfl⟩

/-- The captures of groups that lie one after the other, unless one of them is reversed. -/
theorem spread_of_lies {a : RegexAlternative} {t : Trail} {last : Point} {pos first : Nat}
    {segments : List Segment} {gs : List Nat} {captures : List Capture}
    (h : Lies text reach t last pos segments gs)
    (hnamed : ∀ (k : Nat) (hk : k < gs.length),
      (a.expression.names.find? fun e => e.1 == groupName (first + k)).map Prod.snd = some gs[k])
    (hordered : ∀ g ∈ gs, ∀ p q, t.span? g = some (p, q) → p.position ≤ q.position)
    (hcaptures : ((captureGroups first segments).mapM fun (group, name) =>
      RegexAlternative.capture? name text (a.span t group)) = some captures) :
    Spread text reach last.position pos segments captures := by
  induction h generalizing first captures with
  | done hpos =>
    obtain rfl := Option.some.inj hcaptures
    exact .done hpos
  | plain hname _ ih =>
    rw [captureGroups, hname] at hcaptures
    exact .plain hname (ih hnamed hordered hcaptures)
  | @capture pos g s rest gs p q hname hspan hpos hp hq hreach _ ih =>
    obtain ⟨name, hname⟩ := Option.isSome_iff_exists.1 hname
    have hfirst : a.span t (groupName first) = ((p.position : Int), (q.position : Int)) := by
      have hgroup := hnamed 0 (Nat.succ_pos _)
      rw [Nat.add_zero] at hgroup
      rw [RegexAlternative.span, hgroup]
      simp [hspan]
    simp only [captureGroups, hname, List.mapM_cons, hfirst, Option.bind_eq_bind,
      Option.bind_eq_some_iff, Option.pure_def, Option.some.injEq] at hcaptures
    obtain ⟨c, hc, cs, hcs, rfl⟩ := hcaptures
    obtain ⟨hcname, hsource, hstart, hstop⟩ := capture?_eq_some hc
    have hle := hordered g (List.mem_cons_self ..) p q hspan
    have hnamed' : ∀ (k : Nat) (hk : k < gs.length),
        (a.expression.names.find? fun e => e.1 == groupName (first + 1 + k)).map Prod.snd =
          some gs[k] := by
      intro k hk
      have := hnamed (k + 1) (Nat.succ_lt_succ hk)
      rwa [show first + (k + 1) = first + 1 + k by omega] at this
    have hrest := ih hnamed' (fun g hg => hordered g (List.mem_cons_of_mem _ hg)) hcs
    rw [hp.eq_ofText, hq.eq_ofText] at hreach
    exact .capture (hname.trans (congrArg some hcname.symm)) hsource hstart hstop hpos hle
      hq.position_le hreach hrest

/-- The groups of captures are groups of the expression. -/
theorem Compiled.mem_groups {Body : Text → Nat → Nat → Node → Prop} {extent : Extent} {i j : Nat}
    {segments : List Segment} {ns : List Node} {gs : List Nat}
    (h : Compiled Body extent i j segments ns gs) : i ≤ j ∧ ∀ g ∈ gs, i ≤ g ∧ g < j := by
  induction h with
  | textEnd _ => exact ⟨Nat.le_refl _, by simp⟩
  | boundary _ => exact ⟨Nat.le_refl _, by simp⟩
  | slashAhead _ => exact ⟨Nat.le_refl _, by simp⟩
  | literal _ _ ih => exact ih
  | dynamic _ ih =>
    refine ⟨by omega, ?_⟩
    intro g hg
    rcases List.mem_cons.1 hg with rfl | hg
    · exact ⟨Nat.le_refl _, ih.1⟩
    · have := ih.2 g hg
      omega
  | constrained _ hlt _ ih =>
    refine ⟨by omega, ?_⟩
    intro g hg
    rcases List.mem_cons.1 hg with rfl | hg
    · exact ⟨Nat.le_refl _, by omega⟩
    · have := ih.2 g hg
      omega
  | tail =>
    refine ⟨by omega, ?_⟩
    intro g hg
    obtain rfl := List.mem_singleton.1 hg
    omega

/-- Where an alternative matches, the groups of its captures lie one after the other. -/
theorem RegexAlternative.IsOf.lies {Body : Text → Nat → Nat → Node → Prop} {extent : Extent}
    {segments : List Segment} {a : RegexAlternative} {nodes : List Node} {gs : List Nat}
    {pos : Nat} {t : Trail} (ha : a.IsOf Body extent segments nodes gs)
    (hbody : Contained a.edition text reach (SimplifiedBody Body)) (hpos : pos ≤ text.length)
    (ht : a.expression.matchAt a.edition text pos = some t) :
    InText text t.spot ∧ EndsAt extent t.spot ∧ Lies text reach t t.spot pos segments gs := by
  obtain ⟨ns, htree, hcompiled⟩ := ha.simplified
  let p := Point.ofText text pos
  have hstart : Holds (InText text) [] false (⟨p, []⟩ : Trail) := ⟨by simp, by simp⟩
  have hposition : pos ≤ p.position := Nat.le_of_eq (Point.ofText_position hpos).symm
  have harrives := hcompiled.run_arrives
    (s := ⟨a.expression.startFlags, false, none, a.edition⟩) hbody (Nat.le_refl 1) ha.startFlags
    (by simp) (InText.ofText text pos) hstart hposition
  rw [Expression.run_of_matchAt htree ht] at harrives
  obtain ⟨hholds, hend, hlies⟩ := harrives
  exact ⟨hholds.spot rfl, hend, hlies⟩

/-- What an alternative captures, where it matches. -/
theorem RegexAlternative.IsOf.spread {Body : Text → Nat → Nat → Node → Prop} {extent : Extent}
    {segments : List Segment} {a : RegexAlternative} {nodes : List Node} {gs : List Nat}
    {pos : Nat} {t : Trail} {captures : List Capture} (ha : a.IsOf Body extent segments nodes gs)
    (hbody : Contained a.edition text reach (SimplifiedBody Body)) (hpos : pos ≤ text.length)
    (ht : a.expression.matchAt a.edition text pos = some t)
    (hordered : a.expression.hasReversedSpan t = false)
    (hcaptures : a.captures? text t = some captures) :
    InText text t.spot ∧ EndsAt extent t.spot ∧
      Spread text reach t.spot.position pos segments captures := by
  obtain ⟨hspot, hend, hlies⟩ := ha.lies hbody hpos ht
  refine ⟨hspot, hend, ?_⟩
  have hnamed : ∀ (k : Nat) (hk : k < gs.length),
      (a.expression.names.find? fun e => e.1 == groupName (0 + k)).map Prod.snd = some gs[k] := by
    intro k hk
    rw [Nat.zero_add]
    exact ha.named k hk
  rw [RegexAlternative.captures?, ha.groups] at hcaptures
  apply spread_of_lies hlies hnamed _ hcaptures
  intro g hg p q hspan
  have hbounds := ha.compiled.mem_groups.2 g hg
  simp only [Expression.hasReversedSpan, List.any_eq_false, List.mem_range'_1] at hordered
  have := hordered g ⟨hbounds.1, by omega⟩
  simpa [hspan] using this

end Alternative

/-! ## Plain text -/

section Static

variable {extent : Extent} {text : Text} {pos : Nat} {result : MatchResult}

theorem charAt?_natCast (text : Text) (n : Nat) : Text.charAt? text (n : Int) = text[n]? := by
  unfold Text.charAt?
  rw [if_neg (by omega), Int.toNat_natCast]

theorem standsAt_natCast {part : Text} (hpos : pos ≤ text.length) :
    Text.standsAt text part (pos : Int) = part.isPrefixOf (text.drop pos) := by
  have hle : (pos : Int) ≤ (text.length : Int) := by omega
  rw [Text.standsAt, Text.clampOffset_natCast hpos, decide_eq_true hle, Bool.true_and]

/-- Text that stands at a position ends inside the text. -/
theorem le_of_standsAt {part : Text} (hpos : pos ≤ text.length)
    (h : Text.standsAt text part (pos : Int) = true) : pos + part.length ≤ text.length := by
  rw [standsAt_natCast hpos, List.isPrefixOf_iff_prefix] at h
  have hlen := h.length_le
  rw [List.length_drop] at hlen
  omega

/-- What follows the literal of an alternative is as it has to be. -/
def StaticAlternative.closes (a : StaticAlternative) (extent : Extent) (after : Text) : Bool :=
  match extent with
  | .exact => after.isEmpty
  | .leading =>
    if a.needsSlash then after.head? == some '/' else after.head?.all (· == '/')

/-- An alternative matches if it is the root and nothing is left, or if its literal stands there with
the right text after it. -/
theorem StaticAlternative.matchAt_natCast (a : StaticAlternative) (hpos : pos ≤ text.length) :
    a.matchAt extent text (pos : Int) = .ok
      (if text.drop pos = [] ∧ a.isRoot extent then some ⟨0, []⟩
      else if a.literal.isPrefixOf (text.drop pos) &&
        a.closes extent ((text.drop pos).drop a.literal.length) then some a.result
      else none) := by
  have hroot : (pos : Int) = text.length ↔ text.drop pos = [] := by
    rw [List.drop_eq_nil_iff]
    omega
  have hcast : (pos : Int) + (a.literal.length : Int) = ((pos + a.literal.length : Nat) : Int) := by
    omega
  unfold StaticAlternative.matchAt
  simp only [hcast, hroot, standsAt_natCast hpos, List.drop_drop]
  split
  · rfl
  cases hstands : a.literal.isPrefixOf (text.drop pos) with
  | false => rfl
  | true =>
    have hstop : pos + a.literal.length ≤ text.length := by
      rw [← standsAt_natCast hpos] at hstands
      exact le_of_standsAt hpos hstands
    have hend : ((pos + a.literal.length : Nat) : Int) = text.length ↔
        text.drop (pos + a.literal.length) = [] := by
      rw [List.drop_eq_nil_iff]
      omega
    simp only [hend, standsAt_natCast hstop, charAt?_natCast, ← List.head?_drop,
      StaticAlternative.closes, Bool.not_true, Bool.true_and, Bool.false_eq_true, if_false]
    cases extent with
    | exact => simp
    | leading =>
      cases hafter : text.drop (pos + a.literal.length) with
      | nil => cases a.needsSlash <;> simp
      | cons c after =>
        by_cases hc : c = '/'
        · cases a.needsSlash <;> simp [hc]
        · cases a.needsSlash <;> simp [hc, Ne.symm hc]

theorem StaticAlternative.endsAt_of_closes {a : StaticAlternative} {p : Point}
    (h : a.closes extent p.after = true) : EndsAt extent p := by
  unfold StaticAlternative.closes at h
  cases extent with
  | exact => exact List.isEmpty_iff.1 h
  | leading =>
    intro c hc
    dsimp only at h
    rw [hc] at h
    split at h
    · simpa using h
    · simpa using h

/-- A match of plain text captures nothing and ends as the extent demands. -/
theorem StaticAlternative.ends_of_matchAt {a : StaticAlternative} (hpos : pos ≤ text.length)
    (h : a.matchAt extent text (pos : Int) = .ok (some result)) :
    ∃ stop : Nat, pos ≤ stop ∧ stop ≤ text.length ∧ result = ⟨(stop : Int) - pos, []⟩ ∧
      EndsAt extent (.ofText text stop) := by
  rw [a.matchAt_natCast hpos] at h
  replace h := Except.ok.inj h
  split at h
  · rename_i hroot
    obtain rfl := Option.some.inj h
    refine ⟨pos, Nat.le_refl _, hpos, by simp, ?_⟩
    have hafter : (Point.ofText text pos).after = [] := hroot.1
    cases extent with
    | exact => exact hafter
    | leading =>
      intro c hc
      rw [hafter] at hc
      exact absurd hc (by simp)
  · split at h
    · rename_i hmatches
      obtain rfl := Option.some.inj h
      rw [Bool.and_eq_true, ← standsAt_natCast hpos, List.drop_drop] at hmatches
      refine ⟨pos + a.literal.length, Nat.le_add_right _ _, le_of_standsAt hpos hmatches.1, ?_,
        endsAt_of_closes hmatches.2⟩
      have hlength : (a.literal.length : Int) = ((pos + a.literal.length : Nat) : Int) - pos := by
        omega
      rw [← hlength]
      rfl
    · exact absurd h (by simp)

end Static

/-! ## Resources -/

section Resource

variable {text : Text} {pos : Nat} {offset : Int} {result : MatchResult}

theorem map_eq_of_mapM_ok {α β : Type} {f : α → Except BuildFailure β} {xs : List α} {ys : List β}
    (h : xs.mapM f = .ok ys) : xs.map f = ys.map .ok := by
  induction xs generalizing ys with
  | nil =>
    obtain rfl := Except.ok.inj h
    rfl
  | cons x xs ih =>
    rw [List.mapM_cons, bind_eq_ok] at h
    obtain ⟨y, hy, h⟩ := h
    rw [bind_eq_ok] at h
    obtain ⟨zs, hzs, h⟩ := h
    obtain rfl := Except.ok.inj h
    rw [List.map_cons, List.map_cons, hy, ih hzs]

theorem mem_of_mapM_ok {α β : Type} {f : α → Except BuildFailure β} {xs : List α} {ys : List β}
    (h : xs.mapM f = .ok ys) : ∀ y ∈ ys, ∃ x ∈ xs, f x = .ok y := by
  intro y hy
  have hmem : .ok y ∈ xs.map f := map_eq_of_mapM_ok h ▸ List.mem_map_of_mem hy
  exact List.mem_map.1 hmem

theorem Pattern.mapM_of_parseAll {config : Config} {extent : Extent} {patterns : List Text}
    {sequences : List (List Segment)} (h : Pattern.parseAll config extent patterns = .ok sequences) :
    patterns ≠ [] ∧ patterns.mapM (Pattern.parse config extent) = .ok sequences := by
  unfold Pattern.parseAll at h
  split at h
  · exact absurd h (by simp [Pattern.refuse])
  · exact ⟨‹_›, h⟩

/-- The segments of a resource are those of its patterns. -/
theorem Resource.parse_of_mem {config : Config} {extent : Extent} {name : Option Text}
    {patterns : List Text} {r : Resource}
    (h : Resource.ofPatterns config extent name patterns = .ok r) :
    r.extent = extent ∧ Matcher.ofSequences extent r.sequences config.edition = .ok r.matcher ∧
      ∀ segments ∈ r.sequences, ∃ p ∈ patterns, Pattern.parse config extent p = .ok segments := by
  rw [Resource.ofPatterns, bind_eq_ok] at h
  obtain ⟨sequences, hsequences, h⟩ := h
  rw [bind_eq_ok] at h
  obtain ⟨matcher, hmatcher, h⟩ := h
  obtain rfl := Except.ok.inj h
  exact ⟨rfl, hmatcher, mem_of_mapM_ok (Pattern.mapM_of_parseAll hsequences).2⟩

/-- Where a list matches as its head does, or as its tail if the head does not match, there is a first
member that matches. -/
theorem exists_first {β : Type} {matches? : List β → Except MatchError (Option MatchResult)}
    (hnil : matches? [] = .ok none)
    (hcons : ∀ b rest, matches? (b :: rest) = .ok (some result) →
      matches? [b] = .ok (some result) ∨
        matches? [b] = .ok none ∧ matches? rest = .ok (some result))
    {bs : List β} (h : matches? bs = .ok (some result)) :
    ∃ i b, bs[i]? = some b ∧ matches? [b] = .ok (some result) ∧
      ∀ earlier ∈ bs.take i, matches? [earlier] = .ok none := by
  induction bs with
  | nil => exact absurd (hnil.symm.trans h) (by simp)
  | cons b rest ih =>
    rcases hcons b rest h with hb | ⟨hb, hrest⟩
    · exact ⟨0, b, rfl, hb, by simp⟩
    · obtain ⟨i, c, hi, hc, hearlier⟩ := ih hrest
      refine ⟨i + 1, c, hi, hc, ?_⟩
      rw [List.take_succ_cons, List.forall_mem_cons]
      exact ⟨hb, hearlier⟩

theorem StaticAlternative.first_of_firstMatch {extent : Extent} (a : StaticAlternative)
    (rest : List StaticAlternative)
    (h : StaticAlternative.firstMatch extent text offset (a :: rest) = .ok (some result)) :
    StaticAlternative.firstMatch extent text offset [a] = .ok (some result) ∨
      StaticAlternative.firstMatch extent text offset [a] = .ok none ∧
        StaticAlternative.firstMatch extent text offset rest = .ok (some result) := by
  rw [StaticAlternative.firstMatch] at h ⊢
  cases hmatch : a.matchAt extent text offset with
  | error e =>
    rw [hmatch] at h
    exact absurd h (by simp [bind, Except.bind])
  | ok found =>
    rw [hmatch] at h
    cases found with
    | none => exact .inr ⟨rfl, h⟩
    | some _ => exact .inl h

theorem RegexAlternative.first_of_firstMatch (a : RegexAlternative) (rest : List RegexAlternative)
    (h : RegexAlternative.firstMatch text offset (a :: rest) = .ok (some result)) :
    RegexAlternative.firstMatch text offset [a] = .ok (some result) ∨
      RegexAlternative.firstMatch text offset [a] = .ok none ∧
        RegexAlternative.firstMatch text offset rest = .ok (some result) := by
  rw [RegexAlternative.firstMatch] at h ⊢
  cases hmatch : a.expression.matchAt a.edition text (min offset.toNat text.length) with
  | none =>
    rw [hmatch] at h
    exact .inr ⟨rfl, h⟩
  | some t =>
    rw [hmatch] at h
    exact .inl h

theorem RegexAlternative.exists_of_firstMatch {alternatives : List RegexAlternative}
    (hpos : pos ≤ text.length)
    (h : RegexAlternative.firstMatch text (pos : Int) alternatives = .ok (some result)) :
    ∃ a ∈ alternatives, ∃ t captures, a.expression.matchAt a.edition text pos = some t ∧
      a.expression.hasReversedSpan t = false ∧ a.captures? text t = some captures ∧
      result = ⟨(t.spot.position : Int) - pos, captures⟩ ∧
      RegexAlternative.firstMatch text (pos : Int) [a] = .ok (some result) := by
  have hmin : min ((pos : Int).toNat) text.length = pos := by omega
  obtain ⟨i, a, hi, halone, -⟩ := exists_first (by rfl) RegexAlternative.first_of_firstMatch h
  have hfound := halone
  rw [RegexAlternative.firstMatch, hmin] at hfound
  cases hmatch : a.expression.matchAt a.edition text pos with
  | none =>
    rw [hmatch] at hfound
    exact absurd (Except.ok.inj hfound) (by simp)
  | some t =>
    simp only [hmatch] at hfound
    split at hfound
    · exact absurd hfound (by simp)
    · rename_i hordered
      obtain ⟨captures, hcaptures, hresult⟩ := Option.map_eq_some_iff.1 (Except.ok.inj hfound)
      exact ⟨a, List.mem_of_getElem? hi, t, captures, hmatch, by simpa using hordered, hcaptures,
        hresult.symm, halone⟩

theorem StaticAlternative.exists_of_firstMatch {extent : Extent}
    {alternatives : List StaticAlternative}
    (h : StaticAlternative.firstMatch extent text (pos : Int) alternatives = .ok (some result)) :
    ∃ a ∈ alternatives, a.matchAt extent text (pos : Int) = .ok (some result) := by
  obtain ⟨i, a, hi, halone, -⟩ := exists_first (by rfl) StaticAlternative.first_of_firstMatch h
  refine ⟨a, List.mem_of_getElem? hi, ?_⟩
  rw [StaticAlternative.firstMatch] at halone
  cases hmatch : a.matchAt extent text (pos : Int) with
  | error e =>
    rw [hmatch] at halone
    exact absurd halone (by simp [bind, Except.bind])
  | ok found =>
    rw [hmatch] at halone
    cases found with
    | none => exact absurd (Except.ok.inj halone) (by simp)
    | some r => exact halone

/-- The match of a resource is what one of its sequences gives by itself, as plain text or as an
expression. -/
inductive MatchesAlone (edition : Edition) (extent : Extent) (segments : List Segment) (text : Text)
    (pos : Nat) (result : MatchResult) : Prop
  | static : isCaptureFree segments = true →
      (StaticAlternative.ofSegments extent segments).matchAt extent text (pos : Int) =
        .ok (some result) →
      MatchesAlone edition extent segments text pos result
  | regex {a : RegexAlternative} : RegexAlternative.ofSegments edition extent segments = .ok a →
      RegexAlternative.firstMatch text (pos : Int) [a] = .ok (some result) →
      MatchesAlone edition extent segments text pos result

/-- What a resource consumes and captures, where inline expressions are read in their groups as
`Body` says and keep to `reach`. -/
theorem Resource.spread_of_matchAt {Body : Text → Nat → Nat → Node → Prop}
    {reach : Text → Point → Point → Prop} {config : Config} {extent : Extent} {name : Option Text}
    {patterns : List Text} {r : Resource}
    (hr : Resource.ofPatterns config extent name patterns = .ok r)
    (hreads : ∀ segments ∈ r.sequences, ∀ name e b, .constrained name e ∈ segments →
      splicedText e = some b → ReadsAs Body e b)
    (hbody : Contained config.edition text reach (SimplifiedBody Body)) (hpos : pos ≤ text.length)
    (h : r.matchAt text (pos : Int) = .ok (some result)) :
    ∃ segments ∈ r.sequences, MatchesAlone config.edition extent segments text pos result ∧
      ∃ stop : Nat, pos ≤ stop ∧ stop ≤ text.length ∧
        result.consumed = (stop : Int) - pos ∧ EndsAt extent (.ofText text stop) ∧
        Spread text reach stop pos segments result.captures := by
  obtain ⟨rfl, hmatcher, hparsed⟩ := Resource.parse_of_mem hr
  unfold Matcher.ofSequences at hmatcher
  split at hmatcher
  · exact absurd hmatcher (by simp)
  · split at hmatcher
    · rename_i hfree
      have hstatic := Except.ok.inj hmatcher
      rw [Resource.matchAt, ← hstatic, Matcher.matchAt] at h
      obtain ⟨a, ha, hmatch⟩ := StaticAlternative.exists_of_firstMatch h
      obtain ⟨segments, hsegments, hof⟩ := List.mem_map.1 ha
      obtain ⟨stop, hle, hstop, rfl, hend⟩ := a.ends_of_matchAt hpos hmatch
      have halone : MatchesAlone config.edition _ segments text pos _ :=
        .static (List.all_eq_true.1 hfree segments hsegments) (by rwa [hof])
      refine ⟨segments, hsegments, halone, stop, hle, hstop, rfl, hend, ?_⟩
      have hnames := List.all_eq_true.1 (List.all_eq_true.1 hfree segments hsegments)
      clear hsegments hof halone
      induction segments with
      | nil => exact .done hle
      | cons s rest ih =>
        have hs := hnames s (List.mem_cons_self ..)
        exact .plain (by simpa using hs) (ih fun s hs => hnames s (List.mem_cons_of_mem _ hs))
    · rw [bind_eq_ok] at hmatcher
      obtain ⟨alternatives, halternatives, hregex⟩ := hmatcher
      have hmatch := Except.ok.inj hregex
      rw [Resource.matchAt, ← hmatch, Matcher.matchAt] at h
      split at h
      · obtain ⟨a, ha, t, captures, ht, hordered, hcaptures, rfl, halone⟩ :=
          RegexAlternative.exists_of_firstMatch hpos h
        obtain ⟨segments, hsegments, hof⟩ := mem_of_mapM_ok halternatives a ha
        obtain ⟨p, -, hparse⟩ := hparsed segments hsegments
        obtain ⟨nodes, gs, hisOf⟩ := RegexAlternative.isOf_of_ofSegments
          (Pattern.endsWell_of_parse hparse) (hreads segments hsegments) hof
        rw [← RegexAlternative.edition_of_ofSegments hof] at hbody
        obtain ⟨hspot, hend, hspread⟩ := hisOf.spread hbody hpos ht hordered hcaptures
        rw [hspot.eq_ofText] at hend
        exact ⟨segments, hsegments, .regex hof halone, t.spot.position, hspread.le,
          hspot.position_le, rfl, hend, hspread⟩
      · exact absurd h (by simp)

end Resource

end PathRouter

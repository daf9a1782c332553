import PathRouter.Proofs.SlashRefusal
import PathRouter.Proofs.WellFormedMatch

/-!
# Confinement to one part of a path

The span of a plain capture has no slash. That of an inline expression has one only if the
expression really names a slash, provided that nothing in the expression misleads what decides on
narrowing or the narrowing itself.
-/

namespace PathRouter
set_option autoImplicit false

open Regex

/-! ## Naming a slash -/

namespace Regex

/-- The member is written with a code point. -/
def Member.names (code : CodePoint) : Member → Bool
  | single c => c == code
  | range low high => low == code || high == code
  | category _ _ => false

/-- The test is written with a code point. -/
def CharTest.names (code : CodePoint) : CharTest → Bool
  | literal c | notLiteral c => c == code
  | any => false
  | set _ members => members.any (·.names code)

namespace Node

/-- Some test of the tree is written with a code point. -/
def names (code : CodePoint) : Node → Bool
  | empty | anchor _ | backreference _ => false
  | char test => test.names code
  | seq a b | alt a b | conditional _ a b => a.names code || b.names code
  | quantified _ _ _ body | group _ body | flagged _ _ body | atomic body | look _ _ body =>
    body.names code

/-- Nothing in the tree moves on other than by its tests: there is no backreference, and where the
spot is followed no look around. -/
def isConfinable (edition : Edition) (followed : Bool) : Node → Bool
  | empty | anchor _ | char _ => true
  | backreference _ => false
  | seq a b | alt a b | conditional _ a b =>
    a.isConfinable edition followed && b.isConfinable edition followed
  | quantified mode _ _ body => body.isConfinable edition (followed || edition.follows mode)
  | group _ body | flagged _ _ body | atomic body => body.isConfinable edition followed
  | look _ _ _ => !followed

end Node

end Regex

/-- The expression has a slash, or a token that denotes one. -/
def namesSlash (e : Text) : Bool :=
  decide ('/' ∈ e) ||
    match readExpression e with
    | .ok x => x.tree.names 47
    | .error _ => false

/-- The inline expression names a slash if it seems to mention one. Otherwise narrowing meets
nothing that it mistakes, and what comes of it moves on by its tests only. -/
def isConfined (edition : Edition) (e : Text) : Bool :=
  if Segment.mentionsSlash e then namesSlash e
  else narrowsCleanly e &&
    match confine e with
    | some b =>
      match readExpression b with
      | .ok y => y.tree.isConfinable edition false
      | .error _ => false
    | none => true

/-! ## Narrowed images -/

namespace Regex

/-- An image under narrowing is narrowed if it is the image of a tree that can be. -/
theorem Mirrors.narrowed {edition : Edition} {first second : Nat} {followed : Bool} {x y a : Node}
    (hx : Mirrors true first x a) (hy : Mirrors false second y a)
    (h : y.isConfinable edition followed = true) : Narrowed edition followed a := by
  induction hx generalizing followed y with
  | empty => exact .empty
  | char htest =>
    obtain ⟨test', rfl, hrefuses, -⟩ | ⟨-, rfl⟩ := htest.cases
    · exact .char (hrefuses rfl)
    · cases followed with
      | false => exact .guarded _
      | true =>
        cases hy with
        | char hmirror => exact absurd hmirror.eq_char (by simp [guardedTest])
        | flagged _ _ hseq =>
          cases hseq with
          | char hmirror => exact absurd hmirror.eq_char (by simp)
          | seq hlook _ =>
            cases hlook with
            | char hmirror => exact absurd hmirror.eq_char (by simp)
            | look _ _ _ => exact absurd h (by simp [Node.isConfinable])
  | anchor a => exact .anchor a
  | backreference g g' =>
    cases hy with
    | char hmirror => exact absurd hmirror.eq_char (by simp)
    | backreference _ _ => exact absurd h (by simp [Node.isConfinable])
  | seq _ _ iha ihb =>
    cases hy with
    | char hmirror => exact absurd hmirror.eq_char (by simp)
    | seq ha hb =>
      rw [Node.isConfinable, Bool.and_eq_true] at h
      exact .seq (iha ha h.1) (ihb hb h.2)
  | alt _ _ iha ihb =>
    cases hy with
    | char hmirror => exact absurd hmirror.eq_char (by simp)
    | alt ha hb =>
      rw [Node.isConfinable, Bool.and_eq_true] at h
      exact .alt (iha ha h.1) (ihb hb h.2)
  | quantified mode least most _ ih =>
    cases hy with
    | char hmirror => exact absurd hmirror.eq_char (by simp)
    | quantified _ _ _ ha => exact .quantified mode least most (ih ha h)
  | group _ _ ih =>
    cases hy with
    | char hmirror => exact absurd hmirror.eq_char (by simp)
    | group _ ha => exact .group _ (ih ha h)
  | flagged on off _ ih =>
    cases hy with
    | char hmirror => exact absurd hmirror.eq_char (by simp)
    | flagged _ _ ha => exact .flagged on off (ih ha h)
  | atomic _ ih =>
    cases hy with
    | char hmirror => exact absurd hmirror.eq_char (by simp)
    | atomic ha => exact .atomic (ih ha h)
  | look negated _ _ _ =>
    cases hy with
    | char hmirror => exact absurd hmirror.eq_char (by simp)
    | look _ _ _ =>
      rw [Node.isConfinable, Bool.not_eq_true'] at h
      subst h
      exact .look _ negated
  | conditional g g' _ _ iha ihb =>
    cases hy with
    | char hmirror => exact absurd hmirror.eq_char (by simp)
    | conditional _ _ ha hb =>
      rw [Node.isConfinable, Bool.and_eq_true] at h
      exact .conditional g' (iha ha h.1) (ihb hb h.2)

end Regex

/-- What an inline expression becomes in its group, with what is known of the expression. -/
def ConfinedBody (edition : Edition) (e : Text) (i j : Nat) (n : Node) : Prop :=
  InlineBody e i j n ∧ isConfined edition e = true ∧ ∃ x, readExpression e = .ok x

/-- An inline expression that seems to mention no slash does not get past one. -/
def StopsAtSlash (e : Text) (p q : Point) : Prop :=
  Segment.mentionsSlash e = false → SlashFree p q

/-- The group of an inline expression that is narrowed refuses slashes. -/
theorem ConfinedBody.refusesSlash {edition : Edition} {e : Text} {i j : Nat} {n : Node}
    (h : ConfinedBody edition e i j n) (hmentions : Segment.mentionsSlash e = false) :
    n.simplified.RefusesSlash edition false false := by
  obtain ⟨⟨b, y, a, hb, hy, rfl, himage⟩, hconfined, x, hx⟩ := h
  have hsource : confine e = some b := by
    rwa [splicedText, hmentions, if_neg (by simp)] at hb
  rw [isConfined, hmentions, if_neg (by simp), Bool.and_eq_true, hsource] at hconfined
  obtain ⟨hclean, hconfinable⟩ := hconfined
  simp only [hy] at hconfinable
  have hnarrowed : Narrowed edition false a :=
    (himage true e x hsource hx fun _ => hclean).narrowed (himage false b y rfl hy nofun) hconfinable
  exact (inherits_refusesSlash edition).ofTree (.flagged [] [] hnarrowed)

theorem contained_confinedBody (edition : Edition) (text : Text) :
    Contained edition text StopsAtSlash (SimplifiedBody (ConfinedBody edition)) where
  start _ p _ := .refl p
  within {e i j n p} h hp := by
    obtain ⟨body, hbody, rfl⟩ := h
    cases hmentions : Segment.mentionsSlash e with
    | false =>
      refine (hbody.refusesSlash hmentions).within ?_ nofun plainFlags
      intro passes hslash q c r hq hnext hpass
      have hr := advances_slashFree text p hslash q c r ⟨hq.1, hq.2 hmentions⟩ hnext hpass
      exact ⟨hr.1, fun _ => hr.2⟩
    | true =>
      have hreach (q : Point) : StopsAtSlash e p q := fun he => absurd (hmentions.symm.trans he) nofun
      apply Node.within_of_closed
      · intro q k hq
        exact ⟨hq.1.skip k, hreach _⟩
      · intro _ q k r hq hback
        exact ⟨InText.retreats text q k r hq.1 hback, hreach _⟩
  groups {_ _ _ _} h := by
    obtain ⟨body, hbody, rfl⟩ := h
    exact hbody.1.groupsFrom.simplified

/-- The inline expressions of a pattern are read as they are by themselves. -/
theorem readsAs_confinedBody {config : Config} {extent : Extent} {pattern : Text}
    {segments : List Segment} {name e b : Text}
    (hparse : Pattern.parse config extent pattern = .ok segments)
    (hmem : .constrained name e ∈ segments) {edition : Edition}
    (hconfined : isConfined edition e = true) (hb : splicedText e = some b) :
    ReadsAs (ConfinedBody edition) e b := by
  obtain ⟨x, hx⟩ := ofText_of_checkInline (Pattern.checkInline_of_parse hparse hmem)
  have hwhole : narrowsToExpression e = true := by
    unfold narrowsToExpression
    unfold isConfined at hconfined
    split at hconfined
    · rename_i hmentions
      rw [hmentions, Bool.true_or]
    · rw [Bool.and_eq_true] at hconfined
      rw [Bool.or_eq_true]
      right
      split
      · rename_i b' hb'
        have hread := hconfined.2
        rw [hb'] at hread
        dsimp only at hread
        split at hread
        · rename_i y hy
          rw [hy]
          rfl
        · exact absurd hread (by simp)
      · rfl
  intro p gs rest result hp hrest hread
  obtain ⟨q, body, hq, htop, hparts, hbody, hnext⟩ :=
    readsAs_of_parse hparse hmem hwhole hb p gs rest result hp hrest hread
  exact ⟨q, body, hq, htop, hparts, ⟨hbody, hconfined, x, readExpression_of_ofText hx⟩, hnext⟩

/-! ## Spans -/

/-- The span of a segment has a slash only where it may: none in a plain capture, and in the span of
an inline expression only if the expression is allowed one and names one. -/
def Segment.Confines (span : Text) : Segment → Prop
  | dynamic _ => '/' ∉ span
  | constrained name e =>
    '/' ∈ span → (constrained name e).allowsSlash = true ∧ namesSlash e = true
  | literal _ | tail _ _ | boundary => True

/-- The captures are those of the segments in order, and their spans of the text are confined. -/
def AreConfined (text : Text) (segments : List Segment) (captures : List Capture) : Prop :=
  List.Forall₂
    (fun s c => s.name? = some c.name ∧ s.Confines (Text.slice text c.start c.stop))
    (segments.filter fun s => s.name?.isSome) captures

/-- What lies between two points without slash between them. -/
theorem SlashFree.not_mem_slice {text : Text} {start stop : Nat} (hle : start ≤ stop)
    (hstop : stop ≤ text.length) (h : SlashFree (.ofText text start) (.ofText text stop)) :
    '/' ∉ Text.slice text (start : Int) (stop : Int) := by
  obtain ⟨n, hn, hskip, hslash⟩ := h
  have hposition := congrArg Point.position hskip
  rw [Point.ofText_position hstop, Point.skip_position hn,
    Point.ofText_position (Nat.le_trans hle hstop)] at hposition
  subst hposition
  rw [Text.slice, Text.clampOffset_natCast (Nat.le_trans hle hstop), Text.clampOffset_natCast hstop,
    List.drop_take, Nat.add_sub_cancel_left]
  exact hslash

theorem Spread.areConfined {text : Text} {last pos : Nat} {segments : List Segment}
    {cs : List Capture} (h : Spread text StopsAtSlash last pos segments cs)
    {edition : Edition}
    (hconfined : ∀ name e, .constrained name e ∈ segments → isConfined edition e = true) :
    AreConfined text segments cs := by
  induction h with
  | done _ => exact .nil
  | @plain _ s _ _ hname _ ih =>
    have hrest := ih fun name e hmem => hconfined name e (List.mem_cons_of_mem _ hmem)
    rwa [AreConfined, List.filter_cons_of_neg (by simp [hname])]
  | @capture _ start stop s rest c _ hname _ hstart hstop _ hle hlast hreach _ ih =>
    have hrest := ih fun name e hmem => hconfined name e (List.mem_cons_of_mem _ hmem)
    rw [AreConfined, List.filter_cons_of_pos (by simp [hname])]
    refine .cons ⟨hname, ?_⟩ hrest
    rw [hstart, hstop]
    cases s with
    | literal _ => trivial
    | boundary => trivial
    | tail _ _ => trivial
    | dynamic _ => exact SlashFree.not_mem_slice hle hlast hreach
    | constrained name e =>
      intro hslash
      cases hmentions : Segment.mentionsSlash e with
      | false =>
        have hfree : SlashFree _ _ := hreach hmentions
        exact absurd hslash (hfree.not_mem_slice hle hlast)
      | true =>
        have hnames := hconfined name e (List.mem_cons_self ..)
        rw [isConfined, if_pos hmentions] at hnames
        exact ⟨hmentions, hnames⟩

/-- The spans that a resource captures are confined, if its inline expressions are. -/
theorem Resource.areConfined_of_matchAt {config : Config} {extent : Extent} {name : Option Text}
    {patterns : List Text} {r : Resource} {text : Text} {pos : Nat} {result : MatchResult}
    (hr : Resource.ofPatterns config extent name patterns = .ok r)
    (hconfined : ∀ segments ∈ r.sequences, ∀ name e, .constrained name e ∈ segments →
      isConfined config.edition e = true)
    (hpos : pos ≤ text.length) (h : r.matchAt text (pos : Int) = .ok (some result)) :
    ∃ segments ∈ r.sequences, MatchesAlone config.edition extent segments text pos result ∧
      AreConfined text segments result.captures := by
  have hparsed := (Resource.parse_of_mem hr).2.2
  have hreads : ∀ segments ∈ r.sequences, ∀ name e b, .constrained name e ∈ segments →
      splicedText e = some b → ReadsAs (ConfinedBody config.edition) e b := by
    intro segments hsegments name e b hmem hb
    obtain ⟨p, -, hparse⟩ := hparsed segments hsegments
    exact readsAs_confinedBody hparse hmem (hconfined segments hsegments name e hmem) hb
  obtain ⟨segments, hsegments, halone, stop, -, -, -, -, hspread⟩ :=
    Resource.spread_of_matchAt hr hreads (contained_confinedBody config.edition text) hpos h
  exact ⟨segments, hsegments, halone, hspread.areConfined (hconfined segments hsegments)⟩

instance (span : Text) : (s : Segment) → Decidable (s.Confines span)
  | .literal _ | .tail _ _ | .boundary => .isTrue trivial
  | .dynamic _ => inferInstanceAs (Decidable ('/' ∉ span))
  | .constrained name e =>
    inferInstanceAs (Decidable ('/' ∈ span →
      (Segment.constrained name e).allowsSlash = true ∧ namesSlash e = true))

/-- A range around the slash, a negated class and a shorthand stop at a slash, and an expression that
names one gets past it. -/
theorem Resource.areConfined_of_matchAt_range :
    ∃ r result,
      Resource.ofPatterns .standard .exact none ["/\x7ba:[+-9]\\W[^b]?\x7d/\x7bb:.\\x2f.\x7d".toList] =
        .ok r ∧
      (∀ segments ∈ r.sequences, ∀ name e, .constrained name e ∈ segments →
        isConfined .current e = true) ∧
      r.matchAt "/8-c/x/y".toList 0 = .ok (some result) ∧
      ∃ segments ∈ r.sequences, MatchesAlone .current .exact segments "/8-c/x/y".toList 0 result ∧
        AreConfined "/8-c/x/y".toList segments result.captures := by
  let range := "[+-9]\\W[^b]?".toList
  let slashed := ".\\x2f.".toList
  let segments : List Segment :=
    [.literal ['/'], .constrained ['a'] range, .literal ['/'], .constrained ['b'] slashed]
  let captures : List Capture :=
    [⟨['a'], "/8-c/x/y".toList, 1, 4, none⟩, ⟨['b'], "/8-c/x/y".toList, 5, 8, none⟩]
  have hrun : ((Resource.ofPatterns .standard .exact none
      ["/\x7ba:[+-9]\\W[^b]?\x7d/\x7bb:.\\x2f.\x7d".toList]).toOption.map fun r =>
        (r.sequences, (r.matchAt "/8-c/x/y".toList 0).toOption)) =
      some ([segments], some (some ⟨8, captures⟩)) := by decide +kernel
  obtain ⟨r, hr, hmatch⟩ := Option.map_eq_some_iff.1 hrun
  obtain ⟨hsequences, hmatch⟩ := Prod.mk.inj hmatch
  have hconfined : ∀ segments ∈ r.sequences, ∀ name e, .constrained name e ∈ segments →
      isConfined .current e = true := by
    intro s hs name e hmem
    rw [hsequences, List.mem_singleton] at hs
    subst hs
    have he : name = ['a'] ∧ e = range ∨ name = ['b'] ∧ e = slashed := by
      simpa [segments] using hmem
    rcases he with ⟨-, rfl⟩ | ⟨-, rfl⟩
    · decide +kernel
    · decide +kernel
  have hr' := eq_ok_of_toOption hr
  have hmatch' := eq_ok_of_toOption hmatch
  exact ⟨r, _, hr', hconfined, hmatch',
    Resource.areConfined_of_matchAt hr' hconfined (Nat.zero_le _) hmatch'⟩

/-- The current engine does not get past a slash with a possessive loop over a class either. -/
example : isConfined .current "[+-9]++".toList = true ∧
    isConfined .early "[+-9]++".toList = false := by
  decide +kernel

/-- An escaped backslash before `x2f` is taken for the escape of a slash. So the expression is not
narrowed, and its span runs over one although the expression names none. -/
theorem Resource.not_areConfined_backslash :
    ∃ r result,
      Resource.ofPatterns .standard .exact none ["/\x7ba:\\\\x2f|.+\x7d".toList] = .ok r ∧
      r.matchAt "/b/c".toList 0 = .ok (some result) ∧
      ∀ segments ∈ r.sequences, ¬AreConfined "/b/c".toList segments result.captures := by
  let e := "\\\\x2f|.+".toList
  let capture : Capture := ⟨['a'], "/b/c".toList, 1, 4, none⟩
  have hrun : ((Resource.ofPatterns .standard .exact none ["/\x7ba:\\\\x2f|.+\x7d".toList]).toOption.map
      fun r => (r.sequences, (r.matchAt "/b/c".toList 0).toOption)) =
      some ([[.literal ['/'], .constrained ['a'] e]], some (some ⟨4, [capture]⟩)) := by
    decide +kernel
  obtain ⟨r, hr, hmatch⟩ := Option.map_eq_some_iff.1 hrun
  obtain ⟨hsequences, hmatch⟩ := Prod.mk.inj hmatch
  refine ⟨r, _, eq_ok_of_toOption hr, eq_ok_of_toOption hmatch, ?_⟩
  intro segments hsegments hconfined
  rw [hsequences, List.mem_singleton] at hsegments
  subst hsegments
  cases hconfined with
  | cons hcapture _ =>
    have hnot : ¬(Segment.constrained ['a'] e).Confines (Text.slice "/b/c".toList 1 4) := by
      decide +kernel
    exact hnot hcapture.2

end PathRouter

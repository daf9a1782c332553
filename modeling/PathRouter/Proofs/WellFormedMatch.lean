import PathRouter.Proofs.InlineGroup
import PathRouter.Proofs.MatchShape

/-!
# Well-formed matches

A match ends where its extent demands, and its captures lie one after the other inside of it. The
patterns may hold any inline expressions, as long as narrowing leaves each an expression by itself:
then no group of it is closed outside, and none that was open before is closed in it.
-/

namespace PathRouter
set_option autoImplicit false

open Regex

/-! ## Groups of an image -/

namespace Regex

namespace Node

theorem hereditary_groupsFrom (first : Nat) : Hereditary (·.GroupsFrom first) where
  empty := trivial
  char _ := trivial
  seq _ _ := Iff.rfl
  alt _ _ := Iff.rfl
  quantified _ _ _ _ h := ⟨h, fun _ hb => hb⟩
  group _ _ h := ⟨h.2, fun _ hb => ⟨h.1, hb⟩⟩
  flagged _ _ _ := Iff.rfl
  atomic _ h := ⟨h, fun _ hb => hb⟩
  look _ _ _ h := ⟨h, fun _ hb => hb⟩
  conditional _ _ _ h := ⟨h, fun _ _ => And.intro⟩

/-- The numbers of the groups are kept when a tree is simplified. -/
theorem GroupsFrom.simplified {first : Nat} {n : Node} (h : n.GroupsFrom first) :
    n.simplified.GroupsFrom first :=
  (hereditary_groupsFrom first).simplified h

end Node

theorem TestMirrors.groupsFrom {total narrowed : Bool} {first : Nat} {test : CharTest} {n : Node}
    (h : TestMirrors total narrowed test n) : n.GroupsFrom first := by
  obtain ⟨test', rfl, -⟩ | ⟨-, rfl⟩ := h.cases
  · trivial
  · exact ⟨trivial, trivial⟩

/-- An image has no groups but those that are numbered from `first` on. -/
theorem Mirrors.groupsFrom {narrowed : Bool} {first : Nat} {n m : Node}
    (h : Mirrors narrowed first n m) : m.GroupsFrom first := by
  induction h with
  | empty => trivial
  | char htest => exact htest.groupsFrom
  | anchor _ => trivial
  | backreference _ _ => trivial
  | seq _ _ iha ihb => exact ⟨iha, ihb⟩
  | alt _ _ iha ihb => exact ⟨iha, ihb⟩
  | quantified _ _ _ _ ih => exact ih
  | group hle _ ih => exact ⟨hle, ih⟩
  | flagged _ _ _ ih => exact ih
  | atomic _ ih => exact ih
  | look _ _ _ ih => exact ih
  | conditional _ _ _ _ iha ihb => exact ⟨iha, ihb⟩

end Regex

theorem InlineBody.groupsFrom {e : Text} {i j : Nat} {n : Node} (h : InlineBody e i j n) :
    n.GroupsFrom (i + 1) := by
  obtain ⟨b, x, a, -, hx, rfl, himage⟩ := h
  exact (himage false b x rfl hx nofun).groupsFrom

/-- Whatever an inline expression becomes stays in the text and sets the marks of its own groups. -/
theorem contained_inlineBody (edition : Edition) (text : Text) :
    Contained edition text (fun _ _ _ => True) (SimplifiedBody InlineBody) where
  start _ _ := trivial
  within {_ _ _ n _} _ _ := by
    apply Node.within_of_closed
    · intro p k hp
      exact ⟨hp.1.skip k, trivial⟩
    · intro _ p k q hp hback
      exact ⟨InText.retreats text p k q hp.1 hback, trivial⟩
  groups {_ _ _ _} h := by
    obtain ⟨body, hbody, rfl⟩ := h
    exact hbody.groupsFrom.simplified

/-! ## Inline expressions -/

/-- If the inline expression is narrowed, what stands for it in its group is an expression by
itself. -/
def narrowsToExpression (e : Text) : Bool :=
  Segment.mentionsSlash e ||
    match confine e with
    | some b => (readExpression b).isOk
    | none => true

theorem exists_of_isOk {ε α : Type} {x : Except ε α} (h : x.isOk = true) : ∃ a, x = .ok a := by
  cases x with
  | error e => exact absurd h (by simp [Except.isOk, Except.toBool])
  | ok a => exact ⟨a, rfl⟩

/-- The inline expressions of a pattern are read as they are by themselves. -/
theorem readsAs_of_parse {config : Config} {extent : Extent} {pattern : Text}
    {segments : List Segment} {name e b : Text}
    (hparse : Pattern.parse config extent pattern = .ok segments)
    (hmem : .constrained name e ∈ segments) (hwhole : narrowsToExpression e = true)
    (hb : splicedText e = some b) : ReadsAs InlineBody e b := by
  have hread : ∃ x, readExpression b = .ok x := by
    unfold splicedText at hb
    unfold narrowsToExpression at hwhole
    split at hb
    · obtain rfl := Option.some.inj hb
      obtain ⟨x, hx⟩ := ofText_of_checkInline (Pattern.checkInline_of_parse hparse hmem)
      exact ⟨x, readExpression_of_ofText hx⟩
    · rename_i hslash
      rw [Bool.eq_false_iff.2 hslash, Bool.false_or, hb] at hwhole
      exact exists_of_isOk hwhole
  obtain ⟨x, hx⟩ := hread
  exact readsAs_inlineBody hb hx

/-! ## Matches -/

/-- The captures lie one after the other between two positions. -/
def Capture.InOrder (stop : Int) : Int → List Capture → Prop
  | pos, [] => pos ≤ stop
  | pos, c :: cs => pos ≤ c.start ∧ c.start ≤ c.stop ∧ c.stop ≤ stop ∧ InOrder stop c.stop cs

instance Capture.decidableInOrder (stop : Int) :
    (pos : Int) → (cs : List Capture) → Decidable (Capture.InOrder stop pos cs)
  | pos, [] => inferInstanceAs (Decidable (pos ≤ stop))
  | pos, c :: cs =>
    have := Capture.decidableInOrder stop c.stop cs
    inferInstanceAs (Decidable (pos ≤ c.start ∧ c.start ≤ c.stop ∧ c.stop ≤ stop ∧
      InOrder stop c.stop cs))

/-- A match stops at a place where a match of the extent may stop. -/
def Extent.StopsAt (extent : Extent) (text : Text) (stop : Int) : Prop :=
  match extent with
  | .exact => stop = text.length
  | .leading => stop ≤ text.length ∧ (stop = text.length ∨ Text.charAt? text stop = some '/')

instance (extent : Extent) (text : Text) (stop : Int) : Decidable (extent.StopsAt text stop) := by
  unfold Extent.StopsAt
  exact match extent with
    | .exact => inferInstance
    | .leading => inferInstance

/-- A match from a position stops as the extent demands, and captures from left to right in between. -/
structure MatchResult.IsWellFormed (extent : Extent) (text : Text) (pos : Nat)
    (r : MatchResult) : Prop where
  stops : extent.StopsAt text (pos + r.consumed)
  ordered : Capture.InOrder (pos + r.consumed) pos r.captures

instance (extent : Extent) (text : Text) (pos : Nat) (r : MatchResult) :
    Decidable (r.IsWellFormed extent text pos) :=
  decidable_of_iff (extent.StopsAt text (pos + r.consumed) ∧
    Capture.InOrder (pos + r.consumed) pos r.captures)
    ⟨fun h => ⟨h.1, h.2⟩, fun h => ⟨h.stops, h.ordered⟩⟩

/-- A point at the end of a match is a place where it may stop. -/
theorem EndsAt.stopsAt {extent : Extent} {text : Text} {stop : Nat} (hle : stop ≤ text.length)
    (h : EndsAt extent (.ofText text stop)) : extent.StopsAt text (stop : Int) := by
  cases extent with
  | exact =>
    have hlen : text.length ≤ stop := List.drop_eq_nil_iff.1 h
    show (stop : Int) = (text.length : Int)
    omega
  | leading =>
    refine ⟨by omega, ?_⟩
    cases hget : text[stop]? with
    | none =>
      left
      have hlen := List.getElem?_eq_none_iff.1 hget
      omega
    | some c =>
      right
      have hslash : c = '/' := by
        apply h c
        show (text.drop stop).head? = some c
        rw [List.head?_drop, hget]
      rw [charAt?_natCast, hget, hslash]

theorem Spread.inOrder {text : Text} {reach : Text → Point → Point → Prop} {last pos : Nat}
    {segments : List Segment} {cs : List Capture} (h : Spread text reach last pos segments cs) :
    Capture.InOrder (last : Int) (pos : Int) cs := by
  induction h with
  | done hle => exact Int.ofNat_le.2 hle
  | plain _ _ ih => exact ih
  | capture _ _ hstart hstop hpos hle _ _ hrest ih =>
    have hlast := hrest.le
    rw [Capture.InOrder, hstart, hstop]
    exact ⟨Int.ofNat_le.2 hpos, Int.ofNat_le.2 hle, Int.ofNat_le.2 hlast, ih⟩

/-- The inline expressions of a resource are read as they are by themselves. -/
theorem Resource.readsAs_of_ofPatterns {config : Config} {extent : Extent} {name : Option Text}
    {patterns : List Text} {r : Resource}
    (hr : Resource.ofPatterns config extent name patterns = .ok r)
    (hwhole : ∀ segments ∈ r.sequences, ∀ name e, .constrained name e ∈ segments →
      narrowsToExpression e = true) :
    ∀ segments ∈ r.sequences, ∀ name e b, .constrained name e ∈ segments →
      splicedText e = some b → ReadsAs InlineBody e b := by
  intro segments hsegments name e b hmem hb
  obtain ⟨p, -, hparse⟩ := (Resource.parse_of_mem hr).2.2 segments hsegments
  exact readsAs_of_parse hparse hmem (hwhole segments hsegments name e hmem) hb

/-- A resource matches well-formedly if every inline expression that is narrowed is an expression by
itself after that. -/
theorem Resource.isWellFormed_of_matchAt {config : Config} {extent : Extent} {name : Option Text}
    {patterns : List Text} {r : Resource} {text : Text} {pos : Nat} {result : MatchResult}
    (hr : Resource.ofPatterns config extent name patterns = .ok r)
    (hwhole : ∀ segments ∈ r.sequences, ∀ name e, .constrained name e ∈ segments →
      narrowsToExpression e = true)
    (hpos : pos ≤ text.length) (h : r.matchAt text (pos : Int) = .ok (some result)) :
    result.IsWellFormed extent text pos := by
  obtain ⟨segments, -, -, stop, hle, hstop, hconsumed, hend, hspread⟩ :=
    Resource.spread_of_matchAt hr (Resource.readsAs_of_ofPatterns hr hwhole)
      (contained_inlineBody config.edition text) hpos h
  have hsum : (pos : Int) + result.consumed = (stop : Int) := by omega
  constructor
  · rw [hsum]
    exact hend.stopsAt hstop
  · rw [hsum]
    exact hspread.inOrder

/-- A class and an escape, both narrowed, in front of a tail. -/
theorem Resource.isWellFormed_of_matchAt_class :
    ∃ r result,
      Resource.ofPatterns .standard .leading none ["/\x7ba:[a-f](?#.)\\W?\x7d/{b}*".toList] = .ok r ∧
      (∀ segments ∈ r.sequences, ∀ name e, .constrained name e ∈ segments →
        narrowsToExpression e = true) ∧
      r.matchAt "/c-/x/y".toList 0 = .ok (some result) ∧
      result.IsWellFormed .leading "/c-/x/y".toList 0 := by
  let e := "[a-f](?#.)\\W?".toList
  let segments : List Segment :=
    [.literal ['/'], .constrained ['a'] e, .literal ['/'], .tail ['b'] false, .boundary]
  let captures : List Capture :=
    [⟨['a'], "/c-/x/y".toList, 1, 3, none⟩, ⟨['b'], "/c-/x/y".toList, 4, 7, none⟩]
  have hrun : ((Resource.ofPatterns .standard .leading none
      ["/\x7ba:[a-f](?#.)\\W?\x7d/{b}*".toList]).toOption.map fun r =>
        (r.sequences, (r.matchAt "/c-/x/y".toList 0).toOption)) =
      some ([segments], some (some ⟨7, captures⟩)) := by decide +kernel
  obtain ⟨r, hr, hmatch⟩ := Option.map_eq_some_iff.1 hrun
  obtain ⟨hsequences, hmatch⟩ := Prod.mk.inj hmatch
  have hwhole : ∀ segments ∈ r.sequences, ∀ name e, .constrained name e ∈ segments →
      narrowsToExpression e = true := by
    intro s hs name e' hmem
    rw [hsequences, List.mem_singleton] at hs
    subst hs
    have he : name = ['a'] ∧ e' = e := by simpa [segments] using hmem
    rw [he.2]
    decide +kernel
  have hr' := eq_ok_of_toOption hr
  have hmatch' := eq_ok_of_toOption hmatch
  exact ⟨r, _, hr', hwhole, hmatch',
    Resource.isWellFormed_of_matchAt hr' hwhole (Nat.zero_le _) hmatch'⟩

/-- Narrowing takes a bracket in a comment for a class. What it puts there closes the group too
early, so that the whole pattern becomes two alternatives, and the first has no end. -/
theorem Resource.not_isWellFormed_unbalanced :
    ∃ r result, Resource.ofPatterns .standard .exact none
        ["/{a:(?#[)[](?#[)x]|((?#[)[](((])}".toList] = .ok r ∧
      r.matchAt "/)xyz".toList 0 = .ok (some result) ∧
      ¬result.IsWellFormed .exact "/)xyz".toList 0 := by
  have hrun : ((Resource.ofPatterns .standard .exact none
      ["/{a:(?#[)[](?#[)x]|((?#[)[](((])}".toList]).toOption.map fun r =>
        (r.matchAt "/)xyz".toList 0).toOption) =
      some (some (some ⟨3, [⟨['a'], "/)xyz".toList, 1, 3, none⟩]⟩)) := by decide +kernel
  obtain ⟨r, hr, hmatch⟩ := Option.map_eq_some_iff.1 hrun
  exact ⟨r, _, eq_ok_of_toOption hr, eq_ok_of_toOption hmatch, by decide⟩

end PathRouter

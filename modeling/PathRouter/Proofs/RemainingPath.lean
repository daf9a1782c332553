import PathRouter.Proofs.SearchAhead
import PathRouter.Proofs.StateRun
import PathRouter.Proofs.WellFormedMatch

/-!
# Matching what remains of a path

A resource is matched at an offset of a path, where its expressions could see what was consumed
before. Where no inline expression looks there, it matches just what it matches of the rest of the
path alone, and the captures lie as much further on as the offset is. Nested routers then choose the
same routes as for the rest of the path.
-/

namespace PathRouter
set_option autoImplicit false

open Regex

/-! ## Trees -/

namespace Regex

theorem hereditary_looksAhead : Node.Hereditary fun n => n.looksAhead = true where
  empty := rfl
  char _ := rfl
  seq _ _ := Bool.and_eq_true_iff
  alt _ _ := Bool.and_eq_true_iff
  quantified _ _ _ _ h := ⟨h, fun _ hb => hb⟩
  group _ _ h := ⟨h, fun _ hb => hb⟩
  flagged _ _ _ := Iff.rfl
  atomic _ h := ⟨h, fun _ hb => hb⟩
  look behind _ _ h := by
    cases behind with
    | none => exact ⟨h, fun _ hb => hb⟩
    | some _ => exact absurd h (by simp [Node.looksAhead])
  conditional _ _ _ h :=
    ⟨Bool.and_eq_true_iff.1 h, fun _ _ ha hb => Bool.and_eq_true_iff.2 ⟨ha, hb⟩⟩

/-- The image of a tree looks ahead as the tree does. -/
theorem Mirrors.looksAhead {narrowed : Bool} {first : Nat} {n m : Node}
    (h : Mirrors narrowed first n m) (hn : n.looksAhead = true) : m.looksAhead = true := by
  induction h with
  | empty => rfl
  | char htest => cases htest <;> rfl
  | anchor _ => exact hn
  | backreference _ _ => rfl
  | seq _ _ iha ihb | alt _ _ iha ihb | conditional _ _ _ _ iha ihb =>
    obtain ⟨ha, hb⟩ := Bool.and_eq_true_iff.1 hn
    exact Bool.and_eq_true_iff.2 ⟨iha ha, ihb hb⟩
  | quantified _ _ _ _ ih | group _ _ ih | flagged _ _ _ ih | atomic _ ih => exact ih hn
  | @look behind behind' _ _ _ hsome _ ih =>
    match behind, behind' with
    | none, none => exact ih hn
    | none, some _ => exact absurd hsome (by simp)
    | some _, _ => exact absurd hn (by simp [Node.looksAhead])

/-- An expression that looks ahead matches at a position as it matches what is left of the text
there. -/
theorem Expression.matchAt_drop {e : Expression} (h : e.tree.simplified.looksAhead = true)
    (edition : Edition) (text : Text) (pos : Nat) :
    e.matchAt edition text pos =
      (e.matchAt edition (text.drop pos) 0).map (Trail.behind (text.take pos).reverse) := by
  let front := (text.take pos).reverse
  let p := Point.ofText (text.drop pos) 0
  have hpoint : Point.ofText text pos = p.behind front := Point.ofText_eq_behind text pos
  have hahead : (p.behind front).hasAhead e.width.least = p.hasAhead e.width.least := rfl
  have hrun : (e.search edition p fun _ => true).Agrees front p (fun _ => True)
      (e.search edition (p.behind front) fun _ => true) := by
    unfold search
    rw [hahead]
    split
    · exact .failed (t := ⟨p, []⟩) (.refl p)
    · apply Node.run_isLocal h _ p _ p ⟨p, []⟩ _ _ (.refl p) (.refl p)
      intro q u _ _
      exact .matched (t := u.note q) trivial
  rw [matchAt, matchAt, hpoint]
  generalize e.search edition p (fun _ => true) = o at hrun
  generalize e.search edition (p.behind front) (fun _ => true) = o' at hrun
  cases hrun with
  | matched _ => rfl
  | failed _ => rfl

theorem Expression.hasReversedSpan_behind (e : Expression) (front : Text) (t : Trail) :
    e.hasReversedSpan (t.behind front) = e.hasReversedSpan t := by
  unfold hasReversedSpan
  congr 1
  funext g
  rw [Trail.behind_span?]
  cases t.span? g with
  | none => rfl
  | some span => simp

end Regex

/-! ## Inline expressions -/

/-- What stands for an inline expression in its group is an expression by itself, and nothing in it
looks at the text before it. -/
def looksAheadOnly (e : Text) : Bool :=
  match (splicedText e).map readExpression with
  | some (.ok x) => x.tree.looksAhead
  | some (.error _) => false
  | none => true

theorem narrowsToExpression_of_looksAheadOnly {e : Text} (h : looksAheadOnly e = true) :
    narrowsToExpression e = true := by
  unfold narrowsToExpression
  unfold looksAheadOnly splicedText at h
  cases hslash : Segment.mentionsSlash e with
  | true => rfl
  | false =>
    rw [hslash, if_neg (by simp)] at h
    cases hb : confine e with
    | none => rfl
    | some b =>
      rw [hb, Option.map_some] at h
      cases hx : readExpression b with
      | ok x => simp [hx, Except.isOk, Except.toBool]
      | error e =>
        rw [hx] at h
        exact absurd h (by simp)

theorem InlineBody.looksAhead {e : Text} {i j : Nat} {n : Node} (h : InlineBody e i j n)
    (he : looksAheadOnly e = true) : n.looksAhead = true := by
  obtain ⟨b, x, a, hb, hx, rfl, himage⟩ := h
  rw [looksAheadOnly, hb, Option.map_some, hx] at he
  exact (himage false b x rfl hx nofun).looksAhead he

/-- The parts of a compiled pattern look ahead, if what inline expressions become does. -/
theorem Compiled.looksAhead {Body : Text → Nat → Nat → Node → Prop} {extent : Extent} {i j : Nat}
    {segments : List Segment} {ns : List Node} {gs : List Nat}
    (h : Compiled Body extent i j segments ns gs)
    (hbody : ∀ name e i j n, .constrained name e ∈ segments → Body e i j n →
      n.looksAhead = true) : ∀ n ∈ ns, n.looksAhead = true := by
  have hliteral (text : Text) : ∀ n ∈ literalNodes text, n.looksAhead = true := by
    intro n hn
    obtain ⟨c, -, rfl⟩ := List.mem_map.1 hn
    rfl
  induction h with
  | textEnd _ => simp [textEndNode, Node.looksAhead]
  | boundary _ => rw [List.forall_mem_singleton]; rfl
  | slashAhead _ =>
    intro n hn
    rcases List.mem_append.1 hn with hn | hn
    · exact hliteral _ n hn
    · obtain rfl := List.mem_singleton.1 hn
      rfl
  | literal _ _ ih =>
    have hrest := ih fun name e i j n hmem => hbody name e i j n (List.mem_cons_of_mem _ hmem)
    intro n hn
    exact (List.mem_append.1 hn).elim (hliteral _ n) (hrest n)
  | dynamic _ ih =>
    rw [List.forall_mem_cons]
    exact ⟨rfl, ih fun name e i j n hmem => hbody name e i j n (List.mem_cons_of_mem _ hmem)⟩
  | @constrained i j k name e body rest ns gs hb _ _ ih =>
    rw [List.forall_mem_cons]
    have hgroup : (Node.group i body).looksAhead = body.looksAhead := rfl
    rw [hgroup]
    exact ⟨hbody _ _ _ _ _ (List.mem_cons_self ..) hb,
      ih fun name e i j n hmem => hbody name e i j n (List.mem_cons_of_mem _ hmem)⟩
  | @tail i name allowEmpty =>
    rw [List.forall_mem_cons]
    refine ⟨by cases allowEmpty <;> rfl, ?_⟩
    cases extent with
    | exact => rw [closingNodes, List.forall_mem_singleton]; rfl
    | leading => simp [closingNodes]

/-- The tree of an alternative looks ahead once it is simplified, if its inline expressions do. -/
theorem RegexAlternative.IsOf.looksAhead {extent : Extent} {segments : List Segment}
    {a : RegexAlternative} {nodes : List Node} {gs : List Nat}
    (ha : a.IsOf InlineBody extent segments nodes gs)
    (hahead : ∀ name e, .constrained name e ∈ segments → looksAheadOnly e = true) :
    a.expression.tree.simplified.looksAhead = true := by
  obtain ⟨ns, htree, hcompiled⟩ := ha.simplified
  rw [htree]
  apply hereditary_looksAhead.ofList
  apply hcompiled.looksAhead
  rintro name e i j n hmem ⟨body, hbody, rfl⟩
  exact hereditary_looksAhead.simplified (hbody.looksAhead (hahead name e hmem))

/-! ## Captures -/

/-- One capture is another from the rest of the path after a position, seen in the whole path. -/
structure Capture.IsFrom (pos : Nat) (c d : Capture) : Prop where
  name : c.name = d.name
  value : c.value = d.value
  start : c.start = d.start + pos
  stop : c.stop = d.stop + pos

/-- One match is another of the rest of the path after a position, seen in the whole path. -/
structure MatchResult.IsFrom (pos : Nat) (r r' : MatchResult) : Prop where
  consumed : r.consumed = r'.consumed
  captures : List.Forall₂ (Capture.IsFrom pos) r.captures r'.captures

/-- Matching at a position of a path ends like matching the rest after that position: with the same
error, or both without a match, or with one match that is the other. -/
inductive SameMatch (pos : Nat) :
    Except MatchError (Option MatchResult) → Except MatchError (Option MatchResult) → Prop
  | error (e : MatchError) : SameMatch pos (.error e) (.error e)
  | none : SameMatch pos (.ok none) (.ok none)
  | some {r r' : MatchResult} : r.IsFrom pos r' → SameMatch pos (.ok (some r)) (.ok (some r'))

section Alternative

variable {text : Text} {pos : Nat}

/-- A span of the rest of a text is the span as much further on in the whole text. -/
theorem slice_drop {start stop : Nat} (hpos : pos ≤ text.length)
    (hstart : start ≤ text.length - pos) (hstop : stop ≤ text.length - pos) :
    Text.slice (text.drop pos) (start : Int) (stop : Int) =
      Text.slice text ((start + pos : Nat) : Int) ((stop + pos : Nat) : Int) := by
  have hlength : (text.drop pos).length = text.length - pos := List.length_drop
  rw [Text.slice, Text.slice, Text.clampOffset_natCast (hlength ▸ hstart),
    Text.clampOffset_natCast (hlength ▸ hstop), Text.clampOffset_natCast (by omega),
    Text.clampOffset_natCast (by omega), List.take_drop, List.drop_drop, Nat.add_comm pos stop,
    Nat.add_comm pos start]

/-- A capture of a span of the rest is the capture of the span further on. -/
theorem capture?_drop (name : Text) {start stop : Nat} (hpos : pos ≤ text.length)
    (hstart : start ≤ text.length - pos) (hstop : stop ≤ text.length - pos) :
    Option.Rel (Capture.IsFrom pos)
      (RegexAlternative.capture? name text (((start + pos : Nat) : Int), ((stop + pos : Nat) : Int)))
      (RegexAlternative.capture? name (text.drop pos) ((start : Int), (stop : Int))) := by
  have hslice := slice_drop hpos hstart hstop
  unfold RegexAlternative.capture?
  dsimp only
  rw [← hslice]
  split
  · split
    · exact .some ⟨rfl, rfl, by simp, by simp⟩
    · exact .none
  · exact .some ⟨rfl, hslice.symm, by simp [Capture.borrowed], by simp [Capture.borrowed]⟩

/-- The group of a capture was entered and left inside the text. -/
theorem Lies.exists_span {reach : Text → Point → Point → Prop} {a : RegexAlternative} {t : Trail}
    {last : Point} {pos first : Nat} {segments : List Segment} {gs : List Nat}
    (h : Lies text reach t last pos segments gs)
    (hnamed : ∀ (k : Nat) (hk : k < gs.length),
      (a.expression.names.find? fun e => e.1 == groupName (first + k)).map Prod.snd = some gs[k]) :
    ∀ e ∈ captureGroups first segments, ∃ p q,
      ((a.expression.names.find? fun x => x.1 == e.1).map Prod.snd).bind t.span? = some (p, q) ∧
        p.position ≤ text.length ∧ q.position ≤ text.length := by
  induction h generalizing first with
  | done _ => simp [captureGroups]
  | plain hname _ ih =>
    rw [captureGroups, hname]
    exact ih hnamed
  | @capture pos g s rest gs p q hname hspan _ hp hq _ _ ih =>
    obtain ⟨name, hname⟩ := Option.isSome_iff_exists.1 hname
    have hgroup := hnamed 0 (Nat.succ_pos _)
    rw [captureGroups, hname, List.forall_mem_cons]
    refine ⟨⟨p, q, ?_, hp.position_le, hq.position_le⟩, ?_⟩
    · rw [Nat.add_zero] at hgroup
      rw [hgroup]
      exact hspan
    · apply ih
      intro k hk
      have := hnamed (k + 1) (Nat.succ_lt_succ hk)
      rwa [show first + (k + 1) = first + 1 + k by omega] at this

theorem rel_mapM {α β γ : Type} {R : β → γ → Prop} {f : α → Option β} {g : α → Option γ}
    {xs : List α} (h : ∀ x ∈ xs, Option.Rel R (f x) (g x)) :
    Option.Rel (List.Forall₂ R) (xs.mapM f) (xs.mapM g) := by
  induction xs with
  | nil => exact .some .nil
  | cons x xs ih =>
    rw [List.forall_mem_cons] at h
    have hrest := ih h.2
    have hhead := h.1
    rw [List.mapM_cons, List.mapM_cons]
    generalize f x = b at hhead
    generalize g x = c at hhead
    generalize xs.mapM f = bs at hrest
    generalize xs.mapM g = cs at hrest
    cases hhead with
    | none => exact .none
    | some hx =>
      cases hrest with
      | none => exact .none
      | some hxs => exact .some (.cons hx hxs)

/-- The captures of a match of the rest are those of the match in the whole text. -/
theorem RegexAlternative.IsOf.captures?_behind {extent : Extent} {segments : List Segment}
    {a : RegexAlternative} {nodes : List Node} {gs : List Nat} {t : Trail}
    (ha : a.IsOf InlineBody extent segments nodes gs) (hpos : pos ≤ text.length)
    (ht : a.expression.matchAt a.edition (text.drop pos) 0 = some t) :
    Option.Rel (List.Forall₂ (Capture.IsFrom pos))
      (a.captures? text (t.behind (text.take pos).reverse)) (a.captures? (text.drop pos) t) := by
  obtain ⟨-, -, hlies⟩ := ha.lies (contained_inlineBody a.edition (text.drop pos)) (Nat.zero_le _) ht
  have hnamed : ∀ (k : Nat) (hk : k < gs.length),
      (a.expression.names.find? fun e => e.1 == groupName (0 + k)).map Prod.snd = some gs[k] := by
    intro k hk
    rw [Nat.zero_add]
    exact ha.named k hk
  have hfront : ((text.take pos).reverse).length = pos := by
    rw [List.length_reverse, List.length_take_of_le hpos]
  apply rel_mapM
  rw [ha.groups]
  rintro ⟨group, name⟩ hmem
  obtain ⟨p, q, hspan, hp, hq⟩ := hlies.exists_span hnamed _ hmem
  rw [List.length_drop] at hp hq
  have hrest : a.span t group = ((p.position : Int), (q.position : Int)) := by
    unfold RegexAlternative.span
    rw [hspan]
  have hwhole : a.span (t.behind (text.take pos).reverse) group =
      (((p.position + pos : Nat) : Int), ((q.position + pos : Nat) : Int)) := by
    obtain ⟨g, hg, hspan⟩ := Option.bind_eq_some_iff.1 hspan
    unfold RegexAlternative.span
    rw [hg, Option.bind_some, Trail.behind_span?, hspan]
    simp only [Option.map_some, Point.behind_position, hfront]
  dsimp only
  rw [hrest, hwhole]
  exact capture?_drop name hpos hp hq

end Alternative

/-! ## Matches -/

section Resource

variable {text : Text} {pos : Nat}

theorem RegexAlternative.firstMatch_drop {extent : Extent} {alternatives : List RegexAlternative}
    (hpos : pos ≤ text.length)
    (h : ∀ a ∈ alternatives, ∃ segments nodes gs, a.IsOf InlineBody extent segments nodes gs ∧
      a.expression.tree.simplified.looksAhead = true) :
    SameMatch pos (RegexAlternative.firstMatch text (pos : Int) alternatives)
      (RegexAlternative.firstMatch (text.drop pos) 0 alternatives) := by
  have hmin : min ((pos : Int).toNat) text.length = pos := by omega
  have hzero : min ((0 : Int).toNat) (text.drop pos).length = 0 := by simp
  induction alternatives with
  | nil => exact .none
  | cons a rest ih =>
    rw [List.forall_mem_cons] at h
    obtain ⟨⟨segments, nodes, gs, ha, hahead⟩, hrest⟩ := h
    rw [RegexAlternative.firstMatch, RegexAlternative.firstMatch, hmin, hzero,
      Expression.matchAt_drop hahead]
    cases ht : a.expression.matchAt a.edition (text.drop pos) 0 with
    | none => exact ih hrest
    | some t =>
      simp only [Option.map_some, Expression.hasReversedSpan_behind]
      split
      · exact .error _
      · have hcaptures := ha.captures?_behind hpos ht
        generalize a.captures? text (t.behind (text.take pos).reverse) = cs at hcaptures
        generalize a.captures? (text.drop pos) t = ds at hcaptures
        cases hcaptures with
        | none => exact .none
        | some hcaptures =>
          refine .some ⟨?_, hcaptures⟩
          have hfront : ((text.take pos).reverse).length = pos := by
            rw [List.length_reverse, List.length_take_of_le hpos]
          simp only [Trail.behind_spot, Point.behind_position, hfront]
          omega

theorem StaticAlternative.firstMatch_drop (extent : Extent) (alternatives : List StaticAlternative)
    (hpos : pos ≤ text.length) :
    SameMatch pos (StaticAlternative.firstMatch extent text (pos : Int) alternatives)
      (StaticAlternative.firstMatch extent (text.drop pos) 0 alternatives) := by
  induction alternatives with
  | nil => exact .none
  | cons a rest ih =>
    have hwhole := @StaticAlternative.matchAt_natCast extent text pos a hpos
    have hrest := @StaticAlternative.matchAt_natCast extent (text.drop pos) 0 a (Nat.zero_le _)
    rw [List.drop_zero, ← hwhole, Int.natCast_zero] at hrest
    rw [StaticAlternative.firstMatch, StaticAlternative.firstMatch, hrest, hwhole]
    split
    · exact .some ⟨rfl, .nil⟩
    · split
      · exact .some ⟨rfl, .nil⟩
      · exact ih

/-- The resource is made from patterns whose inline expressions look ahead only. -/
structure Resource.LooksAhead (r : Resource) : Prop where
  built : ∃ config extent name patterns, Resource.ofPatterns config extent name patterns = .ok r
  ahead : ∀ segments ∈ r.sequences, ∀ name e, .constrained name e ∈ segments →
    looksAheadOnly e = true

namespace Resource.LooksAhead

variable {r : Resource}

theorem narrows (h : r.LooksAhead) : ∀ segments ∈ r.sequences, ∀ name e,
    .constrained name e ∈ segments → narrowsToExpression e = true :=
  fun segments hsegments name e hmem =>
    narrowsToExpression_of_looksAheadOnly (h.ahead segments hsegments name e hmem)

/-- What it consumes is a part of what is left of the path, on either edition of the engine. -/
theorem bounds (h : r.LooksAhead) {result : MatchResult} (hpos : pos ≤ text.length)
    (hmatch : r.matchAt text (pos : Int) = .ok (some result)) :
    0 ≤ result.consumed ∧ pos + result.consumed ≤ text.length := by
  obtain ⟨config, extent, name, patterns, hr⟩ := h.built
  obtain ⟨segments, -, -, stop, hle, hstop, hconsumed, -, -⟩ :=
    Resource.spread_of_matchAt hr (Resource.readsAs_of_ofPatterns hr h.narrows)
      (contained_inlineBody _ text) hpos hmatch
  omega

/-- At a position of a path the resource matches as it matches the rest. -/
theorem matchAt_drop (h : r.LooksAhead) (hpos : pos ≤ text.length) (hword : isMachineInteger pos) :
    SameMatch pos (r.matchAt text pos) (r.matchPath (text.drop pos)) := by
  obtain ⟨config, extent, name, patterns, hr⟩ := h.built
  obtain ⟨-, hmatcher, hparsed⟩ := Resource.parse_of_mem hr
  rw [Matcher.ofSequences] at hmatcher
  unfold Resource.matchPath Resource.matchAt
  split at hmatcher
  · exact absurd hmatcher (by simp)
  · split at hmatcher
    · rw [← Except.ok.inj hmatcher]
      exact StaticAlternative.firstMatch_drop extent _ hpos
    · rw [bind_eq_ok] at hmatcher
      obtain ⟨alternatives, halternatives, hregex⟩ := hmatcher
      rw [← Except.ok.inj hregex, Matcher.matchAt, Matcher.matchAt, if_pos hword,
        if_pos (by decide)]
      refine @RegexAlternative.firstMatch_drop text pos extent alternatives hpos ?_
      intro a ha
      obtain ⟨segments, hsegments, hof⟩ := mem_of_mapM_ok halternatives a ha
      obtain ⟨p, -, hparse⟩ := hparsed segments hsegments
      obtain ⟨nodes, gs, hisOf⟩ := RegexAlternative.isOf_of_ofSegments
        (Pattern.endsWell_of_parse hparse)
        (Resource.readsAs_of_ofPatterns hr h.narrows segments hsegments) hof
      exact ⟨segments, nodes, gs, hisOf, hisOf.looksAhead (h.ahead segments hsegments)⟩

end Resource.LooksAhead

end Resource

/-! ## Routes -/

section Router

variable {α : Type}

/-- A search through routes at an offset of a path ends like the search for the rest of the path. -/
inductive SameFound (path : Text) (skip : Nat) :
    Except MatchError (Found α) → Except MatchError (Found α) → Prop
  | error (e : MatchError) : SameFound path skip (.error e) (.error e)
  | none : SameFound path skip (.ok ⟨none, []⟩) (.ok ⟨none, []⟩)
  | some {resource : Resource} {value : α} {result result' : MatchResult} :
      resource.LooksAhead → resource.matchAt path skip = .ok (some result) →
      resource.matchPath (path.drop skip) = .ok (some result') →
      SameFound path skip (.ok ⟨some (resource, value, result), [(value, result)]⟩)
        (.ok ⟨some (resource, value, result'), [(value, result')]⟩)

theorem Router.search_drop {routes : List (Resource × α)} {path : Text} {skip : Nat}
    (hroutes : ∀ route ∈ routes, route.1.LooksAhead) (hskip : skip ≤ path.length)
    (hword : isMachineInteger skip) :
    SameFound path skip (Router.search Router.acceptAll path skip routes)
      (Router.search Router.acceptAll (path.drop skip) 0 routes) := by
  induction routes with
  | nil => exact .none
  | cons route rest ih =>
    obtain ⟨resource, value⟩ := route
    rw [List.forall_mem_cons] at hroutes
    have hmatch := hroutes.1.matchAt_drop hskip hword
    have hrest : resource.matchAt (path.drop skip) ((0 : Nat) : Int) =
        resource.matchPath (path.drop skip) := rfl
    rw [Router.search, Router.search, hrest]
    generalize hwhole : resource.matchAt path skip = found at hmatch
    generalize hdropped : resource.matchPath (path.drop skip) = found' at hmatch
    cases hmatch with
    | error e => exact .error e
    | none => exact ih hroutes.2
    | some _ => exact .some hroutes.1 hwhole hdropped

/-- The route that is chosen for a state is the one for what remains of its path. -/
theorem Router.find_remaining {router : Router α} {s : PathState}
    (hroutes : ∀ route ∈ router.routes, route.1.LooksAhead) (hskip : s.skip ≤ s.path.length)
    (hword : isMachineInteger s.skip) :
    (router.find Router.acceptAll s).map Prod.fst =
      (router.find Router.acceptAll (.ofPath s.remaining)).map Prod.fst := by
  have hsearch := Router.search_drop hroutes hskip hword
  unfold Router.find
  have hrest : Router.search Router.acceptAll (PathState.ofPath s.remaining).path
      (PathState.ofPath s.remaining).skip router.routes =
        Router.search Router.acceptAll (s.path.drop s.skip) 0 router.routes := rfl
  rw [hrest]
  generalize Router.search Router.acceptAll s.path s.skip router.routes = found at hsearch
  generalize Router.search Router.acceptAll (s.path.drop s.skip) 0 router.routes = found' at hsearch
  cases hsearch with
  | error e => rfl
  | none => rfl
  | @some resource value result result' hahead hwhole hdropped =>
    obtain ⟨t, ht⟩ := PathState.exists_take (hahead.bounds hskip hwhole)
    have hfits := @Resource.LooksAhead.bounds s.remaining 0 resource hahead result'
      (Nat.zero_le _) hdropped
    obtain ⟨u, hu⟩ := PathState.exists_take (s := .ofPath s.remaining) hfits
    simp only [ht, hu]
    rfl

end Router

/-- What remains of a path decides how a resource matches there, and which route is chosen, if the
inline expressions look ahead only. -/
theorem remaining_decides {α : Type} (r : Resource) (text : Text) (pos : Nat) (router : Router α)
    (s : PathState) :
    (r.LooksAhead → pos ≤ text.length → isMachineInteger pos →
      SameMatch pos (r.matchAt text pos) (r.matchPath (text.drop pos))) ∧
    ((∀ route ∈ router.routes, route.1.LooksAhead) → s.skip ≤ s.path.length →
      isMachineInteger s.skip →
      (router.find Router.acceptAll s).map Prod.fst =
        (router.find Router.acceptAll (.ofPath s.remaining)).map Prod.fst) :=
  ⟨fun h hpos hword => h.matchAt_drop hpos hword,
    fun hroutes hskip hword => Router.find_remaining hroutes hskip hword⟩

/-- A lazy quantifier, an end of line and an escape that is decoded, after three characters. -/
theorem remaining_decides_lazy :
    ∃ (r : Resource) (result : MatchResult) (router : Router Nat) (s : PathState),
      r.LooksAhead ∧ router.routes = [(r, 1)] ∧ s = ⟨"/v1/x-y%20z/q".toList, 3, []⟩ ∧
      s.skip ≤ s.path.length ∧ isMachineInteger s.skip ∧
      r.matchAt s.path s.skip = .ok (some result) ∧ result.consumed = 8 ∧
      SameMatch s.skip (r.matchAt s.path s.skip) (r.matchPath s.remaining) ∧
      (router.find Router.acceptAll s).map Prod.fst =
        (router.find Router.acceptAll (.ofPath s.remaining)).map Prod.fst := by
  let e := "[a-z]+?$|\\w+?".toList
  let segments : List Segment :=
    [.literal ['/'], .constrained ['a'] e, .literal ['-'], .dynamic ['b'], .boundary]
  let s : PathState := ⟨"/v1/x-y%20z/q".toList, 3, []⟩
  let captures : List Capture :=
    [⟨['a'], s.path, 4, 5, none⟩, ⟨['b'], s.path, 6, 11, some "y z".toList⟩]
  have hrun : ((Resource.ofPatterns .standard .leading none
      ["/\x7ba:[a-z]+?$|\\w+?\x7d-\x7bb\x7d".toList]).toOption.map fun r =>
        (r.sequences, (r.matchAt s.path s.skip).toOption)) =
      some ([segments], some (some ⟨8, captures⟩)) := by decide +kernel
  obtain ⟨r, hr, hmatch⟩ := Option.map_eq_some_iff.1 hrun
  obtain ⟨hsequences, hmatch⟩ := Prod.mk.inj hmatch
  have hahead : r.LooksAhead := by
    refine ⟨⟨_, _, _, _, eq_ok_of_toOption hr⟩, ?_⟩
    intro segments' hsegments name e' hmem
    rw [hsequences, List.mem_singleton] at hsegments
    subst hsegments
    have he : name = ['a'] ∧ e' = e := by simpa [segments] using hmem
    rw [he.2]
    decide +kernel
  let router : Router Nat := ⟨.standard, [(r, 1)], [], false⟩
  obtain ⟨hsame, hroute⟩ := remaining_decides r s.path s.skip router s
  exact ⟨r, _, router, s, hahead, rfl, rfl, by decide, by decide, eq_ok_of_toOption hmatch, rfl,
    hsame hahead (by decide) (by decide),
    hroute (by simpa [router] using hahead) (by decide) (by decide)⟩

/-- The start of a line is the start of the whole path and not of what remains of it: what matches
alone does not match behind a part that is consumed. -/
theorem not_sameMatch_lineStart :
    ∃ r, Resource.ofPatterns .standard .exact none ["\x7bp:^/[a-z]+\x7d".toList] = .ok r ∧
      r.matchPath "/x".toList = .ok (some ⟨2, [⟨['p'], "/x".toList, 0, 2, none⟩]⟩) ∧
      r.matchAt "/v/x".toList (2 : Nat) = .ok none ∧
      ¬SameMatch 2 (r.matchAt "/v/x".toList (2 : Nat)) (r.matchPath "/x".toList) := by
  have hrun : ((Resource.ofPatterns .standard .exact none
      ["\x7bp:^/[a-z]+\x7d".toList]).toOption.map fun r =>
        ((r.matchPath "/x".toList).toOption, (r.matchAt "/v/x".toList (2 : Nat)).toOption)) =
      some (some (some ⟨2, [⟨['p'], "/x".toList, 0, 2, none⟩]⟩), some none) := by decide +kernel
  obtain ⟨r, hr, hmatch⟩ := Option.map_eq_some_iff.1 hrun
  obtain ⟨hrest, hwhole⟩ := Prod.mk.inj hmatch
  replace hrest := eq_ok_of_toOption hrest
  replace hwhole := eq_ok_of_toOption hwhole
  refine ⟨r, eq_ok_of_toOption hr, hrest, hwhole, ?_⟩
  rw [hrest, hwhole]
  nofun

end PathRouter

import PathRouter.Proofs.Registration
import PathRouter.Proofs.StateRun

/-!
# The first route that is accepted

Routing goes through the routes in the order of registration, and the first that matches and is
accepted wins. Those before it leave no trace but that their matches were asked about, and those
after it, registered before or later, are not looked at. On the current engine every accepted match
can be taken.
-/

namespace PathRouter
set_option autoImplicit false

/-- What a state is after a match. -/
theorem PathState.eq_of_take {s t : PathState} {result : MatchResult} (h : s.take result = .ok t) :
    t.path = s.path ∧ (t.skip : Int) = s.skip + result.consumed ∧
      t.captures = s.captures ++ result.captures := by
  obtain ⟨hdelta, -, rfl⟩ := PathState.eq_of_advanceOver (PathState.advance_of_take h)
  refine ⟨rfl, ?_, by rw [Iteration.yielded_ofList]⟩
  dsimp only
  omega

namespace Router

variable {α : Type} {check : α → MatchResult → Bool} {s : PathState}

/-- The value and the match of each route that matches what is left of the path. -/
def candidates (s : PathState) (routes : List (Resource × α)) : List (α × MatchResult) :=
  routes.filterMap fun route =>
    match route.1.matchAt s.path s.skip with
    | .ok (some result) => some (route.2, result)
    | .ok none | .error _ => none

/-- The route matches, and its match is accepted. -/
def Accepts (check : α → MatchResult → Bool) (s : PathState) (route : Resource × α)
    (result : MatchResult) : Prop :=
  route.1.matchAt s.path s.skip = .ok (some result) ∧ check route.2 result = true

/-- The route can be tried: matching it does not fail. -/
def CanTry (s : PathState) (route : Resource × α) : Prop :=
  ∃ found, route.1.matchAt s.path s.skip = .ok found

theorem candidates_cons_of_match {route : Resource × α} {result : MatchResult}
    (h : route.1.matchAt s.path s.skip = .ok (some result)) (routes : List (Resource × α)) :
    candidates s (route :: routes) = (route.2, result) :: candidates s routes := by
  rw [candidates, List.filterMap_cons, h]
  rfl

/-! ## The search -/

/-- A route that is not accepted is passed over, and asked about if it matches. -/
theorem search_cons_of_not_accepts {route : Resource × α} {routes : List (Resource × α)}
    (htry : CanTry s route) (hnot : ∀ result, ¬Accepts check s route result) :
    search check s.path s.skip (route :: routes) =
      (search check s.path s.skip routes).map fun found =>
        { found with asked := candidates s [route] ++ found.asked } := by
  obtain ⟨found, hfound⟩ := htry
  obtain ⟨resource, value⟩ := route
  dsimp only at hfound
  rw [search, hfound, candidates, List.filterMap_cons, hfound]
  cases found with
  | none =>
    cases search check s.path s.skip routes with
    | ok found => rfl
    | error e => rfl
  | some result =>
    have hcheck : check value result = false := by
      simpa using fun hcheck => hnot result ⟨hfound, hcheck⟩
    simp only [bind, Except.bind, hcheck, Bool.false_eq_true, if_false]
    cases search check s.path s.skip routes with
    | ok found => rfl
    | error e => rfl

theorem search_append {before after : List (Resource × α)}
    (htry : ∀ route ∈ before, CanTry s route)
    (hnot : ∀ route ∈ before, ∀ result, ¬Accepts check s route result) :
    search check s.path s.skip (before ++ after) =
      (search check s.path s.skip after).map fun found =>
        { found with asked := candidates s before ++ found.asked } := by
  induction before with
  | nil =>
    rw [List.nil_append, candidates, List.filterMap_nil]
    cases search check s.path s.skip after with
    | ok found => rfl
    | error e => rfl
  | cons route before ih =>
    rw [List.forall_mem_cons] at htry hnot
    rw [List.cons_append, search_cons_of_not_accepts htry.1 hnot.1, ih htry.2 hnot.2]
    have hasked : candidates s (route :: before) = candidates s [route] ++ candidates s before :=
      List.filterMap_append (l := [route])
    cases search check s.path s.skip after with
    | ok found => simp [Except.map, hasked, List.append_assoc]
    | error e => rfl

/-- The routes after the one that is accepted are not looked at. -/
theorem search_cons_of_accepts {route : Resource × α} {result : MatchResult}
    (h : Accepts check s route result) (after : List (Resource × α)) :
    search check s.path s.skip (route :: after) =
      .ok ⟨some (route.1, route.2, result), candidates s [route]⟩ := by
  obtain ⟨hmatch, hcheck⟩ := h
  obtain ⟨resource, value⟩ := route
  dsimp only at hmatch hcheck
  rw [search, hmatch, candidates_cons_of_match hmatch]
  simp only [bind, Except.bind, hcheck, if_true]
  rfl

/-! ## Routing -/

/-- Without an accepted route the state stays, and everything that matches was asked about. -/
theorem recognizeIf_of_not_accepts {router : Router α}
    (htry : ∀ route ∈ router.routes, CanTry s route)
    (hnot : ∀ route ∈ router.routes, ∀ result, ¬Accepts check s route result) :
    router.recognizeIf check s = .ok (none, candidates s router.routes, s) := by
  have hsearch : search check s.path s.skip (router.routes ++ []) = _ := search_append htry hnot
  rw [List.append_nil] at hsearch
  rw [recognizeIf, find, hsearch, search]
  simp [Except.map, bind, Except.bind, pure, Except.pure]

/-- The accepted route decides, whatever routes are after it. -/
theorem recognizeIf_of_accepts {router : Router α} {before after : List (Resource × α)}
    {route : Resource × α} {result : MatchResult} {t : PathState}
    (hroutes : router.routes = before ++ route :: after)
    (htry : ∀ route ∈ before, CanTry s route)
    (hnot : ∀ route ∈ before, ∀ result, ¬Accepts check s route result)
    (haccepts : Accepts check s route result) (htake : s.take result = .ok t) :
    router.recognizeIf check s = .ok (some route.2, candidates s (before ++ [route]), t) := by
  have hasked : candidates s (before ++ [route]) = candidates s before ++ candidates s [route] :=
    List.filterMap_append
  rw [recognizeIf, find, hroutes, search_append htry hnot, search_cons_of_accepts haccepts]
  simp [Except.map, bind, Except.bind, pure, Except.pure, htake, hasked]

theorem recognize_eq (router : Router α) (s : PathState) :
    router.recognize s = (router.recognizeIf acceptAll s).map fun (value, _, t) => (value, t) := by
  rw [recognize, recognizeIf]
  cases router.find acceptAll s with
  | ok found => rfl
  | error e => rfl

theorem matchPath_eq (router : Router α) (path : Text) :
    (router.matchPath path).map (Option.map fun m => (m.value, m.captures, m.remaining)) =
      (router.recognize (.ofPath path)).map fun (value, t) =>
        value.map fun value => (value, t.captures, t.remaining) := by
  rw [matchPath, recognize]
  cases router.find acceptAll (.ofPath path) with
  | ok found =>
    obtain ⟨route, asked, t⟩ := found
    cases route with
    | none => rfl
    | some route => rfl
  | error e => rfl

/-- Where every route can be tried, the first that matches and is accepted decides: on the current
engine the state advances by its match, and the check was asked about the routes up to it that
match, each once. Routes that are registered afterwards change nothing of this. Without such a route
everything that matches was asked about, and the state stays. -/
theorem recognizeIf_first (router : Router α) (check : α → MatchResult → Bool) {s : PathState}
    (hs : s.skip ≤ s.path.length) (htry : ∀ route ∈ router.routes, CanTry s route) :
    ((∀ route ∈ router.routes, ∀ result, ¬Accepts check s route result) →
      router.recognizeIf check s = .ok (none, candidates s router.routes, s)) ∧
    (∀ i route result, router.routes[i]? = some route → Accepts check s route result →
      (∀ earlier ∈ router.routes.take i, ∀ other, ¬Accepts check s earlier other) →
      route.1.RunsOn .current →
      ∃ t : PathState, t.path = s.path ∧ (t.skip : Int) = s.skip + result.consumed ∧
        t.captures = s.captures ++ result.captures ∧
        ∀ ops, (Registration.run router ops).recognizeIf check s =
          .ok (some route.2, candidates s (router.routes.take (i + 1)), t)) ∧
    (router.recognize s = (router.recognizeIf acceptAll s).map fun (value, _, t) => (value, t)) ∧
    ∀ path, (router.matchPath path).map (Option.map fun m => (m.value, m.captures, m.remaining)) =
      (router.recognize (.ofPath path)).map fun (value, t) =>
        value.map fun value => (value, t.captures, t.remaining) := by
  refine ⟨recognizeIf_of_not_accepts htry, ?_, recognize_eq router s, matchPath_eq router⟩
  intro i route result hi haccepts hnot hruns
  obtain ⟨t, htake⟩ :=
    PathState.exists_take (Resource.bounds_of_matchAt hruns hs haccepts.1)
  obtain ⟨hpath, hskip, hcaptures⟩ := PathState.eq_of_take htake
  refine ⟨t, hpath, hskip, hcaptures, fun ops => ?_⟩
  have hupTo : router.routes.take (i + 1) = router.routes.take i ++ [route] := by
    rw [List.take_add_one, hi]
    rfl
  have hroutes : (Registration.run router ops).routes = router.routes.take i ++
      route :: (router.routes.drop (i + 1) ++ Registration.registered router ops) := by
    have hsplit := List.take_append_drop (i + 1) router.routes
    rw [hupTo, List.append_assoc] at hsplit
    calc (Registration.run router ops).routes
        = router.routes ++ Registration.registered router ops :=
          Registration.run_routes ops
      _ = (router.routes.take i ++ route :: router.routes.drop (i + 1)) ++
            Registration.registered router ops := congrArg (· ++ _) hsplit.symm
      _ = _ := List.append_assoc ..
  rw [hupTo]
  exact recognizeIf_of_accepts hroutes
    (fun earlier hmem => htry earlier (List.mem_of_mem_take hmem)) hnot haccepts htake

/-- A veto of the first match leaves the second, and routes that are added then change nothing. -/
theorem recognizeIf_first_veto :
    ∃ first second,
      Resource.ofPatterns .standard .exact none ["/items/\x7bid\x7d".toList] = .ok first ∧
      Resource.ofPatterns .standard .exact none ["/items/\x7bslug:[^b]\x7d".toList] = .ok second ∧
      let router : Router Nat := ⟨.standard, [(first, 1), (second, 2)], [], false⟩
      let state : PathState := .ofPath "/items/7".toList
      (candidates state router.routes).map Prod.fst = [1, 2] ∧
        ∃ t : PathState, t.skip = 8 ∧ t.captures.map Capture.entry = [("slug".toList, "7".toList)] ∧
          ∀ ops, (Registration.run router ops).recognizeIf (fun value _ => value != 1) state =
            .ok (some 2, candidates state router.routes, t) := by
  let path := "/items/7".toList
  let capture (name : Text) : Capture := .borrowed name path 7 8
  have hrun : ((Resource.ofPatterns .standard .exact none
      ["/items/\x7bid\x7d".toList]).toOption.bind fun first =>
        (Resource.ofPatterns .standard .exact none
          ["/items/\x7bslug:[^b]\x7d".toList]).toOption.map fun second =>
            ((first.matchAt path 0).toOption, (second.matchAt path 0).toOption)) =
      some (some (some ⟨8, [capture "id".toList]⟩), some (some ⟨8, [capture "slug".toList]⟩)) := by
    decide +kernel
  obtain ⟨first, hfirst, hrun⟩ := Option.bind_eq_some_iff.1 hrun
  obtain ⟨second, hsecond, hresult⟩ := Option.map_eq_some_iff.1 hrun
  obtain ⟨hmatchFirst, hmatchSecond⟩ := Prod.mk.inj hresult
  replace hfirst := eq_ok_of_toOption hfirst
  replace hsecond := eq_ok_of_toOption hsecond
  replace hmatchFirst := eq_ok_of_toOption hmatchFirst
  replace hmatchSecond := eq_ok_of_toOption hmatchSecond
  have hruns : second.RunsOn .current := Resource.runsOn_of_ofPatterns hsecond
  let router : Router Nat := ⟨.standard, [(first, 1), (second, 2)], [], false⟩
  obtain ⟨-, hdecides, -, -⟩ := recognizeIf_first router (fun value _ => value != 1)
    (s := .ofPath path) (Nat.zero_le _) (by
      rw [List.forall_mem_cons, List.forall_mem_singleton]
      exact ⟨⟨_, hmatchFirst⟩, ⟨_, hmatchSecond⟩⟩)
  obtain ⟨t, -, hskip, hcaptures, hrecognize⟩ := hdecides 1 (second, 2) _ rfl ⟨hmatchSecond, rfl⟩
    (by
      rw [List.take_one, List.head?_cons, Option.toList_some, List.forall_mem_singleton]
      exact fun _ h => absurd h.2 (by simp)) hruns
  refine ⟨first, second, hfirst, hsecond, ?_, t, ?_, ?_, hrecognize⟩
  · rw [candidates_cons_of_match hmatchFirst, candidates_cons_of_match hmatchSecond]
    rfl
  · exact Int.ofNat_inj.1 hskip
  · rw [hcaptures]
    decide +kernel

end Router

end PathRouter

import PathRouter.Router

/-!
# Working on a state in place

Routers and resources change the state they are given. Here they are written as programs that do so
step by step and can fail on the way, in which case what was done before stays done. They do what
the functions on states do: a program that fails has not changed the state before it failed. Only an
advance whose captures fail while they come leaves what it did until then.
-/

namespace PathRouter
set_option autoImplicit false

/-- Why an operation on a state fails. -/
inductive OperationError
  | routing (error : RoutingError)
  /-- The check of a candidate failed by itself. -/
  | check
  /-- The captures of an advance failed while they came. -/
  | captures
  deriving DecidableEq

/-- A program that works on a state in place. -/
abbrev InPlace (α : Type) : Type :=
  ExceptT OperationError (StateM PathState) α

/-- What a check answers about a candidate, if it does, after the candidates it was asked about
before. -/
abbrev Check (α : Type) : Type :=
  List (α × MatchResult) → α → MatchResult → Option Bool

/-- A check that depends on the candidate only. -/
def Check.ofPredicate {α : Type} (check : α → MatchResult → Bool) : Check α :=
  fun _ value result => some (check value result)

namespace InPlace

/-- The outcome of a program on a state, and the state it leaves. -/
def on {α : Type} (program : InPlace α) (s : PathState) : Except OperationError α × PathState :=
  program.run.run s

/-- Adds captures one by one, as they come. -/
def extend : Iteration → InPlace Unit
  | .ended => return ()
  | .failed => throw .captures
  | .next c rest => do
    modify fun s => { s with captures := s.captures ++ [c] }
    extend rest

/-- Consumes `delta` more characters, and then adds captures. -/
def advance (delta : Int) (captures : Iteration) : InPlace Unit := do
  if delta < 0 then throw (.routing (.advance (.negative delta)))
  let s ← get
  if (s.path.length : Int) < s.skip + delta then
    throw (.routing (.advance (.pastEnd delta s.path s.skip)))
  modify fun s => { s with skip := s.skip + delta.toNat }
  extend captures

/-- Advances by a match. -/
def take (result : MatchResult) : InPlace Unit :=
  advance result.consumed (.ofList result.captures)

/-- The outcome of a match. -/
def ofMatch : Except MatchError (Option MatchResult) → InPlace (Option MatchResult)
  | .ok found => return found
  | .error e => throw (.routing (.matching e))

/-- Matches what is not consumed. -/
def match? (r : Resource) : InPlace (Option MatchResult) := do
  let s ← get
  ofMatch (r.matchAt s.path s.skip)

/-- Matches what is not consumed against a resource, and advances if it matches. -/
def capture (r : Resource) : InPlace Bool := do
  match ← match? r with
  | none => return false
  | some result =>
    take result
    return true

/-- Asks a check about a candidate. Without a check every candidate is accepted. -/
def ask {α : Type} (check : Option (Check α)) (asked : List (α × MatchResult)) (value : α)
    (result : MatchResult) : InPlace Bool :=
  match check with
  | none => return true
  | some check =>
    match check asked value result with
    | some answer => return answer
    | none => throw .check

/-- Advances by the first route that matches and is accepted. -/
def find {α : Type} (check : Option (Check α)) (asked : List (α × MatchResult)) :
    List (Resource × α) → InPlace (Option (Resource × α))
  | [] => return none
  | (resource, value) :: rest => do
    match ← match? resource with
    | none => find check asked rest
    | some result =>
      if ← ask check asked value result then
        take result
        return some (resource, value)
      else find check (asked ++ [(value, result)]) rest

/-! ## What programs do -/

section Programs

variable {α β : Type} {s : PathState}

theorem on_bind (x : InPlace α) (f : α → InPlace β) (s : PathState) :
    (x >>= f).on s = match x.on s with
      | (.ok a, t) => (f a).on t
      | (.error e, t) => (.error e, t) := by
  have hbind : (x >>= f).on s = (ExceptT.bindCont f (x.on s).1).run (x.on s).2 := rfl
  rw [hbind]
  obtain ⟨outcome, t⟩ := x.on s
  cases outcome with
  | ok a => rfl
  | error e => rfl

theorem on_get (s : PathState) : (get : InPlace PathState).on s = (.ok s, s) :=
  rfl

/-- What came before a capture failed stays. -/
theorem extend_on (captures : Iteration) (s : PathState) :
    (extend captures).on s =
      (if captures.fails then .error .captures else .ok (), s.extend captures) := by
  induction captures generalizing s with
  | ended => rfl
  | failed => rfl
  | next c rest ih =>
    rw [extend, on_bind]
    exact ih { s with captures := s.captures ++ [c] }

/-- An advance that is refused writes nothing, as both tests come first. One whose captures fail has
written what it could. -/
theorem advance_on (delta : Int) (captures : Iteration) (s : PathState) :
    (advance delta captures).on s = match s.advanceOver delta captures with
      | .ok t => (if captures.fails then .error .captures else .ok (), t)
      | .error e => (.error (.routing (.advance e)), s) := by
  unfold PathState.advanceOver advance
  by_cases hneg : delta < 0
  · rw [if_pos hneg, if_pos hneg]
    rfl
  · rw [if_neg hneg, if_neg hneg]
    by_cases hend : (s.path.length : Int) < s.skip + delta
    · rw [if_pos hend]
      change InPlace.on (ite _ _ _) s = _
      rw [if_pos hend]
      rfl
    · rw [if_neg hend]
      change InPlace.on (ite _ _ _) s = _
      rw [if_neg hend]
      exact extend_on captures { s with skip := s.skip + delta.toNat }

theorem match?_on (r : Resource) (s : PathState) :
    (match? r).on s = match r.matchAt s.path s.skip with
      | .ok found => (.ok found, s)
      | .error e => (.error (.routing (.matching e)), s) := by
  rw [match?, on_bind, on_get]
  dsimp only
  cases r.matchAt s.path s.skip with
  | ok found => rfl
  | error e => rfl

theorem take_on (result : MatchResult) (s : PathState) :
    (take result).on s = match s.take result with
      | .ok t => (.ok (), t)
      | .error e => (.error (.routing e), s) := by
  rw [take, advance_on, PathState.take, PathState.advance]
  cases s.advanceOver result.consumed (.ofList result.captures) with
  | ok t => simp
  | error e => rfl

/-- Capturing in place is capturing; a failure changes nothing. -/
theorem capture_on (r : Resource) (s : PathState) :
    (capture r).on s = match s.capture r with
      | .ok (found, t) => (.ok found, t)
      | .error e => (.error (.routing e), s) := by
  rw [capture, on_bind, match?_on, PathState.capture]
  cases r.matchAt s.path s.skip with
  | error e => rfl
  | ok found =>
    cases found with
    | none => rfl
    | some result =>
      dsimp only
      rw [on_bind, take_on]
      cases s.take result with
      | ok t => rfl
      | error e => rfl

section Find

variable {check : Option (Check α)} {asked : List (α × MatchResult)} {routes : List (Resource × α)}

/-- The route at hand: it does not match and those after it are tried, or it is asked about. -/
theorem find_on_cons (resource : Resource) (value : α) :
    (find check asked ((resource, value) :: routes)).on s =
      match resource.matchAt s.path s.skip with
      | .error e => (.error (.routing (.matching e)), s)
      | .ok none => (find check asked routes).on s
      | .ok (some result) =>
        match (ask check asked value result).on s with
        | (.error e, t) => (.error e, t)
        | (.ok false, t) => (find check (asked ++ [(value, result)]) routes).on t
        | (.ok true, t) =>
          match (take result).on t with
          | (.ok (), t) => (.ok (some (resource, value)), t)
          | (.error e, t) => (.error e, t) := by
  rw [find, on_bind, match?_on]
  cases resource.matchAt s.path s.skip with
  | error e => rfl
  | ok found =>
    cases found with
    | none => rfl
    | some result =>
      dsimp only
      rw [on_bind]
      obtain ⟨answer, t⟩ := (ask check asked value result).on s
      cases answer with
      | error e => rfl
      | ok answer =>
        cases answer with
        | false => rfl
        | true =>
          dsimp only
          rw [if_pos rfl, on_bind]
          obtain ⟨outcome, t⟩ := (take result).on t
          cases outcome with
          | error e => rfl
          | ok u => rfl

theorem ask_ofPredicate_on (predicate : Option (α → MatchResult → Bool)) (value : α)
    (result : MatchResult) :
    (ask (predicate.map Check.ofPredicate) asked value result).on s =
      (.ok ((predicate.getD Router.acceptAll) value result), s) := by
  cases predicate with
  | none => rfl
  | some predicate => rfl

/-- Going through the routes in place with a check that depends on the candidate only, or with none,
is searching, and then advancing. -/
theorem find_on (predicate : Option (α → MatchResult → Bool)) :
    (find (predicate.map Check.ofPredicate) asked routes).on s =
      match Router.search (predicate.getD Router.acceptAll) s.path s.skip routes with
      | .error e => (.error (.routing (.matching e)), s)
      | .ok ⟨none, _⟩ => (.ok none, s)
      | .ok ⟨some (resource, value, result), _⟩ =>
        match s.take result with
        | .ok t => (.ok (some (resource, value)), t)
        | .error e => (.error (.routing e), s) := by
  induction routes generalizing asked with
  | nil => rfl
  | cons route routes ih =>
    obtain ⟨resource, value⟩ := route
    rw [find_on_cons, Router.search]
    cases resource.matchAt s.path s.skip with
    | error e => rfl
    | ok found =>
      cases found with
      | none => exact ih
      | some result =>
        dsimp only
        rw [ask_ofPredicate_on]
        cases hanswer : (predicate.getD Router.acceptAll) value result with
        | false =>
          dsimp only
          rw [ih]
          simp only [bind, Except.bind, hanswer, Bool.false_eq_true, if_false]
          cases Router.search (predicate.getD Router.acceptAll) s.path s.skip routes with
          | error e => rfl
          | ok found =>
            obtain ⟨route, others⟩ := found
            cases route with
            | none => rfl
            | some route => rfl
        | true =>
          dsimp only
          simp only [bind, Except.bind, pure, Except.pure, hanswer, if_true]
          rw [take_on]
          cases s.take result with
          | error e => rfl
          | ok t => rfl

/-- Routing in place is routing; a failure changes nothing. -/
theorem find_router_on (router : Router α) (predicate : Option (α → MatchResult → Bool))
    (s : PathState) :
    (find (predicate.map Check.ofPredicate) [] router.routes).on s =
      match router.find (predicate.getD Router.acceptAll) s with
      | .ok (found, _, t) => (.ok found, t)
      | .error e => (.error (.routing e), s) := by
  rw [find_on, Router.find]
  cases Router.search (predicate.getD Router.acceptAll) s.path s.skip router.routes with
  | error e => rfl
  | ok found =>
    obtain ⟨route, others⟩ := found
    cases route with
    | none => rfl
    | some route =>
      obtain ⟨resource, value, result⟩ := route
      dsimp only
      cases s.take result with
      | error e => rfl
      | ok t => rfl

end Find

end Programs

end InPlace

end PathRouter

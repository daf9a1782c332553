import PathRouter.Proofs.CompiledTree
import PathRouter.Proofs.FilledPath
import PathRouter.Router

/-!
# Setting up a router

Routers are changed by what registers resources. Here that is written as programs that work on a
router in place, one write after the other, and can fail on the way. In every run of them, from a
router without routes, the table of names stays in step with the routes: a name gives the first of
the routes that have it. What fails has written nothing, and a frozen router stays as it is.
-/

namespace PathRouter
set_option autoImplicit false

/-- A program that works on a router in place. -/
abbrev Registering (α β : Type) : Type :=
  ExceptT RegisterError (StateM (Router α)) β

namespace Registering

variable {α β γ : Type}

/-- The outcome of a program on a router, and the router it leaves. -/
def on (program : Registering α β) (router : Router α) : Except RegisterError β × Router α :=
  program.run.run router

/-- Puts a route after the others. -/
def append (resource : Resource) (value : α) : Registering α Unit :=
  modify fun router => { router with routes := router.routes ++ [(resource, value)] }

/-- Gives a name to a resource, unless it is given already. -/
def setDefault (name : Text) (resource : Resource) : Registering α Unit :=
  modify fun router =>
    if router.named.any fun e => e.1 == name then router
    else { router with named := router.named ++ [(name, resource)] }

/-- Registers a resource. -/
def add (resource : Resource) (value : α) : Registering α Unit := do
  if (← get).frozen then throw .frozen
  append resource value
  match resource.name with
  | none => return
  | some name => setDefault name resource

/-- Builds a resource and registers it. -/
def register (extent : Extent) (patterns : List Text) (value : α) (name : Option Text) :
    Registering α Resource := do
  match Resource.ofPatterns (← get).config extent name patterns with
  | .error failure => throw (.build failure)
  | .ok resource =>
    add resource value
    return resource

theorem on_bind (x : Registering α β) (f : β → Registering α γ) (router : Router α) :
    (x >>= f).on router = match x.on router with
      | (.ok b, next) => (f b).on next
      | (.error e, next) => (.error e, next) := by
  have hbind :
      (x >>= f).on router = (ExceptT.bindCont f (x.on router).1).run (x.on router).2 := rfl
  rw [hbind]
  obtain ⟨outcome, next⟩ := x.on router
  cases outcome with
  | ok b => rfl
  | error e => rfl

theorem on_get (router : Router α) :
    (get : Registering α (Router α)).on router = (.ok router, router) :=
  rfl

/-- A failing registration writes nothing, as the test comes first. -/
theorem add_on (resource : Resource) (value : α) (router : Router α) :
    (add resource value).on router = match router.add resource value with
      | .ok next => (.ok (), next)
      | .error e => (.error e, router) := by
  rw [add, on_bind, on_get, Router.add]
  by_cases hfrozen : router.frozen = true
  · rw [if_pos hfrozen]
    dsimp only
    rw [if_pos hfrozen]
    rfl
  · rw [if_neg hfrozen]
    dsimp only
    rw [if_neg hfrozen]
    cases resource.name with
    | none => rfl
    | some name =>
      dsimp only
      have hwrites :
          (do append resource value; setDefault name resource : Registering α Unit).on router =
            (.ok (), if router.named.any fun e => e.1 == name then
                { router with routes := router.routes ++ [(resource, value)] }
              else { router with
                routes := router.routes ++ [(resource, value)]
                named := router.named ++ [(name, resource)] }) := rfl
      refine hwrites.trans ?_
      split <;> rfl

theorem register_on (extent : Extent) (patterns : List Text) (value : α) (name : Option Text)
    (router : Router α) :
    (register extent patterns value name).on router =
      match router.register extent patterns value name with
      | .ok (resource, next) => (.ok resource, next)
      | .error e => (.error e, router) := by
  rw [register, on_bind, on_get, Router.register]
  dsimp only
  cases Resource.ofPatterns router.config extent name patterns with
  | error failure => rfl
  | ok resource =>
    dsimp only
    rw [on_bind, add_on]
    cases router.add resource value with
    | ok next => rfl
    | error e => rfl

end Registering

/-! ## Names and routes -/

namespace Router

variable {α : Type} {router next : Router α}

/-- Each name is given to the first of the routes that have it. -/
def IsIndexed (router : Router α) : Prop :=
  ∀ name, (router.named.find? fun e => e.1 == name).map Prod.snd =
    (router.routes.find? fun route => route.1.name == some name).map Prod.fst

theorem add_eq_ok {resource : Resource} {value : α} (h : router.add resource value = .ok next) :
    router.frozen = false ∧ next.frozen = false ∧ next.config = router.config ∧
      next.routes = router.routes ++ [(resource, value)] := by
  unfold add at h
  split at h
  · exact absurd h (by simp)
  · obtain rfl := Except.ok.inj h
    have hopen : router.frozen = false := by simpa using ‹¬router.frozen = true›
    exact ⟨hopen, hopen, rfl, rfl⟩

/-- The names of a router to which a resource is added. -/
theorem find?_named_of_add {resource : Resource} {value : α}
    (h : router.add resource value = .ok next) (name : Text) :
    next.named.find? (fun e => e.1 == name) =
      (router.named.find? fun e => e.1 == name).or
        (if resource.name = some name then some (name, resource) else none) := by
  unfold add at h
  split at h
  · exact absurd h (by simp)
  · obtain rfl := Except.ok.inj h
    dsimp only
    cases resource.name with
    | none => simp
    | some other =>
      dsimp only
      split
      · -- a name that is taken stays with the resource that has it
        rename_i htaken
        by_cases hname : other = name
        · subst hname
          obtain ⟨e, he⟩ :=
            Option.isSome_iff_exists.1 (List.find?_isSome.2 (List.any_eq_true.1 htaken))
          rw [he]
          rfl
        · simp [hname]
      · rw [List.find?_append]
        by_cases hname : other = name
        · subst hname
          simp
        · simp [hname]

theorem IsIndexed.add (hindexed : router.IsIndexed) {resource : Resource} {value : α}
    (h : router.add resource value = .ok next) : next.IsIndexed := by
  intro name
  obtain ⟨-, -, -, hroutes⟩ := add_eq_ok h
  rw [find?_named_of_add h, hroutes, List.find?_append, Option.map_or, Option.map_or, hindexed name]
  by_cases hname : resource.name = some name
  · simp [hname]
  · simp [hname]

/-- What a name gives, by the routes. -/
theorem IsIndexed.urlFor_eq (hindexed : router.IsIndexed) (name : Text) (supply : Supply) :
    router.urlFor name supply =
      match router.routes.find? fun route => route.1.name == some name with
      | none => .error (.unknownResource name)
      | some route => route.1.build supply := by
  have hname := hindexed name
  unfold urlFor
  cases hnamed : router.named.find? fun e => e.1 == name with
  | none =>
    rw [hnamed, Option.map_none, eq_comm, Option.map_eq_none_iff] at hname
    rw [hname]
  | some e =>
    obtain ⟨other, resource⟩ := e
    rw [hnamed, Option.map_some, eq_comm, Option.map_eq_some_iff] at hname
    obtain ⟨route, hroute, hresource⟩ := hname
    rw [hroute]
    exact congrArg (fun r : Resource => r.build supply) hresource.symm

end Router

/-! ## Building never asks for a name -/

section Building

/-- If no path is built, that is not because a name is unknown. -/
def KnowsNames (built : Except PathError Text) : Prop :=
  ∀ name, built ≠ .error (.unknownResource name)

theorem Resource.knowsNames_build (r : Resource) (supply : Supply) :
    KnowsNames (r.build supply) := by
  intro name h
  have hbuilds := r.builds_build supply
  rw [h] at hbuilds
  rcases hbuilds with hbuilds | hbuilds | ⟨_, hbuilds⟩
  · exact nomatch hbuilds
  · exact absurd hbuilds (by simp)
  · exact absurd hbuilds (by simp)

end Building

/-! ## Operations -/

/-- What can be done to set up a router. -/
inductive Registration (α : Type)
  | add (resource : Resource) (value : α)
  | register (extent : Extent) (patterns : List Text) (value : α) (name : Option Text)
  | freeze

namespace Registration

variable {α : Type}

/-- The program of an operation, which gives the route that it registered. -/
def program : Registration α → Registering α (Option (Resource × α))
  | add resource value => do
    Registering.add resource value
    return some (resource, value)
  | register extent patterns value name => do
    return some (← Registering.register extent patterns value name, value)
  | freeze => do
    modify Router.freeze
    return none

/-- The outcome of an operation on a router, and the router it leaves. -/
def step (op : Registration α) (router : Router α) :
    Except RegisterError (Option (Resource × α)) × Router α :=
  op.program.on router

/-- The router that operations leave, one done after the other whatever comes of them. -/
def run : Router α → List (Registration α) → Router α
  | router, [] => router
  | router, op :: ops => run (op.step router).2 ops

/-- The routes that operations registered on the way, in the order of registration. -/
def registered : Router α → List (Registration α) → List (Resource × α)
  | _, [] => []
  | router, op :: ops =>
    match op.step router with
    | (.ok (some route), next) => route :: registered next ops
    | (_, next) => registered next ops

/-- The route that an operation is to register, if it is to register one and its patterns are
accepted. -/
def route? (config : Config) : Registration α → Except BuildFailure (Option (Resource × α))
  | add resource value => .ok (some (resource, value))
  | register extent patterns value name =>
    (Resource.ofPatterns config extent name patterns).map fun resource => some (resource, value)
  | freeze => .ok none

/-- The operation ends registration. -/
def isFreeze : Registration α → Bool
  | freeze => true
  | add _ _ | register _ _ _ _ => false

/-- What an operation does to a router. -/
inductive Steps (op : Registration α) (router : Router α) :
    Except RegisterError (Option (Resource × α)) → Router α → Prop
  /-- Its patterns are not accepted. -/
  | refused {failure : BuildFailure} : op.route? router.config = .error failure →
      Steps op router (.error (.build failure)) router
  /-- There is a route, and the router is frozen. -/
  | late {route : Resource × α} : op.route? router.config = .ok (some route) →
      router.frozen = true → Steps op router (.error .frozen) router
  | added {route : Resource × α} {next : Router α} :
      op.route? router.config = .ok (some route) → router.add route.1 route.2 = .ok next →
      Steps op router (.ok (some route)) next
  | froze : op.isFreeze → Steps op router (.ok none) router.freeze

theorem step_add (resource : Resource) (value : α) (router : Router α) :
    (add resource value).step router = match router.add resource value with
      | .ok next => (.ok (some (resource, value)), next)
      | .error e => (.error e, router) := by
  rw [step, program, Registering.on_bind, Registering.add_on]
  cases router.add resource value with
  | ok next => rfl
  | error e => rfl

theorem step_register (extent : Extent) (patterns : List Text) (value : α) (name : Option Text)
    (router : Router α) :
    (register extent patterns value name).step router =
      match router.register extent patterns value name with
      | .ok (resource, next) => (.ok (some (resource, value)), next)
      | .error e => (.error e, router) := by
  rw [step, program, Registering.on_bind, Registering.register_on]
  cases router.register extent patterns value name with
  | ok registered => rfl
  | error e => rfl

/-- An open router takes every resource, and a frozen one none. -/
theorem steps_add {op : Registration α} {router : Router α} {resource : Resource} {value : α}
    (hroute : op.route? router.config = .ok (some (resource, value)))
    (hstep : op.step router = match router.add resource value with
      | .ok next => (.ok (some (resource, value)), next)
      | .error e => (.error e, router)) :
    Steps op router (op.step router).1 (op.step router).2 := by
  rw [hstep]
  cases hadd : router.add resource value with
  | ok next => exact .added hroute hadd
  | error e =>
    unfold Router.add at hadd
    split at hadd
    · obtain rfl := Except.error.inj hadd
      exact .late hroute ‹_›
    · exact absurd hadd (by simp)

theorem steps_step (op : Registration α) (router : Router α) :
    Steps op router (op.step router).1 (op.step router).2 := by
  cases op with
  | add resource value => exact steps_add rfl (step_add resource value router)
  | register extent patterns value name =>
    cases hbuilt : Resource.ofPatterns router.config extent name patterns with
    | error failure =>
      rw [step_register, Router.register, hbuilt]
      exact .refused (by rw [route?, hbuilt]; rfl)
    | ok resource =>
      have hroute : (register extent patterns value name).route? router.config =
          .ok (some (resource, value)) := by rw [route?, hbuilt]; rfl
      refine steps_add hroute ?_
      rw [step_register, Router.register, hbuilt]
      dsimp only
      cases router.add resource value with
      | ok next => rfl
      | error e => rfl
  | freeze => exact .froze rfl

section Step

variable {op : Registration α} {router next : Router α}
  {outcome : Except RegisterError (Option (Resource × α))}

theorem Steps.config (h : Steps op router outcome next) : next.config = router.config := by
  cases h with
  | refused _ | late _ _ | froze _ => rfl
  | added _ hadd => exact (Router.add_eq_ok hadd).2.2.1

theorem Steps.frozen (h : Steps op router outcome next) :
    next.frozen = (router.frozen || op.isFreeze) := by
  cases h with
  | refused _ => cases op <;> simp_all [route?, isFreeze]
  | late _ _ => simp_all
  | added hroute hadd => cases op <;> simp_all [route?, isFreeze, Router.add_eq_ok hadd]
  | froze hfreeze => simp [Router.freeze, hfreeze]

theorem Steps.isIndexed (h : Steps op router outcome next) (hindexed : router.IsIndexed) :
    next.IsIndexed := by
  cases h with
  | refused _ | late _ _ => exact hindexed
  | added _ hadd => exact hindexed.add hadd
  | froze _ => exact hindexed

theorem Steps.unchanged {e : RegisterError} (h : Steps op router (.error e) next) :
    next = router := by
  cases h with
  | refused _ | late _ _ => rfl

/-- A frozen router stays as it is. -/
theorem Steps.settled (h : Steps op router outcome next) (hfrozen : router.frozen = true) :
    next = router := by
  cases h with
  | refused _ | late _ _ => rfl
  | added _ hadd => exact absurd hfrozen (by simp [(Router.add_eq_ok hadd).1])
  | froze _ => obtain ⟨config, routes, named, frozen⟩ := router; cases hfrozen; rfl

/-- What comes of an operation depends on its patterns and on whether the router is frozen. -/
theorem Steps.outcome_eq (h : Steps op router outcome next) :
    outcome = match op.route? router.config with
      | .error failure => .error (.build failure)
      | .ok none => .ok none
      | .ok (some route) => if router.frozen then .error .frozen else .ok (some route) := by
  cases h with
  | refused hroute => rw [hroute]
  | late hroute hfrozen => rw [hroute]; exact (if_pos hfrozen).symm
  | added hroute hadd =>
    rw [hroute]
    exact (if_neg (by simp [(Router.add_eq_ok hadd).1])).symm
  | froze hfreeze =>
    cases op with
    | freeze => rfl
    | add _ _ | register _ _ _ _ => exact absurd hfreeze (by simp [isFreeze])

end Step

/-! ## Runs -/

section Run

variable {router : Router α}

theorem run_config (ops : List (Registration α)) : (run router ops).config = router.config := by
  induction ops generalizing router with
  | nil => rfl
  | cons op ops ih => exact ih.trans (steps_step op router).config

theorem run_frozen (ops : List (Registration α)) :
    (run router ops).frozen = (router.frozen || ops.any isFreeze) := by
  induction ops generalizing router with
  | nil => simp [run]
  | cons op ops ih => rw [run, ih, (steps_step op router).frozen, List.any_cons, Bool.or_assoc]

theorem run_isIndexed (ops : List (Registration α)) (hindexed : router.IsIndexed) :
    (run router ops).IsIndexed := by
  induction ops generalizing router with
  | nil => exact hindexed
  | cons op ops ih => exact ih ((steps_step op router).isIndexed hindexed)

theorem run_settled (ops : List (Registration α)) (hfrozen : router.frozen = true) :
    run router ops = router := by
  induction ops with
  | nil => rfl
  | cons op ops ih => rw [run, (steps_step op router).settled hfrozen, ih]

theorem run_routes (ops : List (Registration α)) :
    (run router ops).routes = router.routes ++ registered router ops := by
  induction ops generalizing router with
  | nil => simp [run, registered]
  | cons op ops ih =>
    have hstep := steps_step op router
    rw [run, registered, ih]
    generalize op.step router = stepped at hstep ⊢
    obtain ⟨outcome, next⟩ := stepped
    cases hstep with
    | refused _ | late _ _ | froze _ => rfl
    | added _ hadd =>
      rw [(Router.add_eq_ok hadd).2.2.2, List.append_assoc]
      rfl

end Run

/-- What may be expected of a router that was set up by operations. -/
structure SetsUp (config : Config) (ops : List (Registration α)) (router : Router α) : Prop where
  /-- The routes are what was registered, in order. -/
  routes : router.routes = registered (.new config) ops
  /-- A name is unknown if no route has it. -/
  unknown : ∀ name supply, (∃ other, router.urlFor name supply = .error (.unknownResource other)) ↔
    ∀ route ∈ router.routes, route.1.name ≠ some name
  /-- A name belongs to the first of the routes that have it. -/
  known : ∀ before resource value after name, router.routes = before ++ (resource, value) :: after →
    (∀ route ∈ before, route.1.name ≠ some name) → resource.name = some name →
      ∀ supply, router.urlFor name supply = resource.build supply
  /-- What comes of an operation depends on its patterns and on whether registration has ended. -/
  outcome : ∀ op : Registration α, (op.step router).1 = match op.route? config with
    | .error failure => .error (.build failure)
    | .ok none => .ok none
    | .ok (some route) => if ops.any isFreeze then .error .frozen else .ok (some route)
  /-- What fails changes nothing. -/
  unchanged : ∀ (op : Registration α) e, (op.step router).1 = .error e → (op.step router).2 = router
  /-- Once registration has ended nothing changes any more. -/
  settled : ops.any isFreeze → ∀ later, run router later = router

/-- In every run that starts without routes, whatever comes of the operations. -/
theorem run_setsUp (config : Config) (ops : List (Registration α)) :
    SetsUp config ops (run (.new config) ops) := by
  have hempty : (Router.new config : Router α).IsIndexed := fun _ => rfl
  have hurl := (run_isIndexed ops hempty).urlFor_eq
  have hfrozen : (run (.new config) ops : Router α).frozen = ops.any isFreeze := run_frozen ops
  constructor
  case routes => exact run_routes ops
  case unknown =>
    intro name supply
    rw [hurl]
    cases hfind : (run (.new config) ops).routes.find? fun route => route.1.name == some name with
    | none =>
      refine iff_of_true ⟨name, rfl⟩ fun route hmem => ?_
      simpa using List.find?_eq_none.1 hfind route hmem
    | some route =>
      refine iff_of_false ?_ fun hnone => ?_
      · rintro ⟨other, hother⟩
        exact route.1.knowsNames_build supply other hother
      · exact hnone route (List.mem_of_find?_eq_some hfind) (by simpa using List.find?_some hfind)
  case known =>
    intro before resource value after name hroutes hbefore hname supply
    have hfind : (before ++ (resource, value) :: after).find?
        (fun route => route.1.name == some name) = some (resource, value) := by
      rw [List.find?_append, List.find?_eq_none.2 (by simpa using hbefore)]
      simp [hname]
    rw [hurl, hroutes, hfind]
  case outcome =>
    intro op
    rw [(steps_step op _).outcome_eq, run_config, hfrozen]
    rfl
  case unchanged =>
    intro op e he
    have hstep := steps_step op (run (.new config) ops)
    rw [he] at hstep
    exact hstep.unchanged
  case settled => exact fun hfreeze later => run_settled later (hfrozen.trans hfreeze)

/-- Of two resources with a name the first keeps it. What is refused or comes too late leaves
nothing. -/
theorem run_setsUp_sameName :
    let ops : List (Registration Nat) :=
      [.register .exact ["/v1/\x7bid\x7d".toList] 1 (some "user".toList),
        .register .exact ["/share/\x7bslug".toList] 2 (some "share".toList),
        .register .leading ["/v2/\x7bid\x7d".toList] 3 (some "user".toList), .freeze,
        .register .exact ["/late".toList] 4 (some "late".toList)]
    let router := run (.new .standard) ops
    router.routes.map Prod.snd = [1, 3] ∧
      router.urlFor "user".toList (.positional [.integer 7]) = .ok "/v1/7".toList ∧
      (∃ name, router.urlFor "late".toList (.positional []) = .error (.unknownResource name)) ∧
      ∀ resource, run router [.add resource 5] = router := by
  intro ops router
  have hsetsUp : SetsUp .standard ops router := run_setsUp .standard ops
  refine ⟨by decide +kernel, eq_ok_of_toOption (by decide +kernel), (hsetsUp.unknown _ _).2 ?_,
    fun resource => hsetsUp.settled (by decide) [.add resource 5]⟩
  decide +kernel

end Registration

end PathRouter

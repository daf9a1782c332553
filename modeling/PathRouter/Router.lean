import PathRouter.Resource

/-!
# Routers

A router is a list of resources with values, in the order of registration. The first resource that
matches wins. Once a router is frozen nothing can be registered. A name belongs to the first
resource that was registered under it.
-/

namespace PathRouter
set_option autoImplicit false

/-- Resources with values, in order of priority. -/
structure Router (α : Type) where
  config : Config
  routes : List (Resource × α)
  /-- The resources with names, each name once. -/
  named : List (Text × Resource)
  frozen : Bool

/-- Why a registration fails. -/
inductive RegisterError
  | build (failure : BuildFailure)
  | frozen
  deriving DecidableEq

/-- The message of a frozen router. -/
def RegisterError.message : RegisterError → String
  | build failure => failure.message
  | frozen => "Cannot add routes after compilation."

/-- What a path was recognised as. -/
structure RouteMatch (α : Type) where
  value : α
  resource : Resource
  captures : List Capture
  remaining : Text

namespace RouteMatch

/-- The captured names, each with the value of its last capture. -/
def params {α : Type} (m : RouteMatch α) : List (Text × Text) :=
  Capture.lastValues m.captures

end RouteMatch

/-- The outcome of a search through the routes. -/
structure Found (α : Type) where
  /-- The route that was accepted, with its match. -/
  route : Option (Resource × α × MatchResult)
  /-- The candidates that were asked about, in order, the accepted one included. -/
  asked : List (α × MatchResult)

namespace Router

variable {α : Type}

/-- A router without routes. -/
def new (config : Config) : Router α :=
  ⟨config, [], [], false⟩

/-- Registers a resource. -/
def add (router : Router α) (resource : Resource) (value : α) : Except RegisterError (Router α) :=
  if router.frozen then .error .frozen
  else .ok { router with
    routes := router.routes ++ [(resource, value)],
    named := match resource.name with
      | none => router.named
      | some n =>
        if router.named.any fun e => e.1 == n then router.named
        else router.named ++ [(n, resource)] }

/-- Builds a resource and registers it. -/
def register (router : Router α) (extent : Extent) (patterns : List Text) (value : α)
    (name : Option Text) : Except RegisterError (Resource × Router α) :=
  match Resource.ofPatterns router.config extent name patterns with
  | .error failure => .error (.build failure)
  | .ok resource => do return (resource, ← router.add resource value)

/-- Ends registration. -/
def freeze (router : Router α) : Router α :=
  { router with frozen := true }

/-- The state of a raw path, requoted as this router is configured. -/
def pathState (router : Router α) (raw : RawPath) : PathState :=
  .ofRaw router.config.protection raw

/-- The first route that matches and that `check` accepts. -/
def search (check : α → MatchResult → Bool) (path : Text) (skip : Nat) :
    List (Resource × α) → Except MatchError (Found α)
  | [] => .ok ⟨none, []⟩
  | (resource, value) :: rest => do
    match ← resource.matchAt path skip with
    | none => search check path skip rest
    | some result =>
      if check value result then return ⟨some (resource, value, result), [(value, result)]⟩
      else
        let found ← search check path skip rest
        return { found with asked := (value, result) :: found.asked }

/-- Routes a state: the route that was accepted, the candidates that were asked about, and the state
after it. Without a route the state stays as it is. -/
def find (router : Router α) (check : α → MatchResult → Bool) (state : PathState) :
    Except RoutingError (Option (Resource × α) × List (α × MatchResult) × PathState) :=
  match search check state.path state.skip router.routes with
  | .error e => .error (.matching e)
  | .ok ⟨none, asked⟩ => .ok (none, asked, state)
  | .ok ⟨some (resource, value, result), asked⟩ => do
    return (some (resource, value), asked, ← state.take result)

/-- Every candidate is accepted. -/
def acceptAll : α → MatchResult → Bool :=
  fun _ _ => true

/-- The value of the first route that matches, and the state after it. -/
def recognize (router : Router α) (state : PathState) :
    Except RoutingError (Option α × PathState) := do
  let (found, _, state) ← router.find acceptAll state
  return (found.map Prod.snd, state)

/-- The value of the first route that matches and is accepted, the candidates that were asked about,
and the state after it. -/
def recognizeIf (router : Router α) (check : α → MatchResult → Bool) (state : PathState) :
    Except RoutingError (Option α × List (α × MatchResult) × PathState) := do
  let (found, asked, state) ← router.find check state
  return (found.map Prod.snd, asked, state)

/-- Routes a whole path. -/
def matchPath (router : Router α) (path : Text) : Except RoutingError (Option (RouteMatch α)) := do
  let (found, _, state) ← router.find acceptAll (.ofPath path)
  return found.map fun (resource, value) => ⟨value, resource, state.captures, state.remaining⟩

/-- The path of the resource registered under a name. -/
def urlFor (router : Router α) (name : Text) (supply : Supply) : Except PathError Text :=
  match router.named.find? fun e => e.1 == name with
  | none => .error (.unknownResource name)
  | some (_, resource) => resource.build supply

end Router

end PathRouter

import PathRouter.Capture
import PathRouter.Percent.Requote

/-!
# Path states

The path of one request on its way through nested routers: how much of it is consumed, and what was
captured so far. No operation changes the path, and one that fails changes nothing, except that an
advance does not take back what it did before its captures failed.
-/

namespace PathRouter
set_option autoImplicit false

/-- A path as it comes in. -/
inductive RawPath
  | bytes (bytes : Bytes)
  | text (text : Text)

/-- What iterating over captures gives: one after the other, until there are no more or the next one
fails. -/
inductive Iteration
  | ended
  | failed
  | next (capture : Capture) (rest : Iteration)
  deriving DecidableEq

namespace Iteration

/-- Captures that are all at hand. -/
def ofList : List Capture → Iteration
  | [] => ended
  | c :: cs => next c (ofList cs)

/-- The captures that come. -/
def yielded : Iteration → List Capture
  | ended | failed => []
  | next c rest => c :: rest.yielded

/-- A capture fails after those that come. -/
def fails : Iteration → Bool
  | ended => false
  | failed => true
  | next _ rest => rest.fails

@[simp] theorem yielded_ofList (cs : List Capture) : (ofList cs).yielded = cs := by
  induction cs with
  | nil => rfl
  | cons c cs ih => rw [ofList, yielded, ih]

@[simp] theorem fails_ofList (cs : List Capture) : (ofList cs).fails = false := by
  induction cs with
  | nil => rfl
  | cons c cs ih => exact ih

end Iteration

/-- A path, the number of characters consumed, and the captures, outermost router first. -/
structure PathState where
  path : Text
  skip : Nat
  captures : List Capture
  deriving DecidableEq

/-- Why a state cannot advance. -/
inductive AdvanceError
  | negative (delta : Int)
  | pastEnd (delta : Int) (path : Text) (skip : Nat)
  deriving DecidableEq

/-- The message of a failed advance. -/
def AdvanceError.message : AdvanceError → String
  | negative delta =>
    "skip_delta must be non-negative, got " ++ String.ofList (Text.integer delta)
  | pastEnd delta path skip =>
    "Cannot advance " ++ String.ofList (Text.integer delta) ++ " past the end of " ++
      Text.quote path ++ " (skip=" ++ toString skip ++ ")"

namespace PathState

/-- A state at the start of a path. -/
def ofPath (path : Text) : PathState :=
  ⟨path, 0, []⟩

/-- A state at the start of a raw path, which is requoted first. -/
def ofRaw (protection : Percent.Protection) : RawPath → PathState
  | .bytes bytes => ofPath (protection.requoteText (Percent.textOfRaw bytes))
  | .text text => ofPath (protection.requoteText text)

/-- What is not consumed. -/
def remaining (s : PathState) : Text :=
  s.path.drop s.skip

/-- Adds captures as they come. -/
def extend (s : PathState) : Iteration → PathState
  | .ended | .failed => s
  | .next c rest => extend { s with captures := s.captures ++ [c] } rest

theorem extend_eq (s : PathState) (captures : Iteration) :
    s.extend captures = { s with captures := s.captures ++ captures.yielded } := by
  induction captures generalizing s with
  | ended => simp [extend, Iteration.yielded]
  | failed => simp [extend, Iteration.yielded]
  | next c rest ih => simp [extend, Iteration.yielded, ih]

/-- Consumes `delta` more characters, and then adds captures as they come. If one of them fails, the
state is that which is left. -/
def advanceOver (s : PathState) (delta : Int) (captures : Iteration) :
    Except AdvanceError PathState :=
  if delta < 0 then .error (.negative delta)
  else if (s.path.length : Int) < s.skip + delta then .error (.pastEnd delta s.path s.skip)
  else .ok ({ s with skip := s.skip + delta.toNat }.extend captures)

/-- Consumes `delta` more characters and adds captures that are all at hand. -/
def advance (s : PathState) (delta : Int) (captures : List Capture) :
    Except AdvanceError PathState :=
  s.advanceOver delta (.ofList captures)

/-- Back to the start of the path, without captures. -/
def reset (s : PathState) : PathState :=
  { s with skip := 0, captures := [] }

/-- Without captures. -/
def clearCaptures (s : PathState) : PathState :=
  { s with captures := [] }

/-- Adds a capture that did not come from the path. -/
def addStatic (s : PathState) (name value : Text) : PathState :=
  { s with captures := s.captures ++ [.owned name value] }

/-- The first value captured under a name. -/
def get? (s : PathState) (name : Text) : Option Text :=
  (s.captures.find? fun c => c.name == name).map Capture.value

/-- The first value captured under a name, or the name if there is none. -/
def item (s : PathState) (name : Text) : Except Text Text :=
  match s.get? name with
  | some value => .ok value
  | none => .error name

/-- Something was captured under the name. -/
def contains (s : PathState) (name : Text) : Bool :=
  s.captures.any fun c => c.name == name

/-- The names and values in the order of capture. -/
def entries (s : PathState) : List (Text × Text) :=
  s.captures.map Capture.entry

/-- The state as it is shown. -/
def shown (s : PathState) : String :=
  "PathState(" ++ Text.quote s.path ++ ", skip=" ++ toString s.skip ++ ", captures=[" ++
    String.intercalate ", " (s.captures.map Capture.shown) ++ "])"

end PathState

end PathRouter

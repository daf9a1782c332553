import PathRouter.Pattern.Segment
import PathRouter.Percent.Encode
import PathRouter.Text.Quoted
import PathRouter.Text.ShortestDecimal

/-!
# Building paths

The reverse of matching: segments and a value for each capture give a path. Values are supplied by
name or by position; they are turned into text and percent-encoded, except that the value of a tail
keeps its slashes.
-/

namespace PathRouter
set_option autoImplicit false

/-- A value for a capture. -/
inductive Value
  | text (text : Text)
  | integer (i : Int)
  | truth (b : Bool)
  | real (x : Float)
  | absent

namespace Value

/-- The text of a value. -/
def toText : Value → Text
  | text t => t
  | integer i => Text.integer i
  | truth true => ['T', 'r', 'u', 'e']
  | truth false => ['F', 'a', 'l', 's', 'e']
  | real x => Text.ofFloatBits x.toBits.toNat
  | absent => ['N', 'o', 'n', 'e']

/-- What kind of value it is, in words. -/
def kind : Value → String
  | text _ => "str"
  | integer _ => "int"
  | truth _ => "bool"
  | real _ => "float"
  | absent => "NoneType"

end Value

/-- The values for the captures of a pattern. -/
inductive Supply
  /-- A value for each of some names. -/
  | named (values : List (Text × Value))
  /-- Values in the order of the captures. -/
  | positional (values : List Value)
  /-- A single value, from which none can be taken. -/
  | single (value : Value)

/-- What a value is missing for. -/
inductive MissingKey
  | name (name : Text)
  | position (index : Int)
  deriving DecidableEq

/-- Why no path is built. -/
inductive PathError
  /-- There is no value for a capture of the pattern. -/
  | missing (key : MissingKey) (pattern : Text)
  /-- There is nothing to build a path from. -/
  | noSequence (label : String)
  /-- The values are a single value. -/
  | notIterable (kind : String)
  /-- No resource has the name. -/
  | unknownResource (name : Text)
  deriving DecidableEq

/-- The key as it is shown. -/
def MissingKey.shown : MissingKey → String
  | name n => Text.quote n
  | position i => String.ofList (Text.integer i)

/-- The message of a failure to build a path. -/
def PathError.message : PathError → String
  | missing key pattern =>
    "Missing value for " ++ key.shown ++
      if pattern = [] then "" else " in pattern " ++ Text.quote pattern
  | noSequence label => "Resource " ++ label ++ " has no pattern to build from."
  | notIterable kind => "'" ++ kind ++ "' object is not iterable"
  | unknownResource name => "No resource named " ++ Text.quote name

namespace Segment

/-- The characters that the value of a segment keeps as they are. -/
def safe : Segment → Text
  | tail _ _ => ['/']
  | _ => []

/-- The part of a path that a value gives for a segment. -/
def fill (segment : Segment) (value : Value) : Text :=
  Percent.encode value.toText segment.safe

end Segment

/-- The path with values by name. -/
def buildNamed (pattern : Text) (values : List (Text × Value)) :
    List Segment → Except PathError Text
  | [] => .ok []
  | .literal t :: rest => do return t ++ (← buildNamed pattern values rest)
  | .boundary :: rest => buildNamed pattern values rest
  | segment :: rest => do
    let name := segment.name?.getD []
    match values.find? fun e => e.1 == name with
    | some (_, value) => return segment.fill value ++ (← buildNamed pattern values rest)
    | none => .error (.missing (.name name) pattern)

/-- The path with values by position, of which `index` are used already. -/
def buildPositional (pattern : Text) (index : Nat) :
    List Value → List Segment → Except PathError Text
  | _, [] => .ok []
  | values, .literal t :: rest => do return t ++ (← buildPositional pattern index values rest)
  | values, .boundary :: rest => buildPositional pattern index values rest
  | value :: values, segment :: rest => do
    return segment.fill value ++ (← buildPositional pattern (index + 1) values rest)
  | [], _ :: _ => .error (.missing (.position index) pattern)

/-- The path that the first of several sequences gives. -/
def buildPath (sequences : List (List Segment)) (label : String) (pattern : Text)
    (supply : Supply) : Except PathError Text :=
  match sequences with
  | [] => .error (.noSequence label)
  | segments :: _ =>
    match supply with
    | .named values => buildNamed pattern values segments
    | .positional values => buildPositional pattern 0 values segments
    | .single value => .error (.notIterable value.kind)

end PathRouter

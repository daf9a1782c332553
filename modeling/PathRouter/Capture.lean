import PathRouter.Text.Quoted

/-!
# Captures

A capture is a name with a value. The value is borrowed, a span of the path that was matched, or
owned, because decoding changed it or because it never was part of a path.
-/

namespace PathRouter
set_option autoImplicit false

/-- A captured name and value. -/
structure Capture where
  name : Text
  source : Text
  start : Int
  stop : Int
  decoded : Option Text
  deriving DecidableEq

namespace Capture

/-- A capture of the span of a path. -/
def borrowed (name source : Text) (start stop : Int) : Capture :=
  ⟨name, source, start, stop, none⟩

/-- A capture with a value of its own. -/
def owned (name value : Text) : Capture :=
  ⟨name, [], 0, 0, some value⟩

/-- The value is a span of the path. -/
def isBorrowed (c : Capture) : Bool :=
  c.decoded.isNone

/-- The span of the path that was captured, as it stands there. -/
def raw (c : Capture) : Text :=
  Text.slice c.source c.start c.stop

/-- The captured value. -/
def value (c : Capture) : Text :=
  c.decoded.getD c.raw

/-- The name and the value. -/
def entry (c : Capture) : Text × Text :=
  (c.name, c.value)

/-- The capture as it is shown. -/
def shown (c : Capture) : String :=
  "Capture(" ++ Text.quote c.name ++ ", " ++ Text.quote c.value ++ ")"

end Capture

namespace Entries

/-- Adds an entry at the end; the value of a name that is there already is replaced in its place. -/
def put (entries : List (Text × Text)) (name value : Text) : List (Text × Text) :=
  if entries.any fun e => e.1 == name then
    entries.map fun e => if e.1 == name then (name, value) else e
  else entries ++ [(name, value)]

/-- Adds an entry at the end unless its name is there already. -/
def putNew (entries : List (Text × Text)) (name value : Text) : List (Text × Text) :=
  if entries.any fun e => e.1 == name then entries else entries ++ [(name, value)]

end Entries

namespace Capture

/-- The names in order of first appearance, each with the value of its last capture. -/
def lastValues (captures : List Capture) : List (Text × Text) :=
  captures.foldl (fun es c => Entries.put es c.name c.value) []

/-- The names in order of first appearance, each with the value of its first capture. -/
def firstValues (captures : List Capture) : List (Text × Text) :=
  captures.foldl (fun es c => Entries.putNew es c.name c.value) []

end Capture

end PathRouter

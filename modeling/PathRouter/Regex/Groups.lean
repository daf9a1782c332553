import PathRouter.Regex.Source
import PathRouter.Regex.Width

/-!
# Groups of an expression

The capturing groups met so far, numbered from one in the order of their opening parentheses. A
group is open until its closing parenthesis is read; only then has it a width and may be referred
to.
-/

namespace PathRouter.Regex
set_option autoImplicit false

/-- The groups met so far. -/
structure Groups where
  /-- The widths of the groups in order; a group that is open has none. -/
  widths : List (Option Width)
  /-- The names with their groups, latest first. -/
  names : List (Text × Nat)

namespace Groups

/-- No groups. -/
def none : Groups := ⟨[], []⟩

/-- The number that the next group gets. -/
def next (g : Groups) : Nat :=
  g.widths.length + 1

/-- The width of a group that is closed. -/
def width? (g : Groups) (index : Nat) : Option Width :=
  if index = 0 then Option.none else (g.widths[index - 1]?).join

/-- The group of a name. -/
def ofName? (g : Groups) (name : Text) : Option Nat :=
  (g.names.find? fun e => e.1 == name).map Prod.snd

/-- Opens the next group. -/
def opened (g : Groups) (name : Option Text) : Groups :=
  ⟨g.widths ++ [Option.none],
    match name with
    | some n => (n, g.next) :: g.names
    | Option.none => g.names⟩

/-- The widths of groups for measuring a tree that refers to closed groups only. -/
def widthOf (g : Groups) (index : Nat) : Width :=
  (g.width? index).getD .zero

/-- Closes a group. -/
def closed (g : Groups) (index : Nat) (width : Width) : Groups :=
  { g with widths := g.widths.set (index - 1) (some width) }

end Groups

/-- What an escape or a conditional needs to know of its surroundings: the groups and, inside a
look behind, the number that the first group opened inside it gets. -/
structure Surroundings where
  groups : Groups
  behind : Option Nat

/-- Inside a look behind a reference must be to a group that was closed before it. -/
def Surroundings.checkBehind (s : Surroundings) (group left : Nat) : Except Fault Unit :=
  match s.behind with
  | none => .ok ()
  | some first =>
    if (s.groups.width? group).isNone then fault .openGroup left
    else if first ≤ group then fault .lookbehindGroup left
    else .ok ()

end PathRouter.Regex

import PathRouter.Regex.Syntax

/-!
# Simplifying trees

Before it is matched a tree is simplified. A group without capture or flags dissolves into the parts
around it, atoms that all alternatives begin with are moved in front of the alternation, and
alternatives that are single characters or positive classes become one class. When case is ignored
a class treats some characters differently from a literal, so this has to be done for the right
match.
-/

namespace PathRouter.Regex
set_option autoImplicit false

/-- The atoms that all alternatives begin with, and what remains of the alternatives. -/
def factor : List Node → List (List Node) → List Node × List (List Node)
  | [], others => ([], [] :: others)
  | n :: rest, others =>
    if n.isAtom && others.all fun o => o.head? == some n then
      let (lead, remaining) := factor rest (others.map List.tail)
      (n :: lead, remaining)
    else ([], (n :: rest) :: others)

/-- The members of an alternative that is a single character or a positive class. -/
def singleMembers? : List Node → Option (List Member)
  | [.char (.literal c)] => some [.single c]
  | [.char (.set false ms)] => some ms
  | _ => none

/-- An alternative that is an alternation itself, kept apart from the one that it belongs to. -/
def asAlternative (parts : List Node) : Node :=
  match Node.ofList parts with
  | .alt a b => .flagged [] [] (.alt a b)
  | n => n

/-- The parts that alternatives become. -/
def mergeAlternatives : List (List Node) → List Node
  | [] => []
  | [only] => only
  | first :: others =>
    let (lead, remaining) := factor first others
    match remaining.mapM singleMembers? with
    | some ms => lead ++ [.char (.set false ms.flatten.eraseDups)]
    | none => lead ++ [.ofAlternatives (remaining.map asAlternative)]

namespace Node

/-- The alternatives of a tree, each as its simplified parts. -/
def branches : Node → List (List Node)
  | empty => [[]]
  | char t => [[char t]]
  | anchor a => [[anchor a]]
  | backreference g => [[backreference g]]
  | seq a b => [mergeAlternatives a.branches ++ mergeAlternatives b.branches]
  | alt a b => mergeAlternatives a.branches :: b.branches
  | quantified mode least most body =>
    [[quantified mode least most (.ofList (mergeAlternatives body.branches))]]
  | group i body => [[group i (.ofList (mergeAlternatives body.branches))]]
  | flagged [] [] body => [mergeAlternatives body.branches]
  | flagged on off body => [[flagged on off (.ofList (mergeAlternatives body.branches))]]
  | atomic body => [[atomic (.ofList (mergeAlternatives body.branches))]]
  | look behind negated body =>
    [[look behind negated (.ofList (mergeAlternatives body.branches))]]
  | conditional g yes no =>
    [[conditional g (.ofList (mergeAlternatives yes.branches))
      (.ofList (mergeAlternatives no.branches))]]

/-- The simplified tree. -/
def simplified (n : Node) : Node :=
  .ofList (mergeAlternatives n.branches)

end Node

end PathRouter.Regex

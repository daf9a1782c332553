import PathRouter.Regex.Fault

/-!
# Errors of patterns

Why a pattern is refused while a route table is built. Besides, four limits break off the building
without a verdict on the pattern; they are kept apart in `BuildFailure`.
-/

namespace PathRouter
set_option autoImplicit false

/-- Why an inline expression is refused. -/
inductive Rejection
  | tooLong (limit : Int)
  | malformed (fault : Regex.Fault)
  | backreference
  | lookaround
  | namedGroup
  | conditional
  | nestedUnbounded
  | repeatedAlternation
  deriving DecidableEq

/-- Why a pattern is refused. -/
inductive PatternError
  | unmatchedBrace (offset : Nat) (pattern : Text)
  | unclosedBrace (offset : Nat) (pattern : Text)
  | earlyTail (body pattern : Text)
  | invalidName (name pattern : Text)
  | constrainedTail (body pattern : Text)
  | emptyExpression (name pattern : Text)
  | duplicateName (name pattern : Text)
  | rejected (expression pattern : Text) (reason : Rejection)
  | noPattern
  | earlyBoundary
  | unusable (source : Text) (fault : Regex.Fault)
  deriving DecidableEq

/-- The place of an inline expression, if the pattern around it is known. -/
def PatternError.wherePart (pattern : Text) : String :=
  if pattern = [] then "" else " in pattern " ++ Text.quote pattern

/-- The message of a refused inline expression. -/
def Rejection.message (expression pattern : Text) (reason : Rejection) : String :=
  let place := PatternError.wherePart pattern
  let about (what : String) := what ++ " in inline regex " ++ Text.quote expression ++ place
  match reason with
  | tooLong limit =>
    "Inline regex longer than " ++ String.ofList (Text.integer limit) ++ " characters" ++ place
  | malformed fault =>
    "Invalid inline regex " ++ Text.quote expression ++ place ++ ": " ++ fault.message expression
  | backreference => about "Backreference"
  | lookaround => about "Lookaround"
  | namedGroup => about "Named group"
  | conditional => about "Conditional group"
  | nestedUnbounded => about "Nested unbounded quantifier"
  | repeatedAlternation => about "Repeated alternation"

/-- The message of a refused pattern. -/
def PatternError.message : PatternError → String
  | unmatchedBrace i p =>
    "Unmatched '\x7d' at offset " ++ toString i ++ " in pattern " ++ Text.quote p
  | unclosedBrace i p =>
    "Unclosed '\x7b' at offset " ++ toString i ++ " in pattern " ++ Text.quote p
  | earlyTail body p =>
    "Tail segment \x7b" ++ String.ofList body ++ "\x7d* must be last in pattern " ++ Text.quote p
  | invalidName name p =>
    "Invalid parameter name " ++ Text.quote name ++ " in pattern " ++ Text.quote p
  | constrainedTail body p =>
    "Tail segment \x7b" ++ String.ofList body ++ "\x7d* cannot carry a regex in pattern " ++
      Text.quote p
  | emptyExpression name p =>
    "Empty regex for parameter " ++ Text.quote name ++ " in pattern " ++ Text.quote p
  | duplicateName name p =>
    "Duplicate capture name " ++ Text.quote name ++ " in pattern " ++ Text.quote p
  | rejected e p reason => reason.message e p
  | noPattern => "A resource needs at least one pattern."
  | earlyBoundary => "PrefixEnd must terminate the pattern."
  | unusable source fault =>
    "Pattern compiles to an invalid expression " ++ Text.quote source ++ ": " ++
      fault.message source

/-- Why a resource is not built. -/
inductive BuildFailure
  /-- A pattern is refused. -/
  | refused (error : PatternError)
  /-- An expression goes beyond a limit. -/
  | limit (fault : Regex.Fault)
  /-- A scan of an expression saw more parentheses closed than opened. -/
  | closedTooOften
  /-- A scan of an expression saw a bracket class that does not end. -/
  | unendedClass
  deriving DecidableEq

/-- The message of a failure. -/
def BuildFailure.message : BuildFailure → String
  | refused error => error.message
  | limit fault => fault.message []
  | closedTooOften => "list index out of range"
  | unendedClass => "string index out of range"

end PathRouter

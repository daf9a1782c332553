import PathRouter.Regex.Syntax
import PathRouter.Text.Quoted

/-!
# Faults of expressions

Why a text is not an expression. A fault is located by the number of characters that are left from
the place it concerns to the end of the expression, so that a reader needs no running position.
-/

namespace PathRouter.Regex
set_option autoImplicit false

/-- What is wrong with an expression. -/
inductive Complaint
  | danglingBackslash
  | badEscape (escape : Text)
  | incompleteEscape (escape : Text)
  | octalTooLarge (escape : Text)
  | missingNameBrace
  | missingName (what : String)
  | unterminatedName (terminator : Char)
  | undefinedCharacter (name : Text)
  | badGroupName (name : Text)
  | unknownGroup (name : Text)
  | redefinedGroup (name : Text) (group old : Nat)
  | openGroup
  | lookbehindGroup
  | invalidGroup (group : Nat)
  | groupZero
  | unterminatedSet
  | badRange (low high : Text)
  | reversedBounds
  | nothingToRepeat
  | multipleRepeat
  | unexpectedEnd
  | unknownExtension (text : Text)
  | unterminatedComment
  | unterminatedGroup
  | tooManyBranches
  | lateGlobalFlags
  | localeFlag
  | charsetClash
  | charsetOff
  | unknownFlag
  | missingFlagEnd
  | missingFlag
  | missingColon
  | globalFlagOn
  | globalFlagOff
  | flagOnAndOff
  | unbalancedParenthesis
  | templateRepeat (mode : Mode)
  | lookbehindWidth
  deriving DecidableEq

/-- Why an expression cannot be used. -/
inductive Fault
  /-- The expression is malformed; `left` characters remain from the place of the fault, if it has
  one. -/
  | malformed (complaint : Complaint) (left : Option Nat)
  /-- A bound of a quantifier is beyond the largest count. -/
  | countTooLarge
  /-- A numeral has too many digits to be read. -/
  | numeralTooLong (digits : Nat)
  /-- A numeric escape is beyond the numbers that are asked whether they are code points. -/
  | codeTooLarge
  /-- Both character sets are asked for. -/
  | charsetConflict
  /-- A look behind is wider than a program can hold. -/
  | programTooLarge
  deriving DecidableEq

namespace Mode

/-- The name of the quantifier in a complaint. -/
def name : Mode → String
  | greedy => "MAX_REPEAT"
  | lazy => "MIN_REPEAT"
  | possessive => "POSSESSIVE_REPEAT"

end Mode

/-- The wording of a complaint. -/
def Complaint.text : Complaint → String
  | danglingBackslash => "bad escape (end of pattern)"
  | badEscape e => "bad escape " ++ String.ofList e
  | incompleteEscape e => "incomplete escape " ++ String.ofList e
  | octalTooLarge e => "octal escape value " ++ String.ofList e ++ " outside of range 0-0o377"
  | missingNameBrace => "missing \x7b"
  | missingName what => "missing " ++ what
  | unterminatedName t => "missing " ++ String.ofList [t] ++ ", unterminated name"
  | undefinedCharacter name => "undefined character name " ++ Text.quote name
  | badGroupName name => "bad character in group name " ++ Text.quote name
  | unknownGroup name => "unknown group name " ++ Text.quote name
  | redefinedGroup name group old =>
    "redefinition of group name " ++ Text.quote name ++ " as group " ++ toString group ++
      "; was group " ++ toString old
  | openGroup => "cannot refer to an open group"
  | lookbehindGroup => "cannot refer to group defined in the same lookbehind subpattern"
  | invalidGroup group => "invalid group reference " ++ toString group
  | groupZero => "bad group number"
  | unterminatedSet => "unterminated character set"
  | badRange low high =>
    "bad character range " ++ String.ofList low ++ "-" ++ String.ofList high
  | reversedBounds => "min repeat greater than max repeat"
  | nothingToRepeat => "nothing to repeat"
  | multipleRepeat => "multiple repeat"
  | unexpectedEnd => "unexpected end of pattern"
  | unknownExtension t => "unknown extension ?" ++ String.ofList t
  | unterminatedComment => "missing ), unterminated comment"
  | unterminatedGroup => "missing ), unterminated subpattern"
  | tooManyBranches => "conditional backref with more than two branches"
  | lateGlobalFlags => "global flags not at the start of the expression"
  | localeFlag => "bad inline flags: cannot use 'L' flag with a str pattern"
  | charsetClash => "bad inline flags: flags 'a', 'u' and 'L' are incompatible"
  | charsetOff => "bad inline flags: cannot turn off flags 'a', 'u' and 'L'"
  | unknownFlag => "unknown flag"
  | missingFlagEnd => "missing -, : or )"
  | missingFlag => "missing flag"
  | missingColon => "missing :"
  | globalFlagOn => "bad inline flags: cannot turn on global flag"
  | globalFlagOff => "bad inline flags: cannot turn off global flag"
  | flagOnAndOff => "bad inline flags: flag turned on and off"
  | unbalancedParenthesis => "unbalanced parenthesis"
  | templateRepeat mode => "internal: unsupported template operator " ++ mode.name
  | lookbehindWidth => "look-behind requires fixed-width pattern"

/-- Where a fault is, in words. Lines are counted only in an expression of several lines. -/
def placeText (expression : Text) (left : Nat) : String :=
  let position := expression.length - left
  let before := expression.take position
  let column := (before.reverse.takeWhile (· ≠ '\n')).length + 1
  " at position " ++ toString position ++
    if '\n' ∈ expression then
      " (line " ++ toString (before.count '\n' + 1) ++ ", column " ++ toString column ++ ")"
    else ""

/-- The message of a fault found in `expression`. -/
def Fault.message (expression : Text) : Fault → String
  | malformed complaint left => complaint.text ++ (left.map (placeText expression)).getD ""
  | countTooLarge => "the repetition number is too large"
  | numeralTooLong digits =>
    "Exceeds the limit (4300 digits) for integer string conversion: value has " ++
      toString digits ++ " digits; use sys.set_int_max_str_digits() to increase the limit"
  | codeTooLarge => "Python int too large to convert to C int"
  | charsetConflict => "ASCII and UNICODE flags are incompatible"
  | programTooLarge => "invalid SRE code"

/-- The fault lies in the expression itself and not in a limit. -/
def Fault.isMalformed : Fault → Bool
  | malformed _ _ => true
  | _ => false

end PathRouter.Regex

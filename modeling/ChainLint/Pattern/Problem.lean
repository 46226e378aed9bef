import ChainLint.Pattern.Regex
import ChainLint.Text.Quoted

/-!
# What can be wrong with a pattern

Every way in which the text of a pattern fails to be an expression is a `Problem`, worded by
`Problem.message`. A `Rejection` is a problem at a position, or one of the few failures that are not
about the form of the text but about a number or a combination of flags that cannot be used.
-/

namespace ChainLint.Pattern

open ChainLint.Text

/-- What kind of name is missing. -/
inductive NameKind where
  | group
  | character
  deriving Repr, DecidableEq

/-- The wording of a kind of name. -/
def NameKind.noun : NameKind → String
  | .group => "group name"
  | .character => "character name"

/-- A fault in the form of a pattern. -/
inductive Problem where
  | danglingEscape
  | badEscape (escape : String)
  | incompleteEscape (escape : String)
  | octalTooLarge (escape : String)
  | missingBrace
  | missingName (kind : NameKind)
  | unterminatedName (terminator : Char)
  | undefinedCharacter (name : String)
  | openGroup
  | groupOfSameLookbehind
  | noSuchGroup (group : Nat)
  | unterminatedSet
  | badRange (low high : String)
  | nothingToRepeat
  | multipleRepeat
  | leastOverMost
  | unexpectedEnd
  | badGroupName (name : String)
  | unknownGroupName (name : String)
  | redefinedGroup (name : String) (group earlier : Nat)
  | badGroupNumber
  | unknownExtension (text : String)
  | unterminatedComment
  | unterminatedGroup
  | thirdBranch
  | misplacedFlags
  | localeFlag
  | alphabetFlags
  | unknownFlag
  | flagsUnfinished
  | missingFlag
  | missingColon
  | globalFlagOn
  | globalFlagOff
  | alphabetFlagOff
  | flagOnAndOff
  | unbalanced
  | lookbehindWidth
  | templateRepeat (appetite : Appetite)
  deriving Repr, DecidableEq

/-- The operator that a template refuses. -/
def Appetite.operator : Appetite → String
  | .greedy => "MAX_REPEAT"
  | .lazy => "MIN_REPEAT"
  | .possessive => "POSSESSIVE_REPEAT"

/-- The wording of a problem. -/
def Problem.message : Problem → String
  | .danglingEscape => "bad escape (end of pattern)"
  | .badEscape e => "bad escape " ++ e
  | .incompleteEscape e => "incomplete escape " ++ e
  | .octalTooLarge e => "octal escape value " ++ e ++ " outside of range 0-0o377"
  | .missingBrace => "missing \x7b"
  | .missingName kind => "missing " ++ kind.noun
  | .unterminatedName t => "missing " ++ String.singleton t ++ ", unterminated name"
  | .undefinedCharacter name => "undefined character name " ++ Quoted.quote name
  | .openGroup => "cannot refer to an open group"
  | .groupOfSameLookbehind => "cannot refer to group defined in the same lookbehind subpattern"
  | .noSuchGroup g => "invalid group reference " ++ toString g
  | .unterminatedSet => "unterminated character set"
  | .badRange low high => "bad character range " ++ low ++ "-" ++ high
  | .nothingToRepeat => "nothing to repeat"
  | .multipleRepeat => "multiple repeat"
  | .leastOverMost => "min repeat greater than max repeat"
  | .unexpectedEnd => "unexpected end of pattern"
  | .badGroupName name => "bad character in group name " ++ Quoted.quote name
  | .unknownGroupName name => "unknown group name " ++ Quoted.quote name
  | .redefinedGroup name g earlier =>
    "redefinition of group name " ++ Quoted.quote name ++ " as group " ++ toString g ++
      "; was group " ++ toString earlier
  | .badGroupNumber => "bad group number"
  | .unknownExtension text => "unknown extension " ++ text
  | .unterminatedComment => "missing ), unterminated comment"
  | .unterminatedGroup => "missing ), unterminated subpattern"
  | .thirdBranch => "conditional backref with more than two branches"
  | .misplacedFlags => "global flags not at the start of the expression"
  | .localeFlag => "bad inline flags: cannot use 'L' flag with a str pattern"
  | .alphabetFlags => "bad inline flags: flags 'a', 'u' and 'L' are incompatible"
  | .unknownFlag => "unknown flag"
  | .flagsUnfinished => "missing -, : or )"
  | .missingFlag => "missing flag"
  | .missingColon => "missing :"
  | .globalFlagOn => "bad inline flags: cannot turn on global flag"
  | .globalFlagOff => "bad inline flags: cannot turn off global flag"
  | .alphabetFlagOff => "bad inline flags: cannot turn off flags 'a', 'u' and 'L'"
  | .flagOnAndOff => "bad inline flags: flag turned on and off"
  | .unbalanced => "unbalanced parenthesis"
  | .lookbehindWidth => "look-behind requires fixed-width pattern"
  | .templateRepeat a => "internal: unsupported template operator " ++ a.operator

/-- Why a text is not accepted as a pattern. -/
inductive Rejection where
  /-- The text is not well formed; the position counts characters. -/
  | malformed (problem : Problem) (position : Option Nat)
  /-- A repetition count does not fit its field. -/
  | countTooLarge
  /-- An eight digit escape does not fit its field. -/
  | escapeTooLarge
  /-- A repetition count has more decimal digits than numbers may have. -/
  | countTooLong (digits : Nat)
  /-- Flags that choose different alphabets for the whole pattern. -/
  | alphabetConflict
  /-- Groups are nested too deep for the stack. -/
  | tooDeep
  deriving Repr, DecidableEq

/-- Where a problem is: its position, and in a text of several lines the line and the column too. -/
def place (text : List Char) (position : Nat) : String :=
  let before := text.take position
  let line := before.count '\n' + 1
  let column := (before.reverse.takeWhile (· ≠ '\n')).length + 1
  " at position " ++ toString position ++
    (if text.contains '\n' then
      " (line " ++ toString line ++ ", column " ++ toString column ++ ")"
    else "")

/-- The wording of a problem in the pattern `text`. -/
def Problem.render (problem : Problem) (position : Option Nat) (text : List Char) : String :=
  match position with
  | some p => problem.message ++ place text p
  | none => problem.message

end ChainLint.Pattern

/-
Why a text is no pattern. A refusal has a reason and, but for a few, a place; `Refusal.message` says both.
-/
import ChangeLint.Number.Text
import ChangeLint.Text.Quoted

namespace ChangeLint.Pattern

inductive Reason
  | danglingEscape
  | badEscape (escape : String)
  | incompleteEscape (escape : String)
  | octalTooGreat (escape : String)
  | missingBrace
  | missingName (what : String)
  | unterminatedName (closing : Char)
  | unknownCharacter (name : String)
  | badName (name : String)
  | nameTaken (name : String) (group former : Nat)
  | unknownGroup (name : String)
  | badGroupNumber
  | invalidReference (group : Nat)
  | openGroup
  | groupOfLookBehind
  | tooManyGroups
  | unterminatedSet
  | badRange (first last : String)
  | nothingToRepeat
  | repeatedTwice
  | leastAboveMost
  | endOfPattern
  | unknownExtension (text : String)
  | unterminatedComment
  | unterminatedGroup
  | tooManyBranches
  | lateFlags
  | localeFlag
  | alphabetsTogether
  | alphabetOff
  | globalFlagOn
  | globalFlagOff
  | flagOnAndOff
  | unknownFlag
  | missing (what : String)
  | unbalanced
  | looseLookBehind
  | farLookBehind
  | templateRepeat (kind : String)
deriving DecidableEq, Repr

def Reason.message : Reason → String
  | .danglingEscape => "bad escape (end of pattern)"
  | .badEscape e => "bad escape " ++ e
  | .incompleteEscape e => "incomplete escape " ++ e
  | .octalTooGreat e => "octal escape value " ++ e ++ " outside of range 0-0o377"
  | .missingBrace => "missing \x7b"
  | .missingName what => "missing " ++ what
  | .unterminatedName c => "missing " ++ c.toString ++ ", unterminated name"
  | .unknownCharacter n => "undefined character name " ++ Text.quote n
  | .badName n => "bad character in group name " ++ Text.quote n
  | .nameTaken n g o => "redefinition of group name " ++ Text.quote n ++ s!" as group {g}; was group {o}"
  | .unknownGroup n => "unknown group name " ++ Text.quote n
  | .badGroupNumber => "bad group number"
  | .invalidReference g => s!"invalid group reference {g}"
  | .openGroup => "cannot refer to an open group"
  | .groupOfLookBehind => "cannot refer to group defined in the same lookbehind subpattern"
  | .tooManyGroups => "too many groups"
  | .unterminatedSet => "unterminated character set"
  | .badRange a b => "bad character range " ++ a ++ "-" ++ b
  | .nothingToRepeat => "nothing to repeat"
  | .repeatedTwice => "multiple repeat"
  | .leastAboveMost => "min repeat greater than max repeat"
  | .endOfPattern => "unexpected end of pattern"
  | .unknownExtension t => "unknown extension " ++ t
  | .unterminatedComment => "missing ), unterminated comment"
  | .unterminatedGroup => "missing ), unterminated subpattern"
  | .tooManyBranches => "conditional backref with more than two branches"
  | .lateFlags => "global flags not at the start of the expression"
  | .localeFlag => "bad inline flags: cannot use 'L' flag with a str pattern"
  | .alphabetsTogether => "bad inline flags: flags 'a', 'u' and 'L' are incompatible"
  | .alphabetOff => "bad inline flags: cannot turn off flags 'a', 'u' and 'L'"
  | .globalFlagOn => "bad inline flags: cannot turn on global flag"
  | .globalFlagOff => "bad inline flags: cannot turn off global flag"
  | .flagOnAndOff => "bad inline flags: flag turned on and off"
  | .unknownFlag => "unknown flag"
  | .missing what => "missing " ++ what
  | .unbalanced => "unbalanced parenthesis"
  | .looseLookBehind => "look-behind requires fixed-width pattern"
  | .farLookBehind => "looks too much behind"
  | .templateRepeat kind => "internal: unsupported template operator " ++ kind

/-- why a text is no pattern: it is malformed, a number or a choice of options in it is out of bounds, or it is nested too
deep -/
inductive Refusal
  | malformed (reason : Reason) (place : Option Nat)
  | tooManyTimes
  | tooLong (e : Number.TooLong)
  | twoAlphabets
  | tooDeep (message : String)
deriving DecidableEq, Repr

/-- a place in words; in a text of several lines also by line and column -/
def showPlace (text : List Char) (n : Nat) : String :=
  let before := text.take n
  let row := before.count '\n' + 1
  let column := (before.reverse.takeWhile (· != '\n')).length + 1
  s!" at position {n}" ++ (if text.contains '\n' then s!" (line {row}, column {column})" else "")

def Refusal.message (text : List Char) : Refusal → String
  | .malformed r none => r.message
  | .malformed r (some n) => r.message ++ showPlace text n
  | .tooManyTimes => "the repetition number is too large"
  | .tooLong e => e.message
  | .twoAlphabets => "ASCII and UNICODE flags are incompatible"
  | .tooDeep m => m

end ChangeLint.Pattern

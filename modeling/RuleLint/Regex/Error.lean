/-
RuleLint/Regex/Error.lean

What can be wrong with the text of a regular expression, and how it is said.  A fault of
the text is said with its place, and with line and column when the pattern has several
lines.
-/
import RuleLint.Text.Quoted

namespace RuleLint.Regex

open RuleLint.Text

/-- Causes for which the text of a pattern is refused. -/
inductive Cause where
  | escapeAtEnd
  | badEscape (text : String)
  | incompleteEscape (text : String)
  | octalTooLarge (text : String)
  | missingBrace
  | missingName (what : String)
  | unterminatedName (closing : String)
  | undefinedName (name : String)
  | openGroup
  | lookbehindGroup
  | invalidReference (group : Nat)
  | unterminatedSet
  | badRange (low high : String)
  | repeatBounds
  | nothingToRepeat
  | multipleRepeat
  | patternEnds
  | unknownExtension (text : String)
  | badGroupName (name : String)
  | unknownGroupName (name : String)
  | redefinedGroup (name : String) (id previous : Nat)
  | badGroupNumber
  | unterminatedComment
  | unterminatedGroup
  | tooManyBranches
  | flagsNotAtStart
  | localeFlag
  | flagsClash
  | missingFlagsEnd
  | unknownFlag
  | globalFlagOn
  | missingFlag
  | alphabetFlagOff
  | missingColon
  | globalFlagOff
  | flagOnAndOff
  | unbalanced
deriving Repr, BEq

/-- The words for a cause. -/
def Cause.message : Cause → String
  | .escapeAtEnd => "bad escape (end of pattern)"
  | .badEscape text => "bad escape " ++ text
  | .incompleteEscape text => "incomplete escape " ++ text
  | .octalTooLarge text => "octal escape value " ++ text ++ " outside of range 0-0o377"
  | .missingBrace => "missing \x7b"
  | .missingName what => "missing " ++ what
  | .unterminatedName closing => "missing " ++ closing ++ ", unterminated name"
  | .undefinedName name => "undefined character name " ++ quoted name
  | .openGroup => "cannot refer to an open group"
  | .lookbehindGroup => "cannot refer to group defined in the same lookbehind subpattern"
  | .invalidReference group => "invalid group reference " ++ toString group
  | .unterminatedSet => "unterminated character set"
  | .badRange low high => "bad character range " ++ low ++ "-" ++ high
  | .repeatBounds => "min repeat greater than max repeat"
  | .nothingToRepeat => "nothing to repeat"
  | .multipleRepeat => "multiple repeat"
  | .patternEnds => "unexpected end of pattern"
  | .unknownExtension text => "unknown extension ?" ++ text
  | .badGroupName name => "bad character in group name " ++ quoted name
  | .unknownGroupName name => "unknown group name " ++ quoted name
  | .redefinedGroup name id previous =>
    "redefinition of group name " ++ quoted name ++ " as group " ++ toString id ++
      "; was group " ++ toString previous
  | .badGroupNumber => "bad group number"
  | .unterminatedComment => "missing ), unterminated comment"
  | .unterminatedGroup => "missing ), unterminated subpattern"
  | .tooManyBranches => "conditional backref with more than two branches"
  | .flagsNotAtStart => "global flags not at the start of the expression"
  | .localeFlag => "bad inline flags: cannot use 'L' flag with a str pattern"
  | .flagsClash => "bad inline flags: flags 'a', 'u' and 'L' are incompatible"
  | .missingFlagsEnd => "missing -, : or )"
  | .unknownFlag => "unknown flag"
  | .globalFlagOn => "bad inline flags: cannot turn on global flag"
  | .missingFlag => "missing flag"
  | .alphabetFlagOff => "bad inline flags: cannot turn off flags 'a', 'u' and 'L'"
  | .missingColon => "missing :"
  | .globalFlagOff => "bad inline flags: cannot turn off global flag"
  | .flagOnAndOff => "bad inline flags: flag turned on and off"
  | .unbalanced => "unbalanced parenthesis"

/-- What can be wrong with a pattern. -/
inductive Error where
  /-- The text is refused at a place. -/
  | text (cause : Cause) (source : List Char) (place : Nat)
  /-- A look-behind has no fixed width. -/
  | lookbehindWidth
  /-- Repeats are not allowed in a template. -/
  | templateRepeat (kind : String)
  /-- A number of rounds is out of range. -/
  | tooManyRounds
  /-- Both alphabets are asked for. -/
  | alphabets
deriving Repr, BEq

/-- The line of a place (from 1) and its column (from 1). -/
def lineColumn (source : List Char) (place : Nat) : Nat × Nat :=
  let before := source.take place
  (before.count '\n' + 1, (before.reverse.takeWhile (· != '\n')).length + 1)

/-- The words for what is wrong with a pattern. -/
def Error.message : Error → String
  | .text cause source place =>
    let said := cause.message ++ " at position " ++ toString place
    if source.contains '\n' then
      let (line, column) := lineColumn source place
      said ++ " (line " ++ toString line ++ ", column " ++ toString column ++ ")"
    else said
  | .lookbehindWidth => "look-behind requires fixed-width pattern"
  | .templateRepeat kind => "internal: unsupported template operator " ++ kind
  | .tooManyRounds => "the repetition number is too large"
  | .alphabets => "ASCII and UNICODE flags are incompatible"

end RuleLint.Regex

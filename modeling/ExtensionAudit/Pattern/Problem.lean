import ExtensionAudit.Fault
import ExtensionAudit.Text.Quoted

/-!
# Malformed patterns

What can be wrong with the text of a regular expression, and the words for it.  Most
problems have a place.  When the text has several lines, the words give the line and
the column as well.
-/

namespace ExtensionAudit.Pattern

/-- What is wrong with the text of a pattern. -/
inductive Problem where
  /-- A backslash ends the text. -/
  | escapeAtEnd
  /-- A backslash before a character that has no such escape. -/
  | badEscape (escape : Text)
  /-- An escape by number with too few digits. -/
  | shortEscape (escape : Text)
  /-- An octal escape above the range of a byte. -/
  | octalRange (escape : Text)
  /-- A brace must follow the escape for a named character. -/
  | noBrace
  /-- A name must stand here. -/
  | noName (what : String)
  /-- A name is not closed. -/
  | openName (closing : Char)
  /-- No character has this name. -/
  | noSuchCharacter (name : Text)
  /-- A reference to a group that is still open. -/
  | openGroup
  /-- A reference to a group of the same look behind. -/
  | sameLookBehind
  /-- A reference to a group that does not exist. -/
  | noSuchGroup (n : Nat)
  /-- A set of characters is not closed. -/
  | openSet
  /-- A range whose ends are no two characters in order. -/
  | badRange (first last : Text)
  /-- A repetition whose lower count exceeds the upper one. -/
  | countsCrossed
  /-- A repetition of nothing. -/
  | nothingToRepeat
  /-- A repetition of a repetition. -/
  | repeatedRepeat
  /-- The text ends where a group's kind must be named. -/
  | endOfPattern
  /-- A name that is no name. -/
  | badName (name : Text)
  /-- No group has this name. -/
  | unknownName (name : Text)
  /-- A name given twice. -/
  | nameTaken (name : Text) (index earlier : Nat)
  /-- No kind of group starts so. -/
  | unknownKind (text : Text)
  /-- A comment is not closed. -/
  | openComment
  /-- A group is not closed. -/
  | unclosedGroup
  /-- A group is closed that is not open. -/
  | unbalanced
  /-- The number zero names no group. -/
  | groupZero
  /-- A choice by group with three branches. -/
  | thirdBranch
  /-- Flags for the whole pattern that do not stand first. -/
  | lateFlags
  /-- The flag for locales. -/
  | localeFlag
  /-- Two flags that exclude each other. -/
  | clashingFlags
  /-- The flags must end here. -/
  | flagsUnclosed
  /-- No such flag. -/
  | unknownFlag
  /-- A flag for the whole pattern turned on for a part. -/
  | wholeFlagOn
  /-- A flag must follow. -/
  | noFlag
  /-- A flag that cannot be turned off. -/
  | fixedFlagOff
  /-- A colon must follow. -/
  | noColon
  /-- A flag for the whole pattern turned off for a part. -/
  | wholeFlagOff
  /-- A flag both on and off. -/
  | flagOnAndOff
  /-- A look behind without one width. -/
  | behindNotFixed
  /-- A repetition in a template. -/
  | templateRepeat (word : String)
deriving DecidableEq, Repr

/-- The words for a problem. -/
def Problem.message : Problem → String
  | .escapeAtEnd => "bad escape (end of pattern)"
  | .badEscape e => "bad escape " ++ String.ofList e
  | .shortEscape e => "incomplete escape " ++ String.ofList e
  | .octalRange e => "octal escape value " ++ String.ofList e ++ " outside of range 0-0o377"
  | .noBrace => "missing \x7b"
  | .noName what => "missing " ++ what
  | .openName c => "missing " ++ String.ofList [c] ++ ", unterminated name"
  | .noSuchCharacter n => "undefined character name " ++ String.ofList (Text.quotedText n)
  | .openGroup => "cannot refer to an open group"
  | .sameLookBehind => "cannot refer to group defined in the same lookbehind subpattern"
  | .noSuchGroup n => s!"invalid group reference {n}"
  | .openSet => "unterminated character set"
  | .badRange a b => "bad character range " ++ String.ofList a ++ "-" ++ String.ofList b
  | .countsCrossed => "min repeat greater than max repeat"
  | .nothingToRepeat => "nothing to repeat"
  | .repeatedRepeat => "multiple repeat"
  | .endOfPattern => "unexpected end of pattern"
  | .badName n => "bad character in group name " ++ String.ofList (Text.quotedText n)
  | .unknownName n => "unknown group name " ++ String.ofList (Text.quotedText n)
  | .nameTaken n index earlier =>
      "redefinition of group name " ++ String.ofList (Text.quotedText n) ++
        s!" as group {index}; was group {earlier}"
  | .unknownKind t => "unknown extension ?" ++ String.ofList t
  | .openComment => "missing ), unterminated comment"
  | .unclosedGroup => "missing ), unterminated subpattern"
  | .unbalanced => "unbalanced parenthesis"
  | .groupZero => "bad group number"
  | .thirdBranch => "conditional backref with more than two branches"
  | .lateFlags => "global flags not at the start of the expression"
  | .localeFlag => "bad inline flags: cannot use 'L' flag with a str pattern"
  | .clashingFlags => "bad inline flags: flags 'a', 'u' and 'L' are incompatible"
  | .flagsUnclosed => "missing -, : or )"
  | .unknownFlag => "unknown flag"
  | .wholeFlagOn => "bad inline flags: cannot turn on global flag"
  | .noFlag => "missing flag"
  | .fixedFlagOff => "bad inline flags: cannot turn off flags 'a', 'u' and 'L'"
  | .noColon => "missing :"
  | .wholeFlagOff => "bad inline flags: cannot turn off global flag"
  | .flagOnAndOff => "bad inline flags: flag turned on and off"
  | .behindNotFixed => "look-behind requires fixed-width pattern"
  | .templateRepeat word => "internal: unsupported template operator " ++ word

/-- Why a text is no pattern. -/
inductive Refusal where
  /-- The text is malformed, at a place or as a whole. -/
  | malformed (p : Problem) (place : Option Nat)
  /-- A repetition count beyond what can be counted. -/
  | countTooLarge
  /-- A repetition count with too many digits. -/
  | countTooLong
  /-- Flags for the whole pattern that exclude each other. -/
  | flagClash
  /-- Groups that nest too deeply. -/
  | tooNested
  /-- A look behind that is too wide to step back by. -/
  | behindTooFar
deriving DecidableEq, Repr

/-- The fault of a text that is refused without being malformed. -/
def Refusal.fault? : Refusal → Option Fault
  | .malformed .. => none
  | .countTooLarge => some .overflow
  | .countTooLong => some .badValue
  | .flagClash => some .badValue
  | .tooNested => some .tooDeep
  | .behindTooFar => some .noProgram

/-- The words for a problem at a place of a text. -/
def Problem.messageAt (p : Problem) (source : Text) : Option Nat → String
  | none => p.message
  | some place =>
      let words := s!"{p.message} at position {place}"
      if source.contains '\n' then
        let before := source.take place
        let line := before.count '\n' + 1
        let column := (before.reverse.takeWhile (· != '\n')).length + 1
        words ++ s!" (line {line}, column {column})"
      else words

end ExtensionAudit.Pattern

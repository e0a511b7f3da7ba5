import ExtensionAudit.Text.Basic
import ExtensionAudit.Text.Blank

/-!
# Suppression directives

A comment can silence a check for its own line and for the line after it.  The directive is
the word `ego-lint-ignore`, which `-next-line` may follow.  A colon and a word name the one
check that is silenced; without them all checks are.  Only the first directive of a line
counts.
-/

namespace ExtensionAudit.Suppression

/-- The word that starts a directive. -/
def keyword : Text := "ego-lint-ignore".toList

/-- The ending that asks for the next line. -/
def nextLine : Text := "-next-line".toList

/-- The word after a colon and blanks. -/
def named? : Text → Option Text
  | ':' :: rest =>
      let word := (rest.dropWhile Text.isBlank).takeWhile fun c => !Text.isBlank c
      if word.isEmpty then none else some word
  | _ => none

/-- The directive of a line: what it names, if it names anything. -/
def directive? (line : Text) : Option (Option Text) :=
  (Text.breakOn keyword line).map fun (_, rest) =>
    named? (if nextLine.isPrefixOf rest then rest.drop nextLine.length else rest)

/-- A line's directive silences a check.  A check without a name of its own is silenced only by
a directive for all checks. -/
def silences (line : Text) (check : Option Text) : Bool :=
  match directive? line with
  | none => false
  | some none => true
  | some (some name) => check == some name

/-- A finding of a rule on a line is silenced by the line itself or by the line before it. -/
def isSuppressed (line previous : Text) (check : Option Text) : Bool :=
  silences line check || silences previous check

/-- A finding of a check of the scripts is silenced by one of two lines: its own, and the one
before it. -/
def isExcused (line check previous : Text) : Bool :=
  [line, previous].any fun l => silences l (some check)

end ExtensionAudit.Suppression

import ExtensionAudit.Text.Basic
import ExtensionAudit.Text.Blank

/-!
# Comments

A block comment runs from `/*` to the next `*/` that lies wholly after it.  One that is never
closed is no comment.  A line comment runs from `//` to the end of its line.

`code` takes the comments out of a script: first all block comments, then all line comments.
Quotes are not looked at, so a comment mark inside a string counts as one.
-/

namespace ExtensionAudit.Source

/-- What follows the end of a block comment, if the comment ends. -/
def afterComment? : Text → Option Text
  | [] => none
  | '*' :: '/' :: rest => some rest
  | _ :: rest => afterComment? rest

/-- What follows a block comment is shorter than the comment and what follows it. -/
theorem length_of_afterComment? {t after : Text} (h : afterComment? t = some after) :
    after.length < t.length := by
  fun_induction afterComment? t with
  | case1 => simp at h
  | case2 rest =>
      cases h
      simp only [List.length_cons]
      omega
  | case3 c rest _ ih =>
      have := ih h
      simp only [List.length_cons]
      omega

/-- The text without its block comments. -/
def dropBlocks : Text → Text
  | [] => []
  | '/' :: '*' :: rest =>
      match _h : afterComment? rest with
      | some after => dropBlocks after
      | none => '/' :: '*' :: rest
  | c :: rest => c :: dropBlocks rest
termination_by t => t.length
decreasing_by
  · have := length_of_afterComment? _h
    simp
    omega
  · simp

/-- The text without its line comments. -/
def dropLineComments : Text → Text
  | [] => []
  | '/' :: '/' :: rest => dropLineComments (rest.dropWhile (· != '\n'))
  | c :: rest => c :: dropLineComments rest
termination_by t => t.length
decreasing_by
  · have := (List.dropWhile_suffix (l := rest) (· != '\n')).length_le
    simp
    omega
  · simp

/-- A script without its comments. -/
def code (t : Text) : Text :=
  dropLineComments (dropBlocks t)

/-- The line is a line comment, or goes on with a block comment in the usual layout. -/
def isCommentLine (line : Text) : Bool :=
  let t := Text.trimFront line
  ['/', '/'].isPrefixOf t || ['*'].isPrefixOf t

end ExtensionAudit.Source

import ExtensionAudit.Layout
import ExtensionAudit.Number

/-!
# The linter of an extension

An extension may bring a linter along, which is then run on it.  Its exit status decides, and
where that says no more than that something is wrong, the numbers of errors and of warnings in
what it prints.  If one of the numbers is missing, the whole audit breaks off.
-/

namespace ExtensionAudit.Linter

/-- The file that says how the linter is set up. -/
def configuration : Path := ["eslint.config.mjs"]

/-- The linter. -/
def program : Path := ["node_modules", ".bin", "eslint"]

/-- The extension brings a linter along.  A directory in its place passes for one. -/
def isThere (ext : Extension) : Bool :=
  ext.isFile configuration &&
    (Layout.mayExecute ext.volume (ext.base ++ program) || ext.isDir program)

/-- The numbers right before a word in a text, where some digits have just been read. -/
def countsFrom (word digits : Text) : Text → List Text
  | [] => []
  | c :: rest =>
      if c.isDigit then countsFrom word (digits ++ [c]) rest
      else if !digits.isEmpty && word.isPrefixOf (c :: rest) then
        digits :: countsFrom word [] rest
      else countsFrom word [] rest

/-- The last number right before a word in a text, as far as a search for such numbers shows it. -/
def lastCount? (m : Machine) (word : String) (printed : Text) : Option Text :=
  let counts := countsFrom word.toList []
  let rows := m.shownRows (fun row => !(counts row).isEmpty)
    (Machine.handedOn (Text.encode printed))
  (rows.flatMap fun (_, row) => counts row).getLast?

/-- What is said of an answer of the linter. -/
def judged? (m : Machine) (answer : Answer) : Option Finding :=
  if answer.status == 0 then some ⟨.pass, "eslint", "No errors"⟩
  else if answer.status == 2 then
    some ⟨.warn, "eslint", "ESLint configuration error (exit code 2)"⟩
  else do
    let errors ← lastCount? m " error" answer.printed
    let warnings ← lastCount? m " warning" answer.printed
    let counted := String.ofList warnings ++ " warning(s)"
    if (Number.word? errors).any (0 < ·) then
      return ⟨.fail, "eslint", String.ofList errors ++ " error(s), " ++ counted⟩
    else return ⟨.warn, "eslint", counted⟩

/-- The finding of the linter of an extension, or nothing if the audit breaks off. -/
def finding? (ext : Extension) : Option Finding :=
  let m := ext.volume.machine
  if isThere ext then judged? m (m.linter ext.volume.root ext.base)
  else some ⟨.skip, "eslint", "No eslint.config.mjs or node_modules/.bin/eslint found"⟩

end ExtensionAudit.Linter

import ExtensionAudit.Quality.Volume
import ExtensionAudit.Suppression
import ExtensionAudit.Text.Case

/-!
# Habits

Checks on how the code is written: leftovers of tests, private interfaces, names, indentation,
and signs of work by hand.
-/

namespace ExtensionAudit.Quality

/-! ## Leftovers of tests -/

/-- The name of a file belongs to tests. -/
def isTestName (name : String) : Bool :=
  let t := Text.lower name.toList
  ["mock", "test", "spec"].any (·.toList.isPrefixOf t) ||
    [".test.js", ".spec.js"].any fun ending => Text.endsIn ending.toList t

/-- A dynamic import inside a protected block. -/
def guardedImport : Pattern :=
  Pattern.of "try\\s*\\\x7b[^\x7d]*import\\s*\\([^\x7d]*\\\x7d\\s*catch" { dotAll := true }

/-- A switch that turns imitations on. -/
def mockSwitch : Pattern :=
  Pattern.of "use_mock|mock_trigger|MOCK_MODE|\\.mock\\b" { anyCase := true }

/-- The lines of a text that the pattern finds and no directive silences, by number.  `previous`
is the line before the first. -/
def loudLines (p : Pattern) (check : String) (n : Nat) (previous : Text) :
    List Text → List Nat
  | [] => []
  | line :: rest =>
      let more := loudLines p check (n + 1) line rest
      if p.found line && !Suppression.isExcused line check.toList previous then n :: more
      else more

/-- The numbers of the lines that turn imitations on. -/
def mockLines (t : Text) : List Nat :=
  if guardedImport.found t then []
  else loudLines mockSwitch "quality/mock-in-production" 1 [] (Text.lines t)

/-- Reports files of tests and switches for imitations.  A file that the packaging script names
is taken to be left out of the package. -/
def checkMockInProduction (ext : Extension) : Check Unit := do
  let texts ← ext.texts ext.scripts
  let script : Path := ["package.sh"]
  let packaging ← if ext.isFile script then ext.text script else pure []
  let files := (texts.map (·.1)).filter fun p =>
    isTestName p.name && (packaging.isEmpty || !Text.occursIn p.name.toList packaging)
  let switches := texts.flatMap fun (p, t) => (mockLines t).map p.atLine
  Trace.each files fun p =>
    Check.warn "quality/mock-in-production"
      s!"{p.shown}: mock/test file should not ship in production extension"
  Trace.each switches fun place =>
    Check.warn "quality/mock-in-production"
      s!"{place}: runtime mock trigger detected — remove for production"
  if files.isEmpty && switches.isEmpty then
    Check.pass "quality/mock-in-production" "No mock/test code detected in production files"

/-! ## Interfaces -/

/-- Private parts of the shell, with the words for them. -/
def privateParts : List (Pattern × String) :=
  [(Pattern.of "Main\\.panel[^;]*\\._\\w+", "Main.panel private API access"),
    (Pattern.of "statusArea[^;]*\\._\\w+", "statusArea private API access"),
    (Pattern.of "quickSettings[^;]*\\._\\w+", "quickSettings private API access"),
    (Pattern.of "Main\\.overview[^;]*\\._\\w+", "Main.overview private API access"),
    (Pattern.of "Main\\.layoutManager[^;]*\\._\\w+", "Main.layoutManager private API access"),
    (Pattern.of "Main\\.wm[^;]*\\._\\w+", "Main.wm private API access")]

/-- The private parts that the lines of a text use, with line numbers.  `previous` is the line
before the first. -/
def privateUses (n : Nat) (previous : Text) : List Text → List (Nat × String)
  | [] => []
  | line :: rest =>
      let more := privateUses (n + 1) line rest
      if Source.isCommentLine line ||
          Suppression.isExcused line "quality/private-api".toList previous then more
      else
        (privateParts.filterMap fun (p, name) => if p.found line then some (n, name) else none)
          ++ more

/-- Reports uses of private parts of the shell. -/
def checkPrivateApi (ext : Extension) : Check Unit := do
  let uses := (← ext.texts ext.scripts).flatMap fun (p, t) =>
    (privateUses 1 [] (Text.newlineLines t)).map fun (n, name) => (p.atLine n, name)
  match uses with
  | [] => Check.pass "quality/private-api" "No private GNOME Shell API access detected"
  | (_, name) :: _ =>
      let places := ", ".intercalate ((uses.take 5).map (·.1))
      let more := if uses.length > 5 then s!" (+{uses.length - 5} more)" else ""
      Check.warn "quality/private-api"
        s!"{places}{more}: {name} — requires reviewer justification and version pinning"

/-- The places in files where a line outside of comments matches. -/
def placesOf (ext : Extension) (p : Pattern) (files : List Path) :
    Except Fault (List String) := do
  let texts ← ext.texts files
  return texts.flatMap fun (path, t) =>
    (Text.numbered (Text.newlineLines t)).filterMap fun (n, line) =>
      if !Source.isCommentLine line && p.found line then some (path.atLine n) else none

/-- A direct look-up in a message catalogue. -/
def directLookUp : Pattern := Pattern.of "Gettext\\.dgettext\\s*\\("

/-- Reports direct look-ups in message catalogues in the files that have a method for it. -/
def checkGettextPattern (ext : Extension) : Check Unit := do
  let files := ext.scripts.filter fun p => p.name == "extension.js" || p.name == "prefs.js"
  let places ← placesOf ext directLookUp files
  if places.isEmpty then
    Check.pass "quality/gettext-pattern" "Gettext usage follows recommended pattern"
  else
    Check.warn "quality/gettext-pattern"
      ("Uses Gettext.dgettext() directly (" ++ ", ".intercalate (places.take 5) ++ ") — " ++
        "hardcoded gettext domain creates maintenance burden if domain changes; " ++
        "use import \x7bgettext as _\x7d from the Extension/ExtensionPreferences module")

/-- The creation of a settings object. -/
def settingsCall : Pattern := Pattern.of "(\\.getSettings\\s*\\(|new\\s+Gio\\.Settings\\s*\\()"

/-- Reports more than two lines that create settings objects outside of the preferences. -/
def checkRepeatedSettings (ext : Extension) : Check Unit := do
  let places ← placesOf ext settingsCall ext.runtimeScripts
  if places.length > 2 then
    Check.warn "quality/repeated-settings"
      (s!"{places.length} getSettings()/Gio.Settings instances across extension files (" ++
        ", ".intercalate (places.take 5) ++
        ") — store a single instance and pass via dependency injection")
  else
    Check.pass "quality/repeated-settings"
      s!"Settings instances OK ({places.length} across extension files)"

/-- The numbers of the lines that dispose of an object by force and are not explained, neither on
the line nor by a comment just before it. -/
def bareDisposals (n : Nat) (previous : Text) : List Text → List Nat
  | [] => []
  | line :: rest =>
      let more := bareDisposals (n + 1) line rest
      if Text.occursIn ".run_dispose()".toList line && !Text.occursIn ['/', '/'] line &&
          !(['/', '/'].isPrefixOf (Text.trimFront previous)) then n :: more
      else more

/-- Reports forced disposal without a comment. -/
def checkRunDisposeComment (ext : Extension) : Check Unit := do
  let places := (← ext.texts ext.scripts).flatMap fun (p, t) =>
    (bareDisposals 1 [] (Text.newlineLines t)).map p.atLine
  if places.isEmpty then
    Check.pass "quality/run-dispose-no-comment"
      "All run_dispose() calls have comments or none found"
  else
    Trace.each places fun place =>
      Check.warn "quality/run-dispose-no-comment"
        (s!"{place}: run_dispose() without explanatory comment " ++
          "— reviewers require justification")

/-! ## Names and indentation -/

/-- A name as a program for hiding code makes it. -/
def hexName : Pattern := Pattern.of "\\b_0x[0-9a-f]\x7b2,\x7d\\b"

/-- The declaration of a name of a letter and digits. -/
def shortDeclaration : Pattern := Pattern.of "(?:const|let|var|function)\\s+([a-z]\\d+)\\b"

/-- The suspect names of a line, as often as they stand there. -/
def suspectNames (line : Text) : List Text :=
  let t := Text.trimFront line
  (hexName.all t).map Pattern.Found.text ++ (shortDeclaration.all t).map fun m => m.group 1

/-- Reports names that hide what the code does. -/
def checkObfuscatedNames (ext : Extension) : Check Unit := do
  let names := (← ext.texts ext.scripts).flatMap fun (_, t) => (codeLines t).flatMap suspectNames
  let distinct := names.eraseDups.length
  if distinct ≥ 15 || names.length ≥ 50 then
    Check.fail "quality/obfuscated-names"
      (s!"Detected {distinct} obfuscator-style variable names " ++
        s!"({names.length} usages) — code appears minified or obfuscated")
  else
    Check.pass "quality/obfuscated-names"
      s!"No significant obfuscation detected ({distinct} suspect names)"

/-- The line is indented by a tab, comments apart. -/
def isTabbed (line : Text) : Bool :=
  ['\t'].isPrefixOf line && !(['\t', '/', '/'].isPrefixOf line)

/-- The line is indented by blanks. -/
def isSpaced (line : Text) : Bool := "    ".toList.isPrefixOf line

/-- What is to be said of a file that mixes both indentations. -/
def mixture? (p : Path) (t : Text) : Option String :=
  let lines := Text.newlineLines t
  let tabs := lines.countP isTabbed
  let spaces := lines.countP isSpaced
  if tabs + spaces > 10 && 10 * min tabs spaces > tabs + spaces then
    some s!"{p.shown}(tabs:{tabs},spaces:{spaces})"
  else none

/-- Reports files that mix both indentations. -/
def checkMixedIndentation (ext : Extension) : Check Unit := do
  let mixed := (← ext.texts ext.scripts).filterMap fun (p, t) => mixture? p t
  if mixed.isEmpty then
    Check.pass "quality/mixed-indentation" "Consistent indentation style"
  else
    Check.warn "quality/mixed-indentation"
      (s!"Mixed tab/space indentation in {mixed.length} file(s): " ++
        ", ".intercalate (mixed.take 3))

/-! ## Signs of work by hand -/

/-- A word from the field. -/
def fieldWord : Pattern :=
  Pattern.of ("\\b(dbus|polkit|upower|networkmanager|bluez|logind|systemd|" ++
    "pipewire|pulseaudio|wayland|x11|xdg|freedesktop|" ++
    "brightness|backlight|cpu|gpu|battery|thermal|" ++
    "inhibit|suspend|hibernate|idle|screensaver)\\b") { anyCase := true }

/-- A step of a calculation. -/
def calculation : Pattern :=
  Pattern.of ("(<<|>>|>>>|&\\s*0x|\\|\\s*0x" ++
    "|Math\\.(floor|ceil|round|pow|sqrt|log|min|max)\\b" ++
    "|for\\s*\\(\\s*let\\s+\\w+\\s*=\\s*\\w+[^;]*;\\s*\\w+[^;]*;\\s*\\w+)")

/-- A comment on a defect elsewhere. -/
def defectComment : Pattern :=
  Pattern.of ("//\\s*(workaround|hack|fixme|bug\\s*#?\\d+|regression|quirk|compat|" ++
    "upstream|backport|see\\s+https?://|gnome\\.org|gitlab)") { anyCase := true }

/-- The use of a private name in one style. -/
def privateName : Pattern := Pattern.of "this\\.(_[a-z][a-zA-Z0-9]+)"

/-- The signs of work by hand in lines. -/
def handSigns (lines : List Text) : List String :=
  let count (p : Pattern) : Nat := Text.total (lines.map fun line => (p.all line).length)
  let words := count fieldWord
  let steps := lines.countP calculation.found
  let remarks := lines.countP defectComment.found
  (if words ≥ 5 then [s!"domain-vocabulary({words})"] else []) ++
    (if steps ≥ 3 then [s!"nontrivial-algorithms({steps})"] else []) ++
    (if remarks ≥ 2 then [s!"debug-comments({remarks})"] else []) ++
    (if count privateName ≥ 10 then ["consistent-naming-style"] else [])

/-- Tells of the signs of work by hand. -/
def checkCodeProvenance (ext : Extension) : Check Unit := do
  let texts ← ext.texts ext.scripts
  let lines := (texts.flatMap fun (_, t) => Text.newlineLines t).map Text.trim
  let signs := handSigns lines
  let score := signs.length
  let parts := [s!"provenance-score={score}"] ++
    (if signs.isEmpty then [] else ["signals=[" ++ ", ".intercalate signs ++ "]"]) ++
    [s!"files={texts.length}"]
  let verdict :=
    if score ≥ 3 then "Strong hand-written indicators: "
    else if score ≥ 1 then "Some hand-written indicators: "
    else "No strong provenance indicators: "
  Check.pass "quality/code-provenance" (verdict ++ "; ".intercalate parts)

end ExtensionAudit.Quality

import ExtensionAudit.Quality.Volume
import ExtensionAudit.Text.Case

/-!
# Disclosure

An extension that reads the clipboard or goes to the network has to say so in the description
of its manifest.
-/

namespace ExtensionAudit.Quality

/-- The description in lower case. -/
def lowerDescription (m : Json) : Except Fault Text := do
  match (← m.member? "description").getD (Json.ofString "") with
  | .str s => return Text.lower s.view
  | _ => throw .noOperation

/-- Compares a use with the description.  `subject` names the use in the messages about a missing
manifest, and `judge` takes the description in lower case. -/
def checkDescribed (ext : Extension) (check subject : String) (judge : Text → Check Unit) :
    Check Unit := do
  if !ext.isFile Extension.manifestPath then
    Check.warn check s!"{subject} used but metadata.json not found"
  else
    match ← ext.manifest? with
    | none => Check.warn check s!"{subject} used but metadata.json could not be read"
    | some m => judge (← lowerDescription m)

/-- Reports a use of the clipboard that the description does not tell of. -/
def checkClipboardDisclosure (ext : Extension) : Check Unit := do
  let name := "quality/clipboard-disclosure"
  let use? ← ext.firstText? (fun _ t =>
    if Text.occursIn "St.Clipboard".toList t then some () else none) ext.scripts
  if use?.isNone then Check.pass name "No St.Clipboard usage detected"
  else
    checkDescribed ext name "St.Clipboard" fun description =>
      if Text.occursIn "clipboard".toList description then
        Check.pass name "St.Clipboard usage disclosed in metadata description"
      else
        Check.warn name
          "St.Clipboard used but metadata description does not mention clipboard access"

/-- Names of interfaces to the network. -/
def networkNames : List Text :=
  ["Soup.Session".toList, "Soup.Message".toList, "Soup.URI".toList, "GLib.Uri".toList]

/-- Words that tell of the network, in the order in which they are looked for. -/
def networkWords : List String :=
  ["network", "internet", "http", "api", "server", "online", "fetch", "request", "web",
    "service"]

/-- Reports a use of the network outside of the preferences that the description does not tell
of. -/
def checkNetworkDisclosure (ext : Extension) : Check Unit := do
  let name := "quality/network-disclosure"
  let use? ← ext.firstText? (fun _ t =>
    if networkNames.any fun n => Text.occursIn n t then some () else none) ext.runtimeScripts
  if use?.isNone then Check.pass name "No network API usage detected"
  else
    checkDescribed ext name "Network APIs" fun description =>
      match networkWords.find? fun word => Text.occursIn word.toList description with
      | some word =>
          Check.pass name
            s!"Network API usage disclosed in metadata description (keyword: '{word}')"
      | none =>
          Check.warn name
            ("Network APIs used (Soup/GLib.Uri) but metadata description does not " ++
              "mention network access — reviewers expect disclosure")

end ExtensionAudit.Quality

import ExtensionAudit.Extension
import ExtensionAudit.Pattern.Search
import ExtensionAudit.Source.Block

/-!
# Registered classes

Classes that are registered with the object system need a type name and must set up their
parent.  Drawing code has to give its context back.
-/

namespace ExtensionAudit.Registration

/-- The registration of a class. -/
def registerCall : Pattern := Pattern.of "GObject\\.registerClass\\s*\\("

/-- The number of the line on which a match starts. -/
def lineOf (t : Text) (m : Pattern.Found) : Nat := Text.newlines (t.take m.start) + 1

/-- The line numbers of the registrations without a type name in the next 300 characters. -/
def unnamed (t : Text) : List Nat :=
  (registerCall.all t).filterMap fun m =>
    if Text.occursIn "GTypeName".toList ((t.drop m.start).take 300) then none
    else some (lineOf t m)

/-- Reports the first five registrations without a type name. -/
def checkTypeNames (ext : Extension) : Check Unit := do
  let places := (← ext.texts ext.scripts).flatMap fun (p, t) => (unnamed t).map p.atLine
  if places.isEmpty then
    Check.pass "gobject/missing-gtypename" "All registerClass calls include GTypeName"
  else
    Trace.each (places.take 5) fun place =>
      Check.warn "gobject/missing-gtypename"
        (s!"{place}: GObject.registerClass without GTypeName — " ++
          "add GTypeName to avoid conflicts between extensions")

/-- The head of a class that extends another. -/
def classHead : Pattern := Pattern.of "class\\s+\\w+\\s+extends\\s+[\\w.]+\\s*\\\x7b"

/-- The head of the method that sets an object up. -/
def initHead : Pattern := Pattern.of "\\b_init\\s*\\([^)]*\\)\\s*\\\x7b"

/-- The class is registered: this is said in the 80 characters before it. -/
def isRegistered (t : Text) (m : Pattern.Found) : Bool :=
  Text.occursIn "registerClass".toList (Text.slice t (m.start - 80) m.start)

/-- The line number of the method that sets objects of a class up, if it does not set up the
parent. -/
def orphanedInit? (t : Text) (m : Pattern.Found) : Option Nat :=
  if isRegistered t m then
    match initHead.search m.rest with
    | some init =>
        let body := Source.blockBody init.rest
        if Text.occursIn "super._init".toList body || Text.occursIn "super(params)".toList body then
          none
        else
          some (Text.newlines (t.take m.start) + Text.newlines (m.rest.take init.start) + 1)
    | none => none
  else none

/-- Reports the first five methods that do not set up the parent. -/
def checkParents (ext : Extension) : Check Unit := do
  let places := (← ext.texts ext.scripts).flatMap fun (p, t) =>
    ((classHead.all t).filterMap (orphanedInit? t)).map p.atLine
  if places.isEmpty then
    Check.pass "gobject/missing-super-init"
      "All GObject subclass _init() methods call super._init()"
  else
    Trace.each (places.take 5) fun place =>
      Check.warn "gobject/missing-super-init"
        s!"{place}: GObject subclass _init() missing super._init() call"

/-- The start of drawing code. -/
def drawHead : Pattern := Pattern.of "(vfunc_repaint|set_draw_func)\\s*[\\(\\\x7b]"

/-- The line numbers of drawing code that takes a context and does not give it back in the next
500 characters. -/
def leakyDrawing (t : Text) : List Nat :=
  (drawHead.all t).filterMap fun m =>
    let ahead := (t.drop m.start).take 500
    if Text.occursIn "get_context".toList ahead && !Text.occursIn "$dispose".toList ahead then
      some (lineOf t m)
    else none

/-- Reports drawing code that does not give its context back. -/
def checkDrawing (ext : Extension) : Check Unit := do
  let places := (← ext.texts ext.scripts).flatMap fun (p, t) => (leakyDrawing t).map p.atLine
  if places.isEmpty then
    Check.pass "gobject/cairo-dispose" "All drawing callbacks dispose Cairo context"
  else
    Trace.each places fun place =>
      Check.warn "gobject/cairo-dispose"
        (s!"{place}: Drawing callback uses get_context() without " ++
          "cr.$dispose() — will leak Cairo context")

/-- All checks on registered classes. -/
def check (ext : Extension) : Check Unit := do
  if ext.scripts.isEmpty then
    Check.skip "gobject/no-js" "No JavaScript files found"
  else
    checkTypeNames ext
    checkParents ext
    checkDrawing ext

end ExtensionAudit.Registration

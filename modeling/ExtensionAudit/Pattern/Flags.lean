/-!
# Flags

Flags change what the parts of a pattern mean.  They are set for the whole pattern, or turned on
and off for a group.
-/

namespace ExtensionAudit.Pattern

/-- The flags in force at a place of a pattern. -/
structure Flags where
  /-- Letter case makes no difference. -/
  anyCase : Bool := false
  /-- Anchors look at lines. -/
  multiline : Bool := false
  /-- The dot also matches a newline. -/
  dotAll : Bool := false
  /-- Blanks and comments in the pattern are skipped. -/
  verbose : Bool := false
  /-- Classes are those of the first 128 characters. -/
  narrow : Bool := false
  /-- Classes are those of all scripts, by an explicit flag. -/
  wide : Bool := false
  /-- No repetition is allowed. -/
  template : Bool := false
deriving DecidableEq, Repr, Inhabited

/-- A letter that names a flag. -/
def isFlag (c : Char) : Bool :=
  "aiLmstux".toList.contains c

/-- The flags with one more set. -/
def Flags.set (f : Flags) : Char → Flags
  | 'a' => { f with narrow := true }
  | 'i' => { f with anyCase := true }
  | 'm' => { f with multiline := true }
  | 's' => { f with dotAll := true }
  | 't' => { f with template := true }
  | 'u' => { f with wide := true }
  | 'x' => { f with verbose := true }
  | _ => f

/-- The flags of a group, from those around it and those it turns on and off. -/
def Flags.within (outer on off : Flags) : Flags where
  anyCase := (outer.anyCase || on.anyCase) && !off.anyCase
  multiline := (outer.multiline || on.multiline) && !off.multiline
  dotAll := (outer.dotAll || on.dotAll) && !off.dotAll
  verbose := (outer.verbose || on.verbose) && !off.verbose
  narrow := if on.narrow || on.wide then on.narrow else outer.narrow
  wide := if on.narrow || on.wide then on.wide else outer.wide
  template := outer.template

/-- Two sets of flags share one. -/
def Flags.meets (f g : Flags) : Bool :=
  (f.anyCase && g.anyCase) || (f.multiline && g.multiline) || (f.dotAll && g.dotAll) ||
    (f.verbose && g.verbose) || (f.template && g.template)

end ExtensionAudit.Pattern

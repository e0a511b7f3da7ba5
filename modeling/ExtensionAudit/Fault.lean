/-!
# Faults

Why a check can break off.  A fault of the file system comes from the tree under
inspection, a fault of a value from what its manifest holds.  A check that breaks off
keeps what it has reported.
-/

namespace ExtensionAudit

/-- Why a check breaks off. -/
inductive Fault where
  /-- A path leads nowhere. -/
  | absent
  /-- A path goes on below something that is no directory. -/
  | notDirectory
  /-- A directory stands where a file is to be read. -/
  | isDirectory
  /-- A file cannot be read. -/
  | unreadable
  /-- Links lead round in a circle. -/
  | linkLoop
  /-- Bytes are no UTF-8. -/
  | undecodable
  /-- A string holds half of a surrogate pair and cannot be printed. -/
  | unencodable
  /-- A value is of a kind that an operation does not take. -/
  | wrongKind
  /-- A value is of a kind that lacks an operation. -/
  | noOperation
  /-- A value of the right kind that cannot be converted. -/
  | badValue
  /-- A number out of the range of whole numbers. -/
  | overflow
  /-- A position outside a list. -/
  | outOfRange
  /-- A document or a pattern that nests too deeply. -/
  | tooDeep
  /-- A pattern that reads well and cannot be run. -/
  | noProgram
  /-- A group of a match that stops before it starts. -/
  | crossedGroup
deriving DecidableEq, Repr

/-- The fault comes from the file system. -/
def Fault.fromFiles : Fault → Bool
  | .absent | .notDirectory | .isDirectory | .unreadable | .linkLoop => true
  | _ => false

end ExtensionAudit

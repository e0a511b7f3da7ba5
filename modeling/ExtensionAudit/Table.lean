/-!
# Tables

A table is a list of keys with values, in the order in which the keys came in.  A key that comes
in again keeps its place and takes the new value.
-/

namespace ExtensionAudit

/-- Keys with values, oldest first. -/
abbrev Table (κ α : Type) := List (κ × α)

namespace Table

variable {κ α : Type} [BEq κ]

/-- The value of a key. -/
def get? (t : Table κ α) (k : κ) : Option α :=
  t.lookup k

/-- The table has the key. -/
def has (t : Table κ α) (k : κ) : Bool :=
  t.any fun e => e.1 == k

/-- Puts a value.  A key that is there keeps its place. -/
def put (t : Table κ α) (k : κ) (v : α) : Table κ α :=
  if t.has k then t.map fun e => if e.1 == k then (e.1, v) else e else t ++ [(k, v)]

/-- Puts the entries of a list one after the other. -/
def putAll (t : Table κ α) (entries : List (κ × α)) : Table κ α :=
  entries.foldl (fun t e => t.put e.1 e.2) t

/-- The keys, oldest first. -/
def keys (t : Table κ α) : List κ := t.map (·.1)

end Table

end ExtensionAudit

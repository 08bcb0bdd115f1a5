import AdminGrid.Descriptor.Table
import AdminGrid.Value.Form

/-!
# The registry of tables

The registry holds a descriptor for every table by its name.  A descriptor that is registered takes
the place of another one of its name.
-/

namespace AdminGrid

/-- Descriptors by the names of their tables. -/
abbrev Registry := Entries TableDescriptor

namespace Registry

/-- Registers a descriptor under its name. -/
def register (r : Registry) (d : TableDescriptor) : Registry := Entries.put d.name d r

/-- The descriptor of a name; the empty name has none. -/
def find? (r : Registry) (name : String) : Option TableDescriptor :=
  if name = "" then none else Entries.get? name r

/-- The names in ascending order. -/
def names (r : Registry) : List String := (Entries.keys r).mergeSort fun a b => a ≤ b

/-- The descriptor under a value of any kind. -/
def lookup (r : Registry) (v : Value) : Attempt (Option TableDescriptor) :=
  match v with
  | .text name => .ok (r.find? name)
  | v => if v.truthy && !v.isConstant then .error .wrongKind else .ok none

/-- Whether a value of any kind is a name of the registry. -/
def holds (r : Registry) (v : Value) : Attempt Bool :=
  match v with
  | .text name => .ok (Entries.has name r)
  | v => if v.isConstant then .ok false else .error .wrongKind

end Registry

end AdminGrid

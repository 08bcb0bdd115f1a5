import AdminGrid.Descriptor.Column

/-!
# Action settings

Which buttons a table offers on each row.
-/

namespace AdminGrid

open Validation

/-- A button added by the owner of a table: the default three, or one described by a text. -/
inductive ButtonSpec where
  | defaults (on : Bool)
  | described (spec : String)
  deriving DecidableEq

/-- The actions of a table. -/
structure ActionConfig where
  enabled : Bool
  enabledVerbs : List String
  removedVerbs : List String
  customButtons : List ButtonSpec
  deriving DecidableEq

namespace ButtonSpec

/-- The button that a value describes, if it describes one. -/
def ofValue? : Value → Option ButtonSpec
  | .bool on => some (.defaults on)
  | .text spec => some (.described spec)
  | _ => none

/-- Reads a button from a document.  A text stays a text; another value counts as a truth value. -/
def read (v : Value) : Checked ButtonSpec :=
  match v with
  | .text spec => .good (.described spec)
  | v => match truth v with
    | .good on => .good (.defaults on)
    | .bad issues =>
        .app (.map (fun (b : ButtonSpec) (_ : ButtonSpec) => b)
          (Checked.under (.name "bool") (.bad issues)))
          (Checked.under (.name "str") (.fault .textExpected))

/-- A button as a value. -/
def toValue : ButtonSpec → Value
  | defaults on => .bool on
  | described spec => .text spec

end ButtonSpec

namespace ActionConfig

/-- The verbs of a table that names none, in the order in which buttons are shown. -/
def defaultVerbs : List String := ["view", "insert", "edit", "delete"]

/-- The actions of a table that sets none. -/
def standard : ActionConfig := ⟨true, defaultVerbs, [], []⟩

/-- Reads the actions of a table from a document. -/
def read : Value → Checked ActionConfig :=
  record fun e =>
    ActionConfig.mk <$> withDefault "enabled" true truth e
      <*> withDefault "enabled_verbs" defaultVerbs (list text) e
      <*> withDefault "removed_verbs" [] (list text) e
      <*> withDefault "custom_buttons" [] (list ButtonSpec.read) e

/-- The actions of a table as a document. -/
def toValue (a : ActionConfig) : Value :=
  .map [("enabled", .bool a.enabled), ("enabled_verbs", .ofTexts a.enabledVerbs),
    ("removed_verbs", .ofTexts a.removedVerbs),
    ("custom_buttons", .list (a.customButtons.map ButtonSpec.toValue))]

end ActionConfig

end AdminGrid

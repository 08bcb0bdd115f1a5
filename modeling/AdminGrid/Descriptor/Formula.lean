import AdminGrid.Descriptor.Column

/-!
# Formulas

A computed column: its source fields, the logic that combines them, and where it stands among the
other columns.
-/

namespace AdminGrid

open Validation

/-- What a formula column is placed beside: a column by position or by name, or one of the words
`first` and `last`. -/
inductive Anchor where
  | index (i : Int)
  | name (s : String)
  deriving DecidableEq

/-- Where a formula column stands: before or after its anchor, or its last source field. -/
structure FormulaPlacement where
  anchor : Option Anchor
  after : Bool
  deriving DecidableEq

/-- A computed column. -/
structure FormulaSpec where
  name : String
  label : Option String
  sourceFields : List String
  logic : String
  placement : FormulaPlacement
  deriving DecidableEq

namespace Anchor

/-- Reads an anchor from a document.  A text stays a name, even of digits. -/
def read (v : Value) : Checked Anchor :=
  match v with
  | .text s => .good (.name s)
  | v => match integer v with
    | .good i => .good (.index i)
    | .bad issues =>
        .app (.map (fun (a : Anchor) (_ : Anchor) => a)
          (Checked.under (.name "int") (.bad issues)))
          (Checked.under (.name "str") (.fault .textExpected))

/-- An anchor as a value. -/
def toValue : Anchor → Value
  | index i => .int i
  | name s => .text s

end Anchor

namespace FormulaPlacement

/-- The placement before the last source field. -/
def beforeSource : FormulaPlacement := ⟨none, false⟩

/-- Reads a placement from a document. -/
def read : Value → Checked FormulaPlacement :=
  record fun e =>
    FormulaPlacement.mk <$> withDefault "anchor" none (optional Anchor.read) e
      <*> withDefault "after" false truth e

/-- A placement as a document. -/
def toValue (p : FormulaPlacement) : Value :=
  .map [("anchor", (p.anchor.map Anchor.toValue).getD .null), ("after", .bool p.after)]

end FormulaPlacement

namespace FormulaSpec

/-- The heading of a formula column. -/
def displayLabel (f : FormulaSpec) : String := labelOr f.label f.name

/-- Reads a formula from a document. -/
def read : Value → Checked FormulaSpec :=
  record fun e =>
    FormulaSpec.mk <$> required "name" text e <*> withDefault "label" none (optional text) e
      <*> withDefault "source_fields" [] (list text) e <*> withDefault "logic" "+" text e
      <*> withDefault "placement" .beforeSource FormulaPlacement.read e

/-- A formula as a document. -/
def toValue (f : FormulaSpec) : Value :=
  .map [("name", .text f.name), ("label", .ofText? f.label),
    ("source_fields", .ofTexts f.sourceFields), ("logic", .text f.logic),
    ("placement", f.placement.toValue)]

end FormulaSpec

end AdminGrid

import AdminGrid.Text.Case
import AdminGrid.Text.Split
import AdminGrid.Validation.Kinds

/-!
# Columns and relations

A column of a table as its owner declares it, and a relation, which replaces the column that names
another table's row by a column of that row.
-/

namespace AdminGrid

open Validation

/-! ## Labels

A column without a label of its own is headed by its name: the part after the last point, its words
separated by blanks and capitalised. -/

/-- The label made from the name of a column: `user_name` becomes `User Name`. -/
def humanize (field : String) : String :=
  let name := (Text.afterLast '.' field).toList.map fun c => if c = '-' then '_' else c
  let words := (Text.splitList '_' name).filter fun word => !word.isEmpty
  " ".intercalate (words.map fun word => String.ofList (Text.capitalize word))

/-- A label, or the humanized name where the label is absent or empty. -/
def labelOr (label : Option String) (name : String) : String :=
  match label with
  | some text => if text = "" then humanize name else text
  | none => humanize name

/-! ## Declarations -/

/-- One displayed column. -/
structure ColumnSpec where
  field : String
  label : Option String
  hidden : Bool
  rawHtml : Bool
  sortable : Bool
  searchable : Bool
  imageHint : Bool
  deriving DecidableEq

/-- A relation: where the alias is requested, the display field of the related table is shown.
`foreignKey` pairs a column of the related table with one of the base table. -/
structure RelationSpec where
  aliasField : String
  displayField : String
  displayLabel : Option String
  foreignKey : Entries String
  deriving DecidableEq

/-- A text that may be absent, as a value. -/
def Value.ofText? (s : Option String) : Value := (s.map Value.text).getD .null

/-- A list of texts, as a value. -/
def Value.ofTexts (texts : List String) : Value := .list (texts.map Value.text)

/-- Texts by key, as a value. -/
def Value.ofTextMap (entries : Entries String) : Value :=
  .map (entries.map fun (key, s) => (key, .text s))

namespace ColumnSpec

/-- The heading of a column. -/
def displayLabel (c : ColumnSpec) : String := labelOr c.label c.field

/-- Reads a column from a document. -/
def read : Value → Checked ColumnSpec :=
  record fun e =>
    ColumnSpec.mk <$> required "field" text e <*> withDefault "label" none (optional text) e
      <*> withDefault "hidden" false truth e <*> withDefault "raw_html" false truth e
      <*> withDefault "sortable" true truth e <*> withDefault "searchable" true truth e
      <*> withDefault "image_hint" false truth e

/-- A column as a document. -/
def toValue (c : ColumnSpec) : Value :=
  .map [("field", .text c.field), ("label", .ofText? c.label), ("hidden", .bool c.hidden),
    ("raw_html", .bool c.rawHtml), ("sortable", .bool c.sortable),
    ("searchable", .bool c.searchable), ("image_hint", .bool c.imageHint)]

end ColumnSpec

namespace RelationSpec

/-- The heading of the display field. -/
def label (r : RelationSpec) : String := labelOr r.displayLabel r.aliasField

/-- The table that the display field belongs to. -/
def relatedTable (r : RelationSpec) : String :=
  ((Text.cutFirst? '.' r.displayField).map (·.1)).getD r.displayField

/-- Reads a relation from a document. -/
def read : Value → Checked RelationSpec :=
  record fun e =>
    RelationSpec.mk <$> required "alias_field" text e <*> required "display_field" text e
      <*> withDefault "display_label" none (optional text) e
      <*> withDefault "foreign_key" [] (map text) e

/-- A relation as a document. -/
def toValue (r : RelationSpec) : Value :=
  .map [("alias_field", .text r.aliasField), ("display_field", .text r.displayField),
    ("display_label", .ofText? r.displayLabel), ("foreign_key", .ofTextMap r.foreignKey)]

end RelationSpec

end AdminGrid

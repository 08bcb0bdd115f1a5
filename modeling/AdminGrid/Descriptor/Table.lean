import AdminGrid.Descriptor.Action
import AdminGrid.Descriptor.Filter
import AdminGrid.Descriptor.Formula

/-!
# Table descriptors

Everything that the owner of a table declares about it.
-/

namespace AdminGrid

open Validation

/-- The declaration of one table. -/
structure TableDescriptor where
  name : String
  columns : List ColumnSpec
  relations : List RelationSpec
  formulas : List FormulaSpec
  actions : ActionConfig
  filters : List FilterSpec
  paging : PagingConfig
  formatRules : List FormatRule
  clickable : Bool
  numbering : Bool
  urlTargetField : String
  softDeleteField : Option String
  mergedColumns : Entries (List String)
  fixedColumns : Entries Int
  orderBy : Option OrderBy

namespace TableDescriptor

/-- Reads the name of a table: a text that is not blank, without the blanks around it. -/
def readName (v : Value) : Checked String :=
  match text v with
  | .good s => if Text.strip s = "" then .fault .refused else .good (Text.strip s)
  | .bad issues => .bad issues

/-- Reads a descriptor from a document. -/
def read : Value → Checked TableDescriptor :=
  record fun e =>
    TableDescriptor.mk <$> required "name" readName e
      <*> withDefault "columns" [] (list ColumnSpec.read) e
      <*> withDefault "relations" [] (list RelationSpec.read) e
      <*> withDefault "formulas" [] (list FormulaSpec.read) e
      <*> withDefault "actions" .standard ActionConfig.read e
      <*> withDefault "filters" [] (list FilterSpec.read) e
      <*> withDefault "paging" .standard PagingConfig.read e
      <*> withDefault "format_rules" [] (list FormatRule.read) e
      <*> withDefault "clickable" false truth e <*> withDefault "numbering" false truth e
      <*> withDefault "url_target_field" "id" text e
      <*> withDefault "soft_delete_field" (some "deleted_at") (optional text) e
      <*> withDefault "merged_columns" [] (map (list text)) e
      <*> withDefault "fixed_columns" [] (map integer) e
      <*> withDefault "order_by" none (optional OrderBy.read) e

/-- The merged columns as a value. -/
def mergedValue (d : TableDescriptor) : Value :=
  .map (d.mergedColumns.map fun (key, fields) => (key, .ofTexts fields))

/-- The fixed columns as a value. -/
def fixedValue (d : TableDescriptor) : Value :=
  .map (d.fixedColumns.map fun (key, n) => (key, .int n))

/-- A descriptor as a document. -/
def toValue (d : TableDescriptor) : Value :=
  .map [("name", .text d.name), ("columns", .list (d.columns.map ColumnSpec.toValue)),
    ("relations", .list (d.relations.map RelationSpec.toValue)),
    ("formulas", .list (d.formulas.map FormulaSpec.toValue)), ("actions", d.actions.toValue),
    ("filters", .list (d.filters.map FilterSpec.toValue)), ("paging", d.paging.toValue),
    ("format_rules", .list (d.formatRules.map FormatRule.toValue)),
    ("clickable", .bool d.clickable), ("numbering", .bool d.numbering),
    ("url_target_field", .text d.urlTargetField),
    ("soft_delete_field", .ofText? d.softDeleteField), ("merged_columns", d.mergedValue),
    ("fixed_columns", d.fixedValue), ("order_by", (d.orderBy.map OrderBy.toValue).getD .null)]

/-- The declared fields in display order. -/
def fieldNames (d : TableDescriptor) : List String := d.columns.map (·.field)

/-- The first column of a field. -/
def column? (d : TableDescriptor) (field : String) : Option ColumnSpec :=
  d.columns.find? (·.field == field)

/-- The fields of the columns with some property. -/
def fieldsWith (d : TableDescriptor) (p : ColumnSpec → Bool) : List String :=
  (d.columns.filter p).map (·.field)

/-- The presentation of a table, as the entries that an answer carries beside its rows. -/
def flags (d : TableDescriptor) : List (String × Value) :=
  [("hidden", .ofTexts (d.fieldsWith (·.hidden))),
   ("raw_html", .ofTexts (d.fieldsWith (·.rawHtml))),
    ("sortable", .ofTexts (d.fieldsWith (·.sortable))),
    ("searchable", .ofTexts (d.fieldsWith (·.searchable))), ("merged_columns", d.mergedValue),
    ("fixed_columns", d.fixedValue), ("clickable", .bool d.clickable),
    ("numbering", .bool d.numbering)]

/-- The headings of the declared columns by field, the last one that a field is given. -/
def labels (d : TableDescriptor) : Entries String :=
  Entries.ofList (d.columns.map fun c => (c.field, c.displayLabel))

end TableDescriptor

end AdminGrid

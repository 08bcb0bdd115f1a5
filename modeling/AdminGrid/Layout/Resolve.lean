import AdminGrid.Layout.Placement

/-!
# The columns of an answer

The columns that a table shows in display order: the fields that it has, its relation columns and
its formula columns, with their headings.
-/

namespace AdminGrid.Layout

/-- The columns of an answer. -/
structure ResolvedColumns where
  ordered : List String
  labels : Entries String
  relations : RelationMeta
  formulas : List String

/-- What the columns of an answer depend on. -/
structure ColumnRequest where
  requested : List String
  relations : List RelationSpec
  formulas : List FormulaSpec
  /-- The requested fields that the table has, where its columns are known. -/
  schemaFields : Option (List String)
  labels : Entries String

/-- The index of a column. -/
def ResolvedColumns.index? (r : ResolvedColumns) (field : String) : Option Nat :=
  if r.ordered.contains field then some (r.ordered.idxOf field) else none

/-- The fields to start from: those that the table has, or the requested ones that are no alias. -/
def ColumnRequest.baseFields (r : ColumnRequest) : List String :=
  match r.schemaFields with
  | some fields => fields
  | none => r.requested.filter fun f => !r.relations.any fun relation => relation.aliasField == f

/-- The columns of an answer. -/
def resolveColumns (r : ColumnRequest) : Attempt ResolvedColumns := do
  let columns := applyRelations ⟨r.baseFields, r.labels, .none⟩ r.requested r.relations
  let ordered ← placeFormulas columns.fields r.formulas
  let placed := (r.formulas.map (·.name)).filter fun name =>
    ordered.contains name && !columns.fields.contains name
  let labels := r.formulas.foldl (fun labels f =>
    if placed.contains f.name then labels.putNew f.name f.displayLabel else labels) columns.labels
  return ⟨ordered, labels, columns.relations, placed⟩

/-- The resolved columns as a document. -/
def ResolvedColumns.toValue (r : ResolvedColumns) : Value :=
  .map [("ordered", .ofTexts r.ordered), ("labels", .ofTextMap r.labels),
    ("relation_meta", r.relations.toValue), ("formulas", .ofTexts r.formulas)]

/-- What was resolved, as the entries of a report. -/
def ResolvedColumns.report (r : ResolvedColumns) (request : ColumnRequest) :
    List (String × Value) :=
  [("requested", .int request.requested.length), ("resolved", .int r.ordered.length),
    ("relations", .ofTexts (r.relations.relations.keys.mergeSort fun a b => a ≤ b)),
    ("formulas", .ofTexts r.formulas)]

end AdminGrid.Layout

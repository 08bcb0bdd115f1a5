import AdminGrid.Descriptor.Table
import AdminGrid.Layout.Resolve

/-!
# Requested columns

The columns that a table asks for: its declared fields, framed by the column of row numbers and the
column of action buttons.
-/

namespace AdminGrid.Layout

/-- The declared fields of a table between its column of row numbers and its column of buttons. -/
def requestedColumns (d : TableDescriptor) : List String :=
  let fields := d.fieldNames.filter fun f => f != numberColumn && f != actionColumn
  (if d.numbering then [numberColumn] else []) ++ fields ++
    (if d.actions.enabled then [actionColumn] else [])

/-- The requested fields that a table has, and the two columns that no table has. -/
def schemaColumns (requested tableColumns : List String) : List String :=
  requested.filter fun f => tableColumns.contains f || f == numberColumn || f == actionColumn

/-- A list of excluded fields with the display field of a relation whose alias is excluded. -/
def excludeDisplay (excluded : List String) (relation : String × ShownRelation) : List String :=
  if excluded.contains relation.1 then excluded ++ [relation.2.displayField] else excluded

/-- The declared fields without a property, and the display fields that stand for them.  A display
field that is excluded excludes in turn the relations whose alias it is. -/
def excludedFields (d : TableDescriptor) (shown : RelationMeta) (allowed : ColumnSpec → Bool) :
    List String :=
  shown.relations.foldl excludeDisplay (d.fieldsWith fun c => !allowed c)

end AdminGrid.Layout

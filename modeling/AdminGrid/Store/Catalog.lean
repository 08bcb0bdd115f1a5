import AdminGrid.Descriptor.Column
import AdminGrid.Failure
import AdminGrid.Store.Table

/-!
# The catalog of a database

What a database tells about its tables: their columns, their keys, and the relations that their
foreign keys suggest.  A suggested relation shows a text of the related row.
-/

namespace AdminGrid.Store

/-- The name under which a related row's column is shown in place of a local one: `user_id` and
`name` make `user_name`. -/
def aliasFor (localColumn display : String) : String :=
  (Text.dropTail? "_id" localColumn).getD localColumn ++ "_" ++ display

/-- Whether a column holds texts. -/
def ColumnDef.isText (c : ColumnDef) : Bool := c.type.meaning = .text

/-- A column as a document. -/
def ColumnDef.toValue (c : ColumnDef) : Value :=
  .map [("name", .text c.name), ("type", .text c.type.text), ("nullable", .bool !c.notNull),
    ("default", .ofText? c.default), ("primary_key", .bool c.primary), ("is_text", .bool c.isText)]

/-- The first column of a table that holds texts and is no part of its key. -/
def Table.displayColumn? (t : Table) : Option String :=
  (t.columns.find? fun c => c.isText && !c.primary).map (·.name)

namespace Database

/-- The table of a name; a name that no table has is a fault of the configuration. -/
def table (db : Database) (name : String) : Attempt Table :=
  match db.table? name with
  | some t => .ok t
  | none => .error (.configuration (.unknownTable name))

/-- The names of all tables in ascending order. -/
def tableNames (db : Database) : List String :=
  (db.tables.map (·.name)).mergeSort fun a b => a ≤ b

/-- The column that is shown of a related table: a chosen one, or its first text. -/
def shownColumn? (db : Database) (chosen : Entries String) (related : String) :
    Attempt (Option String) :=
  match (chosen.get? related).filter (· != "") with
  | some column => .ok (some column)
  | none => do return (← db.table related).displayColumn?

/-- The relation that a foreign key of a table suggests.  Keys of several columns, and keys to
tables that have no name or nothing to show, suggest none. -/
def suggested? (db : Database) (chosen : Entries String) (base : String) (key : ForeignKey) :
    Attempt (Option RelationSpec) :=
  match key.columns, key.referred with
  | [column], [referred] =>
      if key.table = "" then .ok none
      else do
        match (← db.shownColumn? chosen key.table).filter (· != "") with
        | none => return none
        | some display =>
            let relation := aliasFor column display
            return some {
              aliasField := relation
              displayField := key.table ++ "." ++ display
              displayLabel := some (humanize relation)
              foreignKey := [(key.table ++ "." ++ referred, base ++ "." ++ column)] }
  | _, _ => .ok none

/-- The relations that the foreign keys of a table suggest, from its last key to its first. -/
def catalog (db : Database) (chosen : Entries String) (name : String) :
    Attempt (List RelationSpec) := do
  let t ← db.table name
  return (← t.keys.reverse.mapM (db.suggested? chosen name)).filterMap id

end Database

end AdminGrid.Store

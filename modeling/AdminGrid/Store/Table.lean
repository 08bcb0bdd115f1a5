import AdminGrid.Entries
import AdminGrid.Store.Affinity
import AdminGrid.Store.ColumnType
import AdminGrid.Store.Pattern

/-!
# Tables

A table has columns, keys to other tables, and rows in a fixed order.  Where one whole number is the
key of a table, its rows are kept in the order of that number, otherwise in the order in which they
came.
-/

namespace AdminGrid.Store

/-- The declaration of one column. -/
structure ColumnDef where
  name : String
  declared : String
  primary : Bool
  notNull : Bool
  default : Option String

/-- Columns of a table that hold the key of a row of another one. -/
structure ForeignKey where
  columns : List String
  table : String
  referred : List String

/-- A row of a table, by column. -/
abbrev StoredRow := Entries Stored

/-- A table. -/
structure Table where
  name : String
  columns : List ColumnDef
  keys : List ForeignKey
  rows : List StoredRow

/-- The tables of a database. -/
structure Database where
  tables : List Table

namespace ColumnDef

/-- The affinity of a column. -/
def affinity (c : ColumnDef) : Affinity := .ofType c.declared

/-- The type of a column. -/
def type (c : ColumnDef) : ColumnType := .ofDeclaration c.declared

end ColumnDef

namespace Table

/-- The names of the columns. -/
def columnNames (t : Table) : List String := t.columns.map (·.name)

/-- The declaration of a column. -/
def column? (t : Table) (name : String) : Option ColumnDef := t.columns.find? (·.name == name)

/-- The columns that are the key of the table. -/
def primaryKey (t : Table) : List String := (t.columns.filter (·.primary)).map (·.name)

/-- The column whose whole number orders the rows, if the table has one. -/
def orderColumn? (columns : List ColumnDef) : Option String :=
  match columns.filter (·.primary) with
  | [c] =>
      if String.ofList (c.declared.toList.map Char.toUpper) = "INTEGER" then some c.name else none
  | _ => none

/-- A row of given cells as the columns keep them. -/
def rowOf (columns : List ColumnDef) (cells : List Stored) : StoredRow :=
  columns.zipIdx.map fun (c, i) => (c.name, c.affinity.keep ((cells[i]?).getD .null))

/-- The whole number by which a row is ordered. -/
def orderNumber (column : String) (row : StoredRow) : Int :=
  match Entries.get? column row with
  | some (.int n) => n
  | _ => 0

/-- Gives rows without a number the number after the greatest one so far. -/
def numberRows (column : String) : (greatest : Int) → List StoredRow → List StoredRow
  | _, [] => []
  | greatest, row :: rest =>
      match Entries.get? column row with
      | some (.int n) => row :: numberRows column (max greatest n) rest
      | _ => Entries.put column (.int (greatest + 1)) row :: numberRows column (greatest + 1) rest

/-- A table with the given rows. -/
def create (name : String) (columns : List ColumnDef) (keys : List ForeignKey)
    (rows : List (List Stored)) : Table :=
  let kept := rows.map (rowOf columns)
  match orderColumn? columns with
  | some column =>
      ⟨name, columns, keys, (numberRows column 0 kept).mergeSort fun a b =>
        orderNumber column a ≤ orderNumber column b⟩
  | none => ⟨name, columns, keys, kept⟩

end Table

namespace Database

/-- The table of a name. -/
def table? (db : Database) (name : String) : Option Table := db.tables.find? (·.name == name)

/-- The table that a statement names, capital and small letters being the same. -/
def namedTable? (db : Database) (name : String) : Option Table :=
  db.tables.find? fun t => lowerAscii t.name == lowerAscii name

/-- Names that are not among others. -/
def newNames (known names : List String) : List String :=
  (names.filter fun name => !known.contains name).eraseDups

/-- The names of the tables that some tables lead to in a number of steps, themselves among them. -/
def closure (db : Database) : (steps : Nat) → List String → List String
  | 0, names => names
  | steps + 1, names =>
      let next := names.flatMap fun name => match db.table? name with
        | some t => t.keys.map (·.table)
        | none => []
      closure db steps (names ++ newNames names next)

/-- The table of a name, if it is there with all the tables that it leads to. -/
def linkedTable? (db : Database) (name : String) : Option Table :=
  let reached := db.closure (db.tables.length + 1) [name]
  if reached.all fun n => (db.table? n).isSome then db.table? name
  else none

end Database

end AdminGrid.Store

import AdminGrid.Descriptor.Answer
import AdminGrid.Layout.Relations
import AdminGrid.Layout.Requested
import AdminGrid.Staged.Clause
import AdminGrid.Store.Query

/-!
# The query layer of one table

A typed view of one base table: the joins of the relations that are shown, the columns that fields
stand for, and the conditions and the order over them.
-/

namespace AdminGrid.Staged

open Store

/-- A join with the display field that it serves. -/
structure LinkedJoin where
  join : Join
  displayField : String
  display : TypedColumn

/-- A base table with its joins. -/
structure View where
  base : Table
  joins : List LinkedJoin

/-- A column of a table that is joined under an alias. -/
def columnOf (alias? : Option String) (c : ColumnDef) : TypedColumn :=
  ⟨⟨alias?, c.name, c.affinity⟩, c.type⟩

/-- The relations that are shown and name the columns they join, with those columns. -/
def usedRelations (base : String) (shown : Layout.RelationMeta) (relations : List RelationSpec) :
    List (RelationSpec × Layout.JoinedColumns) :=
  relations.filterMap fun r =>
    if shown.relations.has r.aliasField then
      (Layout.joinedColumns? base r.foreignKey).map fun joined => (r, joined)
    else none

/-- The join of a relation with a table, if both tables have its columns. -/
def link? (base related : Table) (r : RelationSpec) (joined : Layout.JoinedColumns) :
    Option LinkedJoin := do
  let joinName := "rel_" ++ r.aliasField
  let key ← related.column? joined.column
  let baseColumn ← base.column? joined.baseColumn
  let display ← related.column? (Layout.cutName r.displayField).2
  return {
    join := ⟨joinName, related, key.name, baseColumn.name, key.affinity.join baseColumn.affinity,
      display.name⟩
    displayField := r.displayField
    display := columnOf (some joinName) display }

/-- The view of a base table with the relations that can be joined. -/
def View.of (db : Database) (base : Table) (used : List (RelationSpec × Layout.JoinedColumns)) :
    View :=
  ⟨base, used.filterMap fun (r, joined) => do link? base (← db.linkedTable? joined.table) r joined⟩

/-- The names of the tables that are read for a view. -/
def tablesRead (db : Database) (base : Table)
    (used : List (RelationSpec × Layout.JoinedColumns)) : List String :=
  let related := used.filterMap fun (_, joined) => (db.linkedTable? joined.table).map (·.name)
  ((base.name :: related).eraseDups).mergeSort fun a b => a ≤ b

namespace View

/-- The column that a field stands for: a display column, or a column of the base table. -/
def column? (v : View) (field : String) : Option TypedColumn :=
  match v.joins.find? (·.displayField == field) with
  | some j => some j.display
  | none => (v.base.column? field).map (columnOf none)

/-- The conditions of the filters; a filter on a field that is no column is passed over. -/
def filterConditions (v : View) : List FilterSpec → Attempt (List (Condition Parameter))
  | [] => .ok []
  | f :: rest => do
      let own ← match v.column? f.field with
        | some c => filterClauses c f.operator f.value
        | none => .ok []
      return own ++ (← filterConditions v rest)

/-- The conditions of the searches: the term in one of the columns, and a text in every column that
is searched on its own. -/
def searchConditions (v : View) (ordered : List String) (request : PagingRequest)
    (hidden : List String) : List (Condition Parameter) :=
  let columns := (ordered.filter fun f => !hidden.contains f).filterMap v.column?
  let global := match request.searchTerm with
    | some term =>
        if term = "" then [] else (Condition.any? (columns.map (searchClause · term))).toList
    | none => []
  global ++ request.columnSearches.filterMap fun (field, term) =>
    (v.column? field).map (searchClause · term)

/-- The order by a field, if it stands for a column. -/
def orderBy? (v : View) (field : String) (direction : Direction) : Option RowOrder :=
  (v.column? field).map fun c => .by v.base c.ref (direction == .descending)

/-- The requested order, if it is by a column that may be ordered by. -/
def requestedOrder? (v : View) (ordered : List String) (request : PagingRequest)
    (fixed : List String) : Option RowOrder :=
  match request.orderColumnIndex with
  | none => none
  | some i =>
      if i < 0 then none
      else match ordered[i.toNat]? with
        | some field =>
            if fixed.contains field then none else v.orderBy? field request.orderDirection
        | none => none

/-- The order by the first column of the key. -/
def keyOrder? (v : View) : Option RowOrder :=
  match v.base.primaryKey with
  | [] => none
  | field :: _ => (v.base.column? field).map fun c => .by v.base (columnOf none c).ref false

/-- The order of the rows. -/
def order (v : View) (ordered : List String) (request : PagingRequest) (declared : Option OrderBy)
    (fixed : List String) : Option RowOrder :=
  match v.requestedOrder? ordered request fixed with
  | some o => some o
  | none => match declared.bind fun o => v.orderBy? o.column o.direction with
    | some o => some o
    | none => v.keyOrder?

/-- The query of some conditions. -/
def query (v : View) (conditions : List (Condition Parameter)) : Query Parameter :=
  ⟨v.base, v.joins.map (·.join), conditions⟩

/-- The columns of a page with the names under which its rows show them. -/
def shownColumns (v : View) : Entries TypedColumn :=
  v.joins.foldl (fun columns j => columns.putNew j.displayField j.display)
    (v.base.columns.map fun c => (c.name, columnOf none c))

/-- A row as the types of its columns read it. -/
def readRow (v : View) (row : JoinedRow) : Attempt (Entries Value) :=
  v.shownColumns.mapM fun (name, c) => do return (name, ← c.type.read (row.cell c.ref))

end View

/-- A query that is ready to be run: its values are written by their types, then bound. -/
def prepare (q : Query Parameter) : Attempt (Query Stored) := do
  let written ← q.conditions.mapM (Condition.traverse Parameter.write)
  Query.bind ⟨q.base, q.joins, written⟩

/-- A page of rows with the two counts. -/
structure Fetched where
  total : Nat
  filtered : Nat
  rows : List (Entries Value)

/-- What a page is fetched by. -/
structure Fetch where
  ordered : List String
  request : PagingRequest
  filters : List FilterSpec
  orderBy : Option OrderBy
  /-- Fields that the search leaves out. -/
  hidden : List String
  /-- Fields that rows are not ordered by. -/
  fixed : List String

/-- The number of queries that a page takes: one less where nothing is searched for. -/
def queryCount (v : View) (f : Fetch) : Nat :=
  if (v.searchConditions f.ordered f.request f.hidden).isEmpty then 2 else 3

/-- Fetches the two counts and a page of rows. -/
def View.fetch (v : View) (f : Fetch) : Attempt Fetched := do
  let base ← v.filterConditions f.filters
  let search := v.searchConditions f.ordered f.request f.hidden
  let total := (← prepare (v.query base)).count
  let filtered ← if search.isEmpty then pure total
    else do pure (← prepare (v.query (base ++ search))).count
  let query ← prepare (v.query (base ++ search))
  bindSegment f.request.start f.request.length
  let found := ordered (v.order f.ordered f.request f.orderBy f.fixed) query.rows
  return ⟨total, filtered, ← (segment f.request.start f.request.length found).mapM v.readRow⟩

end AdminGrid.Staged

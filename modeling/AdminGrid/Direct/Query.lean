import AdminGrid.Direct.Clause
import AdminGrid.Layout.Relations
import AdminGrid.Layout.Requested
import AdminGrid.Request.Context

/-!
# The query of a single pass

The columns, joins, conditions and order of a request, read off the descriptor and the context in
one go.
-/

namespace AdminGrid.Direct

open Store

/-- The relations of a table by alias; a declared one takes the place of a discovered one. -/
def relationsOf (d : TableDescriptor) (catalog : List RelationSpec) : Entries RelationSpec :=
  (Layout.byAlias catalog).merge (Layout.byAlias d.relations)

/-- A join with the column that it shows. -/
structure ShownJoin where
  join : Join
  displayField : String
  displayColumn : ColumnRef

/-- The join of a relation, if the tables have its columns. -/
def joinOf? (db : Database) (base : Table) (name : String) (r : RelationSpec) :
    Option ShownJoin := do
  let joined ← Layout.joinedColumns? base.name r.foreignKey
  let related ← db.namedTable? joined.table
  let display ← related.column? (Layout.cutName r.displayField).2
  let key ← related.column? joined.column
  let baseColumn ← base.column? joined.baseColumn
  return {
    join := ⟨joinAlias name, related, key.name, baseColumn.name,
      key.affinity.join baseColumn.affinity, display.name⟩
    displayField := r.displayField
    displayColumn := ⟨some (joinAlias name), display.name, display.affinity⟩ }

/-- The columns of a table. -/
def baseColumns (t : Table) : Entries ColumnRef :=
  t.columns.map fun c => (c.name, ⟨none, c.name, c.affinity⟩)

/-- Everything of a single pass that its statements are made of. -/
structure Plan where
  base : Table
  fields : List String
  joins : List ShownJoin
  /-- The columns that fields stand for. -/
  columns : Entries ColumnRef
  shown : Layout.RelationMeta

/-- The declared fields without a property, and the display fields of relations whose alias is one
of them. -/
def excluded (d : TableDescriptor) (shown : Layout.RelationMeta) (allowed : ColumnSpec → Bool) :
    List String :=
  let declared := d.fieldsWith fun c => !allowed c
  declared ++ (shown.relations.filter fun e => declared.contains e.1).map (·.2.displayField)

/-- The plan of a request for a table. -/
def plan (db : Database) (base : Table) (d : TableDescriptor) (catalog : List RelationSpec) :
    Attempt Plan := do
  let requested := Layout.requestedColumns d
  let relations := relationsOf d catalog
  let start : Layout.Columns := ⟨Layout.schemaColumns requested base.columnNames, d.labels, .none⟩
  let resolved := Layout.applyRelations start requested relations.values
  let fields ← Layout.placeFormulas resolved.fields d.formulas
  let joins := resolved.relations.relations.keys.filterMap fun name =>
    (relations.get? name).bind (joinOf? db base name)
  let columns := (baseColumns base).merge (joins.map fun j => (j.displayField, j.displayColumn))
  return ⟨base, fields, joins, columns, resolved.relations⟩

/-- The conditions of a filter, none for a filter on a field that is no column. -/
def Plan.conditionsOf (p : Plan) (f : FilterSpec) : Attempt (List (Condition Value)) :=
  match p.columns.get? f.field with
  | some c => filterClauses c f.operator f.value
  | none => .ok []

/-- The conditions of the filters. -/
def Plan.filterConditions (p : Plan) (filters : List FilterSpec) :
    Attempt (List (Condition Value)) := do
  return (← filters.mapM p.conditionsOf).flatten

theorem Plan.filterConditions_cons (p : Plan) (f : FilterSpec) (rest : List FilterSpec) :
    p.filterConditions (f :: rest) = do
      return (← p.conditionsOf f) ++ (← p.filterConditions rest) := by
  simp only [Plan.filterConditions, List.mapM_cons, bind_assoc, pure_bind, List.flatten_cons]

/-- The conditions of the search for a term in all searchable columns. -/
def Plan.termConditions (p : Plan) (d : TableDescriptor) (term : Option String) :
    List (Condition Value) :=
  match term with
  | none => []
  | some term =>
      if term = "" then []
      else
        let hidden := excluded d p.shown (·.searchable)
        let searched := (p.fields.filter fun f => !hidden.contains f).filterMap p.columns.get?
        (Condition.any? (searched.map (searchClause · term))).toList

/-- The conditions of the searches in single columns. -/
def Plan.columnConditions (p : Plan) (searches : Entries String) : List (Condition Value) :=
  searches.filterMap fun (field, term) => (p.columns.get? field).map (searchClause · term)

/-- The column of the requested order, if it can be ordered by. -/
def Plan.requestedOrder? (p : Plan) (d : TableDescriptor) (request : PagingRequest) :
    Option RowOrder := do
  let i ← request.orderColumnIndex
  if i < 0 then none
  let field ← p.fields[i.toNat]?
  if (excluded d p.shown (·.sortable)).contains field then none
  return .by p.base (← p.columns.get? field) (request.orderDirection == .descending)

/-- The order of the rows: the requested one, that of the descriptor, or that of the key. -/
def Plan.order (p : Plan) (d : TableDescriptor) (request : PagingRequest) : Option RowOrder :=
  let declared : Option RowOrder := do
    let o ← d.orderBy
    return .by p.base (← p.columns.get? o.column) (o.direction == .descending)
  let byKey : Option RowOrder := do
    let c ← p.base.column? (← p.base.primaryKey.head?)
    return .by p.base ⟨none, c.name, c.affinity⟩ false
  ((p.requestedOrder? d request).or declared).or byKey

/-- The statement of some conditions. -/
def Plan.statement (p : Plan) (conditions : List (Condition Value)) : Statement where
  names := p.base.name ::
    (p.joins.flatMap fun j =>
      [j.join.table.name, j.join.tableAlias, j.join.relatedColumn, j.join.baseColumn]) ++
    (conditions.flatMap columnsOf).flatMap (namesOf p.base.name)
  query := ⟨p.base, p.joins.map (·.join), conditions⟩

/-- The names that are added for the rows of a page: the shown columns and the one that orders. -/
def Plan.pageNames (p : Plan) (order : Option RowOrder) : List String :=
  (p.joins.flatMap fun j => j.displayField :: namesOf p.base.name j.displayColumn) ++
    ((order.map fun o => (o.columns.take 1).flatMap (namesOf p.base.name)).getD [])

/-- What the statements of a request find. -/
structure Found where
  total : Nat
  filtered : Nat
  rows : List JoinedRow

/-- Runs the statements of a request: the count of the filtered table, the count of what the search
leaves, and the page. -/
def Plan.find (p : Plan) (d : TableDescriptor) (context : Request.Context) : Attempt Found := do
  let request := context.paging
  let filters ← p.filterConditions context.filters
  let search := p.termConditions d request.searchTerm ++ p.columnConditions request.columnSearches
  let total := (← (p.statement filters).prepare).count
  let filtered ← if search.isEmpty then pure total
    else do pure (← (p.statement (filters ++ search)).prepare).count
  let order := p.order d request
  let page := p.statement (filters ++ search)
  let query ← { page with names := page.names ++ p.pageNames order }.prepare
  bindSegment request.start request.length
  return ⟨total, filtered, segment request.start request.length (ordered order query.rows)⟩

end AdminGrid.Direct

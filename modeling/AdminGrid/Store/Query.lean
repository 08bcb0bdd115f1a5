import AdminGrid.Store.Condition

/-!
# Queries

A query joins other tables to a base table, keeps the rows of which all its conditions are true, and
puts them in an order.  A row of the base table that no row of a joined table belongs to is kept
without one.  Rows that the order does not tell apart stay in the order in which they were found:
rows of the base table in their own order or in that of a key that is searched, and rows of a joined
table in their own order or in that of the index through which they are looked up.
-/

namespace AdminGrid.Store

/-- A table that is joined under an alias where one of its columns is equal to one of the base
table. -/
structure Join where
  tableAlias : String
  table : Table
  relatedColumn : String
  baseColumn : String
  affinity : Affinity
  /-- The column of the joined table that is shown. -/
  shown : String

/-- The order of rows by some columns, the first one that differs deciding. -/
structure RowOrder where
  columns : List ColumnRef
  descending : Bool

/-- A query, with values of some kind. -/
structure Query (α : Type) where
  base : Table
  joins : List Join
  conditions : List (Condition α)

/-- The order of two lists of cells by their first difference. -/
def compareCells : List (Stored × Stored) → Ordering
  | [] => .eq
  | (v, w) :: rest => (v.order w).then (compareCells rest)

/-- Rows of a table in the order of some of its columns. -/
def sortedBy (columns : List String) (rows : List StoredRow) : List StoredRow :=
  let cell (row : StoredRow) (column : String) : Stored := (Entries.get? column row).getD .null
  if columns.isEmpty then rows
  else rows.mergeSort fun a b => compareCells (columns.map fun c => (cell a c, cell b c)) != .gt

/-- Whether a row of a joined table belongs to a row of the base table. -/
def Join.belongs (j : Join) (base related : StoredRow) : Bool :=
  match Entries.get? j.relatedColumn related, Entries.get? j.baseColumn base with
  | some v, some w => j.affinity.compare? v w == some .eq
  | _, _ => false

/-- Whether a reference to a column of a joined table may mean one of another table, since their
aliases differ in capital and small letters alone. -/
def Join.blurredBy (j k : Join) : Bool :=
  j.tableAlias != k.tableAlias && lowerAscii j.tableAlias == lowerAscii k.tableAlias &&
    k.table.columns.any fun c =>
      [j.relatedColumn, j.shown].any fun column => lowerAscii c.name == lowerAscii column

/-- A joined row with every row of one more table that belongs to it, or without one.  The rows come
in the order of some columns of that table. -/
def Join.extend (j : Join) (columns : List String) (row : JoinedRow) : List JoinedRow :=
  match sortedBy columns (j.table.rows.filter (j.belongs row.base)) with
  | [] => [{ row with related := row.related ++ [(j.tableAlias, none)] }]
  | found => found.map fun r => { row with related := row.related ++ [(j.tableAlias, some r)] }

namespace Condition

variable {α : Type}

/-- Whether a condition looks a column of the base table up in an index. -/
def searches (column : String) : Condition α → Bool
  | compare op c _ => op != .unequal && c.alias?.isNone && c.column == column
  | among c _ => c.alias?.isNone && c.column == column
  | _ => false

/-- The most values in which a search for them finds only a few rows. -/
def fewValues (unique : Bool) : Nat := if unique then 43 else 4

/-- Whether a condition leaves only a few rows, for the values of one column. -/
def leavesFew (column : String) (unique : Bool) : Condition α → Bool
  | compare .equal c _ => c.alias?.isNone && c.column == column
  | among c vs => c.alias?.isNone && c.column == column && vs.length ≤ fewValues unique
  | _ => false

/-- Whether a condition is never true of a row without a joined row of an alias. -/
def needs (joined : String) : Condition α → Bool
  | compare _ c _ | among c _ | notNull c | notBlank c => c.alias? = some joined
  | _ => false

end Condition

namespace Query

variable {α : Type}

/-- The columns in whose order the rows of the base table are found: those of the key, where it is
searched. -/
def scanColumns (q : Query α) : List String :=
  match q.base.primaryKey with
  | [] => []
  | first :: rest =>
      if (Table.orderColumn? q.base.columns).isSome then []
      else if q.conditions.any (Condition.searches first) then first :: rest
      else []

/-- Whether the conditions leave only a few rows of the base table. -/
def leavesFew (q : Query α) : Bool :=
  match q.base.primaryKey with
  | [] => false
  | first :: rest => q.conditions.any (Condition.leavesFew first rest.isEmpty)

/-- The columns in whose order the rows of a joined table are found.  An index that is made for the
query holds the shown column; none is made for a few rows, nor where a row must be there. -/
def lookupColumns (q : Query α) (j : Join) : List String :=
  let keyAffinity := ((j.table.column? j.relatedColumn).map (·.affinity)).getD .any
  if j.affinity.isNumeric && !keyAffinity.isNumeric then []
  else if j.table.primaryKey.head? = some j.relatedColumn then j.table.primaryKey.tail
  else if q.leavesFew || q.conditions.any (Condition.needs j.tableAlias) then []
  else [j.shown]

/-- The rows of the base table with the rows of the joined tables. -/
def joinedRows (q : Query α) : List JoinedRow :=
  q.joins.foldl (fun rows j => rows.flatMap (j.extend (q.lookupColumns j)))
    ((sortedBy q.scanColumns q.base.rows).map fun r => ⟨r, []⟩)

/-- Whether all conditions are true of a row. -/
def holds (q : Query Stored) (row : JoinedRow) : Bool :=
  q.conditions.all fun c => c.truth row == some true

/-- The rows of a query. -/
def rows (q : Query Stored) : List JoinedRow := q.joinedRows.filter q.holds

/-- The number of rows of a query. -/
def count (q : Query Stored) : Nat := q.rows.length

/-- The most tables that a query can have. -/
def maxTables : Nat := 64

/-- Whether a query can be run: it has not too many tables, each has an alias of its own, and every
reference to a column means one column.  Capital and small letters are the same there. -/
structure Runnable (q : Query α) : Prop where
  tables : q.joins.length < maxTables
  aliases : (q.joins.map (·.tableAlias)).Nodup
  base : ∀ j ∈ q.joins, lowerAscii j.tableAlias ≠ lowerAscii q.base.name
  apart : ∀ j ∈ q.joins, ∀ k ∈ q.joins, j.blurredBy k = false

instance (q : Query α) : Decidable q.Runnable :=
  decidable_of_iff (q.joins.length < maxTables ∧ (q.joins.map (·.tableAlias)).Nodup ∧
    (∀ j ∈ q.joins, lowerAscii j.tableAlias ≠ lowerAscii q.base.name) ∧
    ∀ j ∈ q.joins, ∀ k ∈ q.joins, j.blurredBy k = false)
    ⟨fun ⟨tables, aliases, base, apart⟩ => ⟨tables, aliases, base, apart⟩,
      fun ⟨tables, aliases, base, apart⟩ => ⟨tables, aliases, base, apart⟩⟩

/-- A query with its values bound, where it can be run. -/
def bind (q : Query Value) : Attempt (Query Stored) := do
  if ¬ q.Runnable then .error .unavailable
  return ⟨q.base, q.joins, ← q.conditions.mapM (Condition.traverse Store.bind)⟩

end Query

/-- The order by a column.  By the first column of a key of several, rows come in the order of the
whole key. -/
def RowOrder.by (base : Table) (c : ColumnRef) (descending : Bool) : RowOrder :=
  let keyColumn (name : String) : Option ColumnRef :=
    (base.column? name).map fun d => ⟨none, name, d.affinity⟩
  if c.alias?.isNone && base.primaryKey.head? = some c.column then
    ⟨c :: base.primaryKey.tail.filterMap keyColumn, descending⟩
  else ⟨[c], descending⟩

/-- Whether a row may stand before another one. -/
def RowOrder.before (o : RowOrder) (a b : JoinedRow) : Bool :=
  let order := compareCells (o.columns.map fun c => (a.cell c, b.cell c))
  if o.descending then order != .lt else order != .gt

/-- Rows in an order. -/
def ordered (order : Option RowOrder) (rows : List JoinedRow) : List JoinedRow :=
  match order with
  | some o => rows.mergeSort o.before
  | none => rows

/-- A segment of a list: a negative length takes all that is left. -/
def segment {α : Type} (start length : Int) (xs : List α) : List α :=
  let rest := xs.drop start.toNat
  if length < 0 then rest else rest.take length.toNat

/-- Binds the bounds of a segment. -/
def bindSegment (start length : Int) : Attempt Unit :=
  if fitsCell length && fitsCell start then .ok () else .error .outOfRange

end AdminGrid.Store

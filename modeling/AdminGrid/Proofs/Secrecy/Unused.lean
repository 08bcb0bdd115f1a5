import AdminGrid.Direct.Query
import AdminGrid.Proofs.Layout.ShownFields
import AdminGrid.Proofs.Outcome
import AdminGrid.Proofs.Store.Sight
import AdminGrid.Source
import AdminGrid.Staged.Compile

/-!
# Columns that are only shown

Two databases are twins but for one column of one table if they have the same tables with the same
rows, except for what that column holds.  Names lead to the same tables in both.

A request may show a column without making any other use of it: it is in no key and no join, and no
filter, order or search is about it.  What a query sees then is everything but this column.
-/

namespace AdminGrid.Store

/-- Two tables with the same rows, except for one column if they have a certain name. -/
structure Table.Twin (ofTable column : String) (t t' : Table) : Prop where
  name : t.name = t'.name
  columns : t.columns = t'.columns
  keys : t.keys = t'.keys
  rows : List.Forall₂ (Entries.AlikeOn fun k => t.name = ofTable → k ≠ column) t.rows t'.rows

/-- Two databases with the same tables, except for one column of one of them. -/
def Database.Twin (ofTable column : String) (db db' : Database) : Prop :=
  List.Forall₂ (Table.Twin ofTable column) db.tables db'.tables

theorem rel_find? {α β : Type} {R : α → β → Prop} {p : α → Bool} {q : β → Bool}
    (hpq : ∀ x y, R x y → p x = q y) {xs : List α} {ys : List β} (h : List.Forall₂ R xs ys) :
    Option.Rel R (xs.find? p) (ys.find? q) := by
  induction h with
  | nil => exact .none
  | @cons x y _ _ hxy _ ih =>
      rw [List.find?_cons, List.find?_cons, ← hpq x y hxy]
      cases p x with
      | true => exact .some hxy
      | false => exact ih

namespace Database.Twin

variable {ofTable column : String} {db db' : Database}

theorem table? (h : Database.Twin ofTable column db db') (name : String) :
    Option.Rel (Table.Twin ofTable column) (db.table? name) (db'.table? name) :=
  rel_find? (fun t t' ht => by rw [ht.name]) h

theorem namedTable? (h : Database.Twin ofTable column db db') (name : String) :
    Option.Rel (Table.Twin ofTable column) (db.namedTable? name) (db'.namedTable? name) :=
  rel_find? (fun t t' ht => by rw [ht.name]) h

theorem closure_eq (h : Database.Twin ofTable column db db') (steps : Nat) (names : List String) :
    db.closure steps names = db'.closure steps names := by
  induction steps generalizing names with
  | zero => rfl
  | succ steps ih =>
      unfold closure
      rw [ih]
      refine congrArg (fun next => db'.closure steps (names ++ newNames names next))
        (List.flatMap_congr fun name _ => ?_)
      have htable := h.table? name
      generalize db.table? name = found at htable ⊢
      generalize db'.table? name = found' at htable ⊢
      cases htable with
      | none => rfl
      | some ht => exact congrArg (List.map ForeignKey.table) ht.keys

theorem linkedTable? (h : Database.Twin ofTable column db db') (name : String) :
    Option.Rel (Table.Twin ofTable column) (db.linkedTable? name) (db'.linkedTable? name) := by
  have hsome : ∀ n, (db.table? n).isSome = (db'.table? n).isSome := by
    intro n
    have htable := h.table? n
    generalize db.table? n = found at htable ⊢
    generalize db'.table? n = found' at htable ⊢
    cases htable <;> rfl
  unfold Database.linkedTable?
  simp only [← h.closure_eq, ← List.Forall₂.length_eq h, hsome]
  split
  · exact h.table? name
  · exact .none

end Database.Twin

end AdminGrid.Store

namespace AdminGrid

open Store

/-- All columns are seen but one of a base table, also where the table is joined to itself. -/
def sightBut (column : String) (selfJoined : String → Prop) : Sight
  | none, name => name ≠ column
  | some joined, name => selfJoined joined → name ≠ column

/-- Whether a relation neither joins nor shows a column of a table. -/
def RelationSpec.LeavesOut (ofTable column : String) (r : RelationSpec) : Prop :=
  ∀ joined ∈ Layout.joinedColumns? ofTable r.foreignKey, joined.baseColumn ≠ column ∧
    (lowerAscii joined.table = lowerAscii ofTable →
      joined.column ≠ column ∧ (Layout.cutName r.displayField).2 ≠ column)

/-- Whether a column is in the key of no table of a name. -/
def Store.Database.NoKey (db : Database) (ofTable column : String) : Prop :=
  ∀ t ∈ db.tables, t.name = ofTable → column ∉ t.primaryKey

/-- The fields that a table shows, in their order. -/
def shownFields (base : Table) (d : TableDescriptor) (catalog : List RelationSpec) :
    Attempt (List String) :=
  (Layout.resolveColumns (Staged.columnRequest base d
    (Layout.mergeRelations d.relations catalog))).map (·.ordered)

/-- Whether a request for a table makes no use of a column of the table but to show it, and maybe to
search it. -/
structure Unused (source : Source) (d : TableDescriptor) (c : Request.Context) (column : String) :
    Prop where
  key : source.database.NoKey d.name column
  joins : ∀ r ∈ (Direct.relationsOf d source.catalog).values,
    r.aliasField ∈ Layout.requestedColumns d → r.LeavesOut d.name column
  filters : ∀ f ∈ c.filters, f.field ≠ column
  declaredOrder : ∀ o ∈ d.orderBy, o.column ≠ column
  requestedOrder : ∀ base fields i, source.database.table? d.name = some base →
    shownFields base d source.catalog = .ok fields → c.paging.orderColumnIndex = some i →
      fields[i.toNat]? = some column → column ∈ d.fieldsWith fun spec => !spec.sortable

/-- Whether no search of a request looks into a column: it is not searched on its own, and the
search for a term leaves it out, because it is declared so or because nothing that the table shows
has its name. -/
structure Unsearched (d : TableDescriptor) (catalog : List RelationSpec) (request : PagingRequest)
    (column : String) : Prop where
  alone : column ∉ request.columnSearches.keys
  term : column ∈ d.fieldsWith (fun spec => !spec.searchable) ∨
    column ∉ Layout.requestedColumns d ∧
      column ∉ (Direct.relationsOf d catalog).values.map (·.displayField) ∧
        column ∉ d.formulas.map (·.name)

theorem mem_shownFields {base : Table} {d : TableDescriptor} {catalog : List RelationSpec}
    {fields : List String} (h : shownFields base d catalog = .ok fields) {field : String}
    (hfield : field ∈ fields) :
    field ∈ Layout.requestedColumns d ∨
      field ∈ (Direct.relationsOf d catalog).values.map (·.displayField) ∨
        field ∈ d.formulas.map (·.name) := by
  obtain ⟨resolved, hresolved, rfl⟩ := map_eq_ok.1 h
  obtain ⟨ordered, hordered, hresolved⟩ := bind_eq_ok.1 hresolved
  rw [← pure_eq_ok.1 hresolved] at hfield
  exact Layout.mem_shown (fun x hx => (List.mem_filter.1 hx).1) hordered hfield

/-- A shown field that a search for a term looks into is not the column. -/
theorem Unsearched.ne_of_mem {d : TableDescriptor} {catalog : List RelationSpec}
    {request : PagingRequest} {column : String} (h : Unsearched d catalog request column)
    {base : Table} {fields : List String} (hfields : shownFields base d catalog = .ok fields)
    {field : String} (hfield : field ∈ fields)
    (hsearched : field ∉ d.fieldsWith fun spec => !spec.searchable) : field ≠ column := by
  rintro rfl
  rcases h.term with hhidden | ⟨hrequested, hdisplay, hformula⟩
  · exact hsearched hhidden
  · rcases mem_shownFields hfields hfield with hmem | hmem | hmem
    · exact hrequested hmem
    · exact hdisplay hmem
    · exact hformula hmem

theorem Store.name_of_column? {t : Table} {name : String} {c : ColumnDef}
    (h : t.column? name = some c) : c.name = name := by
  simpa using List.find?_some h

section Joins

variable {ofTable column : String} {db db' : Database} {selfJoined : String → Prop}

/-- A table and its twin are alike to a join under an alias that tells whether it is the table
itself. -/
theorem alikeOn_of_twin {t t' : Table} (ht : t.Twin ofTable column t') {seen : String → Prop}
    (hseen : ∀ name, seen name ↔ (t.name = ofTable → name ≠ column))
    (hkey : t.name = ofTable → column ∉ t.primaryKey) : t.AlikeOn seen t' where
  name := ht.name
  columns := ht.columns
  rows := ht.rows.imp fun r r' hr => hr.mono fun name hname => (hseen name).1 hname
  seesKey name hname := (hseen name).2 fun hself => by
    rintro rfl
    exact hkey hself hname

/-- A relation that leaves a column out joins a table and its twin alike. -/
theorem alikeOn_join {base t t' : Table} (ht : t.Twin base.name column t') {r : RelationSpec}
    (hr : r.LeavesOut base.name column) {joined : Layout.JoinedColumns}
    (hjoined : joined ∈ Layout.joinedColumns? base.name r.foreignKey)
    (hname : lowerAscii t.name = lowerAscii joined.table)
    (hkey : t.name = base.name → column ∉ t.primaryKey) {name : String}
    (hself : selfJoined name ↔ t.name = base.name) {key baseColumn display : ColumnDef}
    (hkeyColumn : t.column? joined.column = some key)
    (hbaseColumn : base.column? joined.baseColumn = some baseColumn)
    (hdisplay : t.column? (Layout.cutName r.displayField).2 = some display) :
    Join.AlikeOn (sightBut column selfJoined)
      ⟨name, t, key.name, baseColumn.name, key.affinity.join baseColumn.affinity, display.name⟩
      ⟨name, t', key.name, baseColumn.name, key.affinity.join baseColumn.affinity,
        display.name⟩ := by
  obtain ⟨hbase, hrelated⟩ := hr joined hjoined
  -- the column matters to the join only where the table is joined to itself
  have hnames : t.name = base.name → key.name ≠ column ∧ display.name ≠ column := fun hsame => by
    rw [name_of_column? hkeyColumn, name_of_column? hdisplay]
    exact hrelated (by rw [← hname, hsame])
  exact {
    tableAlias := rfl
    table := alikeOn_of_twin ht (fun _ => imp_congr_left hself) hkey
    relatedColumn := rfl
    baseColumn := rfl
    affinity := rfl
    shown := rfl
    seesRelated := fun h => (hnames (hself.1 h)).1
    seesBase := name_of_column? hbaseColumn ▸ hbase
    seesShown := fun h => (hnames (hself.1 h)).2 }

end Joins

end AdminGrid

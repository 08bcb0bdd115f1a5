import AdminGrid.Proofs.Parity.Names
import AdminGrid.Proofs.Secrecy.Unused

/-!
# Searching in a single pass

The statements of a single pass refer to columns by the fields of a request: those that it filters
by, orders by and searches, and those of its relations.  Over twin databases that differ in a column
which is none of these, they find rows that differ in that column alone.
-/

namespace AdminGrid

open Store

namespace Direct

/-- Two joins over alike tables that show one column under one name. -/
structure ShownJoin.AlikeOn (seen : Sight) (j j' : ShownJoin) : Prop where
  join : j.join.AlikeOn seen j'.join
  displayField : j.displayField = j'.displayField
  displayColumn : j.displayColumn = j'.displayColumn
  seesDisplay : j.displayColumn.SeenIn seen

/-- Whether an alias joins the base table of a plan to itself. -/
def Plan.SelfJoins (p : Plan) (name : String) : Prop :=
  ∃ j ∈ p.joins, j.join.tableAlias = name ∧ j.join.table.name = p.base.name

/-- What is seen of the tables of a plan without a column of its base table. -/
def Plan.sightBut (p : Plan) (column : String) : Sight := AdminGrid.sightBut column p.SelfJoins

/-- Two plans that differ in a column of their base tables alone, which only the field of its own
name stands for. -/
structure Plan.Twin (column : String) (p p' : Plan) : Prop where
  base : p.base.AlikeOn (p.sightBut column none) p'.base
  fields : p.fields = p'.fields
  joins : List.Forall₂ (ShownJoin.AlikeOn (p.sightBut column)) p.joins p'.joins
  columns : p.columns = p'.columns
  shown : p.shown = p'.shown
  sees : ∀ field c, field ≠ column → p.columns.get? field = some c →
    c.SeenIn (p.sightBut column)

section Plans

variable {ofTable column : String} {db db' : Database} {base base' : Table}
  {selfJoined : String → Prop}

/-- The name of a table that a statement finds is that of the table, up to the size of letters. -/
theorem lowerAscii_of_namedTable? {name : String} {t : Table} (h : db.namedTable? name = some t) :
    lowerAscii t.name = lowerAscii name := by
  simpa using List.find?_some h

theorem rel_joinOf? (hdb : db.Twin base.name column db') (hbase : base.Twin base.name column base')
    {r : RelationSpec} (hr : r.LeavesOut base.name column) (hkey : db.NoKey base.name column)
    {name : String} (hself : ∀ j, joinOf? db base name r = some j →
      (selfJoined (joinAlias name) ↔ j.join.table.name = base.name)) :
    Option.Rel (ShownJoin.AlikeOn (sightBut column selfJoined)) (joinOf? db base name r)
      (joinOf? db' base' name r) := by
  unfold joinOf? at hself ⊢
  rw [← hbase.name, ← column?_congr hbase.columns]
  cases hjoined : Layout.joinedColumns? base.name r.foreignKey with
  | none => exact .none
  | some joined =>
      simp only [hjoined, Option.bind_eq_bind, Option.bind_some] at hself ⊢
      have hrel := hdb.namedTable? joined.table
      have hname := fun t => @lowerAscii_of_namedTable? db joined.table t
      have hmem := fun t (h : db.namedTable? joined.table = some t) =>
        List.mem_of_find?_eq_some h
      generalize db.namedTable? joined.table = found at hrel hname hmem hself ⊢
      generalize db'.namedTable? joined.table = found' at hrel ⊢
      cases hrel with
      | none => exact .none
      | @some t t' ht =>
          simp only [Option.bind_some, ← column?_congr ht.columns] at hself ⊢
          cases hdisplay : t.column? (Layout.cutName r.displayField).2 with
          | none => exact .none
          | some display =>
              cases hkeyColumn : t.column? joined.column with
              | none => exact .none
              | some key =>
                  cases hbaseFound : base.column? joined.baseColumn with
                  | none => exact .none
                  | some baseColumn =>
                      rw [hdisplay, hkeyColumn, hbaseFound] at hself
                      have hjoin := alikeOn_join ht hr hjoined (hname t rfl) (hkey t (hmem t rfl))
                        (hself _ rfl) hkeyColumn hbaseFound hdisplay
                      exact .some ⟨hjoin, rfl, rfl, hjoin.seesShown⟩

theorem tableAlias_of_joinOf? {name : String} {r : RelationSpec} {j : ShownJoin}
    (h : joinOf? db base name r = some j) : j.join.tableAlias = joinAlias name := by
  unfold joinOf? at h
  simp only [Option.bind_eq_bind, Option.bind_eq_some_iff] at h
  obtain ⟨_, -, _, -, _, -, _, -, _, -, hj⟩ := h
  cases hj
  rfl

theorem forall₂_filterMap {α β : Type} {R : β → β → Prop} {f g : α → Option β} {xs : List α}
    (h : ∀ x ∈ xs, Option.Rel R (f x) (g x)) :
    List.Forall₂ R (xs.filterMap f) (xs.filterMap g) := by
  induction xs with
  | nil => exact .nil
  | cons x xs ih =>
      have hhead := h x List.mem_cons_self
      have htail := ih fun y hy => h y (List.mem_cons_of_mem x hy)
      rw [List.filterMap_cons, List.filterMap_cons]
      generalize f x = fx at hhead
      generalize g x = gx at hhead
      cases hhead with
      | none => exact htail
      | some hxy => exact .cons hxy htail

/-- The columns that fields of a plan stand for: those of its table, and those that joins show. -/
theorem sees_of_merge {p : Plan} {seen : Sight}
    (hcolumns : p.columns = (baseColumns p.base).merge
      (p.joins.map fun j => (j.displayField, j.displayColumn)))
    (hjoins : ∀ j ∈ p.joins, j.displayColumn.SeenIn seen)
    (hbase : ∀ name, name ≠ column → seen none name) {field : String} (hfield : field ≠ column)
    {c : ColumnRef} (hget : p.columns.get? field = some c) : c.SeenIn seen := by
  rw [hcolumns, Entries.get?_merge, Option.or_eq_some_iff] at hget
  rcases hget with hget | ⟨-, hget⟩
  · obtain ⟨j, hj, heq⟩ := List.mem_map.1 (List.mem_reverse.1 (Entries.mem_of_get?_eq_some hget))
    obtain rfl : j.displayColumn = c := congrArg Prod.snd heq
    exact hjoins j hj
  · obtain ⟨def_, -, heq⟩ := List.mem_map.1 (Entries.mem_of_get?_eq_some hget)
    obtain ⟨rfl, rfl⟩ : def_.name = field ∧ ⟨none, def_.name, def_.affinity⟩ = c := by
      simpa using heq
    exact hbase _ hfield

section Request

variable {d : TableDescriptor} {catalog : List RelationSpec}

/-- The joins of the relations of some aliases. -/
def joinsUnder (db : Database) (base : Table) (d : TableDescriptor) (catalog : List RelationSpec)
    (names : List String) : List ShownJoin :=
  names.filterMap fun name => ((relationsOf d catalog).get? name).bind (joinOf? db base name)

/-- An alias joins the table to itself exactly if the one join under it does. -/
theorem exists_joinsUnder_iff {names : List String} {name : String} (hname : name ∈ names)
    {r : RelationSpec} (hr : (relationsOf d catalog).get? name = some r) {j : ShownJoin}
    (hj : joinOf? db base name r = some j) :
    (∃ other ∈ joinsUnder db base d catalog names, other.join.tableAlias = joinAlias name ∧
      other.join.table.name = base.name) ↔ j.join.table.name = base.name := by
  constructor
  · rintro ⟨other, hother, halias, htable⟩
    obtain ⟨name', -, hother⟩ := List.mem_filterMap.1 hother
    obtain ⟨r', hr', hother⟩ := Option.bind_eq_some_iff.1 hother
    obtain rfl := joinAlias_injective ((tableAlias_of_joinOf? hother).symm.trans halias)
    obtain rfl := Option.some.inj (hr.symm.trans hr')
    obtain rfl := Option.some.inj (hj.symm.trans hother)
    exact htable
  · refine fun htable => ⟨j, List.mem_filterMap.2 ⟨name, hname, ?_⟩, tableAlias_of_joinOf? hj,
      htable⟩
    rw [hr]
    exact hj

theorem forall₂_joinsUnder (hdb : db.Twin base.name column db')
    (hbase : base.Twin base.name column base') (hkey : db.NoKey base.name column)
    (hjoins : ∀ r ∈ (relationsOf d catalog).values, r.aliasField ∈ Layout.requestedColumns d →
      r.LeavesOut base.name column) {names : List String}
    (hnames : ∀ name ∈ names, name ∈ Layout.requestedColumns d) :
    List.Forall₂ (ShownJoin.AlikeOn (sightBut column fun name =>
        ∃ j ∈ joinsUnder db base d catalog names, j.join.tableAlias = name ∧
          j.join.table.name = base.name))
      (joinsUnder db base d catalog names) (joinsUnder db' base' d catalog names) := by
  refine forall₂_filterMap fun name hname => ?_
  cases hr : (relationsOf d catalog).get? name with
  | none => exact .none
  | some r =>
      obtain rfl := aliasField_of_get?_relationsOf hr
      have hmem : r ∈ (relationsOf d catalog).values :=
        List.mem_map_of_mem (Entries.mem_of_get?_eq_some hr)
      exact rel_joinOf? hdb hbase (hjoins r hmem (hnames _ hname)) hkey fun j hj =>
        exists_joinsUnder_iff hname hr hj

/-- The columns of a table with its relations, before formulas are placed among them. -/
def relatedColumns (base : Table) (d : TableDescriptor) (catalog : List RelationSpec) :
    Layout.Columns :=
  Layout.applyRelations
    ⟨Layout.schemaColumns (Layout.requestedColumns d) base.columnNames, d.labels, .none⟩
    (Layout.requestedColumns d) (relationsOf d catalog).values

theorem plan_eq (db : Database) (base : Table) (d : TableDescriptor)
    (catalog : List RelationSpec) : plan db base d catalog =
      (Layout.placeFormulas (relatedColumns base d catalog).fields d.formulas).map fun fields =>
        let joins := joinsUnder db base d catalog
          (relatedColumns base d catalog).relations.relations.keys
        ⟨base, fields, joins,
          (baseColumns base).merge (joins.map fun j => (j.displayField, j.displayColumn)),
          (relatedColumns base d catalog).relations⟩ := by
  unfold plan
  show (Layout.placeFormulas (relatedColumns base d catalog).fields d.formulas >>= _) = _
  cases Layout.placeFormulas (relatedColumns base d catalog).fields d.formulas <;> rfl

/-- Both plans of a request differ in the column alone, or both fail. -/
theorem alike_plan_of_twin (hdb : db.Twin base.name column db')
    (hbase : base.Twin base.name column base') (hmem : base ∈ db.tables)
    (hkey : db.NoKey base.name column)
    (hjoins : ∀ r ∈ (relationsOf d catalog).values, r.aliasField ∈ Layout.requestedColumns d →
      r.LeavesOut base.name column) :
    Alike (Plan.Twin column) (plan db base d catalog) (plan db' base' d catalog) := by
  have hrelated : relatedColumns base d catalog = relatedColumns base' d catalog := by
    rw [relatedColumns, relatedColumns, Table.columnNames, Table.columnNames, hbase.columns]
  have hcolumns : baseColumns base = baseColumns base' := by
    rw [baseColumns, baseColumns, hbase.columns]
  rw [plan_eq, plan_eq, ← hrelated, ← hcolumns]
  have hnames : ∀ name ∈ (relatedColumns base d catalog).relations.relations.keys,
      name ∈ Layout.requestedColumns d := fun name hname => Layout.mem_requested_of_shown hname
  have hall := forall₂_joinsUnder hdb hbase hkey hjoins hnames
  generalize relatedColumns base d catalog = related at hall
  generalize joinsUnder db base d catalog related.relations.relations.keys = joins at hall
  generalize joinsUnder db' base' d catalog related.relations.relations.keys = joins' at hall
  have hshown : joins.map (fun j => (j.displayField, j.displayColumn)) =
      joins'.map fun j => (j.displayField, j.displayColumn) := by
    rw [← List.forall₂_eq_eq_eq, List.forall₂_map_left_iff, List.forall₂_map_right_iff]
    exact hall.imp fun j j' hj => by rw [hj.displayField, hj.displayColumn]
  refine (Alike.refl (Layout.placeFormulas related.fields d.formulas)).map fun _ _ hfields => ?_
  exact {
    base := alikeOn_of_twin hbase (fun name => ⟨fun h _ => h, fun h => h rfl⟩) (hkey base hmem)
    fields := hfields
    joins := hall
    columns := congrArg (Entries.merge (baseColumns base)) hshown
    shown := rfl
    sees := fun field c hfield hget => sees_of_merge rfl
      (forall_of_forall₂ (fun _ _ hj => hj.seesDisplay) hall) (fun _ h => h) hfield hget }

end Request

end Plans

/-- What the statements of two requests find: the same numbers of rows, and rows that are alike. -/
structure Found.AlikeOn (seen : Sight) (f f' : Found) : Prop where
  total : f.total = f'.total
  filtered : f.filtered = f'.filtered
  rows : List.Forall₂ (JoinedRow.AlikeOn seen) f.rows f'.rows

section Statements

variable {column : String} {p p' : Plan} {d : TableDescriptor} {c : Request.Context}

theorem filterConditions_congr (h : p.columns = p'.columns) (filters : List FilterSpec) :
    p.filterConditions filters = p'.filterConditions filters := by
  have hown : p.conditionsOf = p'.conditionsOf := funext fun f => by
    rw [Plan.conditionsOf, Plan.conditionsOf, h]
  rw [Plan.filterConditions, Plan.filterConditions, hown]

/-- The conditions of a search are those of a twin. -/
theorem searchConditions_eq (h : p.Twin column p') (d : TableDescriptor)
    (request : PagingRequest) : p.termConditions d request.searchTerm ++
        p.columnConditions request.columnSearches =
      p'.termConditions d request.searchTerm ++ p'.columnConditions request.columnSearches := by
  unfold Plan.termConditions Plan.columnConditions
  rw [h.columns, h.fields, h.shown]

theorem by_congr {t t' : Table} (h : t.columns = t'.columns) (c : ColumnRef) (descending : Bool) :
    RowOrder.by t c descending = RowOrder.by t' c descending := by
  unfold RowOrder.by
  rw [primaryKey_congr h, column?_congr h]

theorem order_congr (h : p.Twin column p') (d : TableDescriptor) (request : PagingRequest) :
    p.order d request = p'.order d request := by
  unfold Plan.order Plan.requestedOrder?
  simp only [h.fields, h.shown, h.columns, by_congr h.base.columns, column?_congr h.base.columns,
    primaryKey_congr h.base.columns]

theorem statement_names_eq (h : p.Twin column p') (conditions : List (Condition Value)) :
    (p.statement conditions).names = (p'.statement conditions).names := by
  have hjoins : p.joins.flatMap (fun j =>
        [j.join.table.name, j.join.tableAlias, j.join.relatedColumn, j.join.baseColumn]) =
      p'.joins.flatMap fun j =>
        [j.join.table.name, j.join.tableAlias, j.join.relatedColumn, j.join.baseColumn] := by
    rw [← List.forall₂_eq_eq_eq]
    refine List.rel_flatMap h.joins fun j j' hj => ?_
    rw [List.forall₂_eq_eq_eq, hj.join.table.name, hj.join.tableAlias, hj.join.relatedColumn,
      hj.join.baseColumn]
  unfold Plan.statement
  rw [h.base.name, hjoins]

theorem pageNames_eq (h : p.Twin column p') (order : Option RowOrder) :
    p.pageNames order = p'.pageNames order := by
  have hjoins : p.joins.flatMap (fun j => j.displayField :: namesOf p.base.name j.displayColumn) =
      p'.joins.flatMap fun j => j.displayField :: namesOf p'.base.name j.displayColumn := by
    rw [← List.forall₂_eq_eq_eq]
    refine List.rel_flatMap h.joins fun j j' hj => ?_
    rw [List.forall₂_eq_eq_eq, hj.displayField, hj.displayColumn, h.base.name]
  unfold Plan.pageNames
  rw [hjoins, h.base.name]

/-- Statements with the same conditions on columns that are seen can be run alike. -/
theorem alike_prepare_of_twin (h : p.Twin column p') {conditions : List (Condition Value)}
    (hsees : ∀ x ∈ conditions.flatMap columnsOf, x.SeenIn (p.sightBut column))
    (names : List String) :
    Alike (Query.AlikeOn (p.sightBut column))
      (Statement.prepare ⟨names, (p.statement conditions).query⟩)
      (Statement.prepare ⟨names, (p'.statement conditions).query⟩) := by
  have hquery : Query.AlikeOn (p.sightBut column) (p.statement conditions).query
      (p'.statement conditions).query := {
    base := h.base
    joins := by
      show List.Forall₂ _ (p.joins.map (·.join)) (p'.joins.map (·.join))
      rw [List.forall₂_map_left_iff, List.forall₂_map_right_iff]
      exact h.joins.imp fun j j' hj => hj.join
    conditions := rfl
    seesConditions := fun q hq x hx => hsees x (List.mem_flatMap.2 ⟨q, hq, hx⟩) }
  unfold Statement.prepare
  split
  · exact hquery.alike_bind
  · trivial

/-- The statements of both plans find the same numbers of rows, and rows that differ in the column
alone, if they refer to no other columns than those that are seen. -/
theorem alike_find_of_twin (h : p.Twin column p')
    (hfilters : ∀ qs, p.filterConditions c.filters = .ok qs → ∀ x ∈ qs.flatMap columnsOf,
      x.SeenIn (p.sightBut column))
    (hsearch : ∀ x ∈ (p.termConditions d c.paging.searchTerm ++
      p.columnConditions c.paging.columnSearches).flatMap columnsOf, x.SeenIn (p.sightBut column))
    (horder : ∀ o ∈ p.order d c.paging, ∀ x ∈ o.columns, x.SeenIn (p.sightBut column)) :
    Alike (Found.AlikeOn (p.sightBut column)) (p.find d c) (p'.find d c) := by
  have hprepared : ∀ {conditions : List (Condition Value)},
      (∀ x ∈ conditions.flatMap columnsOf, x.SeenIn (p.sightBut column)) →
        Alike (Query.AlikeOn (p.sightBut column)) (p.statement conditions).prepare
          (p'.statement conditions).prepare := fun {conditions} hsees => by
    have hrun := alike_prepare_of_twin h hsees (p.statement conditions).names
    rwa [show (⟨(p.statement conditions).names, (p'.statement conditions).query⟩ : Statement) =
      p'.statement conditions by rw [statement_names_eq h]] at hrun
  unfold Plan.find
  simp only [← filterConditions_congr h.columns, ← searchConditions_eq h, ← order_congr h,
    ← statement_names_eq h, ← pageNames_eq h]
  refine (Alike.refl (p.filterConditions c.filters)).bind fun qs qs' hqs _ hsame => ?_
  rw [← hsame]
  have hboth : ∀ x ∈ (qs ++ (p.termConditions d c.paging.searchTerm ++
      p.columnConditions c.paging.columnSearches)).flatMap columnsOf,
        x.SeenIn (p.sightBut column) := fun x hx => by
    rw [List.flatMap_append, List.mem_append] at hx
    exact hx.elim (hfilters qs hqs x) (hsearch x)
  refine (hprepared (hfilters qs hqs)).bind fun total total' _ _ htotal => ?_
  have hfound : ∀ {filtered filtered' : Nat} {query query' : Query Stored},
      filtered = filtered' → query.AlikeOn (p.sightBut column) query' →
        Found.AlikeOn (p.sightBut column)
          ⟨total.count, filtered, segment c.paging.start c.paging.length
            (ordered (p.order d c.paging) query.rows)⟩
          ⟨total'.count, filtered', segment c.paging.start c.paging.length
            (ordered (p.order d c.paging) query'.rows)⟩ := fun hfiltered hquery =>
    ⟨htotal.count_eq, hfiltered,
      forall₂_segment _ _ (forall₂_ordered horder hquery.forall₂_rows)⟩
  have hpage := alike_prepare_of_twin h hboth
  -- the rows are counted once more only where something is searched for
  split
  · refine (hpage _).bind fun query query' _ _ hquery => ?_
    exact (Alike.refl (bindSegment _ _)).bind fun _ _ _ _ _ => hfound htotal.count_eq hquery
  · refine (hprepared hboth).bind fun searched searched' _ _ hsearched => ?_
    refine (hpage _).bind fun query query' _ _ hquery => ?_
    exact (Alike.refl (bindSegment _ _)).bind fun _ _ _ _ _ => hfound hsearched.count_eq hquery

end Statements

section Sight

variable {db : Database} {base : Table} {column : String} {p p' : Plan} {d : TableDescriptor}
  {catalog : List RelationSpec} {c : Request.Context}

theorem shownFields_of_plan (h : plan db base d catalog = .ok p) :
    shownFields base d catalog = .ok p.fields := by
  rw [plan_eq] at h
  obtain ⟨fields, hfields, rfl⟩ := map_eq_ok.1 h
  have hresolved : Layout.placeFormulas (relatedColumns base d catalog).fields d.formulas =
      .ok fields := hfields
  unfold shownFields Layout.resolveColumns
  show Except.map _ (Layout.placeFormulas (relatedColumns base d catalog).fields d.formulas >>= _) =
    _
  rw [hresolved]
  rfl

theorem seen_filterConditions (h : p.Twin column p') {filters : List FilterSpec}
    (hfilters : ∀ f ∈ filters, f.field ≠ column) : ∀ qs, p.filterConditions filters = .ok qs →
      ∀ x ∈ qs.flatMap columnsOf, x.SeenIn (p.sightBut column) := by
  intro qs hqs x hx
  obtain ⟨f, hf, hget⟩ := exists_filter_of_mem_columnsOf hqs hx
  exact h.sees f.field x (hfilters f hf) hget

theorem seen_searchConditions (h : p.Twin column p') {request : PagingRequest}
    (hfields : shownFields base d catalog = .ok p.fields)
    (hsearch : Unsearched d catalog request column) :
    ∀ x ∈ (p.termConditions d request.searchTerm ++
      p.columnConditions request.columnSearches).flatMap columnsOf,
        x.SeenIn (p.sightBut column) := by
  intro x hx
  rw [List.flatMap_append, List.mem_append] at hx
  rcases hx with hx | hx
  · obtain ⟨field, hfield, hhidden, hget⟩ := exists_shown_of_mem_columnsOf hx
    have hsearched : field ∉ d.fieldsWith fun spec => !spec.searchable := fun hmem =>
      hhidden (List.mem_append_left _ hmem)
    exact h.sees field x (hsearch.ne_of_mem hfields hfield hsearched) hget
  · obtain ⟨field, hfield, hget⟩ := exists_search_of_mem_columnsOf hx
    exact h.sees field x (fun heq => hsearch.alone (heq ▸ hfield)) hget

theorem seen_by {seen : Sight} {t : Table} (hkey : ∀ k ∈ t.primaryKey, seen none k)
    {x : ColumnRef} (hx : x.SeenIn seen) (descending : Bool) :
    ∀ y ∈ (RowOrder.by t x descending).columns, y.SeenIn seen := by
  unfold RowOrder.by
  dsimp only
  split
  · intro y hy
    rcases List.mem_cons.1 hy with rfl | hy
    · exact hx
    · obtain ⟨name, hname, hy⟩ := List.mem_filterMap.1 hy
      obtain ⟨def_, -, rfl⟩ := Option.map_eq_some_iff.1 hy
      exact hkey name (List.mem_of_mem_tail hname)
  · intro y hy
    rwa [List.mem_singleton.1 hy]

theorem seen_order (h : p.Twin column p') {request : PagingRequest}
    (hdeclared : ∀ o ∈ d.orderBy, o.column ≠ column)
    (hrequested : ∀ i, request.orderColumnIndex = some i → p.fields[i.toNat]? = some column →
      column ∈ d.fieldsWith fun spec => !spec.sortable) :
    ∀ o ∈ p.order d request, ∀ x ∈ o.columns, x.SeenIn (p.sightBut column) := by
  intro o ho
  have hkey := h.base.seesKey
  unfold Plan.order at ho
  simp only [Option.mem_def, Option.or_eq_some_iff, Option.bind_eq_bind,
    Option.bind_eq_some_iff] at ho
  rcases ho with (ho | ⟨-, declared, hmem, x, hx, ho⟩) | ⟨-, name, hname, def_, hdef, ho⟩
  · obtain ⟨i, field, x, hi, hfield, hfixed, hx, rfl⟩ := requestedOrder?_eq_some ho
    refine seen_by hkey (h.sees field x (fun heq => hfixed ?_) hx) _
    exact List.mem_append_left _ (heq ▸ hrequested i hi (heq ▸ hfield))
  · cases ho
    exact seen_by hkey (h.sees declared.column x (hdeclared declared hmem) hx) _
  · cases ho
    refine seen_by hkey ?_ _
    show p.sightBut column none def_.name
    rw [name_of_column? hdef]
    exact hkey name (List.mem_of_mem_head? hname)

/-- The statements of a request find the same numbers of rows in twin databases, and rows that
differ in the column alone, if the request does not use the column and does not search it. -/
theorem alike_find_of_unused {source : Source} (h : p.Twin column p')
    (htable : source.database.table? d.name = some base)
    (hplan : plan source.database base d source.catalog = .ok p)
    (hunused : Unused source d c column)
    (hsearch : Unsearched d source.catalog c.paging column) :
    Alike (Found.AlikeOn (p.sightBut column)) (p.find d c) (p'.find d c) := by
  have hfields := shownFields_of_plan hplan
  refine alike_find_of_twin h (seen_filterConditions h hunused.filters)
    (seen_searchConditions h hfields hsearch) (seen_order h hunused.declaredOrder ?_)
  exact fun i hi hfield => hunused.requestedOrder base p.fields i htable hfields hi hfield

end Sight

end Direct

end AdminGrid

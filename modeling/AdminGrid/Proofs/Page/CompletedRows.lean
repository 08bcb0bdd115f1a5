import AdminGrid.Proofs.Page.Counts
import AdminGrid.Proofs.Store.SingleMatch

/-!
# Pages of completed rows

Where every relation that is joined finds at most one row for each row of the base table, and shows
nothing under the name of one of its columns, a page without a search is a segment of the rows of
the base table that pass the filters, each completed with what the relations show.  Which rows pass
depends on the base table and the filters alone.
-/

namespace AdminGrid

open Store

/-- Joins, each with the field that it serves, which neither drop a row of a base table nor show one
twice, and hide none of its columns. -/
structure KeepsRows (base : Table) (links : List (Join × String)) : Prop where
  single : ∀ e ∈ links, e.1.FindsOne base
  fresh : ∀ e ∈ links, e.2 ∉ base.columnNames

section Links

variable {α : Type} {base : Table} {join : α → Join} {field : α → String} {xs : List α}

theorem KeepsRows.findsOne (h : KeepsRows base (xs.map fun x => (join x, field x))) :
    ∀ j ∈ xs.map join, j.FindsOne base := by
  intro j hj
  obtain ⟨x, hx, rfl⟩ := List.mem_map.1 hj
  exact h.single (join x, field x) (List.mem_map_of_mem hx)

theorem KeepsRows.not_mem (h : KeepsRows base (xs.map fun x => (join x, field x))) :
    ∀ x ∈ xs, field x ∉ base.columnNames :=
  fun x hx => h.fresh (join x, field x) (List.mem_map_of_mem hx)

end Links

/-- Whether a request searches for nothing. -/
structure SearchesNothing (request : PagingRequest) : Prop where
  term : request.searchTerm = none ∨ request.searchTerm = some ""
  columns : request.columnSearches = []

/-- A column that shows what a join finds. -/
def Shows (j : Join) (c : ColumnRef) : Prop :=
  ∃ affinity, c = ⟨some j.tableAlias, j.shown, affinity⟩

theorem cell_of_shows {joins : List Join} (hnames : (joins.map (·.tableAlias)).Nodup) {j : Join}
    (hj : j ∈ joins) {c : ColumnRef} (hc : Shows j c) (row : StoredRow) :
    (completed joins row).cell c = j.shownCell row := by
  obtain ⟨affinity, rfl⟩ := hc
  exact cell_completed hnames hj affinity row

/-- Whether the tables of a query can be joined does not depend on its conditions. -/
theorem runnable_iff {α β : Type} {base : Table} {joins : List Join} (ps : List (Condition α))
    (qs : List (Condition β)) :
    (Query.mk base joins ps).Runnable ↔ (Query.mk base joins qs).Runnable :=
  runnable_iff_of_perm rfl (List.Perm.refl joins)

/-- Binding the values of conditions leaves them on the columns of the base table. -/
theorem OnBase.of_traverse {α β : Type} {f : α → Attempt β} {ps : List (Condition α)}
    {qs : List (Condition β)} (h : ps.mapM (Condition.traverse f) = .ok qs) (hps : OnBase ps) :
    OnBase qs :=
  show ∀ q ∈ qs, ∀ c ∈ Direct.columnsOf q, c.SeenIn fun alias? _ => alias? = none from
    seen_of_mapM_traverse h hps

/-! ## A single pass -/

namespace Direct

/-- The joins of a plan with their display fields. -/
def Plan.links (p : Plan) : List (Join × String) := p.joins.map fun j => (j.join, j.displayField)

/-- The plan of a table of which no relation is shown. -/
def Plan.bare (base : Table) : Plan := ⟨base, [], [], baseColumns base, .none⟩

/-- The rows of a table that pass some filters, as a single pass compares values. -/
def passing (base : Table) (filters : List FilterSpec) : Attempt (List StoredRow) := do
  let conditions ← (Plan.bare base).filterConditions filters
  let bound ← conditions.mapM (Condition.traverse Store.bind)
  return Store.passing base bound

/-- The rows of the base table that pass some filters, once the joins have completed them. -/
def Plan.passing (p : Plan) (filters : List FilterSpec) : Attempt (List StoredRow) := do
  let conditions ← p.filterConditions filters
  let bound ← conditions.mapM (Condition.traverse Store.bind)
  return passingWith p.base (p.joins.map (·.join)) bound

/-- A row of the base table with what every relation shows. -/
def Plan.fullRow (p : Plan) (row : StoredRow) : Entries Value :=
  row.map (fun (column, cell) => (column, rawCell cell)) ++
    p.links.map fun (j, field) => (field, rawCell (j.shownCell row))

/-- The answer that counts some rows of the base table and shows a segment of them, each with what
every relation shows. -/
def Plan.answerWith (p : Plan) (source : Source) (d : TableDescriptor) (c : Request.Context)
    (full : List StoredRow) : Attempt (Entries Value) := do
  bindSegment c.paging.start c.paging.length
  let style ← itemStyle d c source.assets p.fields
  let items ← itemsFrom style 0 ((segment c.paging.start c.paging.length full).map p.fullRow)
  return [("draw", .int c.paging.draw), ("recordsTotal", .int full.length),
    ("recordsFiltered", .int full.length), ("data", .list (items.map Value.map))]

/-- What makes the statements of a plan ones that can be run: their tables can be joined, and all
that they name can be named. -/
structure Plan.Ready (p : Plan) (d : TableDescriptor) (c : Request.Context) : Prop where
  runs : (p.statement []).query.Runnable
  names : ∀ qs, p.filterConditions c.filters = .ok qs →
    ∀ name ∈ (p.statement qs).names ++ p.pageNames (p.order d c.paging), nameable name = true

/-- A plan of a base table, whose relations show the columns that they join. -/
structure Plan.MadeFor (p : Plan) (base : Table) : Prop where
  table : p.base = base
  columns : p.columns = (baseColumns base).merge
    (p.joins.map fun j => (j.displayField, j.displayColumn))
  shows : ∀ j ∈ p.joins, Shows j.join j.displayColumn

theorem Plan.madeFor_of_plan {db : Database} {base : Table} {d : TableDescriptor}
    {catalog : List RelationSpec} {p : Plan} (h : plan db base d catalog = .ok p) :
    p.MadeFor base := by
  obtain ⟨fields, -, h⟩ := bind_eq_ok.1 h
  rw [← pure_eq_ok.1 h]
  refine ⟨rfl, rfl, fun j hj => ?_⟩
  obtain ⟨name, -, hmade⟩ := List.mem_filterMap.1 hj
  obtain ⟨r, -, hmade⟩ := Option.bind_eq_some_iff.1 hmade
  unfold joinOf? at hmade
  simp only [Option.bind_eq_bind, Option.bind_eq_some_iff] at hmade
  obtain ⟨joined, -, related, -, display, -, key, -, baseColumn, -, hmade⟩ := hmade
  cases hmade
  exact ⟨display.affinity, rfl⟩

section Pages

variable {p : Plan} {base : Table} {d : TableDescriptor} {c : Request.Context}

theorem onBase_bare {filters : List FilterSpec} {qs : List (Condition Value)}
    (h : (Plan.bare base).filterConditions filters = .ok qs) : OnBase qs := by
  intro q hq x hx
  obtain ⟨f, -, hget⟩ := exists_filter_of_mem_columnsOf h (List.mem_flatMap.2 ⟨q, hq, hx⟩)
  obtain ⟨column, -, heq⟩ := List.mem_map.1 (Entries.mem_of_get?_eq_some hget)
  obtain rfl : (⟨none, column.name, column.affinity⟩ : ColumnRef) = x := congrArg Prod.snd heq
  rfl

/-- Relations that hide no column leave the filters on columns of the table as they are. -/
theorem filterConditions_eq_bare (hplan : p.MadeFor base) (hkeeps : KeepsRows base p.links)
    {filters : List FilterSpec} (hfilters : ∀ f ∈ filters, f.field ∈ base.columnNames) :
    p.filterConditions filters = (Plan.bare base).filterConditions filters := by
  unfold Plan.filterConditions
  refine congrArg (fun parts : Attempt (List (List (Condition Value))) => do
    return (← parts).flatten) (mapM_congr fun f hf => ?_)
  have hnone : Entries.get? f.field
      (p.joins.map fun j => (j.displayField, j.displayColumn)).reverse = none := by
    cases hget : Entries.get? f.field
      (p.joins.map fun j => (j.displayField, j.displayColumn)).reverse with
    | none => rfl
    | some x =>
        obtain ⟨j, hj, heq⟩ :=
          List.mem_map.1 (List.mem_reverse.1 (Entries.mem_of_get?_eq_some hget))
        have hfield : j.displayField = f.field := congrArg Prod.fst heq
        exact absurd (hfilters f hf) (hfield ▸ KeepsRows.not_mem hkeeps j hj)
  have hcolumn : p.columns.get? f.field = (Plan.bare base).columns.get? f.field := by
    rw [hplan.columns, Entries.get?_merge, hnone, Option.none_or]
    rfl
  rw [Plan.conditionsOf, Plan.conditionsOf, hcolumn]

theorem searchConditions_eq_nil (hsearch : SearchesNothing c.paging) :
    p.searchConditions d c.paging = [] := by
  unfold Plan.searchConditions Plan.termConditions Plan.columnConditions
  rw [hsearch.columns]
  rcases hsearch.term with hterm | hterm <;> rw [hterm] <;> rfl

theorem pageQuery_eq_totalQuery (hsearch : SearchesNothing c.paging) :
    p.pageQuery d c = p.totalQuery c := by
  simp only [Plan.pageQuery, searchConditions_eq_nil hsearch, List.append_nil, Plan.totalQuery]

/-- Where no relation hides a column, the rows that pass filters on columns of the table do not
depend on the plan. -/
theorem passing_eq_bare (hplan : p.MadeFor base) (hkeeps : KeepsRows base p.links)
    {filters : List FilterSpec} (hfilters : ∀ f ∈ filters, f.field ∈ base.columnNames) :
    p.passing filters = passing base filters := by
  unfold Plan.passing passing
  rw [filterConditions_eq_bare hplan hkeeps hfilters, hplan.table]
  refine bind_congr_of_ok fun qs hqs => bind_congr_of_ok fun bound hbound => ?_
  have honBase : OnBase bound := OnBase.of_traverse hbound (onBase_bare hqs)
  exact congrArg Except.ok (passingWith_eq_passing honBase _)

/-- The page of a request without a search: the passing rows in some order, cut to a segment, each
completed with what the relations find. -/
theorem find_of_passing (hone : ∀ j ∈ p.joins.map (·.join), j.FindsOne p.base)
    (hready : p.Ready d c) (hsearch : SearchesNothing c.paging) {rows : List StoredRow}
    (hrows : p.passing c.filters = .ok rows) :
    ∃ full : List StoredRow, full.Perm rows ∧
      p.find d c = (bindSegment c.paging.start c.paging.length).map fun _ =>
        ⟨full.length, full.length, (segment c.paging.start c.paging.length full).map
          (completed (p.joins.map (·.join)))⟩ := by
  obtain ⟨qs, hqs, hrows⟩ := bind_eq_ok.1 hrows
  obtain ⟨bound, hbound, hpassing⟩ := bind_eq_ok.1 hrows
  have hprepared : p.totalQuery c = (p.statement qs).query.bind :=
    totalQuery_of_conditions hqs fun name hname =>
      hready.names qs hqs name (List.mem_append_left _ hname)
  have htotal : p.totalQuery c = .ok ⟨p.base, p.joins.map (·.join), bound⟩ :=
    hprepared.trans (bind_eq_ok_iff.2 ⟨(runnable_iff _ _).1 hready.runs, rfl, rfl, hbound⟩)
  obtain ⟨full, hfull, hordered⟩ := exists_ordered_rows_eq
    (q := ⟨p.base, p.joins.map (·.join), bound⟩) hone (p.order d c.paging)
  have hcount := count_eq_of_findsOne (q := ⟨p.base, p.joins.map (·.join), bound⟩) hone
  rw [← pure_eq_ok.1 hpassing]
  refine ⟨full, hfull, ?_⟩
  have hnames : ∀ qs, p.filterConditions c.filters = .ok qs →
      ∀ name ∈ (p.statement (qs ++ p.searchConditions d c.paging)).names ++
        p.pageNames (p.order d c.paging), nameable name = true := by
    simp only [searchConditions_eq_nil hsearch, List.append_nil]
    exact hready.names
  rw [find_eq hnames, pageQuery_eq_totalQuery hsearch, htotal, hfull.length_eq]
  show (bindSegment c.paging.start c.paging.length >>= _) = _
  rw [hordered, segment_map, hcount]
  cases bindSegment c.paging.start c.paging.length <;> rfl

theorem rawRow_completed (hplan : p.MadeFor base) (hready : p.Ready d c) (row : StoredRow) :
    rawRow p (completed (p.joins.map (·.join)) row) = p.fullRow row := by
  rw [rawRow_eq, Plan.fullRow, Plan.links, List.map_map]
  refine congrArg _ (List.map_congr_left fun j hj => ?_)
  have hcell := cell_of_shows hready.runs.aliases (List.mem_map_of_mem (f := (·.join)) hj)
    (hplan.shows j hj) row
  exact congrArg (fun cell => (j.displayField, rawCell cell)) hcell

/-- The answer of a request without a search. -/
theorem payload_of_passing {source : Source} (hplan : p.MadeFor base)
    (hkeeps : KeepsRows base p.links) (hready : p.Ready d c)
    (hsearch : SearchesNothing c.paging)
    (hfilters : ∀ f ∈ c.filters, f.field ∈ base.columnNames) {rows : List StoredRow}
    (hrows : passing base c.filters = .ok rows) :
    ∃ full : List StoredRow, full.Perm rows ∧
      p.find d c >>= p.payloadOf source d c = p.answerWith source d c full := by
  have hone : ∀ j ∈ p.joins.map (·.join), j.FindsOne p.base := hplan.table ▸ hkeeps.findsOne
  rw [← passing_eq_bare hplan hkeeps hfilters] at hrows
  obtain ⟨full, hfull, hfind⟩ := find_of_passing hone hready hsearch hrows
  have hfresh : ∀ j ∈ p.joins, j.displayField ∉ p.base.columnNames := by
    rw [hplan.table]
    exact hkeeps.not_mem
  have hraws : rawRows p ((segment c.paging.start c.paging.length full).map
      (completed (p.joins.map (·.join)))) =
        .ok ((segment c.paging.start c.paging.length full).map p.fullRow) := by
    rw [rawRows_of_fresh hfresh, List.map_map]
    exact congrArg Except.ok (List.map_congr_left fun row _ => rawRow_completed hplan hready row)
  refine ⟨full, hfull, ?_⟩
  rw [hfind, Plan.answerWith]
  cases bindSegment c.paging.start c.paging.length with
  | error e => rfl
  | ok _ =>
      show p.payloadOf source d c ⟨_, _, _⟩ = _
      rw [Plan.payloadOf, hraws]
      rfl

/-- A page is only found where the statements can be run and the values of the filters can be
bound. -/
theorem exists_passing_of_find (hsearch : SearchesNothing c.paging) {found : Found}
    (h : p.find d c = .ok found) : p.Ready d c ∧ ∃ rows, p.passing c.filters = .ok rows := by
  obtain ⟨total, page, htotal, -, -⟩ := exists_queries_of_find h
  obtain ⟨qs, hqs, htotal⟩ := bind_eq_ok.1 htotal
  obtain ⟨hruns, -, -, hbound⟩ := bind_eq_ok_iff.1 (prepare_eq_ok_iff.1 htotal).2
  have hnames := nameable_of_find h
  simp only [searchConditions_eq_nil hsearch, List.append_nil] at hnames
  exact ⟨⟨(runnable_iff _ _).1 hruns, hnames⟩, _, bind_eq_ok.2 ⟨qs, hqs,
    bind_eq_ok.2 ⟨total.conditions, hbound, rfl⟩⟩⟩

theorem ready_of_find (hplan : p.MadeFor base) (hkeeps : KeepsRows base p.links)
    (hsearch : SearchesNothing c.paging)
    (hfilters : ∀ f ∈ c.filters, f.field ∈ base.columnNames) {found : Found}
    (h : p.find d c = .ok found) :
    p.Ready d c ∧ ∃ rows, passing base c.filters = .ok rows := by
  rw [← passing_eq_bare hplan hkeeps hfilters]
  exact exists_passing_of_find hsearch h

end Pages

end Direct

/-! ## A staged compilation -/

namespace Staged

/-- The joins of a view with their display fields. -/
def View.links (v : View) : List (Join × String) := v.joins.map fun j => (j.join, j.displayField)

/-- The view of a table of which no relation is shown. -/
def View.bare (base : Table) : View := ⟨base, []⟩

/-- The rows of a table that pass some filters, as a staged compilation compares values. -/
def passing (base : Table) (filters : List FilterSpec) : Attempt (List StoredRow) := do
  let conditions ← (View.bare base).filterConditions filters
  let written ← conditions.mapM (Condition.traverse Parameter.write)
  let bound ← written.mapM (Condition.traverse Store.bind)
  return Store.passing base bound

/-- The rows of the base table that pass some filters, once the joins have completed them. -/
def View.passing (v : View) (filters : List FilterSpec) : Attempt (List StoredRow) := do
  let conditions ← v.filterConditions filters
  let written ← conditions.mapM (Condition.traverse Parameter.write)
  let bound ← written.mapM (Condition.traverse Store.bind)
  return passingWith v.base (v.joins.map (·.join)) bound

/-- A row of the base table with what every relation shows, as the types of their columns read
them. -/
def View.fullRow (v : View) (row : StoredRow) : Attempt (Entries Value) := do
  let own ← v.base.columns.mapM fun c => do
    return (c.name, ← c.type.read ((Entries.get? c.name row).getD .null))
  let related ← v.joins.mapM fun j => do
    return (j.displayField, ← j.display.type.read (j.join.shownCell row))
  return own ++ related

/-- The answer that counts some rows of the base table and shows a segment of them, each with what
every relation shows. -/
def View.answerWith (v : View) (source : Source) (d : TableDescriptor) (c : Request.Context)
    (r : Layout.ResolvedColumns) (full : List StoredRow) : Attempt PagingResponse := do
  bindSegment c.paging.start c.paging.length
  let page ← (segment c.paging.start c.paging.length full).mapM v.fullRow
  answerOf source d c r ⟨full.length, full.length, page⟩

/-- A view of a base table, whose relations show the columns that they join under distinct
fields. -/
structure View.MadeFor (v : View) (base : Table) : Prop where
  table : v.base = base
  shows : ∀ j ∈ v.joins, Shows j.join j.display.ref
  displays : (v.joins.map (·.displayField)).Nodup

theorem View.madeFor_viewOf {source : Source} {d : TableDescriptor} {base : Table}
    {r : Layout.ResolvedColumns} (hbase : base.name = d.name)
    (hresolved : Layout.resolveColumns (columnRequest base d
      (Layout.mergeRelations d.relations source.catalog)) = .ok r) :
    (viewOf source d base r).MadeFor base := by
  have htraced := Layout.traced_applyRelations
    (Layout.schemaColumns (Layout.requestedColumns d) base.columnNames) d.labels
    (Layout.requestedColumns d) (Direct.relationsOf d source.catalog).values
  obtain ⟨ordered, -, hresolved⟩ := bind_eq_ok.1 hresolved
  rw [viewOf_eq source hbase, ← pure_eq_ok.1 hresolved]
  refine ⟨rfl, fun j hj => ?_, ?_⟩
  · obtain ⟨spec, -, hlink⟩ := List.mem_filterMap.1 hj
    unfold linkOf? link? at hlink
    simp only [Option.bind_eq_bind, Option.bind_eq_some_iff] at hlink
    obtain ⟨joined, -, related, -, key, -, baseColumn, -, display, -, hlink⟩ := hlink
    cases hlink
    exact ⟨display.affinity, rfl⟩
  · refine (filterMap_sublist_map (fun spec j hj => (names_of_linkOf? hj).2) _).nodup ?_
    refine ((perm_shownSpecs htraced).map (·.displayField)).nodup_iff.1 ?_
    rw [(map_shownSpecs htraced).2]
    exact htraced.displays

section Pages

variable {v : View} {base : Table} {f : Fetch}

theorem onBase_bare {filters : List FilterSpec} {ps : List (Condition Parameter)}
    (h : (View.bare base).filterConditions filters = .ok ps) : OnBase ps := by
  refine forall_columnsOf_filterConditions (P := fun c => c.alias? = none) (fun f _ c hc => ?_) h
  obtain ⟨column, -, rfl⟩ := Option.map_eq_some_iff.1 hc
  rfl

/-- Relations that hide no column leave the filters on columns of the table as they are. -/
theorem filterConditions_eq_bare (hview : v.MadeFor base) (hkeeps : KeepsRows base v.links)
    {filters : List FilterSpec} (hfilters : ∀ f ∈ filters, f.field ∈ base.columnNames) :
    v.filterConditions filters = (View.bare base).filterConditions filters := by
  induction filters with
  | nil => rfl
  | cons f rest ih =>
      rw [List.forall_mem_cons] at hfilters
      have hnone : v.joins.find? (·.displayField == f.field) = none := by
        refine List.find?_eq_none.2 fun j hj heq => ?_
        exact KeepsRows.not_mem hkeeps j hj (beq_iff_eq.1 heq ▸ hfilters.1)
      have hcolumn : v.column? f.field = (View.bare base).column? f.field := by
        rw [View.column?, hnone, hview.table]
        rfl
      rw [View.filterConditions, View.filterConditions, ih hfilters.2, hcolumn]

theorem searchConditions_eq_nil (hsearch : SearchesNothing f.request) :
    v.searchConditions f.ordered f.request f.hidden = [] := by
  unfold View.searchConditions
  rw [hsearch.columns]
  rcases hsearch.term with hterm | hterm <;> rw [hterm] <;> rfl

theorem pageQuery_eq_totalQuery (hsearch : SearchesNothing f.request) :
    v.pageQuery f = v.totalQuery f := by
  unfold View.pageQuery View.totalQuery
  simp only [searchConditions_eq_nil hsearch, List.append_nil]

/-- The columns of a page: those of the table, then one for each relation. -/
theorem View.MadeFor.shownColumns_eq (hview : v.MadeFor base) (hkeeps : KeepsRows base v.links) :
    v.shownColumns = v.base.columns.map (fun c => (c.name, columnOf none c)) ++
      v.joins.map fun j => (j.displayField, j.display) := by
  have hkeys : Entries.keys (v.base.columns.map fun c => (c.name, columnOf none c)) =
      base.columnNames := by
    rw [Entries.keys, List.map_map, hview.table]
    rfl
  refine Entries.foldl_putNew_of_fresh _ (fun j hj => ?_) hview.displays
  rw [hkeys]
  exact KeepsRows.not_mem hkeeps j hj

theorem readRow_completed (hview : v.MadeFor base) (hkeeps : KeepsRows base v.links)
    (hruns : (v.query []).Runnable) (row : StoredRow) :
    v.readRow (completed (v.joins.map (·.join)) row) = v.fullRow row := by
  have hcell : ∀ j ∈ v.joins,
      (completed (v.joins.map (·.join)) row).cell j.display.ref = j.join.shownCell row :=
    fun j hj => cell_of_shows hruns.aliases (List.mem_map_of_mem (f := (·.join)) hj)
      (hview.shows j hj) row
  rw [View.readRow, hview.shownColumns_eq hkeeps, List.mapM_append, List.mapM_map, List.mapM_map,
    View.fullRow]
  refine bind_congr fun own => ?_
  refine congrArg (· >>= fun related => pure (own ++ related)) (mapM_congr fun j hj => ?_)
  show (do return (j.displayField, ← j.display.type.read _)) = _
  rw [hcell j hj]

/-- Where no relation hides a column, the rows that pass filters on columns of the table do not
depend on the view. -/
theorem passing_eq_bare (hview : v.MadeFor base) (hkeeps : KeepsRows base v.links)
    {filters : List FilterSpec} (hfilters : ∀ s ∈ filters, s.field ∈ base.columnNames) :
    v.passing filters = passing base filters := by
  unfold View.passing passing
  rw [filterConditions_eq_bare hview hkeeps hfilters, hview.table]
  refine bind_congr_of_ok fun conditions hconditions =>
    bind_congr_of_ok fun written hwritten => bind_congr_of_ok fun bound hbound => ?_
  have honBase : OnBase bound :=
    OnBase.of_traverse hbound (OnBase.of_traverse hwritten (onBase_bare hconditions))
  exact congrArg Except.ok (passingWith_eq_passing honBase _)

theorem fetch_of_passing (hone : ∀ j ∈ v.joins.map (·.join), j.FindsOne v.base)
    (hruns : (v.query []).Runnable) (hsearch : SearchesNothing f.request)
    {rows : List StoredRow} (hrows : v.passing f.filters = .ok rows) :
    ∃ full : List StoredRow, full.Perm rows ∧ v.fetch f = (do
      bindSegment f.request.start f.request.length
      let page ← ((segment f.request.start f.request.length full).map
        (completed (v.joins.map (·.join)))).mapM v.readRow
      return ⟨full.length, full.length, page⟩) := by
  obtain ⟨conditions, hconditions, hrows⟩ := bind_eq_ok.1 hrows
  obtain ⟨written, hwritten, hrows⟩ := bind_eq_ok.1 hrows
  obtain ⟨bound, hbound, hrows⟩ := bind_eq_ok.1 hrows
  have htotal : v.totalQuery f = .ok ⟨v.base, v.joins.map (·.join), bound⟩ := by
    rw [View.totalQuery, hconditions]
    refine bind_eq_ok.2 ⟨conditions, rfl, bind_eq_ok.2 ⟨written, hwritten, ?_⟩⟩
    exact bind_eq_ok_iff.2 ⟨(runnable_iff _ _).1 hruns, rfl, rfl, hbound⟩
  obtain ⟨full, hfull, hordered⟩ := exists_ordered_rows_eq
    (q := ⟨v.base, v.joins.map (·.join), bound⟩) hone
    (v.order f.ordered f.request f.orderBy f.fixed)
  have hcount := count_eq_of_findsOne (q := ⟨v.base, v.joins.map (·.join), bound⟩) hone
  rw [← pure_eq_ok.1 hrows]
  refine ⟨full, hfull, ?_⟩
  rw [fetch_eq, pageQuery_eq_totalQuery hsearch, htotal, hfull.length_eq]
  show (bindSegment f.request.start f.request.length >>= _) = _
  rw [hordered, segment_map, hcount]

/-- A page is only fetched where the tables can be joined and the values of the filters can be
bound. -/
theorem exists_passing_of_fetch {fetched : Fetched} (h : v.fetch f = .ok fetched) :
    (v.query []).Runnable ∧ ∃ rows, v.passing f.filters = .ok rows := by
  rw [fetch_eq] at h
  obtain ⟨total, htotal, -⟩ := bind_eq_ok.1 h
  obtain ⟨conditions, hconditions, htotal⟩ := bind_eq_ok.1 htotal
  obtain ⟨written, hwritten, htotal⟩ := bind_eq_ok.1 htotal
  obtain ⟨hruns, -, -, hbound⟩ := bind_eq_ok_iff.1 htotal
  exact ⟨(runnable_iff _ _).1 hruns, _, bind_eq_ok.2 ⟨conditions, hconditions,
    bind_eq_ok.2 ⟨written, hwritten, bind_eq_ok.2 ⟨total.conditions, hbound, rfl⟩⟩⟩⟩

theorem runnable_of_fetch (hview : v.MadeFor base) (hkeeps : KeepsRows base v.links)
    (hfilters : ∀ s ∈ f.filters, s.field ∈ base.columnNames) {fetched : Fetched}
    (h : v.fetch f = .ok fetched) :
    (v.query []).Runnable ∧ ∃ rows, passing base f.filters = .ok rows := by
  rw [← passing_eq_bare hview hkeeps hfilters]
  exact exists_passing_of_fetch h

/-- The answer of a request without a search. -/
theorem answer_of_passing {source : Source} {d : TableDescriptor} {c : Request.Context}
    {r : Layout.ResolvedColumns} (hview : v.MadeFor base) (hkeeps : KeepsRows base v.links)
    (hruns : (v.query []).Runnable) (hsearch : SearchesNothing c.paging)
    (hfilters : ∀ s ∈ c.filters, s.field ∈ base.columnNames) {rows : List StoredRow}
    (hrows : passing base c.filters = .ok rows) :
    ∃ full : List StoredRow, full.Perm rows ∧
      v.fetch (fetchOf d c r) >>= answerOf source d c r = v.answerWith source d c r full := by
  have hone : ∀ j ∈ v.joins.map (·.join), j.FindsOne v.base := hview.table ▸ hkeeps.findsOne
  rw [← passing_eq_bare hview hkeeps hfilters] at hrows
  obtain ⟨full, hfull, hfetch⟩ := fetch_of_passing (f := fetchOf d c r) hone hruns hsearch hrows
  have hread : ∀ xs : List StoredRow, (xs.map (completed (v.joins.map (·.join)))).mapM v.readRow =
      xs.mapM v.fullRow := fun xs => by
    rw [List.mapM_map]
    exact mapM_congr fun row _ => readRow_completed hview hkeeps hruns row
  refine ⟨full, hfull, ?_⟩
  rw [hfetch, hread, View.answerWith]
  show (bindSegment c.paging.start c.paging.length >>= _) >>= _ = _
  cases bindSegment c.paging.start c.paging.length with
  | error e => rfl
  | ok _ =>
      show (((segment c.paging.start c.paging.length full).mapM v.fullRow) >>= _) >>= _ = _
      cases (segment c.paging.start c.paging.length full).mapM v.fullRow <;> rfl

end Pages

end Staged

end AdminGrid

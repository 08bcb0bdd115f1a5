import AdminGrid.Proofs.Parity.Cells
import AdminGrid.Proofs.Parity.Names
import AdminGrid.Proofs.Parity.Rows

/-!
# Pages on both sides

Both compilations count the rows that pass the filters, count those that the search leaves of them,
and read a segment of these in the order of the request.  The two counts are equal, and the rows of
the two segments have the same cells, as soon as the conditions on both sides are bound to the same
ones and rows that tie come in the same order.
-/

namespace AdminGrid

open Store

section Preparation

theorem prepare_of_nameable {names : List String} {q : Query Value}
    (h : ∀ name ∈ names, Direct.nameable name = true) :
    Direct.Statement.prepare ⟨names, q⟩ = q.bind :=
  if_pos (List.all_eq_true.2 h)

/-- A statement is ready to be run if all its names can be named and its values can be bound. -/
theorem prepare_eq_ok_iff {s : Direct.Statement} {q : Query Stored} : s.prepare = .ok q ↔
    (∀ name ∈ s.names, Direct.nameable name = true) ∧ s.query.bind = .ok q := by
  unfold Direct.Statement.prepare
  rw [← List.all_eq_true]
  split <;> simp [*]

/-- A bound query has the table and the joins of a query, and its conditions as they are bound. -/
theorem bind_eq_ok_iff {q : Query Value} {b : Query Stored} : q.bind = .ok b ↔
    q.Runnable ∧ b.base = q.base ∧ b.joins = q.joins ∧
      q.conditions.mapM (Condition.traverse Store.bind) = .ok b.conditions := by
  rw [Query.bind_eq]
  by_cases h : q.Runnable
  · rw [if_pos h, map_eq_ok]
    constructor
    · rintro ⟨bound, hbound, rfl⟩
      exact ⟨h, rfl, rfl, hbound⟩
    · rintro ⟨-, hbase, hjoins, hbound⟩
      exact ⟨b.conditions, hbound, by rw [← hbase, ← hjoins]⟩
  · rw [if_neg h]
    simp [h]

end Preparation

section Excluded

/-- Whether no display field of an excluded relation is itself the alias of a relation that is not
excluded. -/
def Unchained (d : TableDescriptor) (relations : List RelationSpec)
    (allowed : ColumnSpec → Bool) : Prop :=
  ∀ r ∈ relations, r.aliasField ∈ d.fieldsWith (fun c => !allowed c) →
    ∀ r' ∈ relations, r'.aliasField = r.displayField →
      r'.aliasField ∈ d.fieldsWith fun c => !allowed c

variable {source : Source} {d : TableDescriptor} {base : Table} {p : Direct.Plan}
  {r : Layout.ResolvedColumns}

/-- The same fields are excluded from the search, and from the order, on both sides. -/
theorem excluded_eq (hresolves : Resolves source d base p r) {allowed : ColumnSpec → Bool}
    (h : Unchained d (Direct.relationsOf d source.catalog).values allowed) :
    Direct.excluded d p.shown allowed = Layout.excludedFields d r.relations allowed := by
  have hspecs := hresolves.specs
  rw [hresolves.shown] at hspecs ⊢
  refine (Layout.foldl_excludeDisplay ?_ (List.Subset.refl _) fun _ _ hmem => hmem).symm
  -- a shown alias that a display field excludes would be a chain of two relations
  intro a ha hdeclared b hb hname
  obtain ⟨spec, hspec, halias, hdisplay⟩ := hspecs a ha
  obtain ⟨spec', hspec', halias', -⟩ := hspecs b hb
  rw [← halias']
  refine h spec hspec (halias ▸ hdeclared) spec' hspec' ?_
  rw [halias', hname, hdisplay]

end Excluded

/-- What a request, its descriptor and the database must be like for the two compilations to be
compared: a database of basic cells in which all names can be written down, relations that name
their tables as they are and show nothing under the name of a column of the table, no chains of
exclusions, decimal places that can be shown, and scalar filter values. -/
structure Comparable (source : Source) (d : TableDescriptor) (c : Request.Context) : Prop where
  basic : source.database.Basic
  tables : ∀ r ∈ (Direct.relationsOf d source.catalog).values,
    ∀ joined ∈ Layout.joinedColumns? d.name r.foreignKey, ∀ t ∈ source.database.tables,
      lowerAscii t.name = lowerAscii joined.table → t.name = joined.table
  named : Named source.database (Direct.relationsOf d source.catalog).values
  displays : ∀ r ∈ (Direct.relationsOf d source.catalog).values, ∀ t ∈ source.database.tables,
    t.name = d.name → r.displayField ∉ t.columnNames
  searchable : Unchained d (Direct.relationsOf d source.catalog).values (·.searchable)
  sortable : Unchained d (Direct.relationsOf d source.catalog).values (·.sortable)
  places : ∀ rule ∈ d.formatRules, Cell.ShowsPlaces rule
  values : ∀ f ∈ c.filters, f.value.isScalar = true

theorem Comparable.foundAlike {source : Source} {d : TableDescriptor} {c : Request.Context}
    (h : Comparable source d c) :
    ∀ r ∈ (Direct.relationsOf d source.catalog).values, FoundAlike source.database d.name r := by
  intro r hr joined hjoined
  rw [Database.namedTable?_eq_table? (h.tables r hr joined hjoined),
    Database.linkedTable?_eq_table? h.basic.keys]

section Queries

/-- The conditions of all searches of a request. -/
def Direct.Plan.searchConditions (p : Direct.Plan) (d : TableDescriptor) (request : PagingRequest) :
    List (Condition Value) :=
  p.termConditions d request.searchTerm ++ p.columnConditions request.columnSearches

/-- The query of the rows that pass the filters. -/
def Direct.Plan.totalQuery (p : Direct.Plan) (c : Request.Context) : Attempt (Query Stored) := do
  (p.statement (← p.filterConditions c.filters)).prepare

/-- The query of the rows that pass the filters and the search. -/
def Direct.Plan.pageQuery (p : Direct.Plan) (d : TableDescriptor) (c : Request.Context) :
    Attempt (Query Stored) := do
  (p.statement ((← p.filterConditions c.filters) ++ p.searchConditions d c.paging)).prepare

/-- The query of the rows that pass the filters. -/
def Staged.View.totalQuery (v : Staged.View) (f : Staged.Fetch) : Attempt (Query Stored) := do
  Staged.prepare (v.query (← v.filterConditions f.filters))

/-- The query of the rows that pass the filters and the search. -/
def Staged.View.pageQuery (v : Staged.View) (f : Staged.Fetch) : Attempt (Query Stored) := do
  Staged.prepare (v.query
    ((← v.filterConditions f.filters) ++ v.searchConditions f.ordered f.request f.hidden))

/-- The second count repeats the query of the page, or the first count where nothing is searched
for. -/
theorem count_twice {γ : Type} {total query page : Attempt (Query Stored)} {unsearched : Bool}
    (hpage : page = query) (h : unsearched = true → query = total)
    (k : Nat → Nat → Query Stored → Attempt γ) :
    (do
      let counted := (← total).count
      let filtered ← if unsearched then pure counted else do pure (← query).count
      let found ← page
      k counted filtered found) = (do
      let counted ← total
      let found ← query
      k counted.count found.count found) := by
  rw [hpage]
  -- both counts of one query are equal, wherever the second one is taken
  cases total with
  | error e => rfl
  | ok t =>
      cases hsearched : unsearched with
      | true =>
          rw [h hsearched]
          rfl
      | false => cases query <;> rfl

theorem totalQuery_of_conditions {p : Direct.Plan} {c : Request.Context}
    {qs : List (Condition Value)} (hqs : p.filterConditions c.filters = .ok qs)
    (hnames : ∀ name ∈ (p.statement qs).names, Direct.nameable name = true) :
    p.totalQuery c = (p.statement qs).query.bind := by
  rw [Direct.Plan.totalQuery, hqs]
  exact prepare_of_nameable hnames

theorem pageQuery_of_conditions {p : Direct.Plan} {d : TableDescriptor} {c : Request.Context}
    {qs : List (Condition Value)} (hqs : p.filterConditions c.filters = .ok qs)
    (hnames : ∀ name ∈ (p.statement (qs ++ p.searchConditions d c.paging)).names,
      Direct.nameable name = true) :
    p.pageQuery d c = (p.statement (qs ++ p.searchConditions d c.paging)).query.bind := by
  rw [Direct.Plan.pageQuery, hqs]
  exact prepare_of_nameable hnames

/-- The query of a page is bound from the conditions of the filters and the search. -/
theorem exists_conditions_of_pageQuery {p : Direct.Plan} {d : TableDescriptor}
    {c : Request.Context} {q : Query Stored} (h : p.pageQuery d c = .ok q) :
    q.base = p.base ∧ q.joins = p.joins.map (·.join) ∧
      ∃ qs, p.filterConditions c.filters = .ok qs ∧
        (qs ++ p.searchConditions d c.paging).mapM (Condition.traverse Store.bind) =
          .ok q.conditions := by
  obtain ⟨qs, hqs, h⟩ := bind_eq_ok.1 h
  obtain ⟨-, hbase, hjoins, hbound⟩ := bind_eq_ok_iff.1 (prepare_eq_ok_iff.1 h).2
  exact ⟨hbase, hjoins, qs, hqs, hbound⟩

/-- A page of a single pass takes two queries if all names can be named. -/
theorem find_eq {p : Direct.Plan} {d : TableDescriptor} {c : Request.Context}
    (hnames : ∀ qs, p.filterConditions c.filters = .ok qs →
      ∀ name ∈ (p.statement (qs ++ p.searchConditions d c.paging)).names ++
        p.pageNames (p.order d c.paging), Direct.nameable name = true) :
    p.find d c = (do
      let total ← p.totalQuery c
      let query ← p.pageQuery d c
      bindSegment c.paging.start c.paging.length
      return ⟨total.count, query.count, Store.segment c.paging.start c.paging.length
        (ordered (p.order d c.paging) query.rows)⟩) := by
  unfold Direct.Plan.find Direct.Plan.totalQuery Direct.Plan.pageQuery
  cases hfilters : p.filterConditions c.filters with
  | error e => rfl
  | ok qs =>
      -- the names of the page are added to those of its conditions, and all of them can be named
      have hall := hnames qs hfilters
      have hpage : Direct.Statement.prepare
          ⟨(p.statement (qs ++ p.searchConditions d c.paging)).names ++
            p.pageNames (p.order d c.paging),
          (p.statement (qs ++ p.searchConditions d c.paging)).query⟩ =
            (p.statement (qs ++ p.searchConditions d c.paging)).prepare := by
        rw [prepare_of_nameable hall]
        exact (prepare_of_nameable fun name hname => hall name (List.mem_append_left _ hname)).symm
      have hsame : (p.searchConditions d c.paging).isEmpty = true →
          (p.statement (qs ++ p.searchConditions d c.paging)).prepare =
            (p.statement qs).prepare := by
        intro hempty
        rw [List.isEmpty_iff.1 hempty, List.append_nil]
      exact count_twice hpage hsame fun total filtered query => do
        bindSegment c.paging.start c.paging.length
        return Direct.Found.mk total filtered (Store.segment c.paging.start c.paging.length
          (ordered (p.order d c.paging) query.rows))

theorem fetch_eq (v : Staged.View) (f : Staged.Fetch) :
    v.fetch f = (do
      let total ← v.totalQuery f
      let query ← v.pageQuery f
      bindSegment f.request.start f.request.length
      return ⟨total.count, query.count, ← (Store.segment f.request.start f.request.length
        (ordered (v.order f.ordered f.request f.orderBy f.fixed) query.rows)).mapM v.readRow⟩) := by
  have hsame : (v.searchConditions f.ordered f.request f.hidden).isEmpty = true →
      v.pageQuery f = v.totalQuery f := by
    intro hempty
    rw [Staged.View.pageQuery, List.isEmpty_iff.1 hempty]
    simp only [List.append_nil]
    rfl
  refine Eq.trans ?_ (count_twice rfl hsame fun total filtered query => do
    bindSegment f.request.start f.request.length
    return Staged.Fetched.mk total filtered (← (Store.segment f.request.start f.request.length
      (ordered (v.order f.ordered f.request f.orderBy f.fixed) query.rows)).mapM v.readRow))
  unfold Staged.View.fetch Staged.View.totalQuery Staged.View.pageQuery
  cases v.filterConditions f.filters with
  | error e => rfl
  | ok base => rfl

/-- The rows of a page are a segment of those of its query, as the types of their columns read
them. -/
theorem exists_query_of_fetch {v : Staged.View} {f : Staged.Fetch} {fetched : Staged.Fetched}
    (h : v.fetch f = .ok fetched) : ∃ q : Query Stored, v.pageQuery f = .ok q ∧
      q.base = v.base ∧ q.joins = v.joins.map (·.join) ∧
      (Store.segment f.request.start f.request.length
        (ordered (v.order f.ordered f.request f.orderBy f.fixed) q.rows)).mapM v.readRow =
          .ok fetched.rows := by
  rw [fetch_eq] at h
  obtain ⟨_, -, h⟩ := bind_eq_ok.1 h
  obtain ⟨q, hq, h⟩ := bind_eq_ok.1 h
  obtain ⟨_, -, h⟩ := bind_eq_ok.1 h
  obtain ⟨rows, hrows, h⟩ := bind_eq_ok.1 h
  obtain ⟨filters, -, hbound⟩ := bind_eq_ok.1 hq
  obtain ⟨written, -, hbound⟩ := bind_eq_ok.1 hbound
  obtain ⟨-, hbase, hjoins, -⟩ := bind_eq_ok_iff.1 hbound
  rw [← pure_eq_ok.1 h]
  exact ⟨q, hq, hbase, hjoins, hrows⟩

end Queries

section Segments

variable {α β : Type}

theorem segment_map (f : α → β) (start length : Int) (xs : List α) :
    Store.segment start length (xs.map f) = (Store.segment start length xs).map f := by
  unfold Store.segment
  split <;> simp only [List.map_drop, List.map_take]

theorem mem_of_mem_segment {start length : Int} {xs : List α} {x : α}
    (h : x ∈ Store.segment start length xs) : x ∈ xs := by
  unfold Store.segment at h
  split at h
  · exact List.mem_of_mem_drop h
  · exact List.mem_of_mem_drop (List.mem_of_mem_take h)

theorem mem_of_mem_ordered {order : Option RowOrder} {rows : List JoinedRow} {row : JoinedRow}
    (h : row ∈ ordered order rows) : row ∈ rows := by
  cases order with
  | none => exact h
  | some o => exact List.mem_mergeSort.1 h

end Segments

/-- What a page of a single pass and one of a staged compilation have in common: the counts, and the
cells of the rows. -/
structure SamePage (p : Direct.Plan) (found : Direct.Found) (fetched : Staged.Fetched) : Prop where
  total : found.total = fetched.total
  filtered : found.filtered = fetched.filtered
  rows : List.Forall₂ SameCells (found.rows.map (Direct.rawRow p)) fetched.rows

section Pages

variable {source : Source} {d : TableDescriptor} {c : Request.Context} {base : Table}
  {p : Direct.Plan} {r : Layout.ResolvedColumns} {R : Condition Stored → Condition Stored → Prop}

theorem nameable_total (h : Comparable source d c) (hmem : base ∈ source.database.tables)
    (hresolves : Resolves source d base p r) {qs : List (Condition Value)}
    (hqs : p.filterConditions c.filters = .ok qs) :
    ∀ name ∈ (p.statement qs).names, Direct.nameable name = true := by
  refine nameable_statement h.named hmem hresolves fun x hx => ?_
  obtain ⟨f, -, hget⟩ := exists_filter_of_mem_columnsOf hqs hx
  exact ⟨f.field, hget⟩

theorem nameable_page (h : Comparable source d c) (hmem : base ∈ source.database.tables)
    (hresolves : Resolves source d base p r) {qs : List (Condition Value)}
    (hqs : p.filterConditions c.filters = .ok qs) :
    ∀ name ∈ (p.statement (qs ++ p.searchConditions d c.paging)).names ++
      p.pageNames (p.order d c.paging), Direct.nameable name = true := by
  intro name hname
  rcases List.mem_append.1 hname with hname | hname
  · exact nameable_statement h.named hmem hresolves
      (fun x hx => exists_field_of_mem_columnsOf hqs hx) name hname
  · exact nameable_pageNames h.named hmem hresolves c.paging name hname

/-- Whether the conditions of the filters are made on both sides or on none, and are bound alike. -/
def FiltersBind (R : Condition Stored → Condition Stored → Prop) (p : Direct.Plan)
    (v : Staged.View) (filters : List FilterSpec) : Prop :=
  Alike (List.Forall₂ (Binds R)) (p.filterConditions filters) (v.filterConditions filters)

theorem alike_totalQuery (h : Comparable source d c) (hmem : base ∈ source.database.tables)
    (hresolves : Resolves source d base p r)
    (hbinds : FiltersBind R p (Staged.viewOf source d base r) c.filters) :
    Alike (Query.Corresponds R) (p.totalQuery c)
      ((Staged.viewOf source d base r).totalQuery (Staged.fetchOf d c r)) :=
  Alike.bind hbinds fun _ _ hqs _ hconditions =>
    alike_prepare hresolves.mirrors hconditions (nameable_total h hmem hresolves hqs)

theorem alike_pageQuery (h : Comparable source d c) (hmem : base ∈ source.database.tables)
    (hresolves : Resolves source d base p r) (hrefl : ∀ s, R s s)
    (hbinds : FiltersBind R p (Staged.viewOf source d base r) c.filters) :
    Alike (Query.Corresponds R) (p.pageQuery d c)
      ((Staged.viewOf source d base r).pageQuery (Staged.fetchOf d c r)) := by
  have hsearch : List.Forall₂ (Binds R) _ _ :=
    (searchConditions_binds hresolves.mirrors hresolves.fields
      (excluded_eq hresolves h.searchable) c.paging).imp fun q w hq =>
        hq.mono fun s t hst => hst ▸ hrefl s
  exact Alike.bind hbinds fun qs ps hqs _ hconditions =>
    alike_prepare hresolves.mirrors (List.rel_append hconditions hsearch) fun name hname =>
      nameable_page h hmem hresolves hqs name (List.mem_append_left _ hname)

/-- The rows of a page as the types of its columns read them. -/
theorem mapM_readRow (h : Comparable source d c) (hbase : source.database.table? d.name = some base)
    (r : Layout.ResolvedColumns) (rows : List JoinedRow) :
    rows.mapM (Staged.viewOf source d base r).readRow = .ok (rows.map fun row =>
      (Staged.viewOf source d base r).shownColumns.map fun e =>
        (e.1, Direct.rawCell (row.cell e.2.ref))) := by
  obtain ⟨hmem, hname⟩ := Database.mem_of_table? hbase
  have hbasic : ∀ e ∈ (Staged.viewOf source d base r).shownColumns,
      e.2.type.meaning.isBasic = true := by
    intro e he
    rcases mem_shownColumns he with ⟨column, hcolumn, rfl⟩ | ⟨j, hj, rfl⟩
    · exact h.basic.types base hmem column hcolumn
    · rw [Staged.viewOf, viewOf_joins source d hname] at hj
      obtain ⟨spec, -, hlink⟩ := List.mem_filterMap.1 hj
      obtain ⟨t, ht, column, hcolumn, htype⟩ := display_of_linkOf? hlink
      rw [htype]
      exact h.basic.types t ht column hcolumn
  rw [mapM_eq_ok, List.forall₂_map_right_iff, List.forall₂_same]
  exact fun row _ => readRow_of_isBasic hbasic row

theorem comesFrom_of_pageQuery {q : Query Stored} (hq : p.pageQuery d c = .ok q) {row : JoinedRow}
    (hrow : row ∈ q.rows) : ComesFrom p.base (p.joins.map (·.join)) row := by
  obtain ⟨hbase, hjoins, -⟩ := exists_conditions_of_pageQuery hq
  have hcomes := comesFrom_joinedRows (List.mem_filter.1 hrow).1
  rw [hbase, hjoins] at hcomes
  exact hcomes

/-- No row of a page has a cell that is no number. -/
theorem orderable_of_pageQuery (h : Comparable source d c) (hmem : base ∈ source.database.tables)
    (hresolves : Resolves source d base p r) {q : Query Stored} (hq : p.pageQuery d c = .ok q)
    {row : JoinedRow} (hrow : row ∈ q.rows) (o : RowOrder) : Orderable o row.seen := by
  intro column _
  rw [cell_seen]
  refine isNan_cell (comesFrom_of_pageQuery hq hrow) ?_ (fun j hj => ?_) column
  · rw [hresolves.table]
    exact h.basic.kept base hmem
  · obtain ⟨shown, hshown, rfl⟩ := List.mem_map.1 hj
    obtain ⟨spec, -, hmade⟩ := hresolves.made shown hshown
    exact h.basic.kept shown.join.table hmade.table

theorem keys_of_pageQuery (h : Comparable source d c) (hmem : base ∈ source.database.tables)
    (hresolves : Resolves source d base p r) {q : Query Stored} (hq : p.pageQuery d c = .ok q)
    {row : JoinedRow} (hrow : row ∈ q.rows) : Entries.keys row.base = p.base.columnNames := by
  have hcomes := (comesFrom_of_pageQuery hq hrow).base
  rw [hresolves.table] at hcomes ⊢
  exact (h.basic.kept base hmem).keys row.base hcomes

/-- The segments that both sides read have the same cells. -/
theorem sameCells_segment (h : Comparable source d c) (hmem : base ∈ source.database.tables)
    (hresolves : Resolves source d base p r) {q q' : Query Stored} (hq : p.pageQuery d c = .ok q)
    (hquery : q.Corresponds Eq q')
    (hties : TiesAlike (p.order d c.paging) (q.rows.map JoinedRow.seen)
      (q'.rows.map JoinedRow.seen)) :
    List.Forall₂ SameCells
      ((Store.segment c.paging.start c.paging.length
        (ordered (p.order d c.paging) q.rows)).map (Direct.rawRow p))
      ((Store.segment c.paging.start c.paging.length
        (ordered (p.order d c.paging) q'.rows)).map fun row =>
          (Staged.viewOf source d base r).shownColumns.map fun e =>
            (e.1, Direct.rawCell (row.cell e.2.ref))) := by
  have hordered := map_seen_ordered_eq
    (fun o _ row hrow => orderable_of_pageQuery h hmem hresolves hq hrow o)
    hquery.perm_map_seen_rows hties
  -- equal lists of seen rows are related one by one, which leaves the cells of two rows at a time
  have hsegment := congrArg (Store.segment c.paging.start c.paging.length) hordered
  rw [segment_map, segment_map, ← List.forall₂_eq_eq_eq, List.forall₂_map_left_iff,
    List.forall₂_map_right_iff] at hsegment
  rw [List.forall₂_map_left_iff, List.forall₂_map_right_iff]
  have hkeys : ∀ row ∈ Store.segment c.paging.start c.paging.length
      (ordered (p.order d c.paging) q.rows), Entries.keys row.base = p.base.columnNames :=
    fun row hrow => keys_of_pageQuery h hmem hresolves hq
      (mem_of_mem_ordered (mem_of_mem_segment hrow))
  refine ((List.forall₂_and_left _ _).2 ⟨hkeys, hsegment⟩).imp fun x y hxy => ?_
  exact sameCells_rawRow hresolves.mirrors hxy.2 hxy.1

/-- Both sides find the same page, or both fail. -/
theorem alike_find (h : Comparable source d c) (hbase : source.database.table? d.name = some base)
    (hresolves : Resolves source d base p r)
    (hbinds : FiltersBind Eq p (Staged.viewOf source d base r) c.filters)
    (hties : ∀ q q', p.pageQuery d c = .ok q →
      (Staged.viewOf source d base r).pageQuery (Staged.fetchOf d c r) = .ok q' →
        TiesAlike (p.order d c.paging) (q.rows.map JoinedRow.seen)
          (q'.rows.map JoinedRow.seen)) :
    Alike (SamePage p) (p.find d c)
      ((Staged.viewOf source d base r).fetch (Staged.fetchOf d c r)) := by
  obtain ⟨hmem, -⟩ := Database.mem_of_table? hbase
  have horder := order_eq hresolves.mirrors hresolves.fields
    (excluded_eq hresolves h.sortable) c.paging
  rw [find_eq fun _ hqs => nameable_page h hmem hresolves hqs, fetch_eq]
  refine (alike_totalQuery h hmem hresolves hbinds).bind fun total total' _ _ htotal => ?_
  refine (alike_pageQuery h hmem hresolves (fun _ => rfl) hbinds).bind
    fun q q' hq hq' hquery => ?_
  refine (Alike.refl (bindSegment c.paging.start c.paging.length)).bind fun _ _ _ _ _ => ?_
  rw [mapM_readRow h hbase]
  refine ⟨htotal.count_eq, hquery.count_eq, ?_⟩
  have hrows := sameCells_segment h hmem hresolves hq hquery (hties q q' hq hq')
  rw [horder] at hrows ⊢
  exact hrows

end Pages

end AdminGrid

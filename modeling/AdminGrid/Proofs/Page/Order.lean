import AdminGrid.Proofs.Page.Counts
import AdminGrid.Proofs.Store.Arrangement

/-!
# The order of a page

A page is ordered by a single column: by the one that the request points at, by the one that the
descriptor names, or by the key of the table, whichever of them is there first.  Nothing is added
that would tell rows apart which hold one value in this column.  So where a table has a key of one
column, its pages are fixed exactly if the rows that are found differ in the column of the order, as
they do in the key.
-/

namespace AdminGrid

open Store

/-- What the order of a page is chosen from: the fields that a request can point at, the columns
that fields stand for, the fields that rows are not ordered by, and the declared order. -/
structure OrderSource where
  fields : List String
  column? : String → Option ColumnRef
  fixed : List String
  declared : Option OrderBy

/-- The column of the key by which rows are ordered, smallest first. -/
def Store.Table.keyColumn? (t : Table) : Option ColumnRef :=
  t.primaryKey.head?.bind fun key => (t.column? key).map fun c => ⟨none, c.name, c.affinity⟩

namespace OrderSource

/-- The column that a request points at, and whether the greatest cells come first. -/
def requested? (s : OrderSource) (request : PagingRequest) : Option (ColumnRef × Bool) :=
  match request.orderColumnIndex with
  | none => none
  | some i =>
      if i < 0 then none
      else match s.fields[i.toNat]? with
        | some field =>
            if s.fixed.contains field then none
            else (s.column? field).map fun c => (c, request.orderDirection == .descending)
        | none => none

/-- The column that is declared for the order. -/
def declared? (s : OrderSource) : Option (ColumnRef × Bool) :=
  s.declared.bind fun o => (s.column? o.column).map fun c => (c, o.direction == .descending)

/-- The column of the order: the requested one, the declared one, or the key. -/
def choice? (s : OrderSource) (base : Table) (request : PagingRequest) :
    Option (ColumnRef × Bool) :=
  ((s.requested? request).or s.declared?).or (base.keyColumn?.map fun c => (c, false))

end OrderSource

section Choice

/-- What a single pass chooses its order from. -/
def Direct.Plan.orderSource (p : Direct.Plan) (d : TableDescriptor) : OrderSource :=
  ⟨p.fields, p.columns.get?, Direct.excluded d p.shown (·.sortable), d.orderBy⟩

/-- What a page that is fetched chooses its order from. -/
def Staged.View.orderSource (v : Staged.View) (f : Staged.Fetch) : OrderSource :=
  ⟨f.ordered, fun field => (v.column? field).map (·.ref), f.fixed, f.orderBy⟩

/-- The order of the rows of a table by a chosen column. -/
def orderOf (base : Table) (choice : ColumnRef × Bool) : RowOrder := .by base choice.1 choice.2

namespace Direct

theorem requestedOrder?_eq_map (p : Plan) (d : TableDescriptor) (request : PagingRequest) :
    p.requestedOrder? d request =
      ((p.orderSource d).requested? request).map (orderOf p.base) := by
  unfold Plan.requestedOrder? OrderSource.requested? Plan.orderSource
  simp only [Option.bind_eq_bind]
  cases request.orderColumnIndex with
  | none => rfl
  | some i =>
      by_cases hi : i < 0
      · simp [hi]
      · simp only [Option.bind_some, hi, if_false]
        cases p.fields[i.toNat]? with
        | none => rfl
        | some field =>
            by_cases hfixed : (excluded d p.shown (·.sortable)).contains field = true
            · simp only [Option.bind_some, hfixed, if_true]
              rfl
            · simp only [Option.bind_some, hfixed, Bool.false_eq_true, if_false]
              cases p.columns.get? field <;> rfl

theorem order_eq_map_choice? (p : Plan) (d : TableDescriptor) (request : PagingRequest) :
    p.order d request = ((p.orderSource d).choice? p.base request).map (orderOf p.base) := by
  have hdeclared : (d.orderBy.bind fun o => (p.columns.get? o.column).bind fun c =>
      some (RowOrder.by p.base c (o.direction == .descending))) =
        (p.orderSource d).declared?.map (orderOf p.base) := by
    unfold OrderSource.declared? Plan.orderSource
    cases d.orderBy with
    | none => rfl
    | some o =>
        simp only [Option.bind_some]
        cases p.columns.get? o.column <;> rfl
  have hkey : (p.base.primaryKey.head?.bind fun field => (p.base.column? field).bind fun c =>
      some (RowOrder.by p.base ⟨none, c.name, c.affinity⟩ false)) =
        (p.base.keyColumn?.map fun c => (c, false)).map (orderOf p.base) := by
    unfold Table.keyColumn?
    cases p.base.primaryKey.head? with
    | none => rfl
    | some key =>
        simp only [Option.bind_some]
        cases p.base.column? key <;> rfl
  rw [OrderSource.choice?, Option.map_or, Option.map_or, ← requestedOrder?_eq_map, ← hdeclared,
    ← hkey]
  rfl

end Direct

namespace Staged

theorem orderBy?_eq_map (v : View) (field : String) (direction : Direction) :
    v.orderBy? field direction =
      (((v.column? field).map (·.ref)).map fun c => (c, direction == .descending)).map
        (orderOf v.base) := by
  rw [Option.map_map, Option.map_map]
  rfl

theorem order_eq_map_choice? (v : View) (f : Fetch) :
    v.order f.ordered f.request f.orderBy f.fixed =
      ((v.orderSource f).choice? v.base f.request).map (orderOf v.base) := by
  have hrequested : v.requestedOrder? f.ordered f.request f.fixed =
      ((v.orderSource f).requested? f.request).map (orderOf v.base) := by
    unfold View.requestedOrder? OrderSource.requested? View.orderSource
    cases f.request.orderColumnIndex with
    | none => rfl
    | some i =>
        by_cases hi : i < 0
        · simp only [hi, if_true, Option.map_none]
        · simp only [hi, if_false]
          cases f.ordered[i.toNat]? with
          | none => rfl
          | some field =>
              by_cases hfixed : f.fixed.contains field = true
              · simp only [hfixed, if_true, Option.map_none]
              · simp only [hfixed, Bool.false_eq_true, if_false]
                exact orderBy?_eq_map v field f.request.orderDirection
  have hdeclared : (f.orderBy.bind fun o => v.orderBy? o.column o.direction) =
      (v.orderSource f).declared?.map (orderOf v.base) := by
    unfold OrderSource.declared? View.orderSource
    simp only [orderBy?_eq_map]
    cases f.orderBy <;> rfl
  have hkey : v.keyOrder? = (v.base.keyColumn?.map fun c => (c, false)).map (orderOf v.base) := by
    unfold View.keyOrder? Table.keyColumn?
    cases v.base.primaryKey with
    | nil => rfl
    | cons field rest =>
        simp only [List.head?_cons, Option.bind_some]
        cases v.base.column? field <;> rfl
  rw [OrderSource.choice?, Option.map_or, Option.map_or, ← hrequested, ← hdeclared, ← hkey]
  unfold View.order
  cases v.requestedOrder? f.ordered f.request f.fixed with
  | some o => rfl
  | none => cases f.orderBy.bind fun o => v.orderBy? o.column o.direction <;> rfl

end Staged

end Choice

section SingleKey

variable {base : Table} {key : String}

theorem orderOf_of_singleKey (hkey : base.primaryKey = [key]) (choice : ColumnRef × Bool) :
    orderOf base choice = ⟨[choice.1], choice.2⟩ := by
  unfold orderOf RowOrder.by
  rw [hkey]
  split <;> rfl

theorem isSome_keyColumn? (hkey : base.primaryKey = [key]) : base.keyColumn?.isSome = true := by
  have hmem : key ∈ base.primaryKey := by rw [hkey]; exact List.mem_singleton_self key
  obtain ⟨c, hc, hname⟩ := List.mem_map.1 hmem
  have hfound : (base.column? key).isSome = true :=
    List.find?_isSome.2 ⟨c, List.mem_of_mem_filter hc, by simp [hname]⟩
  unfold Table.keyColumn?
  rw [hkey, List.head?_cons, Option.bind_some, Option.isSome_map]
  exact hfound

/-- Rows of a table with a key are always ordered. -/
theorem exists_choice (hkey : base.primaryKey = [key]) (s : OrderSource)
    (request : PagingRequest) :
    ∃ column descending, s.choice? base request = some (column, descending) := by
  obtain ⟨c, hc⟩ := Option.isSome_iff_exists.1 (isSome_keyColumn? hkey)
  unfold OrderSource.choice?
  rw [hc]
  cases hchosen : (s.requested? request).or s.declared? with
  | none => exact ⟨c, false, rfl⟩
  | some choice => exact ⟨choice.1, choice.2, rfl⟩

/-- The cell of a row in a column. -/
def Store.keyOf (key : String) (row : StoredRow) : Stored := (Entries.get? key row).getD .null

/-- Whether no two rows of a table have one key. -/
def Store.Table.Keyed (t : Table) (key : String) : Prop :=
  t.rows.Pairwise fun a b => (keyOf key a).order (keyOf key b) ≠ .eq

/-- Rows of one key are one row, whichever of them comes first. -/
theorem Store.Table.Keyed.eq_of_order (h : base.Keyed key) (hkept : base.Kept) {a b : StoredRow}
    (ha : a ∈ base.rows) (hb : b ∈ base.rows) (hab : (keyOf key a).order (keyOf key b) = .eq) :
    a = b := by
  have hswap : ∀ x ∈ base.rows, ∀ y ∈ base.rows,
      (keyOf key y).order (keyOf key x) = ((keyOf key x).order (keyOf key y)).swap := by
    intro x hx y hy
    have hnan : ∀ row ∈ base.rows, (keyOf key row).isNan = false := fun row hrow =>
      isNan_getD (hkept.cells row hrow) key
    rw [order_eq_keyOrder (hnan x hx) (hnan y hy), order_eq_keyOrder (hnan y hy) (hnan x hx)]
    exact Std.OrientedCmp.eq_swap
  have hboth : base.rows.Pairwise fun x y => (keyOf key x).order (keyOf key y) ≠ .eq ∧
      (keyOf key y).order (keyOf key x) ≠ .eq := by
    refine List.Pairwise.imp_of_mem (fun {x y} hx hy hxy => ⟨hxy, ?_⟩) h
    rw [hswap x hx y hy]
    exact fun heq => hxy (by rwa [Ordering.swap_eq_eq] at heq)
  have : Std.Symm fun x y => (keyOf key x).order (keyOf key y) ≠ .eq ∧
      (keyOf key y).order (keyOf key x) ≠ .eq := ⟨fun x y hxy => ⟨hxy.2, hxy.1⟩⟩
  by_contra hne
  exact (hboth.forall ha hb hne).1 hab

/-- What it means for the pages of a query that its rows are ordered by one column. -/
structure OrderedByColumn (q : Query Stored) (key : String) (c : ColumnRef) (descending : Bool) :
    Prop where
  /-- Two rows are not told apart exactly if they hold equal values in the column. -/
  tied_iff : ∀ a ∈ q.rows, ∀ b ∈ q.rows,
    (tied (RowOrder.before ⟨[c], descending⟩) a b = true ↔ (a.cell c).order (b.cell c) = .eq)
  /-- The pages are fixed exactly if no two different rows hold equal values in the column. -/
  fixed_iff : PagesFixed ⟨[c], descending⟩ q.rows ↔
    ∀ a ∈ q.rows, ∀ b ∈ q.rows, (a.cell c).order (b.cell c) = .eq → a = b
  /-- In the column of the key the rows of a table differ, so that its pages are fixed. -/
  fixed_of_key : q.joins = [] → q.base.Keyed key → c.alias? = none → c.column = key →
    PagesFixed ⟨[c], descending⟩ q.rows

theorem exists_base_of_mem_rows {q : Query Stored} (hjoins : q.joins = []) {row : JoinedRow}
    (h : row ∈ q.rows) : ∃ r ∈ q.base.rows, row = ⟨r, []⟩ := by
  have hrow := List.mem_of_mem_filter h
  unfold Query.joinedRows at hrow
  rw [hjoins, List.foldl_nil] at hrow
  obtain ⟨r, hr, rfl⟩ := List.mem_map.1 hrow
  exact ⟨r, (sortedBy_perm q.scanColumns q.base.rows).mem_iff.1 hr, rfl⟩

theorem orderedByColumn {q : Query Stored} (hbase : q.base.Kept)
    (hjoins : ∀ j ∈ q.joins, j.table.Kept) (c : ColumnRef) (descending : Bool) :
    OrderedByColumn q key c descending := by
  have hnan : ∀ row ∈ q.rows, (row.cell c).isNan = false := fun row hrow =>
    isNan_cell (comesFrom_joinedRows (List.mem_of_mem_filter hrow)) hbase hjoins c
  have horderable : ∀ row ∈ q.rows, Orderable ⟨[c], descending⟩ row.seen := by
    intro row hrow x hx
    obtain rfl := List.mem_singleton.1 hx
    exact hnan row hrow
  have htied : ∀ a ∈ q.rows, ∀ b ∈ q.rows, (tied (RowOrder.before ⟨[c], descending⟩) a b = true ↔
      (a.cell c).order (b.cell c) = .eq) :=
    fun a ha b hb => tied_column_iff (hnan a ha) (hnan b hb)
  have hfixed : PagesFixed ⟨[c], descending⟩ q.rows ↔
      ∀ a ∈ q.rows, ∀ b ∈ q.rows, (a.cell c).order (b.cell c) = .eq → a = b := by
    rw [pagesFixed_iff horderable]
    exact forall₂_congr fun a ha => forall₂_congr fun b hb => by rw [htied a ha b hb]
  refine ⟨htied, hfixed, fun hnone hkeyed halias hcolumn => hfixed.2 fun a ha b hb hab => ?_⟩
  obtain ⟨r, hr, rfl⟩ := exists_base_of_mem_rows hnone ha
  obtain ⟨r', hr', rfl⟩ := exists_base_of_mem_rows hnone hb
  have hcell : ∀ row : StoredRow, JoinedRow.cell ⟨row, []⟩ c = keyOf key row := by
    intro row
    rw [JoinedRow.cell, halias, hcolumn]
    rfl
  rw [hcell, hcell] at hab
  rw [hkeyed.eq_of_order hbase hr hr' hab]

/-- The page of a single pass over a table with a key of one column. -/
theorem Direct.orderedByColumn_of_find (hkey : base.primaryKey = [key]) (hkept : base.Kept)
    {p : Plan} {d : TableDescriptor} {c : Request.Context} {found : Found} (hbase : p.base = base)
    (hjoins : ∀ j ∈ p.joins, j.join.table.Kept) {column : ColumnRef} {descending : Bool}
    (hchoice : (p.orderSource d).choice? base c.paging = some (column, descending))
    (h : p.find d c = .ok found) : ∃ q : Query Stored,
      p.pageQuery d c = .ok q ∧
      found.rows = segment c.paging.start c.paging.length
        (ordered (some ⟨[column], descending⟩) q.rows) ∧
      OrderedByColumn q key column descending := by
  obtain ⟨-, q, -, hq, rfl⟩ := exists_queries_of_find h
  obtain ⟨hqbase, hqjoins, -⟩ := exists_conditions_of_pageQuery hq
  refine ⟨q, hq, ?_, orderedByColumn (hqbase.trans hbase ▸ hkept) ?_ column descending⟩
  · rw [order_eq_map_choice?, hbase, hchoice, Option.map_some, orderOf_of_singleKey hkey]
  · intro j hj
    rw [hqjoins] at hj
    obtain ⟨shown, hshown, rfl⟩ := List.mem_map.1 hj
    exact hjoins shown hshown

/-- The page that is fetched from a table with a key of one column. -/
theorem Staged.orderedByColumn_of_fetch (hkey : base.primaryKey = [key]) (hkept : base.Kept)
    {v : View} {f : Fetch} {fetched : Fetched} (hbase : v.base = base)
    (hjoins : ∀ j ∈ v.joins, j.join.table.Kept) {column : ColumnRef} {descending : Bool}
    (hchoice : (v.orderSource f).choice? base f.request = some (column, descending))
    (h : v.fetch f = .ok fetched) : ∃ q : Query Stored,
      v.pageQuery f = .ok q ∧
      (segment f.request.start f.request.length
        (ordered (some ⟨[column], descending⟩) q.rows)).mapM v.readRow = .ok fetched.rows ∧
      OrderedByColumn q key column descending := by
  obtain ⟨q, hq, hqbase, hqjoins, hrows⟩ := exists_query_of_fetch h
  refine ⟨q, hq, ?_, orderedByColumn (hqbase.trans hbase ▸ hkept) ?_ column descending⟩
  · rwa [order_eq_map_choice?, hbase, hchoice, Option.map_some, orderOf_of_singleKey hkey] at hrows
  · intro j hj
    rw [hqjoins] at hj
    obtain ⟨linked, hlinked, rfl⟩ := List.mem_map.1 hj
    exact hjoins linked hlinked

/-- Both compilations order a table with a key of one column by one column: the one that the request
points at, or the declared one, or the key.  Rows are told apart by their values in it alone, so
that the pages are fixed exactly if the rows that are found differ there, and always by the key. -/
theorem pages_ordered_by_one_column (hkey : base.primaryKey = [key]) (hkept : base.Kept) :
    (∀ (p : Direct.Plan) (d : TableDescriptor) (c : Request.Context), p.base = base →
      (∀ j ∈ p.joins, j.join.table.Kept) → ∃ column descending,
        (p.orderSource d).choice? base c.paging = some (column, descending) ∧
        p.order d c.paging = some ⟨[column], descending⟩ ∧
        ∀ found, p.find d c = .ok found → ∃ q : Query Stored, p.pageQuery d c = .ok q ∧
          found.rows = segment c.paging.start c.paging.length
            (ordered (some ⟨[column], descending⟩) q.rows) ∧
          OrderedByColumn q key column descending) ∧
    (∀ (v : Staged.View) (f : Staged.Fetch), v.base = base →
      (∀ j ∈ v.joins, j.join.table.Kept) → ∃ column descending,
        (v.orderSource f).choice? base f.request = some (column, descending) ∧
        v.order f.ordered f.request f.orderBy f.fixed = some ⟨[column], descending⟩ ∧
        ∀ fetched, v.fetch f = .ok fetched → ∃ q : Query Stored, v.pageQuery f = .ok q ∧
          (segment f.request.start f.request.length
            (ordered (some ⟨[column], descending⟩) q.rows)).mapM v.readRow = .ok fetched.rows ∧
          OrderedByColumn q key column descending) := by
  constructor
  · intro p d c hbase hjoins
    obtain ⟨column, descending, hchoice⟩ := exists_choice hkey (p.orderSource d) c.paging
    refine ⟨column, descending, hchoice, ?_, fun found h =>
      Direct.orderedByColumn_of_find hkey hkept hbase hjoins hchoice h⟩
    rw [Direct.order_eq_map_choice?, hbase, hchoice, Option.map_some, orderOf_of_singleKey hkey]
  · intro v f hbase hjoins
    obtain ⟨column, descending, hchoice⟩ := exists_choice hkey (v.orderSource f) f.request
    refine ⟨column, descending, hchoice, ?_, fun fetched h =>
      Staged.orderedByColumn_of_fetch hkey hkept hbase hjoins hchoice h⟩
    rw [Staged.order_eq_map_choice?, hbase, hchoice, Option.map_some, orderOf_of_singleKey hkey]

end SingleKey

section Codes

/-- Two codes with one note. -/
def codes : Table where
  name := "codes"
  columns := [⟨"code", "TEXT", true, false, none⟩, ⟨"note", "TEXT", false, false, none⟩]
  keys := []
  rows := [[("code", .text "b"), ("note", .text "x")], [("code", .text "a"), ("note", .text "x")]]

/-- The descriptor of the codes, without relations. -/
def codeColumns : TableDescriptor where
  name := "codes"
  columns := [⟨"code", none, false, false, true, true, false⟩,
    ⟨"note", none, false, false, true, true, false⟩]
  relations := []
  formulas := []
  actions := ⟨false, [], [], []⟩
  filters := []
  paging := ⟨10, 100⟩
  formatRules := []
  clickable := false
  numbering := false
  urlTargetField := "id"
  softDeleteField := none
  mergedColumns := []
  fixedColumns := []
  orderBy := none

/-- The request of a page of one code, ordered by the column of an index. -/
def codesBy (index : Option Int) : Request.Context where
  tableName := some "codes"
  descriptor := some codeColumns
  paging := ⟨0, 1, index, .ascending, none, 0, []⟩
  filters := []
  filterPage := []
  route := ⟨none, none, none, none⟩
  roles := []
  roleGroup := none
  params := []

/-- The plan of the codes. -/
def codesPlan : Direct.Plan :=
  ⟨codes, ["code", "note"], [],
    [("code", ⟨none, "code", .text⟩), ("note", ⟨none, "note", .text⟩)], .none⟩

/-- The view of the codes. -/
def codesView : Staged.View := ⟨codes, []⟩

/-- What a page of the codes is fetched by. -/
def codesFetch (index : Option Int) : Staged.Fetch :=
  Staged.fetchOf codeColumns (codesBy index) ⟨["code", "note"], [], .none, []⟩

theorem kept_codes : codes.Kept := ⟨by decide, by decide⟩

theorem plan_codes : Direct.plan ⟨[codes]⟩ codes codeColumns [] = .ok codesPlan := rfl

theorem find_codesPlan : codesPlan.find codeColumns (codesBy none) =
    .ok ⟨2, 2, segment 0 1 (ordered (some ⟨[⟨none, "code", .text⟩], false⟩)
      (Query.rows ⟨codes, [], []⟩))⟩ := by
  have htotal : codesPlan.totalQuery (codesBy none) = .ok ⟨codes, [], []⟩ :=
    totalQuery_of_conditions (p := codesPlan) (c := codesBy none) rfl (by decide)
  have hpage : codesPlan.pageQuery codeColumns (codesBy none) = .ok ⟨codes, [], []⟩ :=
    pageQuery_of_conditions (p := codesPlan) (d := codeColumns) (c := codesBy none) rfl (by decide)
  rw [find_eq fun _ hqs => Except.ok.inj hqs ▸ by decide, htotal, hpage]
  rfl

theorem fetch_codesView : ∃ fetched, codesView.fetch (codesFetch none) = .ok fetched := by
  have hbasic : ∀ e ∈ codesView.shownColumns, e.2.type.meaning.isBasic = true := by decide
  have hread : ∀ rows : List JoinedRow, ∃ read, rows.mapM codesView.readRow = .ok read := by
    intro rows
    refine ⟨rows.map fun row =>
      codesView.shownColumns.map fun e => (e.1, Direct.rawCell (row.cell e.2.ref)), ?_⟩
    rw [mapM_eq_ok, List.forall₂_map_right_iff, List.forall₂_same]
    exact fun row _ => readRow_of_isBasic hbasic row
  obtain ⟨read, hrows⟩ := hread (segment 0 1
    (ordered (some ⟨[⟨none, "code", .text⟩], false⟩) (Query.rows ⟨codes, [], []⟩)))
  refine ⟨⟨2, 2, read⟩, ?_⟩
  rw [fetch_eq]
  show ((segment 0 1 (ordered (some ⟨[⟨none, "code", .text⟩], false⟩)
    (Query.rows ⟨codes, [], []⟩))).mapM codesView.readRow >>= fun rows =>
      pure (Staged.Fetched.mk 2 2 rows)) = _
  rw [hrows]
  rfl

theorem keyed_codes : codes.Keyed "code" := by
  unfold Table.Keyed
  decide

/-- By their key the pages of the codes are fixed, in both compilations. -/
theorem pages_ordered_by_one_column_codes : codes.primaryKey = ["code"] ∧ codes.Kept ∧
    Direct.plan ⟨[codes]⟩ codes codeColumns [] = .ok codesPlan ∧
    (∃ (found : Direct.Found) (q : Query Stored),
      codesPlan.find codeColumns (codesBy none) = .ok found ∧
      found.rows = segment 0 1 (ordered (some ⟨[⟨none, "code", .text⟩], false⟩) q.rows) ∧
      PagesFixed ⟨[⟨none, "code", .text⟩], false⟩ q.rows) ∧
    ∃ (fetched : Staged.Fetched) (q : Query Stored),
      codesView.fetch (codesFetch none) = .ok fetched ∧
      (segment 0 1 (ordered (some ⟨[⟨none, "code", .text⟩], false⟩) q.rows)).mapM
        codesView.readRow = .ok fetched.rows ∧
      PagesFixed ⟨[⟨none, "code", .text⟩], false⟩ q.rows := by
  obtain ⟨hdirect, hstaged⟩ := @pages_ordered_by_one_column codes "code" rfl kept_codes
  refine ⟨rfl, kept_codes, plan_codes, ?_, ?_⟩
  · obtain ⟨column, descending, hchoice, -, hpages⟩ :=
      hdirect codesPlan codeColumns (codesBy none) rfl (fun j hj => nomatch hj)
    obtain ⟨rfl, rfl⟩ : ⟨none, "code", .text⟩ = column ∧ false = descending :=
      Prod.mk.inj (Option.some.inj hchoice)
    obtain ⟨q, hq, hrows, hordered⟩ := hpages _ find_codesPlan
    obtain rfl : ⟨codes, [], []⟩ = q := Except.ok.inj hq
    exact ⟨_, _, find_codesPlan, hrows, hordered.fixed_of_key rfl keyed_codes rfl rfl⟩
  · obtain ⟨column, descending, hchoice, -, hpages⟩ :=
      hstaged codesView (codesFetch none) rfl (fun j hj => nomatch hj)
    obtain ⟨rfl, rfl⟩ : ⟨none, "code", .text⟩ = column ∧ false = descending :=
      Prod.mk.inj (Option.some.inj hchoice)
    obtain ⟨fetched, hfetched⟩ := fetch_codesView
    obtain ⟨q, hq, hrows, hordered⟩ := hpages fetched hfetched
    obtain rfl : ⟨codes, [], []⟩ = q := Except.ok.inj hq
    exact ⟨fetched, _, hfetched, hrows, hordered.fixed_of_key rfl keyed_codes rfl rfl⟩

/-- By their notes the codes are not told apart, though their keys differ, in both compilations. -/
theorem not_told_apart_codes :
    codes.primaryKey = ["code"] ∧ codes.Keyed "code" ∧ codeColumns.relations = [] ∧
    Direct.plan ⟨[codes]⟩ codes codeColumns [] = .ok codesPlan ∧
    codesPlan.order codeColumns (codesBy (some 1)).paging =
      some ⟨[⟨none, "note", .text⟩], false⟩ ∧
    codesView.order ["code", "note"] (codesBy (some 1)).paging none [] =
      some ⟨[⟨none, "note", .text⟩], false⟩ ∧
    (∃ a ∈ codes.rows, ∃ b ∈ codes.rows, (keyOf "code" a).order (keyOf "code" b) ≠ .eq ∧
      tied (RowOrder.before ⟨[⟨none, "note", .text⟩], false⟩) ⟨a, []⟩ ⟨b, []⟩ = true) ∧
    ¬ PagesFixed ⟨[⟨none, "note", .text⟩], false⟩ (Query.rows ⟨codes, [], []⟩) := by
  have hrows : Query.rows ⟨codes, [], []⟩ = codes.rows.map fun r => ⟨r, []⟩ := rfl
  refine ⟨rfl, keyed_codes, rfl, rfl, rfl, rfl,
    ⟨_, List.mem_cons_self, _, List.mem_cons_of_mem _ List.mem_cons_self, by decide, by decide⟩, ?_⟩
  intro hfixed
  have hordered : OrderedByColumn ⟨codes, [], []⟩ "code" ⟨none, "note", .text⟩ false :=
    orderedByColumn kept_codes (List.forall_mem_nil _) _ _
  rw [hordered.fixed_iff, hrows] at hfixed
  have hsame := hfixed _ (List.mem_map_of_mem List.mem_cons_self) _
    (List.mem_map_of_mem (List.mem_cons_of_mem _ List.mem_cons_self)) (by decide)
  exact absurd (congrArg (fun row => keyOf "code" row.base) hsame) (by decide)

end Codes

end AdminGrid

import AdminGrid.Proofs.Page.CompletedRows
import AdminGrid.Proofs.Request.Context

/-!
# Relation columns keep the rows

The columns of relations that find at most one row for each row of the base table, and hide none of
its columns, leave the rows of an answer as they are: those that pass the filters are counted, and
each of them is shown once, with what the relations show beside it.  The statements of a request
cannot be run with too many tables, nor with two relations whose aliases differ in capital letters
alone and whose tables share the name of a column.
-/

namespace AdminGrid

open Store

section Requests

variable {source : Source} {d : TableDescriptor} {c : Request.Context} {base : Table}

theorem Direct.compile_of_plan (hdescribed : c.describedTable = .ok d)
    (hbase : source.database.table? d.name = some base) {p : Direct.Plan}
    (hplan : Direct.plan source.database base d source.catalog = .ok p) :
    Direct.compile source c = p.find d c >>= p.payloadOf source d c := by
  rw [compile_of_described hdescribed, hbase]
  show Direct.plan source.database base d source.catalog >>= _ = _
  rw [hplan]
  rfl

theorem Direct.exists_rawRows_of_payloadOf {p : Direct.Plan} {found : Direct.Found}
    {payload : Entries Value} (h : p.payloadOf source d c found = .ok payload) :
    ∃ raws items, Direct.rawRows p found.rows = .ok raws ∧
      payload = Direct.payload c.paging.draw found items := by
  obtain ⟨style, -, h⟩ := bind_eq_ok.1 h
  obtain ⟨raws, hraws, h⟩ := bind_eq_ok.1 h
  obtain ⟨items, -, h⟩ := bind_eq_ok.1 h
  exact ⟨raws, items, hraws, (pure_eq_ok.1 h).symm⟩

theorem Staged.answer_of_resolved (hdescribed : c.describedTable = .ok d)
    (hbase : source.database.linkedTable? d.name = some base) {r : Layout.ResolvedColumns}
    (hresolved : Layout.resolveColumns (Staged.columnRequest base d
      (Layout.mergeRelations d.relations source.catalog)) = .ok r) :
    Staged.answer source c =
      (Staged.viewOf source d base r).fetch (Staged.fetchOf d c r) >>=
        Staged.answerOf source d c r := by
  have hfound : Staged.resolvedOf source d = .ok (base, r) :=
    resolvedOf_eq_ok.2 ⟨hbase, hresolved⟩
  rw [answer_of_described hdescribed, hfound]
  rfl

end Requests

/-- What both compilations answer to a request without a search whose filters are on columns of the
base table, where the relations that they join keep its rows.  The rows that pass the filters are
those of `passing`, which knows of no relation and of no displayed column.  Whenever there is an
answer, the statements could be run and the values of the filters be bound; and then the answer
counts the passing rows and shows a segment of an arrangement of them, each with the cell that every
relation finds for it, or null.  A segment that is long enough shows them all. -/
theorem compile_keeps_rows {source : Source} {d : TableDescriptor} {c : Request.Context}
    {base : Table} (hdescribed : c.describedTable = .ok d) (hsearch : SearchesNothing c.paging)
    (hfilters : ∀ f ∈ c.filters, f.field ∈ base.columnNames) :
    (∀ p, source.database.table? d.name = some base →
      Direct.plan source.database base d source.catalog = .ok p → KeepsRows base p.links →
        (∀ payload, Direct.compile source c = .ok payload →
          p.Ready d c ∧ ∃ rows, Direct.passing base c.filters = .ok rows) ∧
        (p.Ready d c → ∀ rows, Direct.passing base c.filters = .ok rows →
          ∃ full : List StoredRow, full.Perm rows ∧
            Direct.compile source c = p.answerWith source d c full)) ∧
    (∀ r, source.database.linkedTable? d.name = some base →
      Layout.resolveColumns (Staged.columnRequest base d
        (Layout.mergeRelations d.relations source.catalog)) = .ok r →
      KeepsRows base (Staged.viewOf source d base r).links →
        (∀ response, (Staged.compile source c).1 = .ok response →
          ((Staged.viewOf source d base r).query []).Runnable ∧
            ∃ rows, Staged.passing base c.filters = .ok rows) ∧
        (((Staged.viewOf source d base r).query []).Runnable →
          ∀ rows, Staged.passing base c.filters = .ok rows →
            ∃ full : List StoredRow, full.Perm rows ∧
              (Staged.compile source c).1 =
                (Staged.viewOf source d base r).answerWith source d c r full ∧
              ∀ response, (Staged.compile source c).1 = .ok response →
                response.recordsTotal = rows.length ∧ response.recordsFiltered = rows.length)) ∧
    (∀ full : List StoredRow, c.paging.start ≤ 0 →
      c.paging.length < 0 ∨ (full.length : Int) ≤ c.paging.length →
        segment c.paging.start c.paging.length full = full) := by
  refine ⟨fun p hbase hplan hkeeps => ?_, fun r hbase hresolved hkeeps => ?_,
    fun full hstart hlength => segment_eq_self hstart hlength⟩
  · have hmade := Direct.Plan.madeFor_of_plan hplan
    rw [Direct.compile_of_plan hdescribed hbase hplan]
    refine ⟨fun payload h => ?_, fun hready rows hrows => ?_⟩
    · obtain ⟨found, hfound, -⟩ := bind_eq_ok.1 h
      exact Direct.ready_of_find hmade hkeeps hsearch hfilters hfound
    · exact Direct.payload_of_passing hmade hkeeps hready hsearch hfilters hrows
  · have hname : base.name = d.name :=
      (Database.mem_of_table? (Database.table?_of_linkedTable? hbase)).2
    have hmade := Staged.View.madeFor_viewOf hname hresolved
    rw [Staged.compile_fst, Staged.answer_of_resolved hdescribed hbase hresolved]
    refine ⟨fun response h => ?_, fun hruns rows hrows => ?_⟩
    · obtain ⟨fetched, hfetched, -⟩ := bind_eq_ok.1 h
      exact Staged.runnable_of_fetch (f := Staged.fetchOf d c r) hmade hkeeps hfilters hfetched
    · obtain ⟨full, hfull, hanswer⟩ :=
        Staged.answer_of_passing (r := r) hmade hkeeps hruns hsearch hfilters hrows
      refine ⟨full, hfull, hanswer, fun response h => ?_⟩
      rw [hanswer] at h
      obtain ⟨_, -, h⟩ := bind_eq_ok.1 h
      obtain ⟨page, -, h⟩ := bind_eq_ok.1 h
      rw [← hfull.length_eq]
      exact counts_of_answerOf h

/-- People by their numbers. -/
def people : Table where
  name := "people"
  columns := [⟨"id", "INTEGER", false, false, none⟩, ⟨"name", "TEXT", false, false, none⟩]
  keys := []
  rows := [[("id", .int 1), ("name", .text "Ann")], [("id", .int 2), ("name", .text "Bob")]]

/-- A sale to a customer, by a clerk where there was one. -/
def saleRow (id customer : Int) (clerk : Stored) (total : Int) : StoredRow :=
  [("id", .int id), ("customer_id", .int customer), ("clerk_id", clerk), ("total", .int total)]

/-- The sales that are not small. -/
def bigSales : List StoredRow := [saleRow 1 1 (.int 2) 9, saleRow 2 2 .null 7]

/-- All sales. -/
def sales : Table where
  name := "sales"
  columns := ["id", "customer_id", "clerk_id", "total"].map fun column =>
    ⟨column, "INTEGER", false, false, none⟩
  keys := []
  rows := bigSales ++ [saleRow 3 1 (.int 1) 3]

/-- The database of the sales. -/
def salesSource : Source := ⟨⟨[sales, people]⟩, .none, []⟩

/-- The sales with the names of the customer and of the clerk, under two aliases. -/
def salesColumns (customer clerk : String) : TableDescriptor :=
  { Request.ordersTable with
    name := "sales"
    columns := ["id", customer, clerk].map fun field =>
      ⟨field, none, false, false, true, true, false⟩
    relations := [⟨customer, "customer.name", none, [("people.id", "sales.customer_id")]⟩,
      ⟨clerk, "clerk.name", none, [("people.id", "sales.clerk_id")]⟩]
    actions := ⟨false, [], [], []⟩ }

/-- The request of all sales above five. -/
def salesRequest (customer clerk : String) : Request.Context where
  tableName := some "sales"
  descriptor := some (salesColumns customer clerk)
  paging := ⟨0, 10, none, .ascending, none, 0, []⟩
  filters := [⟨"total", .greaterThan, .int 5⟩]
  filterPage := []
  route := ⟨none, none, none, none⟩
  roles := []
  roleGroup := none
  params := []

/-- The join of the people under an alias. -/
def personJoin (name field column : String) : Direct.ShownJoin where
  join := ⟨Direct.joinAlias name, people, "id", column, .numeric, "name"⟩
  displayField := field
  displayColumn := ⟨some (Direct.joinAlias name), "name", .text⟩

/-- The plan of the sales. -/
def salesPlan (customer clerk : String) : Direct.Plan :=
  let joins := [personJoin customer "customer.name" "customer_id",
    personJoin clerk "clerk.name" "clerk_id"]
  ⟨sales, ["id", "customer.name", "clerk.name"], joins,
    (Direct.baseColumns sales).merge (joins.map fun j => (j.displayField, j.displayColumn)),
    ⟨[(customer, ⟨"customer.name", [("people.id", "sales.customer_id")]⟩),
      (clerk, ⟨"clerk.name", [("people.id", "sales.clerk_id")]⟩)],
      [("people.id", "sales.clerk_id")]⟩⟩

/-- The resolved columns of the sales. -/
def salesResolved (customer clerk : String) : Layout.ResolvedColumns where
  ordered := ["id", "customer.name", "clerk.name"]
  labels := ((salesColumns customer clerk).labels.put "customer.name" (labelOr none customer)).put
    "clerk.name" (labelOr none clerk)
  relations := (salesPlan customer clerk).shown
  formulas := []

/-- The join of the people in a staged compilation. -/
def personLink (name field column : String) : Staged.LinkedJoin :=
  let shown := personJoin name field column
  ⟨shown.join, field, ⟨shown.displayColumn, .ofDeclaration "TEXT"⟩⟩

/-- The view of the sales. -/
def salesView (customer clerk : String) : Staged.View :=
  ⟨sales, [personLink customer "customer.name" "customer_id",
    personLink clerk "clerk.name" "clerk_id"]⟩

section Sales

/-- Two pairs of aliases, the second of which differ in a capital letter alone. -/
def SalesAliases (customer clerk : String) : Prop :=
  customer = "customer" ∧ clerk = "clerk" ∨ customer = "person" ∧ clerk = "Person"

variable {customer clerk : String} (h : SalesAliases customer clerk)

include h

theorem requestedColumns_sales : Layout.requestedColumns (salesColumns customer clerk) =
    ["id", customer, clerk] := by
  rcases h with ⟨rfl, rfl⟩ | ⟨rfl, rfl⟩ <;> rfl

theorem schemaColumns_sales :
    Layout.schemaColumns ["id", customer, clerk] sales.columnNames = ["id"] := by
  rcases h with ⟨rfl, rfl⟩ | ⟨rfl, rfl⟩ <;> rfl

theorem applyRelations_sales : Layout.applyRelations
    ⟨["id"], (salesColumns customer clerk).labels, .none⟩ ["id", customer, clerk]
    (Direct.relationsOf (salesColumns customer clerk) []).values =
      ⟨(salesResolved customer clerk).ordered, (salesResolved customer clerk).labels,
        (salesResolved customer clerk).relations⟩ := by
  have hplaces : Layout.aliasPlaces (Layout.byAlias
      (Direct.relationsOf (salesColumns customer clerk) []).values) ["id"]
        ["id", customer, clerk] = [(1, customer), (2, clerk)] := by
    rcases h with ⟨rfl, rfl⟩ | ⟨rfl, rfl⟩ <;> exact List.mergeSort_of_pairwise (by decide)
  rw [Layout.applyRelations_eq, hplaces]
  rcases h with ⟨rfl, rfl⟩ | ⟨rfl, rfl⟩ <;> rfl

theorem plan_sales : Direct.plan salesSource.database sales (salesColumns customer clerk) [] =
    .ok (salesPlan customer clerk) := by
  unfold Direct.plan
  simp only [requestedColumns_sales h, schemaColumns_sales h, applyRelations_sales h]
  rcases h with ⟨rfl, rfl⟩ | ⟨rfl, rfl⟩ <;> rfl

theorem resolveColumns_sales : Layout.resolveColumns
    (Staged.columnRequest sales (salesColumns customer clerk)
      (Layout.mergeRelations (salesColumns customer clerk).relations [])) =
        .ok (salesResolved customer clerk) := by
  have hmerged : Layout.mergeRelations (salesColumns customer clerk).relations [] =
      (Direct.relationsOf (salesColumns customer clerk) []).values := rfl
  unfold Layout.resolveColumns Staged.columnRequest Layout.ColumnRequest.baseFields
  simp only [requestedColumns_sales h, schemaColumns_sales h, hmerged, applyRelations_sales h]
  rcases h with ⟨rfl, rfl⟩ | ⟨rfl, rfl⟩ <;> rfl

theorem viewOf_sales : Staged.viewOf salesSource (salesColumns customer clerk) sales
    (salesResolved customer clerk) = salesView customer clerk := by
  rcases h with ⟨rfl, rfl⟩ | ⟨rfl, rfl⟩ <;> rfl

end Sales

theorem linkedTable?_sales : salesSource.database.linkedTable? "sales" = some sales := by
  rw [Database.linkedTable?_eq_table? (by simp [salesSource, sales, people])]
  rfl

/-- Both compilations count and show two of the three sales, beside the name of the customer and
that of the clerk; one of them has no clerk. -/
theorem compile_keeps_rows_sales :
    let c := salesRequest "customer" "clerk"
    let d := salesColumns "customer" "clerk"
    c.describedTable = .ok d ∧ SearchesNothing c.paging ∧
    (∀ f ∈ c.filters, f.field ∈ sales.columnNames) ∧
    (KeepsRows sales (salesPlan "customer" "clerk").links ∧
      (salesPlan "customer" "clerk").Ready d c ∧ Direct.passing sales c.filters = .ok bigSales ∧
      ∃ full : List StoredRow, full.Perm bigSales ∧ Direct.compile salesSource c =
        (salesPlan "customer" "clerk").answerWith salesSource d c full) ∧
    KeepsRows sales (salesView "customer" "clerk").links ∧
      ((salesView "customer" "clerk").query []).Runnable ∧
      Staged.passing sales c.filters = .ok bigSales ∧
      ∃ full : List StoredRow, full.Perm bigSales ∧ (Staged.compile salesSource c).1 =
        (salesView "customer" "clerk").answerWith salesSource d c
          (salesResolved "customer" "clerk") full := by
  intro c d
  have haliases : SalesAliases "customer" "clerk" := .inl ⟨rfl, rfl⟩
  have hdescribed : c.describedTable = .ok d := rfl
  have hsearch : SearchesNothing c.paging := ⟨.inl rfl, rfl⟩
  have hfilters : ∀ f ∈ c.filters, f.field ∈ sales.columnNames :=
    List.forall_mem_singleton.2 (by decide)
  obtain ⟨hdirect, hstaged, -⟩ :=
    @compile_keeps_rows salesSource d c sales hdescribed hsearch hfilters
  have hplan : KeepsRows sales (salesPlan "customer" "clerk").links := ⟨by decide, by decide⟩
  have hready : (salesPlan "customer" "clerk").Ready d c :=
    ⟨by decide, fun _ hqs => Except.ok.inj hqs ▸ by decide⟩
  have hview : KeepsRows sales (salesView "customer" "clerk").links := ⟨by decide, by decide⟩
  have hruns : ((salesView "customer" "clerk").query []).Runnable := by decide
  have hresolved := hstaged _ linkedTable?_sales (resolveColumns_sales haliases)
  rw [viewOf_sales haliases] at hresolved
  obtain ⟨full, hfull, hanswer, -⟩ := (hresolved hview).2 hruns bigSales rfl
  exact ⟨hdescribed, hsearch, hfilters,
    ⟨hplan, hready, rfl, (hdirect _ rfl (plan_sales haliases) hplan).2 hready bigSales rfl⟩,
    hview, hruns, rfl, full, hfull, hanswer⟩

/-- Aliases that differ in a capital letter alone leave both compilations without an answer,
although the relations keep all rows. -/
theorem compile_sales_of_clash :
    let c := salesRequest "person" "Person"
    let d := salesColumns "person" "Person"
    c.describedTable = .ok d ∧ SearchesNothing c.paging ∧
    (∀ f ∈ c.filters, f.field ∈ sales.columnNames) ∧
    Direct.plan salesSource.database sales d [] = .ok (salesPlan "person" "Person") ∧
    KeepsRows sales (salesPlan "person" "Person").links ∧
    KeepsRows sales (salesView "person" "Person").links ∧
    Direct.passing sales c.filters = .ok bigSales ∧ Staged.passing sales c.filters = .ok bigSales ∧
    Direct.compile salesSource c = .error .unavailable ∧
    (Staged.compile salesSource c).1 = .error .unavailable := by
  have haliases : SalesAliases "person" "Person" := .inr ⟨rfl, rfl⟩
  have hplan := plan_sales haliases
  have hdirect : Direct.compile salesSource (salesRequest "person" "Person") =
      .error .unavailable := by
    rw [Direct.compile_of_plan rfl rfl hplan]
    rfl
  have hstaged : (Staged.compile salesSource (salesRequest "person" "Person")).1 =
      .error .unavailable := by
    have hanswer := @Staged.answer_of_resolved salesSource _ (salesRequest "person" "Person") _ rfl
      linkedTable?_sales _ (resolveColumns_sales haliases)
    rw [Staged.compile_fst, hanswer, viewOf_sales haliases]
    rfl
  intro c d
  have hfilters : ∀ f ∈ c.filters, f.field ∈ sales.columnNames :=
    List.forall_mem_singleton.2 (by decide)
  exact ⟨rfl, ⟨.inl rfl, rfl⟩, hfilters, hplan, ⟨by decide, by decide⟩,
    ⟨by decide, by decide⟩, rfl, rfl, hdirect, hstaged⟩

end AdminGrid

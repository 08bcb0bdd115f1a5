import AdminGrid.Proofs.Secrecy.Answer
import AdminGrid.Proofs.Service.Statements

/-!
# The counts of a page

Three statements are run for a page: one counts the rows that pass the filters, one those that the
search leaves of them, and one reads a segment of the latter.  They join the same tables, and each
of them asks for no less than the one before.  So no more rows are left by the search than pass the
filters, and a page has as many rows as its length, or as many as there are behind its start.
-/

namespace AdminGrid

open Store

namespace Store

theorem length_segment {α : Type} {start length : Int} (hstart : 0 ≤ start) (hlength : 0 ≤ length)
    (xs : List α) :
    ((segment start length xs).length : Int) = min length (max 0 (xs.length - start)) := by
  unfold segment
  dsimp only
  rw [if_neg (by omega), List.length_take, List.length_drop]
  omega

/-- A query that asks for more of the same rows finds no more of them. -/
theorem count_le_count {q r : Query Stored} (hbase : q.base = r.base) (hjoins : q.joins = r.joins)
    (hnames : (q.joins.map (·.tableAlias)).Nodup) (hsub : r.conditions ⊆ q.conditions) :
    q.count ≤ r.count := by
  have hperm := perm_map_seen_joinedRows hbase (hjoins ▸ List.Perm.refl q.joins) hnames
  have hseen : ∀ a b : JoinedRow, a.seen = b.seen → q.holds a = q.holds b := by
    intro a b hab
    simp only [Query.holds, truth_congr hab]
  -- the rows of one query are counted among those that the other one joins
  have hcount : q.count = (r.joinedRows.filter q.holds).length := by
    have hlength := (perm_map_filter hseen hperm).length_eq
    rwa [List.length_map, List.length_map] at hlength
  rw [hcount, Query.count, Query.rows, ← List.countP_eq_length_filter,
    ← List.countP_eq_length_filter]
  refine List.countP_mono_left fun row _ hholds => ?_
  exact List.all_eq_true.2 fun condition hc => List.all_eq_true.1 hholds condition (hsub hc)

/-- The search leaves no more rows than pass the filters. -/
theorem count_le_of_bind {base : Table} {joins : List Join}
    {filters search : List (Condition Value)} {total page : Query Stored}
    (htotal : Query.bind ⟨base, joins, filters⟩ = .ok total)
    (hpage : Query.bind ⟨base, joins, filters ++ search⟩ = .ok page) :
    page.count ≤ total.count := by
  obtain ⟨hruns, hbase, hjoins, hbound⟩ := bind_eq_ok_iff.1 hpage
  obtain ⟨-, hbase', hjoins', hbound'⟩ := bind_eq_ok_iff.1 htotal
  obtain ⟨bound, bound', hfilters, -, hall⟩ := mapM_append_eq_ok.1 hbound
  obtain rfl : bound = total.conditions := Except.ok.inj (hfilters.symm.trans hbound')
  refine count_le_count (hbase.trans hbase'.symm) (hjoins.trans hjoins'.symm) ?_ ?_
  · rw [hjoins]
    exact hruns.aliases
  · rw [hall]
    exact List.subset_append_left _ _

end Store

/-- Two counts and the number of rows of a page that belong together. -/
structure PageCounts (request : PagingRequest) (total filtered : Int) (shown : Nat) : Prop where
  filtered_nonneg : 0 ≤ filtered
  filtered_le : filtered ≤ total
  shown : (shown : Int) = min request.length (max 0 (filtered - request.start))

/-- Whether an answer tells two counts and shows rows that belong together. -/
def CountsAgree (request : PagingRequest) (wire : Entries Value) : Prop :=
  ∃ (total filtered : Int) (rows : List Value),
    wire.get? "recordsTotal" = some (.int total) ∧
    wire.get? "recordsFiltered" = some (.int filtered) ∧
    wire.get? "data" = some (.list rows) ∧ PageCounts request total filtered rows.length

/-- The counts of a query and of the rows in a segment of it. -/
theorem pageCounts_segment {request : PagingRequest} (hstart : 0 ≤ request.start)
    (hlength : 1 ≤ request.length) {total : Nat} {page : Query Stored} (hle : page.count ≤ total)
    (order : Option RowOrder) : PageCounts request total page.count
      (segment request.start request.length (ordered order page.rows)).length := by
  refine ⟨by omega, by omega, ?_⟩
  rw [length_segment hstart (by omega), length_ordered]
  rfl

namespace Direct

theorem length_itemsFrom {s : ItemStyle} {i : Nat} {rows items : List (Entries Value)}
    (h : itemsFrom s i rows = .ok items) : items.length = rows.length := by
  induction rows generalizing i items with
  | nil => rw [← Except.ok.inj h]
  | cons row rest ih =>
      obtain ⟨item, -, h⟩ := bind_eq_ok.1 h
      obtain ⟨others, hothers, h⟩ := bind_eq_ok.1 h
      rw [← pure_eq_ok.1 h, List.length_cons, List.length_cons, ih hothers]

theorem length_rawRows {p : Plan} {rows : List JoinedRow} {raws : List (Entries Value)}
    (h : rawRows p rows = .ok raws) : raws.length = rows.length := by
  unfold rawRows at h
  split at h
  · cases h
  · rw [← Except.ok.inj h, List.length_map]

/-- A page is only found where all names of its statement can be named. -/
theorem nameable_of_find {p : Plan} {d : TableDescriptor} {c : Request.Context} {found : Found}
    (h : p.find d c = .ok found) : ∀ qs, p.filterConditions c.filters = .ok qs →
      ∀ name ∈ (p.statement (qs ++ p.searchConditions d c.paging)).names ++
        p.pageNames (p.order d c.paging), nameable name = true := by
  intro qs hqs
  unfold Plan.find at h
  obtain ⟨filters, hfilters, h⟩ := bind_eq_ok.1 h
  obtain rfl : filters = qs := Except.ok.inj (hfilters.symm.trans hqs)
  dsimp only at h
  obtain ⟨_, -, h⟩ := bind_eq_ok.1 h
  split at h
  · obtain ⟨_, -, h⟩ := bind_eq_ok.1 h
    obtain ⟨page, hpage, -⟩ := bind_eq_ok.1 h
    exact (prepare_eq_ok_iff.1 hpage).1
  · obtain ⟨_, -, h⟩ := bind_eq_ok.1 h
    obtain ⟨_, -, h⟩ := bind_eq_ok.1 h
    obtain ⟨page, hpage, -⟩ := bind_eq_ok.1 h
    exact (prepare_eq_ok_iff.1 hpage).1

/-- What is found are the counts of two queries, and a segment of the second one. -/
theorem exists_queries_of_find {p : Plan} {d : TableDescriptor} {c : Request.Context}
    {found : Found} (h : p.find d c = .ok found) :
    ∃ total page : Query Stored, p.totalQuery c = .ok total ∧ p.pageQuery d c = .ok page ∧
      found = ⟨total.count, page.count, segment c.paging.start c.paging.length
        (ordered (p.order d c.paging) page.rows)⟩ := by
  rw [find_eq (nameable_of_find h)] at h
  obtain ⟨total, htotal, h⟩ := bind_eq_ok.1 h
  obtain ⟨page, hpage, h⟩ := bind_eq_ok.1 h
  obtain ⟨_, -, h⟩ := bind_eq_ok.1 h
  exact ⟨total, page, htotal, hpage, (pure_eq_ok.1 h).symm⟩

theorem pageCounts_of_find {p : Plan} {d : TableDescriptor} {c : Request.Context}
    (hstart : 0 ≤ c.paging.start) (hlength : 1 ≤ c.paging.length) {found : Found}
    (h : p.find d c = .ok found) :
    PageCounts c.paging found.total found.filtered found.rows.length := by
  obtain ⟨total, page, htotal, hpage, rfl⟩ := exists_queries_of_find h
  obtain ⟨qs, hqs, htotal⟩ := bind_eq_ok.1 htotal
  obtain ⟨qs', hqs', hpage⟩ := bind_eq_ok.1 hpage
  obtain rfl : qs = qs' := Except.ok.inj (hqs.symm.trans hqs')
  exact pageCounts_segment hstart hlength
    (count_le_of_bind (prepare_eq_ok_iff.1 htotal).2 (prepare_eq_ok_iff.1 hpage).2) _

/-- The counts of a single pass. -/
theorem countsAgree_of_compile {source : Source} {c : Request.Context}
    (hstart : 0 ≤ c.paging.start) (hlength : 1 ≤ c.paging.length) {payload : Entries Value}
    (h : compile source c = .ok payload) : CountsAgree c.paging payload := by
  obtain ⟨d, hd, -⟩ := bind_eq_ok.1 h
  rw [compile_of_described hd] at h
  cases htable : source.database.table? d.name with
  | none =>
      rw [htable] at h
      cases h
  | some base =>
      rw [htable] at h
      obtain ⟨p, -, h⟩ := bind_eq_ok.1 h
      obtain ⟨found, hfound, h⟩ := bind_eq_ok.1 h
      obtain ⟨style, -, h⟩ := bind_eq_ok.1 h
      obtain ⟨raws, hraws, h⟩ := bind_eq_ok.1 h
      obtain ⟨items, hitems, h⟩ := bind_eq_ok.1 h
      refine ⟨found.total, found.filtered, items.map .map, ?_⟩
      rw [← pure_eq_ok.1 h]
      refine ⟨rfl, rfl, rfl, ?_⟩
      rw [List.length_map, length_itemsFrom hitems, length_rawRows hraws]
      exact pageCounts_of_find hstart hlength hfound

end Direct

namespace Staged

/-- Prepared queries are those of conditions that were written before they are bound. -/
theorem count_le_of_prepare {v : View} {filters search : List (Condition Parameter)}
    {total page : Query Stored} (htotal : prepare (v.query filters) = .ok total)
    (hpage : prepare (v.query (filters ++ search)) = .ok page) : page.count ≤ total.count := by
  obtain ⟨written, hwritten, htotal⟩ := bind_eq_ok.1 htotal
  obtain ⟨all, hall, hpage⟩ := bind_eq_ok.1 hpage
  obtain ⟨written', others, hwritten', -, rfl⟩ := mapM_append_eq_ok.1 hall
  obtain rfl : written = written' := Except.ok.inj (hwritten.symm.trans hwritten')
  exact count_le_of_bind htotal hpage

theorem pageCounts_of_fetch {v : View} {f : Fetch} (hstart : 0 ≤ f.request.start)
    (hlength : 1 ≤ f.request.length) {fetched : Fetched} (h : v.fetch f = .ok fetched) :
    PageCounts f.request fetched.total fetched.filtered fetched.rows.length := by
  rw [fetch_eq] at h
  obtain ⟨total, htotal, h⟩ := bind_eq_ok.1 h
  obtain ⟨page, hpage, h⟩ := bind_eq_ok.1 h
  obtain ⟨_, -, h⟩ := bind_eq_ok.1 h
  obtain ⟨rows, hrows, h⟩ := bind_eq_ok.1 h
  obtain ⟨filters, hfilters, htotal⟩ := bind_eq_ok.1 htotal
  obtain ⟨filters', hfilters', hpage⟩ := bind_eq_ok.1 hpage
  obtain rfl : filters = filters' := Except.ok.inj (hfilters.symm.trans hfilters')
  rw [← pure_eq_ok.1 h, ← (mapM_eq_ok.1 hrows).length_eq]
  exact pageCounts_segment hstart hlength (count_le_of_prepare htotal hpage) _

theorem length_assembleRows {page : Answer.Page} {i : Nat} {views rows : List RowView}
    (h : Answer.assembleRows page i views = .ok rows) : rows.length = views.length := by
  induction views generalizing i rows with
  | nil => rw [← Except.ok.inj h]
  | cons view rest ih =>
      obtain ⟨row, -, h⟩ := bind_eq_ok.1 h
      obtain ⟨others, hothers, h⟩ := bind_eq_ok.1 h
      rw [← pure_eq_ok.1 h, List.length_cons, List.length_cons, ih hothers]

/-- The counts of a staged compilation. -/
theorem countsAgree_of_answer {source : Source} {c : Request.Context}
    (hstart : 0 ≤ c.paging.start) (hlength : 1 ≤ c.paging.length) {response : PagingResponse}
    (h : answer source c = .ok response) (withExtras : Bool) :
    CountsAgree c.paging (response.toWire withExtras) := by
  obtain ⟨d, -, h⟩ := bind_eq_ok.1 h
  obtain ⟨found, -, h⟩ := bind_eq_ok.1 h
  obtain ⟨fetched, hfetched, h⟩ := bind_eq_ok.1 h
  obtain ⟨views, hviews, h⟩ := bind_eq_ok.1 h
  obtain ⟨action, -, h⟩ := bind_eq_ok.1 h
  obtain ⟨rows, hrows, h⟩ := bind_eq_ok.1 h
  refine ⟨fetched.total, fetched.filtered, rows.map fun row => .map row.serialize, ?_⟩
  rw [← pure_eq_ok.1 h]
  refine ⟨rfl, rfl, rfl, ?_⟩
  have hlengths : rows.length = fetched.rows.length :=
    (length_assembleRows hrows).trans (mapM_eq_ok.1 hviews).length_eq.symm
  rw [List.length_map, hlengths]
  exact pageCounts_of_fetch (f := fetchOf d c found.2) hstart hlength hfetched

end Staged

/-- Whatever the filters, the joins and the searches: both compilations tell no more rows after the
search than before it, and show of these as many as the page holds behind its start. -/
theorem counts_agree {source : Source} {c : Request.Context} (hstart : 0 ≤ c.paging.start)
    (hlength : 1 ≤ c.paging.length) :
    (∀ payload, Direct.compile source c = .ok payload → CountsAgree c.paging payload) ∧
    (∀ response, (Staged.compile source c).1 = .ok response →
      ∀ withExtras, CountsAgree c.paging (response.toWire withExtras)) := by
  refine ⟨fun payload h => Direct.countsAgree_of_compile hstart hlength h, fun response h => ?_⟩
  rw [Staged.compile_fst] at h
  exact Staged.countsAgree_of_answer hstart hlength h

/-- A member of staff is found by a pin: one row of one, in both compilations. -/
theorem counts_agree_pinSearched :
    (0 : Int) ≤ (staffSearched "pin" "9").paging.start ∧
    (1 : Int) ≤ (staffSearched "pin" "9").paging.length ∧
    Direct.compile (staffWith (.text "9")) (staffSearched "pin" "9") = .ok (staffAnswer true) ∧
    CountsAgree (staffSearched "pin" "9").paging (staffAnswer true) ∧
    ∃ response, (Staged.compile (staffWith (.text "9")) (staffSearched "pin" "9")).1 =
      .ok response ∧
        ∀ withExtras, CountsAgree (staffSearched "pin" "9").paging (response.toWire withExtras) := by
  have hstart : (0 : Int) ≤ (staffSearched "pin" "9").paging.start := by decide
  have hlength : (1 : Int) ≤ (staffSearched "pin" "9").paging.length := by decide
  have hfield : "pin" = "name" ∨ "pin" = "pin" := Or.inr rfl
  obtain ⟨hdirect, hstaged⟩ := @counts_agree (staffWith (.text "9")) _ hstart hlength
  have hanswer := compile_staffSearched (.text "9") hfield "9"
  rw [holds_staffQuery_nine] at hanswer
  obtain ⟨response, hresponse, -⟩ := map_eq_ok.1 (answer_staffSearched (.text "9") hfield "9")
  exact ⟨hstart, hlength, hanswer, hdirect _ hanswer, response, hresponse, hstaged _ hresponse⟩

end AdminGrid

import AdminGrid.Proofs.Parity.Page

/-!
# Filters that ask for null

A filter that asks whether a cell equals null is a comparison with null in a single pass, which is
true of no row.  A staged compilation asks whether the cell is there.  So a single pass finds an
empty page, and both find the same one exactly if a staged compilation finds no row that passes the
filters.
-/

namespace AdminGrid

open Store

/-- A page without rows on one side, and on the other side too if no row passes its filters. -/
structure EmptyPage (found : Direct.Found) (fetched : Staged.Fetched) : Prop where
  found : found = ⟨0, 0, []⟩
  fetched : fetched.total = 0 → fetched = ⟨0, 0, []⟩

variable {source : Source} {d : TableDescriptor} {c : Request.Context} {base : Table}
  {p : Direct.Plan} {r : Layout.ResolvedColumns} {v : Staged.View}

/-- A filter that asks for null compares a column with null in a single pass. -/
theorem exists_compare_null {filters : List FilterSpec} {f : FilterSpec} (hf : f ∈ filters)
    (hcolumn : p.columns.has f.field = true) (hnull : f.asksNull = true) :
    ∀ qs, p.filterConditions filters = .ok qs → ∃ op column, .compare op column .null ∈ qs := by
  intro qs hqs
  obtain ⟨column, hget⟩ := Option.isSome_iff_exists.1 hcolumn
  obtain ⟨hop, hvalue⟩ := (Bool.and_eq_true _ _).mp hnull
  have hclause : ∃ op, p.conditionsOf f = .ok [.compare op column .null] := by
    rw [Direct.Plan.conditionsOf, hget]
    cases hv : f.value with
    | null =>
        cases ho : f.operator with
        | equals => exact ⟨.equal, rfl⟩
        | notEqual => exact ⟨.unequal, rfl⟩
        | _ => simp [ho, FilterOperator.isEquality] at hop
    | _ => simp [hv, Staged.isNullValue] at hvalue
  obtain ⟨op, hop⟩ := hclause
  obtain ⟨parts, hparts, hqs⟩ := bind_eq_ok.1 hqs
  obtain ⟨own, hown, hmade⟩ := exists_of_mem_mapM hparts hf
  obtain rfl : [.compare op column .null] = own := Except.ok.inj (hop.symm.trans hmade)
  rw [← pure_eq_ok.1 hqs]
  exact ⟨op, column, List.mem_flatten.2 ⟨_, hown, List.mem_singleton_self _⟩⟩

/-- A query with such a comparison finds no rows. -/
theorem rows_eq_nil_of_compare_null {conditions : List (Condition Value)} {op : Comparison}
    {column : ColumnRef} (h : .compare op column .null ∈ conditions) {q : Query Stored}
    (hbound : conditions.mapM (Condition.traverse Store.bind) = .ok q.conditions) :
    q.rows = [] := by
  obtain ⟨bound, hmem, hbind⟩ := exists_of_mem_mapM hbound h
  obtain rfl : .compare op column .null = bound := Except.ok.inj hbind
  exact rows_eq_nil_of_null hmem

/-- Neither the query of the filters nor that of the page finds rows where a filter asks for
null. -/
theorem rows_eq_nil_of_asksNull
    (hnull : ∀ qs, p.filterConditions c.filters = .ok qs →
      ∃ op column, .compare op column .null ∈ qs) :
    (∀ q, p.totalQuery c = .ok q → q.rows = []) ∧ ∀ q, p.pageQuery d c = .ok q → q.rows = [] := by
  refine ⟨fun q hq => ?_, fun q hq => ?_⟩
  · obtain ⟨qs, hqs, hq⟩ := bind_eq_ok.1 hq
    obtain ⟨-, -, -, hbound⟩ := bind_eq_ok_iff.1 (prepare_eq_ok_iff.1 hq).2
    obtain ⟨op, column, hmem⟩ := hnull qs hqs
    exact rows_eq_nil_of_compare_null hmem hbound
  · obtain ⟨-, -, qs, hqs, hbound⟩ := exists_conditions_of_pageQuery hq
    obtain ⟨op, column, hmem⟩ := hnull qs hqs
    exact rows_eq_nil_of_compare_null (List.mem_append_left _ hmem) hbound

/-- A search leaves no row of a page where no row passes the filters. -/
theorem rows_eq_nil_of_total {f : Staged.Fetch} {total q : Query Stored}
    (htotal : v.totalQuery f = .ok total) (hq : v.pageQuery f = .ok q) (hnone : total.rows = []) :
    q.rows = [] := by
  obtain ⟨ps, hps, htotal⟩ := bind_eq_ok.1 htotal
  obtain ⟨ps', hps', hq⟩ := bind_eq_ok.1 hq
  obtain rfl : ps = ps' := Except.ok.inj (hps.symm.trans hps')
  obtain ⟨ws, hws, htotal⟩ := bind_eq_ok.1 htotal
  obtain ⟨vs, hvs, hq⟩ := bind_eq_ok.1 hq
  obtain ⟨ws', searched, hws', -, rfl⟩ := mapM_append_eq_ok.1 hvs
  obtain rfl : ws = ws' := Except.ok.inj (hws.symm.trans hws')
  obtain ⟨-, hbase, hjoins, hconditions⟩ := bind_eq_ok_iff.1 htotal
  obtain ⟨hruns, hbase', hjoins', hconditions'⟩ := bind_eq_ok_iff.1 hq
  -- the conditions of the page begin with those of the filters
  obtain ⟨bs, bs', hbs, -, heq⟩ := mapM_append_eq_ok.1 hconditions'
  obtain rfl : total.conditions = bs := Except.ok.inj (hconditions.symm.trans hbs)
  refine rows_eq_nil_of_subset (hbase'.trans hbase.symm) (hjoins'.trans hjoins.symm) ?_ ?_ hnone
  · rw [hjoins']
    exact hruns.aliases
  · rw [heq]
    exact List.subset_append_left _ _

/-- The total of a page is the number of rows that pass the filters. -/
theorem total_of_fetch {f : Staged.Fetch} {fetched : Staged.Fetched}
    (h : v.fetch f = .ok fetched) :
    ∃ total, v.totalQuery f = .ok total ∧ fetched.total = total.rows.length := by
  rw [fetch_eq] at h
  obtain ⟨total, htotal, h⟩ := bind_eq_ok.1 h
  obtain ⟨page, -, h⟩ := bind_eq_ok.1 h
  obtain ⟨-, -, h⟩ := bind_eq_ok.1 h
  obtain ⟨rows, -, h⟩ := bind_eq_ok.1 h
  obtain rfl := pure_eq_ok.1 h
  exact ⟨total, htotal, rfl⟩

theorem segment_ordered_nil (start length : Int) (order : Option RowOrder) :
    Store.segment start length (ordered order []) = [] := by
  refine List.eq_nil_iff_forall_not_mem.2 fun row hrow => ?_
  exact absurd (mem_of_mem_ordered (mem_of_mem_segment hrow)) (List.not_mem_nil)

/-- A filter that asks for null leaves an empty page on one side; both sides still fail alike. -/
theorem alike_find_of_null (h : Comparable source d c)
    (hbase : source.database.table? d.name = some base) (hresolves : Resolves source d base p r)
    (hbinds : FiltersBind (fun _ _ => True) p (Staged.viewOf source d base r) c.filters)
    (hnull : ∀ qs, p.filterConditions c.filters = .ok qs →
      ∃ op column, .compare op column .null ∈ qs) :
    Alike EmptyPage (p.find d c)
      ((Staged.viewOf source d base r).fetch (Staged.fetchOf d c r)) := by
  obtain ⟨hmem, -⟩ := Database.mem_of_table? hbase
  obtain ⟨hnone, hnonePage⟩ := rows_eq_nil_of_asksNull (d := d) hnull
  rw [find_eq fun _ hqs => nameable_page h hmem hresolves hqs, fetch_eq]
  refine (alike_totalQuery h hmem hresolves hbinds).bind fun total total' ht ht' _ => ?_
  refine (alike_pageQuery h hmem hresolves (fun _ => trivial) hbinds).bind
    fun q q' hq hq' _ => ?_
  refine (Alike.refl (bindSegment c.paging.start c.paging.length)).bind fun _ _ _ _ _ => ?_
  rw [mapM_readRow h hbase]
  refine ⟨?_, fun hzero => ?_⟩
  · rw [Query.count, Query.count, hnone total ht, hnonePage q hq, segment_ordered_nil]
    rfl
  · have hcount : total'.count = 0 := hzero
    have hpage' := rows_eq_nil_of_total ht' hq' (List.length_eq_zero_iff.1 hcount)
    rw [hcount, Query.count, hpage', segment_ordered_nil]
    rfl

end AdminGrid

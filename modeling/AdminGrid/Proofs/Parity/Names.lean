import AdminGrid.Proofs.Parity.Columns

/-!
# Names in statements

The statements of a single pass name tables, columns, aliases and display fields, all of which come
from the database and the relations.  If each of these can be named, every statement can be run.
-/

namespace AdminGrid

open Store Direct

/-- Whether everything that a statement may name can be named. -/
structure Named (db : Database) (relations : List RelationSpec) : Prop where
  tables : ∀ t ∈ db.tables, nameable t.name = true
  columns : ∀ t ∈ db.tables, ∀ name ∈ t.columnNames, nameable name = true
  aliases : ∀ r ∈ relations, nameable (joinAlias r.aliasField) = true
  displays : ∀ r ∈ relations, nameable r.displayField = true

/-- Whether a column can be named beside a base table. -/
def RefNamed (base : String) (c : ColumnRef) : Prop :=
  ∀ name ∈ namesOf base c, nameable name = true

variable {source : Source} {d : TableDescriptor} {base : Table} {p : Plan}
  {r : Layout.ResolvedColumns}

section Columns

theorem refNamed_base (h : Named source.database (relationsOf d source.catalog).values)
    (hmem : base ∈ source.database.tables) {c : ColumnDef} (hc : c ∈ base.columns) :
    RefNamed base.name ⟨none, c.name, c.affinity⟩ := by
  intro name hname
  rcases List.mem_cons.1 hname with rfl | hname
  · exact h.tables base hmem
  · obtain rfl := List.mem_singleton.1 hname
    exact h.columns base hmem c.name (List.mem_map_of_mem hc)

theorem refNamed_displayColumn (h : Named source.database (relationsOf d source.catalog).values)
    (hresolves : Resolves source d base p r) {j : ShownJoin} (hj : j ∈ p.joins) :
    RefNamed base.name j.displayColumn := by
  obtain ⟨spec, hspec, hmade⟩ := hresolves.made j hj
  obtain ⟨c, hc, hcolumn⟩ := hmade.displayColumn
  intro name hname
  rw [hcolumn] at hname
  rcases List.mem_cons.1 hname with rfl | hname
  · exact h.aliases spec hspec
  · obtain rfl := List.mem_singleton.1 hname
    exact h.columns j.join.table hmade.table c.name (List.mem_map_of_mem hc)

/-- Every column that a field stands for can be named. -/
theorem refNamed_of_get? (h : Named source.database (relationsOf d source.catalog).values)
    (hmem : base ∈ source.database.tables) (hresolves : Resolves source d base p r)
    {field : String} {c : ColumnRef} (hget : p.columns.get? field = some c) :
    RefNamed base.name c := by
  rw [hresolves.mirrors.columns, Entries.get?_merge] at hget
  rcases Option.or_eq_some_iff.1 hget with hget | ⟨-, hget⟩
  · have hpair := List.mem_reverse.1 (Entries.mem_of_get?_eq_some hget)
    obtain ⟨j, hj, heq⟩ := List.mem_map.1 hpair
    obtain rfl : j.displayColumn = c := congrArg Prod.snd heq
    exact refNamed_displayColumn h hresolves hj
  · obtain ⟨column, hcolumn, heq⟩ := List.mem_map.1 (Entries.mem_of_get?_eq_some hget)
    obtain rfl : (⟨none, column.name, column.affinity⟩ : ColumnRef) = c := congrArg Prod.snd heq
    rw [hresolves.table] at hcolumn
    exact refNamed_base h hmem hcolumn

end Columns

section Conditions

theorem mem_columnsOf_rangeClauses {c : ColumnRef} {v : Value} {q : Condition Value}
    (hq : q ∈ rangeClauses c v) : ∀ x ∈ columnsOf q, x = c := by
  unfold rangeClauses at hq
  generalize boundsOf v = bounds at hq
  obtain ⟨low, high⟩ := bounds
  rcases List.mem_append.1 hq with hq | hq
  · cases low with
    | null => cases hq
    | _ =>
        obtain rfl := List.mem_singleton.1 hq
        exact fun x hx => List.mem_singleton.1 hx
  · cases high with
    | null => cases hq
    | _ =>
        obtain rfl := List.mem_singleton.1 hq
        exact fun x hx => List.mem_singleton.1 hx

theorem mem_columnsOf_amongClause (c : ColumnRef) (v : Value) :
    ∀ x ∈ columnsOf (amongClause c v), x = c := by
  unfold amongClause
  split <;> simp [columnsOf]

/-- The condition of a filter that looks for a text refers to its column alone. -/
theorem mem_columnsOf_of_written {α : Type} {c : ColumnRef} (pattern : String → String)
    {v : Value} {qs : List (Condition α)}
    (h : (do return [Condition.like c (pattern (← v.written))]) = Except.ok qs) :
    ∀ q ∈ qs, ∀ x ∈ columnsOf q, x = c := by
  obtain ⟨s, -, h⟩ := bind_eq_ok.1 h
  rw [← pure_eq_ok.1 h]
  exact List.forall_mem_singleton.2 fun x hx => List.mem_singleton.1 hx

/-- The conditions of a filter refer to its column alone. -/
theorem mem_columnsOf_filterClauses {c : ColumnRef} {op : FilterOperator} {v : Value}
    {qs : List (Condition Value)} (h : filterClauses c op v = .ok qs) :
    ∀ q ∈ qs, ∀ x ∈ columnsOf q, x = c := by
  cases op with
  | contains => exact mem_columnsOf_of_written (fun s => "%" ++ s ++ "%") h
  | startsWith => exact mem_columnsOf_of_written (fun s => s ++ "%") h
  | endsWith => exact mem_columnsOf_of_written (fun s => "%" ++ s) h
  | among =>
      rw [← Except.ok.inj h]
      exact List.forall_mem_singleton.2 (mem_columnsOf_amongClause c v)
  | inRange =>
      rw [← Except.ok.inj h]
      exact fun q hq => mem_columnsOf_rangeClauses hq
  | _ =>
      rw [← Except.ok.inj h]
      exact List.forall_mem_singleton.2 fun x hx => List.mem_singleton.1 hx

theorem mem_columnsOf_foldl {α : Type} {q : Condition α} {qs : List (Condition α)} {x : ColumnRef}
    (hx : x ∈ columnsOf (qs.foldl .either q)) : x ∈ columnsOf q ∨ x ∈ qs.flatMap columnsOf := by
  induction qs generalizing q with
  | nil => exact Or.inl hx
  | cons q' rest ih =>
      rw [List.flatMap_cons, List.mem_append]
      rcases ih hx with hx | hx
      · exact (List.mem_append.1 hx).imp_right Or.inl
      · exact Or.inr (Or.inr hx)

theorem mem_columnsOf_any? {α : Type} {qs : List (Condition α)} {x : ColumnRef}
    (hx : x ∈ (Condition.any? qs).toList.flatMap columnsOf) : x ∈ qs.flatMap columnsOf := by
  cases qs with
  | nil => exact hx
  | cons q rest =>
      rw [List.flatMap_cons, List.mem_append]
      rw [Condition.any?, Option.toList_some, List.flatMap_singleton] at hx
      exact mem_columnsOf_foldl hx

theorem exists_filter_of_mem {filters : List FilterSpec} {qs : List (Condition Value)}
    (h : p.filterConditions filters = .ok qs) {q : Condition Value} (hq : q ∈ qs) :
    ∃ f ∈ filters, ∃ own, p.conditionsOf f = .ok own ∧ q ∈ own := by
  obtain ⟨parts, hparts, h⟩ := bind_eq_ok.1 h
  rw [← pure_eq_ok.1 h] at hq
  obtain ⟨own, hown, hq⟩ := List.mem_flatten.1 hq
  obtain ⟨f, hf, hmade⟩ := exists_of_mem_of_mapM hparts hown
  exact ⟨f, hf, own, hmade, hq⟩

/-- The conditions of the filters refer to the columns of the filtered fields. -/
theorem exists_filter_of_mem_columnsOf {filters : List FilterSpec} {qs : List (Condition Value)}
    (h : p.filterConditions filters = .ok qs) {x : ColumnRef} (hx : x ∈ qs.flatMap columnsOf) :
    ∃ f ∈ filters, p.columns.get? f.field = some x := by
  obtain ⟨q, hq, hxq⟩ := List.mem_flatMap.1 hx
  obtain ⟨f, hf, own, hown, hq⟩ := exists_filter_of_mem h hq
  unfold Plan.conditionsOf at hown
  cases hget : p.columns.get? f.field with
  | none =>
      rw [hget] at hown
      rw [← Except.ok.inj hown] at hq
      cases hq
  | some c =>
      rw [hget] at hown
      exact ⟨f, hf, mem_columnsOf_filterClauses hown q hq x hxq ▸ hget⟩

/-- The conditions of the search for a term refer to the columns of shown fields that are not
hidden. -/
theorem exists_shown_of_mem_columnsOf {term : Option String} {x : ColumnRef}
    (hx : x ∈ (p.termConditions d term).flatMap columnsOf) :
    ∃ field ∈ p.fields, field ∉ excluded d p.shown (·.searchable) ∧
      p.columns.get? field = some x := by
  unfold Plan.termConditions at hx
  cases term with
  | none => simp at hx
  | some term =>
      dsimp only at hx
      split at hx
      · simp at hx
      · obtain ⟨q, hq, hxq⟩ := List.mem_flatMap.1 (mem_columnsOf_any? hx)
        obtain ⟨c, hc, rfl⟩ := List.mem_map.1 hq
        obtain ⟨field, hfield, hget⟩ := List.mem_filterMap.1 hc
        obtain ⟨hmem, hhidden⟩ := List.mem_filter.1 hfield
        exact ⟨field, hmem, by simpa using hhidden, List.mem_singleton.1 hxq ▸ hget⟩

/-- The conditions of the searches in single columns refer to the columns of their fields. -/
theorem exists_search_of_mem_columnsOf {searches : Entries String} {x : ColumnRef}
    (hx : x ∈ (p.columnConditions searches).flatMap columnsOf) :
    ∃ field ∈ searches.keys, p.columns.get? field = some x := by
  obtain ⟨q, hq, hxq⟩ := List.mem_flatMap.1 hx
  obtain ⟨⟨field, term⟩, hmem, hget⟩ := List.mem_filterMap.1 hq
  obtain ⟨c, hc, rfl⟩ := Option.map_eq_some_iff.1 hget
  exact ⟨field, List.mem_map_of_mem hmem, List.mem_singleton.1 hxq ▸ hc⟩

/-- The conditions of the filters and of the search refer to columns that fields stand for. -/
theorem exists_field_of_mem_columnsOf {filters : List FilterSpec} {qs : List (Condition Value)}
    (h : p.filterConditions filters = .ok qs) {request : PagingRequest} {x : ColumnRef}
    (hx : x ∈ (qs ++ (p.termConditions d request.searchTerm ++
      p.columnConditions request.columnSearches)).flatMap columnsOf) :
    ∃ field, p.columns.get? field = some x := by
  rw [List.flatMap_append, List.flatMap_append, List.mem_append, List.mem_append] at hx
  rcases hx with hx | hx | hx
  · obtain ⟨f, -, hget⟩ := exists_filter_of_mem_columnsOf h hx
    exact ⟨f.field, hget⟩
  · obtain ⟨field, -, -, hget⟩ := exists_shown_of_mem_columnsOf hx
    exact ⟨field, hget⟩
  · obtain ⟨field, -, hget⟩ := exists_search_of_mem_columnsOf hx
    exact ⟨field, hget⟩

end Conditions

section Statements

/-- What a join adds to a statement can be named. -/
theorem nameable_of_join (h : Named source.database (relationsOf d source.catalog).values)
    (hmem : base ∈ source.database.tables) (hresolves : Resolves source d base p r)
    {j : ShownJoin} (hj : j ∈ p.joins) :
    ∀ name ∈ [j.join.table.name, j.join.tableAlias, j.join.relatedColumn, j.join.baseColumn],
      nameable name = true := by
  obtain ⟨spec, hspec, hmade⟩ := hresolves.made j hj
  simp only [List.forall_mem_cons, List.not_mem_nil, false_implies, implies_true, and_true]
  refine ⟨h.tables j.join.table hmade.table, ?_, ?_, h.columns base hmem _ hmade.baseColumn⟩
  · rw [hmade.tableAlias]
    exact h.aliases spec hspec
  · exact h.columns j.join.table hmade.table _ hmade.relatedColumn

theorem nameable_statement (h : Named source.database (relationsOf d source.catalog).values)
    (hmem : base ∈ source.database.tables) (hresolves : Resolves source d base p r)
    {conditions : List (Condition Value)}
    (hconditions : ∀ x ∈ conditions.flatMap columnsOf, ∃ field, p.columns.get? field = some x) :
    ∀ name ∈ (p.statement conditions).names, nameable name = true := by
  intro name hname
  rcases List.mem_append.1 hname with hname | hname
  · rcases List.mem_cons.1 hname with rfl | hname
    · rw [hresolves.table]
      exact h.tables base hmem
    · obtain ⟨j, hj, hname⟩ := List.mem_flatMap.1 hname
      exact nameable_of_join h hmem hresolves hj name hname
  · obtain ⟨x, hx, hname⟩ := List.mem_flatMap.1 hname
    obtain ⟨field, hget⟩ := hconditions x hx
    rw [hresolves.table] at hname
    exact refNamed_of_get? h hmem hresolves hget name hname

theorem take_columns_by (base : Table) (c : ColumnRef) (descending : Bool) :
    (RowOrder.by base c descending).columns.take 1 = [c] := by
  unfold RowOrder.by
  split <;> rfl

theorem requestedOrder?_eq_some {request : PagingRequest} {o : RowOrder}
    (ho : p.requestedOrder? d request = some o) : ∃ i field c,
      request.orderColumnIndex = some i ∧ p.fields[i.toNat]? = some field ∧
        field ∉ excluded d p.shown (·.sortable) ∧ p.columns.get? field = some c ∧
          o = .by p.base c (request.orderDirection == .descending) := by
  unfold Plan.requestedOrder? at ho
  obtain ⟨i, hi, ho⟩ := Option.bind_eq_some_iff.1 ho
  split at ho
  · cases ho
  · obtain ⟨field, hfield, ho⟩ := Option.bind_eq_some_iff.1 ho
    split at ho
    · cases ho
    · rename_i hfixed
      obtain ⟨c, hc, ho⟩ := Option.bind_eq_some_iff.1 ho
      exact ⟨i, field, c, hi, hfield, by simpa using hfixed, hc, (Option.some.inj ho).symm⟩

/-- The first column of the order can be named. -/
theorem nameable_order (h : Named source.database (relationsOf d source.catalog).values)
    (hmem : base ∈ source.database.tables) (hresolves : Resolves source d base p r)
    {request : PagingRequest} {o : RowOrder} (ho : p.order d request = some o) :
    ∀ name ∈ (o.columns.take 1).flatMap (namesOf base.name), nameable name = true := by
  have hby : ∀ c descending, RefNamed base.name c → o = .by p.base c descending →
      ∀ name ∈ (o.columns.take 1).flatMap (namesOf base.name), nameable name = true := by
    rintro c descending hc rfl name hname
    rw [take_columns_by, List.flatMap_singleton] at hname
    exact hc name hname
  unfold Plan.order at ho
  simp only [Option.or_eq_some_iff, Option.bind_eq_bind, Option.bind_eq_some_iff] at ho
  rcases ho with (ho | ⟨-, declared, -, c, hc, ho⟩) | ⟨-, field, -, column, hcolumn, ho⟩
  · obtain ⟨_, _, c, -, -, -, hc, ho⟩ := requestedOrder?_eq_some ho
    exact hby c _ (refNamed_of_get? h hmem hresolves hc) ho
  · exact hby c _ (refNamed_of_get? h hmem hresolves hc) (Option.some.inj ho).symm
  · refine hby _ _ (refNamed_base h hmem ?_) (Option.some.inj ho).symm
    rw [← hresolves.table]
    exact mem_columns_of_column? hcolumn

theorem nameable_pageNames (h : Named source.database (relationsOf d source.catalog).values)
    (hmem : base ∈ source.database.tables) (hresolves : Resolves source d base p r)
    (request : PagingRequest) :
    ∀ name ∈ p.pageNames (p.order d request), nameable name = true := by
  intro name hname
  unfold Plan.pageNames at hname
  rw [hresolves.table] at hname
  rcases List.mem_append.1 hname with hname | hname
  · obtain ⟨j, hj, hname⟩ := List.mem_flatMap.1 hname
    rcases List.mem_cons.1 hname with rfl | hname
    · obtain ⟨spec, hspec, hmade⟩ := hresolves.made j hj
      rw [hmade.displayField]
      exact h.displays spec hspec
    · exact refNamed_displayColumn h hresolves hj name hname
  · cases ho : p.order d request with
    | none => simp [ho] at hname
    | some o =>
        rw [ho] at hname
        exact nameable_order h hmem hresolves ho name hname

end Statements

end AdminGrid

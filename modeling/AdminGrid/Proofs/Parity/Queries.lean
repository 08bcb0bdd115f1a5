import AdminGrid.Proofs.Parity.Clauses
import AdminGrid.Proofs.Parity.Columns

/-!
# Queries on both sides

A plan and a view of one table, whose fields stand for the same columns, are asked by the same
filters, the same search and the same order.
-/

namespace AdminGrid

open Store

variable {p : Direct.Plan} {v : Staged.View}

section Filters

variable {filters : List FilterSpec}

/-- A staged compilation fails where a filter on a column asks for an order of null or of a truth
value. -/
theorem filterConditions_of_unordered {f : FilterSpec} (hf : f ∈ filters)
    (hcolumn : (v.column? f.field).isSome = true) (hordered : f.ordersUnordered = true) :
    ∃ e, v.filterConditions filters = .error e := by
  induction filters with
  | nil => cases hf
  | cons g rest ih =>
      rw [Staged.View.filterConditions]
      rcases List.mem_cons.1 hf with rfl | hrest
      · obtain ⟨c, hc⟩ := Option.isSome_iff_exists.1 hcolumn
        obtain ⟨hop, hv⟩ := (Bool.and_eq_true _ _).mp hordered
        rw [hc]
        simp only [Staged.filterClauses_of_unordered hop hv]
        exact ⟨_, rfl⟩
      · obtain ⟨e, he⟩ := ih hrest
        rw [he]
        cases v.column? g.field with
        | none => exact ⟨e, rfl⟩
        | some c =>
            -- the conditions of the first filter may fail before those of the rest do
            cases hown : Staged.filterClauses c g.operator g.value with
            | error e' => exact ⟨e', by simp only [hown]; rfl⟩
            | ok own => exact ⟨e, by simp only [hown]; rfl⟩

/-- The conditions of one filter on both sides.  Only a filter that asks for null makes different
ones, which are bound alike nevertheless. -/
theorem filterClauses_binds_of_null {R : Condition Stored → Condition Stored → Prop}
    (hrefl : ∀ s, R s s) {c : Staged.TypedColumn} (hc : c.type.meaning.isBasic = true)
    {f : FilterSpec} (hv : f.value.isScalar = true) (hordered : f.ordersUnordered = false)
    (hnull : f.asksNull = true → ∀ s t, R s t) :
    Alike (List.Forall₂ (Binds R)) (Direct.filterClauses c.ref f.operator f.value)
      (Staged.filterClauses c f.operator f.value) := by
  by_cases hasks : f.asksNull = true
  · obtain ⟨hop, hvalue⟩ := (Bool.and_eq_true _ _).mp hasks
    obtain ⟨op, q, hdirect, hstaged, hbinds⟩ := Staged.filterClauses_of_null (c := c) hop hvalue
    rw [hdirect, hstaged]
    exact .cons (hbinds.mono fun s t _ => hnull hasks s t) .nil
  · refine (Staged.filterClauses_binds hc hv hordered (Bool.eq_false_iff.2 hasks)).mono
      fun qs ps hbinds => ?_
    exact hbinds.imp fun q p h => h.mono fun s t hst => hst ▸ hrefl s

theorem filterConditions_binds {R : Condition Stored → Condition Stored → Prop}
    (hrefl : ∀ s, R s s) (h : Mirrors p v)
    (hbasic : ∀ field c, v.column? field = some c → c.type.meaning.isBasic = true)
    (hvalues : ∀ f ∈ filters, f.value.isScalar = true)
    (hordered : ∀ f ∈ filters, (v.column? f.field).isSome = true → f.ordersUnordered = false)
    (hnull : ∀ f ∈ filters, (v.column? f.field).isSome = true → f.asksNull = true →
      ∀ s t, R s t) :
    Alike (List.Forall₂ (Binds R)) (p.filterConditions filters) (v.filterConditions filters) := by
  induction filters with
  | nil => exact .nil
  | cons f rest ih =>
      have hrest := ih (fun g hg => hvalues g (List.mem_cons_of_mem f hg))
        (fun g hg => hordered g (List.mem_cons_of_mem f hg))
        (fun g hg => hnull g (List.mem_cons_of_mem f hg))
      have hjoin : ∀ (own : Attempt (List (Condition Value)))
          (own' : Attempt (List (Condition Parameter))), Alike (List.Forall₂ (Binds R)) own own' →
            Alike (List.Forall₂ (Binds R)) (do return (← own) ++ (← p.filterConditions rest))
              (do return (← own') ++ (← v.filterConditions rest)) := fun _ _ hown =>
        hown.bind fun _ _ _ _ hhead => hrest.bind fun _ _ _ _ htail => List.rel_append hhead htail
      rw [Staged.View.filterConditions, Direct.Plan.filterConditions_cons,
        Direct.Plan.conditionsOf, h.get?_columns]
      cases hcolumn : v.column? f.field with
      | none => exact hjoin (.ok []) (.ok []) .nil
      | some c =>
          have hsome : (v.column? f.field).isSome = true := by rw [hcolumn]; rfl
          exact hjoin _ _ (filterClauses_binds_of_null hrefl (hbasic f.field c hcolumn)
            (hvalues f List.mem_cons_self) (hordered f List.mem_cons_self hsome)
            (hnull f List.mem_cons_self hsome))

end Filters

section Search

theorem binds_searchClause (c : Staged.TypedColumn) (term : String) :
    Binds Eq (Direct.searchClause c.ref term) (Staged.searchClause c term) :=
  binds_of_traverse rfl rfl rfl

theorem columnSearches_binds (h : Mirrors p v) (searches : Entries String) :
    List.Forall₂ (Binds Eq) (p.columnConditions searches)
      (searches.filterMap fun (field, term) =>
        (v.column? field).map (Staged.searchClause · term)) := by
  unfold Direct.Plan.columnConditions
  induction searches with
  | nil => exact .nil
  | cons e rest ih =>
      obtain ⟨field, term⟩ := e
      have hget := h.get?_columns field
      cases hcolumn : v.column? field with
      | none =>
          rw [hcolumn] at hget
          rw [List.filterMap_cons_none (by simp only [hget]; rfl),
            List.filterMap_cons_none (by simp only [hcolumn]; rfl)]
          exact ih
      | some c =>
          rw [hcolumn] at hget
          rw [List.filterMap_cons_some (by simp only [hget]; rfl),
            List.filterMap_cons_some (by simp only [hcolumn]; rfl)]
          exact .cons (binds_searchClause c term) ih

/-- Both sides search the same columns for the term, and single columns for their own. -/
theorem searchConditions_binds (h : Mirrors p v) {d : TableDescriptor} {ordered : List String}
    (hfields : p.fields = ordered) {hidden : List String}
    (hhidden : Direct.excluded d p.shown (·.searchable) = hidden) (request : PagingRequest) :
    List.Forall₂ (Binds Eq)
      (p.termConditions d request.searchTerm ++ p.columnConditions request.columnSearches)
      (v.searchConditions ordered request hidden) := by
  refine List.rel_append ?_ (columnSearches_binds h request.columnSearches)
  unfold Direct.Plan.termConditions
  cases request.searchTerm with
  | none => exact .nil
  | some term =>
      by_cases hempty : term = ""
      · simp only [if_pos hempty]
        exact .nil
      · simp only [if_neg hempty]
        apply binds_any?
        rw [hfields, hhidden]
        simp only [h.get?_columns, ← List.map_filterMap, List.map_map]
        rw [List.forall₂_map_left_iff, List.forall₂_map_right_iff, List.forall₂_same]
        exact fun c _ => binds_searchClause c term

end Search

section Order

theorem requestedOrder?_eq (h : Mirrors p v) {d : TableDescriptor} {ordered : List String}
    (hfields : p.fields = ordered) {fixed : List String}
    (hfixed : Direct.excluded d p.shown (·.sortable) = fixed) (request : PagingRequest) :
    p.requestedOrder? d request = v.requestedOrder? ordered request fixed := by
  unfold Direct.Plan.requestedOrder? Staged.View.requestedOrder? Staged.View.orderBy?
  simp only [hfields, hfixed, h.get?_columns, h.base, Option.bind_eq_bind]
  cases request.orderColumnIndex with
  | none => rfl
  | some i =>
      by_cases hi : i < 0
      · simp [hi]
      · simp only [Option.bind_some, hi, if_false]
        cases ordered[i.toNat]? with
        | none => rfl
        | some field =>
            by_cases hfield : fixed.contains field = true
            · simp only [Option.bind_some, hfield, if_true]
              rfl
            · simp only [Option.bind_some, hfield, Bool.false_eq_true, if_false]
              cases v.column? field <;> rfl

theorem declaredOrder?_eq (h : Mirrors p v) (declared : Option OrderBy) :
    (declared.bind fun o => (p.columns.get? o.column).bind fun c =>
      some (RowOrder.by p.base c (o.direction == .descending))) =
        declared.bind fun o => v.orderBy? o.column o.direction := by
  cases declared with
  | none => rfl
  | some o =>
      simp only [Option.bind_some, h.get?_columns, Staged.View.orderBy?, h.base]
      cases v.column? o.column <;> rfl

theorem keyOrder?_eq (h : Mirrors p v) :
    (p.base.primaryKey.head?.bind fun field => (p.base.column? field).bind fun c =>
      some (RowOrder.by p.base ⟨none, c.name, c.affinity⟩ false)) = v.keyOrder? := by
  rw [h.base, Staged.View.keyOrder?]
  cases v.base.primaryKey with
  | nil => rfl
  | cons field rest =>
      simp only [List.head?_cons, Option.bind_some]
      cases v.base.column? field <;> rfl

/-- The rows come in the same order on both sides. -/
theorem order_eq (h : Mirrors p v) {d : TableDescriptor} {ordered : List String}
    (hfields : p.fields = ordered) {fixed : List String}
    (hfixed : Direct.excluded d p.shown (·.sortable) = fixed) (request : PagingRequest) :
    p.order d request = v.order ordered request d.orderBy fixed := by
  show ((p.requestedOrder? d request).or (d.orderBy.bind fun o =>
    (p.columns.get? o.column).bind fun c =>
      some (RowOrder.by p.base c (o.direction == .descending)))).or
        (p.base.primaryKey.head?.bind fun field => (p.base.column? field).bind fun c =>
          some (RowOrder.by p.base ⟨none, c.name, c.affinity⟩ false)) = _
  rw [requestedOrder?_eq h hfields hfixed, declaredOrder?_eq h, keyOrder?_eq h, Staged.View.order]
  cases v.requestedOrder? ordered request fixed with
  | some o => rfl
  | none => cases d.orderBy.bind fun o => v.orderBy? o.column o.direction <;> rfl

end Order

section Preparation

theorem Mirrors.perm_joins (h : Mirrors p v) :
    (p.joins.map (·.join)).Perm (v.joins.map (·.join)) := by
  have hjoins := h.joins.map (·.1)
  rwa [List.map_map, List.map_map] at hjoins

/-- Statements whose conditions bind alike are prepared alike, if all names can be named. -/
theorem alike_prepare {R : Condition Stored → Condition Stored → Prop} (h : Mirrors p v)
    {qs : List (Condition Value)} {ps : List (Condition Parameter)}
    (hbinds : List.Forall₂ (Binds R) qs ps) {names : List String}
    (hnames : ∀ name ∈ names, Direct.nameable name = true) :
    Alike (Query.Corresponds R)
      (Direct.Statement.prepare ⟨names, p.base, p.joins.map (·.join), qs⟩)
      (Staged.prepare (v.query ps)) := by
  -- values are written before they are bound on one side only
  obtain ⟨ws, hws, hbound⟩ := mapM_write_of_binds hbinds
  unfold Direct.Statement.prepare Staged.prepare
  rw [if_pos (List.all_eq_true.2 hnames)]
  simp only [Staged.View.query, hws]
  exact alike_bind h.base h.perm_joins hbound

end Preparation

end AdminGrid

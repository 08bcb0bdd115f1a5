import AdminGrid.Proofs.Parity.Answers

/-!
# Agreement of both compilations

A request is answered by one compilation exactly if it is answered by the other one, with the same
payload, unless its filters are about null or put truth values in an order.
-/

namespace AdminGrid

open Store

/-- Whether a request has the same payload by both compilations, or none by either. -/
def Agree (source : Source) (c : Request.Context) : Prop :=
  ∀ payload, Direct.compile source c = .ok payload ↔
    (Staged.compile source c).1.map (·.toWire false) = .ok payload

theorem agree_iff_alike {source : Source} {c : Request.Context} : Agree source c ↔
    Alike Eq (Direct.compile source c)
      ((Staged.answer source c).map fun response => response.toWire false) := by
  rw [alike_eq_iff, Agree, Staged.compile_fst]

/-- Whether rows that tie come in the same order from the queries of both compilations. -/
def RowsTieAlike (source : Source) (d : TableDescriptor) (c : Request.Context) : Prop :=
  ∀ base p r, source.database.table? d.name = some base →
    Direct.plan source.database base d source.catalog = .ok p →
    Layout.resolveColumns (Staged.columnRequest base d
      (Layout.mergeRelations d.relations source.catalog)) = .ok r →
    ∀ q q', p.pageQuery d c = .ok q →
      (Staged.viewOf source d base r).pageQuery (Staged.fetchOf d c r) = .ok q' →
        TiesAlike (p.order d c.paging) (q.rows.map JoinedRow.seen) (q'.rows.map JoinedRow.seen)

/-- Whether a request that is answered in a single pass has no filter on a column that puts null or
a truth value in an order, and one that asks for null only where no row passes the filters of a
staged compilation. -/
def NullSafe (source : Source) (d : TableDescriptor) (c : Request.Context) : Prop :=
  ∀ base p r payload, source.database.table? d.name = some base →
    Direct.plan source.database base d source.catalog = .ok p →
    Layout.resolveColumns (Staged.columnRequest base d
      (Layout.mergeRelations d.relations source.catalog)) = .ok r →
    Direct.compile source c = .ok payload →
      ∀ f ∈ c.filters, p.columns.has f.field = true →
        f.ordersUnordered = false ∧ (f.asksNull = true →
          ∀ q, (Staged.viewOf source d base r).totalQuery (Staged.fetchOf d c r) = .ok q →
            q.rows = [])

section Requests

variable {source : Source} {d : TableDescriptor} {c : Request.Context} {base : Table}
  {p : Direct.Plan} {r : Layout.ResolvedColumns}

/-- The plan of a request and the resolved columns of a request, of a table that is there. -/
structure Planned (source : Source) (d : TableDescriptor) (c : Request.Context) (base : Table)
    (p : Direct.Plan) (r : Layout.ResolvedColumns) : Prop where
  table : source.database.table? d.name = some base
  plan : Direct.plan source.database base d source.catalog = .ok p
  columns : Layout.resolveColumns (Staged.columnRequest base d
    (Layout.mergeRelations d.relations source.catalog)) = .ok r
  resolves : Resolves source d base p r
  direct : Direct.compile source c = p.find d c >>= p.payloadOf source d c
  staged : Staged.answer source c =
    (Staged.viewOf source d base r).fetch (Staged.fetchOf d c r) >>= Staged.answerOf source d c r

theorem descriptor_of_describedTable {d' : TableDescriptor} (h : c.describedTable = .ok d')
    (hd : c.descriptor = some d) : d' = d := by
  unfold Request.Context.describedTable at h
  rw [hd] at h
  split at h
  · rename_i hsome _
    split at h
    · cases h
    · exact (Except.ok.inj h).symm.trans (Option.some.inj hsome).symm
  · cases h

theorem compile_of_described (h : c.describedTable = .ok d) : Direct.compile source c =
    match source.database.table? d.name with
    | none => .error (.configuration (.unknownTable d.name))
    | some base => Direct.plan source.database base d source.catalog >>= fun p =>
        p.find d c >>= p.payloadOf source d c := by
  unfold Direct.compile
  rw [h]
  rfl

theorem answer_of_described (h : c.describedTable = .ok d) : Staged.answer source c =
    Staged.resolvedOf source d >>= fun found =>
      (Staged.viewOf source d found.1 found.2).fetch (Staged.fetchOf d c found.2) >>=
        Staged.answerOf source d c found.2 := by
  unfold Staged.answer
  rw [h]
  rfl

/-- A request gets as far as to its columns on both sides, or fails before. -/
theorem planned_or_error (hd : c.descriptor = some d) (h : Comparable source d c) :
    (∃ base p r, Planned source d c base p r) ∨
      (∃ e, Direct.compile source c = .error e) ∧ ∃ e, Staged.answer source c = .error e := by
  have hlinked := Database.linkedTable?_eq_table? h.basic.keys d.name
  cases hdescribed : c.describedTable with
  | error e =>
      refine Or.inr ⟨⟨e, ?_⟩, ⟨e, ?_⟩⟩
      · rw [Direct.compile, hdescribed]
        rfl
      · rw [Staged.answer, hdescribed]
        rfl
  | ok d' =>
      obtain rfl : d' = d := descriptor_of_describedTable hdescribed hd
      have hdirect := @compile_of_described source _ _ hdescribed
      have hstaged := @answer_of_described source _ _ hdescribed
      rw [Staged.resolvedOf, hlinked] at hstaged
      cases htable : source.database.table? d'.name with
      | none =>
          rw [htable] at hdirect hstaged
          exact Or.inr ⟨⟨_, hdirect⟩, ⟨_, hstaged⟩⟩
      | some base =>
          rw [htable] at hdirect hstaged
          have halike := alike_plan source (Database.mem_of_table? htable).2 h.foundAlike
          rcases halike.error_or_ok with
            ⟨e, e', hplan, hcolumns⟩ | ⟨p, r, hplan, hcolumns, hresolves⟩
          · simp only [hplan] at hdirect
            simp only [hcolumns] at hstaged
            exact Or.inr ⟨⟨e, hdirect⟩, ⟨e', hstaged⟩⟩
          · simp only [hplan] at hdirect
            simp only [hcolumns] at hstaged
            exact Or.inl ⟨base, p, r, htable, hplan, hcolumns, hresolves, hdirect, hstaged⟩

/-- A field stands for a column in a single pass exactly if it does in a staged compilation. -/
theorem has_columns_iff (hresolves : Resolves source d base p r) (field : String) :
    p.columns.has field = true ↔
      ((Staged.viewOf source d base r).column? field).isSome = true := by
  show (p.columns.get? field).isSome = true ↔ _
  rw [hresolves.mirrors.get?_columns, Option.isSome_map]

/-- The conditions of the filters are there on both sides if no filter on a column puts null or a
truth value in an order, and bound to the same ones if no filter on a column asks for null. -/
theorem filtersBind {R : Condition Stored → Condition Stored → Prop} (hrefl : ∀ s, R s s)
    (h : Comparable source d c) (hbase : source.database.table? d.name = some base)
    (hresolves : Resolves source d base p r)
    (hordered : ∀ f ∈ c.filters, p.columns.has f.field = true → f.ordersUnordered = false)
    (hnull : ∀ f ∈ c.filters, p.columns.has f.field = true → f.asksNull = true → ∀ s t, R s t) :
    FiltersBind R p (Staged.viewOf source d base r) c.filters := by
  obtain ⟨hmem, hname⟩ := Database.mem_of_table? hbase
  have hcolumn := fun field => (has_columns_iff hresolves field).2
  refine filterConditions_binds hrefl hresolves.mirrors (fun field column hget => ?_)
    h.values (fun f hf hsome => hordered f hf (hcolumn f.field hsome))
    (fun f hf hsome => hnull f hf (hcolumn f.field hsome))
  obtain ⟨t, ht, def_, hdef, htype⟩ := type_of_column? hname hmem hget
  rw [htype]
  exact h.basic.types t ht def_ hdef

/-- A staged compilation fails where a filter on a column puts null or a truth value in an order. -/
theorem answer_of_unordered (hplanned : Planned source d c base p r) {f : FilterSpec}
    (hf : f ∈ c.filters) (hcolumn : p.columns.has f.field = true)
    (hordered : f.ordersUnordered = true) : ∃ e, Staged.answer source c = .error e := by
  obtain ⟨e, he⟩ := filterConditions_of_unordered hf
    ((has_columns_iff hplanned.resolves f.field).1 hcolumn) hordered
  refine ⟨e, ?_⟩
  rw [hplanned.staged, Staged.View.fetch]
  show ((Staged.viewOf source d base r).filterConditions c.filters >>= _) >>= _ = _
  rw [he]
  rfl

/-- No filter on a column puts null or a truth value in an order where there is a query of the
page. -/
theorem ordered_of_pageQuery (hresolves : Resolves source d base p r) {q : Query Stored}
    (hq : (Staged.viewOf source d base r).pageQuery (Staged.fetchOf d c r) = .ok q) :
    ∀ f ∈ c.filters, p.columns.has f.field = true → f.ordersUnordered = false := by
  intro f hf hcolumn
  refine Bool.eq_false_iff.2 fun hunordered => ?_
  obtain ⟨e, he⟩ := filterConditions_of_unordered hf
    ((has_columns_iff hresolves f.field).1 hcolumn) hunordered
  obtain ⟨ps, hps, -⟩ := bind_eq_ok.1 hq
  exact absurd (he.symm.trans hps) (by simp)

theorem tiesAlike_nil (order : Option RowOrder) (rows : List SeenRow) :
    TiesAlike order [] rows := fun _ hperm => (List.nil_perm.1 hperm).symm

/-- Rows that tie come in the same order from queries with the same joins, so the assumption that
they do is one about requests of several relations. -/
theorem rowsTieAlike_of_length_le_one (h : Comparable source d c)
    (hlength : (Direct.relationsOf d source.catalog).values.length ≤ 1) :
    RowsTieAlike source d c := by
  intro base p r htable hplan hcolumns q q' hq hq'
  obtain ⟨hmem, hname⟩ := Database.mem_of_table? htable
  have hresolves := alike_plan source hname h.foundAlike
  rw [hplan, hcolumns] at hresolves
  change Resolves source d base p r at hresolves
  by_cases hnull : ∃ f ∈ c.filters, p.columns.has f.field = true ∧ f.asksNull = true
  · -- one side finds no row at all, so that there is nothing to tie
    obtain ⟨f, hf, hcolumn, hasks⟩ := hnull
    rw [(rows_eq_nil_of_asksNull (exists_compare_null hf hcolumn hasks)).2 q hq]
    exact tiesAlike_nil _ _
  · have hordered := ordered_of_pageQuery hresolves hq'
    have hbinds := filtersBind (R := Eq) (fun _ => rfl) h htable hresolves hordered
      fun f hf hcolumn hasks => absurd ⟨f, hf, hcolumn, hasks⟩ hnull
    have hquery := alike_pageQuery h hmem hresolves (fun _ => rfl) hbinds
    rw [hq, hq'] at hquery
    change q.Corresponds Eq q' at hquery
    have hshort : q.joins.length ≤ 1 := by
      rw [(exists_conditions_of_pageQuery hq).2.1]
      show (p.joins.map _).length ≤ 1
      rw [List.length_map]
      exact Nat.le_trans (hresolves.length_joins_le hname) hlength
    rw [hquery.eq_of_length_le_one hshort]
    exact TiesAlike.refl _ _

/-- Both compilations answer alike where no filter on a column is about null or puts truth values in
an order. -/
theorem alike_of_ordered (h : Comparable source d c) (hties : RowsTieAlike source d c)
    (hplanned : Planned source d c base p r)
    (hordered : ∀ f ∈ c.filters, p.columns.has f.field = true → f.ordersUnordered = false)
    (hnull : ∀ f ∈ c.filters, p.columns.has f.field = true → f.asksNull = false) :
    Alike Eq (Direct.compile source c)
      ((Staged.answer source c).map fun response => response.toWire false) := by
  have hbinds := filtersBind (R := Eq) (fun _ => rfl) h hplanned.table
    hplanned.resolves hordered fun f hf hcolumn hasks => absurd hasks (by simp [hnull f hf hcolumn])
  have hfound := alike_find h hplanned.table hplanned.resolves hbinds
    (hties base p r hplanned.table hplanned.plan hplanned.columns)
  rw [hplanned.direct, hplanned.staged, map_bind_eq]
  exact hfound.bind fun found fetched _ _ hpage =>
    alike_payloadOf h hplanned.table hplanned.resolves hpage

/-- Where a filter on a column asks for null, both compilations answer alike exactly if no row
passes the filters of the staged one. -/
theorem alike_of_null (h : Comparable source d c) (hplanned : Planned source d c base p r)
    (hordered : ∀ f ∈ c.filters, p.columns.has f.field = true → f.ordersUnordered = false)
    {f : FilterSpec} (hf : f ∈ c.filters) (hcolumn : p.columns.has f.field = true)
    (hnull : f.asksNull = true) :
    Alike Eq (Direct.compile source c)
        ((Staged.answer source c).map fun response => response.toWire false) ↔
      ∀ payload, Direct.compile source c = .ok payload →
        ∀ q, (Staged.viewOf source d base r).totalQuery (Staged.fetchOf d c r) = .ok q →
          q.rows = [] := by
  -- the conditions of such a filter differ, so nothing is asked of them but that they can be bound
  have hbinds := filtersBind (R := fun _ _ => True) (fun _ => trivial) h hplanned.table
    hplanned.resolves hordered fun _ _ _ _ _ _ => trivial
  have hfound := alike_find_of_null h hplanned.table hplanned.resolves hbinds
    (exists_compare_null hf hcolumn hnull)
  rw [hplanned.direct, hplanned.staged]
  rcases hfound.error_or_ok with ⟨e, e', hfind, hfetch⟩ | ⟨found, fetched, hfind, hfetch, hempty⟩
  · rw [hfind, hfetch]
    exact ⟨fun _ payload hpayload => (nomatch hpayload), fun _ => trivial⟩
  · obtain ⟨total, htotal, hcount⟩ := total_of_fetch hfetch
    rw [hfind, hfetch, htotal]
    refine (alike_payloadOf_iff_of_empty h hplanned.table hplanned.resolves hempty).trans ?_
    refine forall₂_congr fun payload _ => ?_
    rw [hcount, List.length_eq_zero_iff]
    constructor
    · rintro hrows q hq
      obtain rfl : total = q := Except.ok.inj hq
      exact hrows
    · exact fun hrows => hrows total rfl

theorem nullSafe_iff (hplanned : Planned source d c base p r) : NullSafe source d c ↔
    ∀ payload, Direct.compile source c = .ok payload → ∀ f ∈ c.filters,
      p.columns.has f.field = true → f.ordersUnordered = false ∧ (f.asksNull = true →
        ∀ q, (Staged.viewOf source d base r).totalQuery (Staged.fetchOf d c r) = .ok q →
          q.rows = []) := by
  constructor
  · intro hsafe payload hpayload
    exact hsafe base p r payload hplanned.table hplanned.plan hplanned.columns hpayload
  · intro hsafe base' p' r' payload htable hplan hcolumns hpayload
    obtain rfl : base = base' := Option.some.inj (hplanned.table.symm.trans htable)
    obtain rfl : p = p' := Except.ok.inj (hplanned.plan.symm.trans hplan)
    obtain rfl : r = r' := Except.ok.inj (hplanned.columns.symm.trans hcolumns)
    exact hsafe payload hpayload

/-- Both compilations agree on a request exactly if its filters are safe from null. -/
theorem agree_iff_nullSafe (hd : c.descriptor = some d) (h : Comparable source d c)
    (hties : RowsTieAlike source d c) : Agree source c ↔ NullSafe source d c := by
  rw [agree_iff_alike]
  rcases planned_or_error hd h with ⟨base, p, r, hplanned⟩ | ⟨⟨e, hdirect⟩, e', hstaged⟩
  · rw [nullSafe_iff hplanned]
    by_cases hunordered : ∃ f ∈ c.filters, p.columns.has f.field = true ∧ f.ordersUnordered = true
    · -- the staged compilation fails, so that both agree only if the other one does too
      obtain ⟨f, hf, hcolumn, hf'⟩ := hunordered
      obtain ⟨e, he⟩ := answer_of_unordered hplanned hf hcolumn hf'
      rw [he]
      cases hdirect : Direct.compile source c with
      | error e' => exact ⟨fun _ payload hpayload => (nomatch hpayload), fun _ => trivial⟩
      | ok payload =>
          refine ⟨fun halike => halike.elim, fun hsafe => ?_⟩
          rw [(hsafe payload rfl f hf hcolumn).1] at hf'
          cases hf'
    · have hordered : ∀ f ∈ c.filters, p.columns.has f.field = true →
          f.ordersUnordered = false := by
        intro f hf hcolumn
        exact Bool.eq_false_iff.2 fun h' => hunordered ⟨f, hf, hcolumn, h'⟩
      by_cases hasks : ∃ f ∈ c.filters, p.columns.has f.field = true ∧ f.asksNull = true
      · obtain ⟨f, hf, hcolumn, hnull⟩ := hasks
        rw [alike_of_null h hplanned hordered hf hcolumn hnull]
        constructor
        · intro hempty payload hpayload g hg hcolumn'
          exact ⟨hordered g hg hcolumn', fun _ => hempty payload hpayload⟩
        · intro hsafe payload hpayload
          exact (hsafe payload hpayload f hf hcolumn).2 hnull
      · have hnull : ∀ f ∈ c.filters, p.columns.has f.field = true → f.asksNull = false := by
          intro f hf hcolumn
          exact Bool.eq_false_iff.2 fun h' => hasks ⟨f, hf, hcolumn, h'⟩
        refine ⟨fun _ payload _ f hf hcolumn => ⟨hordered f hf hcolumn, fun hf' => ?_⟩,
          fun _ => alike_of_ordered h hties hplanned hordered hnull⟩
        rw [hnull f hf hcolumn] at hf'
        cases hf'
  · rw [hdirect, hstaged]
    refine ⟨fun _ base p r payload _ _ _ hpayload => ?_, fun _ => trivial⟩
    rw [hdirect] at hpayload
    cases hpayload

end Requests

/-- Two orders, of which the first one has no note. -/
def orders : Table where
  name := "orders"
  columns := [⟨"id", "INTEGER", true, false, none⟩, ⟨"note", "TEXT", false, false, none⟩]
  keys := []
  rows := [[("id", .int 1), ("note", .null)], [("id", .int 2), ("note", .text "second")]]

/-- A database of nothing but these orders. -/
def notedOrders : Source := ⟨⟨[orders]⟩, .none, []⟩

/-- The descriptor of the orders, without actions. -/
def orderColumns : TableDescriptor where
  name := "orders"
  columns := [⟨"id", none, false, false, true, true, false⟩,
    ⟨"note", none, false, false, true, true, false⟩]
  relations := []
  formulas := []
  actions := ⟨false, [], [], []⟩
  filters := []
  paging := ⟨10, 100⟩
  formatRules := []
  clickable := false
  numbering := false
  urlTargetField := "id"
  softDeleteField := none
  mergedColumns := []
  fixedColumns := []
  orderBy := none

/-- The request of the orders whose note equals a value. -/
def ordersNoted (note : Value) : Request.Context where
  tableName := some "orders"
  descriptor := some orderColumns
  paging := ⟨0, 10, none, .ascending, none, 0, []⟩
  filters := [⟨"note", .equals, note⟩]
  filterPage := []
  route := ⟨none, none, none, none⟩
  roles := []
  roleGroup := none
  params := []

theorem comparable_ordersNoted {note : Value} (hnote : note.isScalar = true) :
    Comparable notedOrders orderColumns (ordersNoted note) := by
  have hrelations : (Direct.relationsOf orderColumns notedOrders.catalog).values = [] := rfl
  have hmem : ∀ {t}, t ∈ notedOrders.database.tables → t = orders := List.mem_singleton.1
  constructor
  case basic =>
    constructor
    case kept =>
      intro t ht
      obtain rfl := hmem ht
      exact ⟨by decide, by decide⟩
    case types =>
      intro t ht
      obtain rfl := hmem ht
      decide
    case keys =>
      intro t ht
      obtain rfl := hmem ht
      decide
  case named =>
    rw [hrelations]
    constructor
    case tables =>
      intro t ht
      obtain rfl := hmem ht
      decide
    case columns =>
      intro t ht
      obtain rfl := hmem ht
      decide
    case aliases => exact fun r hr => (nomatch hr)
    case displays => exact fun r hr => (nomatch hr)
  case places => exact fun rule hrule => (nomatch hrule)
  case values =>
    intro f hf
    obtain rfl := List.mem_singleton.1 hf
    exact hnote
  all_goals
    rw [hrelations]
    exact fun r hr => (nomatch hr)

/-- Both compilations find the order whose note is a given text. -/
theorem agree_ordersNoted_second : Agree notedOrders (ordersNoted (.text "second")) := by
  refine (agree_iff_nullSafe rfl (comparable_ordersNoted rfl)
    (rowsTieAlike_of_length_le_one (comparable_ordersNoted rfl) (by decide))).2 ?_
  intro base p r payload _ _ _ _ f hf _
  obtain rfl := List.mem_singleton.1 hf
  exact ⟨rfl, fun hnull => absurd hnull (by decide)⟩

/-- The plan of the orders. -/
def ordersPlan : Direct.Plan :=
  ⟨orders, ["id", "note"], [],
    [("id", ⟨none, "id", .integer⟩), ("note", ⟨none, "note", .text⟩)], .none⟩

theorem find_ordersPlan :
    ordersPlan.find orderColumns (ordersNoted .null) = .ok ⟨0, 0, []⟩ := by
  have hnone : Query.rows ⟨orders, [], [.compare .equal ⟨none, "note", .text⟩ .null]⟩ = [] :=
    rows_eq_nil_of_null (List.mem_singleton_self _)
  have htotal : ordersPlan.totalQuery (ordersNoted .null) =
      .ok ⟨orders, [], [.compare .equal ⟨none, "note", .text⟩ .null]⟩ :=
    totalQuery_of_conditions (p := ordersPlan) (c := ordersNoted .null) rfl (by decide)
  have hpage : ordersPlan.pageQuery orderColumns (ordersNoted .null) =
      .ok ⟨orders, [], [.compare .equal ⟨none, "note", .text⟩ .null]⟩ :=
    pageQuery_of_conditions (p := ordersPlan) (d := orderColumns) (c := ordersNoted .null) rfl
      (by decide)
  rw [find_eq fun _ hqs => Except.ok.inj hqs ▸ by decide, htotal, hpage]
  show Except.ok (Direct.Found.mk _ _ (Store.segment _ _ (ordered _ _))) = _
  rw [Query.count, hnone, segment_ordered_nil]
  rfl

theorem compile_ordersNoted_null : Direct.compile notedOrders (ordersNoted .null) =
    .ok (Direct.payload 0 ⟨0, 0, []⟩ []) := by
  have htable : notedOrders.database.table? orderColumns.name = some orders := rfl
  have hplan : Direct.plan notedOrders.database orders orderColumns notedOrders.catalog =
      .ok ordersPlan := rfl
  rw [@compile_of_described _ orderColumns _ rfl]
  simp only [htable, hplan]
  show (ordersPlan.find orderColumns (ordersNoted .null) >>=
    ordersPlan.payloadOf notedOrders orderColumns (ordersNoted .null)) = _
  rw [find_ordersPlan]
  rfl

/-- The order without a note is found by a staged compilation alone. -/
theorem not_agree_ordersNoted_null : ¬ Agree notedOrders (ordersNoted .null) := by
  intro h
  have htable : notedOrders.database.table? orderColumns.name = some orders := rfl
  have hstaged := (h _).1 compile_ordersNoted_null
  rw [Staged.compile_fst, @answer_of_described _ orderColumns _ rfl, Staged.resolvedOf,
    Database.linkedTable?_eq_table? (by decide), htable] at hstaged
  obtain ⟨response, hanswer, hwire⟩ := map_eq_ok.1 hstaged
  obtain ⟨found, hfound, hanswer⟩ := bind_eq_ok.1 hanswer
  obtain ⟨fetched, hfetched, hanswer⟩ := bind_eq_ok.1 hanswer
  obtain ⟨r, -, rfl⟩ := map_eq_ok.1 hfound
  obtain ⟨total, htotal, hcount⟩ := total_of_fetch hfetched
  -- whatever the columns, the filter asks here whether the note is there
  obtain rfl : (⟨orders, [], [.isNull ⟨none, "note", .text⟩]⟩ : Query Stored) = total :=
    Except.ok.inj htotal
  have hzero := recordsTotal_of_toWire hwire
  rw [(counts_of_answerOf hanswer).1, hcount] at hzero
  exact absurd hzero (by decide)

end AdminGrid

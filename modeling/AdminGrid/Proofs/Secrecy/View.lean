import AdminGrid.Proofs.Parity.Page
import AdminGrid.Proofs.Secrecy.Plan

/-!
# Fetching in stages

The view of a table refers to columns by the fields of a request, as the statements of a single pass
do.  Over twin databases that differ in a column which is none of these, a page has the same counts,
and its rows differ in that column alone.
-/

namespace AdminGrid

open Store

namespace Staged

/-- Two joins over alike tables that show one column under one name. -/
structure LinkedJoin.AlikeOn (seen : Sight) (j j' : LinkedJoin) : Prop where
  join : j.join.AlikeOn seen j'.join
  displayField : j.displayField = j'.displayField
  display : j.display = j'.display
  seesDisplay : j.display.ref.SeenIn seen

/-- Whether an alias joins the base table of a view to itself. -/
def View.SelfJoins (v : View) (name : String) : Prop :=
  ∃ j ∈ v.joins, j.join.tableAlias = name ∧ j.join.table.name = v.base.name

/-- What is seen of the tables of a view without a column of its base table. -/
def View.sightBut (v : View) (column : String) : Sight := AdminGrid.sightBut column v.SelfJoins

/-- Two views that differ in a column of their base tables alone. -/
structure View.Twin (column : String) (v v' : View) : Prop where
  base : v.base.AlikeOn (v.sightBut column none) v'.base
  joins : List.Forall₂ (LinkedJoin.AlikeOn (v.sightBut column)) v.joins v'.joins

section Links

variable {column : String} {db db' : Database} {base base' : Table} {selfJoined : String → Prop}

theorem rel_linkOf? (hdb : db.Twin base.name column db') (hbase : base.Twin base.name column base')
    {r : RelationSpec} (hr : r.LeavesOut base.name column) (hkey : db.NoKey base.name column)
    (hself : ∀ j, linkOf? db base r = some j →
      (selfJoined (Direct.joinAlias r.aliasField) ↔ j.join.table.name = base.name)) :
    Option.Rel (LinkedJoin.AlikeOn (sightBut column selfJoined)) (linkOf? db base r)
      (linkOf? db' base' r) := by
  unfold linkOf? link? at hself ⊢
  rw [← hbase.name, ← column?_congr hbase.columns]
  cases hjoined : Layout.joinedColumns? base.name r.foreignKey with
  | none => exact .none
  | some joined =>
      simp only [hjoined, Option.bind_eq_bind, Option.bind_some] at hself ⊢
      have hrel := hdb.linkedTable? joined.table
      have hmem := fun t (h : db.linkedTable? joined.table = some t) =>
        Database.mem_of_table? (Database.table?_of_linkedTable? h)
      generalize db.linkedTable? joined.table = found at hrel hmem hself ⊢
      generalize db'.linkedTable? joined.table = found' at hrel ⊢
      cases hrel with
      | none => exact .none
      | @some t t' ht =>
          simp only [Option.bind_some, ← column?_congr ht.columns] at hself ⊢
          cases hkeyColumn : t.column? joined.column with
          | none => exact .none
          | some key =>
              cases hbaseFound : base.column? joined.baseColumn with
              | none => exact .none
              | some baseColumn =>
                  cases hdisplay : t.column? (Layout.cutName r.displayField).2 with
                  | none => exact .none
                  | some display =>
                      rw [hdisplay, hkeyColumn, hbaseFound] at hself
                      obtain ⟨hin, hname⟩ := hmem t rfl
                      have hjoin := alikeOn_join ht hr hjoined (congrArg lowerAscii hname)
                        (hkey t hin) (hself _ rfl) hkeyColumn hbaseFound hdisplay
                      exact .some ⟨hjoin, rfl, rfl, hjoin.seesShown⟩

end Links

section Views

variable {source source' : Source} {d : TableDescriptor} {base base' : Table} {column : String}
  {r : Layout.ResolvedColumns}

/-- An alias joins the table to itself exactly if the join of its relation does. -/
theorem selfJoins_iff (hbase : base.name = d.name) {spec : RelationSpec}
    (hspec : spec ∈ declaredSpecs d source.catalog r.relations) {j : LinkedJoin}
    (hj : linkOf? source.database base spec = some j) :
    (viewOf source d base r).SelfJoins (Direct.joinAlias spec.aliasField) ↔
      j.join.table.name = base.name := by
  have hget := fun (s : RelationSpec) (hs : s ∈ declaredSpecs d source.catalog r.relations) =>
    (mem_declaredSpecs_iff (c := ⟨[], [], r.relations⟩).1 hs).1
  rw [viewOf_eq source hbase]
  constructor
  · rintro ⟨other, hother, halias, htable⟩
    obtain ⟨spec', hspec', hother⟩ := List.mem_filterMap.1 hother
    have hsame := Direct.joinAlias_injective ((names_of_linkOf? hother).1.symm.trans halias)
    obtain rfl : spec' = spec := by
      have hfound := hget spec' hspec'
      rw [hsame, hget spec hspec] at hfound
      exact (Option.some.inj hfound).symm
    obtain rfl := Option.some.inj (hj.symm.trans hother)
    exact htable
  · exact fun htable => ⟨j, List.mem_filterMap.2 ⟨spec, hspec, hj⟩, (names_of_linkOf? hj).1,
      htable⟩

/-- The views of a table in twin databases. -/
theorem twin_viewOf (hdb : source.database.Twin d.name column source'.database)
    (hcatalog : source.catalog = source'.catalog) (hbase : base.Twin d.name column base')
    (hname : base.name = d.name) (hmem : base ∈ source.database.tables)
    (hkey : source.database.NoKey d.name column)
    (hjoins : ∀ s ∈ (Direct.relationsOf d source.catalog).values,
      s.aliasField ∈ Layout.requestedColumns d → s.LeavesOut d.name column)
    (hshown : ∀ name ∈ r.relations.relations.keys, name ∈ Layout.requestedColumns d) :
    (viewOf source d base r).Twin column (viewOf source' d base' r) := by
  have hself := fun (s : RelationSpec) (hs : s ∈ declaredSpecs d source.catalog r.relations)
    (j : LinkedJoin) => selfJoins_iff hname hs (j := j)
  have hviews := viewOf_eq source hname r
  rw [viewOf_eq source' (hbase.name ▸ hname) r, ← hcatalog]
  constructor
  · rw [hviews]
    exact alikeOn_of_twin hbase (fun name => ⟨fun h _ => h, fun h => h hname⟩) (hkey base hmem)
  · unfold View.sightBut
    generalize (viewOf source d base r).SelfJoins = selfJoined at hself
    rw [hviews]
    rw [← hname] at hdb hbase hkey hjoins
    refine Direct.forall₂_filterMap fun s hs => ?_
    have hvalue := (List.mem_filter.1 hs).1
    have hrequested := hshown _ (mem_declaredSpecs_iff (c := ⟨[], [], r.relations⟩).1 hs).2
    exact rel_linkOf? hdb hbase (hjoins s hvalue hrequested) hkey (hself s hs)

end Views

section Fetching

variable {column : String} {v v' : View} {ordered : List String} {request : PagingRequest}

theorem column?_eq (h : v.Twin column v') : v.column? = v'.column? := by
  funext field
  have hrel : Option.Rel (LinkedJoin.AlikeOn (v.sightBut column))
      (v.joins.find? (·.displayField == field)) (v'.joins.find? (·.displayField == field)) :=
    rel_find? (fun j j' hj => by rw [hj.displayField]) h.joins
  unfold View.column?
  rw [column?_congr h.base.columns]
  generalize v.joins.find? (·.displayField == field) = found at hrel
  generalize v'.joins.find? (·.displayField == field) = found' at hrel
  cases hrel with
  | none => rfl
  | some hj => exact congrArg some hj.display

/-- Only the field of its own name stands for the column. -/
theorem seen_of_column? (h : v.Twin column v') {field : String} (hfield : field ≠ column)
    {c : TypedColumn} (hc : v.column? field = some c) : c.ref.SeenIn (v.sightBut column) := by
  unfold View.column? at hc
  split at hc
  · rename_i j hj
    cases hc
    exact forall_of_forall₂ (fun _ _ hj => hj.seesDisplay) h.joins j (List.mem_of_find?_eq_some hj)
  · obtain ⟨def_, hdef, rfl⟩ := Option.map_eq_some_iff.1 hc
    show def_.name ≠ column
    rwa [name_of_column? hdef]

theorem filterConditions_eq (h : v.Twin column v') (filters : List FilterSpec) :
    v.filterConditions filters = v'.filterConditions filters := by
  induction filters with
  | nil => rfl
  | cons f rest ih => rw [View.filterConditions, View.filterConditions, ih, column?_eq h]

theorem searchConditions_eq (h : v.Twin column v') (ordered : List String)
    (request : PagingRequest) (hidden : List String) :
    v.searchConditions ordered request hidden = v'.searchConditions ordered request hidden := by
  unfold View.searchConditions
  rw [column?_eq h]

theorem order_eq (h : v.Twin column v') (ordered : List String) (request : PagingRequest)
    (declared : Option OrderBy) (fixed : List String) :
    v.order ordered request declared fixed = v'.order ordered request declared fixed := by
  unfold View.order View.requestedOrder? View.keyOrder? View.orderBy?
  simp only [column?_eq h, Direct.by_congr h.base.columns, column?_congr h.base.columns,
    primaryKey_congr h.base.columns]

end Fetching

section Clauses

variable {c : TypedColumn} {value : Value}

theorem columnsOf_orderClause {op : Comparison} {p : Condition Parameter}
    (h : orderClause op c value = .ok p) : ∀ x ∈ Direct.columnsOf p, x = c.ref := by
  cases value <;> cases h <;> exact fun x hx => List.mem_singleton.1 hx

theorem columnsOf_amongClause {p : Condition Parameter} (h : amongClause c value = .ok p) :
    ∀ x ∈ Direct.columnsOf p, x = c.ref := by
  unfold amongClause at h
  dsimp only at h
  split at h
  · cases h
    exact fun x hx => absurd hx List.not_mem_nil
  · split at h
    · split at h
      · cases h
        exact fun x hx => List.mem_singleton.1 hx
      · cases h
    · cases h
      exact fun x hx => List.mem_singleton.1 hx

theorem columnsOf_singleton {a : Attempt (Condition Parameter)} {ps : List (Condition Parameter)}
    (hps : (do return [← a]) = (.ok ps : Attempt (List (Condition Parameter))))
    (ha : ∀ p, a = .ok p → ∀ x ∈ Direct.columnsOf p, x = c.ref) :
    ∀ p ∈ ps, ∀ x ∈ Direct.columnsOf p, x = c.ref := by
  obtain ⟨q, hq, hps⟩ := bind_eq_ok.1 hps
  rw [← pure_eq_ok.1 hps]
  exact List.forall_mem_singleton.2 (ha q hq)

theorem columnsOf_rangeClauses {ps : List (Condition Parameter)}
    (h : rangeClauses c value = .ok ps) : ∀ p ∈ ps, ∀ x ∈ Direct.columnsOf p, x = c.ref := by
  have hbound : ∀ {op : Comparison} {value : Value} {ps : List (Condition Parameter)},
      boundClause op c value = .ok ps → ∀ p ∈ ps, ∀ x ∈ Direct.columnsOf p, x = c.ref := by
    intro op value ps hps
    unfold boundClause at hps
    split at hps
    · cases hps
      exact fun p hp => nomatch hp
    · exact columnsOf_singleton hps fun p hp => columnsOf_orderClause hp
  obtain ⟨low, hlow, h⟩ := bind_eq_ok.1 h
  obtain ⟨high, hhigh, h⟩ := bind_eq_ok.1 h
  rw [← pure_eq_ok.1 h]
  exact List.forall_mem_append.2 ⟨hbound hlow, hbound hhigh⟩

/-- The clauses of a filter on a column refer to this column alone. -/
theorem columnsOf_filterClauses {op : FilterOperator} {ps : List (Condition Parameter)}
    (h : filterClauses c op value = .ok ps) :
    ∀ p ∈ ps, ∀ x ∈ Direct.columnsOf p, x = c.ref := by
  cases op with
  | greaterThan | lessThan | greaterThanOrEqual | lessThanOrEqual =>
      exact columnsOf_singleton h fun p hp => columnsOf_orderClause hp
  | among => exact columnsOf_singleton h fun p hp => columnsOf_amongClause hp
  | inRange => exact columnsOf_rangeClauses h
  | equals | notEqual =>
      cases h
      refine List.forall_mem_singleton.2 ?_
      cases value <;> exact fun x hx => List.mem_singleton.1 hx
  | contains => exact mem_columnsOf_of_written (c := c.ref) _ h
  | startsWith => exact mem_columnsOf_of_written (c := c.ref) _ h
  | endsWith => exact mem_columnsOf_of_written (c := c.ref) _ h
  | blank | notBlank =>
      cases h
      exact List.forall_mem_singleton.2 fun x hx => List.mem_singleton.1 hx

/-- The conditions of filters refer to columns that the filtered fields stand for. -/
theorem forall_columnsOf_filterConditions {v : View} {P : ColumnRef → Prop}
    {filters : List FilterSpec}
    (hcolumn : ∀ f ∈ filters, ∀ c, v.column? f.field = some c → P c.ref)
    {ps : List (Condition Parameter)} (h : v.filterConditions filters = .ok ps) :
    ∀ p ∈ ps, ∀ x ∈ Direct.columnsOf p, P x := by
  induction filters generalizing ps with
  | nil =>
      cases h
      exact fun p hp => nomatch hp
  | cons f rest ih =>
      rw [List.forall_mem_cons] at hcolumn
      rw [View.filterConditions] at h
      cases hfound : v.column? f.field with
      | none =>
          rw [hfound] at h
          obtain ⟨own, hown, h⟩ := bind_eq_ok.1 h
          obtain ⟨others, hothers, h⟩ := bind_eq_ok.1 h
          cases hown
          rw [← pure_eq_ok.1 h]
          exact ih hcolumn.2 hothers
      | some c =>
          rw [hfound] at h
          obtain ⟨own, hown, h⟩ := bind_eq_ok.1 h
          obtain ⟨others, hothers, h⟩ := bind_eq_ok.1 h
          rw [← pure_eq_ok.1 h]
          refine List.forall_mem_append.2 ⟨fun p hp x hx => ?_, ih hcolumn.2 hothers⟩
          rw [columnsOf_filterClauses hown p hp x hx]
          exact hcolumn.1 c hfound

end Clauses

section Sight

variable {column : String} {v v' : View}

theorem seen_filterConditions (h : v.Twin column v') {filters : List FilterSpec}
    (hfilters : ∀ f ∈ filters, f.field ≠ column) {ps : List (Condition Parameter)}
    (hps : v.filterConditions filters = .ok ps) :
    ∀ p ∈ ps, ∀ x ∈ Direct.columnsOf p, x.SeenIn (v.sightBut column) :=
  forall_columnsOf_filterConditions
    (fun f hf _ hc => seen_of_column? h (hfilters f hf) hc) hps

/-- The searches look into the columns of shown fields that are not hidden, and of the fields that
are searched on their own. -/
theorem seen_searchConditions (h : v.Twin column v') {ordered : List String}
    {request : PagingRequest} {hidden : List String}
    (hshown : ∀ field ∈ ordered, field ∉ hidden → field ≠ column)
    (halone : column ∉ request.columnSearches.keys) :
    ∀ p ∈ v.searchConditions ordered request hidden, ∀ x ∈ Direct.columnsOf p,
      x.SeenIn (v.sightBut column) := by
  intro p hp x hx
  rcases List.mem_append.1 hp with hp | hp
  · cases hterm : request.searchTerm with
    | none => simp [hterm] at hp
    | some term =>
        rw [hterm] at hp
        dsimp only at hp
        split at hp
        · cases hp
        · obtain ⟨q, hq, hxq⟩ := List.mem_flatMap.1
            (mem_columnsOf_any? (List.mem_flatMap.2 ⟨p, hp, hx⟩))
          obtain ⟨c, hc, rfl⟩ := List.mem_map.1 hq
          obtain ⟨field, hfield, hget⟩ := List.mem_filterMap.1 hc
          obtain ⟨hmem, hhidden⟩ := List.mem_filter.1 hfield
          rw [List.mem_singleton.1 hxq]
          exact seen_of_column? h (hshown field hmem (by simpa using hhidden)) hget
  · obtain ⟨⟨field, term⟩, hmem, hget⟩ := List.mem_filterMap.1 hp
    obtain ⟨c, hc, rfl⟩ := Option.map_eq_some_iff.1 hget
    rw [List.mem_singleton.1 hx]
    refine seen_of_column? h (fun heq => halone ?_) hc
    exact heq ▸ List.mem_map_of_mem hmem

theorem seen_orderBy? (h : v.Twin column v') {field : String} (hfield : field ≠ column)
    {direction : Direction} {o : RowOrder} (ho : v.orderBy? field direction = some o) :
    ∀ x ∈ o.columns, x.SeenIn (v.sightBut column) := by
  obtain ⟨c, hc, rfl⟩ := Option.map_eq_some_iff.1 ho
  exact Direct.seen_by h.base.seesKey (seen_of_column? h hfield hc) _

theorem seen_order (h : v.Twin column v') {ordered : List String} {request : PagingRequest}
    {declared : Option OrderBy} {fixed : List String}
    (hdeclared : ∀ o ∈ declared, o.column ≠ column)
    (hrequested : ∀ i, request.orderColumnIndex = some i → ordered[i.toNat]? = some column →
      column ∈ fixed) :
    ∀ o ∈ v.order ordered request declared fixed, ∀ x ∈ o.columns,
      x.SeenIn (v.sightBut column) := by
  intro o ho
  unfold View.order at ho
  split at ho
  · rename_i o' hfound
    cases ho
    unfold View.requestedOrder? at hfound
    split at hfound
    · cases hfound
    · rename_i i hi
      split at hfound
      · cases hfound
      · split at hfound
        · rename_i field hfield
          split at hfound
          · cases hfound
          · rename_i hfixed
            refine seen_orderBy? h (fun heq => hfixed ?_) hfound
            rw [List.contains_iff_mem, heq]
            exact hrequested i hi (heq ▸ hfield)
        · cases hfound
  · split at ho
    · rename_i o' hfound
      cases ho
      obtain ⟨order, horder, hfound⟩ := Option.bind_eq_some_iff.1 hfound
      exact seen_orderBy? h (hdeclared order horder) hfound
    · unfold View.keyOrder? at ho
      split at ho
      · cases ho
      · rename_i name rest hkey
        obtain ⟨def_, hdef, rfl⟩ := Option.map_eq_some_iff.1 ho
        refine Direct.seen_by h.base.seesKey ?_ _
        show v.sightBut column none def_.name
        rw [name_of_column? hdef]
        exact h.base.seesKey name (hkey ▸ List.mem_cons_self)

/-- Queries with the same conditions on columns that are seen can be run alike. -/
theorem alike_prepare_of_twin (h : v.Twin column v') {conditions : List (Condition Parameter)}
    (hsees : ∀ p ∈ conditions, ∀ x ∈ Direct.columnsOf p, x.SeenIn (v.sightBut column)) :
    Alike (Query.AlikeOn (v.sightBut column)) (prepare (v.query conditions))
      (prepare (v'.query conditions)) := by
  unfold prepare
  refine (Alike.refl _).bind fun written written' hwritten _ heq => ?_
  subst heq
  refine Query.AlikeOn.alike_bind {
    base := h.base
    joins := ?_
    conditions := rfl
    seesConditions := seen_of_mapM_traverse hwritten hsees }
  show List.Forall₂ _ (v.joins.map (·.join)) (v'.joins.map (·.join))
  rw [List.forall₂_map_left_iff, List.forall₂_map_right_iff]
  exact h.joins.imp fun j j' hj => hj.join

end Sight

section Pages

variable {column : String} {v v' : View}

theorem shownColumns_eq (h : v.Twin column v') : v.shownColumns = v'.shownColumns := by
  have hjoins := h.joins
  unfold View.shownColumns
  rw [h.base.columns]
  generalize v'.base.columns.map (fun c => (c.name, columnOf none c)) = columns
  generalize v.joins = joins at hjoins
  generalize v'.joins = joins' at hjoins
  induction hjoins generalizing columns with
  | nil => rfl
  | cons hj _ ih =>
      rw [List.foldl_cons, List.foldl_cons, hj.displayField, hj.display]
      exact ih _

/-- The types of the columns read rows that are alike as rows that differ in the column. -/
theorem compatible_readRow (h : v.Twin column v') {x y : JoinedRow}
    (hxy : x.AlikeOn (v.sightBut column) y) :
    Compatible (Entries.AlikeOn (· ≠ column)) (v.readRow x) (v'.readRow y) := by
  have hsees : ∀ e ∈ v.shownColumns, e.1 ≠ column → e.2.ref.SeenIn (v.sightBut column) := by
    intro e he hcolumn
    rcases mem_shownColumns he with ⟨c, -, rfl⟩ | ⟨j, hj, rfl⟩
    · exact hcolumn
    · exact forall_of_forall₂ (fun _ _ hj => hj.seesDisplay) h.joins j hj
  unfold View.readRow
  rw [← shownColumns_eq h]
  have hcells := Compatible.mapM (R := fun e e' => e = e' ∧ e ∈ v.shownColumns)
    (S := fun e e' : String × Value => e.1 = e'.1 ∧ (e.1 ≠ column → e.2 = e'.2))
    (f := fun e => do return (e.1, ← e.2.type.read (x.cell e.2.ref)))
    (g := fun e => do return (e.1, ← e.2.type.read (y.cell e.2.ref)))
    (List.forall₂_same.2 fun e he => ⟨rfl, he⟩) (by
      rintro e _ ⟨rfl, he⟩ z w hz hw
      obtain ⟨cell, hcell, hz⟩ := bind_eq_ok.1 hz
      obtain ⟨cell', hcell', hw⟩ := bind_eq_ok.1 hw
      rw [← pure_eq_ok.1 hz, ← pure_eq_ok.1 hw]
      refine ⟨rfl, fun hcolumn => ?_⟩
      rw [cell_eq_of_alikeOn hxy (hsees e he hcolumn), hcell'] at hcell
      exact (Except.ok.inj hcell).symm)
  exact hcells.mono fun _ _ hall => .of_forall₂ hall

/-- Two pages with the same counts, whose rows differ in one column. -/
structure Fetched.AlikeBut (column : String) (f f' : Fetched) : Prop where
  total : f.total = f'.total
  filtered : f.filtered = f'.filtered
  rows : List.Forall₂ (Entries.AlikeOn (· ≠ column)) f.rows f'.rows

/-- Both views fetch pages with the same counts, whose rows differ in the column alone, if they
refer to no other columns than those that are seen. -/
theorem compatible_fetch (h : v.Twin column v') {f : Fetch}
    (hfilters : ∀ filter ∈ f.filters, filter.field ≠ column)
    (hshown : ∀ field ∈ f.ordered, field ∉ f.hidden → field ≠ column)
    (halone : column ∉ f.request.columnSearches.keys)
    (hdeclared : ∀ o ∈ f.orderBy, o.column ≠ column)
    (hrequested : ∀ i, f.request.orderColumnIndex = some i →
      f.ordered[i.toNat]? = some column → column ∈ f.fixed) :
    Compatible (Fetched.AlikeBut column) (v.fetch f) (v'.fetch f) := by
  have hsearch := seen_searchConditions h hshown halone
  have htotal : Alike (Query.AlikeOn (v.sightBut column)) (v.totalQuery f) (v'.totalQuery f) := by
    unfold View.totalQuery
    rw [← filterConditions_eq h]
    refine (Alike.refl _).bind fun ps _ hps _ heq => ?_
    subst heq
    exact alike_prepare_of_twin h (seen_filterConditions h hfilters hps)
  have hpage : Alike (Query.AlikeOn (v.sightBut column)) (v.pageQuery f) (v'.pageQuery f) := by
    unfold View.pageQuery
    rw [← filterConditions_eq h, ← searchConditions_eq h]
    refine (Alike.refl _).bind fun ps _ hps _ heq => ?_
    subst heq
    exact alike_prepare_of_twin h
      (List.forall_mem_append.2 ⟨seen_filterConditions h hfilters hps, hsearch⟩)
  rw [fetch_eq, fetch_eq, ← order_eq h]
  refine htotal.compatible.bind fun total total' _ _ hcount => ?_
  refine hpage.compatible.bind fun query query' _ _ hquery => ?_
  refine (compatible_of_eq (a := bindSegment _ _) rfl).bind fun _ _ _ _ _ => ?_
  have hrows := forall₂_segment f.request.start f.request.length
    (forall₂_ordered (seen_order h hdeclared hrequested) hquery.forall₂_rows)
  refine (Compatible.mapM hrows fun x y hxy => compatible_readRow h hxy).bind
    fun rows rows' _ _ hread => compatible_ok ?_
  exact ⟨hcount.count_eq, hquery.count_eq, hread⟩

end Pages

end Staged

end AdminGrid

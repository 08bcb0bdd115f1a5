import AdminGrid.Direct.Clause
import AdminGrid.Proofs.Entries
import AdminGrid.Proofs.Store.Database
import AdminGrid.Proofs.Store.RowOrder
import Mathlib.Data.Multiset.Bind

/-!
# The order of joins

What a join finds for a row depends on the row of the base table alone.  So a query finds the same
rows whatever the order of its joins, and through whichever index it looks the joined rows up.
-/

namespace AdminGrid.Store

/-- A row of the base table with nothing joined to it. -/
def SeenRow.bare (row : StoredRow) : SeenRow := ⟨row, fun _ => none⟩

/-- A seen row with what one more join found for it. -/
def SeenRow.extend (row : SeenRow) (name : String) (found : Option StoredRow) : SeenRow :=
  ⟨row.base, fun other => (row.related other).or (if name = other then some found else none)⟩

/-- What a join finds for a row of the base table: the rows that belong to it, or nothing. -/
def Join.found (j : Join) (base : StoredRow) : Multiset (Option StoredRow) :=
  match j.table.rows.filter (j.belongs base) with
  | [] => {none}
  | rows => (rows : Multiset StoredRow).map some

/-- Seen rows with all that a join finds for them. -/
def Join.extendAll (j : Join) (rows : Multiset SeenRow) : Multiset SeenRow :=
  rows.bind fun row => (j.found row.base).map (row.extend j.tableAlias)

theorem sortedBy_perm (columns : List String) (rows : List StoredRow) :
    (sortedBy columns rows).Perm rows := by
  unfold sortedBy
  split
  · exact List.Perm.refl rows
  · exact List.mergeSort_perm rows _

theorem seen_append (row : JoinedRow) (name : String) (found : Option StoredRow) :
    JoinedRow.seen { row with related := row.related ++ [(name, found)] } =
      row.seen.extend name found := by
  refine congrArg (SeenRow.mk row.base) (funext fun other => ?_)
  exact Entries.get?_append other row.related [(name, found)]

theorem map_seen_extend (j : Join) (columns : List String) (row : JoinedRow) :
    (((j.extend columns row).map JoinedRow.seen : List SeenRow) : Multiset SeenRow) =
      (j.found row.base).map (row.seen.extend j.tableAlias) := by
  have hperm := sortedBy_perm columns (j.table.rows.filter (j.belongs row.base))
  unfold Join.extend Join.found
  cases hrows : j.table.rows.filter (j.belongs row.base) with
  | nil =>
      rw [hrows] at hperm
      rw [hperm.eq_nil]
      exact congrArg (fun seen => ([seen] : Multiset SeenRow)) (seen_append row j.tableAlias none)
  | cons first rest =>
      rw [hrows] at hperm
      cases hsorted : sortedBy columns (first :: rest) with
      | nil => exact absurd (hsorted ▸ hperm) (by simp)
      | cons r rs =>
          rw [hsorted] at hperm
          show _ = (((first :: rest : List StoredRow) : Multiset StoredRow).map some).map _
          rw [← Multiset.coe_eq_coe.2 hperm]
          simp only [List.map_map, Multiset.map_coe, Function.comp_def, seen_append]

theorem extend_comm (row : SeenRow) {a b : String} (h : a ≠ b) (x y : Option StoredRow) :
    (row.extend a x).extend b y = (row.extend b y).extend a x := by
  refine congrArg (SeenRow.mk row.base) (funext fun other => ?_)
  show ((row.related other).or _).or _ = ((row.related other).or _).or _
  by_cases ha : a = other
  · have hb : b ≠ other := fun hb => h (ha.trans hb.symm)
    simp [ha, hb]
  · simp [ha]

theorem extendAll_comm {a b : Join} (h : a.tableAlias ≠ b.tableAlias) (rows : Multiset SeenRow) :
    b.extendAll (a.extendAll rows) = a.extendAll (b.extendAll rows) := by
  unfold Join.extendAll
  rw [Multiset.bind_assoc, Multiset.bind_assoc]
  refine Multiset.bind_congr fun row _ => ?_
  rw [Multiset.bind_map, Multiset.bind_map]
  refine (Multiset.bind_map_comm (a.found row.base) (b.found row.base)).trans ?_
  refine Multiset.bind_congr fun y _ => Multiset.map_congr rfl fun x _ => ?_
  exact extend_comm row h x y

theorem map_seen_flatMap (j : Join) (columns : List String) (rows : List JoinedRow) :
    (((rows.flatMap (j.extend columns)).map JoinedRow.seen : List SeenRow) : Multiset SeenRow) =
      j.extendAll ((rows.map JoinedRow.seen : List SeenRow) : Multiset SeenRow) := by
  induction rows with
  | nil => rfl
  | cons row rest ih =>
      rw [List.flatMap_cons, List.map_append, ← Multiset.coe_add, ih, map_seen_extend]
      exact (Multiset.cons_bind _ _ _).symm

/-- The rows that a query joins, as they are seen. -/
theorem map_seen_joinedRows {α : Type} (q : Query α) :
    ((q.joinedRows.map JoinedRow.seen : List SeenRow) : Multiset SeenRow) =
      q.joins.foldl (fun rows j => j.extendAll rows)
        ((q.base.rows.map SeenRow.bare : List SeenRow) : Multiset SeenRow) := by
  have hstart : (((sortedBy q.scanColumns q.base.rows).map fun r => JoinedRow.mk r []).map
      JoinedRow.seen).Perm (q.base.rows.map SeenRow.bare) := by
    rw [List.map_map]
    exact (sortedBy_perm q.scanColumns q.base.rows).map _
  rw [← Multiset.coe_eq_coe.2 hstart, Query.joinedRows]
  generalize ((sortedBy q.scanColumns q.base.rows).map fun r => JoinedRow.mk r []) = rows
  induction q.joins generalizing rows with
  | nil => rfl
  | cons j rest ih => rw [List.foldl_cons, ih, map_seen_flatMap, List.foldl_cons]

/-- Queries of one table with the same joins find the same rows. -/
theorem perm_map_seen_joinedRows {α β : Type} {q : Query α} {r : Query β}
    (hbase : q.base = r.base) (hjoins : q.joins.Perm r.joins)
    (hnames : (q.joins.map (·.tableAlias)).Nodup) :
    (q.joinedRows.map JoinedRow.seen).Perm (r.joinedRows.map JoinedRow.seen) := by
  rw [← Multiset.coe_eq_coe, map_seen_joinedRows, map_seen_joinedRows, hbase]
  -- two joins under one alias are the same join, as the aliases are distinct
  refine hjoins.foldl_eq' (fun a ha b hb rows => ?_) _
  by_cases hab : a.tableAlias = b.tableAlias
  · rw [List.inj_on_of_nodup_map hnames ha hb hab]
  · exact extendAll_comm hab rows

/-- A condition is as true of one row as of another one with the same cells in its columns. -/
theorem truth_eq_of_cells {x y : JoinedRow} {p : Condition Stored}
    (h : ∀ c ∈ Direct.columnsOf p, x.cell c = y.cell c) : p.truth x = p.truth y := by
  induction p with
  | compare op c v | like c pattern | likeLower c pattern | isNull c | notNull c | isBlank c
  | notBlank c =>
      have hcell := h c (List.mem_singleton_self c)
      simp only [Condition.truth, Condition.compareTruth, hcell]
  | among c vs =>
      have hcell := h c (List.mem_singleton_self c)
      have hcompare : Condition.compareTruth .equal c x = Condition.compareTruth .equal c y := by
        funext v
        rw [Condition.compareTruth, Condition.compareTruth, hcell]
      rw [Condition.truth, Condition.truth, hcompare]
  | never => rfl
  | both p q ihp ihq | either p q ihp ihq =>
      have hleft := ihp fun c hc => h c (List.mem_append_left _ hc)
      have hright := ihq fun c hc => h c (List.mem_append_right _ hc)
      rw [Condition.truth, Condition.truth, hleft, hright]

/-- A condition is as true of one row as of another one that is seen alike. -/
theorem truth_congr {a b : JoinedRow} (h : a.seen = b.seen) (c : Condition Stored) :
    c.truth a = c.truth b := truth_eq_of_cells fun x _ => congrFun (cell_congr h) x

theorem perm_map_filter {α β : Type} {f : α → β} {p : α → Bool}
    (hp : ∀ x y, f x = f y → p x = p y) {xs ys : List α} (h : (xs.map f).Perm (ys.map f)) :
    ((xs.filter p).map f).Perm ((ys.filter p).map f) := by
  classical
  -- the filter is one of the images alone, since it tells no two elements of one image apart
  have hshown : ∀ zs : List α,
      (zs.filter p).map f = (zs.map f).filter fun s => decide (∃ z, f z = s ∧ p z = true) := by
    intro zs
    rw [List.filter_map]
    refine congrArg (List.map f) (List.filter_congr fun z _ => ?_)
    rw [Bool.eq_iff_iff, Function.comp_apply, decide_eq_true_iff]
    exact ⟨fun hz => ⟨z, rfl, hz⟩, fun ⟨w, hw, hpw⟩ => hp w z hw ▸ hpw⟩
  rw [hshown, hshown]
  exact h.filter _

/-- Two queries of one table whose joins differ in their order alone, and whose conditions are
related one by one. -/
structure Query.Corresponds (R : Condition Stored → Condition Stored → Prop)
    (q r : Query Stored) : Prop where
  base : q.base = r.base
  joins : q.joins.Perm r.joins
  names : (q.joins.map (·.tableAlias)).Nodup
  conditions : List.Forall₂ R q.conditions r.conditions

/-- Queries with the same conditions have the same rows, whatever the order of their joins. -/
theorem Query.Corresponds.perm_map_seen_rows {q r : Query Stored} (h : q.Corresponds Eq r) :
    (q.rows.map JoinedRow.seen).Perm (r.rows.map JoinedRow.seen) := by
  have hconditions : q.conditions = r.conditions := by
    simpa only [List.forall₂_eq_eq_eq] using h.conditions
  have hholds : q.holds = r.holds := by
    funext row
    rw [Query.holds, Query.holds, hconditions]
  unfold Query.rows
  rw [hholds]
  refine perm_map_filter (fun a b hab => ?_) (perm_map_seen_joinedRows h.base h.joins h.names)
  unfold Query.holds
  simp only [truth_congr hab]

theorem Query.Corresponds.eq_of_length_le_one {q r : Query Stored} (h : q.Corresponds Eq r)
    (hlength : q.joins.length ≤ 1) : q = r := by
  obtain ⟨hbase, hjoins, -, hconditions⟩ := h
  obtain ⟨base, joins, conditions⟩ := q
  obtain ⟨base', joins', conditions'⟩ := r
  obtain rfl : base = base' := hbase
  obtain rfl : conditions = conditions' := by simpa only [List.forall₂_eq_eq_eq] using hconditions
  cases joins with
  | nil => rw [hjoins.nil_eq]
  | cons j rest =>
      obtain rfl : rest = [] := List.length_eq_zero_iff.1 (by simpa using hlength)
      rw [List.singleton_perm.1 hjoins]

theorem Query.Corresponds.count_eq {q r : Query Stored} (h : q.Corresponds Eq r) :
    q.count = r.count := by
  have hlength := h.perm_map_seen_rows.length_eq
  rwa [List.length_map, List.length_map] at hlength

/-- A query that demands no less of the same rows finds none where the other one finds none. -/
theorem rows_eq_nil_of_subset {q r : Query Stored} (hbase : q.base = r.base)
    (hjoins : q.joins = r.joins) (hnames : (q.joins.map (·.tableAlias)).Nodup)
    (hsub : r.conditions ⊆ q.conditions) (h : r.rows = []) : q.rows = [] := by
  refine List.filter_eq_nil_iff.2 fun row hrow hholds => ?_
  have hperm := perm_map_seen_joinedRows hbase (hjoins ▸ List.Perm.refl q.joins) hnames
  obtain ⟨row', hrow', hseen⟩ :=
    List.mem_map.1 (hperm.mem_iff.1 (List.mem_map_of_mem (f := JoinedRow.seen) hrow))
  refine List.filter_eq_nil_iff.1 h row' hrow' (List.all_eq_true.2 fun c hc => ?_)
  rw [truth_congr hseen]
  exact List.all_eq_true.1 hholds c (hsub hc)

/-- No comparison with null is true of a row. -/
theorem rows_eq_nil_of_null {q : Query Stored} {op : Comparison} {c : ColumnRef}
    (h : .compare op c .null ∈ q.conditions) : q.rows = [] := by
  refine List.filter_eq_nil_iff.2 fun row _ hholds => ?_
  have hnever : c.affinity.compare? (row.cell c) .null = none := by
    cases row.cell c <;> rfl
  have htrue := List.all_eq_true.1 hholds _ h
  simp [Condition.truth, Condition.compareTruth, hnever] at htrue

theorem Query.bind_eq (q : Query Value) : q.bind =
    if q.Runnable then
      (q.conditions.mapM (Condition.traverse Store.bind)).map fun bound => ⟨q.base, q.joins, bound⟩
    else .error .unavailable := by
  unfold Query.bind
  by_cases h : q.Runnable
  · rw [if_neg (not_not_intro h), if_pos h]
    cases q.conditions.mapM (Condition.traverse Store.bind) <;> rfl
  · rw [if_pos h, if_neg h]
    rfl

theorem runnable_of_perm {α β : Type} {q : Query α} {r : Query β} (hbase : q.base = r.base)
    (hjoins : q.joins.Perm r.joins) (h : q.Runnable) : r.Runnable where
  tables := hjoins.length_eq ▸ h.tables
  aliases := (hjoins.map _).nodup_iff.1 h.aliases
  base j hj := hbase ▸ h.base j (hjoins.mem_iff.2 hj)
  apart j hj k hk := h.apart j (hjoins.mem_iff.2 hj) k (hjoins.mem_iff.2 hk)

/-- Whether the tables of a query can be joined depends neither on their order nor on the
conditions. -/
theorem runnable_iff_of_perm {α β : Type} {q : Query α} {r : Query β} (hbase : q.base = r.base)
    (hjoins : q.joins.Perm r.joins) : q.Runnable ↔ r.Runnable :=
  ⟨runnable_of_perm hbase hjoins, runnable_of_perm hbase.symm hjoins.symm⟩

/-- Queries whose conditions are bound alike are bound alike, whatever the order of their joins. -/
theorem alike_bind {R : Condition Stored → Condition Stored → Prop} {q r : Query Value}
    (hbase : q.base = r.base) (hjoins : q.joins.Perm r.joins)
    (hconditions : Alike (List.Forall₂ R) (q.conditions.mapM (Condition.traverse Store.bind))
      (r.conditions.mapM (Condition.traverse Store.bind))) :
    Alike (Query.Corresponds R) q.bind r.bind := by
  rw [Query.bind_eq, Query.bind_eq]
  by_cases h : q.Runnable
  · rw [if_pos h, if_pos ((runnable_iff_of_perm hbase hjoins).1 h)]
    exact hconditions.map fun bound bound' hbound => ⟨hbase, hjoins, h.aliases, hbound⟩
  · rw [if_neg h, if_neg fun h' => h ((runnable_iff_of_perm hbase hjoins).2 h')]
    trivial

/-- What a join may find for a row of the base table: a row that belongs to it, or none where there
is no such row. -/
def Join.Finds (j : Join) (base : StoredRow) : Option StoredRow → Prop
  | none => ∀ r ∈ j.table.rows, j.belongs base r = false
  | some r => r ∈ j.table.rows ∧ j.belongs base r = true

theorem mem_extend {j : Join} {columns : List String} {row extended : JoinedRow}
    (h : extended ∈ j.extend columns row) : ∃ found, j.Finds row.base found ∧
      extended = { row with related := row.related ++ [(j.tableAlias, found)] } := by
  have hsorted := sortedBy_perm columns (j.table.rows.filter (j.belongs row.base))
  unfold Join.extend at h
  split at h
  · rename_i hnone
    rw [hnone] at hsorted
    refine ⟨none, fun r hr => ?_, List.mem_singleton.1 h⟩
    exact Bool.eq_false_of_not_eq_true (List.filter_eq_nil_iff.1 hsorted.symm.eq_nil r hr)
  · obtain ⟨r, hr, rfl⟩ := List.mem_map.1 h
    exact ⟨some r, List.mem_filter.1 (hsorted.mem_iff.1 hr), rfl⟩

/-- A row of the base table with what each join found for it, in the order of the joins. -/
structure JoinedRow.FoundBy (base : Table) (joins : List Join) (row : JoinedRow) : Prop where
  base : row.base ∈ base.rows
  related : List.Forall₂ (fun j e => e.1 = j.tableAlias ∧ j.Finds row.base e.2) joins row.related

theorem foundBy_joinedRows {α : Type} {q : Query α} {row : JoinedRow} (h : row ∈ q.joinedRows) :
    row.FoundBy q.base q.joins := by
  have hall : ∀ (rest done : List Join) (rows : List JoinedRow),
      (∀ row ∈ rows, row.FoundBy q.base done) →
      ∀ row ∈ rest.foldl (fun rows j => rows.flatMap (j.extend (q.lookupColumns j))) rows,
        row.FoundBy q.base (done ++ rest) := by
    intro rest
    induction rest with
    | nil =>
        intro done rows hrows
        rwa [List.append_nil]
    | cons j rest ih =>
        intro done rows hrows
        have hdone : done ++ j :: rest = done ++ [j] ++ rest := List.append_cons done j rest
        rw [hdone, List.foldl_cons]
        refine ih (done ++ [j]) _ fun extended hextended => ?_
        obtain ⟨row, hrow, hmem⟩ := List.mem_flatMap.1 hextended
        obtain ⟨found, hfinds, rfl⟩ := mem_extend hmem
        exact ⟨(hrows row hrow).base,
          List.rel_append (hrows row hrow).related (.cons ⟨rfl, hfinds⟩ .nil)⟩
  refine hall q.joins [] _ (fun start hstart => ?_) row h
  obtain ⟨r, hr, rfl⟩ := List.mem_map.1 hstart
  exact ⟨(sortedBy_perm q.scanColumns q.base.rows).mem_iff.1 hr, .nil⟩

/-- Whether the rows that make a joined row come from some tables. -/
structure ComesFrom (base : Table) (joins : List Join) (row : JoinedRow) : Prop where
  base : row.base ∈ base.rows
  related : ∀ e ∈ row.related, ∀ r ∈ e.2, ∃ j ∈ joins, r ∈ j.table.rows

theorem JoinedRow.FoundBy.comesFrom {base : Table} {joins : List Join} {row : JoinedRow}
    (h : row.FoundBy base joins) : ComesFrom base joins row := by
  refine ⟨h.base, ?_⟩
  obtain ⟨-, hrelated⟩ := h
  generalize row.related = related at hrelated
  induction hrelated with
  | nil => exact fun e he => nomatch he
  | @cons j e _ _ hhead _ ih =>
      intro e' he' r hr
      rcases List.mem_cons.1 he' with rfl | he'
      · obtain ⟨name, found⟩ := e'
        obtain rfl : found = some r := hr
        exact ⟨j, List.mem_cons_self, hhead.2.1⟩
      · obtain ⟨k, hk, hmem⟩ := ih e' he' r hr
        exact ⟨k, List.mem_cons_of_mem j hk, hmem⟩

/-- What a join found is looked up under its alias. -/
theorem JoinedRow.FoundBy.get?_related {base : Table} {joins : List Join} {row : JoinedRow}
    (h : row.FoundBy base joins) (hnames : (joins.map (·.tableAlias)).Nodup) {j : Join}
    (hj : j ∈ joins) :
    ∃ found, row.related.get? j.tableAlias = some found ∧ j.Finds row.base found := by
  obtain ⟨-, hrelated⟩ := h
  generalize row.related = related at hrelated
  induction hrelated with
  | nil => cases hj
  | @cons k e rest entries hhead _ ih =>
      obtain ⟨name, found⟩ := e
      obtain ⟨rfl, hfinds⟩ := hhead
      rw [List.map_cons, List.nodup_cons] at hnames
      rcases List.mem_cons.1 hj with rfl | hj
      · exact ⟨found, by rw [Entries.get?_cons, if_pos rfl], hfinds⟩
      · have hne : k.tableAlias ≠ j.tableAlias := fun heq =>
          hnames.1 (heq ▸ List.mem_map_of_mem hj)
        rw [Entries.get?_cons, if_neg hne]
        exact ih hnames.2 hj

theorem comesFrom_joinedRows {α : Type} {q : Query α} {row : JoinedRow}
    (h : row ∈ q.joinedRows) : ComesFrom q.base q.joins row := (foundBy_joinedRows h).comesFrom

theorem isNan_getD {row : StoredRow} (h : ∀ e ∈ row, Stored.isNan e.2 = false)
    (column : String) : Stored.isNan ((Entries.get? column row).getD .null) = false := by
  cases hget : Entries.get? column row with
  | none => rfl
  | some v => exact h _ (Entries.mem_of_get?_eq_some hget)

theorem isNan_cell {base : Table} {joins : List Join} {row : JoinedRow}
    (h : ComesFrom base joins row) (hbase : base.Kept) (hjoins : ∀ j ∈ joins, j.table.Kept)
    (c : ColumnRef) : (row.cell c).isNan = false := by
  unfold JoinedRow.cell
  cases c.alias? with
  | none => exact isNan_getD (hbase.cells row.base h.base) c.column
  | some joined =>
      cases hget : (row.related.get? joined).join with
      | none => simp only [hget, Stored.isNan]
      | some r =>
          simp only [hget]
          obtain ⟨j, hj, hr⟩ := h.related _ (Entries.mem_of_get?_eq_some
            (Option.join_eq_some_iff.1 hget)) r rfl
          exact isNan_getD ((hjoins j hj).cells r hr) c.column

end AdminGrid.Store

import AdminGrid.Proofs.Store.JoinOrder

/-!
# Joins that find one row at most

A join that finds at most one row for every row of the base table neither drops a row of it nor
shows one twice.  So a query of such joins, whose conditions are on columns of the base table alone,
has one row for each row of the base table of which the conditions are true.
-/

namespace AdminGrid.Store

/-- Whether a join finds at most one row for every row of a base table. -/
def Join.FindsOne (j : Join) (base : Table) : Prop :=
  ∀ row ∈ base.rows, (j.table.rows.filter (j.belongs row)).length ≤ 1

instance (j : Join) (base : Table) : Decidable (j.FindsOne base) :=
  inferInstanceAs (Decidable (∀ row ∈ base.rows, _))

/-- The row of a joined table that belongs to a row of the base table, if there is one. -/
def Join.match? (j : Join) (row : StoredRow) : Option StoredRow :=
  j.table.rows.find? (j.belongs row)

/-- The cell that a join shows beside a row of the base table: null where no row belongs to it. -/
def Join.shownCell (j : Join) (row : StoredRow) : Stored :=
  match j.match? row with
  | some related => (Entries.get? j.shown related).getD .null
  | none => .null

/-- A row of the base table with the row that each join finds for it. -/
def completed (joins : List Join) (row : StoredRow) : JoinedRow :=
  ⟨row, joins.map fun j => (j.tableAlias, j.match? row)⟩

/-- The rows of a table of which some conditions on its own columns are all true. -/
def passing (base : Table) (conditions : List (Condition Stored)) : List StoredRow :=
  base.rows.filter fun row => conditions.all fun p => p.truth ⟨row, []⟩ == some true

/-- The rows of a table of which some conditions are all true, once joins have completed them. -/
def passingWith (base : Table) (joins : List Join) (conditions : List (Condition Stored)) :
    List StoredRow :=
  base.rows.filter fun row => conditions.all fun p => p.truth (completed joins row) == some true

/-- Whether conditions are on columns of the base table alone. -/
def OnBase {α : Type} (conditions : List (Condition α)) : Prop :=
  ∀ p ∈ conditions, ∀ c ∈ Direct.columnsOf p, c.alias? = none

section Rows

variable {α : Type}

theorem extend_eq_of_length_le_one {j : Join} {row : JoinedRow}
    (h : (j.table.rows.filter (j.belongs row.base)).length ≤ 1) (columns : List String) :
    j.extend columns row =
      [{ row with related := row.related ++ [(j.tableAlias, j.match? row.base)] }] := by
  have hperm := sortedBy_perm columns (j.table.rows.filter (j.belongs row.base))
  unfold Join.extend Join.match?
  rw [← List.head?_filter]
  match hfound : j.table.rows.filter (j.belongs row.base), h with
  | [], _ =>
      rw [hfound] at hperm
      rw [hperm.eq_nil]
      rfl
  | [r], _ =>
      rw [hfound] at hperm
      rw [List.perm_singleton.1 hperm]
      rfl

/-- Joining tables one after the other completes each row by itself. -/
theorem foldl_extend_eq {joins : List Join} {rows : List StoredRow}
    (h : ∀ j ∈ joins, ∀ row ∈ rows, (j.table.rows.filter (j.belongs row)).length ≤ 1)
    (columns : Join → List String) (related : StoredRow → Entries (Option StoredRow)) :
    joins.foldl (fun found j => found.flatMap (j.extend (columns j)))
        (rows.map fun row => ⟨row, related row⟩) =
      rows.map fun row =>
        ⟨row, related row ++ joins.map fun j => (j.tableAlias, j.match? row)⟩ := by
  induction joins generalizing related with
  | nil => simp only [List.foldl_nil, List.map_nil, List.append_nil]
  | cons j rest ih =>
      rw [List.forall_mem_cons] at h
      have hstep : (rows.map fun row => JoinedRow.mk row (related row)).flatMap
          (j.extend (columns j)) =
            rows.map fun row => ⟨row, related row ++ [(j.tableAlias, j.match? row)]⟩ := by
        rw [List.flatMap_map, List.map_eq_flatMap]
        exact List.flatMap_congr fun row hrow => extend_eq_of_length_le_one (h.1 row hrow) _
      rw [List.foldl_cons, hstep, ih h.2]
      simp only [List.map_cons, List.append_assoc, List.singleton_append]

theorem joinedRows_eq {q : Query α} (h : ∀ j ∈ q.joins, j.FindsOne q.base) :
    q.joinedRows = (sortedBy q.scanColumns q.base.rows).map (completed q.joins) := by
  have hscanned := sortedBy_perm q.scanColumns q.base.rows
  exact foldl_extend_eq (fun j hj row hrow => h j hj row (hscanned.mem_iff.1 hrow))
    q.lookupColumns fun _ => []

variable {q : Query Stored}

/-- The rows of a query are those rows of its base table that pass its conditions when they are
completed, in some order. -/
theorem exists_rows_completed (hone : ∀ j ∈ q.joins, j.FindsOne q.base) :
    ∃ full : List StoredRow, full.Perm (passingWith q.base q.joins q.conditions) ∧
      q.rows = full.map (completed q.joins) := by
  refine ⟨(sortedBy q.scanColumns q.base.rows).filter fun row => q.holds (completed q.joins row),
    (sortedBy_perm q.scanColumns q.base.rows).filter _, ?_⟩
  rw [Query.rows, joinedRows_eq hone, List.filter_map]
  rfl

/-- What is joined to a row makes no difference to conditions on columns of the base table. -/
theorem passingWith_eq_passing {base : Table} {conditions : List (Condition Stored)}
    (h : OnBase conditions) (joins : List Join) :
    passingWith base joins conditions = passing base conditions := by
  refine List.filter_congr fun row _ => ?_
  have htruth : ∀ p ∈ conditions, p.truth (completed joins row) = p.truth ⟨row, []⟩ := fun p hp =>
    truth_eq_of_cells fun c hc => by
      unfold JoinedRow.cell
      rw [h p hp c hc]
      rfl
  rw [Bool.eq_iff_iff, List.all_eq_true, List.all_eq_true]
  exact forall₂_congr fun p hp => by rw [htruth p hp]

theorem count_eq_of_findsOne (hone : ∀ j ∈ q.joins, j.FindsOne q.base) :
    q.count = (passingWith q.base q.joins q.conditions).length := by
  obtain ⟨full, hfull, hrows⟩ := exists_rows_completed hone
  rw [Query.count, hrows, List.length_map, hfull.length_eq]

/-- An order puts the completed rows in some order. -/
theorem exists_ordered_map (joins : List Join) (order : Option RowOrder) (rows : List StoredRow) :
    ∃ full : List StoredRow, full.Perm rows ∧
      ordered order (rows.map (completed joins)) = full.map (completed joins) := by
  cases order with
  | none => exact ⟨rows, List.Perm.refl rows, rfl⟩
  | some o =>
      refine ⟨rows.mergeSort fun a b => o.before (completed joins a) (completed joins b),
        List.mergeSort_perm rows _, ?_⟩
      exact (List.map_mergeSort (s := o.before) fun _ _ _ _ => rfl).symm

theorem exists_ordered_rows_eq (hone : ∀ j ∈ q.joins, j.FindsOne q.base)
    (order : Option RowOrder) :
    ∃ full : List StoredRow, full.Perm (passingWith q.base q.joins q.conditions) ∧
      ordered order q.rows = full.map (completed q.joins) := by
  obtain ⟨found, hfound, hrows⟩ := exists_rows_completed hone
  obtain ⟨full, hfull, hordered⟩ := exists_ordered_map q.joins order found
  exact ⟨full, hfull.trans hfound, hrows ▸ hordered⟩

end Rows

/-- A completed row shows the cell that its join finds. -/
theorem cell_completed {joins : List Join} (hnames : (joins.map (·.tableAlias)).Nodup) {j : Join}
    (hj : j ∈ joins) (affinity : Affinity) (row : StoredRow) :
    (completed joins row).cell ⟨some j.tableAlias, j.shown, affinity⟩ = j.shownCell row := by
  have hkeys : (Entries.keys (joins.map fun j => (j.tableAlias, j.match? row))).Nodup := by
    rw [Entries.keys, List.map_map]
    exact hnames
  have hget : Entries.get? j.tableAlias (completed joins row).related = some (j.match? row) :=
    (Entries.get?_eq_some_iff_mem hkeys).2 (List.mem_map_of_mem (f := fun j : Join =>
      (j.tableAlias, j.match? row)) hj)
  show (match (Entries.get? j.tableAlias (completed joins row).related).join with
    | some related => (Entries.get? j.shown related).getD .null
    | none => .null) = j.shownCell row
  rw [hget]
  rfl

/-- A segment that starts at the first element and is long enough holds them all. -/
theorem segment_eq_self {α : Type} {start length : Int} {xs : List α} (hstart : start ≤ 0)
    (hlength : length < 0 ∨ (xs.length : Int) ≤ length) : segment start length xs = xs := by
  unfold segment
  rw [Int.toNat_of_nonpos hstart, List.drop_zero]
  split
  · rfl
  · exact List.take_of_length_le (by omega)

end AdminGrid.Store

import AdminGrid.Direct.Compile
import AdminGrid.Proofs.Parity.Queries

/-!
# Raw rows on both sides

One compilation takes raw rows as the database gives them, the other one lets the types of their
columns read them.  Whole numbers, floating numbers and texts are read as they are, so that both raw
rows have the same cell under every field.
-/

namespace AdminGrid

/-- Two rows with the same cell under every field, in whatever order the fields come. -/
def SameCells (a b : Entries Value) : Prop := ∀ field, a.get? field = b.get? field

open Store

theorem read_of_isBasic {t : ColumnType} (h : t.meaning.isBasic = true) (cell : Stored) :
    t.read cell = .ok (Direct.rawCell cell) := by
  obtain ⟨meaning, name, sizes⟩ := t
  cases meaning with
  | integer | floating | text => cases cell <;> rfl
  | _ => cases h

variable {p : Direct.Plan} {v : Staged.View}

/-- The columns of a page as fields name them, the columns of the table first. -/
theorem get?_shownColumns (v : Staged.View) (field : String) :
    v.shownColumns.get? field =
      ((v.base.column? field).map (Staged.columnOf none)).or
        (Entries.get? field (v.joins.map fun j => (j.displayField, j.display))) := by
  unfold Staged.View.shownColumns
  rw [Entries.get?_foldl_putNew, Entries.get?_eq_find? field (v.base.columns.map _), List.find?_map,
    Option.map_map]
  rfl

theorem mem_shownColumns {e : String × Staged.TypedColumn} (he : e ∈ v.shownColumns) :
    (∃ c ∈ v.base.columns, e = (c.name, Staged.columnOf none c)) ∨
      ∃ j ∈ v.joins, e = (j.displayField, j.display) := by
  have hfoldl : ∀ (joins : List Staged.LinkedJoin) (columns : Entries Staged.TypedColumn),
      e ∈ joins.foldl (fun columns j => columns.putNew j.displayField j.display) columns →
        e ∈ columns ∨ ∃ j ∈ joins, e = (j.displayField, j.display) := by
    intro joins
    induction joins with
    | nil => exact fun columns he => Or.inl he
    | cons j rest ih =>
        intro columns he
        rcases ih _ he with he | ⟨k, hk, hek⟩
        · change e ∈ Entries.putNew j.displayField j.display columns at he
          unfold Entries.putNew at he
          split at he
          · exact Or.inl he
          · rcases List.mem_append.1 he with he | he
            · exact Or.inl he
            · exact Or.inr ⟨j, List.mem_cons_self, List.mem_singleton.1 he⟩
        · exact Or.inr ⟨k, List.mem_cons_of_mem j hk, hek⟩
  refine (hfoldl _ _ he).imp_left fun hbase => ?_
  obtain ⟨c, hc, rfl⟩ := List.mem_map.1 hbase
  exact ⟨c, hc, rfl⟩

theorem readRow_of_isBasic (hbasic : ∀ e ∈ v.shownColumns, e.2.type.meaning.isBasic = true)
    (row : JoinedRow) :
    v.readRow row = .ok (v.shownColumns.map fun e => (e.1, Direct.rawCell (row.cell e.2.ref))) := by
  unfold Staged.View.readRow
  rw [mapM_eq_ok, List.forall₂_map_right_iff, List.forall₂_same]
  intro e he
  simp only [read_of_isBasic (hbasic e he)]
  rfl

/-- A row that is read shows under a field what the type of its column reads there. -/
theorem get?_of_readRow {row : JoinedRow} {raw : Entries Value} (h : v.readRow row = .ok raw)
    {field : String} {c : Staged.TypedColumn} (hc : v.shownColumns.get? field = some c) :
    ∃ value, raw.get? field = some value ∧ c.type.read (row.cell c.ref) = .ok value := by
  unfold Staged.View.readRow at h
  have hall := mapM_eq_ok.1 h
  clear h
  generalize v.shownColumns = columns at hall hc
  induction hall with
  | nil => cases hc
  | @cons e shown rest _ hhead _ ih =>
      obtain ⟨name, c'⟩ := e
      obtain ⟨value, hread, hpure⟩ := bind_eq_ok.1 hhead
      obtain rfl := pure_eq_ok.1 hpure
      rw [Entries.get?_cons] at hc ⊢
      by_cases hname : name = field
      · rw [if_pos hname] at hc ⊢
        obtain rfl := Option.some.inj hc
        exact ⟨value, rfl, hread⟩
      · rw [if_neg hname] at hc ⊢
        exact ih hc

/-- Every row of a table has a cell under each of its columns. -/
theorem isSome_get?_of_kept {t : Table} {row : StoredRow} (h : Entries.keys row = t.columnNames)
    (field : String) :
    (Entries.get? field row).isSome = (t.column? field).isSome := by
  have hkeys : (Entries.get? field row).isSome = true ↔ field ∈ t.columnNames := by
    rw [← h, Entries.mem_keys_iff_has]
    rfl
  have hcolumn : (t.column? field).isSome = true ↔ field ∈ t.columnNames := by
    unfold Table.column? Table.columnNames
    simp
  exact Bool.eq_iff_iff.2 (hkeys.trans hcolumn.symm)

theorem rawRow_eq (p : Direct.Plan) (x : JoinedRow) : Direct.rawRow p x =
    x.base.map (fun e => (e.1, Direct.rawCell e.2)) ++
      p.joins.map fun j => (j.displayField, Direct.rawCell (x.cell j.displayColumn)) := rfl

/-- A raw row has the cells of the base table under the names of its columns. -/
theorem get?_rawBase {t : Table} {x : JoinedRow} (hkeys : Entries.keys x.base = t.columnNames)
    (field : String) :
    Entries.get? field (x.base.map fun e => (e.1, Direct.rawCell e.2)) =
      (t.column? field).map fun c => Direct.rawCell (x.cell (Staged.columnOf none c).ref) := by
  have hsome := isSome_get?_of_kept hkeys field
  rw [Entries.get?_map]
  cases hget : Entries.get? field x.base with
  | none =>
      rw [hget] at hsome
      cases hcolumn : t.column? field with
      | none => rfl
      | some c => simp [hcolumn] at hsome
  | some cell =>
      rw [hget] at hsome
      cases hcolumn : t.column? field with
      | none => simp [hcolumn] at hsome
      | some c =>
          have hname : c.name = field := by simpa using List.find?_some hcolumn
          have hfound : x.cell (Staged.columnOf none c).ref = cell := by
            show (Entries.get? c.name x.base).getD .null = cell
            rw [hname, hget]
            rfl
          simp only [Option.map_some, hfound]

/-- A raw row has the shown columns of the joins under their display fields. -/
theorem get?_rawJoins (h : Mirrors p v) (x : JoinedRow) (field : String) :
    Entries.get? field (p.joins.map fun j =>
      (j.displayField, Direct.rawCell (x.cell j.displayColumn))) =
        (Entries.get? field (v.joins.map fun j => (j.displayField, j.display))).map
          fun c => Direct.rawCell (x.cell c.ref) := by
  have hnodup : (Entries.keys (p.joins.map fun j =>
      (j.displayField, Direct.rawCell (x.cell j.displayColumn)))).Nodup := by
    rw [Entries.keys, List.map_map]
    exact h.displays
  have hperm := h.joins.map fun parts => (parts.2.1, Direct.rawCell (x.cell parts.2.2))
  rw [List.map_map, List.map_map] at hperm
  rw [← Entries.get?_map, List.map_map]
  exact Entries.get?_perm hperm hnodup field

/-- Two joined rows that are seen alike are shown alike as raw rows. -/
theorem sameCells_rawRow (h : Mirrors p v) {x y : JoinedRow} (hseen : x.seen = y.seen)
    (hkeys : Entries.keys x.base = p.base.columnNames) :
    SameCells (Direct.rawRow p x)
      (v.shownColumns.map fun e => (e.1, Direct.rawCell (y.cell e.2.ref))) := by
  intro field
  have hcell := cell_congr hseen
  have hread := Entries.get?_map field (fun c : Staged.TypedColumn =>
    Direct.rawCell (y.cell c.ref)) v.shownColumns
  rw [rawRow_eq, Entries.get?_append, get?_rawBase hkeys, get?_rawJoins h, hcell, hread,
    get?_shownColumns, Option.map_or, Option.map_map, h.base]
  rfl

end AdminGrid

import AdminGrid.Proofs.Store.CellOrder
import Mathlib.Data.List.Find

/-!
# Tables of a database

What a database promises about its tables: rows have exactly the columns of their table, cells hold
whole numbers, floating numbers or texts, and foreign keys lead to tables that are there.  Then a
table that is there is there with all the tables that it leads to.
-/

namespace AdminGrid.Store

/-- A table as a database keeps it: its rows have exactly its columns, and no cell holds what is no
number. -/
structure Table.Kept (t : Table) : Prop where
  keys : ∀ row ∈ t.rows, Entries.keys row = t.columnNames
  cells : ∀ row ∈ t.rows, ∀ e ∈ row, Stored.isNan e.2 = false

/-- Whether cells of a meaning are whole numbers, floating numbers or texts. -/
def Meaning.isBasic : Meaning → Bool
  | .integer | .floating | .text => true
  | _ => false

/-- A database of whole numbers, floating numbers and texts, whose foreign keys lead to its own
tables. -/
structure Database.Basic (db : Database) : Prop where
  kept : ∀ t ∈ db.tables, t.Kept
  types : ∀ t ∈ db.tables, ∀ c ∈ t.columns, c.type.meaning.isBasic = true
  keys : ∀ t ∈ db.tables, ∀ k ∈ t.keys, (db.table? k.table).isSome = true

namespace Database

variable {db : Database}

theorem mem_of_table? {name : String} {t : Table} (h : db.table? name = some t) :
    t ∈ db.tables ∧ t.name = name :=
  ⟨List.mem_of_find?_eq_some h, by simpa using List.find?_some h⟩

theorem table?_of_linkedTable? {name : String} {t : Table}
    (h : db.linkedTable? name = some t) : db.table? name = some t :=
  (Option.ite_none_right_eq_some.1 h).2

theorem mem_of_linkedTable? {name : String} {t : Table} (h : db.linkedTable? name = some t) :
    t ∈ db.tables :=
  (mem_of_table? (table?_of_linkedTable? h)).1

/-- Foreign keys lead from tables that are there to tables that are there. -/
theorem isSome_of_mem_closure (hkeys : ∀ t ∈ db.tables, ∀ k ∈ t.keys,
    (db.table? k.table).isSome = true) (steps : Nat) {names : List String}
    (hnames : ∀ name ∈ names, (db.table? name).isSome = true) :
    ∀ name ∈ db.closure steps names, (db.table? name).isSome = true := by
  -- every step adds tables that the keys of tables found so far lead to
  induction steps generalizing names with
  | zero => exact hnames
  | succ steps ih =>
      refine ih fun name hname => ?_
      rcases List.mem_append.1 hname with hname | hname
      · exact hnames name hname
      · have hnext := (List.mem_filter.1 (List.mem_eraseDups.1 hname)).1
        obtain ⟨from_, hfrom, hmem⟩ := List.mem_flatMap.1 hnext
        cases htable : db.table? from_ with
        | none => simp [htable] at hmem
        | some t =>
            simp only [htable] at hmem
            obtain ⟨k, hk, rfl⟩ := List.mem_map.1 hmem
            exact hkeys t (mem_of_table? htable).1 k hk

theorem linkedTable?_eq_table? (hkeys : ∀ t ∈ db.tables, ∀ k ∈ t.keys,
    (db.table? k.table).isSome = true) (name : String) : db.linkedTable? name = db.table? name := by
  cases htable : db.table? name with
  | none =>
      unfold linkedTable?
      rw [htable]
      exact ite_self none
  | some t =>
      have hname : ∀ other ∈ [name], (db.table? other).isSome = true := by simp [htable]
      have hreached := isSome_of_mem_closure hkeys (db.tables.length + 1) hname
      unfold linkedTable?
      rw [if_pos (List.all_eq_true.2 hreached), htable]

theorem nodup_eraseDups (names : List String) : names.eraseDups.Nodup := by
  match names with
  | [] => exact List.nodup_nil
  | name :: rest =>
      have hshorter : (rest.filter fun other => !other == name).length < rest.length + 1 :=
        Nat.lt_succ_of_le (List.length_filter_le _ _)
      rw [List.eraseDups_cons, List.nodup_cons]
      exact ⟨by simp, nodup_eraseDups _⟩
termination_by names.length

/-- The names to which the tables of some names lead. -/
def next (db : Database) (names : List String) : List String :=
  names.flatMap fun name => match db.table? name with
    | some t => t.keys.map (·.table)
    | none => []

theorem closure_succ (db : Database) (steps : Nat) (names : List String) :
    db.closure (steps + 1) names =
      db.closure steps (names ++ newNames names (db.next names)) := rfl

theorem newNames_eq_nil_iff {known names : List String} :
    newNames known names = [] ↔ names ⊆ known := by
  rw [newNames, List.eq_nil_iff_forall_not_mem]
  simp only [List.mem_eraseDups, List.mem_filter, Bool.not_eq_true', List.contains_eq_mem,
    decide_eq_false_iff_not, not_and, not_not]
  rfl

theorem closure_subset {names known : List String} (hsub : names ⊆ known)
    (hclosed : db.next known ⊆ known) (steps : Nat) : db.closure steps names ⊆ known := by
  induction steps generalizing names with
  | zero => exact hsub
  | succ steps ih =>
      refine ih (List.append_subset.2 ⟨hsub, fun name hname => hclosed ?_⟩)
      have hnext := (List.mem_filter.1 (List.mem_eraseDups.1 hname)).1
      obtain ⟨from_, hfrom, hmem⟩ := List.mem_flatMap.1 hnext
      exact List.mem_flatMap.2 ⟨from_, hsub hfrom, hmem⟩

theorem subset_closure (db : Database) (steps : Nat) (names : List String) :
    names ⊆ db.closure steps names := by
  induction steps generalizing names with
  | zero => exact List.Subset.refl names
  | succ steps ih => exact List.Subset.trans (List.subset_append_left _ _) (ih _)

/-- Names of tables that are there lead no further once there are as many steps as tables. -/
theorem next_closure_subset {steps : Nat} {names : List String} (hnodup : names.Nodup)
    (hall : ∀ name ∈ db.closure steps names, (db.table? name).isSome = true)
    (hsteps : db.tables.length < steps + names.length) :
    db.next (db.closure steps names) ⊆ db.closure steps names := by
  induction steps generalizing names with
  | zero =>
      -- there cannot be more names of tables than tables
      have hsub : names ⊆ db.tables.map (·.name) := fun name hname => by
        obtain ⟨t, ht⟩ := Option.isSome_iff_exists.1 (hall name hname)
        obtain ⟨hmem, rfl⟩ := mem_of_table? ht
        exact List.mem_map_of_mem hmem
      have hlength := (List.subperm_of_subset hnodup hsub).length_le
      rw [List.length_map] at hlength
      omega
  | succ steps ih =>
      rw [closure_succ] at hall ⊢
      by_cases hnew : newNames names (db.next names) = []
      · have hclosed := newNames_eq_nil_iff.1 hnew
        rw [hnew, List.append_nil]
        have hsame : ∀ name, name ∈ db.closure steps names ↔ name ∈ names := fun name =>
          ⟨fun h => closure_subset (List.Subset.refl names) hclosed steps h,
            fun h => subset_closure db steps names h⟩
        intro name hname
        obtain ⟨from_, hfrom, hmem⟩ := List.mem_flatMap.1 hname
        exact (hsame name).2 (hclosed (List.mem_flatMap.2 ⟨from_, (hsame from_).1 hfrom, hmem⟩))
      · refine ih ?_ hall ?_
        · refine List.nodup_append.2 ⟨hnodup, nodup_eraseDups _, ?_⟩
          rintro name hname _ hother rfl
          have hmem := (List.mem_filter.1 (List.mem_eraseDups.1 hother)).2
          simp [hname] at hmem
        · have hlength := List.length_pos_iff.2 hnew
          rw [List.length_append]
          omega

/-- A table that is there with all the tables that it leads to leads to tables that are so too. -/
theorem linkedTable?_of_mem_keys {name : String} {t : Table} (h : db.linkedTable? name = some t)
    {key : ForeignKey} (hkey : key ∈ t.keys) :
    db.linkedTable? key.table = db.table? key.table := by
  obtain ⟨hall, htable⟩ := Option.ite_none_right_eq_some.1 h
  have hall' := List.all_eq_true.1 hall
  have hclosed := next_closure_subset (List.nodup_singleton name) hall'
    (Nat.lt_succ_of_lt (Nat.lt_succ_self db.tables.length))
  have hmem : key.table ∈ db.closure (db.tables.length + 1) [name] := by
    refine hclosed (List.mem_flatMap.2 ⟨name, subset_closure db _ _ List.mem_cons_self, ?_⟩)
    rw [htable]
    exact List.mem_map_of_mem hkey
  have hreached := closure_subset (List.cons_subset.2 ⟨hmem, List.nil_subset _⟩) hclosed
    (db.tables.length + 1)
  exact if_pos (List.all_eq_true.2 fun other hother => hall' other (hreached hother))

/-- A name that is written as its table is finds that table, whatever the size of its letters. -/
theorem namedTable?_eq_table? {name : String}
    (h : ∀ t ∈ db.tables, lowerAscii t.name = lowerAscii name → t.name = name) :
    db.namedTable? name = db.table? name := by
  unfold namedTable? table?
  refine List.find?_congr fun t ht => ?_
  rw [Bool.eq_iff_iff, beq_iff_eq, beq_iff_eq]
  exact ⟨h t ht, fun hname => by rw [hname]⟩

end Database

end AdminGrid.Store

import AdminGrid.Direct.Query
import AdminGrid.Proofs.Layout.ShownRelations
import AdminGrid.Proofs.Parity.Stages
import AdminGrid.Proofs.Store.Database

/-!
# Columns on both sides

The two compilations join the same tables, one in the order in which relations are shown, the other
in the order in which they are declared.  Display fields are distinct, so a field stands for the
same column on both sides.
-/

namespace AdminGrid

section Relations

variable {d : TableDescriptor} {catalog : List RelationSpec}

theorem nodup_keys_relationsOf (d : TableDescriptor) (catalog : List RelationSpec) :
    (Direct.relationsOf d catalog).keys.Nodup :=
  Entries.nodup_keys_merge (Entries.nodup_keys_ofList _) _

theorem get?_relationsOf (d : TableDescriptor) (catalog : List RelationSpec) (name : String) :
    (Direct.relationsOf d catalog).get? name =
      (Layout.specOf? d.relations name).or (Layout.specOf? catalog name) := by
  have hkeys : (Layout.byAlias d.relations).keys.Nodup := Entries.nodup_keys_ofList _
  rw [Direct.relationsOf, Entries.get?_merge, Entries.get?_reverse hkeys, Layout.get?_byAlias,
    Layout.get?_byAlias]

theorem aliasField_of_get?_relationsOf {name : String} {r : RelationSpec}
    (h : (Direct.relationsOf d catalog).get? name = some r) : r.aliasField = name := by
  rw [get?_relationsOf] at h
  rcases Option.or_eq_some_iff.1 h with h | ⟨-, h⟩
  · exact Layout.aliasField_of_specOf? h
  · exact Layout.aliasField_of_specOf? h

/-- The relations by alias are what their values give again. -/
theorem get?_byAlias_values (name : String) :
    (Layout.byAlias (Direct.relationsOf d catalog).values).get? name =
      (Direct.relationsOf d catalog).get? name := by
  have hpairs : (Direct.relationsOf d catalog).values.map (fun r => (r.aliasField, r)) =
      Direct.relationsOf d catalog := by
    rw [Entries.values, List.map_map]
    refine (List.map_congr_left fun e he => ?_).trans (List.map_id _)
    have hget := (Entries.get?_eq_some_iff_mem (nodup_keys_relationsOf d catalog)).2 he
    exact Prod.ext (aliasField_of_get?_relationsOf hget) rfl
  rw [Layout.byAlias, hpairs, Entries.get?_ofList,
    Entries.get?_reverse (nodup_keys_relationsOf d catalog)]

/-- The relations that are shown, in the order in which they are shown. -/
def shownSpecs (d : TableDescriptor) (catalog : List RelationSpec) (shown : Layout.RelationMeta) :
    List RelationSpec :=
  shown.relations.keys.filterMap (Direct.relationsOf d catalog).get?

/-- The relations that are shown, in the order in which they are declared. -/
def declaredSpecs (d : TableDescriptor) (catalog : List RelationSpec)
    (shown : Layout.RelationMeta) : List RelationSpec :=
  (Direct.relationsOf d catalog).values.filter fun r => shown.relations.has r.aliasField

variable {fields requested : List String} {labels : Entries String}

theorem get?_of_mem_shown {c : Layout.Columns}
    (h : Layout.Traced (Layout.byAlias (Direct.relationsOf d catalog).values) c)
    {e : String × Layout.ShownRelation} (he : e ∈ c.relations.relations) :
    ∃ r, (Direct.relationsOf d catalog).get? e.1 = some r ∧
      e.2.displayField = r.displayField := by
  obtain ⟨r, hget, hshown⟩ := h.specs e he
  exact ⟨r, get?_byAlias_values e.1 ▸ hget, congrArg (·.displayField) hshown⟩

theorem map_shownSpecs {c : Layout.Columns}
    (h : Layout.Traced (Layout.byAlias (Direct.relationsOf d catalog).values) c) :
    (shownSpecs d catalog c.relations).map (·.aliasField) = c.relations.relations.keys ∧
      (shownSpecs d catalog c.relations).map (·.displayField) =
        c.relations.relations.map (·.2.displayField) := by
  have hspecs := fun e he => get?_of_mem_shown h (e := e) he
  unfold shownSpecs
  generalize c.relations.relations = shown at hspecs
  induction shown with
  | nil => exact ⟨rfl, rfl⟩
  | cons e rest ih =>
      obtain ⟨r, hget, hdisplay⟩ := hspecs e List.mem_cons_self
      obtain ⟨haliases, hdisplays⟩ := ih fun e' he' => hspecs e' (List.mem_cons_of_mem e he')
      have hcons : (Entries.keys (e :: rest)).filterMap (Direct.relationsOf d catalog).get? =
          r :: (Entries.keys rest).filterMap (Direct.relationsOf d catalog).get? :=
        List.filterMap_cons_some hget
      rw [hcons, List.map_cons, List.map_cons, haliases, hdisplays, ← hdisplay,
        aliasField_of_get?_relationsOf hget]
      exact ⟨rfl, rfl⟩

theorem mem_shownSpecs_iff {c : Layout.Columns} {r : RelationSpec} :
    r ∈ shownSpecs d catalog c.relations ↔
      (Direct.relationsOf d catalog).get? r.aliasField = some r ∧
        r.aliasField ∈ c.relations.relations.keys := by
  unfold shownSpecs
  rw [List.mem_filterMap]
  constructor
  · rintro ⟨name, hname, hget⟩
    obtain rfl := aliasField_of_get?_relationsOf hget
    exact ⟨hget, hname⟩
  · rintro ⟨hget, hname⟩
    exact ⟨r.aliasField, hname, hget⟩

theorem mem_declaredSpecs_iff {c : Layout.Columns} {r : RelationSpec} :
    r ∈ declaredSpecs d catalog c.relations ↔
      (Direct.relationsOf d catalog).get? r.aliasField = some r ∧
        r.aliasField ∈ c.relations.relations.keys := by
  have hkeys := nodup_keys_relationsOf d catalog
  unfold declaredSpecs
  rw [List.mem_filter, Entries.mem_keys_iff_has, Entries.values, List.mem_map]
  refine and_congr_left fun _ => ?_
  constructor
  · rintro ⟨e, he, rfl⟩
    have hget := (Entries.get?_eq_some_iff_mem hkeys).2 he
    rwa [aliasField_of_get?_relationsOf hget]
  · exact fun hget => ⟨_, Entries.mem_of_get?_eq_some hget, rfl⟩

/-- The same relations are shown in both orders. -/
theorem perm_shownSpecs {c : Layout.Columns}
    (h : Layout.Traced (Layout.byAlias (Direct.relationsOf d catalog).values) c) :
    (shownSpecs d catalog c.relations).Perm (declaredSpecs d catalog c.relations) := by
  have hshown : (shownSpecs d catalog c.relations).Nodup := by
    refine List.Nodup.of_map (·.aliasField) ?_
    rw [(map_shownSpecs h).1]
    exact h.keys
  have hvalues : (Direct.relationsOf d catalog).values.Nodup := by
    refine List.Nodup.of_map (·.aliasField) ?_
    have hmap : (Direct.relationsOf d catalog).values.map (·.aliasField) =
        (Direct.relationsOf d catalog).keys := by
      rw [Entries.values, List.map_map]
      refine List.map_congr_left fun e he => ?_
      exact aliasField_of_get?_relationsOf
        ((Entries.get?_eq_some_iff_mem (nodup_keys_relationsOf d catalog)).2 he)
    rw [hmap]
    exact nodup_keys_relationsOf d catalog
  refine (List.perm_ext_iff_of_nodup hshown (hvalues.filter _)).2 fun r => ?_
  exact mem_shownSpecs_iff.trans mem_declaredSpecs_iff.symm

end Relations

section Joins

open Store

/-- What both sides know of a join: the join, the field that it serves and the column that it
shows. -/
def Direct.ShownJoin.parts (j : Direct.ShownJoin) : Join × String × ColumnRef :=
  (j.join, j.displayField, j.displayColumn)

/-- What both sides know of a join. -/
def Staged.LinkedJoin.parts (j : Staged.LinkedJoin) : Join × String × ColumnRef :=
  (j.join, j.displayField, j.display.ref)

/-- The join of a relation in a staged compilation. -/
def linkOf? (db : Database) (base : Table) (r : RelationSpec) : Option Staged.LinkedJoin := do
  let joined ← Layout.joinedColumns? base.name r.foreignKey
  Staged.link? base (← db.linkedTable? joined.table) r joined

/-- Whether the table that a relation joins is found alike on both sides. -/
def FoundAlike (db : Database) (base : String) (r : RelationSpec) : Prop :=
  ∀ joined ∈ Layout.joinedColumns? base r.foreignKey,
    db.namedTable? joined.table = db.linkedTable? joined.table

theorem parts_joinOf? {db : Database} {base : Table} {r : RelationSpec}
    (h : FoundAlike db base.name r) :
    (Direct.joinOf? db base r.aliasField r).map (·.parts) =
      (linkOf? db base r).map (·.parts) := by
  unfold Direct.joinOf? linkOf? Staged.link?
  cases hjoined : Layout.joinedColumns? base.name r.foreignKey with
  | none => rfl
  | some joined =>
      simp only [Option.bind_eq_bind, Option.bind_some, h joined hjoined]
      cases db.linkedTable? joined.table with
      | none => rfl
      | some related =>
          simp only [Option.bind_some]
          cases related.column? (Layout.cutName r.displayField).2 with
          | none =>
              cases related.column? joined.column with
              | none => rfl
              | some key => cases base.column? joined.baseColumn <;> rfl
          | some display =>
              cases related.column? joined.column with
              | none => rfl
              | some key => cases base.column? joined.baseColumn <;> rfl

/-- A join that a relation makes of a base table and another table of the database. -/
structure MadeOf (db : Database) (base : Table) (r : RelationSpec) (j : Direct.ShownJoin) :
    Prop where
  table : j.join.table ∈ db.tables
  tableAlias : j.join.tableAlias = Direct.joinAlias r.aliasField
  relatedColumn : j.join.relatedColumn ∈ j.join.table.columnNames
  baseColumn : j.join.baseColumn ∈ base.columnNames
  displayField : j.displayField = r.displayField
  displayColumn : ∃ c ∈ j.join.table.columns,
    j.displayColumn = (Staged.columnOf (some (Direct.joinAlias r.aliasField)) c).ref

theorem mem_columns_of_column? {t : Table} {name : String} {c : ColumnDef}
    (h : t.column? name = some c) : c ∈ t.columns := List.mem_of_find?_eq_some h

theorem madeOf_joinOf? {db : Database} {base : Table} {r : RelationSpec} {j : Direct.ShownJoin}
    (h : Direct.joinOf? db base r.aliasField r = some j) : MadeOf db base r j := by
  unfold Direct.joinOf? at h
  simp only [Option.bind_eq_bind, Option.bind_eq_some_iff] at h
  obtain ⟨joined, -, related, hrelated, display, hdisplay, key, hkey, baseColumn, hbase, hj⟩ := h
  cases hj
  exact {
    table := List.mem_of_find?_eq_some hrelated
    tableAlias := rfl
    relatedColumn := List.mem_map_of_mem (mem_columns_of_column? hkey)
    baseColumn := List.mem_map_of_mem (mem_columns_of_column? hbase)
    displayField := rfl
    displayColumn := ⟨display, mem_columns_of_column? hdisplay, rfl⟩ }

theorem display_of_linkOf? {db : Database} {base : Table} {r : RelationSpec}
    {j : Staged.LinkedJoin} (h : linkOf? db base r = some j) :
    ∃ t ∈ db.tables, ∃ c ∈ t.columns, j.display.type = c.type := by
  unfold linkOf? Staged.link? at h
  simp only [Option.bind_eq_bind, Option.bind_eq_some_iff] at h
  obtain ⟨joined, -, related, hrelated, key, -, baseColumn, -, display, hdisplay, hj⟩ := h
  cases hj
  exact ⟨related, Database.mem_of_linkedTable? hrelated, display,
    mem_columns_of_column? hdisplay, rfl⟩

theorem Direct.joinAlias_injective {a b : String}
    (h : Direct.joinAlias a = Direct.joinAlias b) : a = b := by
  simpa [Direct.joinAlias] using h

theorem names_of_linkOf? {db : Database} {base : Table} {r : RelationSpec}
    {j : Staged.LinkedJoin} (h : linkOf? db base r = some j) :
    j.join.tableAlias = Direct.joinAlias r.aliasField ∧ j.displayField = r.displayField := by
  unfold linkOf? Staged.link? at h
  simp only [Option.bind_eq_bind, Option.bind_eq_some_iff] at h
  obtain ⟨_, -, _, -, _, -, _, -, _, -, hj⟩ := h
  cases hj
  exact ⟨rfl, rfl⟩

theorem filterMap_sublist_map {α β γ : Type} {f : α → Option β} {g : β → γ} {k : α → γ}
    (h : ∀ x y, f x = some y → g y = k x) (xs : List α) :
    ((xs.filterMap f).map g).Sublist (xs.map k) := by
  induction xs with
  | nil => exact .slnil
  | cons x xs ih =>
      cases hfx : f x with
      | none =>
          rw [List.filterMap_cons_none hfx]
          exact ih.cons (k x)
      | some y =>
          rw [List.filterMap_cons_some hfx, List.map_cons, List.map_cons, h x y hfx]
          exact ih.cons_cons (k x)

/-- A plan and a view of one table with the same joins, whose display fields are distinct. -/
structure Mirrors (p : Direct.Plan) (v : Staged.View) : Prop where
  base : p.base = v.base
  joins : (p.joins.map (·.parts)).Perm (v.joins.map (·.parts))
  displays : (p.joins.map (·.displayField)).Nodup
  columns : p.columns = (Direct.baseColumns p.base).merge
    (p.joins.map fun j => (j.displayField, j.displayColumn))

theorem viewOf_joins (source : Source) (d : TableDescriptor) {base : Table}
    (hbase : base.name = d.name) (shown : Layout.RelationMeta) :
    (Staged.View.of source.database base (Staged.usedRelations d.name shown
      (Layout.mergeRelations d.relations source.catalog))).joins =
        (declaredSpecs d source.catalog shown).filterMap (linkOf? source.database base) := by
  unfold Staged.View.of Staged.usedRelations declaredSpecs
  rw [List.filterMap_filter, List.filterMap_filterMap]
  refine List.filterMap_congr fun r _ => ?_
  by_cases hhas : shown.relations.has r.aliasField = true
  · simp only [hhas, if_true, linkOf?, hbase]
    cases Layout.joinedColumns? d.name r.foreignKey <;> rfl
  · simp only [hhas, if_false, Bool.false_eq_true]
    rfl

theorem Staged.viewOf_eq (source : Source) {d : TableDescriptor} {base : Table}
    (hbase : base.name = d.name) (r : Layout.ResolvedColumns) :
    Staged.viewOf source d base r = ⟨base,
      (declaredSpecs d source.catalog r.relations).filterMap (linkOf? source.database base)⟩ := by
  rw [← viewOf_joins source d hbase]
  rfl

theorem joins_eq_filterMap (db : Database) (base : Table) (d : TableDescriptor)
    (catalog : List RelationSpec) (shown : Layout.RelationMeta) :
    (shown.relations.keys.filterMap fun name =>
      ((Direct.relationsOf d catalog).get? name).bind (Direct.joinOf? db base name)) =
        (shownSpecs d catalog shown).filterMap fun r => Direct.joinOf? db base r.aliasField r := by
  unfold shownSpecs
  rw [List.filterMap_filterMap]
  refine List.filterMap_congr fun name _ => ?_
  cases hget : (Direct.relationsOf d catalog).get? name with
  | none => rfl
  | some r =>
      rw [← aliasField_of_get?_relationsOf hget]
      rfl

/-- A plan and resolved columns of one table that show the same fields and relations. -/
structure Resolves (source : Source) (d : TableDescriptor) (base : Table) (p : Direct.Plan)
    (r : Layout.ResolvedColumns) : Prop where
  table : p.base = base
  fields : p.fields = r.ordered
  shown : p.shown = r.relations
  mirrors : Mirrors p (Staged.viewOf source d base r)
  specs : ∀ e ∈ p.shown.relations, ∃ spec ∈ (Direct.relationsOf d source.catalog).values,
    spec.aliasField = e.1 ∧ e.2.displayField = spec.displayField
  made : ∀ j ∈ p.joins, ∃ spec ∈ (Direct.relationsOf d source.catalog).values,
    MadeOf source.database base spec j

/-- The plan of a request and its resolved columns show the same, or both fail. -/
theorem alike_plan (source : Source) {d : TableDescriptor} {base : Table}
    (hbase : base.name = d.name)
    (hfound : ∀ r ∈ (Direct.relationsOf d source.catalog).values,
      FoundAlike source.database d.name r) :
    Alike (Resolves source d base) (Direct.plan source.database base d source.catalog)
      (Layout.resolveColumns (Staged.columnRequest base d
        (Layout.mergeRelations d.relations source.catalog))) := by
  have htraced := Layout.traced_applyRelations
    (Layout.schemaColumns (Layout.requestedColumns d) base.columnNames) d.labels
    (Layout.requestedColumns d) (Direct.relationsOf d source.catalog).values
  unfold Direct.plan Layout.resolveColumns
  -- relations are shown by the same function on both sides; only what is read off them differs
  refine (Alike.refl (Layout.placeFormulas _ d.formulas)).bind fun fields ordered _ _ hfields => ?_
  refine ⟨rfl, hfields, rfl, ⟨rfl, ?_, ?_, rfl⟩, ?_, ?_⟩
  · simp only [Staged.viewOf, viewOf_joins source d hbase, joins_eq_filterMap, List.map_filterMap]
    have hspecs : ∀ r ∈ shownSpecs d source.catalog _, _ := fun r hr => parts_joinOf?
      (hbase ▸ hfound r (List.mem_filter.1 ((perm_shownSpecs htraced).mem_iff.1 hr)).1)
    rw [List.filterMap_congr hspecs]
    exact (perm_shownSpecs htraced).filterMap _
  · simp only [joins_eq_filterMap]
    refine (filterMap_sublist_map (fun r j hj => (madeOf_joinOf? hj).displayField) _).nodup ?_
    rw [(map_shownSpecs htraced).2]
    exact htraced.displays
  · intro e he
    obtain ⟨r, hget, hdisplay⟩ := get?_of_mem_shown htraced he
    exact ⟨r, List.mem_map_of_mem (Entries.mem_of_get?_eq_some hget),
      aliasField_of_get?_relationsOf hget, hdisplay⟩
  · intro j hj
    simp only [joins_eq_filterMap] at hj
    obtain ⟨r, hr, hjoin⟩ := List.mem_filterMap.1 hj
    exact ⟨r, (List.mem_filter.1 ((perm_shownSpecs htraced).mem_iff.1 hr)).1,
      madeOf_joinOf? hjoin⟩

/-- A plan joins no more tables than there are relations. -/
theorem Resolves.length_joins_le {source : Source} {d : TableDescriptor} {base : Table}
    {p : Direct.Plan} {r : Layout.ResolvedColumns} (h : Resolves source d base p r)
    (hbase : base.name = d.name) :
    p.joins.length ≤ (Direct.relationsOf d source.catalog).values.length := by
  have hviewed := h.mirrors.joins.length_eq
  rw [List.length_map, List.length_map, Staged.viewOf, viewOf_joins source d hbase] at hviewed
  rw [hviewed]
  exact Nat.le_trans (List.length_filterMap_le _ _) (List.length_filter_le _ _)

/-- A field stands for the same column on both sides. -/
theorem Mirrors.get?_columns {p : Direct.Plan} {v : Staged.View} (h : Mirrors p v)
    (field : String) : p.columns.get? field = (v.column? field).map (·.ref) := by
  have hkeys : (Entries.keys (p.joins.map fun j => (j.displayField, j.displayColumn))).Nodup := by
    rw [Entries.keys, List.map_map]
    exact h.displays
  have hperm : (p.joins.map fun j => (j.displayField, j.displayColumn)).Perm
      (v.joins.map fun j => (j.displayField, j.display.ref)) := by
    have hparts := h.joins.map fun parts => (parts.2.1, parts.2.2)
    rwa [List.map_map, List.map_map] at hparts
  have hjoins : Entries.get? field (v.joins.map fun j => (j.displayField, j.display.ref)) =
      (v.joins.find? fun j => j.displayField == field).map fun j => j.display.ref := by
    rw [Entries.get?_eq_find?, List.find?_map, Option.map_map]
    rfl
  have hbase : (Direct.baseColumns p.base).get? field =
      (v.base.column? field).map fun c => (Staged.columnOf none c).ref := by
    rw [h.base, Direct.baseColumns, Entries.get?_eq_find?, List.find?_map, Option.map_map]
    rfl
  -- a display column takes the place of a column of the table on both sides
  rw [h.columns, Entries.get?_merge, Entries.get?_reverse hkeys, Entries.get?_perm hperm hkeys,
    hjoins, hbase, Staged.View.column?]
  cases v.joins.find? fun j => j.displayField == field with
  | none => simp only [Option.map_none, Option.none_or, Option.map_map]; rfl
  | some j => rfl

/-- The columns that fields stand for have the types of columns of the database. -/
theorem type_of_column? {source : Source} {d : TableDescriptor} {base : Table}
    (hbase : base.name = d.name) (hmem : base ∈ source.database.tables)
    {r : Layout.ResolvedColumns} {field : String} {c : Staged.TypedColumn}
    (h : (Staged.viewOf source d base r).column? field = some c) :
    ∃ t ∈ source.database.tables, ∃ column ∈ t.columns, c.type = column.type := by
  unfold Staged.View.column? at h
  split at h
  · rename_i j hfind
    cases h
    have hj := List.mem_of_find?_eq_some hfind
    rw [Staged.viewOf, viewOf_joins source d hbase] at hj
    obtain ⟨spec, -, hlink⟩ := List.mem_filterMap.1 hj
    exact display_of_linkOf? hlink
  · obtain ⟨column, hcolumn, rfl⟩ := Option.map_eq_some_iff.1 h
    exact ⟨base, hmem, column, mem_columns_of_column? hcolumn, rfl⟩

end Joins

end AdminGrid

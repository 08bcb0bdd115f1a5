import AdminGrid.Proofs.Cell.PlacedFormulas
import AdminGrid.Proofs.Layout.SharedDisplays
import AdminGrid.Proofs.Parity.Page
import AdminGrid.Proofs.Text.Trim
import AdminGrid.Store.Catalog
import Mathlib.Data.List.Permutation

/-!
# Relations that a database suggests

A foreign key of one column suggests a relation, whose alias is made of the local column and of the
text that the related table shows.  Keys to one table show the same text, so only the first alias
that is requested gets the column of it; the column of an alias is joined through its own key.
Names are put together with points, and are cut again at the last one, so this is said of columns
without points in their names.
-/

namespace AdminGrid.Layout

/-- A name of a table and a column is cut at the point between them. -/
theorem cutName_append {column : String} (h : '.' ∉ column.toList) (table : String) :
    cutName (table ++ "." ++ column) = (table, column) := by
  have htext : (table ++ "." ++ column).toList = table.toList ++ '.' :: column.toList := by
    rw [String.toList_append, String.toList_append]
    simp
  rw [cutName, Text.cutLast?, htext, Text.cutLastList?_append h]
  simp

end AdminGrid.Layout

namespace AdminGrid.Store

/-- What an alias keeps of a local column. -/
def stem (column : String) : String := (Text.dropTail? "_id" column).getD column

/-- Two columns have one stem exactly if they are the same, or one is the other without `_id`. -/
theorem stem_eq_iff {column other : String} : stem column = stem other ↔
    column = other ∨ (Text.dropTail? "_id" column = none ∧ other = column ++ "_id") ∨
      (Text.dropTail? "_id" other = none ∧ column = other ++ "_id") := by
  unfold stem
  cases hcolumn : Text.dropTail? "_id" column with
  | none =>
      cases hother : Text.dropTail? "_id" other with
      | none =>
          refine ⟨Or.inl, ?_⟩
          rintro (rfl | ⟨-, rfl⟩ | ⟨-, rfl⟩)
          · rfl
          · rw [Text.dropTail?_eq_some_iff.2 rfl] at hother
            cases hother
          · rw [Text.dropTail?_eq_some_iff.2 rfl] at hcolumn
            cases hcolumn
      | some rest =>
          obtain rfl := Text.dropTail?_eq_some_iff.1 hother
          constructor
          · rintro rfl
            exact Or.inr (Or.inl ⟨rfl, rfl⟩)
          · rintro (rfl | ⟨-, heq⟩ | ⟨h, -⟩)
            · rw [hother] at hcolumn
              cases hcolumn
            · exact (String.append_left_inj _).1 heq.symm
            · cases h
  | some rest =>
      obtain rfl := Text.dropTail?_eq_some_iff.1 hcolumn
      cases hother : Text.dropTail? "_id" other with
      | none =>
          constructor
          · rintro rfl
            exact Or.inr (Or.inr ⟨rfl, rfl⟩)
          · rintro (rfl | ⟨h, -⟩ | ⟨-, heq⟩)
            · rw [hother] at hcolumn
              cases hcolumn
            · cases h
            · exact (String.append_left_inj _).1 heq
      | some rest' =>
          obtain rfl := Text.dropTail?_eq_some_iff.1 hother
          constructor
          · rintro rfl
            exact Or.inl rfl
          · rintro (heq | ⟨h, -⟩ | ⟨h, -⟩)
            · exact (String.append_left_inj _).1 heq
            · cases h
            · cases h

/-- Columns that show texts of one name have one alias exactly if they have one stem. -/
theorem aliasFor_eq_iff {column other display : String} :
    aliasFor column display = aliasFor other display ↔ stem column = stem other := by
  unfold aliasFor stem
  rw [String.append_left_inj, String.append_left_inj]

/-- The local column of a foreign key, and the text of the related table that is shown for it. -/
def Database.shownFor? (db : Database) (key : ForeignKey) : Option (String × String) :=
  match key.columns, key.referred with
  | [column], [_] =>
      if key.table = "" then none
      else (((db.table? key.table).bind Table.displayColumn?).filter (· != "")).map (column, ·)
  | _, _ => none

/-- A relation that a foreign key suggests. -/
structure Suggests (db : Database) (base : String) (key : ForeignKey) (r : RelationSpec)
    (column referred display : String) : Prop where
  localColumn : key.columns = [column]
  referredColumn : key.referred = [referred]
  named : key.table ≠ ""
  shown : db.shownFor? key = some (column, display)
  aliasField : r.aliasField = aliasFor column display
  displayField : r.displayField = key.table ++ "." ++ display
  foreignKey : r.foreignKey = [(key.table ++ "." ++ referred, base ++ "." ++ column)]

namespace Database

variable {db : Database} {base name : String} {key : ForeignKey} {catalog : List RelationSpec}

theorem shownColumn?_nil {related : String} {display? : Option String}
    (h : db.shownColumn? [] related = .ok display?) :
    display? = (db.table? related).bind Table.displayColumn? := by
  obtain ⟨t, ht, h⟩ := bind_eq_ok.1 h
  rw [← pure_eq_ok.1 h]
  unfold table at ht
  cases htable : db.table? related with
  | none => rw [htable] at ht; cases ht
  | some t' =>
      rw [htable] at ht
      rw [← Except.ok.inj ht]
      rfl

theorem shownFor?_single (db : Database) (column related referred : String) :
    db.shownFor? ⟨[column], related, [referred]⟩ = if related = "" then none
      else (((db.table? related).bind Table.displayColumn?).filter (· != "")).map (column, ·) := rfl

theorem suggested?_single (db : Database) (base column related referred : String) :
    db.suggested? [] base ⟨[column], related, [referred]⟩ = if related = "" then .ok none
      else (db.shownColumn? [] related).map fun display? =>
        (display?.filter (· != "")).map fun display =>
          ⟨aliasFor column display, related ++ "." ++ display,
            some (humanize (aliasFor column display)),
            [(related ++ "." ++ referred, base ++ "." ++ column)]⟩ := by
  show (if related = "" then _ else _) = _
  split
  · rfl
  · rcases db.shownColumn? [] related with e | display?
    · rfl
    · refine bind_eq_ok.2 ⟨display?, rfl, ?_⟩
      dsimp only
      cases display?.filter (· != "") <;> rfl

theorem suggested?_eq_ok {found : Option RelationSpec}
    (h : db.suggested? [] base key = .ok found) :
    found.map (·.aliasField) = (db.shownFor? key).map (fun shown => aliasFor shown.1 shown.2) ∧
      ∀ r, found = some r → ∃ column referred display,
        Suggests db base key r column referred display := by
  obtain ⟨columns, related, referred⟩ := key
  match columns, referred, h with
  | [column], [referred], h =>
      rw [suggested?_single] at h
      by_cases hnamed : related = ""
      · rw [if_pos hnamed] at h
        obtain rfl := Except.ok.inj h
        exact ⟨by rw [shownFor?_single, if_pos hnamed]; rfl, fun r hr => nomatch hr⟩
      · rw [if_neg hnamed] at h
        obtain ⟨display?, hdisplay, rfl⟩ := map_eq_ok.1 h
        obtain rfl := shownColumn?_nil hdisplay
        cases hshown : ((db.table? related).bind Table.displayColumn?).filter (· != "") with
        | none =>
            exact ⟨by rw [shownFor?_single, if_neg hnamed, hshown]; rfl, fun r hr => nomatch hr⟩
        | some display =>
            have hfor : db.shownFor? ⟨[column], related, [referred]⟩ = some (column, display) := by
              rw [shownFor?_single, if_neg hnamed, hshown]
              rfl
            refine ⟨by rw [hfor]; rfl, fun r hr => ⟨column, referred, display, ?_⟩⟩
            obtain rfl := Option.some.inj hr
            exact ⟨rfl, rfl, hnamed, hfor, rfl, rfl, rfl⟩
  | [], _, h | _ :: _ :: _, _, h | [_], [], h | [_], _ :: _ :: _, h =>
      obtain rfl := Except.ok.inj h
      exact ⟨rfl, fun r hr => nomatch hr⟩

/-- The aliases of a catalog come from the keys of its table, from the last one to the first. -/
theorem map_aliasField_catalog (h : db.catalog [] name = .ok catalog) :
    ∃ t, db.table? name = some t ∧
      catalog.map (·.aliasField) =
        (t.keys.filterMap db.shownFor?).reverse.map (fun shown => aliasFor shown.1 shown.2) ∧
      ∀ r ∈ catalog, ∃ key ∈ t.keys, ∃ column referred display,
        Suggests db name key r column referred display := by
  obtain ⟨t, ht, h⟩ := bind_eq_ok.1 h
  obtain ⟨found, hfound, h⟩ := bind_eq_ok.1 h
  obtain rfl := pure_eq_ok.1 h
  have htable : db.table? name = some t := by
    unfold table at ht
    cases htable : db.table? name with
    | none => rw [htable] at ht; cases ht
    | some t' => rw [htable] at ht; exact congrArg some (Except.ok.inj ht)
  refine ⟨t, htable, ?_, fun r hr => ?_⟩
  · have haliases : found.map (fun found? => found?.map (·.aliasField)) =
        t.keys.reverse.map fun key =>
          (db.shownFor? key).map fun shown => aliasFor shown.1 shown.2 := by
      refine List.forall₂_eq_eq_eq ▸ ?_
      rw [List.forall₂_map_left_iff, List.forall₂_map_right_iff]
      exact (mapM_eq_ok.1 hfound).flip.imp fun _ _ hkey => (suggested?_eq_ok hkey).1
    have hcatalog := congrArg (List.filterMap id) haliases
    rw [List.filterMap_map, List.filterMap_map] at hcatalog
    rw [← List.filterMap_reverse, List.map_filterMap, List.map_filterMap]
    exact hcatalog
  · obtain ⟨key, hkey, hsuggested⟩ := exists_of_mem_of_mapM hfound (by simpa using hr)
    exact ⟨key, List.mem_reverse.1 hkey, (suggested?_eq_ok hsuggested).2 r rfl⟩

end Database

/-- A key that suggests a relation leads to a table with the column that is shown. -/
theorem Suggests.exists_related {db : Database} {base : String} {key : ForeignKey}
    {r : RelationSpec} {column referred display : String}
    (h : Suggests db base key r column referred display) :
    ∃ related shown, db.table? key.table = some related ∧ related.column? display = some shown := by
  obtain ⟨columns, name, referreds⟩ := key
  obtain rfl : columns = [column] := h.localColumn
  obtain rfl : referreds = [referred] := h.referredColumn
  have hshown := h.shown
  rw [Database.shownFor?_single, if_neg h.named] at hshown
  obtain ⟨display', hdisplay, heq⟩ := Option.map_eq_some_iff.1 hshown
  obtain rfl : display' = display := congrArg Prod.snd heq
  obtain ⟨related, hrelated, hcolumn⟩ :=
    Option.bind_eq_some_iff.1 (Option.filter_eq_some_iff.1 hdisplay).1
  obtain ⟨c, hc, rfl⟩ := Option.map_eq_some_iff.1 hcolumn
  have hsome : (related.column? c.name).isSome = true := by
    unfold Table.column?
    rw [List.find?_isSome]
    exact ⟨c, List.mem_of_find?_eq_some hc, by simp⟩
  obtain ⟨shown, hshown⟩ := Option.isSome_iff_exists.1 hsome
  exact ⟨related, shown, hrelated, hshown⟩

end AdminGrid.Store

namespace AdminGrid

open Store

/-- A table whose database suggests relations, with a descriptor that declares no relation under a
name that it requests, and requests no column of the table that is the alias of a suggested one. -/
structure AsksSuggested (source : Source) (d : TableDescriptor) (base : Table) : Prop where
  catalog : source.database.catalog [] d.name = .ok source.catalog
  undeclared : ∀ name ∈ Layout.requestedColumns d, Layout.specOf? d.relations name = none
  columns : ∀ name ∈ Layout.requestedColumns d, name ∈ base.columnNames →
    Layout.specOf? source.catalog name = none

section Requested

variable {source : Source} {d : TableDescriptor} {base : Table} {r : Layout.ResolvedColumns}
  {name : String} {spec : RelationSpec}

theorem specOf?_mergeRelations (declared : Layout.specOf? d.relations name = none)
    (catalog : List RelationSpec) :
    Layout.specOf? (Layout.mergeRelations d.relations catalog) name =
      Layout.specOf? catalog name := by
  rw [← Layout.get?_byAlias]
  refine (get?_byAlias_values name).trans ?_
  rw [get?_relationsOf, declared, Option.none_or]

/-- The table asks first for its row numbers, if it does. -/
theorem requestedColumns_of_mem_numberColumn
    (h : Layout.numberColumn ∈ Layout.requestedColumns d) :
    ∃ rest, Layout.requestedColumns d = Layout.numberColumn :: rest ∧
      Layout.numberColumn ∉ rest := by
  have hrest : Layout.numberColumn ∉ (d.fieldNames.filter fun f =>
      f != Layout.numberColumn && f != Layout.actionColumn) ++
        (if d.actions.enabled then [Layout.actionColumn] else []) := by
    intro hmem
    rcases List.mem_append.1 hmem with hmem | hmem
    · simp at hmem
    · split at hmem
      · exact absurd (List.mem_singleton.1 hmem) (by decide)
      · cases hmem
  unfold Layout.requestedColumns at h ⊢
  rw [List.append_assoc] at h ⊢
  by_cases hnumbering : d.numbering = true
  · rw [if_pos hnumbering]
    exact ⟨_, rfl, hrest⟩
  · rw [if_neg hnumbering] at h
    exact absurd h hrest

namespace AsksSuggested

variable (h : AsksSuggested source d base)

include h

theorem exists_suggests (hspec : Layout.specOf? source.catalog name = some spec) :
    ∃ t, source.database.table? d.name = some t ∧ ∃ key ∈ t.keys, ∃ column referred display,
      Suggests source.database d.name key spec column referred display := by
  obtain ⟨t, htable, -, hall⟩ := Database.map_aliasField_catalog h.catalog
  have hmem := List.mem_reverse.1 (List.mem_of_find?_eq_some hspec)
  obtain ⟨key, hkey, hsuggests⟩ := hall spec hmem
  exact ⟨t, htable, key, hkey, hsuggests⟩

theorem ne_actionColumn (hspec : (Layout.specOf? source.catalog name).isSome) :
    name ≠ Layout.actionColumn := by
  rintro rfl
  obtain ⟨spec, hspec⟩ := Option.isSome_iff_exists.1 hspec
  obtain ⟨t, -, key, -, column, referred, display, hsuggests⟩ := h.exists_suggests hspec
  have halias := hsuggests.aliasField.symm.trans (Layout.aliasField_of_specOf? hspec)
  have hmem : '_' ∈ (aliasFor column display).toList := by
    simp [aliasFor]
  rw [halias] at hmem
  exact absurd hmem (by decide)

theorem specOf?_eq (hname : name ∈ Layout.requestedColumns d) :
    Layout.specOf? (Layout.mergeRelations d.relations source.catalog) name =
      Layout.specOf? source.catalog name :=
  specOf?_mergeRelations (h.undeclared name hname) source.catalog

theorem aliasesAligned : Layout.AliasesAligned
    (Layout.mergeRelations d.relations source.catalog)
    (Layout.schemaColumns (Layout.requestedColumns d) base.columnNames)
    (Layout.requestedColumns d) := by
  intro name hspec hfield hname i
  rw [h.specOf?_eq hname] at hspec
  -- the only alias among the fields can be the column of row numbers, which is the first one
  have hnumber : name = Layout.numberColumn := by
    have hfield := (List.mem_filter.1 hfield).2
    simp only [Bool.or_eq_true, List.contains_iff_mem, beq_iff_eq] at hfield
    rcases hfield with (hcolumn | hnumber) | haction
    · rw [h.columns name hname hcolumn] at hspec
      cases hspec
    · exact hnumber
    · exact absurd haction (h.ne_actionColumn hspec)
  subst hnumber
  obtain ⟨rest, hrequested, hrest⟩ := requestedColumns_of_mem_numberColumn hname
  have hfields : Layout.schemaColumns (Layout.requestedColumns d) base.columnNames =
      Layout.numberColumn :: Layout.schemaColumns rest base.columnNames := by
    rw [hrequested]
    exact List.filter_cons_of_pos (by simp)
  have hrest' : Layout.numberColumn ∉ Layout.schemaColumns rest base.columnNames :=
    fun hmem => hrest (List.mem_filter.1 hmem).1
  rw [hfields, hrequested]
  cases i with
  | zero => simp
  | succ i =>
      rw [List.getElem?_cons_succ, List.getElem?_cons_succ]
      exact iff_of_false (fun hget => hrest' (List.mem_of_getElem? hget))
        fun hget => hrest (List.mem_of_getElem? hget)

/-- The fields that stay are the requested columns of the table, so far as display fields go. -/
theorem displayField_mem_keptFields_iff (hspec : Layout.specOf? source.catalog name = some spec) :
    spec.displayField ∈ Layout.keptFields (Layout.mergeRelations d.relations source.catalog)
        (Layout.schemaColumns (Layout.requestedColumns d) base.columnNames)
        (Layout.requestedColumns d) ↔
      spec.displayField ∈ Layout.requestedColumns d ∧ spec.displayField ∈ base.columnNames := by
  obtain ⟨t, -, key, -, column, referred, display, hsuggests⟩ := h.exists_suggests hspec
  have hpoint : '.' ∈ spec.displayField.toList := by
    rw [hsuggests.displayField]
    simp
  have hnumber : spec.displayField ≠ Layout.numberColumn := fun heq => by
    rw [heq] at hpoint
    exact absurd hpoint (by decide)
  have haction : spec.displayField ≠ Layout.actionColumn := fun heq => by
    rw [heq] at hpoint
    exact absurd hpoint (by decide)
  rw [Layout.mem_keptFields_iff, Layout.schemaColumns, List.mem_filter]
  simp only [Bool.or_eq_true, List.contains_iff_mem, beq_iff_eq, hnumber, haction, or_false]
  constructor
  · exact fun hmem => hmem.1
  · rintro ⟨hrequested, hcolumn⟩
    refine ⟨⟨hrequested, hcolumn⟩, fun halias => ?_⟩
    rw [h.specOf?_eq hrequested, h.columns _ hrequested hcolumn] at halias
    cases halias.1

theorem find?_displayOf? (display : String) :
    ((Layout.requestedColumns d).find? fun other => Layout.displayOf?
        (Layout.mergeRelations d.relations source.catalog) other == some display) =
      (Layout.requestedColumns d).find? fun other =>
        Layout.displayOf? source.catalog other == some display := by
  refine List.find?_congr fun other hother => ?_
  rw [Layout.displayOf?, h.specOf?_eq hother]
  rfl

/-- What a requested alias shows is among the fields. -/
theorem displayField_mem_fields (hname : name ∈ Layout.requestedColumns d)
    (hspec : Layout.specOf? source.catalog name = some spec) (labels : Entries String) :
    spec.displayField ∈ (Layout.applyRelations
      ⟨Layout.schemaColumns (Layout.requestedColumns d) base.columnNames, labels, .none⟩
      (Layout.requestedColumns d)
      (Layout.mergeRelations d.relations source.catalog)).fields := by
  have hmerged := (h.specOf?_eq hname).trans hspec
  obtain ⟨i, hget⟩ := List.getElem?_of_mem hname
  have hplace := (Layout.mem_aliasPlaces_iff_of_aligned h.aliasesAligned).2
    ⟨hget, Option.isSome_iff_exists.2 ⟨spec, hmerged⟩⟩
  obtain ⟨-, -, hhas⟩ := Layout.exists_mem_aliasPlaces_iff.1 ⟨i, hplace⟩
  exact Layout.mem_fields_applyRelations_iff.2 (Or.inr ⟨name, spec, hname, hmerged, rfl, hhas⟩)

end AsksSuggested

end Requested

section Joined

/-- A view whose pages show under a field a column of the rows that a join finds: each row of a page
is read from a row of the table with what the join found for that one. -/
def Staged.View.ShowsFound (v : Staged.View) (j : Join) (field : String) (shown : ColumnDef) :
    Prop :=
  ∀ f fetched, v.fetch f = .ok fetched → ∀ raw ∈ fetched.rows, ∃ row : JoinedRow,
    row.base ∈ v.base.rows ∧ v.readRow row = .ok raw ∧ ∃ found, j.Finds row.base found ∧
      ∃ value, raw.get? field = some value ∧
        shown.type.read ((found.bind (Entries.get? shown.name)).getD .null) = .ok value

theorem Staged.View.showsFound {v : Staged.View} {j : Staged.LinkedJoin} (hj : j ∈ v.joins)
    (haliases : (v.joins.map (·.join.tableAlias)).Nodup)
    (hdisplays : (v.joins.map (·.displayField)).Nodup)
    (hfree : v.base.column? j.displayField = none) {shown : ColumnDef}
    (hshown : j.display = Staged.columnOf (some j.join.tableAlias) shown) :
    v.ShowsFound j.join j.displayField shown := by
  intro f fetched hfetch raw hraw
  obtain ⟨q, -, hbase, hjoins, hrows⟩ := exists_query_of_fetch hfetch
  obtain ⟨row, hrow, hread⟩ := exists_of_mem_of_mapM hrows hraw
  have hmem := mem_of_mem_ordered (mem_of_mem_segment hrow)
  have hfound := foundBy_joinedRows (List.mem_filter.1 hmem).1
  rw [hbase, hjoins] at hfound
  obtain ⟨found, hget, hfinds⟩ := hfound.get?_related
    (by rw [List.map_map]; exact haliases) (List.mem_map_of_mem hj)
  have hcolumn : v.shownColumns.get? j.displayField = some j.display := by
    have hkeys : (Entries.keys (v.joins.map fun j => (j.displayField, j.display))).Nodup := by
      rw [Entries.keys, List.map_map]
      exact hdisplays
    rw [get?_shownColumns, hfree, Option.map_none, Option.none_or,
      Entries.get?_eq_some_iff_mem hkeys]
    exact List.mem_map_of_mem hj
  obtain ⟨value, hvalue, hcell⟩ := get?_of_readRow hread hcolumn
  have hsame : row.cell j.display.ref = (found.bind (Entries.get? shown.name)).getD .null := by
    rw [hshown]
    unfold JoinedRow.cell Staged.columnOf
    simp only [hget, Option.join_some]
    cases found <;> rfl
  rw [hsame, hshown] at hcell
  exact ⟨row, hfound.base, hread, found, hfinds, value, hvalue, hcell⟩

/-- Two columns that a key joins, and a column of the related table that is shown for it, whose
names have no points. -/
structure Store.Joins (base related : Table) (column referred display : String)
    (own other : ColumnDef) : Prop where
  ownColumn : base.column? column = some own
  otherColumn : related.column? referred = some other
  points : ∀ name ∈ [column, referred, display], '.' ∉ name.toList

/-- The join of two columns under the alias of a relation. -/
def joinOn (name : String) (own : ColumnDef) (related : Table) (other shown : ColumnDef) : Join :=
  ⟨Direct.joinAlias name, related, other.name, own.name, other.affinity.join own.affinity,
    shown.name⟩

theorem linkOf?_of_suggests {db : Database} {base : Table} {key : ForeignKey} {spec : RelationSpec}
    {column referred display : String} {own : ColumnDef} {related : Table}
    {other shown : ColumnDef} (h : Suggests db base.name key spec column referred display)
    (hrelated : db.linkedTable? key.table = some related)
    (hshown : related.column? display = some shown)
    (hjoins : Joins base related column referred display own other) :
    linkOf? db base spec = some ⟨joinOn spec.aliasField own related other shown,
      spec.displayField, Staged.columnOf (some (Direct.joinAlias spec.aliasField)) shown⟩ := by
  have hpoints := hjoins.points
  simp only [List.forall_mem_cons] at hpoints
  obtain ⟨hcolumn, hreferred, hdisplay, -⟩ := hpoints
  have hjoined : Layout.joinedColumns? base.name spec.foreignKey =
      some ⟨column, key.table, referred⟩ := by
    rw [h.foreignKey, Layout.joinedColumns?, List.findSome?_cons, Layout.joinedPair?,
      Layout.cutName_append hreferred, Layout.cutName_append hcolumn]
    simp [h.named]
  unfold linkOf? Staged.link?
  simp only [hjoined, Option.bind_eq_bind, Option.bind_some, hrelated, hjoins.otherColumn,
    hjoins.ownColumn, h.displayField, Layout.cutName_append hdisplay, hshown]
  rfl

/-- The tables of a view are joined under different aliases, and serve different fields. -/
theorem nodup_of_linkOf? {d : TableDescriptor} {catalog : List RelationSpec} {c : Layout.Columns}
    (h : Layout.Traced (Layout.byAlias (Direct.relationsOf d catalog).values) c) (db : Database)
    (base : Table) :
    (((declaredSpecs d catalog c.relations).filterMap (linkOf? db base)).map
        (·.join.tableAlias)).Nodup ∧
      (((declaredSpecs d catalog c.relations).filterMap (linkOf? db base)).map
        (·.displayField)).Nodup := by
  obtain ⟨haliases, hdisplays⟩ := map_shownSpecs h
  have hperm := perm_shownSpecs h
  constructor
  · refine (filterMap_sublist_map (fun _ _ hj => (names_of_linkOf? hj).1) _).nodup ?_
    have hkeys := h.keys.map (f := Direct.joinAlias) fun _ _ => Direct.joinAlias_injective
    rw [← haliases, List.map_map] at hkeys
    exact (hperm.map _).nodup_iff.1 hkeys
  · refine (filterMap_sublist_map (fun _ _ hj => (names_of_linkOf? hj).2) _).nodup ?_
    rw [← (hperm.map _).nodup_iff, hdisplays]
    exact h.displays

end Joined

section Shown

variable {source : Source} {d : TableDescriptor} {base : Table} {r : Layout.ResolvedColumns}

/-- What the columns of a page show of the aliases that are requested. -/
structure ShowsSuggested (source : Source) (d : TableDescriptor) (base : Table)
    (r : Layout.ResolvedColumns) : Prop where
  /-- What a requested alias shows is among the columns. -/
  listed : ∀ name ∈ Layout.requestedColumns d, ∀ spec,
    Layout.specOf? source.catalog name = some spec → spec.displayField ∈ r.ordered
  /-- The column is that of the alias exactly if it is no requested column of the table, and no
  other alias was requested for it before. -/
  shown : ∀ name ∈ Layout.requestedColumns d, ∀ spec,
    Layout.specOf? source.catalog name = some spec → (name ∈ r.relations.relations.keys ↔
      ¬ (spec.displayField ∈ Layout.requestedColumns d ∧ spec.displayField ∈ base.columnNames) ∧
        (Layout.requestedColumns d).find? (fun other =>
          Layout.displayOf? source.catalog other == some spec.displayField) = some name)
  /-- All aliases have columns exactly if they show different ones, none of which is a requested
  column of the table. -/
  all : (∀ name ∈ Layout.requestedColumns d, (Layout.specOf? source.catalog name).isSome →
      name ∈ r.relations.relations.keys) ↔
    ∀ name ∈ Layout.requestedColumns d, ∀ display,
      Layout.displayOf? source.catalog name = some display →
        ¬ (display ∈ Layout.requestedColumns d ∧ display ∈ base.columnNames) ∧
        ∀ other ∈ Layout.requestedColumns d,
          Layout.displayOf? source.catalog other = some display → other = name
  /-- The column of an alias is there once, and its cells come through the key of the alias. -/
  own : ∀ name ∈ r.relations.relations.keys, ∃ key ∈ base.keys, ∃ spec column referred display,
    Layout.specOf? source.catalog name = some spec ∧
    Suggests source.database d.name key spec column referred display ∧
    r.relations.relations.get? name = some ⟨spec.displayField, spec.foreignKey⟩ ∧
    r.ordered.count spec.displayField = 1 ∧
    ∃ related shown, source.database.table? key.table = some related ∧
      related.column? display = some shown ∧
      ∀ own other, Joins base related column referred display own other →
        spec.displayField ∉ base.columnNames →
          (Staged.viewOf source d base r).ShowsFound (joinOn name own related other shown)
            spec.displayField shown

/-- The columns of the table with those of the relations that are shown. -/
def relatedColumns (source : Source) (d : TableDescriptor) (base : Table) : Layout.Columns :=
  (Staged.columnRequest base d (Layout.mergeRelations d.relations source.catalog)).related

theorem traced_relatedColumns (source : Source) (d : TableDescriptor) (base : Table) :
    Layout.Traced (Layout.byAlias (Direct.relationsOf d source.catalog).values)
      (relatedColumns source d base) :=
  Layout.traced_applyRelations _ _ _ _

namespace AsksSuggested

variable (h : AsksSuggested source d base)

include h

/-- The relation of a shown alias is the suggested one. -/
theorem exists_spec_of_shown {name : String}
    (hname : name ∈ (relatedColumns source d base).relations.relations.keys) :
    name ∈ Layout.requestedColumns d ∧ ∃ spec, Layout.specOf? source.catalog name = some spec ∧
      (relatedColumns source d base).relations.relations.get? name =
        some ⟨spec.displayField, spec.foreignKey⟩ := by
  have htraced := traced_relatedColumns source d base
  have hrequested := Layout.mem_requested_of_shown hname
  obtain ⟨e, he, rfl⟩ := List.mem_map.1 hname
  obtain ⟨spec, hspec, hshown⟩ := htraced.specs e he
  rw [Layout.get?_byAlias] at hspec
  refine ⟨hrequested, spec, (h.specOf?_eq hrequested).symm.trans hspec, ?_⟩
  rw [Entries.get?_eq_some_iff_mem htraced.keys, ← hshown]
  exact he

theorem shown_iff {name : String} {spec : RelationSpec} (hname : name ∈ Layout.requestedColumns d)
    (hspec : Layout.specOf? source.catalog name = some spec) :
    name ∈ (relatedColumns source d base).relations.relations.keys ↔
      ¬ (spec.displayField ∈ Layout.requestedColumns d ∧ spec.displayField ∈ base.columnNames) ∧
        (Layout.requestedColumns d).find? (fun other =>
          Layout.displayOf? source.catalog other == some spec.displayField) = some name := by
  rw [← h.displayField_mem_keptFields_iff hspec, ← h.find?_displayOf?]
  exact Layout.shown_iff_of_aligned h.aliasesAligned ((h.specOf?_eq hname).trans hspec)

theorem all_shown_iff : (∀ name ∈ Layout.requestedColumns d,
      (Layout.specOf? source.catalog name).isSome →
        name ∈ (relatedColumns source d base).relations.relations.keys) ↔
    ∀ name ∈ Layout.requestedColumns d, ∀ display,
      Layout.displayOf? source.catalog name = some display →
        ¬ (display ∈ Layout.requestedColumns d ∧ display ∈ base.columnNames) ∧
        ∀ other ∈ Layout.requestedColumns d,
          Layout.displayOf? source.catalog other = some display → other = name := by
  have hdisplays : ∀ name ∈ Layout.requestedColumns d,
      Layout.displayOf? (Layout.mergeRelations d.relations source.catalog) name =
        Layout.displayOf? source.catalog name := fun name hname => by
    rw [Layout.displayOf?, h.specOf?_eq hname]
    rfl
  refine (forall₂_congr fun name hname => ?_).trans
    ((Layout.all_shown_iff_of_aligned h.aliasesAligned d.labels).trans
      (forall₂_congr fun name hname => forall_congr' fun display => ?_))
  · rw [← h.specOf?_eq hname]
    rfl
  · rw [hdisplays name hname]
    refine forall_congr' fun hdisplay => and_congr ?_ (forall₂_congr fun other hother => ?_)
    · obtain ⟨spec, hspec, rfl⟩ := Option.map_eq_some_iff.1 hdisplay
      exact not_congr (h.displayField_mem_keptFields_iff hspec)
    · rw [hdisplays other hother]

/-- The column of a shown alias is there once, among formulas or not. -/
theorem count_displayField {name : String} {spec : RelationSpec} {placed : List FormulaSpec}
    (hplaces : Layout.Places (Staged.columnRequest base d
      (Layout.mergeRelations d.relations source.catalog)) r placed)
    (hname : name ∈ Layout.requestedColumns d)
    (hspec : Layout.specOf? source.catalog name = some spec)
    (hshown : name ∈ (relatedColumns source d base).relations.relations.keys) :
    r.ordered.count spec.displayField = 1 := by
  have hfield : spec.displayField ∈ (relatedColumns source d base).fields :=
    h.displayField_mem_fields hname hspec d.labels
  have hkept := ((h.shown_iff hname hspec).1 hshown).1
  rw [← h.displayField_mem_keptFields_iff hspec] at hkept
  have hformulas : spec.displayField ∉ placed.map (·.name) := fun hmem => by
    obtain ⟨f, hf, heq⟩ := List.mem_map.1 hmem
    exact hplaces.fresh f hf (heq ▸ hfield)
  rw [hplaces.ordered.count_eq, List.count_append, List.count_eq_zero_of_not_mem hformulas]
  exact Nat.le_antisymm (Layout.count_fields_applyRelations_le_one hkept)
    (List.count_pos_iff.2 hfield)

end AsksSuggested

theorem showsSuggested (h : AsksSuggested source d base)
    (hr : Staged.resolvedOf source d = .ok (base, r)) : ShowsSuggested source d base r := by
  obtain ⟨hlinked, hresolved⟩ := Staged.resolvedOf_eq_ok.1 hr
  have hbase : source.database.table? d.name = some base :=
    Database.table?_of_linkedTable? hlinked
  have hname : base.name = d.name := (Database.mem_of_table? hbase).2
  have hrelations : r.relations = (relatedColumns source d base).relations :=
    Layout.relations_of_resolveColumns hresolved
  obtain ⟨accepted, -, hplaces⟩ := Layout.resolveColumns_places hresolved
  refine ⟨?_, ?_, ?_, ?_⟩
  · exact fun name hname spec hspec => hplaces.mem_ordered_iff.2
      (Or.inl (h.displayField_mem_fields hname hspec d.labels))
  · intro name hname spec hspec
    rw [hrelations]
    exact h.shown_iff hname hspec
  · rw [hrelations]
    exact h.all_shown_iff
  · intro name hkeys
    rw [hrelations] at hkeys ⊢
    obtain ⟨hrequested, spec, hspec, hshown⟩ := h.exists_spec_of_shown hkeys
    obtain ⟨t, htable, key, hkey, column, referred, display, hsuggests⟩ := h.exists_suggests hspec
    obtain rfl : base = t := Option.some.inj (hbase.symm.trans htable)
    obtain ⟨related, shown, hrelated, hcolumn⟩ := hsuggests.exists_related
    refine ⟨key, hkey, spec, column, referred, display, hspec, hsuggests, hshown, ?_, related,
      shown, hrelated, hcolumn, ?_⟩
    · exact h.count_displayField hplaces hrequested hspec hkeys
    · intro own other hjoins hfree
      obtain rfl : spec.aliasField = name := Layout.aliasField_of_specOf? hspec
      rw [← hname] at hsuggests
      have hlink := linkOf?_of_suggests hsuggests
        ((Database.linkedTable?_of_mem_keys hlinked hkey).trans hrelated) hcolumn hjoins
      obtain ⟨haliases, hdisplays⟩ :=
        nodup_of_linkOf? (traced_relatedColumns source d base) source.database base
      have hdeclared : spec ∈ declaredSpecs d source.catalog
          (relatedColumns source d base).relations := by
        refine mem_declaredSpecs_iff.2 ⟨?_, hkeys⟩
        rw [get?_relationsOf, h.undeclared _ hrequested, Option.none_or, hspec]
      have hjoined := List.mem_filterMap.2 ⟨spec, hdeclared, hlink⟩
      have hnone : base.column? spec.displayField = none := by
        rw [Table.column?, List.find?_eq_none]
        exact fun c hc heq => hfree (List.mem_map.2 ⟨c, hc, by simpa using heq⟩)
      rw [Staged.viewOf_eq source hname, hrelations]
      exact Staged.View.showsFound (v := ⟨base, _⟩) hjoined haliases hdisplays hnone rfl

theorem exists_resolved (hlinked : source.database.linkedTable? d.name = some base)
    (hformulas : d.formulas = []) : ∃ r, Staged.resolvedOf source d = .ok (base, r) := by
  have hresolved : ∃ r, Layout.resolveColumns (Staged.columnRequest base d
      (Layout.mergeRelations d.relations source.catalog)) = .ok r := by
    unfold Staged.columnRequest
    rw [hformulas]
    exact ⟨_, rfl⟩
  obtain ⟨r, hr⟩ := hresolved
  exact ⟨r, Staged.resolvedOf_eq_ok.2 ⟨hlinked, hr⟩⟩

/-- A catalog has different aliases exactly if no two keys of its table give one alias.  Of the
aliases that are requested, the first one with each column that is shown gets this column, with
cells that come through its own key, and the others get none. -/
theorem suggested_relations_shown :
    (∀ (db : Database) (name : String) (catalog : List RelationSpec),
      db.catalog [] name = .ok catalog → ∃ t, db.table? name = some t ∧
        ((catalog.map (·.aliasField)).Nodup ↔ (t.keys.filterMap db.shownFor?).Pairwise
          fun a b => aliasFor a.1 a.2 ≠ aliasFor b.1 b.2)) ∧
    (∀ column other display : String,
      aliasFor column display = aliasFor other display ↔ column = other ∨
        (Text.dropTail? "_id" column = none ∧ other = column ++ "_id") ∨
          (Text.dropTail? "_id" other = none ∧ column = other ++ "_id")) ∧
    ∀ (source : Source) (d : TableDescriptor) (base : Table), AsksSuggested source d base →
      source.database.linkedTable? d.name = some base →
        (d.formulas = [] → ∃ r, Staged.resolvedOf source d = .ok (base, r)) ∧
        ∀ r, Staged.resolvedOf source d = .ok (base, r) → ShowsSuggested source d base r := by
  refine ⟨?_, ?_, ?_⟩
  · intro db name catalog hcatalog
    obtain ⟨t, htable, haliases, -⟩ := Database.map_aliasField_catalog hcatalog
    refine ⟨t, htable, ?_⟩
    rw [haliases, List.map_reverse, List.nodup_reverse]
    exact List.pairwise_map
  · exact fun column other display => aliasFor_eq_iff.trans stem_eq_iff
  · exact fun source d base h hlinked =>
      ⟨exists_resolved hlinked, fun r hr => showsSuggested h hr⟩

end Shown

section Orders

/-- Two users with one text. -/
def usersWith (text : String) : Table where
  name := "users"
  columns := [⟨"id", "INTEGER", true, false, none⟩, ⟨text, "TEXT", false, false, none⟩]
  keys := []
  rows := [[("id", .int 1), (text, .text "Ann")], [("id", .int 2), (text, .text "Bob")]]

/-- One order, with columns that lead to users, and with texts of its own. -/
def ordersWith (columns texts : List String) : Table where
  name := "orders"
  columns := ⟨"id", "INTEGER", true, false, none⟩ ::
    (columns.map fun column => ⟨column, "INTEGER", false, false, none⟩) ++
      texts.map fun text => ⟨text, "TEXT", false, false, none⟩
  keys := columns.map fun column => ⟨[column], "users", ["id"]⟩
  rows := [("id", .int 7) :: (columns.zipIdx.map fun (column, i) => (column, .int (i + 1))) ++
    texts.map fun text => (text, .text "new")]

/-- The relation that the database suggests for a column that leads to users. -/
def userRelation (column text heading : String) : RelationSpec :=
  ⟨aliasFor column text, "users." ++ text, some heading, [("users.id", "orders." ++ column)]⟩

/-- A database of orders and users with its catalog of orders. -/
def sourceOf (orders users : Table) (catalog : List RelationSpec) : Source :=
  ⟨⟨[orders, users]⟩, .none, catalog⟩

/-- Orders with a buyer and a seller. -/
def ordersKept : Source :=
  sourceOf (ordersWith ["buyer_id", "seller_id"] []) (usersWith "name")
    [userRelation "seller_id" "name" "Seller Name", userRelation "buyer_id" "name" "Buyer Name"]

/-- A descriptor of orders that asks for some fields, and declares some relations. -/
def ordersAsking (fields : List String) (relations : List RelationSpec) : TableDescriptor where
  name := "orders"
  columns := fields.map fun field => ⟨field, some field, false, false, true, true, false⟩
  relations := relations
  formulas := []
  actions := ⟨false, [], [], []⟩
  filters := []
  paging := ⟨10, 100⟩
  formatRules := []
  clickable := false
  numbering := false
  urlTargetField := "id"
  softDeleteField := none
  mergedColumns := []
  fixedColumns := []
  orderBy := none

/-- Columns of orders in which one relation is shown. -/
def showing (fields : List String) (name display heading column : String) :
    Layout.ResolvedColumns where
  ordered := ["id", display]
  labels := (fields.map fun field => (field, field)) ++ [(display, heading)]
  relations := ⟨[(name, ⟨display, [("users.id", column)]⟩)], [("users.id", column)]⟩
  formulas := []

/-- Buyers and sellers have different aliases, and a buyer is shown by the name of the user that the
order leads to. -/
theorem suggested_relations_shown_buyer :
    (ordersKept.catalog.map (·.aliasField)).Nodup ∧
    AsksSuggested ordersKept (ordersAsking ["id", "buyer_name"] [])
      (ordersWith ["buyer_id", "seller_id"] []) ∧
    Staged.resolvedOf ordersKept (ordersAsking ["id", "buyer_name"] []) =
      .ok (ordersWith ["buyer_id", "seller_id"] [], showing ["id", "buyer_name"] "buyer_name"
        "users.name" "Buyer Name" "orders.buyer_id") ∧
    (Staged.viewOf ordersKept (ordersAsking ["id", "buyer_name"] [])
        (ordersWith ["buyer_id", "seller_id"] []) (showing ["id", "buyer_name"] "buyer_name"
          "users.name" "Buyer Name" "orders.buyer_id")).ShowsFound
      ⟨"rel_buyer_name", usersWith "name", "id", "buyer_id", .integer, "name"⟩ "users.name"
      ⟨"name", "TEXT", false, false, none⟩ := by
  have hasks : AsksSuggested ordersKept (ordersAsking ["id", "buyer_name"] [])
      (ordersWith ["buyer_id", "seller_id"] []) := ⟨by rfl, by decide, by decide⟩
  have hresolved : Staged.resolvedOf ordersKept (ordersAsking ["id", "buyer_name"] []) =
      .ok (ordersWith ["buyer_id", "seller_id"] [], showing ["id", "buyer_name"] "buyer_name"
        "users.name" "Buyer Name" "orders.buyer_id") := by
    cbv
  have haliases : (ordersKept.catalog.map (·.aliasField)).Nodup := by
    obtain ⟨t, htable, hnodup⟩ := suggested_relations_shown.1 _ _ _ hasks.catalog
    obtain rfl := Option.some.inj htable
    exact hnodup.2 (by decide)
  have hshows := (suggested_relations_shown.2.2 _ _ _ hasks (by rfl)).2 _ hresolved
  obtain ⟨key, hkey, spec, column, referred, display, hspec, hsuggests, -, -, related, shown,
      hrelated, hshown, hfound⟩ := hshows.own "buyer_name" (by decide)
  refine ⟨haliases, hasks, hresolved, ?_⟩
  obtain rfl : userRelation "buyer_id" "name" "Buyer Name" = spec := Option.some.inj hspec
  have hkeys : key = ⟨["buyer_id"], "users", ["id"]⟩ ∨ key = ⟨["seller_id"], "users", ["id"]⟩ := by
    simpa [ordersWith] using hkey
  rcases hkeys with rfl | rfl
  · obtain rfl : "buyer_id" = column := by simpa using hsuggests.localColumn
    obtain rfl : "id" = referred := by simpa using hsuggests.referredColumn
    obtain rfl : "name" = display := congrArg Prod.snd (Option.some.inj hsuggests.shown)
    obtain rfl : usersWith "name" = related := Option.some.inj hrelated
    obtain rfl : ⟨"name", "TEXT", false, false, none⟩ = shown := Option.some.inj hshown
    exact hfound ⟨"buyer_id", "INTEGER", false, false, none⟩
      ⟨"id", "INTEGER", true, false, none⟩ ⟨by rfl, by rfl, by decide⟩ (by decide)
  · obtain rfl : "seller_id" = column := by simpa using hsuggests.localColumn
    obtain rfl : "name" = display := congrArg Prod.snd (Option.some.inj hsuggests.shown)
    exact absurd hsuggests.aliasField (by decide)

/-- Users whose name has a point in it, and the orders of buyers among them. -/
def dottedKept : Source :=
  sourceOf (ordersWith ["buyer_id"] []) (usersWith "full.name")
    [userRelation "buyer_id" "full.name" "Name"]

/-- Orders of buyers with a text of their own that is named as the one that is shown. -/
def shadowedKept : Source :=
  sourceOf (ordersWith ["buyer_id"] ["users.name"]) (usersWith "name")
    [userRelation "buyer_id" "name" "Buyer Name"]

/-- Not every suggested relation is shown in a column of its own through its own key: a seller gets
no column beside the buyer, two columns make one alias, no table is joined where the text that is
shown has a point in its name, a text of the orders goes before one of the users, and a declared
relation before a suggested one. -/
theorem not_all_suggested_shown :
    (ordersKept.database.catalog [] "orders" = .ok ordersKept.catalog ∧
      Staged.resolvedOf ordersKept (ordersAsking ["id", "buyer_name", "seller_name"] []) =
        .ok (ordersWith ["buyer_id", "seller_id"] [],
          showing ["id", "buyer_name", "seller_name"] "buyer_name" "users.name" "Buyer Name"
            "orders.buyer_id")) ∧
    (Database.catalog ⟨[ordersWith ["user_id", "user"] [], usersWith "name"]⟩ [] "orders" =
        .ok [userRelation "user" "name" "User Name", userRelation "user_id" "name" "User Name"] ∧
      aliasFor "user" "name" = aliasFor "user_id" "name") ∧
    (dottedKept.database.catalog [] "orders" = .ok dottedKept.catalog ∧
      ∃ r, Staged.resolvedOf dottedKept (ordersAsking ["id", "buyer_full.name"] []) =
          .ok (ordersWith ["buyer_id"] [], r) ∧
        r = showing ["id", "buyer_full.name"] "buyer_full.name" "users.full.name"
          "Name" "orders.buyer_id" ∧
        (Staged.viewOf dottedKept (ordersAsking ["id", "buyer_full.name"] [])
          (ordersWith ["buyer_id"] []) r).joins = []) ∧
    (shadowedKept.database.catalog [] "orders" = .ok shadowedKept.catalog ∧
      ∃ r, Staged.resolvedOf shadowedKept (ordersAsking ["id", "buyer_name"] []) =
          .ok (ordersWith ["buyer_id"] ["users.name"], r) ∧
        r = showing ["id", "buyer_name"] "buyer_name" "users.name" "Buyer Name"
          "orders.buyer_id" ∧
        (Staged.viewOf shadowedKept (ordersAsking ["id", "buyer_name"] [])
          (ordersWith ["buyer_id"] ["users.name"]) r).shownColumns.get? "users.name" =
            some (Staged.columnOf none ⟨"users.name", "TEXT", false, false, none⟩)) ∧
    Staged.resolvedOf ordersKept (ordersAsking ["id", "buyer_name"]
        [⟨"buyer_name", "users.name", some "Buyer", [("users.id", "orders.seller_id")]⟩]) =
      .ok (ordersWith ["buyer_id", "seller_id"] [], showing ["id", "buyer_name"] "buyer_name"
        "users.name" "Buyer" "orders.seller_id") := by
  refine ⟨⟨by rfl, by cbv⟩, ⟨by rfl, by rfl⟩, ⟨by rfl, _, ?_, rfl, by rfl⟩,
    ⟨by rfl, _, ?_, rfl, by rfl⟩, ?_⟩ <;> cbv

end Orders

end AdminGrid

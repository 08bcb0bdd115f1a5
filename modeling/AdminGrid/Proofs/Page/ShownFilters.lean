import AdminGrid.Proofs.Page.RelationColumns
import AdminGrid.Proofs.Page.Search

/-!
# Filters and what is shown

A filter names a field.  In both compilations the field stands for what a shown relation displays
under this name, or else for a column of the base table; a filter on any other field is passed over.
So what is shown beside does not matter to a filter on a column that no relation takes the name of,
nor to one on a relation that stays shown: the same rows of the base table pass, and each of them
satisfies every filter.  But a filter on what a relation displays is lost where that relation is not
shown.
-/

namespace AdminGrid

open Store

/-! ## What fields stand for -/

/-- How a compilation reads fields, by columns of some kind: the join of a relation with the column
that it displays, the columns of the base table, and the rows that pass a filter on a column. -/
structure FieldReading (κ : Type) where
  ref : κ → ColumnRef
  link? : RelationSpec → Option (Join × κ)
  own? : String → Option κ
  Passes : κ → FilterSpec → JoinedRow → Prop

/-- Whether each relation can be joined, and finds at most one row for each row of the base
table. -/
def FieldReading.JoinsOnce {κ : Type} (reading : FieldReading κ) (base : Table)
    (relations : List RelationSpec) : Prop :=
  ∀ r ∈ relations, ∃ j c, reading.link? r = some (j, c) ∧ j.FindsOne base

/-- Whether a row of the base table satisfies a filter, where some relations are shown: in its own
column, unless one of the relations displays something under its name, and else in what this
relation finds for it. -/
inductive FieldReading.Satisfies {κ : Type} (reading : FieldReading κ)
    (shown : List RelationSpec) (f : FilterSpec) (row : StoredRow) : Prop
  | own {c : κ} (hfree : ∀ r ∈ shown, r.displayField ≠ f.field)
      (hcolumn : reading.own? f.field = some c) (hpasses : reading.Passes c f ⟨row, []⟩)
  | related {r : RelationSpec} {j : Join} {c : κ} (hshown : r ∈ shown)
      (hfield : r.displayField = f.field) (hlink : reading.link? r = some (j, c))
      (hpasses : reading.Passes c f (completed [j] row))

/-- Whether a filter is on something, where some relations are shown. -/
def FilterSpec.OnSomething (base : Table) (shown : List RelationSpec) (f : FilterSpec) : Prop :=
  f.field ∈ base.columnNames ∨ ∃ r ∈ shown, r.displayField = f.field

/-- Whether a filter is on the same thing whichever of two lists of relations is shown: on a column
of the table that none of them takes the name of, or on one relation of both. -/
inductive FilterSpec.Stays (base : Table) (shown shown' : List RelationSpec) (f : FilterSpec) : Prop
  | own (hcolumn : f.field ∈ base.columnNames)
      (hfree : ∀ r ∈ shown ++ shown', r.displayField ≠ f.field)
  | related {r : RelationSpec} (hshown : r ∈ shown) (hshown' : r ∈ shown')
      (hfield : r.displayField = f.field)

/-- Whether some rows are those of a table that satisfy every filter, where some relations are
shown. -/
def FieldReading.Keeps {κ : Type} (reading : FieldReading κ) (base : Table)
    (shown : List RelationSpec) (filters : List FilterSpec) (rows : List StoredRow) : Prop :=
  ∃ keep : StoredRow → Bool,
    (∀ row, keep row = true ↔ ∀ f ∈ filters, reading.Satisfies shown f row) ∧
      rows = base.rows.filter keep

section Stays

variable {κ : Type} {reading : FieldReading κ} {base : Table} {shown shown' : List RelationSpec}
  {f : FilterSpec}

theorem FilterSpec.Stays.symm (h : f.Stays base shown shown') : f.Stays base shown' shown := by
  cases h with
  | own hcolumn hfree =>
      exact .own hcolumn fun r hr => hfree r (List.perm_append_comm.mem_iff.1 hr)
  | related hshown hshown' hfield => exact .related hshown' hshown hfield

theorem FilterSpec.Stays.onSomething (h : f.Stays base shown shown') :
    f.OnSomething base shown := by
  cases h with
  | own hcolumn _ => exact Or.inl hcolumn
  | related hshown _ hfield => exact Or.inr ⟨_, hshown, hfield⟩

/-- A row that satisfies a filter satisfies it also where other relations are shown. -/
theorem FilterSpec.Stays.satisfies (h : f.Stays base shown shown')
    (hdisplays : (shown.map (·.displayField)).Nodup) {row : StoredRow}
    (hsatisfies : reading.Satisfies shown f row) : reading.Satisfies shown' f row := by
  cases h with
  | own hcolumn hfree =>
      have hfree' : ∀ r ∈ shown', r.displayField ≠ f.field :=
        fun r hr => hfree r (List.mem_append_right _ hr)
      cases hsatisfies with
      | own _ hown hpasses => exact .own hfree' hown hpasses
      | related hshown hfield => exact absurd hfield (hfree _ (List.mem_append_left _ hshown))
  | @related r hr hr' hfield =>
      cases hsatisfies with
      | own hfree => exact absurd hfield (hfree r hr)
      | @related s j c hs hsfield hlink hpasses =>
          obtain rfl : s = r := List.inj_on_of_nodup_map hdisplays hs hr (hsfield.trans hfield.symm)
          exact .related hr' hsfield hlink hpasses

/-- Filters that stay on the same things keep the same rows. -/
theorem FieldReading.Keeps.unique {filters : List FilterSpec} {rows rows' : List StoredRow}
    (h : reading.Keeps base shown filters rows) (h' : reading.Keeps base shown' filters rows')
    (hstays : ∀ f ∈ filters, f.Stays base shown shown')
    (hdisplays : (shown.map (·.displayField)).Nodup)
    (hdisplays' : (shown'.map (·.displayField)).Nodup) : rows = rows' := by
  obtain ⟨keep, hkeep, rfl⟩ := h
  obtain ⟨keep', hkeep', rfl⟩ := h'
  refine List.filter_congr fun row _ => ?_
  rw [Bool.eq_iff_iff, hkeep, hkeep']
  refine forall₂_congr fun f hf => ⟨(hstays f hf).satisfies hdisplays, ?_⟩
  exact (hstays f hf).symm.satisfies hdisplays'

end Stays

section Reads

variable {κ : Type}

/-- What makes a reading one of a base table: a filter looks at the cell of its column alone, the
columns of the table are its own, and a relation shows the column that it joins. -/
structure FieldReading.Sound (reading : FieldReading κ) (base : Table) : Prop where
  passes_congr : ∀ {c : κ} {f : FilterSpec} {a b : JoinedRow},
    a.cell (reading.ref c) = b.cell (reading.ref c) → reading.Passes c f a →
      reading.Passes c f b
  own : ∀ {field : String} {c : κ}, reading.own? field = some c → (reading.ref c).alias? = none
  covers : ∀ field ∈ base.columnNames, ∃ c, reading.own? field = some c
  shows : ∀ {r : RelationSpec} {j : Join} {c : κ}, reading.link? r = some (j, c) →
    Shows j (reading.ref c)

/-- What makes columns of fields those of a reading, where some relations are shown. -/
structure FieldReading.Finds (reading : FieldReading κ) (shown : List RelationSpec)
    (joins : List Join) (column? : String → Option κ) : Prop where
  related : ∀ r ∈ shown, ∀ {j : Join} {c : κ}, reading.link? r = some (j, c) →
    j ∈ joins ∧ column? r.displayField = some c
  own : ∀ field, (∀ r ∈ shown, r.displayField ≠ field) → column? field = reading.own? field
  joined : ∀ j ∈ joins, ∃ r ∈ shown, ∃ c, reading.link? r = some (j, c)

variable {reading : FieldReading κ} {base : Table} {relations shown : List RelationSpec}
  {joins : List Join} {column? : String → Option κ}

theorem FieldReading.Finds.findsOne (h : reading.Finds shown joins column?)
    (hjoins : reading.JoinsOnce base relations) (hshown : shown ⊆ relations) :
    ∀ j ∈ joins, j.FindsOne base := by
  intro j hj
  obtain ⟨r, hr, c, hlink⟩ := h.joined j hj
  obtain ⟨j', c', hlink', hone⟩ := hjoins r (hshown hr)
  obtain rfl : j' = j := congrArg Prod.fst (Option.some.inj (hlink'.symm.trans hlink))
  exact hone

/-- What a relation displays is the same beside any other relations. -/
theorem cell_completed_singleton (hnames : (joins.map (·.tableAlias)).Nodup) {j : Join}
    (hj : j ∈ joins) {c : ColumnRef} (hc : Shows j c) (row : StoredRow) :
    (completed joins row).cell c = (completed [j] row).cell c := by
  have hnames' : ([j].map (·.tableAlias)).Nodup := List.nodup_singleton _
  rw [cell_of_shows hnames hj hc, cell_of_shows hnames' (List.mem_singleton_self j) hc]

/-- A completed row passes a filter on the column of its field exactly if the row of the base table
satisfies the filter. -/
theorem FieldReading.Sound.satisfies_iff (hsound : reading.Sound base)
    (hjoins : reading.JoinsOnce base relations) (hshown : shown ⊆ relations)
    (hfinds : reading.Finds shown joins column?)
    (hnames : (joins.map (·.tableAlias)).Nodup) {f : FilterSpec} (row : StoredRow) :
    reading.Satisfies shown f row ↔
      ∃ c, column? f.field = some c ∧ reading.Passes c f (completed joins row) := by
  have hown : ∀ {c : κ}, reading.own? f.field = some c →
      (completed joins row).cell (reading.ref c) = JoinedRow.cell ⟨row, []⟩ (reading.ref c) := by
    intro c hc
    unfold JoinedRow.cell
    rw [hsound.own hc]
    rfl
  constructor
  · intro h
    cases h with
    | own hfree hcolumn hpasses =>
        exact ⟨_, (hfinds.own _ hfree).trans hcolumn,
          hsound.passes_congr (hown hcolumn).symm hpasses⟩
    | related hr hfield hlink hpasses =>
        obtain ⟨hj, hcolumn⟩ := hfinds.related _ hr hlink
        have hcell := cell_completed_singleton hnames hj (hsound.shows hlink) row
        exact ⟨_, hfield ▸ hcolumn, hsound.passes_congr hcell.symm hpasses⟩
  · rintro ⟨c, hc, hpasses⟩
    -- the column is one of the table only where no relation takes its name
    by_cases hfree : ∀ r ∈ shown, r.displayField ≠ f.field
    · rw [hfinds.own _ hfree] at hc
      exact .own hfree hc (hsound.passes_congr (hown hc) hpasses)
    · push Not at hfree
      obtain ⟨r, hr, hfield⟩ := hfree
      obtain ⟨j, c', hlink, -⟩ := hjoins r (hshown hr)
      obtain ⟨hj, hcolumn⟩ := hfinds.related r hr hlink
      obtain rfl : c' = c := Option.some.inj (hcolumn.symm.trans (hfield ▸ hc))
      have hcell := cell_completed_singleton hnames hj (hsound.shows hlink) row
      exact .related hr hfield hlink (hsound.passes_congr hcell hpasses)

/-- A filter on something is not passed over. -/
theorem FieldReading.Sound.exists_column (hsound : reading.Sound base)
    (hjoins : reading.JoinsOnce base relations) (hshown : shown ⊆ relations)
    (hfinds : reading.Finds shown joins column?) {f : FilterSpec}
    (hf : f.OnSomething base shown) : ∃ c, column? f.field = some c := by
  by_cases hfree : ∀ r ∈ shown, r.displayField ≠ f.field
  · rcases hf with hcolumn | ⟨r, hr, hfield⟩
    · rw [hfinds.own _ hfree]
      exact hsound.covers _ hcolumn
    · exact absurd hfield (hfree r hr)
  · push Not at hfree
    obtain ⟨r, hr, hfield⟩ := hfree
    obtain ⟨j, c, hlink, -⟩ := hjoins r (hshown hr)
    exact ⟨c, hfield ▸ (hfinds.related r hr hlink).2⟩

end Reads

/-- The relations that a table shows. -/
def displayed (base : Table) (d : TableDescriptor) (catalog : List RelationSpec) :
    List RelationSpec :=
  shownSpecs d catalog (Direct.relatedColumns base d catalog).relations

theorem traced_displayed (base : Table) (d : TableDescriptor) (catalog : List RelationSpec) :
    Layout.Traced (Layout.byAlias (Direct.relationsOf d catalog).values)
      (Direct.relatedColumns base d catalog) :=
  Layout.traced_applyRelations _ _ _ _

theorem displayed_subset (base : Table) (d : TableDescriptor) (catalog : List RelationSpec) :
    displayed base d catalog ⊆ (Direct.relationsOf d catalog).values := by
  intro r hr
  exact List.mem_map_of_mem (Entries.mem_of_get?_eq_some (mem_shownSpecs_iff.1 hr).1)

theorem nodup_displayed (base : Table) (d : TableDescriptor) (catalog : List RelationSpec) :
    ((displayed base d catalog).map (·.displayField)).Nodup := by
  have htraced := traced_displayed base d catalog
  rw [displayed, (map_shownSpecs htraced).2]
  exact htraced.displays

theorem allTrue_append_iff {ps qs : List (Condition Value)} {row : JoinedRow} :
    AllTrue (ps ++ qs) row ↔ AllTrue ps row ∧ AllTrue qs row := by
  unfold AllTrue
  simp only [mapM_append_eq_ok]
  constructor
  · rintro ⟨_, ⟨bound, bound', hbound, hbound', rfl⟩, htrue⟩
    rw [List.forall_mem_append] at htrue
    exact ⟨⟨bound, hbound, htrue.1⟩, bound', hbound', htrue.2⟩
  · rintro ⟨⟨bound, hbound, htrue⟩, bound', hbound', htrue'⟩
    exact ⟨_, ⟨bound, bound', hbound, hbound', rfl⟩, List.forall_mem_append.2 ⟨htrue, htrue'⟩⟩

theorem allTrue_of_cells {ps : List (Condition Value)} {a b : JoinedRow}
    (h : ∀ p ∈ ps, ∀ c ∈ Direct.columnsOf p, a.cell c = b.cell c) (htrue : AllTrue ps a) :
    AllTrue ps b := by
  obtain ⟨bound, hbound, htrue⟩ := htrue
  refine ⟨bound, hbound, fun q hq => ?_⟩
  obtain ⟨p, hp, htraverse⟩ := exists_of_mem_of_mapM hbound hq
  rw [← htrue q hq]
  refine (truth_eq_of_cells fun c hc => ?_).symm
  exact h p hp c (columnsOf_traverse htraverse ▸ hc)

/-! ## A single pass -/

namespace Direct

theorem passes_append_iff {a b : Attempt (List (Condition Value))} {row : JoinedRow} :
    Passes (do return (← a) ++ (← b)) row ↔ Passes a row ∧ Passes b row := by
  constructor
  · rintro ⟨made, hmade, htrue⟩
    obtain ⟨ps, hps, hrest⟩ := bind_eq_ok.1 hmade
    obtain ⟨qs, hqs, hrest⟩ := bind_eq_ok.1 hrest
    rw [← pure_eq_ok.1 hrest] at htrue
    obtain ⟨h, h'⟩ := allTrue_append_iff.1 htrue
    exact ⟨⟨ps, hps, h⟩, qs, hqs, h'⟩
  · rintro ⟨⟨ps, rfl, h⟩, qs, rfl, h'⟩
    exact ⟨ps ++ qs, rfl, allTrue_append_iff.2 ⟨h, h'⟩⟩

/-- How a single pass reads fields. -/
def reading (db : Database) (base : Table) : FieldReading ColumnRef where
  ref c := c
  link? r := (joinOf? db base r.aliasField r).map fun j => (j.join, j.displayColumn)
  own? := (baseColumns base).get?
  Passes c f := Passes (filterClauses c f.operator f.value)

variable {db : Database} {base : Table} {d : TableDescriptor} {catalog : List RelationSpec}
  {p : Plan}

theorem sound_reading (db : Database) (base : Table) : (reading db base).Sound base where
  passes_congr hcell := by
    rintro ⟨qs, hqs, htrue⟩
    refine ⟨qs, hqs, allTrue_of_cells (fun q hq x hx => ?_) htrue⟩
    rw [mem_columnsOf_filterClauses hqs q hq x hx]
    exact hcell
  own h := by
    obtain ⟨column, -, heq⟩ := List.mem_map.1 (Entries.mem_of_get?_eq_some h)
    cases heq
    rfl
  covers field hfield := by
    have hkeys : field ∈ Entries.keys (baseColumns base) := by
      rwa [Entries.keys, baseColumns, List.map_map]
    exact Option.isSome_iff_exists.1 ((Entries.mem_keys_iff_has field _).1 hkeys)
  shows h := by
    obtain ⟨j, hj, heq⟩ := Option.map_eq_some_iff.1 h
    cases heq
    unfold joinOf? at hj
    simp only [Option.bind_eq_bind, Option.bind_eq_some_iff] at hj
    obtain ⟨joined, -, related, -, display, -, key, -, baseColumn, -, hj⟩ := hj
    cases hj
    exact ⟨display.affinity, rfl⟩

theorem joins_of_plan (h : plan db base d catalog = .ok p) :
    p.joins = (displayed base d catalog).filterMap fun r => joinOf? db base r.aliasField r := by
  obtain ⟨fields, -, h⟩ := bind_eq_ok.1 h
  rw [← pure_eq_ok.1 h]
  exact joins_eq_filterMap db base d catalog _

/-- The columns of a plan are those of its reading. -/
theorem finds_of_plan (h : plan db base d catalog = .ok p) :
    (reading db base).Finds (displayed base d catalog) (p.joins.map (·.join)) p.columns.get? := by
  have hjoins := joins_of_plan h
  have hmade : ∀ j ∈ p.joins, ∃ r ∈ displayed base d catalog,
      joinOf? db base r.aliasField r = some j ∧ j.displayField = r.displayField := by
    intro j hj
    rw [hjoins] at hj
    obtain ⟨r, hr, hj⟩ := List.mem_filterMap.1 hj
    exact ⟨r, hr, hj, (madeOf_joinOf? hj).displayField⟩
  have hkeys : (Entries.keys (p.joins.map fun j => (j.displayField, j.displayColumn))).Nodup := by
    rw [Entries.keys, List.map_map, hjoins]
    refine (filterMap_sublist_map (fun r j hj => ?_) _).nodup (nodup_displayed base d catalog)
    exact (madeOf_joinOf? hj).displayField
  have hcolumns := (Plan.madeFor_of_plan h).columns
  refine ⟨fun r hr j c hlink => ?_, fun field hfree => ?_, fun j hj => ?_⟩
  · obtain ⟨shown, hshown, heq⟩ := Option.map_eq_some_iff.1 hlink
    cases heq
    have hmem : shown ∈ p.joins := hjoins ▸ List.mem_filterMap.2 ⟨r, hr, hshown⟩
    refine ⟨List.mem_map_of_mem hmem, ?_⟩
    -- the column of the join stands before those of the table, and under its name there is no other
    rw [hcolumns, Entries.get?_merge, Entries.get?_reverse hkeys]
    refine Option.or_eq_some_iff.2 (Or.inl ((Entries.get?_eq_some_iff_mem hkeys).2 ?_))
    exact List.mem_map.2 ⟨shown, hmem, by rw [(madeOf_joinOf? hshown).displayField]⟩
  · have hnone : Entries.get? field
        (p.joins.map fun j => (j.displayField, j.displayColumn)) = none := by
      rw [← Option.not_isSome_iff_eq_none]
      intro hsome
      obtain ⟨e, he, hfield⟩ := List.mem_map.1 ((Entries.mem_keys_iff_has field _).2 hsome)
      obtain ⟨j, hj, rfl⟩ := List.mem_map.1 he
      obtain ⟨r, hr, -, hdisplay⟩ := hmade j hj
      exact hfree r hr (hdisplay.symm.trans hfield)
    rw [hcolumns, Entries.get?_merge, Entries.get?_reverse hkeys, hnone, Option.none_or]
    rfl
  · obtain ⟨shown, hshown, rfl⟩ := List.mem_map.1 hj
    obtain ⟨r, hr, hmade, -⟩ := hmade shown hshown
    exact ⟨r, hr, shown.displayColumn, Option.map_eq_some_iff.2 ⟨shown, hmade, rfl⟩⟩

theorem passes_filterConditions_iff {filters : List FilterSpec}
    (hcolumns : ∀ f ∈ filters, ∃ c, p.columns.get? f.field = some c) {row : JoinedRow} :
    Passes (p.filterConditions filters) row ↔ ∀ f ∈ filters, ∃ c,
      p.columns.get? f.field = some c ∧ (reading db base).Passes c f row := by
  induction filters with
  | nil => exact iff_of_true ⟨[], rfl, [], rfl, fun q hq => nomatch hq⟩ fun f hf => nomatch hf
  | cons f rest ih =>
      rw [List.forall_mem_cons] at hcolumns ⊢
      obtain ⟨⟨c, hc⟩, hrest⟩ := hcolumns
      have hcons : p.filterConditions (f :: rest) = (do
          return (← filterClauses c f.operator f.value) ++ (← p.filterConditions rest)) := by
        rw [Plan.filterConditions_cons, Plan.conditionsOf, hc]
      rw [hcons, passes_append_iff, ih hrest, hc]
      simp only [Option.some.injEq, exists_eq_left']
      rfl

/-- The rows that pass the filters of a plan, once they are completed, are those that satisfy every
filter. -/
theorem keeps_of_passing (h : plan db base d catalog = .ok p)
    (hjoins : (reading db base).JoinsOnce base (relationsOf d catalog).values)
    (hnames : ((p.joins.map (·.join)).map (·.tableAlias)).Nodup) {filters : List FilterSpec}
    (hfilters : ∀ f ∈ filters, f.OnSomething base (displayed base d catalog))
    {rows : List StoredRow} (hrows : p.passing filters = .ok rows) :
    (reading db base).Keeps base (displayed base d catalog) filters rows := by
  have hsound := sound_reading db base
  have hfinds := finds_of_plan h
  have hshown := displayed_subset base d catalog
  obtain ⟨made, hmade, hrows⟩ := bind_eq_ok.1 hrows
  obtain ⟨bound, hbound, hrows⟩ := bind_eq_ok.1 hrows
  refine ⟨fun row => bound.all fun q => q.truth (completed (p.joins.map (·.join)) row) == some true,
    fun row => ?_, ?_⟩
  · -- the conditions are bound once for all rows, so that the choice of the binding does not matter
    have hpasses :
        (bound.all fun q => q.truth (completed (p.joins.map (·.join)) row) == some true) = true ↔
          Passes (p.filterConditions filters) (completed (p.joins.map (·.join)) row) := by
      simp only [List.all_eq_true, beq_iff_eq]
      refine ⟨fun htrue => ⟨made, hmade, bound, hbound, htrue⟩, ?_⟩
      rintro ⟨made', hmade', bound', hbound', htrue⟩
      obtain rfl := Except.ok.inj (hmade.symm.trans hmade')
      rwa [Except.ok.inj (hbound.symm.trans hbound')]
    rw [hpasses, passes_filterConditions_iff fun f hf =>
      hsound.exists_column hjoins hshown hfinds (hfilters f hf)]
    exact forall₂_congr fun f _ => (hsound.satisfies_iff hjoins hshown hfinds hnames row).symm
  · rw [← pure_eq_ok.1 hrows, passingWith, (Plan.madeFor_of_plan h).table]

/-- The answer that counts some rows of the base table and shows a segment of them, each completed
with what the joins find for it. -/
def Plan.answerOn (p : Plan) (source : Source) (d : TableDescriptor) (c : Request.Context)
    (full : List StoredRow) : Attempt (Entries Value) := do
  bindSegment c.paging.start c.paging.length
  p.payloadOf source d c ⟨full.length, full.length,
    (segment c.paging.start c.paging.length full).map (completed (p.joins.map (·.join)))⟩

/-- Whether an answer of a single pass counts some rows of its base table and shows a segment of an
arrangement of them. -/
def ShowsRows (source : Source) (c : Request.Context) (rows : List StoredRow)
    (payload : Entries Value) : Prop :=
  payload.get? "recordsTotal" = some (.int rows.length) ∧
    ∃ (d : TableDescriptor) (base : Table) (p : Plan) (full : List StoredRow),
      c.describedTable = .ok d ∧ source.database.table? d.name = some base ∧
      plan source.database base d source.catalog = .ok p ∧ full.Perm rows ∧
      p.answerOn source d c full = .ok payload

theorem total_of_payloadOf {source : Source} {c : Request.Context} {found : Found}
    {payload : Entries Value} (h : p.payloadOf source d c found = .ok payload) :
    payload.get? "recordsTotal" = some (.int found.total) := by
  obtain ⟨raws, items, -, rfl⟩ := exists_rawRows_of_payloadOf h
  rfl

section Requests

variable {source : Source} {c : Request.Context}

/-- A request without a search is answered by the rows that pass its filters. -/
theorem compile_eq_answerOn (hdescribed : c.describedTable = .ok d)
    (hbase : source.database.table? d.name = some base)
    (hplan : plan source.database base d source.catalog = .ok p)
    (hone : ∀ j ∈ p.joins.map (·.join), j.FindsOne base) (hready : p.Ready d c)
    (hsearch : SearchesNothing c.paging) {rows : List StoredRow}
    (hrows : p.passing c.filters = .ok rows) :
    ∃ full : List StoredRow, full.Perm rows ∧
      compile source c = p.answerOn source d c full := by
  obtain ⟨full, hfull, hfind⟩ :=
    find_of_passing ((Plan.madeFor_of_plan hplan).table ▸ hone) hready hsearch hrows
  refine ⟨full, hfull, ?_⟩
  rw [compile_of_plan hdescribed hbase hplan, hfind, Plan.answerOn]
  cases bindSegment c.paging.start c.paging.length <;> rfl

/-- An answer of a single pass shows the rows that satisfy every filter. -/
theorem exists_showsRows (hdescribed : c.describedTable = .ok d)
    (hbase : source.database.table? d.name = some base)
    (hjoins : (reading source.database base).JoinsOnce base (relationsOf d source.catalog).values)
    (hsearch : SearchesNothing c.paging)
    (hfilters : ∀ f ∈ c.filters, f.OnSomething base (displayed base d source.catalog))
    {payload : Entries Value} (h : compile source c = .ok payload) :
    ∃ rows, (reading source.database base).Keeps base (displayed base d source.catalog) c.filters
      rows ∧ ShowsRows source c rows payload := by
  have hcompiled := h
  rw [compile_of_described hdescribed, hbase] at hcompiled
  obtain ⟨p, hplan, hcompiled⟩ := bind_eq_ok.1 hcompiled
  obtain ⟨found, hfound, -⟩ := bind_eq_ok.1 hcompiled
  obtain ⟨hready, rows, hrows⟩ := exists_passing_of_find hsearch hfound
  have hone := (finds_of_plan hplan).findsOne hjoins (displayed_subset base d source.catalog)
  obtain ⟨full, hfull, heq⟩ :=
    compile_eq_answerOn hdescribed hbase hplan hone hready hsearch hrows
  rw [heq] at h
  obtain ⟨_, -, hpayload⟩ := bind_eq_ok.1 h
  refine ⟨rows, keeps_of_passing hplan hjoins hready.runs.aliases hfilters hrows, ?_,
    d, base, p, full, hdescribed, hbase, hplan, hfull, h⟩
  rw [total_of_payloadOf hpayload, hfull.length_eq]

end Requests

end Direct

/-! ## A staged compilation -/

namespace Staged

theorem passes_append_iff {a b : Attempt (List (Condition Parameter))} {row : JoinedRow} :
    Passes (do return (← a) ++ (← b)) row ↔ Passes a row ∧ Passes b row := by
  constructor
  · rintro ⟨made, written, hmade, hwritten, hpasses⟩
    obtain ⟨ps, hps, hrest⟩ := bind_eq_ok.1 hmade
    obtain ⟨qs, hqs, hrest⟩ := bind_eq_ok.1 hrest
    rw [← pure_eq_ok.1 hrest] at hwritten
    obtain ⟨w, w', hw, hw', rfl⟩ := mapM_append_eq_ok.1 hwritten
    obtain ⟨h, h'⟩ := allTrue_append_iff.1 hpasses
    exact ⟨⟨ps, w, hps, hw, h⟩, qs, w', hqs, hw', h'⟩
  · rintro ⟨⟨ps, w, rfl, hw, h⟩, qs, w', rfl, hw', h'⟩
    exact ⟨ps ++ qs, w ++ w', rfl, mapM_append_eq_ok.2 ⟨w, w', hw, hw', rfl⟩,
      allTrue_append_iff.2 ⟨h, h'⟩⟩

theorem passes_of_cells {conditions : Attempt (List (Condition Parameter))} {a b : JoinedRow}
    (h : ∀ ps, conditions = .ok ps → ∀ p ∈ ps, ∀ c ∈ Direct.columnsOf p, a.cell c = b.cell c)
    (hpasses : Passes conditions a) : Passes conditions b := by
  obtain ⟨made, written, hmade, hwritten, hpasses⟩ := hpasses
  refine ⟨made, written, hmade, hwritten, allTrue_of_cells (fun q hq c hc => ?_) hpasses⟩
  obtain ⟨p, hp, htraverse⟩ := exists_of_mem_of_mapM hwritten hq
  exact h made hmade p hp c (columnsOf_traverse htraverse ▸ hc)

/-- How a staged compilation reads fields. -/
def reading (db : Database) (base : Table) : FieldReading TypedColumn where
  ref c := c.ref
  link? r := (linkOf? db base r).map fun j => (j.join, j.display)
  own? field := (base.column? field).map (columnOf none)
  Passes c f := Passes (filterClauses c f.operator f.value)

variable {db : Database} {base : Table} {d : TableDescriptor} {source : Source}
  {r : Layout.ResolvedColumns} {v : View}

theorem sound_reading (db : Database) (base : Table) : (reading db base).Sound base where
  passes_congr hcell := passes_of_cells fun ps hps q hq x hx => by
    rw [columnsOf_filterClauses hps q hq x hx]
    exact hcell
  own h := by
    obtain ⟨column, -, rfl⟩ := Option.map_eq_some_iff.1 h
    rfl
  covers field hfield := by
    obtain ⟨column, hcolumn, hname⟩ := List.mem_map.1 hfield
    have hfound : (base.column? field).isSome = true :=
      List.find?_isSome.2 ⟨column, hcolumn, by simp [hname]⟩
    obtain ⟨column, hcolumn⟩ := Option.isSome_iff_exists.1 hfound
    exact ⟨columnOf none column, Option.map_eq_some_iff.2 ⟨column, hcolumn, rfl⟩⟩
  shows h := by
    obtain ⟨j, hj, heq⟩ := Option.map_eq_some_iff.1 h
    cases heq
    unfold linkOf? link? at hj
    simp only [Option.bind_eq_bind, Option.bind_eq_some_iff] at hj
    obtain ⟨joined, -, related, -, key, -, baseColumn, -, display, -, hj⟩ := hj
    cases hj
    exact ⟨display.affinity, rfl⟩

theorem passes_filterConditions_iff {filters : List FilterSpec}
    (hcolumns : ∀ f ∈ filters, ∃ c, v.column? f.field = some c) {row : JoinedRow} :
    Passes (v.filterConditions filters) row ↔ ∀ f ∈ filters, ∃ c,
      v.column? f.field = some c ∧ (reading db base).Passes c f row := by
  induction filters with
  | nil =>
      refine iff_of_true ⟨[], [], rfl, rfl, [], rfl, fun q hq => nomatch hq⟩ ?_
      exact fun f hf => nomatch hf
  | cons f rest ih =>
      rw [List.forall_mem_cons] at hcolumns ⊢
      obtain ⟨⟨c, hc⟩, hrest⟩ := hcolumns
      have hcons : v.filterConditions (f :: rest) = (do
          return (← filterClauses c f.operator f.value) ++ (← v.filterConditions rest)) := by
        rw [View.filterConditions, hc]
      rw [hcons, passes_append_iff, ih hrest, hc]
      simp only [Option.some.injEq, exists_eq_left']
      rfl

section Views

variable (hname : base.name = d.name) (hresolved : Layout.resolveColumns (columnRequest base d
  (Layout.mergeRelations d.relations source.catalog)) = .ok r)

include hname hresolved

/-- The joins of a view are those of the relations that are shown. -/
theorem mem_joins_viewOf_iff {j : LinkedJoin} : j ∈ (viewOf source d base r).joins ↔
    ∃ spec ∈ displayed base d source.catalog, linkOf? source.database base spec = some j := by
  have hrelations : r.relations = (Direct.relatedColumns base d source.catalog).relations := by
    obtain ⟨ordered, -, hresolved⟩ := bind_eq_ok.1 hresolved
    rw [← pure_eq_ok.1 hresolved]
    rfl
  rw [viewOf_eq source hname, hrelations, List.mem_filterMap]
  exact exists_congr fun spec => and_congr_left fun _ =>
    (perm_shownSpecs (traced_displayed base d source.catalog)).symm.mem_iff

/-- The columns of a view are those of its reading. -/
theorem finds_of_viewOf : (reading source.database base).Finds (displayed base d source.catalog)
    ((viewOf source d base r).joins.map (·.join)) (viewOf source d base r).column? := by
  have hmem := @mem_joins_viewOf_iff base d source r hname hresolved
  have hmade := View.madeFor_viewOf hname hresolved
  refine ⟨fun spec hspec j c hlink => ?_, fun field hfree => ?_, fun j hj => ?_⟩
  · obtain ⟨linked, hlinked, heq⟩ := Option.map_eq_some_iff.1 hlink
    cases heq
    have hlinkedmem : linked ∈ (viewOf source d base r).joins := hmem.2 ⟨spec, hspec, hlinked⟩
    have hfield := (names_of_linkOf? hlinked).2
    have hfound : ((viewOf source d base r).joins.find?
        (·.displayField == spec.displayField)).isSome = true :=
      List.find?_isSome.2 ⟨linked, hlinkedmem, by simp [hfield]⟩
    obtain ⟨other, hother⟩ := Option.isSome_iff_exists.1 hfound
    -- the first join that shows this field is the only one
    have hsame : other.displayField = spec.displayField := by simpa using List.find?_some hother
    obtain rfl : other = linked := List.inj_on_of_nodup_map hmade.displays
      (List.mem_of_find?_eq_some hother) hlinkedmem (hsame.trans hfield.symm)
    exact ⟨List.mem_map_of_mem hlinkedmem, by rw [View.column?, hother]⟩
  · have hnone : (viewOf source d base r).joins.find? (·.displayField == field) = none := by
      refine List.find?_eq_none.2 fun j hj heq => ?_
      obtain ⟨spec, hspec, hlinked⟩ := hmem.1 hj
      exact hfree spec hspec ((names_of_linkOf? hlinked).2.symm.trans (beq_iff_eq.1 heq))
    rw [View.column?, hnone, hmade.table]
    rfl
  · obtain ⟨linked, hlinked, rfl⟩ := List.mem_map.1 hj
    obtain ⟨spec, hspec, hlink⟩ := hmem.1 hlinked
    exact ⟨spec, hspec, linked.display, Option.map_eq_some_iff.2 ⟨linked, hlink, rfl⟩⟩

/-- The rows that pass the filters of a view, once they are completed, are those that satisfy every
filter. -/
theorem keeps_of_passing (hjoins : (reading source.database base).JoinsOnce base
      (Direct.relationsOf d source.catalog).values)
    (hnames : (((viewOf source d base r).joins.map (·.join)).map (·.tableAlias)).Nodup)
    {filters : List FilterSpec}
    (hfilters : ∀ f ∈ filters, f.OnSomething base (displayed base d source.catalog))
    {rows : List StoredRow} (hrows : (viewOf source d base r).passing filters = .ok rows) :
    (reading source.database base).Keeps base (displayed base d source.catalog) filters
      rows := by
  have hsound := sound_reading source.database base
  have hfinds := finds_of_viewOf hname hresolved
  have hshown := displayed_subset base d source.catalog
  obtain ⟨made, hmade, hrows⟩ := bind_eq_ok.1 hrows
  obtain ⟨written, hwritten, hrows⟩ := bind_eq_ok.1 hrows
  obtain ⟨bound, hbound, hrows⟩ := bind_eq_ok.1 hrows
  rw [← pure_eq_ok.1 hrows, passingWith, (View.madeFor_viewOf hname hresolved).table]
  refine ⟨_, fun row => ?_, rfl⟩
  have hpasses : (bound.all fun q => q.truth
      (completed ((viewOf source d base r).joins.map (·.join)) row) == some true) = true ↔
        Passes ((viewOf source d base r).filterConditions filters)
          (completed ((viewOf source d base r).joins.map (·.join)) row) := by
    simp only [List.all_eq_true, beq_iff_eq]
    refine ⟨fun htrue => ⟨made, written, hmade, hwritten, bound, hbound, htrue⟩, ?_⟩
    rintro ⟨made', written', hmade', hwritten', bound', hbound', htrue⟩
    obtain rfl := Except.ok.inj (hmade.symm.trans hmade')
    obtain rfl := Except.ok.inj (hwritten.symm.trans hwritten')
    rwa [Except.ok.inj (hbound.symm.trans hbound')]
  rw [hpasses, passes_filterConditions_iff fun f hf =>
    hsound.exists_column hjoins hshown hfinds (hfilters f hf)]
  exact forall₂_congr fun f _ => (hsound.satisfies_iff hjoins hshown hfinds hnames row).symm

end Views

/-- The answer that counts some rows of the base table and shows a segment of them, each completed
with what the joins find for it. -/
def View.answerOn (v : View) (source : Source) (d : TableDescriptor) (c : Request.Context)
    (r : Layout.ResolvedColumns) (full : List StoredRow) : Attempt PagingResponse := do
  bindSegment c.paging.start c.paging.length
  let page ← ((segment c.paging.start c.paging.length full).map
    (completed (v.joins.map (·.join)))).mapM v.readRow
  answerOf source d c r ⟨full.length, full.length, page⟩

/-- Whether an answer of a staged compilation counts some rows of its base table and shows a segment
of an arrangement of them. -/
def ShowsRows (source : Source) (c : Request.Context) (rows : List StoredRow)
    (response : PagingResponse) : Prop :=
  response.recordsTotal = rows.length ∧
    ∃ (d : TableDescriptor) (base : Table) (r : Layout.ResolvedColumns) (full : List StoredRow),
      c.describedTable = .ok d ∧ resolvedOf source d = .ok (base, r) ∧ full.Perm rows ∧
      (viewOf source d base r).answerOn source d c r full = .ok response

section Requests

variable {c : Request.Context}

/-- A request without a search is answered by the rows that pass its filters. -/
theorem answer_eq_answerOn (hdescribed : c.describedTable = .ok d)
    (hbase : source.database.linkedTable? d.name = some base)
    (hresolved : Layout.resolveColumns (columnRequest base d
      (Layout.mergeRelations d.relations source.catalog)) = .ok r)
    (hone : ∀ j ∈ (viewOf source d base r).joins.map (·.join), j.FindsOne base)
    (hruns : ((viewOf source d base r).query []).Runnable) (hsearch : SearchesNothing c.paging)
    {rows : List StoredRow} (hrows : (viewOf source d base r).passing c.filters = .ok rows) :
    ∃ full : List StoredRow, full.Perm rows ∧
      answer source c = (viewOf source d base r).answerOn source d c r full := by
  obtain ⟨full, hfull, hfetch⟩ :=
    fetch_of_passing (f := fetchOf d c r) hone hruns hsearch hrows
  refine ⟨full, hfull, ?_⟩
  rw [answer_of_resolved hdescribed hbase hresolved, hfetch, View.answerOn]
  show (bindSegment c.paging.start c.paging.length >>= _) >>= _ = _
  cases bindSegment c.paging.start c.paging.length with
  | error e => rfl
  | ok _ =>
      show ((((segment c.paging.start c.paging.length full).map _).mapM _) >>= _) >>= _ = _
      cases ((segment c.paging.start c.paging.length full).map
        (completed ((viewOf source d base r).joins.map (·.join)))).mapM
          (viewOf source d base r).readRow <;> rfl

/-- An answer of a staged compilation shows the rows that satisfy every filter. -/
theorem exists_showsRows (hdescribed : c.describedTable = .ok d)
    (hbase : source.database.table? d.name = some base)
    (hjoins : (reading source.database base).JoinsOnce base
      (Direct.relationsOf d source.catalog).values)
    (hsearch : SearchesNothing c.paging)
    (hfilters : ∀ f ∈ c.filters, f.OnSomething base (displayed base d source.catalog))
    {response : PagingResponse} (h : answer source c = .ok response) :
    ∃ rows, (reading source.database base).Keeps base (displayed base d source.catalog) c.filters
      rows ∧ ShowsRows source c rows response := by
  have hname : base.name = d.name := (Database.mem_of_table? hbase).2
  have hanswered := h
  rw [answer_of_described hdescribed] at hanswered
  obtain ⟨⟨base', r⟩, hfound, hanswered⟩ := bind_eq_ok.1 hanswered
  obtain ⟨hlinked, hresolved⟩ := resolvedOf_eq_ok.1 hfound
  obtain rfl : base = base' :=
    Option.some.inj (hbase.symm.trans (Database.table?_of_linkedTable? hlinked))
  obtain ⟨fetched, hfetched, -⟩ := bind_eq_ok.1 hanswered
  obtain ⟨hruns, rows, hrows⟩ := exists_passing_of_fetch (f := fetchOf d c r) hfetched
  have hone := (finds_of_viewOf hname hresolved).findsOne hjoins
    (displayed_subset base d source.catalog)
  obtain ⟨full, hfull, heq⟩ :=
    answer_eq_answerOn hdescribed hlinked hresolved hone hruns hsearch hrows
  rw [heq] at h
  obtain ⟨_, -, hresponse⟩ := bind_eq_ok.1 h
  obtain ⟨page, -, hresponse⟩ := bind_eq_ok.1 hresponse
  refine ⟨rows, keeps_of_passing hname hresolved hjoins hruns.aliases hfilters hrows, ?_,
    d, base, r, full, hdescribed, hfound, hfull, h⟩
  rw [(counts_of_answerOf hresponse).1, hfull.length_eq]

end Requests

end Staged

/-! ## Two descriptors -/

/-- A request that displays other columns. -/
def Request.Context.displaying (c : Request.Context) (columns : List ColumnSpec) :
    Request.Context :=
  { c with descriptor := c.descriptor.map fun d => { d with columns := columns } }

theorem describedTable_displaying {c : Request.Context} {d : TableDescriptor}
    (h : c.describedTable = .ok d) (columns : List ColumnSpec) :
    (c.displaying columns).describedTable = .ok { d with columns := columns } := by
  unfold Request.Context.describedTable at h ⊢
  unfold Request.Context.displaying
  split at h
  · rename_i table name hdescriptor hname
    split at h
    · cases h
    · cases h
      simp only [hdescriptor, hname, Option.map_some]
      rw [if_neg (by assumption)]
  · cases h

/-- What is displayed makes no difference to the filters of a request without a search, as long as
each of them stays on the same thing: on a column of the table that no displayed relation takes the
name of, or on a relation that is displayed on both sides.  Where every relation can be joined and
finds one row at most, both answers of a compilation count the same rows of the base table and show
a segment of them, and these are the rows that satisfy every filter.  A segment that is long enough
shows them all. -/
theorem filters_keep_rows {source : Source} {d : TableDescriptor} {c : Request.Context}
    {base : Table} (columns : List ColumnSpec) (hdescribed : c.describedTable = .ok d)
    (hbase : source.database.table? d.name = some base) (hsearch : SearchesNothing c.paging)
    (hfilters : ∀ f ∈ c.filters, f.Stays base (displayed base d source.catalog)
      (displayed base { d with columns := columns } source.catalog)) :
    ((Direct.reading source.database base).JoinsOnce base
        (Direct.relationsOf d source.catalog).values →
      ∀ payload payload', Direct.compile source c = .ok payload →
        Direct.compile source (c.displaying columns) = .ok payload' →
          ∃ rows, (∀ shown ∈ [displayed base d source.catalog,
              displayed base { d with columns := columns } source.catalog],
                (Direct.reading source.database base).Keeps base shown c.filters rows) ∧
            Direct.ShowsRows source c rows payload ∧
            Direct.ShowsRows source (c.displaying columns) rows payload') ∧
    ((Staged.reading source.database base).JoinsOnce base
        (Direct.relationsOf d source.catalog).values →
      ∀ response response', (Staged.compile source c).1 = .ok response →
        (Staged.compile source (c.displaying columns)).1 = .ok response' →
          ∃ rows, (∀ shown ∈ [displayed base d source.catalog,
              displayed base { d with columns := columns } source.catalog],
                (Staged.reading source.database base).Keeps base shown c.filters rows) ∧
            Staged.ShowsRows source c rows response ∧
            Staged.ShowsRows source (c.displaying columns) rows response') ∧
    (∀ full : List StoredRow, c.paging.start ≤ 0 →
      c.paging.length < 0 ∨ (full.length : Int) ≤ c.paging.length →
        segment c.paging.start c.paging.length full = full) := by
  have hdescribed' := describedTable_displaying hdescribed columns
  have hsomething := fun f hf => (hfilters f hf).onSomething
  have hsomething' := fun f hf => (hfilters f hf).symm.onSomething
  have hdisplays := nodup_displayed base d source.catalog
  have hdisplays' := nodup_displayed base { d with columns := columns } source.catalog
  refine ⟨fun hjoins payload payload' h h' => ?_, fun hjoins response response' h h' => ?_,
    fun full hstart hlength => segment_eq_self hstart hlength⟩
  · obtain ⟨rows, hkeeps, hshows⟩ :=
      Direct.exists_showsRows hdescribed hbase hjoins hsearch hsomething h
    obtain ⟨rows', hkeeps', hshows'⟩ :=
      Direct.exists_showsRows hdescribed' hbase hjoins hsearch hsomething' h'
    obtain rfl := hkeeps.unique hkeeps' hfilters hdisplays hdisplays'
    exact ⟨rows, List.forall_mem_cons.2 ⟨hkeeps, List.forall_mem_singleton.2 hkeeps'⟩, hshows,
      hshows'⟩
  · rw [Staged.compile_fst] at h h'
    obtain ⟨rows, hkeeps, hshows⟩ :=
      Staged.exists_showsRows hdescribed hbase hjoins hsearch hsomething h
    obtain ⟨rows', hkeeps', hshows'⟩ :=
      Staged.exists_showsRows hdescribed' hbase hjoins hsearch hsomething' h'
    obtain rfl := hkeeps.unique hkeeps' hfilters hdisplays hdisplays'
    exact ⟨rows, List.forall_mem_cons.2 ⟨hkeeps, List.forall_mem_singleton.2 hkeeps'⟩, hshows,
      hshows'⟩

section Sales

/-- The relation of the customers. -/
def customerRelation : RelationSpec :=
  ⟨"customer", "customer.name", none, [("people.id", "sales.customer_id")]⟩

/-- The relation of the clerks. -/
def clerkRelation : RelationSpec :=
  ⟨"clerk", "clerk.name", none, [("people.id", "sales.clerk_id")]⟩

/-- The relation of the buyers, which shows their numbers under the name of a column of the
sales. -/
def buyerRelation : RelationSpec :=
  ⟨"buyer", "id", none, [("people.id", "sales.customer_id")]⟩

/-- The sales with the columns of some fields. -/
def salesShowing (fields : List String) : TableDescriptor :=
  { salesColumns "customer" "clerk" with
    columns := fields.map fun field => ⟨field, none, false, false, true, true, false⟩
    relations := [customerRelation, clerkRelation, buyerRelation] }

/-- The request of the sales that pass some filters, with the columns of some fields. -/
def salesFiltered (filters : List FilterSpec) (fields : List String) : Request.Context :=
  { salesRequest "customer" "clerk" with
    descriptor := some (salesShowing fields)
    filters := filters }

/-- The filters for the sales above some total to Bob. -/
def toBob (above : Int) : List FilterSpec :=
  [⟨"total", .greaterThan, .int above⟩, ⟨"customer.name", .equals, .text "Bob"⟩]

/-- What a column list shows beside the sales, and which sales some filters find with it. -/
inductive SalesFound :
    List FilterSpec → List String → List RelationSpec → List StoredRow → Prop
  | both : SalesFound (toBob 5) ["id", "customer", "clerk"] [customerRelation, clerkRelation]
      [saleRow 2 2 .null 7]
  | customer : SalesFound (toBob 5) ["id", "customer"] [customerRelation] [saleRow 2 2 .null 7]
  | noneToBob : SalesFound (toBob 8) ["id", "customer"] [customerRelation] []
  | passedOver : SalesFound (toBob 8) ["id"] [] [saleRow 1 1 (.int 2) 9]
  | noBuyer : SalesFound [⟨"id", .equals, .int 3⟩] ["total", "buyer"] [buyerRelation] []
  | ownNumber : SalesFound [⟨"id", .equals, .int 3⟩] ["total"] [] [saleRow 3 1 (.int 1) 3]

/-- The columns of the sales with some relations in the places after the first. -/
def salesRelated (fields : List String) (shown : List RelationSpec) : Layout.Columns :=
  (shown.zipIdx.map fun e => (e.2 + 1, e.1.aliasField)).foldl
    (Layout.showRelation (Layout.byAlias (salesShowing fields).relations))
    ⟨fields.take 1, (salesShowing fields).labels, .none⟩

theorem joinsOnce_sales (fields : List String) :
    (Direct.reading salesSource.database sales).JoinsOnce sales
      (Direct.relationsOf (salesShowing fields) []).values ∧
    (Staged.reading salesSource.database sales).JoinsOnce sales
      (Direct.relationsOf (salesShowing fields) []).values := by
  have hrelations : (Direct.relationsOf (salesShowing fields) []).values =
      [customerRelation, clerkRelation, buyerRelation] := rfl
  rw [hrelations]
  unfold FieldReading.JoinsOnce
  simp only [List.forall_mem_cons]
  exact ⟨⟨⟨_, _, rfl, by decide⟩, ⟨_, _, rfl, by decide⟩, ⟨_, _, rfl, by decide⟩, nofun⟩,
    ⟨_, _, rfl, by decide⟩, ⟨_, _, rfl, by decide⟩, ⟨_, _, rfl, by decide⟩, nofun⟩

variable {filters : List FilterSpec} {fields : List String} {shown : List RelationSpec}
  {rows : List StoredRow} (h : SalesFound filters fields shown rows)

include h

theorem SalesFound.eq_of_perm {full : List StoredRow} (hfull : full.Perm rows) : full = rows := by
  cases h with
  | noneToBob | noBuyer => exact hfull.eq_nil
  | _ => exact List.perm_singleton.1 hfull

theorem relatedColumns_sales :
    Direct.relatedColumns sales (salesShowing fields) [] = salesRelated fields shown := by
  have hplaces : Layout.aliasPlaces
      (Layout.byAlias (Direct.relationsOf (salesShowing fields) []).values)
      (Layout.schemaColumns (Layout.requestedColumns (salesShowing fields)) sales.columnNames)
      (Layout.requestedColumns (salesShowing fields)) =
        shown.zipIdx.map fun e => (e.2 + 1, e.1.aliasField) := by
    cases h <;> exact List.mergeSort_of_pairwise (by decide)
  unfold Direct.relatedColumns
  rw [Layout.applyRelations_eq, hplaces]
  cases h <;> rfl

theorem displayed_sales : displayed sales (salesShowing fields) [] = shown := by
  rw [displayed, relatedColumns_sales h]
  cases h <;> rfl

/-- The answer of a single pass counts the sales that are found. -/
theorem exists_compile_sales : ∃ payload,
    Direct.compile salesSource (salesFiltered filters fields) = .ok payload ∧
      payload.get? "recordsTotal" = some (.int rows.length) := by
  have hready : ∃ p, Direct.plan salesSource.database sales (salesShowing fields) [] = .ok p ∧
      (∀ j ∈ p.joins.map (·.join), j.FindsOne sales) ∧
      p.Ready (salesShowing fields) (salesFiltered filters fields) ∧
      p.passing filters = .ok rows ∧
      ∃ payload, p.answerOn salesSource (salesShowing fields) (salesFiltered filters fields) rows =
        .ok payload := by
    rw [Direct.plan_eq, relatedColumns_sales h]
    cases h <;> exact ⟨_, rfl, by decide,
      ⟨by decide, fun _ hqs => Except.ok.inj hqs ▸ by decide⟩, rfl, _, rfl⟩
  obtain ⟨p, hplan, hone, hready, hrows, payload, hpayload⟩ := hready
  obtain ⟨full, hfull, hcompile⟩ := @Direct.compile_eq_answerOn _ _ _ salesSource
    (salesFiltered filters fields) rfl rfl hplan hone hready ⟨.inl rfl, rfl⟩ _ hrows
  obtain rfl := h.eq_of_perm hfull
  rw [hcompile, hpayload]
  obtain ⟨_, -, hpayload⟩ := bind_eq_ok.1 hpayload
  exact ⟨payload, rfl, Direct.total_of_payloadOf hpayload⟩

/-- The answer of a staged compilation counts the sales that are found. -/
theorem exists_answer_sales : ∃ response,
    (Staged.compile salesSource (salesFiltered filters fields)).1 = .ok response ∧
      response.recordsTotal = rows.length := by
  have hruns : ∃ r, Layout.resolveColumns (Staged.columnRequest sales (salesShowing fields)
        (Layout.mergeRelations (salesShowing fields).relations [])) = .ok r ∧
      (∀ j ∈ (Staged.viewOf salesSource (salesShowing fields) sales r).joins.map (·.join),
        j.FindsOne sales) ∧
      ((Staged.viewOf salesSource (salesShowing fields) sales r).query []).Runnable ∧
      (Staged.viewOf salesSource (salesShowing fields) sales r).passing filters = .ok rows ∧
      ∃ response, (Staged.viewOf salesSource (salesShowing fields) sales r).answerOn salesSource
        (salesShowing fields) (salesFiltered filters fields) r rows = .ok response := by
    have hresolved : Layout.resolveColumns (Staged.columnRequest sales (salesShowing fields)
        (Layout.mergeRelations (salesShowing fields).relations [])) =
          .ok ⟨Layout.Groups.insertInto ⟨[], [], [], [], []⟩
              (Direct.relatedColumns sales (salesShowing fields) []).fields,
            (Direct.relatedColumns sales (salesShowing fields) []).labels,
            (Direct.relatedColumns sales (salesShowing fields) []).relations, []⟩ := rfl
    rw [hresolved, relatedColumns_sales h]
    cases h <;> exact ⟨_, rfl, by decide, by decide, rfl, _, rfl⟩
  obtain ⟨r, hresolved, hone, hruns, hrows, response, hresponse⟩ := hruns
  obtain ⟨full, hfull, hanswer⟩ := @Staged.answer_eq_answerOn _ _ salesSource _
    (salesFiltered filters fields) rfl linkedTable?_sales hresolved hone hruns ⟨.inl rfl, rfl⟩ _
    hrows
  obtain rfl := h.eq_of_perm hfull
  rw [Staged.compile_fst, hanswer, hresponse]
  obtain ⟨_, -, hresponse⟩ := bind_eq_ok.1 hresponse
  obtain ⟨page, -, hresponse⟩ := bind_eq_ok.1 hresponse
  exact ⟨response, rfl, (counts_of_answerOf hresponse).1⟩

end Sales

/-- Both compilations find the one large sale to Bob, whether or not the clerks are displayed beside
the customers. -/
theorem filters_keep_rows_sales :
    let c := salesFiltered (toBob 5) ["id", "customer", "clerk"]
    let d := salesShowing ["id", "customer", "clerk"]
    let columns := (salesShowing ["id", "customer"]).columns
    let lists := [displayed sales d [], displayed sales { d with columns := columns } []]
    c.describedTable = .ok d ∧ salesSource.database.table? d.name = some sales ∧
    SearchesNothing c.paging ∧
    (∀ f ∈ c.filters, f.Stays sales (displayed sales d [])
      (displayed sales { d with columns := columns } [])) ∧
    ((Direct.reading salesSource.database sales).JoinsOnce sales
        (Direct.relationsOf d []).values ∧
      ∃ payload payload', Direct.compile salesSource c = .ok payload ∧
        Direct.compile salesSource (c.displaying columns) = .ok payload' ∧
        ∃ rows, (∀ shown ∈ lists, (Direct.reading salesSource.database sales).Keeps sales shown
            c.filters rows) ∧
          Direct.ShowsRows salesSource c rows payload ∧
          Direct.ShowsRows salesSource (c.displaying columns) rows payload') ∧
    ((Staged.reading salesSource.database sales).JoinsOnce sales
        (Direct.relationsOf d []).values ∧
      ∃ response response', (Staged.compile salesSource c).1 = .ok response ∧
        (Staged.compile salesSource (c.displaying columns)).1 = .ok response' ∧
        ∃ rows, (∀ shown ∈ lists, (Staged.reading salesSource.database sales).Keeps sales shown
            c.filters rows) ∧
          Staged.ShowsRows salesSource c rows response ∧
          Staged.ShowsRows salesSource (c.displaying columns) rows response') := by
  intro c d columns lists
  have hdescribed : c.describedTable = .ok d := rfl
  have hbase : salesSource.database.table? d.name = some sales := rfl
  have hsearch : SearchesNothing c.paging := ⟨.inl rfl, rfl⟩
  have hboth : displayed sales d [] = [customerRelation, clerkRelation] :=
    displayed_sales .both
  have hcustomer : displayed sales { d with columns := columns } [] = [customerRelation] :=
    displayed_sales .customer
  have hfilters : ∀ f ∈ c.filters, f.Stays sales (displayed sales d [])
      (displayed sales { d with columns := columns } []) := by
    rw [hboth, hcustomer]
    refine List.forall_mem_cons.2 ⟨.own (by decide) (by decide), List.forall_mem_singleton.2 ?_⟩
    exact .related (List.mem_cons_self ..) (List.mem_singleton_self _) rfl
  obtain ⟨hdirect, hstaged⟩ := joinsOnce_sales ["id", "customer", "clerk"]
  obtain ⟨payload, hpayload, -⟩ := exists_compile_sales .both
  obtain ⟨payload', hpayload', -⟩ := exists_compile_sales .customer
  obtain ⟨response, hresponse, -⟩ := exists_answer_sales .both
  obtain ⟨response', hresponse', -⟩ := exists_answer_sales .customer
  obtain ⟨hpass, hstages, -⟩ :=
    @filters_keep_rows salesSource d c sales columns hdescribed hbase hsearch hfilters
  exact ⟨hdescribed, hbase, hsearch, hfilters,
    ⟨hdirect, payload, payload', hpayload, hpayload',
      hpass hdirect payload payload' hpayload hpayload'⟩,
    hstaged, response, response', hresponse, hresponse',
      hstages hstaged response response' hresponse hresponse'⟩

/-- Whether both compilations count some number of sales with the columns of some fields, and
another number with those of other fields, although every filter is on a column of the sales or on
what one of the relations displays, and every relation finds one row at most. -/
structure CountsChange (filters : List FilterSpec) (fields fields' : List String)
    (total total' : Nat) : Prop where
  search : SearchesNothing (salesFiltered filters fields).paging
  onSomething : ∀ f ∈ filters,
    f.OnSomething sales (Direct.relationsOf (salesShowing fields) []).values
  joinsOnce : (Direct.reading salesSource.database sales).JoinsOnce sales
      (Direct.relationsOf (salesShowing fields) []).values ∧
    (Staged.reading salesSource.database sales).JoinsOnce sales
      (Direct.relationsOf (salesShowing fields) []).values
  direct : ∃ payload payload', Direct.compile salesSource (salesFiltered filters fields) =
      .ok payload ∧
    Direct.compile salesSource ((salesFiltered filters fields).displaying
      (salesShowing fields').columns) = .ok payload' ∧
    payload.get? "recordsTotal" = some (.int total) ∧
    payload'.get? "recordsTotal" = some (.int total')
  staged : ∃ response response', (Staged.compile salesSource (salesFiltered filters fields)).1 =
      .ok response ∧
    (Staged.compile salesSource ((salesFiltered filters fields).displaying
      (salesShowing fields').columns)).1 = .ok response' ∧
    response.recordsTotal = total ∧ response'.recordsTotal = total'

theorem SalesFound.countsChange {filters : List FilterSpec} {fields fields' : List String}
    {shown shown' : List RelationSpec} {rows rows' : List StoredRow}
    (h : SalesFound filters fields shown rows) (h' : SalesFound filters fields' shown' rows')
    (hfilters : ∀ f ∈ filters,
      f.OnSomething sales [customerRelation, clerkRelation, buyerRelation]) :
    CountsChange filters fields fields' rows.length rows'.length := by
  obtain ⟨payload, hpayload, htotal⟩ := exists_compile_sales h
  obtain ⟨payload', hpayload', htotal'⟩ := exists_compile_sales h'
  obtain ⟨response, hresponse, hcount⟩ := exists_answer_sales h
  obtain ⟨response', hresponse', hcount'⟩ := exists_answer_sales h'
  exact ⟨⟨.inl rfl, rfl⟩, hfilters, joinsOnce_sales fields,
    ⟨payload, payload', hpayload, hpayload', htotal, htotal'⟩,
    response, response', hresponse, hresponse', hcount, hcount'⟩

/-- What is displayed matters to a filter on what a relation displays, which is passed over where
the relation is not displayed: of the sales above eight none is to Bob, but one to Ann is counted
when only their numbers are shown.  And it matters to a filter on a column whose name a relation
takes: no buyer has the number three, but one sale does. -/
theorem filters_lose_undisplayed_relation :
    CountsChange (toBob 8) ["id", "customer"] ["id"] 0 1 ∧
      CountsChange [⟨"id", .equals, .int 3⟩] ["total", "buyer"] ["total"] 0 1 := by
  refine ⟨SalesFound.noneToBob.countsChange .passedOver ?_,
    SalesFound.noBuyer.countsChange .ownNumber ?_⟩
  · refine List.forall_mem_cons.2 ⟨.inl (by decide), List.forall_mem_singleton.2 ?_⟩
    exact .inr ⟨customerRelation, List.mem_cons_self .., rfl⟩
  · exact List.forall_mem_singleton.2 (.inl (by decide))

end AdminGrid

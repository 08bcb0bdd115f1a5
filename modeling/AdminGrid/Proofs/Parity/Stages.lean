import AdminGrid.Proofs.Outcome
import AdminGrid.Staged.Compile

/-!
# Stages without their reports

The reports of the stages and the tally of the rendering are written and never read, so the answer
to a request is that of the same steps without them.
-/

namespace AdminGrid.Cell

/-- A cell under the rule of its column, without the count of those left empty. -/
def ruledValue (style : RowStyle) (field : String) (cell : Value) : Attempt Value :=
  match style.rule? field with
  | none => .ok cell
  | some rule =>
      if cell.isBlank then .ok cell
      else match applyRule rule cell with
        | .ok shown => .ok shown
        | .error (.format _) | .error .badValue => .ok (.text "")
        | .error failure => .error failure

/-- The cell that is shown in a column, without the count of those left empty. -/
def cellValue (style : RowStyle) (row : Entries Value) (field : String) : Attempt Value :=
  match style.formula? field with
  | some f => do ruledValue style field (← Formula.evaluate f row)
  | none =>
      let cell := cellAt row field
      if statusFields.contains field then renderStatus field cell
      else if style.isImageColumn field row then imageCell style.assets field cell row
      else ruledValue style field cell

/-- The cells of the columns in display order, without the count of those left empty. -/
def cellValues (style : RowStyle) (row : Entries Value) :
    List String → Entries Value → Attempt (Entries Value)
  | [], shown => .ok shown
  | field :: rest, shown => do
      let cell ← cellValue style row field
      cellValues style row rest (Entries.put field cell shown)

theorem yields_ruled (style : RowStyle) (field : String) (cell : Value) :
    Yields (ruled style field cell) (ruledValue style field cell) := by
  unfold ruled ruledValue
  cases style.rule? field with
  | none => exact yields_pure cell
  | some rule =>
      by_cases hblank : cell.isBlank = true
      · simp only [if_pos hblank]
        exact yields_pure cell
      · simp only [if_neg hblank]
        cases applyRule rule cell with
        | ok shown => exact yields_pure shown
        | error failure =>
            cases failure with
            | format fault => exact (yields_modify _).bind fun _ => yields_pure _
            | badValue => exact (yields_modify _).bind fun _ => yields_pure _
            | _ => exact yields_throw _

theorem yields_renderCell (style : RowStyle) (row : Entries Value) (field : String) :
    Yields (renderCell style row field) (cellValue style row field) := by
  unfold renderCell cellValue
  cases style.formula? field with
  | some f =>
      cases hcell : Formula.evaluate f row with
      | error failure =>
          simp only [hcell]
          exact yields_throw failure
      | ok cell =>
          simp only [hcell]
          by_cases hempty : cell.text? = some ""
          · rw [if_pos hempty]
            exact (yields_modify _).bind fun _ => yields_ruled style field cell
          · rw [if_neg hempty]
            exact yields_ruled style field cell
  | none =>
      by_cases hstatus : statusFields.contains field = true
      · simp only [if_pos hstatus]
        cases renderStatus field (cellAt row field) with
        | ok shown => exact yields_pure shown
        | error failure => exact yields_throw failure
      · simp only [if_neg hstatus]
        by_cases himage : style.isImageColumn field row = true
        · rw [if_pos himage, if_pos himage]
          cases imageCell style.assets field (cellAt row field) row with
          | ok shown => exact yields_pure shown
          | error failure => exact yields_throw failure
        · rw [if_neg himage, if_neg himage]
          exact yields_ruled style field _

theorem yields_renderCells (style : RowStyle) (row : Entries Value) (fields : List String)
    (shown : Entries Value) :
    Yields (renderCells style row fields shown) (cellValues style row fields shown) := by
  induction fields generalizing shown with
  | nil => exact yields_pure shown
  | cons field rest ih => exact (yields_renderCell style row field).bind fun cell => ih _

theorem yields_renderRow (style : RowStyle) (row : Entries Value) :
    Yields (renderRow style row)
      ((cellValues style row style.ordered []).map fun shown => ⟨shown, [], none, none⟩) := by
  have hcells := (yields_modify fun t : Tally => { t with rows := t.rows + 1 }).bind fun _ =>
    (yields_renderCells style row style.ordered []).bind fun shown =>
      yields_pure (RowView.mk shown [] none none)
  intro state
  refine (hcells state).trans ?_
  cases cellValues style row style.ordered [] <;> rfl

end AdminGrid.Cell

namespace AdminGrid.Staged

open Store

theorem yields_attempt {α : Type} (a : Attempt α) : Yields (attempt a) a := by
  cases a with
  | ok x => exact yields_pure x
  | error e => exact yields_throw e

/-- What makes the action cells of a table, without the report on the buttons. -/
def rowAction (d : TableDescriptor) (c : Request.Context) :
    Attempt (Option (Entries Value → Attempt String)) :=
  if d.actions.enabled then
    (Action.basePath c.route).map fun base => some fun row =>
      Action.render (Action.resolve (c.buttonRequest d)).buttons row base d.urlTargetField
        d.softDeleteField
  else .ok none

/-- The rows of a page before they become an answer. -/
def pageOf (d : TableDescriptor) (c : Request.Context) (fetched : Fetched) (views : List RowView)
    (action : Option (Entries Value → Attempt String)) : Answer.Page where
  request := c.paging
  rows := views
  raws := some fetched.rows
  total := fetched.total
  filtered := fetched.filtered
  flags := Entries.put "url_target_field" (.text d.urlTargetField) d.flags
  action := action

/-- The view of the table of a request. -/
def viewOf (source : Source) (d : TableDescriptor) (base : Table)
    (resolved : Layout.ResolvedColumns) : View :=
  View.of source.database base
    (usedRelations d.name resolved.relations (Layout.mergeRelations d.relations source.catalog))

theorem yields_actionCells (d : TableDescriptor) (c : Request.Context) :
    Yields (actionCells d c) (rowAction d c) := by
  unfold actionCells rowAction
  by_cases henabled : d.actions.enabled = true
  · simp only [if_pos henabled]
    have hbase := (yields_modify fun p : Progress =>
      { p with actions := (Action.resolve (c.buttonRequest d)).report }).bind fun _ =>
        (yields_attempt (Action.basePath c.route)).bind fun base => yields_pure (some fun row =>
          Action.render (Action.resolve (c.buttonRequest d)).buttons row base d.urlTargetField
            d.softDeleteField)
    intro state
    refine (hbase state).trans ?_
    cases Action.basePath c.route <;> rfl
  · simp only [if_neg henabled]
    exact yields_pure none

/-- The rendered rows of a page, without the count of the cells left empty. -/
def rowViews (source : Source) (d : TableDescriptor) (resolved : Layout.ResolvedColumns)
    (rows : List (Entries Value)) : Attempt (List RowView) :=
  rows.mapM fun row =>
    (Cell.cellValues (rowStyle d source.assets resolved) row resolved.ordered []).map fun shown =>
      ⟨shown, [], none, none⟩

theorem yields_enrichStage (source : Source) (d : TableDescriptor)
    (resolved : Layout.ResolvedColumns) (rows : List (Entries Value)) :
    Yields (enrichStage source d resolved rows) (rowViews source d resolved rows) := by
  have hviews := Yields.mapM (Cell.yields_renderRow (rowStyle d source.assets resolved)) rows
    ⟨0, 0⟩
  unfold enrichStage
  rcases hrun : (rows.mapM (Cell.renderRow (rowStyle d source.assets resolved))).run.run ⟨0, 0⟩
    with ⟨views, tally⟩
  rw [hrun] at hviews
  change views = rowViews source d resolved rows at hviews
  have hstage := (yields_modify fun p : Progress => { p with formatter := tally.report }).bind
    fun _ => (yields_attempt views).bind fun views =>
      (yields_modify fun p : Progress => { p with stages := p.stages ++ ["enrich"] }).bind
        fun _ => yields_pure views
  intro state
  simp only [hrun]
  refine (hstage state).trans ?_
  rw [← hviews]
  cases views <;> rfl

theorem yields_queryStage (source : Source) (d : TableDescriptor) (c : Request.Context)
    (base : Table) (resolved : Layout.ResolvedColumns) :
    Yields (queryStage source d c base resolved
        (Layout.mergeRelations d.relations source.catalog))
      ((viewOf source d base resolved).fetch (fetchOf d c resolved)) := by
  have hstage := (yields_modify fun p : Progress => { p with
      source := sourceReport d.name 0 (tablesRead source.database base (usedRelations d.name
        resolved.relations (Layout.mergeRelations d.relations source.catalog))) }).bind fun _ =>
    (yields_attempt ((viewOf source d base resolved).fetch (fetchOf d c resolved))).bind
      fun fetched => (yields_modify fun p : Progress => { p with
        source := sourceReport d.name
          (queryCount (viewOf source d base resolved) (fetchOf d c resolved))
          (tablesRead source.database base (usedRelations d.name
            resolved.relations (Layout.mergeRelations d.relations source.catalog)))
        stages := p.stages ++ ["query"] }).bind fun _ => yields_pure fetched
  intro state
  refine (hstage state).trans ?_
  cases (viewOf source d base resolved).fetch (fetchOf d c resolved) <;> rfl

theorem yields_finalizeStage (d : TableDescriptor) (c : Request.Context)
    (resolved : Layout.ResolvedColumns) (fetched : Fetched) (views : List RowView) :
    Yields (finalizeStage d c resolved fetched views) (do
      let action ← rowAction d c
      Answer.assemble (pageOf d c fetched views action) (Answer.columnExtras resolved)) := by
  have hstage := (yields_actionCells d c).bind fun action =>
    (yields_attempt (Answer.assemble (pageOf d c fetched views action)
      (Answer.columnExtras resolved))).bind fun response =>
        (yields_modify fun p : Progress =>
          { p with response := (pageOf d c fetched views action).report }).bind
            fun _ => yields_pure response
  intro state
  refine (hstage state).trans ?_
  cases rowAction d c with
  | error e => rfl
  | ok action =>
      show (Answer.assemble (pageOf d c fetched views action) (Answer.columnExtras resolved) >>=
        fun response => (.ok response : Attempt PagingResponse)) = _
      cases hassemble : Answer.assemble (pageOf d c fetched views action)
        (Answer.columnExtras resolved) with
      | error e => exact hassemble.symm
      | ok response => exact hassemble.symm

/-- The table and the columns of a request, without the reports on them. -/
def resolvedOf (source : Source) (d : TableDescriptor) :
    Attempt (Table × Layout.ResolvedColumns) :=
  match source.database.linkedTable? d.name with
  | none => .error (.configuration (.unknownTable d.name))
  | some base =>
      (Layout.resolveColumns
        (columnRequest base d (Layout.mergeRelations d.relations source.catalog))).map
          fun resolved => (base, resolved)

theorem resolvedOf_eq_ok {source : Source} {d : TableDescriptor}
    {found : Table × Layout.ResolvedColumns} : resolvedOf source d = .ok found ↔
      source.database.linkedTable? d.name = some found.1 ∧
        Layout.resolveColumns (columnRequest found.1 d
          (Layout.mergeRelations d.relations source.catalog)) = .ok found.2 := by
  obtain ⟨base, r⟩ := found
  unfold resolvedOf
  cases source.database.linkedTable? d.name with
  | none => exact iff_of_false (fun h => nomatch h) fun h => nomatch h.1
  | some t =>
      dsimp only
      rw [map_eq_ok, Option.some_inj]
      constructor
      · rintro ⟨r', hr, heq⟩
        cases heq
        exact ⟨rfl, hr⟩
      · rintro ⟨rfl, hr⟩
        exact ⟨r, hr, rfl⟩

theorem yields_resolveStage (source : Source) (d : TableDescriptor) :
    Yields (resolveStage source d (Layout.mergeRelations d.relations source.catalog))
      (resolvedOf source d) := by
  unfold resolveStage resolvedOf
  cases source.database.linkedTable? d.name with
  | none => exact (yields_modify _).bind fun _ => yields_throw _
  | some base =>
      have hstage := (yields_modify fun p : Progress =>
          { p with source := sourceReport d.name 0 [] }).bind fun _ =>
        (yields_modify fun p : Progress =>
          { p with source := sourceReport d.name 0 [base.name] }).bind fun _ =>
        (yields_attempt (Layout.resolveColumns (columnRequest base d
          (Layout.mergeRelations d.relations source.catalog)))).bind fun resolved =>
        (yields_modify fun p : Progress => { p with
          columns := resolved.report (columnRequest base d
            (Layout.mergeRelations d.relations source.catalog))
          stages := p.stages ++ ["resolve"] }).bind fun _ => yields_pure (base, resolved)
      intro state
      refine (hstage state).trans ?_
      show _ = (Layout.resolveColumns (columnRequest base d
        (Layout.mergeRelations d.relations source.catalog))).map fun resolved => (base, resolved)
      cases Layout.resolveColumns (columnRequest base d
        (Layout.mergeRelations d.relations source.catalog)) <;> rfl

/-- The answer to a request, without the reports of the stages. -/
def answer (source : Source) (c : Request.Context) : Attempt PagingResponse := do
  let d ← c.describedTable
  let found ← resolvedOf source d
  let fetched ← (viewOf source d found.1 found.2).fetch (fetchOf d c found.2)
  let views ← rowViews source d found.2 fetched.rows
  let action ← rowAction d c
  Answer.assemble (pageOf d c fetched views action) (Answer.columnExtras found.2)

theorem yields_stages (source : Source) (c : Request.Context) :
    Yields (stages source c) (answer source c) :=
  (yields_attempt c.describedTable).bind fun d =>
    (yields_resolveStage source d).bind fun found =>
      (yields_queryStage source d c found.1 found.2).bind fun fetched =>
        (yields_enrichStage source d found.2 fetched.rows).bind fun views =>
          yields_finalizeStage d c found.2 fetched views

theorem compile_fst (source : Source) (c : Request.Context) :
    (compile source c).1 = answer source c :=
  yields_stages source c .start

end AdminGrid.Staged

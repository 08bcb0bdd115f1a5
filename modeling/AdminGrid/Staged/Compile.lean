import AdminGrid.Action.Render
import AdminGrid.Answer.Assembly
import AdminGrid.Cell.Row
import AdminGrid.Source
import AdminGrid.Staged.Query

/-!
# Compilation in stages

A request becomes its answer in four stages: its columns are resolved, a page of rows is fetched,
the rows are rendered, and the answer is assembled.  Every stage leaves a report, also where a later
one fails.
-/

namespace AdminGrid.Staged

open Store

/-- The reports of the stages so far. -/
structure Progress where
  columns : Entries Value
  actions : Entries Value
  formatter : Entries Value
  response : Entries Value
  source : Entries Value
  /-- The stages that are done and timed. -/
  stages : List String

/-- No reports. -/
def Progress.start : Progress := ⟨[], [], [], [], [], []⟩

/-- The reports as one document. -/
def Progress.report (p : Progress) : Entries Value :=
  [("columns", .map p.columns), ("actions", .map p.actions), ("formatter", .map p.formatter),
    ("response", .map p.response), ("data_source", .map p.source),
    ("timings", .ofTexts (p.stages.mergeSort fun a b => a ≤ b))]

/-- A computation that leaves reports. -/
abbrev Staging (α : Type) := ExceptT Failure (StateM Progress) α

/-- An attempt that leaves no report. -/
def attempt {α : Type} (a : Attempt α) : Staging α :=
  match a with
  | .ok x => pure x
  | .error failure => throw failure

/-- The report on the tables that were read. -/
def sourceReport (table : String) (queries : Nat) (tables : List String) : Entries Value :=
  [("table", .text table), ("queries", .int queries), ("reflected", .ofTexts tables)]

/-- What the columns of a request are resolved from. -/
def columnRequest (base : Table) (d : TableDescriptor) (relations : List RelationSpec) :
    Layout.ColumnRequest :=
  let requested := Layout.requestedColumns d
  ⟨requested, relations, d.formulas, some (Layout.schemaColumns requested base.columnNames),
    d.labels⟩

/-- Resolves the columns of a request. -/
def resolveStage (source : Source) (d : TableDescriptor) (relations : List RelationSpec) :
    Staging (Table × Layout.ResolvedColumns) := do
  modify fun p => { p with source := sourceReport d.name 0 [] }
  match source.database.linkedTable? d.name with
  | none => throw (.configuration (.unknownTable d.name))
  | some base =>
      modify fun p => { p with source := sourceReport d.name 0 [base.name] }
      let request := columnRequest base d relations
      let resolved ← attempt (Layout.resolveColumns request)
      modify fun p =>
        { p with columns := resolved.report request, stages := p.stages ++ ["resolve"] }
      return (base, resolved)

/-- What the page of a request is fetched by. -/
def fetchOf (d : TableDescriptor) (c : Request.Context) (resolved : Layout.ResolvedColumns) :
    Fetch where
  ordered := resolved.ordered
  request := c.paging
  filters := c.filters
  orderBy := d.orderBy
  hidden := Layout.excludedFields d resolved.relations (·.searchable)
  fixed := Layout.excludedFields d resolved.relations (·.sortable)

/-- Fetches the page of a request. -/
def queryStage (source : Source) (d : TableDescriptor) (c : Request.Context) (base : Table)
    (resolved : Layout.ResolvedColumns) (relations : List RelationSpec) : Staging Fetched := do
  let used := usedRelations d.name resolved.relations relations
  let tables := tablesRead source.database base used
  modify fun p => { p with source := sourceReport d.name 0 tables }
  let view := View.of source.database base used
  let f := fetchOf d c resolved
  let fetched ← attempt (view.fetch f)
  modify fun p => { p with
    source := sourceReport d.name (queryCount view f) tables, stages := p.stages ++ ["query"] }
  return fetched

/-- The style in which the rows of a table are rendered. -/
def rowStyle (d : TableDescriptor) (assets : Cell.Assets) (resolved : Layout.ResolvedColumns) :
    Cell.RowStyle :=
  ⟨assets, d.fieldsWith (·.imageHint), resolved.ordered, d.formulas, d.formatRules⟩

/-- Renders the rows of a page. -/
def enrichStage (source : Source) (d : TableDescriptor) (resolved : Layout.ResolvedColumns)
    (rows : List (Entries Value)) : Staging (List RowView) := do
  let style := rowStyle d source.assets resolved
  let (views, tally) := (rows.mapM (Cell.renderRow style)).run.run ⟨0, 0⟩
  modify fun p => { p with formatter := tally.report }
  let views ← attempt views
  modify fun p => { p with stages := p.stages ++ ["enrich"] }
  return views

/-- What makes the action cells of a table, if it has any. -/
def actionCells (d : TableDescriptor) (c : Request.Context) :
    Staging (Option (Entries Value → Attempt String)) := do
  if d.actions.enabled then
    let choice := Action.resolve (c.buttonRequest d)
    modify fun p => { p with actions := choice.report }
    let base ← attempt (Action.basePath c.route)
    return some fun row => Action.render choice.buttons row base d.urlTargetField d.softDeleteField
  else return none

/-- Assembles the answer. -/
def finalizeStage (d : TableDescriptor) (c : Request.Context) (resolved : Layout.ResolvedColumns)
    (fetched : Fetched) (views : List RowView) : Staging PagingResponse := do
  let page : Answer.Page := {
    request := c.paging
    rows := views
    raws := some fetched.rows
    total := fetched.total
    filtered := fetched.filtered
    flags := Entries.put "url_target_field" (.text d.urlTargetField) d.flags
    action := ← actionCells d c }
  let response ← attempt (Answer.assemble page (Answer.columnExtras resolved))
  modify fun p => { p with response := page.report }
  return response

/-- All stages of a request. -/
def stages (source : Source) (c : Request.Context) : Staging PagingResponse := do
  let d ← attempt c.describedTable
  let relations := Layout.mergeRelations d.relations source.catalog
  let (base, resolved) ← resolveStage source d relations
  let fetched ← queryStage source d c base resolved relations
  let views ← enrichStage source d resolved fetched.rows
  finalizeStage d c resolved fetched views

/-- The answer to a request, with the reports of the stages. -/
def compile (source : Source) (c : Request.Context) : Attempt PagingResponse × Progress :=
  (stages source c).run.run .start

end AdminGrid.Staged

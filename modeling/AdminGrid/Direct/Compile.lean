import AdminGrid.Action.Render
import AdminGrid.Answer.Assembly
import AdminGrid.Cell.Row
import AdminGrid.Direct.Query
import AdminGrid.Source

/-!
# Compilation in a single pass

A request becomes its answer in one pass: the query is read off the descriptor, run, and its rows
are made into items one by one.
-/

namespace AdminGrid.Direct

/-! ## The rows of a single pass

A raw row becomes an item of the answer in one go: its cells, its number, its action cell and the
attributes of a clickable row. -/

open Store

/-- A stored cell as a raw row shows it; bytes are read as the characters that they stand for. -/
def rawCell : Stored → Value
  | .blob bytes => .text (Text.ofBytes bytes)
  | cell => cell.toValue

/-- The raw row of a joined row: the columns of the table and the shown columns of the joins. -/
def rawRow (p : Plan) (row : JoinedRow) : Entries Value :=
  row.base.map (fun (column, cell) => (column, rawCell cell)) ++
    p.joins.map fun j => (j.displayField, rawCell (row.cell j.displayColumn))

/-- The raw rows of a page.  A join that shows its column under the name of a column of the table
makes that name ambiguous. -/
def rawRows (p : Plan) (rows : List JoinedRow) : Attempt (List (Entries Value)) :=
  if !rows.isEmpty && p.joins.any fun j => p.base.columnNames.contains j.displayField then
    .error .ambiguousColumn
  else .ok (rows.map (rawRow p))

/-- What the items of an answer depend on. -/
structure ItemStyle where
  fields : List String
  descriptor : TableDescriptor
  assets : Cell.Assets
  buttons : List ActionButton
  basePath : String
  start : Int

namespace ItemStyle

/-- The formula of a field, the last one where there are several. -/
def formula? (s : ItemStyle) (field : String) : Option FormulaSpec :=
  (Entries.ofList (s.descriptor.formulas.map fun f => (f.name, f))).get? field

/-- The format rule of a field, the last one where there are several. -/
def rule? (s : ItemStyle) (field : String) : Option FormatRule :=
  (Entries.ofList (s.descriptor.formatRules.map fun r => (r.field, r))).get? field

/-- Whether a field shows images. -/
def showsImage (s : ItemStyle) (field : String) (row : Entries Value) : Bool :=
  (s.descriptor.fieldsWith (·.imageHint)).contains field ||
    !(cellAt row (field ++ "_thumb")).isBlank || Cell.looksLikeImage (cellAt row field)

end ItemStyle

/-- A cell under the rule of its field, empty where the rule finds no number in it. -/
def ruledCell (s : ItemStyle) (field : String) (cell : Value) : Attempt Value :=
  match s.rule? field with
  | none => .ok cell
  | some rule =>
      if cell.isBlank then .ok cell
      else match Cell.applyRule rule cell with
        | .error (.format _) => .ok (.text "")
        | result => result

/-- The cell of a field. -/
def itemCell (s : ItemStyle) (row : Entries Value) (field : String) : Attempt Value :=
  match s.formula? field with
  | some f => do ruledCell s field (← Formula.evaluate f row)
  | none =>
      let cell := cellAt row field
      if Cell.statusFields.contains field then Cell.renderStatus field cell
      else if s.showsImage field row then Cell.imageCell s.assets field cell row
      else ruledCell s field cell

/-- The cells of the fields in display order. -/
def itemCells (s : ItemStyle) (row : Entries Value) : Attempt (Entries Value) := do
  return Entries.ofList (← s.fields.mapM fun field => do return (field, ← itemCell s row field))

/-- An item with its number. -/
def withNumber (s : ItemStyle) (i : Nat) (item : Entries Value) : Entries Value :=
  if s.descriptor.numbering then
    let number : Value := .int (s.start + i + 1)
    let item := item.put "DT_RowIndex" number
    if item.has Layout.numberColumn then item.put Layout.numberColumn number else item
  else item

/-- An item with its action cell. -/
def withAction (s : ItemStyle) (row item : Entries Value) : Attempt (Entries Value) :=
  if s.descriptor.actions.enabled then
    (Action.render s.buttons row s.basePath s.descriptor.urlTargetField
      s.descriptor.softDeleteField).map fun cell => item.put Layout.actionColumn (.text cell)
  else .ok item

/-- The field by which a clickable row is named. -/
def targetField (d : TableDescriptor) : String :=
  if d.urlTargetField = "" then "id" else d.urlTargetField

/-- An item with the attributes of a clickable row. -/
def withAttributes (s : ItemStyle) (row item : Entries Value) : Attempt (Entries Value) :=
  if s.descriptor.clickable then do
    let token ← Answer.encodeId (cellAt row (targetField s.descriptor))
    let attributes : Entries String :=
      ("class", Answer.clickableClass) :: (token.map fun t => ("rlp", t)).toList
    return (item.put "DT_RowAttr" (.ofTextMap attributes)).put "DT_RowClass"
      (.text Answer.clickableClass)
  else .ok item

/-- The item of a raw row at a place on the page. -/
def itemOf (s : ItemStyle) (i : Nat) (row : Entries Value) : Attempt (Entries Value) := do
  withAttributes s row (← withAction s row (withNumber s i (← itemCells s row)))

/-- The items of raw rows from a place on. -/
def itemsFrom (s : ItemStyle) (i : Nat) : List (Entries Value) → Attempt (List (Entries Value))
  | [] => .ok []
  | row :: rest => do return (← itemOf s i row) :: (← itemsFrom s (i + 1) rest)

/-! ## The whole answer -/

/-- The style of the items of a request, with the buttons where the table has any. -/
def itemStyle (d : TableDescriptor) (c : Request.Context) (assets : Cell.Assets)
    (fields : List String) : Attempt ItemStyle :=
  if d.actions.enabled then do
    let buttons := (Action.resolve (c.buttonRequest d)).buttons
    return ⟨fields, d, assets, buttons, ← Action.basePath c.route, c.paging.start⟩
  else .ok ⟨fields, d, assets, [], "", c.paging.start⟩

/-- An answer as a grid reads it. -/
def payload (draw : Int) (found : Found) (items : List (Entries Value)) : Entries Value :=
  [("draw", .int draw), ("recordsTotal", .int found.total),
    ("recordsFiltered", .int found.filtered), ("data", .list (items.map Value.map))]

/-- The answer to a request. -/
def compile (source : Source) (c : Request.Context) : Attempt (Entries Value) := do
  let d ← c.describedTable
  match source.database.table? d.name with
  | none => .error (.configuration (.unknownTable d.name))
  | some base =>
      let p ← plan source.database base d source.catalog
      let found ← p.find d c
      let style ← itemStyle d c source.assets p.fields
      let items ← itemsFrom style 0 (← rawRows p found.rows)
      return payload c.paging.draw found items

end AdminGrid.Direct

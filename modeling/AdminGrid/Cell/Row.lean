import AdminGrid.Cell.Image
import AdminGrid.Cell.Number
import AdminGrid.Descriptor.Answer
import AdminGrid.Formula.Compute
import AdminGrid.Value.Form

/-!
# Rows of cells

A raw row becomes a rendered one, field by field in display order.  A formula is computed, a status
is put into words, an image is shown, and any other cell follows its format rule.  Cells that cannot
be shown are left empty and counted.
-/

namespace AdminGrid.Cell

/-! ## Status cells

A few columns hold codes that are shown as words. -/

/-- The words of a request's progress, by code. -/
def requestStatusLabels : List String := ["Pending", "Accept", "Blocked", "Ban"]

/-- The columns whose codes are shown as words. -/
def statusFields : List String := ["active", "flag_status", "update_status", "request_status"]

/-- The words for a code of a column, if it has any. -/
def statusLabel? (field : String) (code : Int) : Option String :=
  if field = "active" || field = "update_status" then some (if code = 1 then "Yes" else "No")
  else if field = "flag_status" then
    some (if code = 0 then "Super Admin <sup>( root )</sup>"
      else if code = 1 then "Administrator"
      else "End User <sup>( all )</sup>")
  else if field = "request_status" then
    if 0 ≤ code then requestStatusLabels[code.toNat]? else none
  else none

/-- A status cell as it is shown; what is no code stays as it is. -/
def renderStatus (field : String) (cell : Value) : Attempt Value :=
  if cell.isBlank then .ok cell
  else do
    match ← cell.whole? with
    | none => return cell
    | some code => return ((statusLabel? field code).map Value.text).getD cell

/-! ## Rows -/

/-- How many rows were rendered, and how many of their cells had to be left empty. -/
structure Tally where
  rows : Nat
  softFailures : Nat
  deriving DecidableEq

/-- What the rendering of a row depends on. -/
structure RowStyle where
  assets : Assets
  imageFields : List String
  ordered : List String
  formulas : List FormulaSpec
  rules : List FormatRule

/-- A computation that counts the cells left empty. -/
abbrev Counting (α : Type) := ExceptT Failure (StateM Tally) α

namespace RowStyle

/-- Whether a column shows images. -/
def isImageColumn (style : RowStyle) (field : String) (row : List (String × Value)) : Bool :=
  style.imageFields.contains field || !(cellAt row (field ++ "_thumb")).isBlank ||
    looksLikeImage (cellAt row field)

/-- The rule of a column, the last one where there are several. -/
def rule? (style : RowStyle) (field : String) : Option FormatRule :=
  style.rules.reverse.find? (·.field == field)

/-- The formula of a column, the last one where there are several. -/
def formula? (style : RowStyle) (field : String) : Option FormulaSpec :=
  style.formulas.reverse.find? (·.name == field)

end RowStyle

/-- Counts a cell that is left empty. -/
def countFailure : Counting Unit :=
  modify fun t => { t with softFailures := t.softFailures + 1 }

/-- A cell under the rule of its column.  A cell that the rule cannot show is left empty. -/
def ruled (style : RowStyle) (field : String) (cell : Value) : Counting Value :=
  match style.rule? field with
  | none => pure cell
  | some rule =>
      if cell.isBlank then pure cell
      else match applyRule rule cell with
        | .ok shown => pure shown
        | .error (.format _) | .error .badValue => do
            countFailure
            return .text ""
        | .error failure => throw failure

/-- The cell that is shown in a column. -/
def renderCell (style : RowStyle) (row : List (String × Value)) (field : String) : Counting Value :=
  match style.formula? field with
  | some f =>
      match Formula.evaluate f row with
      | .error failure => throw failure
      | .ok cell => do
          if cell.text? = some "" then countFailure
          ruled style field cell
  | none =>
      let cell := cellAt row field
      if statusFields.contains field then
        match renderStatus field cell with
        | .ok shown => pure shown
        | .error failure => throw failure
      else if style.isImageColumn field row then
        match imageCell style.assets field cell row with
        | .ok shown => pure shown
        | .error failure => throw failure
      else ruled style field cell

/-- The cells of the columns in display order. -/
def renderCells (style : RowStyle) (row : List (String × Value)) :
    List String → List (String × Value) → Counting (List (String × Value))
  | [], shown => pure shown
  | field :: rest, shown => do
      let cell ← renderCell style row field
      renderCells style row rest (Entries.put field cell shown)

/-- A raw row as a rendered one. -/
def renderRow (style : RowStyle) (row : List (String × Value)) : Counting RowView := do
  modify fun t => { t with rows := t.rows + 1 }
  return ⟨← renderCells style row style.ordered [], [], none, none⟩

/-- What was counted, as the entries of a report. -/
def Tally.report (t : Tally) : List (String × Value) :=
  [("rows", .int t.rows), ("soft_failures", .int t.softFailures)]

end AdminGrid.Cell

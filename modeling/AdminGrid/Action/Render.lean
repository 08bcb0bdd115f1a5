import AdminGrid.Action.Verb
import AdminGrid.Text.Escape
import AdminGrid.Value.Form

/-!
# The action cell of a row

The buttons of a row as markup.  A row that was deleted but is still kept offers only its
restoration, and its other buttons are shown without links.
-/

namespace AdminGrid.Action

/-- The actions that are offered on a row; insertion is offered once for the table. -/
def rowVerbs : List String := ["view", "edit", "delete"]

/-- The title of a button of an action. -/
def verbTitle (verb : String) : String :=
  if verb = "view" then "View detail" else if verb = "edit" then "Edit" else "Delete"

/-- The attributes that show a button's title, and its icon. -/
def buttonTail (title icon : String) : String :=
  " data-toggle=\"tooltip\" data-placement=\"top\" data-original-title=\"" ++ title ++
    "\"><i class=\"fa fa-" ++ icon ++ "\"></i></a>"

/-- A button that leads somewhere. -/
def linkButton (href css title icon : String) : String :=
  "<a href=\"" ++ href ++ "\" class=\"" ++ css ++ "\"" ++ buttonTail title icon

/-- A button that leads nowhere. -/
def disabledButton (css title icon : String) : String :=
  "<a class=\"" ++ css ++ "\" disabled readonly" ++ buttonTail title icon

/-- The button of the deletion, or of the restoration of a deleted row. -/
def renderDelete (b : ActionButton) (start : String) (restore : Bool) : String :=
  let color := if restore then "warning" else b.color
  let icon := if restore then "recycle" else b.icon
  let action := if restore then "restore_deleted" else "delete"
  linkButton (Text.escape start ++ "/" ++ action)
    (Text.escape ("btn btn-" ++ color ++ " btn-xs btn_delete"))
    (if restore then "Restore" else "Delete") (Text.escape icon)

/-- A button of a row whose links start with a path. -/
def renderButton (b : ActionButton) (start : String) (restore : Bool) : String :=
  if !b.custom && b.name = "delete" then renderDelete b start restore
  else
    let title := if b.custom then Text.escape (Text.lower b.name) else verbTitle b.name
    let icon := Text.escape b.icon
    let kind := if b.custom then "" else " btn_" ++ b.name
    if restore then disabledButton (Text.escape ("btn btn-default btn-xs" ++ kind)) title icon
    else
      let css :=
        if b.custom then "btn btn-" ++ b.name ++ " btn-" ++ b.color ++ " btn-xs"
        else "btn btn-" ++ b.color ++ " btn-xs" ++ kind
      linkButton (Text.escape (start ++ "/" ++ b.name)) (Text.escape css) title icon

/-- Whether a button is shown on a row. -/
def onRow (b : ActionButton) : Bool := b.custom || rowVerbs.contains b.name

/-- The text by which the links of a row name it. -/
def rowId (row : List (String × Value)) (targetField : String) : Attempt String :=
  match cellAt row targetField with
  | .null => ((Entries.get? "id" row).getD (.text "")).written
  | cell => cell.written

/-- Whether a row was deleted but is still kept. -/
def offersRestore (row : List (String × Value)) (softDeleteField : Option String) : Bool :=
  match softDeleteField with
  | some field => field != "" && !(cellAt row field).isBlank
  | none => false

/-- The markup of an action cell whose links start with a path. -/
def cellMarkup (buttons : List ActionButton) (start : String) (restore : Bool) : String :=
  "<div class=\"action-buttons-box\"><div class=\"hidden-sm hidden-xs action-buttons\">" ++
    String.join ((buttons.filter onRow).map fun b => renderButton b start restore) ++ "</div></div>"

/-- The path that the links of a row start with. -/
def rowPath (basePath id : String) : String := Text.stripEnd '/' basePath ++ "/" ++ id

/-- The action cell of a row. -/
def render (buttons : List ActionButton) (row : List (String × Value)) (basePath : String)
    (targetField : String) (softDeleteField : Option String) : Attempt String :=
  (rowId row targetField).map fun id =>
    cellMarkup buttons (rowPath basePath id) (offersRestore row softDeleteField)

theorem render_eq_ok_iff {buttons : List ActionButton} {row : List (String × Value)}
    {basePath targetField cell : String} {softDeleteField : Option String} :
    render buttons row basePath targetField softDeleteField = .ok cell ↔
      ∃ id, rowId row targetField = .ok id ∧
        cellMarkup buttons (rowPath basePath id) (offersRestore row softDeleteField) = cell := by
  unfold render
  cases rowId row targetField <;> simp [Except.map]

end AdminGrid.Action

import AdminGrid.Descriptor.Action
import AdminGrid.Descriptor.Answer
import AdminGrid.Text.Blank

/-!
# Verbs and button descriptions

A verb has several names, and each names one of four actions.  A button is described by a text of
up to three parts: its name, its color and its icon.
-/

namespace AdminGrid.Action

/-- The names of the four actions. -/
def verbNames : List (String × String) :=
  [("view", "view"), ("index", "view"), ("show", "view"), ("read", "view"), ("insert", "insert"),
    ("create", "insert"), ("add", "insert"), ("store", "insert"), ("edit", "edit"),
    ("update", "edit"), ("modify", "edit"), ("delete", "delete"), ("destroy", "delete")]

/-- The action that a name stands for, if it stands for one. -/
def canonicalVerb? (name : String) : Option String :=
  Entries.get? (Text.lower (Text.strip name)) verbNames

/-- The color and icon of the button of an action. -/
def defaultStyle (verb : String) : String × String :=
  if verb = "view" then ("success", "eye")
  else if verb = "insert" then ("primary", "plus")
  else if verb = "edit" then ("primary", "pencil")
  else ("danger", "times")

/-- The button of an action in its default style. -/
def defaultButton (verb : String) : ActionButton :=
  ⟨verb, (defaultStyle verb).1, (defaultStyle verb).2, false⟩

/-- A part of a description, or what stands for it where it is absent or empty. -/
def partOr (parts : List String) (i : Nat) (default : String) : String :=
  match parts[i]? with
  | some part => if part = "" then default else part
  | none => default

/-- The button that a text describes, if it describes one. -/
def describedButton? (spec : String) : Option ActionButton :=
  let parts := (Text.splitOn '|' spec).map Text.strip
  let name := partOr parts 0 ""
  if name = "" then none
  else
    let color := partOr parts 1 "default"
    let icon := partOr parts 2 "link"
    match canonicalVerb? name with
    | some verb => some ⟨verb, color, icon, false⟩
    | none => some ⟨name, color, icon, true⟩

/-- The buttons that an owner's description stands for. -/
def buttonsOf : ButtonSpec → List ActionButton
  | .defaults on => if on then ["view", "edit", "delete"].map defaultButton else []
  | .described spec => (describedButton? spec).toList

end AdminGrid.Action

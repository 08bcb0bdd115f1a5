import AdminGrid.Descriptor.Answer
import AdminGrid.Layout.Resolve
import AdminGrid.Text.Split
import AdminGrid.Value.Form

/-!
# Assembly of an answer

The rendered rows of a page become the answer that a grid reads.  Clickable rows get a token and a
style class, numbered rows their place in the whole result, and rows without an action cell the one
that is made from the raw row.
-/

namespace AdminGrid.Answer

/-! ## Row tokens

A clickable row carries a token in place of its id: the id, moved by an offset when it is a whole
number, and a fixed mark behind it. -/

/-- What is added to a whole number in a token. -/
def tokenOffset : Int := 80

/-- The mark at the end of every token. -/
def tokenMark : String := "ca7d74602b29d5749654d139fe79e261"

/-- The token of a row's id, none when the row has no id. -/
def encodeId (id : Value) : Attempt (Option String) :=
  if id.isBlank then .ok none
  else do
    match ((← id.whole?).map (· + tokenOffset)).bind integerText? with
    | some moved => return some (moved ++ tokenMark)
    | none => return some ((← id.written) ++ tokenMark)

/-- The whole number that a token stands for, if it stands for one. -/
def decodeId (token : String) : Option Int :=
  (Text.dropTail? tokenMark token).bind fun id => (Reading.int? id).map (· - tokenOffset)

/-! ## Pages -/

/-- The style class of a clickable row. -/
def clickableClass : String := "row-list-url clickable"

/-- The rows of a page before they become an answer. -/
structure Page where
  request : PagingRequest
  rows : List RowView
  /-- The raw rows, where they differ from the cells of the rendered ones. -/
  raws : Option (List (Entries Value))
  total : Int
  filtered : Int
  /-- The presentation of the table. -/
  flags : Entries Value
  /-- Makes the action cell of a raw row. -/
  action : Option (Entries Value → Attempt String)

/-- The entries beside the rows that tell about the columns. -/
def columnExtras (r : Layout.ResolvedColumns) : Entries Value :=
  [("columns", .ofTexts r.ordered), ("labels", .ofTextMap r.labels),
    ("relations", r.relations.toValue)]

/-- The cell of a raw row that a flag names, the column `id` when it names none. -/
def targetCell (row flags : Entries Value) : Attempt Value :=
  let target := cellAt flags "url_target_field"
  if !target.truthy then .ok (cellAt row "id")
  else match target with
    | .text field => .ok (cellAt row field)
    | .list _ | .map _ => .error .wrongKind
    | _ => .ok .null

/-- The attributes of a raw row. -/
def rowAttributes (row flags : Entries Value) : Attempt (Entries String) :=
  if !(cellAt flags "clickable").truthy then .ok []
  else do
    match ← encodeId (← targetCell row flags) with
    | some token => return [("class", clickableClass), ("rlp", token)]
    | none => return [("class", clickableClass)]

/-- Attributes that a row has not set itself. -/
def addAttributes (own new : Entries String) : Entries String :=
  new.foldl (fun acc (name, v) => acc.putNew name v) own

/-- The cells of a row with its number. -/
def numbered (values : Entries Value) (number : Int) : Entries Value :=
  let values := values.put "DT_RowIndex" (.int number)
  if values.has Layout.numberColumn then values.put Layout.numberColumn (.int number) else values

/-- The action cell of a row: its own, or the one that is made of its raw row. -/
def actionOf (page : Page) (raw : Entries Value) (view : RowView) : Attempt (Option String) :=
  match view.action, page.action with
  | none, some render => (render raw).map some
  | own, _ => .ok own

/-- One row of an answer, from its place on the page, its raw row and its rendered one. -/
def assembleRow (page : Page) (i : Nat) (raw : Entries Value) (view : RowView) :
    Attempt RowView := do
  let attributes := addAttributes view.rowAttributes (← rowAttributes raw page.flags)
  return {
    values :=
      if (cellAt page.flags "numbering").truthy then
        numbered view.values (page.request.start + i + 1)
      else view.values
    rowAttributes := attributes
    rowClass := (view.rowClass.filter (· != "")).or (attributes.get? "class")
    action := ← actionOf page raw view }

/-- The raw row at a place, the cells of the rendered row where there is none. -/
def Page.rawAt (page : Page) (i : Nat) (view : RowView) : Entries Value :=
  (page.raws.bind (·[i]?)).getD view.values

/-- The rows of an answer from a place on. -/
def assembleRows (page : Page) (i : Nat) : List RowView → Attempt (List RowView)
  | [] => .ok []
  | view :: rest => do
      let row ← assembleRow page i (page.rawAt i view) view
      return row :: (← assembleRows page (i + 1) rest)

/-- The answer for a page. -/
def assemble (page : Page) (extras : Entries Value) : Attempt PagingResponse := do
  let rows ← assembleRows page 0 page.rows
  return ⟨page.request.draw, page.total, page.filtered, rows, extras.merge page.flags⟩

/-- What was assembled, as the entries of a report. -/
def Page.report (page : Page) : Entries Value :=
  [("rows", .int page.rows.length), ("total", .int page.total), ("filtered", .int page.filtered)]

end AdminGrid.Answer

import AdminGrid.Descriptor.Answer
import AdminGrid.Request.Params
import AdminGrid.Text.Case
import AdminGrid.Value.Form

/-!
# The requested page

The page that request parameters ask for.  A number that cannot be read gives way to its default,
and the length of the page is kept within the bounds of the table.  What is read as a text is
written out first, which a whole number of too many digits cannot be.
-/

namespace AdminGrid.Request

/-- The length of a page.  A negative length asks for as much as the table gives. -/
def pageLength (length : Int) (maxLength : Option Int) (defaultLength : Int) : Int :=
  match maxLength with
  | some max =>
      if max = 0 then (if length ≤ 0 then defaultLength else length)
      else min (if length < 0 then max else if length = 0 then defaultLength else length) max
  | none => if length ≤ 0 then defaultLength else length

/-- The index of the column to order by. -/
def orderIndex (params : Params) : Option Int :=
  match lookup params "order" [.index 0, .name "column"] with
  | .null => none
  | v => let i := toInt v (-1); if 0 ≤ i then some i else none

/-- The direction of the order; only the word for a descending one gives it. -/
def orderDirection (params : Params) : Attempt Direction := do
  let v := lookup params "order" [.index 0, .name "dir"]
  if !v.truthy then return .ascending
  return if Text.lower (← v.written) = "desc" then .descending else .ascending

/-- The text to search for, none when only blanks are given. -/
def searchTerm (params : Params) : Attempt (Option String) := do
  let v := lookup params "search" [.name "value"]
  if v.isBlank then return none
  let term := Text.strip (← v.written)
  return if term = "" then none else some term

/-- The text to search for in one column, with the column's name, where the column is searched. -/
def columnSearch? (attributes : Params) : Option (Attempt (String × String)) :=
  let data := cellAt attributes "data"
  let searchable := (Entries.get? "searchable" attributes).getD (.text "true")
  if !data.truthy then none
  else match searchable.written with
    | .error failure => some (.error failure)
    | .ok searchable =>
        let term := ((cellAt attributes "search").get? "value").getD .null
        if Text.lower searchable = "false" || term.isBlank then none
        else some do
          let term ← term.written
          return (← data.written, term)

/-- The page that the parameters ask for. -/
def requestedPage (params : Params) (maxLength : Option Int) (defaultLength : Int) :
    Attempt PagingRequest := do
  let number (name : String) (default : Int) : Int := toInt (cellAt params name) default
  let direction ← orderDirection params
  let term ← searchTerm params
  let columns ← columnEntries params
  let searches ← (columns.filterMap columnSearch?).mapM id
  return {
    start := max 0 (number "start" 0)
    length := pageLength (number "length" defaultLength) maxLength defaultLength
    orderColumnIndex := orderIndex params
    orderDirection := direction
    searchTerm := term
    draw := max 0 (number "draw" 0)
    columnSearches := Entries.ofList searches }

/-- The parameters after the page has been read, or given up.  The columns come last. -/
def paramsAfterPage (params : Params) : Params :=
  match orderDirection params, searchTerm params with
  | .ok _, .ok _ => settled params
  | _, _ => params

end AdminGrid.Request

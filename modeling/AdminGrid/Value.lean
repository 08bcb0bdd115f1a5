import AdminGrid.Calendar
import AdminGrid.Entries
import AdminGrid.Number.Decimal
import AdminGrid.Number.Numeral
import AdminGrid.Text.Quoted

/-!
# Values

Request parameters, table cells and stored documents hold values of any kind.  The entries of a map
are listed with distinct keys.  `Value.text` is how a value reads in a cell, `Value.quoted` how it
reads in a message, and `Value.same` is equality by what a value means: `1`, `1.0` and `true` are
equal.
-/

namespace AdminGrid

/-- A value of a request, a cell or a document. -/
inductive Value where
  | null
  | bool (b : Bool)
  | int (n : Int)
  | float (x : Binary64)
  | text (s : String)
  | bytes (bs : List UInt8)
  | decimal (d : Decimal)
  | date (d : Date)
  | moment (m : Moment)
  | clock (t : Clock)
  | list (items : List Value)
  | tuple (items : List Value)
  | map (entries : List (String × Value))
  deriving Inhabited

namespace Value

/-- The entry of a key in a map; other values have no entries. -/
def get? (key : String) : Value → Option Value
  | map entries => Entries.get? key entries
  | _ => none

/-- The items of a list or a tuple. -/
def items? : Value → Option (List Value)
  | list items | tuple items => some items
  | _ => none

/-- The entries of a map. -/
def entries? : Value → Option (List (String × Value))
  | map entries => some entries
  | _ => none

/-- The text that a value is. -/
def text? : Value → Option String
  | text s => some s
  | _ => none

/-- A number as a value. -/
def ofNumeral : Numeral → Value
  | .int n => int n
  | .float x => float x

/-- Whether a value is absent: null, or the empty text. -/
def isBlank : Value → Bool
  | null => true
  | text s => s == ""
  | _ => false

/-- Whether a value counts as true: it is not null, not zero and not empty. -/
def truthy : Value → Bool
  | null => false
  | bool b => b
  | int n => n != 0
  | float x => !x.isZero
  | text s => s != ""
  | bytes bs => !bs.isEmpty
  | decimal d => !d.isZero
  | date _ | moment _ | clock _ => true
  | list items | tuple items => !items.isEmpty
  | map entries => !entries.isEmpty

/-- A moment as a message shows it. -/
def clockFields (t : Clock) : List String :=
  let shown := [t.hour, t.minute] ++
    (if t.micro ≠ 0 then [t.second, t.micro] else if t.second ≠ 0 then [t.second] else [])
  let zone := t.offset.map fun offset =>
    if offset = 0 then "tzinfo=datetime.timezone.utc"
    else
      let days := if offset < 0 then "days=-1, " else ""
      let seconds := if offset < 0 then 86400 + offset else offset
      "tzinfo=datetime.timezone(datetime.timedelta(" ++ days ++ "seconds=" ++
        toString seconds ++ "))"
  shown.map toString ++ zone.toList

/-- Texts joined by a comma and a blank. -/
def commaJoin (parts : List String) : String := ", ".intercalate parts

mutual

/-- A value as it reads in a message. -/
def quoted : Value → String
  | null => "None"
  | bool b => if b then "True" else "False"
  | int n => toString n
  | float x => x.text .display
  | text s => Text.quoted s
  | bytes bs => Text.quotedBytes bs
  | decimal d => "Decimal('" ++ d.text ++ "')"
  | date d => "datetime.date(" ++ commaJoin ([d.year, d.month, d.day].map toString) ++ ")"
  | moment m =>
      "datetime.datetime(" ++
        commaJoin ([m.date.year, m.date.month, m.date.day].map toString ++ clockFields m.clock) ++
          ")"
  | clock t => "datetime.time(" ++ commaJoin (clockFields t) ++ ")"
  | list items => "[" ++ commaJoin (quotedItems items) ++ "]"
  | tuple [only] => "(" ++ quoted only ++ ",)"
  | tuple items => "(" ++ commaJoin (quotedItems items) ++ ")"
  | map entries => "\x7b" ++ commaJoin (quotedEntries entries) ++ "\x7d"

/-- The items of a list as they read in a message. -/
def quotedItems : List Value → List String
  | [] => []
  | v :: rest => quoted v :: quotedItems rest

/-- The entries of a map as they read in a message. -/
def quotedEntries : List (String × Value) → List String
  | [] => []
  | (key, v) :: rest => (Text.quoted key ++ ": " ++ quoted v) :: quotedEntries rest

end

/-- A value as it reads in a cell. -/
def cellText : Value → String
  | text s => s
  | decimal d => d.text
  | date d => d.iso
  | moment m => m.iso ' '
  | clock t => t.iso
  | v => v.quoted

end Value

/-- The cell of a field in a row, null when the row has none. -/
def cellAt (row : List (String × Value)) (field : String) : Value :=
  (Entries.get? field row).getD .null

end AdminGrid

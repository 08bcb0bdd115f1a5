import AdminGrid.Store.Affinity
import AdminGrid.Store.ColumnType
import AdminGrid.Value.Form

/-!
# Typed cells

Beside the cells that a table keeps, its columns have types, and a type has its own reading of a
cell and its own writing of a value.  A value that is compared with a column is written by the type
of its own kind, unless it has no kind, or one that the column's type is of.
-/

namespace AdminGrid.Store

/-- A value together with the meaning by which it is written. -/
structure Parameter where
  meaning : Meaning
  value : Value

namespace Meaning

/-- The meaning that a value has of its own. -/
def ofValue? : Value → Option Meaning
  | .null | .list _ | .tuple _ | .map _ => none
  | .bool _ => some truth
  | .int _ => some integer
  | .float _ => some floating
  | .decimal _ => some number
  | .text _ => some text
  | .bytes _ => some bytes
  | .date _ => some date
  | .moment _ => some moment
  | .clock _ => some clock

/-- Whether two meanings belong together, as the two kinds of fractional numbers do. -/
def akin (a b : Meaning) : Bool :=
  a = b || ((a = number || a = floating) && (b = number || b = floating))

/-- The meaning by which a value is written that is compared with a column. -/
def compared (column : Meaning) (v : Value) : Meaning :=
  match ofValue? v with
  | none => column
  | some own =>
      if akin own column || (own = text && column = bytes) then column else own

/-- A date as it is written. -/
def writtenDate (d : Date) : Value := .text d.iso

/-- A time of day as it is written, always with the millionths of its second. -/
def clockText (t : Clock) : String :=
  String.ofList (Calendar.padded 2 t.hour ++ ':' :: Calendar.padded 2 t.minute ++
    ':' :: Calendar.padded 2 t.second ++ '.' :: Calendar.padded 6 t.micro)

/-- A moment as it is written. -/
def momentText (d : Date) (t : Clock) : String := d.iso ++ " " ++ clockText t

/-- A value as a truth value; only what equals zero or one is taken. -/
def writeTruth (v : Value) : Attempt Value :=
  match v with
  | .bool b => .ok (.int (if b then 1 else 0))
  | .int n => if n = 0 || n = 1 then .ok (.int n) else .error .unavailable
  | .float x =>
      match x.toInt? with
      | some n => if n = 0 || n = 1 then .ok (.int n) else .error .unavailable
      | none => .error .unavailable
  | .decimal d =>
      if d.sameInt 0 then .ok (.int 0)
      else if d.sameInt 1 then .ok (.int 1)
      else .error .unavailable
  | _ => .error .unavailable

/-- A value as a floating number. -/
def writeNumber (v : Value) : Attempt Value :=
  let read (x : Option Binary64) : Attempt Value := x.elim (.error .unavailable) (.ok <| .float ·)
  match v with
  | .bool b => .ok (.float ((Binary64.ofInt? (if b then 1 else 0)).getD .nan))
  | .int n => read (Binary64.ofInt? n)
  | .float x => .ok (.float x)
  | .decimal d => .ok (.float d.toFloat)
  | .text s => read (Reading.float? s)
  | .bytes bs => read (Reading.float? (Text.ofBytes bs))
  | _ => .error .unavailable

end Meaning

/-- The value that stands for a parameter in a statement. -/
def Parameter.write (p : Parameter) : Attempt Value :=
  match p.meaning, p.value with
  | _, .null => .ok .null
  | .truth, v => Meaning.writeTruth v
  | .floating, v | .number, v => Meaning.writeNumber v
  | .bytes, .bytes bs => .ok (.bytes bs)
  | .bytes, _ => .error .unavailable
  | .date, .date d => .ok (Meaning.writtenDate d)
  | .date, .moment m => .ok (Meaning.writtenDate m.date)
  | .date, _ => .error .unavailable
  | .moment, .date d => .ok (.text (Meaning.momentText d Calendar.midnight))
  | .moment, .moment m => .ok (.text (Meaning.momentText m.date m.clock))
  | .moment, _ => .error .unavailable
  | .clock, .clock t => .ok (.text (Meaning.clockText t))
  | .clock, _ => .error .unavailable
  | _, v => .ok v

/-- A text that is read as a value of its type, a fault of the value where it cannot be. -/
def readText (read : List Char → Option Value) : Stored → Attempt Value
  | .null => .ok .null
  | .text s => (read s.toList).elim (.error .badValue) .ok
  | _ => .error .wrongKind

/-- A number at the decimal places of its type. -/
def readNumber (places : Nat) : Stored → Attempt Value
  | .null => .ok .null
  | .int n => .ok (.float (((Binary64.ofInt? n).getD .nan).roundPlaces places))
  | .real x => .ok (.float (x.roundPlaces places))
  | _ => .error .wrongKind

/-- A cell as its column's type reads it, in plain form. -/
def ColumnType.read (t : ColumnType) (cell : Stored) : Attempt Value :=
  match t.meaning with
  | .truth => .ok (match cell with
      | .null => .null
      | cell => .bool cell.toValue.truthy)
  | .date => readText (fun cs => (Calendar.readDate? cs).map fun d => (Value.date d).plain) cell
  | .moment =>
      readText (fun cs => (Calendar.readMoment? cs).map fun m => (Value.moment m).plain) cell
  | .clock => readText (fun cs => (Calendar.readClock? cs).map fun c => (Value.clock c).plain) cell
  | .number => readNumber t.places cell
  | _ => .ok cell.toValue.plain

end AdminGrid.Store

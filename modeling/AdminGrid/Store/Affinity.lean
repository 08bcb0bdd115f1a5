import AdminGrid.Failure
import AdminGrid.Number.Binary64
import AdminGrid.Number.Numeral
import AdminGrid.Text.Blank
import AdminGrid.Text.Split
import AdminGrid.Text.Utf8

/-!
# Stored cells and the forms that columns prefer

What a cell of a table holds, which form the type of a column prefers for it, and how a value
becomes a cell when a statement is run with it.
-/

namespace AdminGrid.Store

/-! ## Stored cells

A cell of a table holds nothing, a whole number of 64 bits, a floating number, a text or bytes.
Cells are ordered: nothing comes first, then numbers by value, then texts by their characters, then
bytes. -/

/-- A cell of a table. -/
inductive Stored where
  | null
  | int (n : Int)
  | real (x : Binary64)
  | text (s : String)
  | blob (bytes : List UInt8)
  deriving DecidableEq, Inhabited

namespace Stored

/-- The number that a cell holds. -/
def numeral? : Stored → Option Numeral
  | int n => some (.int n)
  | real x => some (.float x)
  | _ => none

/-- A number as a cell. -/
def ofNumeral : Numeral → Stored
  | .int n => int n
  | .float x => real x

/-- A cell as text; bytes are read as the characters that they stand for. -/
def text? : Stored → Option String
  | null => none
  | int n => some (toString n)
  | real x => some x.storedText
  | text s => some s
  | blob bytes => some (Text.ofBytes bytes)

/-- The place of a kind of cells in the order of all cells. -/
def rank : Stored → Nat
  | null => 0
  | int _ | real _ => 1
  | text _ => 2
  | blob _ => 3

/-- The order of two lists by their first difference. -/
def compareLists : List Nat → List Nat → Ordering
  | [], [] => .eq
  | [], _ :: _ => .lt
  | _ :: _, [] => .gt
  | m :: ms, n :: ns => (compare m n).then (compareLists ms ns)

/-- The order of two cells. -/
def order (a b : Stored) : Ordering :=
  match a, b with
  | text s, text t => compareLists (s.toList.map Char.toNat) (t.toList.map Char.toNat)
  | blob s, blob t => compareLists (s.map UInt8.toNat) (t.map UInt8.toNat)
  | a, b => match a.numeral?, b.numeral? with
    | some m, some n => (m.compare? n).getD .eq
    | _, _ => compare a.rank b.rank

end Stored

/-! ## Affinities

The declared type of a column decides which form the column prefers for its cells.  Numbers become
texts in a text column, and texts that read as numbers become numbers in a numeric one.  The same
preference settles how a cell is compared with a value. -/

/-- The form that a column prefers for its cells. -/
inductive Affinity where
  | text | integer | real | numeric | any
  deriving DecidableEq

/-- The affinity of a declared type. -/
def Affinity.ofType (declared : String) : Affinity :=
  let name := String.ofList (declared.toList.map Char.toUpper)
  let names (words : List String) : Bool := words.any fun word => Text.contains word name
  if names ["INT"] then .integer
  else if names ["CHAR", "CLOB", "TEXT"] then .text
  else if name = "" || names ["BLOB"] then .any
  else if names ["REAL", "FLOA", "DOUB"] then .real
  else .numeric

/-- The bounds of whole numbers that a cell can hold. -/
def fitsCell (n : Int) : Bool := -(twoTo 63 : Int) ≤ n && n < twoTo 63

/-- The number that a text reads as. -/
def numberIn? (s : String) : Option Numeral :=
  let cs := Text.trimBy Text.isPlainBlank s.toList
  let (negative, body) := Reading.splitSign cs
  if body.isEmpty then none
  else if body.all Reading.isPlainDigit then
    let n := Binary64.signed negative (Reading.digitsValue body)
    some (if fitsCell n then .int n
      else .float (Reading.ofDecimal negative (Reading.digitsValue body) 0))
  else (Reading.magnitude? negative body).map .float

/-- A floating number that is whole as a whole number, where a cell can hold it. -/
def wholeIfExact (x : Binary64) : Stored :=
  match x.toInt? with
  | some n => if -(twoTo 63 : Int) < n && n < twoTo 63 - 1 then .int n else .real x
  | none => .real x

/-- A cell in numeric form, a text only where it reads as a number. -/
def Stored.asNumber (v : Stored) : Stored :=
  match v with
  | .text s => ((numberIn? s).map Stored.ofNumeral).getD v
  | v => v

/-- A cell in text form; bytes stay as they are. -/
def Stored.asText (v : Stored) : Stored :=
  match v with
  | .int n => .text (toString n)
  | .real x => .text x.storedText
  | v => v

/-- A cell in floating form. -/
def Stored.asReal (v : Stored) : Stored :=
  match v.asNumber with
  | .int n => .real ((Binary64.ofInt? n).getD .nan)
  | v => v

/-- A cell in whole form where nothing is lost by it. -/
def Stored.asWhole (v : Stored) : Stored :=
  match v.asNumber with
  | .real x => wholeIfExact x
  | v => v

/-- A value as a column keeps it. -/
def Affinity.keep (a : Affinity) (v : Stored) : Stored :=
  match a with
  | text => v.asText
  | integer | numeric => v.asWhole
  | real => v.asReal
  | any => v

/-- Whether an affinity is for numbers. -/
def Affinity.isNumeric : Affinity → Bool
  | integer | real | numeric => true
  | text | any => false

/-- Whether a cell is a text. -/
def Stored.isText : Stored → Bool
  | text _ => true
  | _ => false

/-- Two cells in the forms in which they are compared under an affinity. -/
def Affinity.forms (a : Affinity) (v w : Stored) : Stored × Stored :=
  if a.isNumeric then (v.asNumber, w.asNumber)
  else if a = .text && (v.isText || w.isText) then (v.asText, w.asText)
  else (v, w)

/-- The affinity under which the cells of two columns are compared. -/
def Affinity.join (a b : Affinity) : Affinity :=
  if a.isNumeric || b.isNumeric then numeric else any

/-- The order of two cells under an affinity, none when one of them holds nothing. -/
def Affinity.compare? (a : Affinity) (v w : Stored) : Option Ordering :=
  match v, w with
  | .null, _ | _, .null => none
  | v, w => let (v, w) := a.forms v w; some (v.order w)

/-! ## Values in conditions

A value becomes a cell when a statement is run with it.  Whole numbers beyond 64 bits are out of
range, and lists, maps and other compound values cannot be given to a statement. -/

/-- A floating number as a cell; what is no number holds nothing. -/
def realCell (x : Binary64) : Stored :=
  match x with
  | .nan => .null
  | x => .real x

/-- A value as a cell. -/
def bind (v : Value) : Attempt Stored :=
  match v with
  | .null => .ok .null
  | .bool b => .ok (.int (if b then 1 else 0))
  | .int n => if fitsCell n then .ok (.int n) else .error .outOfRange
  | .float x => .ok (realCell x)
  | .text s => .ok (.text s)
  | .bytes bs => .ok (.blob bs)
  | .date d => .ok (.text d.iso)
  | .moment m => .ok (.text (m.iso ' '))
  | .decimal _ | .clock _ | .list _ | .tuple _ | .map _ => .error .unavailable

/-- A cell as a value. -/
def Stored.toValue : Stored → Value
  | null => .null
  | int n => .int n
  | real x => .float x
  | text s => .text s
  | blob bytes => .bytes bytes

end AdminGrid.Store

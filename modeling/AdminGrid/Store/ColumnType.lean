import AdminGrid.Entries
import AdminGrid.Number.Reading
import AdminGrid.Text.Split
import AdminGrid.Text.Word

/-!
# Types of columns

The declared type of a column is a name, and numbers in brackets after it.  The name tells what the
cells of the column mean; a name that is not known is taken for the kind that a part of it hints at.
-/

namespace AdminGrid.Store

/-- What the cells of a column mean. -/
inductive Meaning where
  | integer | truth | floating | number | text | bytes | date | moment | clock | document | untyped
  deriving DecidableEq

/-- The type of a column: what its cells mean, the name of the type, and its numbers. -/
structure ColumnType where
  meaning : Meaning
  name : String
  sizes : List Nat
  deriving DecidableEq

namespace ColumnType

/-- The known names of types. -/
def knownNames : List (String × Meaning × String) :=
  [("BIGINT", .integer, "BIGINT"), ("BLOB", .bytes, "BLOB"), ("BOOL", .truth, "BOOLEAN"),
    ("BOOLEAN", .truth, "BOOLEAN"), ("CHAR", .text, "CHAR"), ("DATE", .date, "DATE"),
    ("DATE_CHAR", .date, "DATE"), ("DATETIME", .moment, "DATETIME"),
    ("DATETIME_CHAR", .moment, "DATETIME"), ("DOUBLE", .floating, "DOUBLE"),
    ("DOUBLE_PRECISION", .floating, "DOUBLE PRECISION"), ("DECIMAL", .number, "DECIMAL"),
    ("FLOAT", .floating, "FLOAT"), ("INT", .integer, "INTEGER"), ("INTEGER", .integer, "INTEGER"),
    ("JSON", .document, "JSON"), ("NUMERIC", .number, "NUMERIC"), ("REAL", .floating, "REAL"),
    ("SMALLINT", .integer, "SMALLINT"), ("TEXT", .text, "TEXT"), ("TIME", .clock, "TIME"),
    ("TIME_CHAR", .clock, "TIME"), ("TIMESTAMP", .moment, "TIMESTAMP"),
    ("VARCHAR", .text, "VARCHAR"), ("NVARCHAR", .text, "NVARCHAR")]

/-- The kind that a name which is not known hints at. -/
def hinted (name : String) : Meaning × String :=
  let names (words : List String) : Bool := words.any fun word => Text.contains word name
  if names ["INT"] then (.integer, "INTEGER")
  else if names ["CHAR", "CLOB", "TEXT"] then (.text, "TEXT")
  else if name = "" || names ["BLOB"] then (.untyped, "NULL")
  else if names ["REAL", "FLOA", "DOUB"] then (.floating, "REAL")
  else (.number, "NUMERIC")

/-- The runs of digits in a list, as numbers. -/
def numbersIn (cs : List Char) : List Nat :=
  ((Text.splitList ',' (cs.map fun c => if Text.isDecimal c then c else ',')).filterMap
    fun digits => Reading.int? (String.ofList digits)).map Int.toNat

/-- The numbers that a type takes: a text one, a decimal number two, a floating one one. -/
def sizesOf (meaning : Meaning) (name : String) (numbers : List Nat) : List Nat :=
  match meaning with
  | .number => if numbers.length ≤ 2 then numbers else []
  | .text => if numbers.length = 1 then numbers else []
  | .floating => if name = "FLOAT" && numbers.length = 1 then numbers else []
  | _ => []

/-- The type that a declaration denotes. -/
def ofDeclaration (declared : String) : ColumnType :=
  let cs := declared.toList.map Char.toUpper
  let isNameChar (c : Char) : Bool := Text.isWord c || c == ' '
  let name := String.ofList (cs.takeWhile isNameChar)
  let inBrackets := match cs.dropWhile isNameChar with
    | '(' :: rest => if rest.contains ')' then rest.takeWhile (· != ')') else []
    | _ => []
  let (meaning, shown) := (Entries.get? name knownNames).getD (hinted name)
  ⟨meaning, shown, sizesOf meaning shown (numbersIn inBrackets)⟩

/-- The type as it is shown. -/
def text (t : ColumnType) : String :=
  if t.sizes.isEmpty || t.name = "FLOAT" || t.name = "TEXT" then t.name
  else t.name ++ "(" ++ ", ".intercalate (t.sizes.map toString) ++ ")"

/-- The decimal places of a decimal number. -/
def places (t : ColumnType) : Nat := (t.sizes[1]?).getD 10

end ColumnType

end AdminGrid.Store

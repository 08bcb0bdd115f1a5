import AdminGrid.Failure
import AdminGrid.Text.Split
import AdminGrid.Text.Word

/-!
# Request parameters

A request gives a nested parameter in one of two ways: under a flat key such as `order[0][dir]`, or
inside lists and maps.  `lookup` reads both, the flat key first.  `columnEntries` collects what a
request says about its columns.
-/

namespace AdminGrid.Request

/-- The parameters of a request by name. -/
abbrev Params := Entries Value

/-- The whole number that a parameter denotes, or a default. -/
def toInt (v : Value) (default : Int) : Int :=
  match v with
  | .bool _ => default
  | .int n => n
  | v => (Reading.int? (Text.strip v.cellText)).getD default

/-- A step as it stands in a key. -/
def stepText : Step → String
  | .name key => key
  | .index i => toString i

/-- The flat key of a nested parameter. -/
def flatKey (head : String) (path : List Step) : String :=
  head ++ String.join (path.map fun step => "[" ++ stepText step ++ "]")

/-- The part of a value that a step leads to. -/
def part? (v : Value) (step : Step) : Option Value :=
  match v, step with
  | .map entries, step => Entries.get? (stepText step) entries
  | .list items, .index i | .tuple items, .index i => items[i]?
  | .bytes bs, .index i => (bs[i]?).map fun b => .int b.toNat
  | _, _ => none

/-- The part of a value at the end of a path. -/
def follow? (v : Value) : List Step → Option Value
  | [] => some v
  | step :: rest => (part? v step).bind fun part => follow? part rest

/-- A nested parameter, null when the request does not give it. -/
def lookup (params : Params) (head : String) (path : List Step) : Value :=
  match Entries.get? (flatKey head path) params with
  | some v => v
  | none => (follow? (.map params) (.name head :: path)).getD .null

/-- The key of one attribute of a column, or of one part of the attribute. -/
structure ColumnKey where
  /-- The digits of the column's index. -/
  digits : List Char
  name : String
  part : Option String

/-- A word in square brackets at the front of a list, and the rest. -/
def bracketed? (inside : Char → Bool) (cs : List Char) : Option (List Char × List Char) :=
  match cs with
  | '[' :: rest =>
      let word := rest.takeWhile inside
      match rest.dropWhile inside with
      | ']' :: rest => if word.isEmpty then none else some (word, rest)
      | _ => none
  | _ => none

/-- Whether a list is at its end, or at a line end that ends it. -/
def atEnd (cs : List Char) : Bool := cs.isEmpty || cs == ['\n']

/-- Reads a flat key of a column, such as `columns[0][search][value]`. -/
def columnKey? (key : String) : Option ColumnKey := do
  let rest ← Text.dropHead? "columns".toList key.toList
  let (digits, rest) ← bracketed? Text.isDecimal rest
  let (name, rest) ← bracketed? Text.isWord rest
  if atEnd rest then return ⟨digits, String.ofList name, none⟩
  let (part, rest) ← bracketed? Text.isWord rest
  if atEnd rest then return ⟨digits, String.ofList name, some (String.ofList part)⟩ else none

/-- What the flat keys read so far say: the parameters, a map among them holding also the parts
that longer keys set in it, and the attributes of the columns by index. -/
structure Gathered where
  params : Params
  columns : List (Nat × Params)

/-- The attributes of a column. -/
def Gathered.column (g : Gathered) (i : Nat) : Params :=
  ((g.columns.find? (·.1 == i)).map (·.2)).getD []

/-- Sets the attributes of a column. -/
def Gathered.setColumn (g : Gathered) (i : Nat) (attributes : Params) : Gathered :=
  if g.columns.any (·.1 == i) then
    { g with columns := g.columns.map fun (j, old) => (j, if j = i then attributes else old) }
  else { g with columns := g.columns ++ [(i, attributes)] }

/-- The last parameter that gave an attribute of a column as a whole. -/
def Gathered.owner? (g : Gathered) (i : Nat) (name : String) : Option String :=
  (g.params.reverse.find? fun (key, _) =>
    match columnKey? key with
    | some k => k.part.isNone && k.name == name &&
        Reading.int? (String.ofList k.digits) == some i
    | none => false).map (·.1)

/-- Sets an attribute of a column, or a part of it. -/
def Gathered.set (g : Gathered) (i : Nat) (k : ColumnKey) (v : Value) : Attempt Gathered :=
  let attributes := g.column i
  match k.part with
  | none => .ok (g.setColumn i (attributes.put k.name v))
  | some part =>
      match (attributes.get? k.name).getD (.map []) with
      | .map parts =>
          let whole : Value := .map (Entries.put part v parts)
          let g := g.setColumn i (attributes.put k.name whole)
          match g.owner? i k.name with
          | some key => .ok { g with params := g.params.put key whole }
          | none => .ok g
      | _ => .error .wrongKind

/-- Reads the flat keys of columns, and the parameters as far as they are read. -/
def gather (g : Gathered) : Params → Params × Attempt (List (Nat × Params))
  | [] => (g.params, .ok g.columns)
  | (key, v) :: rest =>
      let next : Attempt Gathered :=
        match columnKey? key with
        | none => .ok g
        | some k => match Reading.int? (String.ofList k.digits) with
          | none => .error .badValue
          | some i => g.set i.toNat k v
      match next with
      | .ok g => gather { g with params := g.params ++ [(key, v)] } rest
      | .error failure => (g.params ++ (key, v) :: rest, .error failure)

/-- The maps among the values of a list. -/
def mapsOf (values : List Value) : List Params := values.filterMap Value.entries?

/-- What the parameter of all columns says, if it is a list or a map.  The keys of a map are taken
for indexes. -/
def listedColumns? (params : Params) : Option (List Params) :=
  match Entries.get? "columns" params with
  | some (.list items) | some (.tuple items) => some (mapsOf items)
  | some (.bytes _) => some []
  | some (.map entries) =>
      let inOrder := entries.mergeSort fun a b => toInt (.text a.1) 0 ≤ toInt (.text b.1) 0
      some (mapsOf (inOrder.map (·.2)))
  | _ => none

/-- What a request says about each of its columns, in the order of their indexes. -/
def columnEntries (params : Params) : Attempt (List Params) :=
  match listedColumns? params with
  | some columns => .ok columns
  | none => do
      let columns ← (gather ⟨[], []⟩ params).2
      return (columns.mergeSort fun a b => a.1 ≤ b.1).map (·.2)

/-- The parameters after their columns have been read. -/
def settled (params : Params) : Params :=
  match listedColumns? params with
  | some _ => params
  | none => (gather ⟨[], []⟩ params).1

end AdminGrid.Request

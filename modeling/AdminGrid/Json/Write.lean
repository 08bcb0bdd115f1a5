import AdminGrid.Failure
import AdminGrid.Number.Binary64

/-!
# Writing documents

A value is written as a document, compactly or with every item on a line of its own.  Whole numbers
of more than 64 bits and nesting beyond a limit cannot be written; what is no finite number becomes
null, and dates are written as texts.  A value that documents have no form for is refused, or
written as the text of a cell.
-/

namespace AdminGrid.Json

/-- How documents are written. -/
structure Style where
  indented : Bool
  /-- Whether a value that documents have no form for is written as its text. -/
  lenient : Bool

/-- On one line, refusing what documents have no form for. -/
def Style.compact : Style := ⟨false, false⟩

/-- On many lines, taking values of every kind. -/
def Style.artifact : Style := ⟨true, true⟩

/-- The most levels that containers may be nested in. -/
def maxNesting : Nat := 254

/-- Whether a whole number has 64 bits, with or without a sign. -/
def fits (n : Int) : Bool := -(twoTo 63 : Int) ≤ n && n < twoTo 64

/-- A character of a text as it is written. -/
def escapeChar (c : Char) : List Char :=
  if c = '"' then ['\\', '"']
  else if c = '\\' then ['\\', '\\']
  else if c = '\x08' then ['\\', 'b']
  else if c = '\t' then ['\\', 't']
  else if c = '\n' then ['\\', 'n']
  else if c = '\x0c' then ['\\', 'f']
  else if c = '\r' then ['\\', 'r']
  else if c.toNat < 32 then '\\' :: 'u' :: Text.hex 4 c.toNat
  else [c]

/-- A text as it is written. -/
def writeText (s : String) : List Char := '"' :: s.toList.flatMap escapeChar ++ ['"']

/-- A whole number as it is written. -/
def writeInt (n : Int) : Attempt (List Char) :=
  if fits n then .ok (toString n).toList else .error .wrongKind

/-- A floating number as it is written. -/
def writeFloat : Binary64 → List Char
  | .nan | .infinite _ => "null".toList
  | x => (x.text .document).toList

/-- The break before an item at a level. -/
def Style.lineBreak (style : Style) (level : Nat) : List Char :=
  if style.indented then '\n' :: List.replicate (2 * level) ' ' else []

/-- The mark between a key and its value. -/
def Style.colon (style : Style) : List Char := if style.indented then [':', ' '] else [':']

/-- Written items between brackets, at the level of the brackets. -/
def Style.enclose (style : Style) (level : Nat) (opening closing : Char)
    (items : List (List Char)) : List Char :=
  match items with
  | [] => [opening, closing]
  | first :: rest =>
      opening :: style.lineBreak (level + 1) ++ first ++
        rest.flatMap (fun item => ',' :: style.lineBreak (level + 1) ++ item) ++
        style.lineBreak level ++ [closing]

/-- Refuses what stands inside a container at a level that is too deep. -/
def checkLevel (level : Nat) : Attempt Unit :=
  if level < maxNesting then .ok () else .error .wrongKind

/-- A value as a text, where the style allows it. -/
def Style.fallback (style : Style) (v : Value) : Attempt (List Char) :=
  if style.lenient then .ok (writeText v.cellText) else .error .wrongKind

mutual

/-- A value at a level as it is written. -/
def writeValue (style : Style) (level : Nat) : Value → Attempt (List Char)
  | .null => .ok "null".toList
  | .bool b => .ok (if b then "true" else "false").toList
  | .int n => writeInt n
  | .float x => .ok (writeFloat x)
  | .text s => .ok (writeText s)
  | .bytes bs => style.fallback (.bytes bs)
  | .decimal d => style.fallback (.decimal d)
  | .date d => .ok (writeText d.iso)
  | .moment m => .ok (writeText (m.iso 'T'))
  | .clock t => if t.offset.isSome then style.fallback (.clock t) else .ok (writeText t.iso)
  | .list items | .tuple items => do
      return style.enclose level '[' ']' (← writeItems style level items)
  | .map entries => do
      return style.enclose level '\x7b' '\x7d' (← writeEntries style level entries)

/-- The items of a list at a level as they are written. -/
def writeItems (style : Style) (level : Nat) : List Value → Attempt (List (List Char))
  | [] => .ok []
  | v :: rest => do
      checkLevel level
      let item ← writeValue style (level + 1) v
      return item :: (← writeItems style level rest)

/-- The entries of a map at a level as they are written. -/
def writeEntries (style : Style) (level : Nat) :
    List (String × Value) → Attempt (List (List Char))
  | [] => .ok []
  | (key, v) :: rest => do
      checkLevel level
      let item ← writeValue style (level + 1) v
      return (writeText key ++ style.colon ++ item) :: (← writeEntries style level rest)

end

/-- A value as a document. -/
def write (style : Style) (v : Value) : Attempt String := do
  return String.ofList (← writeValue style 0 v)

end AdminGrid.Json

import AdminGrid.Failure
import AdminGrid.Text.Pattern
import AdminGrid.Value.Form

/-!
# Harmful input

Request input is refused where a text of it, or a key, holds one of a list of dangerous patterns, or
where it is nested too deeply.  Names of tables and columns must be plain identifiers.
-/

namespace AdminGrid.Request

open Text

/-- Patterns of markup that runs code. -/
def scriptPatterns : List Pattern :=
  [⟨"<script[^>]*>.*?</script>", true,
      [.text "<script", .run (.otherThan '>'), .text ">", .run .any, .text "</script>"]⟩,
    ⟨"javascript:", true, [.text "javascript:"]⟩,
    ⟨"vbscript:", true, [.text "vbscript:"]⟩,
    ⟨"on(load|error|click|mouseover)\\s*=", true,
      [.text "on", .oneOf ["load", "error", "click", "mouseover"], .run .blank, .text "="]⟩]

/-- Two words with blanks between them. -/
def wordsPattern (source first second : String) : Pattern :=
  ⟨source, true, [.text first, .some .blank, .text second]⟩

/-- Patterns of statements to a database. -/
def statementPatterns : List Pattern :=
  [wordsPattern "union\\s+select" "union" "select", wordsPattern "drop\\s+table" "drop" "table",
    wordsPattern "delete\\s+from" "delete" "from", wordsPattern "insert\\s+into" "insert" "into",
    ⟨"update\\s+\\w+\\s+set\\s", true,
      [.text "update", .some .blank, .some .word, .some .blank, .text "set", .one .blank]⟩,
    ⟨"exec\\s*\\(", true, [.text "exec", .run .blank, .text "("]⟩,
    ⟨"'\\s+or\\s+'", true, [.text "'", .some .blank, .text "or", .some .blank, .text "'"]⟩,
    ⟨"'\\s*=\\s*'", false, [.text "'", .run .blank, .text "=", .run .blank, .text "'"]⟩,
    ⟨"--\\s*$", false, [.text "--", .run .blank, .lineEnd]⟩,
    ⟨"/\\*.*\\*/", false, [.text "/*", .run .any, .text "*/"]⟩]

/-- Patterns of paths that leave their directory. -/
def pathPatterns : List Pattern :=
  [⟨"\\.\\./", false, [.text "../"]⟩, ⟨"\\.\\.\\\\", false, [.text "..\\"]⟩,
    ⟨"\\.\\.%(2f|5c)", true, [.text "..%", .oneOf ["2f", "5c"]]⟩,
    ⟨"%2e%2e%(2f|5c)", true, [.text "%2e%2e%", .oneOf ["2f", "5c"]]⟩]

/-- Patterns of commands to a system. -/
def commandPatterns : List Pattern :=
  [⟨";\\s*(rm|cat|ls)\\s+", true,
      [.text ";", .run .blank, .oneOf ["rm", "cat", "ls"], .some .blank]⟩,
    ⟨"\\|\\s*nc\\s+", true, [.text "|", .run .blank, .text "nc", .some .blank]⟩,
    ⟨"\x60.*\x60", false, [.text "\x60", .run .inLine, .text "\x60"]⟩,
    ⟨"\\$\\(.*\\)", false, [.text "$(", .run .inLine, .text ")"]⟩]

/-- All dangerous patterns in the order in which they are tried. -/
def dangerousPatterns : List Pattern :=
  scriptPatterns ++ statementPatterns ++ pathPatterns ++ commandPatterns

/-- The first dangerous pattern that occurs in a text. -/
def dangerousPattern? (s : String) : Option Pattern :=
  dangerousPatterns.find? fun p => p.occursIn s

/-- Whether a text holds no dangerous pattern. -/
def isHarmless (s : String) : Bool := (dangerousPattern? s).isNone

/-- Whether a character may start a name. -/
def startsName (c : Char) : Bool := c.isAlpha || c == '_'

/-- Whether a character may stand in a name. -/
def inName (c : Char) : Bool := c.isAlphanum || c == '_'

/-- Whether a text is a plain identifier, with at most one line feed behind it. -/
def isIdentifier (s : String) : Bool :=
  match s.toList with
  | [] => false
  | c :: cs =>
      startsName c && (match cs.dropWhile inName with
        | [] => true
        | rest => rest = ['\n'])

/-- Refuses a value that is no plain identifier. -/
def checkIdentifier (field : String) (v : Value) : Attempt String :=
  match v with
  | .text s =>
      if isIdentifier s then .ok s else .error (.security (.badIdentifier v) (some field))
  | v => .error (.security (.badIdentifier v) (some field))

/-- The deepest level at which input may stand. -/
def maxDepth : Nat := 10

/-- A refusal of the input at a path. -/
def refusal (fault : SecurityFault) (path : String) : Failure :=
  .security fault (if path = "" then none else some path)

/-- Refuses a text at a path and a depth. -/
def checkText (path : String) (depth : Nat) (s : String) : Attempt Unit :=
  if maxDepth < depth then .error (refusal .tooDeep path)
  else if isHarmless s then .ok () else .error (refusal .dangerous path)

/-- The path of an entry. -/
def entryPath (path key : String) : String := if path = "" then key else path ++ "." ++ key

/-- Input as a tree of lists and maps.  The keys of a map are values of any kind, as what stands in
lists and maps and holds nothing itself. -/
inductive Input where
  | single (v : Value)
  | list (items : List Input)
  | map (entries : List (Value × Input))

mutual

/-- A value as input.  The keys of its maps are texts. -/
def Input.of : Value → Input
  | .map entries => .map (Input.ofEntries entries)
  | .list items | .tuple items => .list (Input.ofItems items)
  | v => .single v

/-- The entries of a map as those of input. -/
def Input.ofEntries : List (String × Value) → List (Value × Input)
  | [] => []
  | (key, v) :: rest => (.text key, Input.of v) :: Input.ofEntries rest

/-- The items of a list as those of input. -/
def Input.ofItems : List Value → List Input
  | [] => []
  | v :: rest => Input.of v :: Input.ofItems rest

end

theorem Input.ofEntries_eq_map (entries : List (String × Value)) :
    Input.ofEntries entries = entries.map fun e => (.text e.1, Input.of e.2) := by
  induction entries with
  | nil => rfl
  | cons e rest ih => rw [Input.ofEntries, ih, List.map_cons]

theorem Input.ofItems_eq_map (items : List Value) : Input.ofItems items = items.map Input.of := by
  induction items with
  | nil => rfl
  | cons v rest ih => rw [Input.ofItems, ih, List.map_cons]

mutual

/-- Refuses input at a path and a depth, for the first fault in it. -/
def checkInput (path : String) (depth : Nat) : Input → Attempt Unit
  | .map entries =>
      if maxDepth < depth then .error (refusal .tooDeep path)
      else checkEntries path (depth + 1) entries
  | .list items =>
      if maxDepth < depth then .error (refusal .tooDeep path)
      else checkItems path (depth + 1) 0 items
  | .single (.text s) => checkText path depth s
  | .single _ => if maxDepth < depth then .error (refusal .tooDeep path) else .ok ()

/-- Refuses the entries of a map: every key by its text, then what stands under it. -/
def checkEntries (path : String) (depth : Nat) : List (Value × Input) → Attempt Unit
  | [] => .ok ()
  | (key, v) :: rest => do
      let text ← key.written
      checkText (entryPath path text) depth text
      checkInput (entryPath path text) depth v
      checkEntries path depth rest

/-- Refuses the items of a list from an index on. -/
def checkItems (path : String) (depth i : Nat) : List Input → Attempt Unit
  | [] => .ok ()
  | v :: rest => do
      checkInput (path ++ "[" ++ toString i ++ "]") depth v
      checkItems path depth (i + 1) rest

end

/-- Refuses a tree of input. -/
def checkTree (tree : Input) : Attempt Unit := checkInput "" 0 tree

/-- Refuses request parameters. -/
def checkParams (params : Value) : Attempt Unit := checkTree (.of params)

end AdminGrid.Request

import AdminGrid.Inspector.Archive
import AdminGrid.Value.Same

/-!
# The summary of recent artifacts

The summary has one row for every recent artifact: its file, its route, its severity, the counts
that were compared, and its note.  It is also written as a table of a text document.
-/

namespace AdminGrid.Inspector

/-- The entries of a part of an artifact, none where the part counts as false. -/
def partEntries (v : Value) : Attempt (Entries Value) :=
  if !v.truthy then .ok []
  else match v with
    | .map entries => .ok entries
    | _ => .error .missingProperty

/-- The row of an artifact. -/
def summaryRow (file : String) (artifact : Entries Value) : Attempt (Entries Value) := do
  let diff ← partEntries (cellAt artifact "diff")
  let counts ← partEntries (cellAt diff "summary")
  let route := cellAt artifact "route"
  return [("file", .text file), ("route", if route.truthy then route else .text "n/a"),
    ("table_name", cellAt artifact "table_name"), ("severity", cellAt artifact "severity"),
    ("recordsTotal", cellAt counts "recordsTotal"),
    ("recordsFiltered", cellAt counts "recordsFiltered"),
    ("data_length", cellAt counts "data_length"),
    ("note", (Entries.get? "note" diff).getD (.text ""))]

/-- Whether an artifact is of a route, where one is asked for. -/
def isOfRoute (route : Option String) (artifact : Entries Value) : Bool :=
  match route with
  | some name => name = "" || (cellAt artifact "route").same (.text name)
  | none => true

/-- The rows of the artifacts in some files, at most a number of them. -/
def summaryRows (limit : Int) (route : Option String) :
    List File → Attempt (List (Entries Value))
  | [] => .ok []
  | f :: rest =>
      if limit ≤ 0 then .ok []
      else match readDocument f.content with
        | none => summaryRows limit route rest
        | some artifact =>
            if isOfRoute route artifact then do
              let row ← summaryRow f.path.name artifact
              return row :: (← summaryRows (limit - 1) route rest)
            else summaryRows limit route rest

/-- The rows of the most recent artifacts, at most a number of them. -/
def summary (c : Config) (d : Disk) (limit : Int) (route : Option String) :
    Attempt (List (Entries Value)) :=
  summaryRows limit route (c.artifacts d)

/-- A value in a cell of the table. -/
def markdownCell (v : Value) : Attempt String :=
  match v with
  | .null => .ok "n/a"
  | .map _ | .list _ => Json.write .compact v
  | v => .ok (Text.replaceChar '\r' " " (Text.replaceChar '\n' " " v.cellText))

/-- The entry of a row that has it. -/
def entryOfRow (row : Entries Value) (key : String) : Attempt Value :=
  match Entries.get? key row with
  | some v => .ok v
  | none => .error .missingEntry

/-- The line of a row. -/
def markdownLine (row : Entries Value) : Attempt String := do
  let file := (← entryOfRow row "file").cellText
  let route ← markdownCell (← entryOfRow row "route")
  let rest ← ["severity", "recordsTotal", "recordsFiltered", "data_length", "note"].mapM fun key =>
    markdownCell (cellAt row key)
  return "| " ++ " | ".intercalate (file :: route :: rest) ++ " |"

/-- The lines above the rows. -/
def markdownHead : List String :=
  ["# Datatable Inspector Summary (Top recent)", "",
    "| File | Route | Severity | Total | Filtered | Data len | Note |",
    "|---|---|---:|---:|---:|---:|---|"]

/-- Rows as a table of a text document. -/
def markdown (rows : List (Entries Value)) : Attempt String := do
  return "\n".intercalate (markdownHead ++ (← rows.mapM markdownLine)) ++ "\n"

end AdminGrid.Inspector

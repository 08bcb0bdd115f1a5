import AdminGrid.Command.Gate

/-!
# The digest

The digest prints the summary of the most recent artifacts as a table.
-/

namespace AdminGrid.Command

/-- The parameters of the digest. -/
def digestParameters : List Parameter := [⟨"dir", false⟩, ⟨"limit", true⟩, ⟨"route", false⟩]

/-- What the digest prints; where there is no directory of artifacts, nothing. -/
def digest (c : Configuration) (d : Disk) (given : Entries Value) : Attempt String := do
  let config ← inspectorFor c given
  if !d.isFolder config.storagePath then return ""
  let limit := (givenNumber given "limit").getD usualLimit
  let rows ← Inspector.summary config d limit (givenText given "route")
  if rows.isEmpty then return "No inspector JSON found in " ++ config.storagePath.text ++ "\n"
  return (← Inspector.markdown rows) ++ "\n"

end AdminGrid.Command

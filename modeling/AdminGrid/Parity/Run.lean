import AdminGrid.Direct.Compile
import AdminGrid.Inspector.Archive
import AdminGrid.Staged.Compile

/-!
# Runs

A run answers a request in the mode in force.  Where both compilers run, the answer is that of the
direct one, whatever becomes of the other, and the report on their differences is left for the
inspector.
-/

namespace AdminGrid.Parity

/-- What a run of both compilers found. -/
structure Comparison where
  report : Entries Value
  severity : Numeral
  /-- The reports of the stages. -/
  progress : Entries Value

/-- What became of a request. -/
structure Run where
  mode : Mode
  chosen : Entries Value
  comparison : Option Comparison

/-- The severity that is tolerated under a configuration. -/
def allowed (c : Configuration) : Attempt Int :=
  tolerance ((c.properties.map fun p => cellAt p "DT_DIFF_TOLERANCE").getD .null)
    (c.environmentText "DT_DIFF_TOLERANCE")

/-- The run of both compilers, from what became of each.  A staged compilation that failed counts as
a missing answer. -/
def runBoth (direct staged : Attempt (Entries Value)) (progress : Entries Value)
    (limit : Attempt Int) : Attempt Run := do
  let direct ← direct
  let report := compare direct staged.toOption
  let severity ← severity report
  let _ ← limit
  return ⟨.both, direct, some ⟨report, severity, progress⟩⟩

/-- Runs a request in a mode. -/
def run (source : Source) (mode : Mode) (limit : Attempt Int) (c : Request.Context) :
    Attempt Run := do
  if c.descriptor.isNone then throw (.configuration (.unregistered c.tableName))
  let (staged, progress) := Staged.compile source c
  let staged := staged.map fun r => r.toWire false
  match mode with
  | .staged => return ⟨.staged, ← staged, none⟩
  | .direct => return ⟨.direct, ← Direct.compile source c, none⟩
  | .both => runBoth (Direct.compile source c) staged progress.report limit

/-- What a run leaves for the inspector. -/
def diagnosticOf (c : Request.Context) (timestamp : String) (report : Entries Value) :
    ParityDiagnostic where
  timestamp := timestamp
  route := Request.routeLabel c.route
  tableName := ((c.tableName).filter (· != "")).getD "unknown"
  diffSummary := report
  requestContext := Inspector.redactEntries c.params

/-- Stores what a run leaves for the inspector, if anything. -/
def Run.persist (r : Run) (config : Inspector.Config) (o : Inspector.Occasion)
    (c : Request.Context) : OnDisk (Option Path) :=
  match r.comparison with
  | none => pure none
  | some found => Inspector.store config o (diagnosticOf c o.timestamp found.report) found.progress

end AdminGrid.Parity

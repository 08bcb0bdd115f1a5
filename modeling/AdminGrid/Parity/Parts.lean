import AdminGrid.Parity.Run

/-!
# The parts of a run

A run calls the two compilers and hands its report to a recorder.  Here each of these parts is a
computation that may do anything in its world, and may fail.  What a run makes of that is the same
for all of them: a failure of the direct compiler is its own, a failure of the staged compiler
counts as a missing answer, and whatever the recorder does is forgotten.
-/

namespace AdminGrid.Parity

/-- A computation in a world, which may fail. -/
abbrev Acting (σ α : Type) := ExceptT Failure (StateM σ) α

/-- Where the reports of runs are kept. -/
structure Recorder (σ : Type) where
  enabled : Bool
  /-- Stores a diagnostic beside the reports of the stages. -/
  store : ParityDiagnostic → Entries Value → Acting σ Unit

/-- What a run calls. -/
structure Parts (σ : Type) where
  direct : Request.Context → Acting σ (Entries Value)
  staged : Request.Context → Acting σ (Entries Value)
  /-- The reports of the stages. -/
  progress : Acting σ (Entries Value)
  /-- Sets the recorder up. -/
  recorder : Acting σ (Recorder σ)

/-- What a run is told beside the request. -/
structure Circumstances where
  /-- The tolerated severity, as it is set. -/
  setting : Value
  /-- The text that stands for the tolerated severity where it is not set. -/
  fallback : Option String
  timestamp : String

/-- What a run answers: a payload, and a report with its severity where both compilers ran. -/
structure Result where
  mode : Mode
  chosen : Entries Value
  report : Option (Entries Value)
  severity : Option Numeral

/-- The payload and the report of a run. -/
def Run.result (r : Run) : Result :=
  ⟨r.mode, r.chosen, r.comparison.map (·.report), r.comparison.map (·.severity)⟩

namespace Parts

variable {σ : Type}

/-- Hands a report to the recorder, whose failures are passed over. -/
def persist (p : Parts σ) (timestamp : String) (c : Request.Context) (report : Entries Value) :
    Acting σ Unit :=
  tryCatch (do
    let recorder ← p.recorder
    if recorder.enabled then recorder.store (diagnosticOf c timestamp report) (← p.progress))
    fun _ => pure ()

/-- The answer of the staged compiler, none where it fails. -/
def stagedAnswer (p : Parts σ) (c : Request.Context) : Acting σ (Option (Entries Value)) :=
  tryCatch (some <$> p.staged c) fun _ => pure none

/-- Runs both compilers, and answers with the payload of the direct one. -/
def runBoth (p : Parts σ) (about : Circumstances) (c : Request.Context) : Acting σ Result := do
  let direct ← p.direct c
  let report := compare direct (← p.stagedAnswer c)
  let severity ← MonadExcept.ofExcept (severity report)
  let _ ← MonadExcept.ofExcept (tolerance about.setting about.fallback)
  p.persist about.timestamp c report
  return ⟨.both, direct, some report, some severity⟩

/-- Runs a request in a mode. -/
def run (p : Parts σ) (mode : Mode) (about : Circumstances) (c : Request.Context) :
    Acting σ Result := do
  if c.descriptor.isNone then throw (.configuration (.unregistered c.tableName))
  match mode with
  | .staged => return ⟨.staged, ← p.staged c, none, none⟩
  | .direct => return ⟨.direct, ← p.direct c, none, none⟩
  | .both => p.runBoth about c

/-- The payload that a run from a world answers with, or its failure. -/
def chosen (p : Parts σ) (mode : Mode) (about : Circumstances) (c : Request.Context) (world : σ) :
    Attempt (Entries Value) :=
  ((p.run mode about c).run.run world).1.map (·.chosen)

end Parts

/-- The parts of a service.  Its world is the disk that the inspector stores artifacts on, and what
the stages reported last. -/
def Parts.ofService (source : Source) (config : Attempt Inspector.Config)
    (o : Inspector.Occasion) : Parts (Disk × Entries Value) where
  direct c := MonadExcept.ofExcept (Direct.compile source c)
  staged c := do
    let (answer, progress) := Staged.compile source c
    modify fun world => (world.1, progress.report)
    return (← MonadExcept.ofExcept answer).toWire false
  progress := return (← get).2
  recorder := do
    let config ← MonadExcept.ofExcept config
    return ⟨config.enabled, fun d extra => modify fun world =>
      (((Inspector.store config o d extra).run world.1).2, world.2)⟩

end AdminGrid.Parity

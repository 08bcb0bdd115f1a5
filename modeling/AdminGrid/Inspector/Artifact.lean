import AdminGrid.Descriptor.Answer
import AdminGrid.Parity.Report
import AdminGrid.Settings.Mode
import AdminGrid.Text.Case
import AdminGrid.Text.Split
import AdminGrid.Value

/-!
# Artifacts

An artifact tells what a run of both compilers differed in, for which request, and under which
circumstances.
-/

namespace AdminGrid.Inspector

/-! ## The configuration of the inspector

The inspector keeps artifacts of compared answers in a directory, as many and as long as it is
configured to, and leaves out of them what it is told to. -/

/-- How the inspector works. -/
structure Config where
  enabled : Bool
  storagePath : Path
  maxFiles : Int
  cleanupDays : Int
  maxFileSize : Int
  includeTrace : Bool
  includeRequestData : Bool
  excludeSensitive : Bool
  debug : Bool

/-- The usual directory of artifacts. -/
def usualDirectory : String := "data/datatable-inspector"

open Validation in
/-- Reads a configuration from a document. -/
def Config.read : Value → Checked Config :=
  record fun e =>
    Config.mk <$> withDefault "enabled" false truth e
      <*> withDefault "storage_path" (.of usualDirectory)
        (fun v => (readPath v).map fun v => .of v.cellText) e
      <*> withDefault "max_files" 100 integer e <*> withDefault "cleanup_days" 7 integer e
      <*> withDefault "max_file_size" 10485760 integer e
      <*> withDefault "include_trace" true truth e
      <*> withDefault "include_request_data" true truth e
      <*> withDefault "exclude_sensitive" true truth e <*> withDefault "debug" false truth e

/-- The configuration that a settings object or the environment gives.  A settings object tells the
directory itself. -/
def Config.ofConfiguration (c : Configuration) (directory : Option Path) : Attempt Config := do
  let option (key : String) (default : Value) : String × Value :=
    (key, c.inspectorOption key default)
  let storage := match directory with
    | some path => .text path.text
    | none => c.inspectorOption "storage_path" (.text usualDirectory)
  (Config.read (.map [("enabled", .bool (← c.inspectorEnabled)), ("storage_path", storage),
    option "max_files" (.int 100), option "cleanup_days" (.int 7),
    option "max_file_size" (.int 10485760), option "include_trace" (.bool true),
    option "include_request_data" (.bool true), option "exclude_sensitive" (.bool true),
    option "debug" (.bool false)])).toAttempt

/-- A configuration as a document. -/
def Config.toValue (c : Config) : Value :=
  .map [("enabled", .bool c.enabled), ("storage_path", .text c.storagePath.text),
    ("max_files", .int c.maxFiles), ("cleanup_days", .int c.cleanupDays),
    ("max_file_size", .int c.maxFileSize), ("include_trace", .bool c.includeTrace),
    ("include_request_data", .bool c.includeRequestData),
    ("exclude_sensitive", .bool c.excludeSensitive), ("debug", .bool c.debug)]

/-! ## Redaction

What stands under a sensitive key is replaced by a mark, at any depth.  Everything else stays as it
is.  The parts of a file name hold no character that separates folders or endings. -/

/-- The words that make a key sensitive. -/
def sensitiveWords : List String :=
  ["password", "passwd", "secret", "token", "key", "api_key", "auth", "credential", "private",
    "confidential", "_token", "csrf", "session", "cookie"]

/-- Whether a key is sensitive: it holds a sensitive word, in small or capital letters. -/
def isSensitive (key : String) : Bool :=
  let lowered := Text.lower key
  sensitiveWords.any fun word => Text.contains word lowered

/-- What stands in the place of a secret. -/
def redacted : Value := .text "[REDACTED]"

mutual

/-- A value without its secrets. -/
def redact : Value → Value
  | .map entries => .map (redactEntries entries)
  | .list items | .tuple items => .list (redactItems items)
  | v => v

/-- The items of a list without their secrets. -/
def redactItems : List Value → List Value
  | [] => []
  | v :: rest => redact v :: redactItems rest

/-- The entries of a map without their secrets. -/
def redactEntries : List (String × Value) → List (String × Value)
  | [] => []
  | (key, v) :: rest =>
      (key, if isSensitive key then redacted else redact v) :: redactEntries rest

end

/-- Whether a character may not stand in a part of a file name. -/
def isUnsafe (c : Char) : Bool := c == ':' || c == '/' || c == '\\' || c == '.'

/-- A text as a part of a file name. -/
def safePart (s : String) : String :=
  String.ofList (s.toList.map fun c => if isUnsafe c then '-' else c)

/-! ## Records of a comparison -/

/-- The circumstances in which an artifact is made. -/
structure Occasion where
  /-- The time by the clock, in seconds. -/
  now : Int
  /-- The time of change of a file that is written now. -/
  fileTime : Int
  timestamp : String
  /-- What no other file name has. -/
  stamp : String
  captureId : String
  appEnv : String
  /-- What else is known of the system. -/
  system : Entries Value
  /-- The places that the run was called from. -/
  trace : List String

/-- The version of the form of artifacts. -/
def version : String := "1.0.0"

/-- The request in the place of one that is left out. -/
def omittedRequest : Value :=
  .map [("included", .bool false), ("reason", .text "disabled_by_config")]

/-- A document as the inspector keeps it. -/
def Config.kept (c : Config) (entries : Entries Value) : Value :=
  if c.excludeSensitive then redact (.map entries) else .map entries

/-- The request of an artifact. -/
def Config.keptRequest (c : Config) (request : Entries Value) : Value :=
  if c.includeRequestData then c.kept request else omittedRequest

/-- The circumstances as an artifact tells them. -/
def environmentValue (c : Config) (o : Occasion) : Value :=
  .map (("app_env", .text o.appEnv) :: o.system ++ [("debug", .bool c.debug)])

/-- The artifact of a diagnostic, with what is known beside it. -/
def capture (c : Config) (o : Occasion) (d : ParityDiagnostic) (extra : Entries Value) :
    Attempt (Entries Value) := do
  let severity ← Parity.severity d.diffSummary
  return [("meta", .map [("timestamp", .text d.timestamp), ("inspector_version", .text version),
      ("capture_id", .text o.captureId)]),
    ("route", .text d.route), ("table_name", .text d.tableName), ("diff", .map d.diffSummary),
    ("severity", Value.ofNumeral severity), ("request", c.keptRequest d.requestContext),
    ("environment", environmentValue c o)] ++
    (if extra.isEmpty then [] else [("pipeline", c.kept extra)]) ++
    (if c.includeTrace then [("trace", .ofTexts o.trace)] else [])

/-- The name of the file of an artifact. -/
def fileName (o : Occasion) (table route : String) : String :=
  safePart (if table = "" then "unknown" else table) ++
    (if route = "" then "" else "_" ++ safePart route) ++ "_" ++ o.stamp ++ ".json"

end AdminGrid.Inspector

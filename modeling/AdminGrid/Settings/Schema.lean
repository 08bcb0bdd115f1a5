import AdminGrid.Json.Read
import AdminGrid.Disk
import AdminGrid.Text.Case
import AdminGrid.Validation.Kinds

/-!
# Settings

Every setting has a name, a kind and a default.  Its value is the one that is given, or else the
text of the environment variable of its name, or else the default.  A list in the environment is
written as a document.
-/

namespace AdminGrid

/-- The kinds of settings. -/
inductive SettingKind where
  | text
  | optionalText
  | integer
  | truth
  | optionalTruth
  | path
  | optionalPath
  | texts

/-- A setting that can be made. -/
structure Setting where
  name : String
  kind : SettingKind
  default : Value

/-- The settings in force. -/
structure Settings where
  values : Entries Value

open Validation

/-- Reads a path. -/
def readPath : Value → Checked Value
  | .text s => .good (.text (Path.of s).text)
  | _ => .fault .pathExpected

/-- Reads a value that may be null. -/
def readOptional (read : Value → Checked Value) : Value → Checked Value
  | .null => .good .null
  | v => read v

/-- Reads the value of a setting. -/
def SettingKind.read : SettingKind → Value → Checked Value
  | text, v => (Validation.text v).map Value.text
  | optionalText, v => readOptional (fun v => (Validation.text v).map Value.text) v
  | integer, v => (Validation.integer v).map Value.int
  | truth, v => (Validation.truth v).map Value.bool
  | optionalTruth, v => readOptional (fun v => (Validation.truth v).map Value.bool) v
  | path, v => readPath v
  | optionalPath, v => readOptional readPath v
  | texts, v => (Validation.list Validation.text v).map fun ss => .list (ss.map Value.text)

namespace Settings

/-- The settings of the application and of its directories. -/
def applicationSettings : List Setting :=
  [⟨"PROJECT_NAME", .text, .text "TableCraft"⟩, ⟨"API_V1_STR", .text, .text "/api/v1"⟩,
    ⟨"VERSION", .text, .text "1.0.0"⟩,
    ⟨"DESCRIPTION", .text, .text "Declarative admin table compiler"⟩,
    ⟨"APP_ENV", .text, .text "production"⟩, ⟨"BASE_DIR", .path, .text "."⟩,
    ⟨"DATA_DIR", .path, .text "data"⟩, ⟨"LOGS_DIR", .path, .text "logs"⟩,
    ⟨"PUBLIC_DIR", .path, .text "public"⟩]

/-- The settings of the databases. -/
def databaseSettings : List Setting :=
  [⟨"POSTGRES_USER", .text, .text "postgres"⟩, ⟨"POSTGRES_PASSWORD", .text, .text "postgres"⟩,
    ⟨"POSTGRES_HOST", .text, .text "localhost"⟩, ⟨"POSTGRES_PORT", .text, .text "5432"⟩,
    ⟨"POSTGRES_DB", .text, .text "tablecraft"⟩, ⟨"DB_POOL_SIZE", .integer, .int 20⟩,
    ⟨"DB_MAX_OVERFLOW", .integer, .int 10⟩, ⟨"DB_POOL_TIMEOUT", .integer, .int 30⟩,
    ⟨"DB_ECHO", .truth, .bool false⟩, ⟨"DATABASE_URL", .optionalText, .null⟩,
    ⟨"LOCAL_DB_FILE", .text, .text "local_data.db"⟩, ⟨"USE_LOCAL_DB", .truth, .bool false⟩,
    ⟨"FALLBACK_TO_LOCAL", .truth, .bool true⟩]

/-- The settings of the cache and of the rate limit. -/
def cacheSettings : List Setting :=
  [⟨"REDIS_HOST", .text, .text "localhost"⟩, ⟨"REDIS_PORT", .integer, .int 6379⟩,
    ⟨"REDIS_DB", .integer, .int 0⟩, ⟨"REDIS_PASSWORD", .optionalText, .null⟩,
    ⟨"REDIS_URL", .optionalText, .null⟩, ⟨"REDIS_TTL", .integer, .int 3600⟩,
    ⟨"ENABLE_REDIS_CACHE", .truth, .bool true⟩, ⟨"RATE_LIMIT_PER_MINUTE", .integer, .int 120⟩,
    ⟨"RATE_LIMIT_WINDOW_SECONDS", .integer, .int 60⟩]

/-- The settings of pages and of the compilers. -/
def gridSettings : List Setting :=
  [⟨"DEFAULT_PAGE_SIZE", .integer, .int 10⟩, ⟨"MAX_PAGE_SIZE", .integer, .int 1000⟩,
    ⟨"DATATABLES_MODE", .text, .text "legacy"⟩,
    ⟨"DATATABLES_PIPELINE_ENABLED", .truth, .bool false⟩, ⟨"DT_DIFF_TOLERANCE", .integer, .int 0⟩]

/-- The settings of the inspector. -/
def inspectorSettings : List Setting :=
  [⟨"INSPECTOR_ENABLED", .optionalTruth, .null⟩, ⟨"INSPECTOR_STORAGE_PATH", .optionalPath, .null⟩,
    ⟨"INSPECTOR_MAX_FILES", .integer, .int 100⟩, ⟨"INSPECTOR_CLEANUP_DAYS", .integer, .int 7⟩,
    ⟨"INSPECTOR_MAX_FILE_SIZE", .integer, .int 10485760⟩,
    ⟨"INSPECTOR_INCLUDE_TRACE", .truth, .bool true⟩,
    ⟨"INSPECTOR_INCLUDE_REQUEST_DATA", .truth, .bool true⟩,
    ⟨"INSPECTOR_EXCLUDE_SENSITIVE", .truth, .bool true⟩, ⟨"INSPECTOR_DEBUG", .truth, .bool false⟩]

/-- The settings of the server. -/
def serverSettings : List Setting :=
  [⟨"CORS_ORIGINS", .texts, .list [.text "*"]⟩, ⟨"CORS_ALLOW_CREDENTIALS", .truth, .bool true⟩,
    ⟨"HOST", .text, .text "0.0.0.0"⟩, ⟨"PORT", .integer, .int 8001⟩, ⟨"WORKERS", .integer, .int 4⟩,
    ⟨"LOG_LEVEL", .text, .text "info"⟩]

/-- All settings, in the order in which their faults are reported. -/
def declared : List Setting :=
  applicationSettings ++ databaseSettings ++ cacheSettings ++ gridSettings ++ inspectorSettings ++
    serverSettings

end Settings

namespace Setting

/-- The value of a setting in the environment; a list that is written as null is not set. -/
def inEnvironment (setting : Setting) (environment : Entries String) : Attempt (Option Value) :=
  match environment.get? setting.name with
  | none => .ok none
  | some raw =>
      match setting.kind with
      | .texts =>
          match Json.read? raw with
          | some .null => .ok none
          | some v => .ok (some v)
          | none => .error .badSetting
      | _ => .ok (some (.text raw))

/-- What a setting is made to, if it is made. -/
def source (setting : Setting) (given : Entries Value) (environment : Entries String) :
    Attempt (Option Value) := do
  let fromEnvironment ← setting.inEnvironment environment
  return (Entries.get? setting.name given).or fromEnvironment

/-- Reads what a setting is made to. -/
def read (setting : Setting) (source : Option Value) : Checked Value :=
  match source with
  | some v => (setting.kind.read v).under (.name setting.name)
  | none => .good setting.default

end Setting

namespace Settings

/-- Reads settings from what each is made to. -/
def readEach : List (Setting × Option Value) → Checked (Entries Value)
  | [] => .good []
  | (setting, source) :: rest =>
      Checked.app ((setting.read source).map fun v tail => (setting.name, v) :: tail)
        (readEach rest)

/-- The settings that are given and those of the environment. -/
def read (given : Entries Value) (environment : Entries String) : Attempt Settings := do
  let sources ← declared.mapM fun setting => do
    return (setting, ← setting.source given environment)
  return ⟨← (readEach sources).toAttempt⟩

/-- The value of a setting. -/
def get (s : Settings) (name : String) : Value := cellAt s.values name

/-- The text of a setting, empty where it is null. -/
def text (s : Settings) (name : String) : String := (s.get name).text?.getD ""

/-- Whether a setting counts as true. -/
def isOn (s : Settings) (name : String) : Bool := (s.get name).truthy

/-- Whether the application runs on a developer's machine or in a test. -/
def isLocal (s : Settings) : Bool := ["local", "testing"].contains (Text.lower (s.text "APP_ENV"))

/-- The file of the local database. -/
def localPath (s : Settings) : Path :=
  (Path.of (s.text "DATA_DIR")).join (.of (s.text "LOCAL_DB_FILE"))

/-- The address of the local database. -/
def localAddress (s : Settings) : String := "sqlite:///" ++ s.localPath.text

/-- The address of the primary database. -/
def databaseAddress (s : Settings) : String :=
  if s.isOn "DATABASE_URL" then s.text "DATABASE_URL"
  else "postgresql+psycopg2://" ++ s.text "POSTGRES_USER" ++ ":" ++ s.text "POSTGRES_PASSWORD" ++
    "@" ++ s.text "POSTGRES_HOST" ++ ":" ++ s.text "POSTGRES_PORT" ++ "/" ++ s.text "POSTGRES_DB"

/-- The address of the cache. -/
def cacheAddress (s : Settings) : String :=
  if s.isOn "REDIS_URL" then s.text "REDIS_URL"
  else
    let login := if s.isOn "REDIS_PASSWORD" then ":" ++ s.text "REDIS_PASSWORD" ++ "@" else ""
    "redis://" ++ login ++ s.text "REDIS_HOST" ++ ":" ++ (s.get "REDIS_PORT").cellText ++ "/" ++
      (s.get "REDIS_DB").cellText

/-- The directory of the inspector's artifacts. -/
def inspectorDirectory (s : Settings) : Path :=
  match s.get "INSPECTOR_STORAGE_PATH" with
  | .text path => .of path
  | _ => (Path.of (s.text "DATA_DIR")).join (.of "datatable-inspector")

end Settings

end AdminGrid

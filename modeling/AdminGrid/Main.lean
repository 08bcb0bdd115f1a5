import AdminGrid.Command.Digest
import AdminGrid.Settings.Schema

/-!
# The command line

The first word names a command and the words after it are its command line.  Files are read before
a command runs, and everything that it answers is computed from them.
-/

namespace AdminGrid.Command

/-- How the program is called. -/
def usage : String :=
  "usage: admingrid gate [--legacy FILE] [--pipeline FILE] [--dir DIR] [--limit N] " ++
  "[--tolerance N]\n" ++
  "       admingrid digest [--dir DIR] [--limit N] [--route ROUTE]"

/-- The names of the environment variables that commands read. -/
def environmentNames : List String :=
  ["APP_ENV", "DT_DIFF_TOLERANCE"] ++
    (["DT_MODE", "DT_ENABLED", "INSPECTOR_ENABLED", "INSPECTOR_STORAGE_PATH", "INSPECTOR_MAX_FILES",
      "INSPECTOR_CLEANUP_DAYS", "INSPECTOR_MAX_FILE_SIZE", "INSPECTOR_INCLUDE_TRACE",
      "INSPECTOR_INCLUDE_REQUEST_DATA", "INSPECTOR_EXCLUDE_SENSITIVE", "INSPECTOR_DEBUG"].map
      ("TABLECRAFT_" ++ ·))

/-- The environment. -/
def loadEnvironment : IO (Entries String) :=
  environmentNames.filterMapM fun name => do return (← IO.getEnv name).map fun s => (name, s)

/-- The file at a path, if it can be read. -/
def loadFile (path : Path) (time : Int) : IO (Option File) := do
  try return some ⟨path, ← IO.FS.readFile path.text, time⟩
  catch _ => return none

/-- The files in a folder, the newest first. -/
def loadFiles (folder : Path) : IO (List File) := do
  let entries ← (← IO.FS.realPath folder.text).readDir
  let timed ← entries.toList.mapM fun entry => do
    let changed := (← entry.path.metadata).modified
    return (changed.sec, changed.nsec, entry.fileName)
  let newestFirst := timed.mergeSort fun a b =>
    b.1 < a.1 || (b.1 = a.1 && b.2.1 ≤ a.2.1)
  newestFirst.filterMapM fun (seconds, _, name) => loadFile (folder.child name) seconds

/-- The files that a command may read. -/
def loadDisk (c : Configuration) (given : Entries Value) : IO Disk := do
  let named := ["legacy", "pipeline"].filterMap (givenText given)
  let answers ← named.filterMapM fun path => loadFile (.of path) 0
  match inspectorFor c given with
  | .error _ => return ⟨[], answers, []⟩
  | .ok config =>
      try return ⟨[config.storagePath], answers ++ (← loadFiles config.storagePath), []⟩
      catch _ => return ⟨[], answers, []⟩

/-- Runs a command: what it computes is its exit code and what it prints. -/
def run (ps : List Parameter) (words : List String)
    (work : Configuration → Disk → Entries Value → Attempt (Nat × String)) : IO UInt32 := do
  match read ps words with
  | .error ending =>
      IO.eprintln usage
      return .ofNat ending.code
  | .ok given =>
      let c : Configuration := ⟨none, ← loadEnvironment⟩
      match work c (← loadDisk c given) given with
      | .ok (code, printed) =>
          IO.print printed
          return .ofNat code
      | .error failure =>
          IO.eprintln (failure.message.getD "The input cannot be processed.")
          return 1

end AdminGrid.Command

open AdminGrid.Command in
/-- Runs the command that the first word names. -/
def main (args : List String) : IO UInt32 := do
  match args with
  | "gate" :: words => run gateParameters words fun c d given => do return (← gate c d given, "")
  | "digest" :: words =>
      run digestParameters words fun c d given => do return (0, ← digest c d given)
  | _ =>
      IO.eprintln usage
      return 2

import AdminGrid.Disk
import AdminGrid.Inspector.Artifact
import AdminGrid.Json.Read
import AdminGrid.Json.Write

/-!
# The archive of artifacts

Artifacts are kept as files in one folder.  A file is written under a temporary name and then given
its own, so that a name stands for a complete artifact.  When there are too many, those of a certain
age are removed, and then the oldest beyond the number that is kept.  Storing never fails: it
answers where the artifact is, or nothing.
-/

namespace AdminGrid.Inspector

open Disk

/-- The ending of the names of artifacts. -/
def ending : String := ".json"

/-- The name of a folder beside the artifacts for single documents. -/
def dumpFolder : String := "quick-dumps"

/-- The most bytes that the name of a file may have. -/
def maxName : Nat := 255

/-- The artifacts of a disk, the newest first. -/
def Config.artifacts (c : Config) (d : Disk) : List File :=
  ((d.filesIn c.storagePath).filter fun f => Text.endsWith ending f.path.name).mergeSort
    fun f g => g.time ≤ f.time

/-- The artifacts that a listing shows, none where it fails; no answer where it cannot even be told
whether the folder is there. -/
def files (c : Config) : OnDisk (Option (List File)) := do
  if !(← succeeds) then return none
  if ← succeeds then return some (c.artifacts (← get)) else return some []

/-- Makes a folder ready to be written to. -/
def prepare (folder : Path) : OnDisk Bool := do
  if (← get).isBlocked folder || !(← succeeds) then return false
  modify fun d => { d with folders := d.folders ++ [folder] }
  succeeds

/-- The name under which a file is written before it has its own. -/
def temporaryName (o : Occasion) : String := ".tmp_" ++ o.stamp ++ ending

/-- Writes a text to a file that is new. -/
def writeTemporary (path : Path) (content : String) (time : Int) : OnDisk Bool := do
  if !(← succeeds) then return false
  modify (·.put ⟨path, "", time⟩)
  if ← succeeds then
    modify (·.put ⟨path, content, time⟩)
    return true
  else
    modify (·.remove path)
    return false

/-- Gives a written file its own name.  A name that no file can have at all leaves the file as it
is; where the change of the name fails, the file is removed. -/
def giveName (path target : Path) (content : String) (time : Int) : OnDisk Bool := do
  if target.name.toList.contains '\x00' then return false
  modify (·.remove path)
  if maxName < target.name.utf8ByteSize || !(← succeeds) then return false
  modify (·.put ⟨target, content, time⟩)
  return true

/-- Writes a document to a file of a folder, unless it is too large. -/
def writeDocument (c : Config) (o : Occasion) (folder : Path) (name : String)
    (document : Entries Value) : OnDisk (Option Path) := do
  match Json.write .artifact (.map document) with
  | .error _ => return none
  | .ok content =>
      if c.maxFileSize < content.utf8ByteSize then return none
      let temporary := folder.child (temporaryName o)
      let target := folder.child name
      if !(← writeTemporary temporary content o.fileTime) then return none
      if ← giveName temporary target content o.fileTime then return some target else return none

/-- Removes a file. -/
def removeFile (path : Path) : OnDisk Bool := do
  if ← succeeds then
    modify (·.remove path)
    return true
  else return false

/-- Removes the files that were last changed before a time, until an operation fails; the number of
files that are removed, and whether all operations succeeded. -/
def removeOlder (cutoff : Int) : List File → OnDisk (Nat × Bool)
  | [] => return (0, true)
  | f :: rest => do
      if !(← succeeds) then return (0, false)
      if f.time < cutoff then
        if !(← removeFile f.path) then return (0, false)
        let (removed, complete) ← removeOlder cutoff rest
        return (removed + 1, complete)
      else removeOlder cutoff rest

/-- Removes files as far as that succeeds; the number of files that are removed. -/
def removeEach : List File → OnDisk Nat
  | [] => return 0
  | f :: rest => do
      let done ← removeFile f.path
      return (if done then 1 else 0) + (← removeEach rest)

/-- The items of a list beyond a number of them; a negative number counts from the end. -/
def beyond {α : Type} (limit : Int) (items : List α) : List α :=
  items.drop (if limit < 0 then limit + items.length else limit).toNat

/-- The items of a list up to a number of them; a negative number counts from the end. -/
def upTo {α : Type} (limit : Int) (items : List α) : List α :=
  items.take (if limit < 0 then limit + items.length else limit).toNat

/-- Removes the oldest artifacts beyond the number that is kept; the number of those removed. -/
def enforceLimit (c : Config) : OnDisk Nat := do
  match ← files c with
  | none => return 0
  | some found =>
      if (found.length : Int) ≤ c.maxFiles then return 0
      removeEach (beyond c.maxFiles found)

/-- The time before which artifacts are removed, a number of days ago. -/
def cutoff (now days : Int) : Attempt Int :=
  match (Numeral.float (.zero false)).sub (.int (days * 86400)) with
  | .ok _ => .ok (now - days * 86400)
  | .error fault => .error fault.toFailure

/-- Removes artifacts of a certain age, and then the oldest beyond the number that is kept; the
number of those removed. -/
def cleanup (c : Config) (now : Int) (days : Option Int) : OnDisk (Attempt Nat) := do
  match cutoff now (days.getD c.cleanupDays) with
  | .error failure => return .error failure
  | .ok cutoff => do
      match ← files c with
      | none => return .ok 0
      | some found => do
          let (removed, complete) ← removeOlder cutoff found
          if complete then return .ok (removed + (← enforceLimit c)) else return .ok removed

/-- Keeps the number of artifacts within its limit after one was written; whether that could be
told. -/
def retain (c : Config) (now : Int) : OnDisk Bool := do
  match ← files c with
  | none => return false
  | some found =>
      if c.maxFiles < found.length then return (← cleanup c now none).isOk else return true

/-- Stores the artifact of a diagnostic: the path to it, or nothing. -/
def store (c : Config) (o : Occasion) (d : ParityDiagnostic) (extra : Entries Value) :
    OnDisk (Option Path) := do
  if !c.enabled then return none
  if !(← prepare c.storagePath) then return none
  match capture c o d extra with
  | .error _ => return none
  | .ok artifact => do
      match ← writeDocument c o c.storagePath (fileName o d.tableName d.route) artifact with
      | none => return none
      | some path => if ← retain c o.now then return some path else return none

/-- Stores a single document beside the artifacts, under a label. -/
def quickDump (c : Config) (o : Occasion) (data : Entries Value) (label : Value) :
    OnDisk (Option Path) := do
  let folder := c.storagePath.child dumpFolder
  if !c.enabled then return none
  if !(← prepare folder) then return none
  writeDocument c o folder ("dump_" ++ o.stamp ++ ending)
    [("timestamp", .text o.timestamp),
      ("label", if label.truthy then label else .text "quick_dump"), ("data", c.kept data)]

/-- The document of a text, if it is a map. -/
def readDocument (content : String) : Option (Entries Value) :=
  (Json.read? content).bind Value.entries?

/-- The artifact at a path, if one can be read there. -/
def read (d : Disk) (path : Path) : Attempt (Option (Entries Value)) :=
  if path.names.any (·.toList.contains '\x00') then .error .badValue
  else .ok ((d.find? path).bind fun f => readDocument f.content)

/-- What the inspector tells of itself. -/
def status (c : Config) (d : Disk) : Entries Value :=
  [("enabled", .bool c.enabled), ("storage_path", .text c.storagePath.text),
    ("debug_mode", .bool c.debug), ("total_files", .int (c.artifacts d).length),
    ("version", .text version)]

end AdminGrid.Inspector

import AdminGrid.Entries
import AdminGrid.Inspector.Summary
import AdminGrid.Number.Reading
import AdminGrid.Parity.Report
import AdminGrid.Text.Digit
import AdminGrid.Text.Split
import AdminGrid.Value

/-!
# The gate

The gate answers with an exit code whether differences are tolerated: those between two answers in
files, or those in the most recent artifacts.
-/

namespace AdminGrid.Command

/-! ## Command lines

A command line names parameters and gives each of them a value, in the next word or after an equals
sign in the same one.  A name may be shortened as long as it is the start of one name only.  Every
word is given its meaning first, and then the words are read from left to right. -/

/-- A parameter of a command, named on the command line after two dashes. -/
structure Parameter where
  name : String
  isNumber : Bool

/-- What a name on the command line stands for. -/
inductive Named where
  | parameter (p : Parameter)
  | help

/-- A word of a command line. -/
inductive Word where
  | plain (s : String)
  /-- A name, with what follows an equals sign. -/
  | named (name : Named) (attached : Option String)
  /-- Anything else that looks like a name. -/
  | unknown

/-- How a command line ends that asks for no work. -/
inductive Ending where
  | helped
  | refused

/-- The exit code of a command line that asks for no work. -/
def Ending.code : Ending → Nat
  | helped => 0
  | refused => 2

/-- The names on the command line of a command. -/
def names (ps : List Parameter) : Entries Named :=
  ("-h", .help) :: ("--help", .help) :: ps.map fun p => ("--" ++ p.name, .parameter p)

/-- A word before its first equals sign, and what follows. -/
def attachment (s : String) : String × Option String :=
  match Text.cutFirst? '=' s with
  | some (head, tail) => (head, some tail)
  | none => (s, none)

/-- Whether a word after its dash is a number: digits, perhaps after a point and more digits. -/
def isUnsigned (cs : List Char) : Bool :=
  let isDigits (ds : List Char) : Bool := !ds.isEmpty && ds.all Text.isDecimal
  isDigits cs ||
    match Text.cutFirstList? '.' cs with
    | some (whole, places) => whole.all Text.isDecimal && isDigits places
    | none => false

/-- Whether a word is a negative number, perhaps before a line feed. -/
def isNegative (s : String) : Bool :=
  match s.toList with
  | '-' :: cs => isUnsigned (if cs.getLast? = some '\n' then cs.dropLast else cs)
  | _ => false

/-- What a word that starts with a dash is when it is no name. -/
def nameless (s : String) : Word :=
  if isNegative s || s.toList.contains ' ' then .plain s else .unknown

/-- The help that is asked for by one letter or several: nothing may be attached to it. -/
def letters (rest : List Char) : Word :=
  match rest.dropWhile (· == 'h') with
  | '=' :: cs | '-' :: cs => .named .help (some (String.ofList cs))
  | _ => .named .help none

/-- The meaning of a word, none where it is the start of several names. -/
def meaning? (ps : List Parameter) (s : String) : Option Word :=
  let (head, attached) := attachment s
  if !Text.startsWith "-" s || s = "-" then some (.plain s)
  else if let some name := (names ps).get? head then some (.named name attached)
  else if Text.startsWith "--" s then
    match (names ps).filter fun e => Text.startsWith head e.1 with
    | [] => some (nameless s)
    | [(_, name)] => some (.named name attached)
    | _ => none
  else match Text.dropHead? "-h".toList s.toList with
    | some rest => some (letters rest)
    | none => some (nameless s)

/-- The meanings of all words; two dashes alone make every word after them a plain one. -/
def meanings? (ps : List Parameter) : List String → Option (List Word)
  | [] => some []
  | "--" :: rest => some (.unknown :: rest.map .plain)
  | s :: rest => do return (← meaning? ps s) :: (← meanings? ps rest)

/-- The value of a parameter. -/
def Parameter.value (p : Parameter) (s : String) : Except Ending Value :=
  if p.isNumber then
    match Reading.int? s with
    | some n => .ok (.int n)
    | none => .error .refused
  else .ok (.text s)

/-- Reads words from left to right; a word that belongs to no parameter is refused at the end. -/
def collect (given : Entries Value) (isSpare : Bool) : List Word → Except Ending (Entries Value)
  | [] => if isSpare then .error .refused else .ok given
  | .plain _ :: rest | .unknown :: rest => collect given true rest
  | .named .help attached :: _ => .error (if attached.isNone then .helped else .refused)
  | .named (.parameter p) (some s) :: rest => do
      collect (given.put p.name (← p.value s)) isSpare rest
  | .named (.parameter p) none :: .plain s :: rest => do
      collect (given.put p.name (← p.value s)) isSpare rest
  | .named (.parameter _) none :: _ => .error .refused

/-- The values that a command line gives to parameters. -/
def read (ps : List Parameter) (words : List String) : Except Ending (Entries Value) :=
  match meanings? ps words with
  | some words => collect [] false words
  | none => .error .refused

/-! ## The exit code -/

/-- The parameters of the gate. -/
def gateParameters : List Parameter :=
  [⟨"legacy", false⟩, ⟨"pipeline", false⟩, ⟨"dir", false⟩, ⟨"limit", true⟩, ⟨"tolerance", true⟩]

/-- A text that is given and not empty. -/
def givenText (given : Entries Value) (name : String) : Option String :=
  ((cellAt given name).text?).filter (· != "")

/-- A number that is given. -/
def givenNumber (given : Entries Value) (name : String) : Option Int :=
  match cellAt given name with
  | .int n => some n
  | _ => none

/-- The number of artifacts that are looked at when nothing else is said. -/
def usualLimit : Int := 20

/-- The configuration of the inspector, with the directory that is given. -/
def inspectorFor (c : Configuration) (given : Entries Value) : Attempt Inspector.Config := do
  let config ← Inspector.Config.ofConfiguration c none
  return match givenText given "dir" with
    | some directory => { config with storagePath := .of directory }
    | none => config

/-- The answer in a file; null where there is none that can be read. -/
def readAnswer (d : Disk) (path : String) : Attempt Value :=
  if path.toList.contains '\x00' then .error .badValue
  else .ok (((d.find? (.of path)).bind fun f => Json.read? f.content).getD .null)

/-- The report on two answers of any kind, the second of which is null when it is missing. -/
def compareAnswers (direct staged : Value) : Attempt (Entries Value) :=
  match direct, staged with
  | _, .null => .ok (Parity.compare [] none)
  | .map direct, .map staged => .ok (Parity.compare direct (some staged))
  | _, _ => .error .missingProperty

/-- Whether a severity is more than is tolerated. -/
def exceeds (severity : Numeral) (allowed : Int) : Bool :=
  severity.compare? (.int allowed) = some .gt

/-- The exit code for two answers in files: `2` where the first cannot be read, `1` where they
differ more than is tolerated, and then the report must be one that can be written. -/
def gateAnswers (d : Disk) (direct : String) (staged : Option String) (allowed : Int) :
    Attempt Nat := do
  match ← readAnswer d direct with
  | .null => return 2
  | answer => do
      let other ← match staged with
        | some path => readAnswer d path
        | none => .ok .null
      let report ← compareAnswers answer other
      if exceeds (← Parity.severity report) allowed then do
        let _ ← Json.write .compact (.map report)
        return 1
      else return 0

/-- Whether the differences in an artifact are more than is tolerated; a file that holds none is
passed over. -/
def artifactExceeds (allowed : Int) (f : File) : Attempt Bool :=
  match Inspector.readDocument f.content with
  | none => .ok false
  | some artifact => do
      let report ← Inspector.partEntries (cellAt artifact "diff")
      return exceeds (← Parity.severity report) allowed

/-- The exit code for the most recent artifacts: `1` where one of them has more differences than are
tolerated. -/
def gateArtifacts (c : Inspector.Config) (d : Disk) (limit allowed : Int) : Attempt Nat := do
  let found ← (Inspector.upTo limit (c.artifacts d)).mapM (artifactExceeds allowed)
  return if found.any id then 1 else 0

/-- The exit code of the gate. -/
def gate (c : Configuration) (d : Disk) (given : Entries Value) : Attempt Nat := do
  let allowed ← match givenNumber given "tolerance" with
    | some n => .ok n
    | none => Parity.tolerance .null (c.environmentText "DT_DIFF_TOLERANCE")
  match givenText given "legacy" with
  | some direct => gateAnswers d direct (givenText given "pipeline") allowed
  | none => do
      gateArtifacts (← inspectorFor c given) d ((givenNumber given "limit").getD usualLimit) allowed

end AdminGrid.Command

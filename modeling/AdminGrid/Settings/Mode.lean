import AdminGrid.Settings.Schema

/-!
# Modes of compilation

A request is compiled directly, in stages, or both ways to compare the answers.  The mode and the
switches beside it are read from a settings object, or from the environment where there is none.
-/

namespace AdminGrid

/-- How requests are compiled. -/
inductive Mode where
  | direct
  | both
  | staged
  deriving DecidableEq

/-- The word for a mode. -/
def Mode.name : Mode → String
  | direct => "legacy"
  | both => "hybrid"
  | staged => "refactored"

/-- The mode of a word in small letters; an unknown word gives the direct one. -/
def Mode.ofName (name : String) : Mode :=
  if name = Mode.both.name then .both
  else if name = Mode.staged.name then .staged
  else .direct

/-- Where switches are read from: the properties of a settings object, or the environment alone. -/
structure Configuration where
  properties : Option (Entries Value)
  environment : Entries String

/-- The settings in force as a settings object. -/
def Settings.configuration (s : Settings) (environment : Entries String) : Configuration :=
  ⟨some (s.values.put "is_local" (.bool s.isLocal)), environment⟩

/-- The truth value that a text of the environment stands for. -/
def switchWord? (raw : String) : Option Bool :=
  let word := Text.lower (Text.strip raw)
  if ["true", "1", "yes", "on"].contains word then some true
  else if ["false", "0", "no", "off"].contains word then some false
  else none

namespace Configuration

/-- A text of the environment. -/
def environmentText (c : Configuration) (name : String) : Option String := c.environment.get? name

/-- A text of the environment in small letters, with a value for an absent or empty one. -/
def word (c : Configuration) (name default : String) : String :=
  Text.lower (((c.environmentText name).filter (· != "")).getD default)

/-- The mode. -/
def mode (c : Configuration) : Mode :=
  .ofName (match c.properties with
    | some properties =>
        let v := cellAt properties "DATATABLES_MODE"
        Text.lower (if v.truthy then v.cellText else Mode.direct.name)
    | none => c.word "TABLECRAFT_DT_MODE" Mode.direct.name)

/-- Whether compilation in stages is switched on. -/
def stagesEnabled (c : Configuration) : Bool :=
  match c.properties with
  | some properties => (cellAt properties "DATATABLES_PIPELINE_ENABLED").truthy
  | none => ((c.environmentText "TABLECRAFT_DT_ENABLED").bind switchWord?).getD false

/-- The mode in force: where compilation in stages is switched on, it takes the place of the direct
one. -/
def effectiveMode (c : Configuration) : Mode :=
  if c.mode = .direct && c.stagesEnabled then .staged else c.mode

/-- Whether the inspector is on: as it is set, or else on a developer's machine, in a test and where
answers are compared. -/
def inspectorEnabled (c : Configuration) : Attempt Bool :=
  match c.properties with
  | some properties =>
      match cellAt properties "INSPECTOR_ENABLED" with
      | .null => match Entries.get? "is_local" properties with
        | some v => .ok (v.truthy || c.mode = .both)
        | none => .error .missingProperty
      | v => .ok v.truthy
  | none =>
      match (c.environmentText "TABLECRAFT_INSPECTOR_ENABLED").bind switchWord? with
      | some b => .ok b
      | none =>
          .ok (["local", "testing"].contains (c.word "APP_ENV" "production") || c.mode = .both)

/-- What a text of the environment stands for, in the kind of a default. -/
def readAs (default : Value) (raw : String) : Value :=
  match default with
  | .bool b => .bool ((switchWord? raw).getD b)
  | .int n => .int ((Reading.int? raw).getD n)
  | _ => .text raw

/-- An option of the inspector: a property of the settings object, or else of the environment. -/
def inspectorOption (c : Configuration) (key : String) (default : Value) : Value :=
  let name := "INSPECTOR_" ++ String.ofList (key.toList.map Char.toUpper)
  match c.properties.bind (Entries.get? name) with
  | some .null => default
  | some v => v
  | none => ((c.environmentText ("TABLECRAFT_" ++ name)).map (readAs default)).getD default

end Configuration

end AdminGrid

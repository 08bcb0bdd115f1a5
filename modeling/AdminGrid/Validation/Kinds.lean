import AdminGrid.Entries
import AdminGrid.Failure
import AdminGrid.Number.Binary64

/-!
# Kinds of values in documents

How texts, whole numbers, truth values, lists, maps and records are read from a document.  Numbers
and truth values are taken in several forms: `"7"`, `7.0` and `true` are whole numbers, `"yes"` and
`1` are truth values.
-/

namespace AdminGrid

/-! ## Checked documents

Reading a record from a document collects every fault of the document instead of stopping at the
first: a record is read when all its fields are, and its faults are those of its fields, in the
order of the fields. -/

/-- A value read from a document, or the faults found on the way. -/
inductive Checked (α : Type) where
  | good (a : α)
  | bad (issues : List Issue)

namespace Checked

variable {α β : Type}

/-- Applies a function to what was read. -/
def map (f : α → β) : Checked α → Checked β
  | good a => good (f a)
  | bad issues => bad issues

/-- Reads two parts; the faults of the first come first. -/
def app (f : Checked (α → β)) (a : Checked α) : Checked β :=
  match f, a with
  | good f, good a => good (f a)
  | good _, bad issues => bad issues
  | bad issues, good _ => bad issues
  | bad issues, bad others => bad (issues ++ others)

instance : Applicative Checked where
  pure := good
  map := map
  seq f a := app f (a ())

/-- A single fault at the place being read. -/
def fault (kind : IssueKind) : Checked α := bad [⟨[], kind⟩]

/-- What was read one step further inside a document. -/
def under (step : Step) : Checked α → Checked α
  | good a => good a
  | bad issues => bad (issues.map fun issue => { issue with path := step :: issue.path })

/-- What was read, as a result. -/
def toAttempt : Checked α → Attempt α
  | good a => .ok a
  | bad issues => .error (.invalid issues)

/-- What was read, without the faults. -/
def toOption : Checked α → Option α
  | good a => some a
  | bad _ => none

/-- Reads the items of a list, counting from a position. -/
def items (read : Value → Checked α) (start : Nat) : List Value → Checked (List α)
  | [] => good []
  | v :: rest =>
      app (map List.cons ((read v).under (.index start))) (items read (start + 1) rest)

/-- Reads the entries of a map. -/
def entries (read : Value → Checked α) : List (String × Value) → Checked (Entries α)
  | [] => good []
  | (key, v) :: rest =>
      app (map (fun a tail => (key, a) :: tail) ((read v).under (.name key))) (entries read rest)

end Checked

end AdminGrid

/-! ## Kinds of values -/

namespace AdminGrid.Validation

/-- A value of any kind. -/
def any (v : Value) : Checked Value := .good v

/-- A text. -/
def text : Value → Checked String
  | .text s => .good s
  | _ => .fault .textExpected

/-- A list without the zeros at its start, one of them kept when nothing else is there. -/
def dropZeros : List Char → List Char
  | '0' :: c :: rest =>
      if Reading.isPlainDigit c || c == '_' then dropZeros (c :: rest) else '0' :: c :: rest
  | '_' :: rest => dropZeros rest
  | cs => cs

/-- A list without a decimal point that only zeros follow. -/
def dropZeroPlaces (cs : List Char) : List Char :=
  if (cs.dropWhile (· != '.')).drop 1 |>.all (· == '0') then cs.takeWhile (· != '.') else cs

/-- The whole number that a text of a document denotes. -/
def integerText (s : String) : Checked Int :=
  let cs := Text.trimBy Text.isBlank s.toList
  if Reading.maxDigits < cs.length then .fault .integerTooLarge
  else
    let (negative, body) := Reading.splitSign cs
    let body := dropZeroPlaces body
    match body with
    | [] => .fault .integerUnreadable
    | first :: _ =>
        if !Reading.isPlainDigit first then .fault .integerUnreadable
        else match Reading.dropUnderscores? Reading.isPlainDigit false (dropZeros body) with
          | some ds =>
              if ds.isEmpty || !ds.all Reading.isPlainDigit then .fault .integerUnreadable
              else .good (Binary64.signed negative (Reading.digitsValue ds))
          | none => .fault .integerUnreadable

/-- The whole number that a floating number is. -/
def integerFloat (x : Binary64) : Checked Int :=
  match x with
  | .nan | .infinite _ => .fault .integerNotFinite
  | x => match x.toInt? with
    | none => .fault .integerHasFraction
    | some n => if -(twoTo 63 : Int) < n ∧ n < twoTo 63 then .good n else .fault .integerTooLarge

/-- A whole number. -/
def integer : Value → Checked Int
  | .bool b => .good (if b then 1 else 0)
  | .int n => .good n
  | .float x => integerFloat x
  | .text s => integerText s
  | _ => .fault .integerExpected

/-- The truth value that a word stands for. -/
def truthWord? (s : String) : Option Bool :=
  let word := String.ofList (s.toList.map Char.toLower)
  if ["true", "t", "yes", "y", "on", "1"].contains word then some true
  else if ["false", "f", "no", "n", "off", "0"].contains word then some false
  else none

/-- A truth value. -/
def truth : Value → Checked Bool
  | .bool b => .good b
  | .int n => if n = 1 then .good true else if n = 0 then .good false else .fault .truthUnreadable
  | .float x => match x.toInt? with
    | some 1 => .good true
    | some 0 => .good false
    | _ => .fault .truthExpected
  | .text s => match truthWord? s with
    | some b => .good b
    | none => .fault .truthUnreadable
  | _ => .fault .truthExpected

/-- A value that may be null. -/
def optional {α : Type} (read : Value → Checked α) : Value → Checked (Option α)
  | .null => .good none
  | v => (read v).map some

/-- A list of values of one kind. -/
def list {α : Type} (read : Value → Checked α) (v : Value) : Checked (List α) :=
  match v.items? with
  | some items => Checked.items read 0 items
  | none => .fault .listExpected

/-- A map of values of one kind. -/
def map {α : Type} (read : Value → Checked α) (v : Value) : Checked (Entries α) :=
  match v.entries? with
  | some entries => Checked.entries read entries
  | none => .fault .mapExpected

/-- A text among named choices. -/
def choice {α : Type} (choices : List (String × α)) : Value → Checked α
  | .text s => match Entries.get? s choices with
    | some a => .good a
    | none => .fault .notAmongChoices
  | _ => .fault .notAmongChoices

/-- A record, read from the entries of a map. -/
def record {α : Type} (read : List (String × Value) → Checked α) (v : Value) : Checked α :=
  match v.entries? with
  | some entries => read entries
  | none => .fault .recordExpected

/-- A field that must be present. -/
def required {α : Type} (name : String) (read : Value → Checked α)
    (entries : List (String × Value)) : Checked α :=
  match Entries.get? name entries with
  | some v => (read v).under (.name name)
  | none => Checked.under (.name name) (.fault .missing)

/-- A field that has a value of its own when it is absent. -/
def withDefault {α : Type} (name : String) (default : α) (read : Value → Checked α)
    (entries : List (String × Value)) : Checked α :=
  match Entries.get? name entries with
  | some v => (read v).under (.name name)
  | none => .good default

end AdminGrid.Validation

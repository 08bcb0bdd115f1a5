import AdminGrid.Failure
import AdminGrid.Value.Form
import AdminGrid.Value.Same

/-!
# Differences between two answers

Two answers to one request are compared in their draw counter, their two counts and their number of
rows.  The report lists what differs, and its severity is a number: one for each count, and the
distance between the numbers of rows.  An answer that is missing is the most severe.
-/

namespace AdminGrid.Parity

/-- The note of a report on an answer that is missing. -/
def unavailableNote : String := "pipeline_output_unavailable"

/-- The note of a report without differences. -/
def agreeNote : String := "no_diff"

/-- The severity of an answer that is missing. -/
def maxSeverity : Int := 9999

/-- Two values that are reported side by side. -/
def sideBySide (direct staged : Value) : Value :=
  .map [("legacy", direct), ("pipeline", staged)]

/-- The number of rows of an answer, if it lists any. -/
def rowCount? (answer : Entries Value) : Option Nat :=
  ((cellAt answer "data").items?).map List.length

/-- A number of rows as it is reported. -/
def countValue (count : Option Nat) : Value :=
  (count.map fun (n : Nat) => Value.int n).getD .null

/-- The numbers of rows of two answers side by side. -/
def rowCounts (direct staged : Entries Value) : Value :=
  sideBySide (countValue (rowCount? direct)) (countValue (rowCount? staged))

/-- An entry of two answers side by side. -/
def both (key : String) (direct staged : Entries Value) : Value :=
  sideBySide (cellAt direct key) (cellAt staged key)

/-- An entry that is reported where two answers differ in it. -/
def difference (key : String) (direct staged : Entries Value) : Entries Value :=
  if (cellAt direct key).same (cellAt staged key) then [] else [(key, both key direct staged)]

/-- All that two answers differ in. -/
def differences (direct staged : Entries Value) : Entries Value :=
  difference "draw" direct staged ++ difference "recordsTotal" direct staged ++
    difference "recordsFiltered" direct staged ++
    (if rowCount? direct = rowCount? staged then []
      else [("data_length", rowCounts direct staged)])

/-- The counts of two answers side by side. -/
def summary (direct staged : Entries Value) : Value :=
  .map [("recordsTotal", both "recordsTotal" direct staged),
    ("recordsFiltered", both "recordsFiltered" direct staged),
    ("data_length", rowCounts direct staged)]

/-- The report on two answers, the second of which may be missing. -/
def compare (direct : Entries Value) (staged : Option (Entries Value)) : Entries Value :=
  match staged with
  | none => [("note", .text unavailableNote)]
  | some staged =>
      let found := differences direct staged
      if found.isEmpty then [("note", .text agreeNote), ("summary", summary direct staged)]
      else found ++ [("summary", summary direct staged)]

/-- A reported number of rows; what counts as false stands for none. -/
def reportedCount (v : Value) : Attempt Numeral :=
  if !v.truthy then .ok (.int 0)
  else match v.numeral? with
    | some n => .ok n
    | none => .error .wrongKind

/-- A number without its sign. -/
def distance (n : Numeral) : Numeral :=
  match n with
  | .int n => .int n.natAbs
  | .float x => .float x.abs

/-- The distance between the numbers of rows in a report. -/
def rowDistance (counts : Value) : Attempt Numeral :=
  match counts with
  | .map entries => do
      let direct ← reportedCount (cellAt entries "legacy")
      let staged ← reportedCount (cellAt entries "pipeline")
      match direct.sub staged with
      | .ok n => return distance n
      | .error fault => .error fault.toFailure
  | _ => .ok (.int 0)

/-- The severity of a report. -/
def severity (report : Entries Value) : Attempt Numeral :=
  let note := (cellAt report "note").text?
  if note = some unavailableNote then .ok (.int maxSeverity)
  else if note = some agreeNote then .ok (.int 0)
  else do
    let counts : Int := (if report.has "recordsTotal" then 1 else 0) +
      (if report.has "recordsFiltered" then 1 else 0)
    match (Numeral.int counts).add (← rowDistance (cellAt report "data_length")) with
    | .ok n => return n
    | .error fault => .error fault.toFailure

/-- Whether a number is at most another one. -/
def atMost (n : Numeral) (limit : Int) : Bool :=
  match n.compare? (.int limit) with
  | some .lt | some .eq => true
  | _ => false

/-- Whether a report is tolerated. -/
def withinTolerance (report : Entries Value) (allowed : Int) : Attempt Bool := do
  return atMost (← severity report) allowed

/-- The severity that is tolerated: a setting, or a text in its place where it is not set. -/
def tolerance (setting : Value) (fallback : Option String) : Attempt Int :=
  match setting with
  | .null => .ok (max 0 ((fallback.bind Reading.int?).getD 0))
  | v => v.whole.map (max 0)

end AdminGrid.Parity

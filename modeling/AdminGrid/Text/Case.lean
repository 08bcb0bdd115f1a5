import AdminGrid.Text.CaseTable
import AdminGrid.Text.Interval

/-!
# Small and capital letters

`lower` writes every letter small, `capitalize` gives a word one capital and small letters after
it.  A capital sigma becomes the final small sigma when it ends a word.
-/

namespace AdminGrid.Text

/-- The partner of a code point in a table of runs. -/
def shiftBy? (n : Nat) (runs : List (Nat × Nat × Nat × Int)) : Option Char :=
  (runs.find? fun (first, last, step, _) => first ≤ n && n ≤ last && (n - first) % step == 0).map
    fun (_, _, _, shift) => Char.ofNat (n + shift).toNat

/-- The small form of one letter, without regard to its place in the word. -/
def lowerLetter (c : Char) : List Char :=
  if c.toNat < 128 then [c.toLower]
  else if c == 'İ' then ['i', Char.ofNat 775]
  else [(shiftBy? c.toNat lowerRuns).getD c]

/-- The form of one letter at the start of a title. -/
def titleLetter (c : Char) : List Char :=
  if c.toNat < 128 then [c.toUpper]
  else match titleExpansions.find? (·.1 == c.toNat) with
    | some (_, letters) => letters.map Char.ofNat
    | none => [(shiftBy? c.toNat titleRuns).getD c]

/-- Whether the nearest character that counts is a letter with a case. -/
def meetsCased (cs : List Char) : Bool :=
  match cs.find? fun c => !inIntervals c.toNat caseSilentIntervals with
  | some c => inIntervals c.toNat casedIntervals
  | none => false

/-- The small letters of a list whose preceding characters, nearest first, are `before`. -/
def lowerFrom (before : List Char) : List Char → List Char
  | [] => []
  | c :: rest =>
      (if c == 'Σ' then [if meetsCased before && !meetsCased rest then 'ς' else 'σ']
        else lowerLetter c) ++ lowerFrom (c :: before) rest

/-- A text with all its letters small. -/
def lower (s : String) : String :=
  String.ofList (lowerFrom [] s.toList)

/-- A word with a capital at its start and small letters after it. -/
def capitalize : List Char → List Char
  | [] => []
  | c :: rest => titleLetter c ++ lowerFrom [c] rest

end AdminGrid.Text

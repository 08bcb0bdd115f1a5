import AdminGrid.Text.Blank
import AdminGrid.Text.Split
import AdminGrid.Text.Word

/-!
# Patterns in texts

A pattern is a row of pieces.  It occurs in a text where its pieces fit one after the other, each
run of characters being as long or as short as it takes.
-/

namespace AdminGrid.Text

/-- A class of characters. -/
inductive CharClass where
  | blank | word | any
  /-- Every character but a line feed. -/
  | inLine
  | otherThan (c : Char)

/-- Whether a character belongs to a class. -/
def CharClass.has : CharClass → Char → Bool
  | blank, c => isBlank c
  | word, c => isWord c
  | any, _ => true
  | inLine, c => c != '\n'
  | otherThan d, c => c != d

/-- One piece of a pattern. -/
inductive Piece where
  | text (s : String)
  | oneOf (texts : List String)
  | one (cls : CharClass)
  /-- Any number of characters of a class. -/
  | run (cls : CharClass)
  /-- At least one character of a class. -/
  | some (cls : CharClass)
  /-- The end of the text or of a line. -/
  | lineEnd

/-- A pattern with the text that names it. -/
structure Pattern where
  source : String
  /-- Whether capital and small letters are the same. -/
  caseless : Bool
  pieces : List Piece

/-- A letter in the form that stands for all its forms: the small Latin letter, also for the long s,
the Kelvin sign and the dotted and dotless i. -/
def baseLetter (c : Char) : Char :=
  if c = 'ſ' then 's' else if c = '\u212a' then 'k'
  else if c = 'ı' || c = 'İ' then 'i' else c.toLower

/-- Whether a character of a text stands for one of a pattern. -/
def sameLetter (caseless : Bool) (p c : Char) : Bool :=
  p == c || (caseless && baseLetter p == baseLetter c)

/-- The rest of a list that starts with a text. -/
def dropText? (caseless : Bool) : List Char → List Char → Option (List Char)
  | [], cs => .some cs
  | _ :: _, [] => none
  | p :: ps, c :: cs => if sameLetter caseless p c then dropText? caseless ps cs else none

/-- The rests that a run of characters leaves. -/
def runRests (cls : CharClass) : List Char → List (List Char)
  | [] => [[]]
  | c :: cs => (c :: cs) :: (if cls.has c then runRests cls cs else [])

/-- The rest that one character leaves. -/
def oneRest (cls : CharClass) : List Char → List (List Char)
  | [] => []
  | c :: cs => if cls.has c then [cs] else []

/-- Whether a line ends before a rest. -/
def atLineEnd : List Char → Bool
  | [] => true
  | c :: _ => c == '\n'

/-- The rests that a piece leaves at the front of a list. -/
def Piece.rests (caseless : Bool) (cs : List Char) : Piece → List (List Char)
  | text s => (dropText? caseless s.toList cs).toList
  | oneOf texts => texts.flatMap fun s => (dropText? caseless s.toList cs).toList
  | one cls => oneRest cls cs
  | run cls => runRests cls cs
  | some cls => (oneRest cls cs).flatMap (runRests cls)
  | lineEnd => if atLineEnd cs then [cs] else []

/-- Whether pieces fit one after the other at the front of a list. -/
def fitPieces (caseless : Bool) : List Piece → List Char → Bool
  | [], _ => true
  | p :: ps, cs => (p.rests caseless cs).any (fitPieces caseless ps)

/-- Whether pieces fit somewhere in a list. -/
def occurPieces (caseless : Bool) (pieces : List Piece) : List Char → Bool
  | [] => fitPieces caseless pieces []
  | c :: cs => fitPieces caseless pieces (c :: cs) || occurPieces caseless pieces cs

/-- Whether a pattern occurs in a text. -/
def Pattern.occursIn (p : Pattern) (s : String) : Bool :=
  occurPieces p.caseless p.pieces s.toList

end AdminGrid.Text

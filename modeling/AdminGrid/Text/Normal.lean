import AdminGrid.Text.Interval
import AdminGrid.Text.NormalTable
import AdminGrid.Text.Split

/-!
# The normal form of names

Two spellings of one name are read as one name.  Every character is replaced by its plain spelling
with its marks behind it, the marks of a letter are put in order, and letters are joined again with
the marks that they can carry.  A name of plain letters, digits and underscores is its own normal
form.
-/

namespace AdminGrid.Text

/-- The class of a mark; 0 for every other character. -/
def markClass (c : Char) : Nat :=
  ((markClasses.find? fun (_, intervals) => inIntervals c.toNat intervals).map (·.1)).getD 0

/-- The letter that carries a mark, in a row of letters that each stand behind the letter they are
made of. -/
def joinedIn? (letter : Char) : List Char → Option Char
  | plain :: joined :: rest => if plain = letter then some joined else joinedIn? letter rest
  | _ => none

/-- The letter that a letter with a mark is made of, in such a row. -/
def plainIn? (letter : Char) : List Char → Option Char
  | plain :: joined :: rest => if joined = letter then some plain else plainIn? letter rest
  | _ => none

/-- A letter with its marks taken off and put behind it, by rows in which a letter with several
marks comes first. -/
def splitMarks : List (Nat × String) → Char → List Char
  | [], c => [c]
  | (mark, letters) :: rows, c =>
      match plainIn? c letters.toList with
      | some plain => splitMarks rows plain ++ [Char.ofNat mark]
      | none => splitMarks rows c

/-- A syllable of the Korean script as its two or three letters. -/
def splitSyllable? (c : Char) : Option (List Char) :=
  if 0xAC00 ≤ c.toNat && c.toNat ≤ 0xD7A3 then
    let place := c.toNat - 0xAC00
    let ending := if place % 28 = 0 then [] else [Char.ofNat (0x11A7 + place % 28)]
    some (Char.ofNat (0x1100 + place / 588) :: Char.ofNat (0x1161 + place % 588 / 28) :: ending)
  else none

/-- The syllable of the Korean script that a letter makes with what stands before it. -/
def joinSyllable? (before letter : Char) : Option Char :=
  let b := before.toNat
  let n := letter.toNat
  if 0x1100 ≤ b && b ≤ 0x1112 && 0x1161 ≤ n && n ≤ 0x1175 then
    some (Char.ofNat (0xAC00 + (b - 0x1100) * 588 + (n - 0x1161) * 28))
  else if 0xAC00 ≤ b && b ≤ 0xD7A3 && (b - 0xAC00) % 28 = 0 && 0x11A8 ≤ n && n ≤ 0x11C2 then
    some (Char.ofNat (b + (n - 0x11A7)))
  else none

/-- The plain spelling of a character: itself, unless a row of spellings has its place. -/
def plainSpelling (c : Char) : List Char :=
  let spelling? (first : Nat) (spellings : String) : Option (List Char) :=
    if first ≤ c.toNat then (splitList ' ' spellings.toList)[c.toNat - first]? else none
  match plainRows.findSome? fun (first, spellings) => spelling? first spellings with
  | none | some ['-'] => [c]
  | some letters => letters

/-- The plain spelling of a character with all marks behind their letters. -/
def spellOut (c : Char) : List Char :=
  (splitSyllable? c).getD ((plainSpelling c).flatMap (splitMarks markedRows))

/-- Puts a character in front of characters that stand nearest first, a mark behind those of higher
class. -/
def insertMark (c : Char) : List Char → List Char
  | [] => [c]
  | d :: rest =>
      if 0 < markClass c && markClass c < markClass d then d :: insertMark c rest
      else c :: d :: rest

/-- A list with the marks between two letters in the order of their classes. -/
def orderMarks (cs : List Char) : List Char :=
  (cs.foldl (fun before c => insertMark c before) []).reverse

/-- The one letter that stands for a letter with a mark. -/
def joined? (letter mark : Char) : Option Char :=
  (joinSyllable? letter mark).or <|
    markedRows.findSome? fun (n, letters) =>
      if n = mark.toNat then joinedIn? letter letters.toList else none

/-- Joins a letter with the marks behind it.  `held` are the marks that the letter does not carry;
a mark joins the letter only if all of these have a lower class. -/
def joinFrom (letter : Char) (held : List Char) : List Char → List Char
  | [] => letter :: held
  | c :: rest =>
      let free := held.all fun d => markClass d < markClass c
      match if free then joined? letter c else none with
      | some whole => joinFrom whole held rest
      | none =>
          if markClass c = 0 then letter :: held ++ joinFrom c [] rest
          else joinFrom letter (held ++ [c]) rest

/-- A list of characters with its letters joined with their marks. -/
def joinMarks : List Char → List Char
  | [] => []
  | c :: rest => joinFrom c [] rest

/-- The normal form of a name. -/
def normalForm (cs : List Char) : List Char :=
  if cs.all fun c => c.toNat < 128 then cs else joinMarks (orderMarks (cs.flatMap spellOut))

theorem normalForm_of_plain {cs : List Char} (h : ∀ c ∈ cs, c.toNat < 128) :
    normalForm cs = cs := by
  have hall : (cs.all fun c => c.toNat < 128) = true := by simpa using h
  rw [normalForm, if_pos hall]

end AdminGrid.Text

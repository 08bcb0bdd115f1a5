import AdminGrid.Number.Binary64
import AdminGrid.Value

/-!
# Reading documents

A document is read strictly: nothing but blanks may follow its value, texts hold no bare control
characters, escapes stand for characters, and numbers are whole ones of 64 bits or floating ones.
Where a map gives a key twice, the later entry counts.
-/

namespace AdminGrid.Json

/-- Whether a character may stand between the parts of a document. -/
def isGap (c : Char) : Bool := c == ' ' || c == '\t' || c == '\n' || c == '\r'

/-- A list without the gap at its front. -/
def skipGap (cs : List Char) : List Char := cs.dropWhile isGap

/-- The rest of a list that starts with a word. -/
def dropWord? : List Char → List Char → Option (List Char)
  | [], cs => some cs
  | _ :: _, [] => none
  | w :: ws, c :: cs => if w = c then dropWord? ws cs else none

/-- The value of a hexadecimal digit. -/
def hexValue? (c : Char) : Option Nat :=
  if '0' ≤ c && c ≤ '9' then some (c.toNat - 48)
  else if 'a' ≤ c && c ≤ 'f' then some (c.toNat - 87)
  else if 'A' ≤ c && c ≤ 'F' then some (c.toNat - 55)
  else none

/-- The number that four hexadecimal digits at the front of a list stand for. -/
def hexNumber? : List Char → Option (Nat × List Char)
  | a :: b :: c :: d :: rest => do
      let (w, x, y, z) := (← hexValue? a, ← hexValue? b, ← hexValue? c, ← hexValue? d)
      return (((w * 16 + x) * 16 + y) * 16 + z, rest)
  | _ => none

/-- The character that a numbered escape stands for, after its mark.  Two escapes together stand for
a character beyond the first plane. -/
def numberedEscape? (cs : List Char) : Option (Char × List Char) := do
  let (n, rest) ← hexNumber? cs
  if 0xD800 ≤ n && n < 0xDC00 then
    match rest with
    | '\\' :: 'u' :: rest =>
        let (m, rest) ← hexNumber? rest
        if 0xDC00 ≤ m && m < 0xE000 then
          return (Char.ofNat (0x10000 + (n - 0xD800) * 0x400 + (m - 0xDC00)), rest)
        else none
    | _ => none
  else if 0xDC00 ≤ n && n < 0xE000 then none
  else return (Char.ofNat n, rest)

/-- The character that a short escape stands for. -/
def shortEscape? (c : Char) : Option Char :=
  if c = '"' then some '"'
  else if c = '\\' then some '\\'
  else if c = '/' then some '/'
  else if c = 'b' then some '\x08'
  else if c = 'f' then some '\x0c'
  else if c = 'n' then some '\n'
  else if c = 'r' then some '\r'
  else if c = 't' then some '\t'
  else none

/-- The characters of a text up to its closing mark, in a number of steps, and the rest. -/
def readChars : (steps : Nat) → List Char → Option (List Char × List Char)
  | 0, _ => none
  | _ + 1, [] => none
  | _ + 1, '"' :: rest => some ([], rest)
  | steps + 1, '\\' :: 'u' :: rest => do
      let (c, rest) ← numberedEscape? rest
      let (cs, rest) ← readChars steps rest
      return (c :: cs, rest)
  | steps + 1, '\\' :: c :: rest => do
      let c ← shortEscape? c
      let (cs, rest) ← readChars steps rest
      return (c :: cs, rest)
  | steps + 1, c :: rest =>
      if c = '\\' || c.toNat < 32 then none
      else do
        let (cs, rest) ← readChars steps rest
        return (c :: cs, rest)

/-- A text after its opening mark, and the rest. -/
def readText (cs : List Char) : Option (String × List Char) := do
  let (text, rest) ← readChars (cs.length + 1) cs
  return (String.ofList text, rest)

/-- The digits at the front of a list, at least one, and the rest. -/
def readDigits? (cs : List Char) : Option (List Char × List Char) :=
  let ds := cs.takeWhile Reading.isPlainDigit
  if ds.isEmpty then none else some (ds, cs.dropWhile Reading.isPlainDigit)

/-- The digits after a point at the front of a list; without a point there are none. -/
def readPlaces? : List Char → Option (List Char × List Char)
  | '.' :: rest => readDigits? rest
  | cs => some ([], cs)

/-- The exponent at the front of a list, none where there is no mark of one. -/
def readExponent? (cs : List Char) : Option (Option Int × List Char) :=
  match cs with
  | c :: rest =>
      if c = 'e' || c = 'E' then do
        let (negative, rest) := Reading.splitSign rest
        let (ds, rest) ← readDigits? rest
        return (some (Binary64.signed negative (Reading.digitsValue ds)), rest)
      else some (none, cs)
  | [] => some (none, cs)

/-- A floating number as a value; an infinite one is none. -/
def finite? : Binary64 → Option Value
  | .nan | .infinite _ => none
  | x => some (.float x)

/-- A whole number as a value, a floating one where it has more than 64 bits. -/
def wholeValue? (negative : Bool) (n : Nat) : Option Value :=
  let whole := Binary64.signed negative n
  if -(twoTo 63 : Int) ≤ whole && whole < twoTo 64 then some (.int whole)
  else finite? (Reading.ofDecimal negative n 0)

/-- A number at the front of a list, and the rest. -/
def readNumber (cs : List Char) : Option (Value × List Char) := do
  let (negative, cs) := match cs with
    | '-' :: rest => (true, rest)
    | cs => (false, cs)
  let (whole, cs) ← readDigits? cs
  if whole.head? = some '0' && 1 < whole.length then none
  let point := cs.head? = some '.'
  let (places, cs) ← readPlaces? cs
  let (exponent, cs) ← readExponent? cs
  if !point && exponent.isNone then
    return (← wholeValue? negative (Reading.digitsValue whole), cs)
  let digits := Reading.digitsValue (whole ++ places)
  return (← finite? (Reading.ofDecimal negative digits (exponent.getD 0 - places.length)), cs)

/-- The deepest level at which a container may stand. -/
def maxLevel : Nat := 1024

mutual

/-- A value at the front of a list, in a number of steps, and the rest. -/
def readValue : (steps level : Nat) → List Char → Option (Value × List Char)
  | 0, _, _ => none
  | steps + 1, level, cs =>
      match skipGap cs with
      | '"' :: rest => (readText rest).map fun (s, rest) => (.text s, rest)
      | '[' :: rest =>
          if maxLevel ≤ level then none
          else match skipGap rest with
            | ']' :: rest => some (.list [], rest)
            | rest => (readItems steps (level + 1) rest).map fun (vs, rest) => (.list vs, rest)
      | '\x7b' :: rest =>
          if maxLevel ≤ level then none
          else match skipGap rest with
            | '\x7d' :: rest => some (.map [], rest)
            | rest => (readEntries steps (level + 1) [] rest).map fun (es, rest) => (.map es, rest)
      | 'n' :: rest => (dropWord? "ull".toList rest).map fun rest => (.null, rest)
      | 't' :: rest => (dropWord? "rue".toList rest).map fun rest => (.bool true, rest)
      | 'f' :: rest => (dropWord? "alse".toList rest).map fun rest => (.bool false, rest)
      | cs => readNumber cs

/-- The items of a list up to its closing bracket. -/
def readItems : (steps level : Nat) → List Char → Option (List Value × List Char)
  | 0, _, _ => none
  | steps + 1, level, cs => do
      let (v, rest) ← readValue steps level cs
      match skipGap rest with
      | ',' :: rest => do
          let (vs, rest) ← readItems steps level rest
          return (v :: vs, rest)
      | ']' :: rest => return ([v], rest)
      | _ => none

/-- The entries of a map up to its closing bracket, after those before them. -/
def readEntries : (steps level : Nat) → Entries Value → List Char →
    Option (Entries Value × List Char)
  | 0, _, _, _ => none
  | steps + 1, level, before, cs =>
      match skipGap cs with
      | '"' :: rest => do
          let (key, rest) ← readText rest
          match skipGap rest with
          | ':' :: rest => do
              let (v, rest) ← readValue steps level rest
              let entries := before.put key v
              match skipGap rest with
              | ',' :: rest => readEntries steps level entries rest
              | '\x7d' :: rest => return (entries, rest)
              | _ => none
          | _ => none
      | _ => none

end

/-- The value of a document, none where a text is no document. -/
def read? (s : String) : Option Value := do
  let cs := s.toList
  let (v, rest) ← readValue (cs.length + 1) 0 cs
  if (skipGap rest).isEmpty then some v else none

end AdminGrid.Json

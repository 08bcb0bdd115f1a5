import AdminGrid.Number.Binary64
import AdminGrid.Text.Blank
import AdminGrid.Text.Digit

/-!
# Reading numbers

A whole number is a sign and digits of any script, with single underscores allowed between digits.
A floating number may have a decimal point and an exponent, or be one of the words for infinity and
for what is no number.  Blanks around a number are passed over, and a whole number of more than
`maxDigits` digits is refused.
-/

namespace AdminGrid.Reading

/-- The most digits that a whole number may have. -/
def maxDigits : Nat := 4300

/-- The characters of a number with every decimal digit and blank outside ASCII in its plain form;
another character outside ASCII belongs to no number. -/
def plain (cs : List Char) : List Char :=
  cs.map fun c =>
    if c.toNat < 128 then c
    else if Text.isBlank c then ' '
    else match Text.digitValue? c with
      | some v => Char.ofNat (48 + v)
      | none => '?'

/-- Whether a character is one of the ten plain digits. -/
def isPlainDigit (c : Char) : Bool := '0' ≤ c && c ≤ '9'

/-- The value of a list of plain digits. -/
def digitsValue (ds : List Char) : Nat :=
  ds.foldl (fun n c => n * 10 + (c.toNat - 48)) 0

/-- A list without the underscores that stand between two digits; none when one stands elsewhere. -/
def dropUnderscores? (isDigit : Char → Bool) : (afterDigit : Bool) → List Char → Option (List Char)
  | _, [] => some []
  | afterDigit, '_' :: c :: rest =>
      if afterDigit && isDigit c then (dropUnderscores? isDigit true rest).map (c :: ·) else none
  | _, '_' :: [] => none
  | _, c :: rest => (dropUnderscores? isDigit (isDigit c) rest).map (c :: ·)

/-- A list split into an optional sign and the rest; the sign is true for minus. -/
def splitSign : List Char → Bool × List Char
  | '-' :: rest => (true, rest)
  | '+' :: rest => (false, rest)
  | cs => (false, cs)

/-- The whole number that a text denotes. -/
def int? (s : String) : Option Int :=
  let cs := Text.trimBy Text.isPlainBlank (plain s.toList)
  let (negative, body) := splitSign cs
  match dropUnderscores? isPlainDigit false body with
  | some ds =>
      if ds.isEmpty || !ds.all isPlainDigit || maxDigits < ds.length then none
      else some (Binary64.signed negative (digitsValue ds))
  | none => none

/-- A decimal fraction `digits · 10 ^ exponent` as the nearest floating number.  Exponents far out
of range are settled without computing the power. -/
def ofDecimal (negative : Bool) (digits : Nat) (exponent : Int) : Binary64 :=
  if digits = 0 then Binary64.zero negative
  else
    let size := (Nat.log2 digits : Int) * 30103 / 100000 + exponent
    if 400 < size then .infinite negative
    else if size < -400 then Binary64.zero negative
    else if 0 ≤ exponent then Binary64.ofRatio negative (digits * tenTo exponent.toNat) 1
    else Binary64.ofRatio negative digits (tenTo (-exponent).toNat)

/-- The exponent at the end of a number: nothing, or a mark, a sign and digits. -/
def exponent? : List Char → Option Int
  | [] => some 0
  | c :: rest =>
      if c == 'e' || c == 'E' then
        let (negative, ds) := splitSign rest
        if ds.isEmpty || !ds.all isPlainDigit then none
        else some (Binary64.signed negative (digitsValue ds))
      else none

/-- The unsigned floating number written by digits, a point and an exponent. -/
def magnitude? (negative : Bool) (cs : List Char) : Option Binary64 :=
  let whole := cs.takeWhile isPlainDigit
  let afterWhole := cs.dropWhile isPlainDigit
  let (part, tail) := match afterWhole with
    | '.' :: rest => (rest.takeWhile isPlainDigit, rest.dropWhile isPlainDigit)
    | rest => ([], rest)
  if whole.isEmpty && part.isEmpty then none
  else (exponent? tail).map fun exponent =>
    ofDecimal negative (digitsValue (whole ++ part)) (exponent - part.length)

/-- The floating number that a text denotes. -/
def float? (s : String) : Option Binary64 :=
  let cs := Text.trimBy Text.isPlainBlank (plain s.toList)
  match dropUnderscores? isPlainDigit false cs with
  | none => none
  | some cs =>
      let (negative, body) := splitSign cs
      let word := String.ofList (body.map Char.toLower)
      if word == "inf" || word == "infinity" then some (.infinite negative)
      else if word == "nan" then some .nan
      else magnitude? negative body

end AdminGrid.Reading

import AdminGrid.Number.Reading
import AdminGrid.Number.Shortest

/-!
# Decimal numbers

A decimal number keeps its digits and the place of its last digit, so `1.50` and `1.5` are equal in
value and different in text.  It is written plainly unless its last digit stands left of the decimal
point or its first digit more than six places behind it.
-/

namespace AdminGrid

/-- A decimal number `± coefficient · 10 ^ exponent`, an infinity, or no number. -/
inductive Decimal where
  | nan
  | infinite (negative : Bool)
  | finite (negative : Bool) (coefficient : Nat) (exponent : Int)
  deriving DecidableEq

namespace Decimal

/-- The decimal number that a text denotes. -/
def ofText? (s : String) : Option Decimal :=
  let (negative, body) := Reading.splitSign (Text.trimBy Text.isBlank s.toList)
  let word := String.ofList (body.map Char.toLower)
  if word == "inf" || word == "infinity" then some (.infinite negative)
  else if word == "nan" then some .nan
  else
    let whole := body.takeWhile Reading.isPlainDigit
    let (part, tail) := match body.dropWhile Reading.isPlainDigit with
      | '.' :: rest => (rest.takeWhile Reading.isPlainDigit, rest.dropWhile Reading.isPlainDigit)
      | rest => ([], rest)
    if whole.isEmpty && part.isEmpty then none
    else (Reading.exponent? tail).map fun e =>
      .finite negative (Reading.digitsValue (whole ++ part)) (e - part.length)

/-- The text of a decimal number. -/
def text : Decimal → String
  | nan => "NaN"
  | infinite negative => if negative then "-Infinity" else "Infinity"
  | finite negative coefficient exponent =>
      let ds := Binary64.digitChars coefficient
      let point := ds.length + exponent
      let body :=
        if exponent ≤ 0 ∧ -6 < point then
          if point ≤ 0 then '0' :: '.' :: (List.replicate (-point).toNat '0' ++ ds)
          else if exponent = 0 then ds
          else ds.take point.toNat ++ '.' :: ds.drop point.toNat
        else
          let e := point - 1
          let sign := if e < 0 then '-' else '+'
          let rest := if ds.length = 1 then [] else '.' :: ds.drop 1
          let power := if e = 0 then [] else 'E' :: sign :: Binary64.digitChars e.natAbs
          ds.take 1 ++ rest ++ power
      String.ofList (if negative then '-' :: body else body)

/-- The floating number nearest to a decimal number. -/
def toFloat : Decimal → Binary64
  | nan => .nan
  | infinite negative => .infinite negative
  | finite negative coefficient exponent => Reading.ofDecimal negative coefficient exponent

/-- Whether a decimal number is zero. -/
def isZero : Decimal → Bool
  | finite _ coefficient _ => coefficient == 0
  | _ => false

/-- The numerator and denominator of a decimal number, none for what has no finite value. -/
def ratio? : Decimal → Option (Int × Nat)
  | finite negative coefficient exponent =>
      some (Binary64.signed negative (coefficient * tenTo exponent.toNat), tenTo (-exponent).toNat)
  | _ => none

/-- Whether a decimal number equals a whole number in value. -/
def sameInt (d : Decimal) (n : Int) : Bool :=
  d.ratio?.any fun (num, den) => num == n * den

/-- Whether a decimal number equals a floating number in value. -/
def sameFloat (d : Decimal) : Binary64 → Bool
  | .nan => false
  | .infinite negative => d = infinite negative
  | .finite negative mantissa exponent =>
      let (n, m) := Binary64.ratio mantissa exponent
      d.ratio?.any fun (num, den) => num * m == Binary64.signed negative n * den

/-- Equality in value; what is no number equals nothing. -/
def same : Decimal → Decimal → Bool
  | nan, _ | _, nan => false
  | infinite s, infinite t => s == t
  | a, b => match a.ratio?, b.ratio? with
    | some (n, d), some (m, e) => n * e == m * d
    | _, _ => false

end Decimal

end AdminGrid

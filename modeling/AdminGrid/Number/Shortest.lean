import AdminGrid.Number.Binary64

/-!
# The text of a floating number

A floating number is written with the fewest decimal digits that read back as the same number, and
of those digits the ones nearest to it.  How the digits are laid out (where plain notation ends,
how an exponent looks) is a `DigitLayout` record, so that several formats share the digits.
-/

namespace AdminGrid.Binary64

/-- The decimal digits of a number. -/
def digitChars (n : Nat) : List Char := Nat.toDigits 10 n

/-- The whole part of the decimal logarithm of a positive fraction. -/
def decimalOrder (num den : Nat) : Int :=
  let guess := ((digitChars num).length : Int) - (digitChars den).length
  let reached :=
    if 0 ≤ guess then den * tenTo guess.toNat ≤ num else den ≤ num * tenTo (-guess).toNat
  if reached then guess else guess - 1

/-- A magnitude beside the half-way points to its neighbours, on a decimal grid: `value`, `below`
and `above` are whole multiples of one small unit, and a step of the grid is `step` of them. -/
structure Neighbourhood where
  value : Nat
  below : Nat
  above : Nat
  step : Nat
  /-- Whether the half-way points themselves read back as the magnitude. -/
  closed : Bool

/-- The neighbourhood of `mantissa · 2 ^ exponent` on the grid of the multiples of `10 ^ order`. -/
def neighbourhood (mantissa : Nat) (exponent order : Int) : Neighbourhood :=
  let unit := twoTo (exponent - 2).toNat * tenTo (-order).toNat
  let value := 4 * mantissa * unit
  let atBoundary := mantissa == twoTo 52 && minExponent < exponent
  { value
    below := value - (if atBoundary then 1 else 2) * unit
    above := value + 2 * unit
    step := tenTo order.toNat * twoTo (2 - exponent).toNat
    closed := mantissa % 2 == 0 }

/-- Whether the `k`-th point of the grid reads back as the magnitude. -/
def Neighbourhood.reads (n : Neighbourhood) (k : Nat) : Bool :=
  if n.closed then n.below ≤ k * n.step && k * n.step ≤ n.above
  else n.below < k * n.step && k * n.step < n.above

/-- The grid point nearest to the magnitude that reads back as it, if there is one. -/
def Neighbourhood.nearest? (n : Neighbourhood) : Option Nat :=
  let k := n.value / n.step
  match n.reads k, n.reads (k + 1) with
  | true, true =>
      let left := n.value - k * n.step
      let right := (k + 1) * n.step - n.value
      some (if left < right then k else if right < left then k + 1 else k + k % 2)
  | true, false => some k
  | false, true => some (k + 1)
  | false, false => none

/-- The digits of a positive magnitude and the place of the decimal point after the first of them:
`(ds, point)` stands for `0.ds · 10 ^ point`. -/
def shortestDigits (mantissa : Nat) (exponent : Int) : List Char × Int :=
  let (num, den) := ratio mantissa exponent
  let order := decimalOrder num den
  let found := (List.range 17).findSome? fun (count : Nat) =>
    let grid := order - (count : Int)
    (neighbourhood mantissa exponent grid).nearest?.map fun k => (k, grid)
  let (k, grid) := found.getD (mantissa, exponent)
  let digits := digitChars k
  let kept := (digits.reverse.dropWhile (· == '0')).reverse
  (kept, digits.length + grid)

/-- How digits and a decimal exponent are laid out. -/
structure DigitLayout where
  /-- Plain notation is used when the decimal point stands after this place … -/
  plainAfter : Int
  /-- … and not after this one. -/
  plainUpTo : Int
  /-- Whether a positive exponent shows its sign. -/
  plusSign : Bool
  /-- The least number of digits of an exponent. -/
  exponentWidth : Nat
  /-- Whether a single digit before an exponent gets a decimal point. -/
  pointBeforeExponent : Bool

/-- Texts of cells and messages: plain from `0.0001` to below `10 ^ 16`, exponents of two digits. -/
def DigitLayout.display : DigitLayout := ⟨-4, 16, true, 2, false⟩

/-- Texts of stored documents: plain from `0.00001` to below `10 ^ 16`, bare exponents. -/
def DigitLayout.document : DigitLayout := ⟨-5, 16, false, 1, false⟩

/-- Texts that a store makes of its numbers: plain from `0.0001` to below `10 ^ 15`. -/
def DigitLayout.stored : DigitLayout := ⟨-4, 15, true, 2, true⟩

/-- Digits behind enough zeros for a width. -/
def padZeros (width : Nat) (ds : List Char) : List Char :=
  List.replicate (width - ds.length) '0' ++ ds

/-- The layout of digits whose decimal point stands after place `point`. -/
def DigitLayout.layout (f : DigitLayout) (ds : List Char) (point : Int) : List Char :=
  if f.plainAfter < point ∧ point ≤ f.plainUpTo then
    if point ≤ 0 then '0' :: '.' :: (List.replicate (-point).toNat '0' ++ ds)
    else
      let whole := ds.take point.toNat
      let part := ds.drop point.toNat
      whole ++ List.replicate (point.toNat - ds.length) '0' ++
        '.' :: (if part.isEmpty then ['0'] else part)
  else
    let exponent := point - 1
    let sign := if exponent < 0 then ['-'] else if f.plusSign then ['+'] else []
    let rest := match ds.drop 1 with
      | [] => if f.pointBeforeExponent then ['.', '0'] else []
      | part => '.' :: part
    ds.take 1 ++ rest ++ 'e' :: (sign ++ padZeros f.exponentWidth (digitChars exponent.natAbs))

/-- The text of a number: the fewest digits that read back, laid out in a notation. -/
def text (f : DigitLayout) : Binary64 → String
  | nan => "nan"
  | infinite negative => if negative then "-inf" else "inf"
  | finite negative mantissa exponent =>
      let body :=
        if mantissa = 0 then ['0', '.', '0']
        else
          let (ds, point) := shortestDigits mantissa exponent
          f.layout ds point
      String.ofList (if negative then '-' :: body else body)

end AdminGrid.Binary64

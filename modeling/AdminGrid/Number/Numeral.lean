import AdminGrid.Number.Fixed
import AdminGrid.Number.Reading

/-!
# Numbers of formulas

A number is whole, of any size, or floating.  Whole numbers stay whole under `+`, `-`, `*` and
`%`; a quotient, and any operation with a floating operand, is floating.  `%` takes the sign of its
divisor.
-/

namespace AdminGrid

/-- A whole or a floating number. -/
inductive Numeral where
  | int (n : Int)
  | float (x : Binary64)
  deriving DecidableEq, Inhabited

/-- Why an operation on numbers has no result. -/
inductive ArithmeticFault where
  /-- The divisor is zero. -/
  | zeroDivisor
  /-- A whole number is too large for the floating operation asked for. -/
  | outOfRange
  deriving DecidableEq

namespace Numeral

/-- A number as a floating one. -/
def toFloat : Numeral → Except ArithmeticFault Binary64
  | int n => match Binary64.ofInt? n with
    | some x => .ok x
    | none => .error .outOfRange
  | float x => .ok x

/-- Applies one operation to whole numbers and another to floating ones. -/
def lift (onInt : Int → Int → Int) (onFloat : Binary64 → Binary64 → Binary64) :
    Numeral → Numeral → Except ArithmeticFault Numeral
  | int a, int b => .ok (int (onInt a b))
  | a, b => do
      let x ← a.toFloat
      let y ← b.toFloat
      return float (onFloat x y)

/-- The sum of two numbers. -/
def add : Numeral → Numeral → Except ArithmeticFault Numeral := lift (· + ·) Binary64.add

/-- The difference of two numbers. -/
def sub : Numeral → Numeral → Except ArithmeticFault Numeral := lift (· - ·) Binary64.sub

/-- The product of two numbers. -/
def mul : Numeral → Numeral → Except ArithmeticFault Numeral := lift (· * ·) Binary64.mul

/-- Whether a number is zero. -/
def isZero : Numeral → Bool
  | int n => n == 0
  | float x => x.isZero

/-- The quotient of two whole numbers as the nearest floating number. -/
def divInt (a b : Int) : Except ArithmeticFault Numeral :=
  if b = 0 then .error .zeroDivisor
  else match Binary64.ofRatio (a < 0 && 0 < b || 0 < a && b < 0) a.natAbs b.natAbs with
    | .infinite _ => .error .outOfRange
    | x => .ok (float x)

/-- The quotient of two numbers. -/
def div : Numeral → Numeral → Except ArithmeticFault Numeral
  | int a, int b => divInt a b
  | a, b => do
      let x ← a.toFloat
      let y ← b.toFloat
      if y.isZero then .error .zeroDivisor else return float (x.div y)

/-- The remainder of a division whose quotient is rounded down. -/
def mod : Numeral → Numeral → Except ArithmeticFault Numeral
  | int a, int b => if b = 0 then .error .zeroDivisor else .ok (int (a.fmod b))
  | a, b => do
      let x ← a.toFloat
      let y ← b.toFloat
      if y.isZero then .error .zeroDivisor else return float (x.mod y)

/-- A number with the opposite sign. -/
def neg : Numeral → Numeral
  | int n => int (-n)
  | float x => float x.neg

/-- The order of two numbers, none when one of them is not a number. -/
def compare? : Numeral → Numeral → Option Ordering
  | int a, int b => some (Ord.compare a b)
  | float x, int b => x.compareInt? b
  | int a, float y => (y.compareInt? a).map Ordering.swap
  | float x, float y => x.compare? y

/-- Whether the first number is smaller. -/
def lt (a b : Numeral) : Bool := a.compare? b == some .lt

/-- Whether two numbers are equal in value. -/
def same (a b : Numeral) : Bool := a.compare? b == some .eq

/-- The sum of a list of numbers, taken from the left. -/
def sum (numbers : List Numeral) : Except ArithmeticFault Numeral :=
  numbers.foldlM add (int 0)

/-- The first of the smallest numbers of a list that is not empty. -/
def least (first : Numeral) (rest : List Numeral) : Numeral :=
  rest.foldl (fun best n => if n.lt best then n else best) first

/-- The first of the greatest numbers of a list that is not empty. -/
def greatest (first : Numeral) (rest : List Numeral) : Numeral :=
  rest.foldl (fun best n => if best.lt n then n else best) first

/-- A result as it is shown: a floating number without a fraction becomes whole, another one is
rounded to ten decimal places. -/
def tidy : Numeral → Numeral
  | int n => int n
  | float x => match x.toInt? with
    | some n => int n
    | none => float (x.roundPlaces 10)

theorem tidy_int (n : Int) : (int n).tidy = int n := rfl

end Numeral

end AdminGrid

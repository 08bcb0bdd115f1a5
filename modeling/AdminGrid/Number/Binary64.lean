/-!
# Floating numbers

A floating number is kept as what it means: not a number, an infinity, or an exact dyadic fraction
`± mantissa · 2 ^ exponent` with 53 significant bits.  Sums, products, quotients and remainders are
computed exactly and then rounded once to the nearest such fraction, a tie going to the even
mantissa, so no step depends on the machine.
-/

namespace AdminGrid

/-! ## Powers

Binary fractions are scaled by powers of two and decimal ones by powers of ten. -/

/-- A power of two. -/
def twoTo (n : Nat) : Nat := Nat.pow 2 n

/-- A power of ten. -/
def tenTo (n : Nat) : Nat := Nat.pow 10 n

theorem twoTo_pos (n : Nat) : 0 < twoTo n := Nat.pow_pos (by decide)

theorem tenTo_pos (n : Nat) : 0 < tenTo n := Nat.pow_pos (by decide)

theorem twoTo_succ (n : Nat) : twoTo (n + 1) = 2 * twoTo n := Nat.mul_comm _ _

theorem tenTo_succ (n : Nat) : tenTo (n + 1) = 10 * tenTo n := Nat.mul_comm _ _

theorem tenTo_le {m n : Nat} (h : m ≤ n) : tenTo m ≤ tenTo n :=
  Nat.pow_le_pow_right (by decide) h

/-! ## Numbers -/

/-- A number of the binary format with 53 significant bits. -/
inductive Binary64 where
  /-- No number: the result of `∞ - ∞` and the like. -/
  | nan
  /-- One of the two infinities. -/
  | infinite (negative : Bool)
  /-- The fraction `± mantissa · 2 ^ exponent`; zero has a sign of its own. -/
  | finite (negative : Bool) (mantissa : Nat) (exponent : Int)
  deriving DecidableEq, Inhabited

namespace Binary64

/-- The least exponent, that of the smallest fractions and of zero. -/
def minExponent : Int := -1074

/-- The greatest exponent of a mantissa below `2 ^ 53`. -/
def maxExponent : Int := 971

/-- The zero of a sign. -/
def zero (negative : Bool) : Binary64 := .finite negative 0 minExponent

/-- The quotient of two numbers rounded to the nearest whole number, a tie going to the even one. -/
def roundDiv (num den : Nat) : Nat :=
  let quotient := num / den
  let rest := num % den
  if 2 * rest < den then quotient
  else if den < 2 * rest then quotient + 1
  else quotient + quotient % 2

/-- The whole part of the binary logarithm of a positive fraction. -/
def binaryOrder (num den : Nat) : Int :=
  let guess := (num.log2 : Int) - den.log2
  let reached :=
    if 0 ≤ guess then den * twoTo guess.toNat ≤ num else den ≤ num * twoTo (-guess).toNat
  if reached then guess else guess - 1

/-- The number nearest to the fraction `± num / den`, infinite when that is out of range. -/
def ofRatio (negative : Bool) (num den : Nat) : Binary64 :=
  if num = 0 then zero negative
  else
    let exponent := max (binaryOrder num den - 52) minExponent
    let mantissa :=
      if 0 ≤ exponent then roundDiv num (den * twoTo exponent.toNat)
      else roundDiv (num * twoTo (-exponent).toNat) den
    let (mantissa, exponent) :=
      if mantissa = twoTo 53 then (twoTo 52, exponent + 1) else (mantissa, exponent)
    if maxExponent < exponent then .infinite negative else .finite negative mantissa exponent

/-- The numerator and denominator of a magnitude. -/
def ratio (mantissa : Nat) (exponent : Int) : Nat × Nat :=
  if 0 ≤ exponent then (mantissa * twoTo exponent.toNat, 1)
  else (mantissa, twoTo (-exponent).toNat)

/-- A signed whole number from a sign and a magnitude. -/
def signed (negative : Bool) (n : Nat) : Int := if negative then -(n : Int) else n

/-- The number nearest to the signed fraction `num · 2 ^ exponent`. -/
def ofScaled (num : Int) (exponent : Int) : Binary64 :=
  let (n, d) := ratio num.natAbs exponent
  ofRatio (num < 0) n d

/-- The number nearest to a whole number, if it is in range. -/
def ofInt? (n : Int) : Option Binary64 :=
  match ofRatio (n < 0) n.natAbs 1 with
  | .finite negative mantissa exponent => some (.finite negative mantissa exponent)
  | _ => none

/-- A number with the opposite sign. -/
def neg : Binary64 → Binary64
  | nan => nan
  | infinite negative => .infinite !negative
  | finite negative mantissa exponent => .finite (!negative) mantissa exponent

/-- A number without its sign. -/
def abs : Binary64 → Binary64
  | nan => nan
  | infinite _ => .infinite false
  | finite _ mantissa exponent => .finite false mantissa exponent

/-- The sum of two numbers. -/
def add : Binary64 → Binary64 → Binary64
  | nan, _ | _, nan => nan
  | infinite s, infinite t => if s = t then .infinite s else nan
  | infinite s, finite .. => .infinite s
  | finite .., infinite t => .infinite t
  | finite s m e, finite t n f =>
      let low := min e f
      let total := signed s m * twoTo (e - low).toNat + signed t n * twoTo (f - low).toNat
      if total = 0 then zero (s && t) else ofScaled total low

/-- The difference of two numbers. -/
def sub (a b : Binary64) : Binary64 := a.add b.neg

/-- The product of two numbers. -/
def mul : Binary64 → Binary64 → Binary64
  | nan, _ | _, nan => nan
  | infinite s, infinite t => .infinite (s != t)
  | infinite s, finite t n _ => if n = 0 then nan else .infinite (s != t)
  | finite s m _, infinite t => if m = 0 then nan else .infinite (s != t)
  | finite s m e, finite t n f =>
      let (num, den) := ratio (m * n) (e + f)
      ofRatio (s != t) num den

/-- The quotient of two numbers; a caller refuses the divisor zero first. -/
def div : Binary64 → Binary64 → Binary64
  | nan, _ | _, nan => nan
  | infinite _, infinite _ => nan
  | infinite s, finite t _ _ => .infinite (s != t)
  | finite s _ _, infinite t => zero (s != t)
  | finite s m e, finite t n f =>
      if n = 0 then nan
      else
        let (num, den) := ratio m (e - f)
        ofRatio (s != t) num (den * n)

/-- Whether a number is zero, of either sign. -/
def isZero : Binary64 → Bool
  | finite _ mantissa _ => mantissa == 0
  | _ => false

/-- Whether a number carries a minus sign. -/
def isNegative : Binary64 → Bool
  | nan => false
  | infinite negative => negative
  | finite negative _ _ => negative

/-- The remainder of a division whose quotient is rounded down, so that it has the divisor's sign;
a caller refuses the divisor zero first. -/
def mod : Binary64 → Binary64 → Binary64
  | nan, _ | _, nan => nan
  | infinite _, _ => nan
  | finite s m e, infinite t =>
      if m = 0 then zero t else if s = t then .finite s m e else .infinite t
  | finite s m e, finite t n f =>
      if n = 0 then nan
      else
        let low := min e f
        let rest := m * twoTo (e - low).toNat % (n * twoTo (f - low).toNat)
        if rest = 0 then zero t
        else
          let cut := ofScaled (signed s rest) low
          if s = t then cut else cut.add (.finite t n f)

/-- The order of two numbers, none when one of them is not a number. -/
def compare? : Binary64 → Binary64 → Option Ordering
  | nan, _ | _, nan => none
  | infinite s, infinite t => some (Ord.compare t s)
  | infinite s, finite .. => some (if s then .lt else .gt)
  | finite .., infinite t => some (if t then .gt else .lt)
  | finite s m e, finite t n f =>
      let low := min e f
      some (Ord.compare (signed s m * twoTo (e - low).toNat) (signed t n * twoTo (f - low).toNat))

/-- The order of a number and a whole number, none when the number is not a number. -/
def compareInt? : Binary64 → Int → Option Ordering
  | nan, _ => none
  | infinite s, _ => some (if s then .lt else .gt)
  | finite s m e, n =>
      if 0 ≤ e then some (Ord.compare (signed s m * twoTo e.toNat) n)
      else some (Ord.compare (signed s m) (n * twoTo (-e).toNat))

/-- The whole part of a number, cut toward zero. -/
def truncate? : Binary64 → Option Int
  | finite s m e =>
      let (num, den) := ratio m e
      some (signed s (num / den))
  | _ => none

/-- The whole number that a number is, if it is one. -/
def toInt? : Binary64 → Option Int
  | finite s m e =>
      let (num, den) := ratio m e
      if num % den = 0 then some (signed s (num / den)) else none
  | _ => none

/-- Equality of numbers: zeros of both signs are equal, what is not a number equals nothing. -/
def same (a b : Binary64) : Bool := a.compare? b == some .eq

theorem roundDiv_mul (n : Nat) {den : Nat} (h : 0 < den) : roundDiv (n * den) den = n := by
  simp [roundDiv, Nat.mul_div_cancel n h, h]

theorem neg_neg (a : Binary64) : a.neg.neg = a := by
  cases a <;> simp [neg]

theorem signed_natAbs (negative : Bool) (n : Nat) : (signed negative n).natAbs = n := by
  cases negative <;> simp [signed]

end Binary64

end AdminGrid

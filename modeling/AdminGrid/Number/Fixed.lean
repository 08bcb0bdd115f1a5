import AdminGrid.Number.Shortest

/-!
# Rounding to decimal places

A floating number is an exact fraction, so its value at a number of decimal places is the nearest
multiple of that place, a tie going to the even one.  `groupThousands` sets a mark between groups
of three digits.
-/

namespace AdminGrid.Binary64

/-- A magnitude counted in units of the last of `places` decimal places, to the nearest unit. -/
def unitsAt (places : Nat) (mantissa : Nat) (exponent : Int) : Nat :=
  let (num, den) := ratio mantissa exponent
  roundDiv (num * tenTo places) den

/-- Digits with a mark between groups of three, counted from the right, on the reversed list. -/
def groupReversed (mark : Char) : List Char → List Char
  | a :: b :: c :: d :: rest => a :: b :: c :: mark :: groupReversed mark (d :: rest)
  | ds => ds

/-- Digits with a mark between groups of three, counted from the right. -/
def groupThousands (mark : Char) (ds : List Char) : List Char :=
  (groupReversed mark ds.reverse).reverse

/-- The whole digits and the digits of the decimal places of a magnitude. -/
def fixedDigits (places : Nat) (mantissa : Nat) (exponent : Int) : List Char × List Char :=
  let units := unitsAt places mantissa exponent
  let ds := padZeros (places + 1) (digitChars units)
  (ds.take (ds.length - places), ds.drop (ds.length - places))

/-- A number at a fixed number of decimal places, its whole digits in groups of three. -/
def groupedText (thousands point : Char) (places : Nat) : Binary64 → String
  | nan => "nan"
  | infinite negative => if negative then "-inf" else "inf"
  | finite negative mantissa exponent =>
      let (whole, part) := fixedDigits places mantissa exponent
      String.ofList <|
        (if negative then ['-'] else []) ++ groupThousands thousands whole ++
          (if places = 0 then [] else point :: part)

/-- The number nearest to a number rounded to some decimal places. -/
def roundPlaces (places : Nat) : Binary64 → Binary64
  | finite negative mantissa exponent =>
      ofRatio negative (unitsAt places mantissa exponent) (tenTo places)
  | other => other

/-- The digits of a magnitude at fifteen significant places, a tie going up, and the place of the
decimal point after the first of them. -/
def significantDigits (mantissa : Nat) (exponent : Int) : List Char × Int :=
  let (num, den) := ratio mantissa exponent
  let order := decimalOrder num den - 14
  let up := num * tenTo (-order).toNat
  let down := den * tenTo order.toNat
  let ds := digitChars ((2 * up + down) / (2 * down))
  ((ds.reverse.dropWhile (· == '0')).reverse, ds.length + order)

/-- The text that a store makes of a number: fifteen significant digits. -/
def storedText : Binary64 → String
  | nan => ""
  | infinite negative => if negative then "-Inf" else "Inf"
  | finite negative mantissa exponent =>
      let body :=
        if mantissa = 0 then ['0', '.', '0']
        else
          let (ds, point) := significantDigits mantissa exponent
          DigitLayout.stored.layout ds point
      String.ofList (if negative && mantissa ≠ 0 then '-' :: body else body)

theorem groupReversed_filter (mark : Char) (ds : List Char) (h : mark ∉ ds) :
    (groupReversed mark ds).filter (· ≠ mark) = ds := by
  induction ds using groupReversed.induct with
  | case1 a b c d rest ih =>
      simp only [List.mem_cons, not_or] at h ih
      obtain ⟨ha, hb, hc, hd, hr⟩ := h
      simp [groupReversed, Ne.symm ha, Ne.symm hb, Ne.symm hc]
      simpa using ih ⟨hd, hr⟩
  | case2 ds hds =>
      rw [groupReversed.eq_2 mark ds hds]
      simp only [List.filter_eq_self, decide_eq_true_eq]
      intro c hc e
      exact h (e ▸ hc)

end AdminGrid.Binary64

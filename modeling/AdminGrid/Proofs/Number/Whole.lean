import AdminGrid.Number.Fixed
import AdminGrid.Proofs.Number.Range
import AdminGrid.Proofs.Number.Reading

/-!
# Whole numbers among the floating ones

A whole number that becomes a floating one is rounded to a whole number again.  It stays what it is
exactly if it is a mantissa below `2 ^ 53` times one of the powers of two that the format has.  What
is shown of it are its digits in groups of three, and zeros for decimal places.
-/

namespace AdminGrid.Binary64

/-- Whether a natural number is the magnitude of a floating number. -/
def IsFloating (n : Nat) : Prop :=
  ∃ mantissa exponent, mantissa < twoTo 53 ∧ exponent ≤ 971 ∧ n = mantissa * twoTo exponent

/-- Whether a floating number is as near to a natural number as any other one. -/
def IsNearest (n m : Nat) : Prop :=
  IsFloating m ∧ ∀ k, IsFloating k → ((n : Int) - m).natAbs ≤ ((n : Int) - k).natAbs

/-- Whether a mantissa with an exponent makes a natural number. -/
def IsWhole (mantissa : Nat) (exponent : Int) (n : Nat) : Prop :=
  (ratio mantissa exponent).1 = n * (ratio mantissa exponent).2

theorem isWhole_scaled (mantissa exponent : Nat) :
    IsWhole mantissa exponent (mantissa * twoTo exponent) := by
  simp [IsWhole, ratio]

theorem isWhole_fraction (n scale : Nat) : IsWhole (n * twoTo scale) (-(scale : Int)) n := by
  unfold IsWhole ratio
  by_cases hscale : (0 : Int) ≤ -scale
  · obtain rfl : scale = 0 := by omega
    rw [if_pos hscale]
    simp [twoTo]
  · rw [if_neg hscale, Int.neg_neg, Int.toNat_natCast]

theorem isWhole_zero (exponent : Int) : IsWhole 0 exponent 0 := by
  unfold IsWhole ratio
  split <;> simp

theorem ratio_snd_pos (mantissa : Nat) (exponent : Int) : 0 < (ratio mantissa exponent).2 := by
  unfold ratio
  split
  · exact Nat.one_pos
  · exact twoTo_pos _

section Rounding

variable {num den : Nat}

theorem roundDiv_le {bound : Nat} (h : num < bound * den) : roundDiv num den ≤ bound := by
  have hquotient : num / den < bound := Nat.div_lt_of_lt_mul (by rwa [Nat.mul_comm] at h)
  unfold roundDiv
  dsimp only
  split
  · omega
  · split <;> omega

/-- A rounded quotient makes a multiple of the divisor as near as any other one. -/
theorem roundDiv_nearest (num : Nat) {den : Nat} (hden : 0 < den) (j : Nat) :
    ((num : Int) - (roundDiv num den * den : Nat)).natAbs ≤
      ((num : Int) - (j * den : Nat)).natAbs := by
  have hsplit := Nat.div_add_mod' num den
  have hrest := Nat.mod_lt num hden
  have hstep : (num / den + 1) * den = num / den * den + den := Nat.succ_mul _ _
  -- the multiples next to the number are one below or at it and one above it
  have hbeside : j * den ≤ num / den * den ∨ num / den * den + den ≤ j * den := by
    rw [← hstep]
    rcases Nat.lt_or_ge (num / den) j with h | h
    · exact .inr (Nat.mul_le_mul_right den h)
    · exact .inl (Nat.mul_le_mul_right den h)
  unfold roundDiv
  dsimp only
  split
  · omega
  · split
    · rw [hstep]
      omega
    · rcases Nat.mod_two_eq_zero_or_one (num / den) with h | h
      · rw [h, Nat.add_zero]
        omega
      · rw [h, hstep]
        omega

theorem isFloating_of_lt (h : num < twoTo 53) : IsFloating num :=
  ⟨num, 0, h, by omega, (Nat.mul_one num).symm⟩

theorem isNearest_self (h : IsFloating num) : IsNearest num num :=
  ⟨h, fun k _ => by omega⟩

/-- A floating number is nearest to itself only. -/
theorem IsNearest.eq {m : Nat} (h : IsNearest num m) (hnum : IsFloating num) : m = num := by
  have hdistance := h.2 num hnum
  omega

theorem IsNearest.pos {m : Nat} (h : IsNearest num m) (hnum : 0 < num) : 0 < m := by
  have hdistance := h.2 1 (isFloating_of_lt (by decide))
  omega

/-- Floating numbers are below the limit, which lies beyond the greatest of them. -/
theorem lt_floatLimit_of_isFloating (h : IsFloating num) : num < floatLimit := by
  obtain ⟨mantissa, exponent, hmantissa, hexponent, rfl⟩ := h
  have hpow : twoTo 971 = 2 * twoTo 970 := twoTo_succ 970
  calc mantissa * twoTo exponent ≤ (twoTo 53 - 1) * twoTo 971 :=
        Nat.mul_le_mul (by omega) (twoTo_le hexponent)
    _ = (2 * (twoTo 53 - 1)) * twoTo 970 := by
        rw [hpow, Nat.mul_left_comm, Nat.mul_assoc]
    _ < (twoTo 54 - 1) * twoTo 970 :=
        Nat.mul_lt_mul_of_pos_right (by decide) (twoTo_pos 970)

/-- The binary order of a natural number, as a natural number. -/
theorem exists_binaryOrder_one (hnum : 0 < num) :
    ∃ order : Nat, binaryOrder num 1 = order ∧ twoTo order ≤ num ∧ num < twoTo (order + 1) := by
  have hiff := le_binaryOrder_iff hnum Nat.one_pos
  have hnonneg : (0 : Int) ≤ binaryOrder num 1 :=
    (hiff 0).2 (by rw [Nat.one_mul]; exact hnum)
  obtain ⟨order, horder⟩ := Int.eq_ofNat_of_zero_le hnonneg
  have hlow := (hiff order).1 (Int.le_of_eq horder.symm)
  have hhigh : ¬ 1 * twoTo (order + 1) ≤ num := fun h => by
    have := (hiff (order + 1)).2 h
    omega
  rw [Nat.one_mul] at hlow hhigh
  exact ⟨order, horder, hlow, Nat.lt_of_not_le hhigh⟩

/-- A floating number is rounded to a multiple of its last place without a rest. -/
theorem roundDiv_of_isFloating {place : Nat} (h : IsFloating num)
    (hplace : twoTo (52 + place) ≤ num) :
    roundDiv num (twoTo place) * twoTo place = num := by
  obtain ⟨mantissa, exponent, hmantissa, -, rfl⟩ := h
  have hle : place ≤ exponent := by
    refine Nat.le_of_not_lt fun hlt => ?_
    have hsmall : mantissa * twoTo exponent < twoTo (52 + place) :=
      calc mantissa * twoTo exponent < twoTo 53 * twoTo exponent :=
            Nat.mul_lt_mul_of_pos_right hmantissa (twoTo_pos exponent)
        _ = twoTo (53 + exponent) := (twoTo_add 53 exponent).symm
        _ ≤ twoTo (52 + place) := twoTo_le (by omega)
    omega
  obtain ⟨further, rfl⟩ := Nat.exists_eq_add_of_le hle
  rw [Nat.add_comm place further, twoTo_add, ← Nat.mul_assoc, roundDiv_mul _ (twoTo_pos place)]

/-- Rounding to the last place that a number has leads to a nearest floating number. -/
theorem isNearest_roundDiv {place : Nat} (hlow : twoTo (52 + place) ≤ num)
    (hfloating : IsFloating (roundDiv num (twoTo place) * twoTo place)) :
    IsNearest num (roundDiv num (twoTo place) * twoTo place) := by
  refine ⟨hfloating, fun k hk => ?_⟩
  rcases Nat.lt_or_ge k (twoTo (52 + place)) with hsmall | hlarge
  · -- a number with a smaller last place is farther away than the least one with this place
    have hleast := roundDiv_nearest num (twoTo_pos place) (twoTo 52)
    rw [← twoTo_add] at hleast
    omega
  · have hmultiple := roundDiv_nearest num (twoTo_pos place) (roundDiv k (twoTo place))
    rwa [roundDiv_of_isFloating hk hlarge] at hmultiple

/-- A rounded mantissa that reaches the next power of two has one place fewer. -/
theorem ofRatio_eq_carried (negative : Bool) (hnum : num ≠ 0) {exponent : Int} {mantissa : Nat}
    (hexponent : max (binaryOrder num den - 52) minExponent = exponent)
    (hmantissa : (if 0 ≤ exponent then roundDiv num (den * twoTo exponent.toNat)
      else roundDiv (num * twoTo (-exponent).toNat) den) = mantissa) :
    ofRatio negative num den =
      if mantissa = twoTo 53 then
        if maxExponent < exponent + 1 then .infinite negative
        else .finite negative (twoTo 52) (exponent + 1)
      else if maxExponent < exponent then .infinite negative
      else .finite negative mantissa exponent := by
  unfold ofRatio
  rw [if_neg hnum]
  dsimp only
  rw [hexponent, hmantissa]
  split <;> rfl

/-- A finite result of a rounding has the sign, the mantissa and the exponent that were found. -/
theorem finite_of_ite {p : Prop} [Decidable p] {negative negative' : Bool} {m mantissa : Nat}
    {e exponent : Int} (h : (if p then infinite negative else finite negative m e) =
      .finite negative' mantissa exponent) :
    ¬ p ∧ negative = negative' ∧ m = mantissa ∧ e = exponent := by
  split at h
  · cases h
  · rename_i hp
    cases h
    exact ⟨hp, rfl, rfl, rfl⟩

/-- A natural number is rounded to a nearest one of the floating numbers. -/
theorem exists_of_ofRatio_one {negative negative' : Bool} {mantissa : Nat} {exponent : Int}
    (h : ofRatio negative num 1 = .finite negative' mantissa exponent) :
    negative = negative' ∧ ∃ n, IsWhole mantissa exponent n ∧ IsNearest num n := by
  rcases Nat.eq_zero_or_pos num with rfl | hnum
  · rw [ofRatio, if_pos rfl, zero] at h
    cases h
    exact ⟨rfl, 0, isWhole_zero _, isNearest_self (isFloating_of_lt (twoTo_pos 53))⟩
  obtain ⟨order, horder, hlow, hhigh⟩ := exists_binaryOrder_one hnum
  have hmin : minExponent = -1074 := rfl
  have hmax : maxExponent = 971 := rfl
  by_cases hlarge : 52 ≤ order
  · -- the last place is a power of two, and the mantissa may be rounded up to the next one
    obtain ⟨place, rfl⟩ := Nat.exists_eq_add_of_le hlarge
    have hbound : roundDiv num (twoTo place) ≤ twoTo 53 := by
      refine roundDiv_le ?_
      rwa [← twoTo_add, show 53 + place = 52 + place + 1 by omega]
    have hmantissa : (if (0 : Int) ≤ (place : Int) then
        roundDiv num (1 * twoTo (place : Int).toNat)
        else roundDiv (num * twoTo (-(place : Int)).toNat) 1) = roundDiv num (twoTo place) := by
      rw [if_pos (Int.natCast_nonneg place), Nat.one_mul, Int.toNat_natCast]
    rw [ofRatio_eq_carried negative (by omega) (by omega) hmantissa] at h
    by_cases hcarry : roundDiv num (twoTo place) = twoTo 53
    · rw [if_pos hcarry] at h
      obtain ⟨hrange, rfl, rfl, rfl⟩ := finite_of_ite h
      have hvalue : roundDiv num (twoTo place) * twoTo place = twoTo 52 * twoTo (place + 1) := by
        rw [hcarry, ← twoTo_add, ← twoTo_add]
        congr 1
        omega
      refine ⟨rfl, _, ?_, isNearest_roundDiv hlow ?_⟩
      · rw [hvalue]
        exact isWhole_scaled (twoTo 52) (place + 1)
      · exact ⟨twoTo 52, place + 1, by decide, by omega, hvalue⟩
    · rw [if_neg hcarry] at h
      obtain ⟨hrange, rfl, rfl, rfl⟩ := finite_of_ite h
      exact ⟨rfl, _, isWhole_scaled _ place, isNearest_roundDiv hlow
        ⟨_, place, Nat.lt_of_le_of_ne hbound hcarry, by omega, rfl⟩⟩
  · -- the mantissa has place for all digits
    obtain ⟨scale, hscale⟩ := Nat.exists_eq_add_of_le (Nat.le_of_not_le hlarge)
    have hsmall : num * twoTo scale < twoTo 53 :=
      calc num * twoTo scale < twoTo (order + 1) * twoTo scale :=
            Nat.mul_lt_mul_of_pos_right hhigh (twoTo_pos scale)
        _ = twoTo (order + 1 + scale) := (twoTo_add _ _).symm
        _ = twoTo 53 := congrArg twoTo (by omega)
    have hfloating : IsFloating num :=
      isFloating_of_lt (Nat.lt_of_le_of_lt (Nat.le_mul_of_pos_right num (twoTo_pos scale)) hsmall)
    have hmantissa : (if (0 : Int) ≤ -(scale : Int) then
        roundDiv num (1 * twoTo (-(scale : Int)).toNat)
        else roundDiv (num * twoTo (- -(scale : Int)).toNat) 1) = num * twoTo scale := by
      rw [if_neg (by omega), Int.neg_neg, Int.toNat_natCast]
      simpa using roundDiv_mul (num * twoTo scale) Nat.one_pos
    rw [ofRatio_eq_carried negative (by omega) (by omega) hmantissa,
      if_neg (Nat.ne_of_lt hsmall)] at h
    obtain ⟨-, rfl, rfl, rfl⟩ := finite_of_ite h
    exact ⟨rfl, num, isWhole_fraction num scale, isNearest_self hfloating⟩

/-- A whole number that becomes a floating one becomes a whole one nearest to it. -/
theorem exists_of_ofInt? {n : Int} {x : Binary64} (h : ofInt? n = some x) :
    ∃ mantissa exponent m, x = .finite (n < 0) mantissa exponent ∧ IsWhole mantissa exponent m ∧
      IsNearest n.natAbs m := by
  unfold ofInt? at h
  split at h
  · rename_i hratio
    cases h
    obtain ⟨rfl, m, hm⟩ := exists_of_ofRatio_one hratio
    exact ⟨_, _, m, rfl, hm⟩
  · cases h

theorem exists_ofInt?_of_isFloating {n : Int} (h : IsFloating n.natAbs) :
    ∃ x, ofInt? n = some x := by
  refine Option.ne_none_iff_exists'.1 fun hnone => ?_
  exact absurd ((ofInt?_eq_none_iff n).1 hnone) (Nat.not_le.2 (lt_floatLimit_of_isFloating h))

/-- A floating number has no more digits than a power of two beyond all of them. -/
theorem lt_tenTo_of_isFloating {k : Nat} (hk : 1024 ≤ k) (h : IsFloating num) : num < tenTo k := by
  obtain ⟨mantissa, exponent, hmantissa, hexponent, rfl⟩ := h
  calc mantissa * twoTo exponent < twoTo 53 * twoTo exponent :=
        Nat.mul_lt_mul_of_pos_right hmantissa (twoTo_pos exponent)
    _ = twoTo (53 + exponent) := (twoTo_add 53 exponent).symm
    _ ≤ twoTo k := twoTo_le (by omega)
    _ ≤ tenTo k := Nat.pow_le_pow_left (by decide) k

end Rounding

/-! ## Groups of three digits

The digits of a whole number stand in groups of three from the right, and its decimal places are
zeros.  Without the marks between the groups the digits are what they were. -/

/-- Digits in groups of three from the right, a mark between two groups; the first group may have
one digit or two. -/
inductive Grouped (mark : Char) : List Char → List Char → Prop
  | first {ds : List Char} (hpos : 0 < ds.length) (hle : ds.length ≤ 3) : Grouped mark ds ds
  | further {ds text group : List Char} (h : Grouped mark ds text) (hgroup : group.length = 3) :
      Grouped mark (ds ++ group) (text ++ mark :: group)

section Groups

variable {mark : Char} {ds : List Char}

theorem grouped_reverse (h : ds ≠ []) :
    Grouped mark ds.reverse (groupReversed mark ds).reverse := by
  induction ds using groupReversed.induct with
  | case1 a b c d rest ih =>
      have hfurther := Grouped.further (ih (List.cons_ne_nil d rest)) (rfl : [c, b, a].length = 3)
      rw [groupReversed]
      simpa using hfurther
  | case2 ds hds =>
      rw [groupReversed.eq_2 mark ds hds]
      refine .first ?_ ?_
      · rwa [List.length_reverse, List.length_pos_iff]
      · rw [List.length_reverse]
        obtain _ | ⟨a, _ | ⟨b, _ | ⟨c, _ | ⟨d, rest⟩⟩⟩⟩ := ds
        case cons.cons.cons.cons => exact (hds a b c d rest rfl).elim
        all_goals simp

theorem grouped_groupThousands (h : ds ≠ []) : Grouped mark ds (groupThousands mark ds) := by
  have hgrouped := @grouped_reverse mark _ (List.reverse_ne_nil_iff.2 h)
  rwa [List.reverse_reverse] at hgrouped

theorem Grouped.mem_or_eq {text : List Char} (h : Grouped mark ds text) :
    ∀ c ∈ text, c ∈ ds ∨ c = mark := by
  induction h with
  | first => exact fun c hc => .inl hc
  | further _ _ ih =>
      intro c hc
      rw [List.mem_append, List.mem_cons] at hc
      rw [List.mem_append]
      rcases hc with hc | hc | hc
      · exact (ih c hc).imp_left .inl
      · exact .inr hc
      · exact .inl (.inr hc)

/-- Without the marks the digits are left. -/
theorem Grouped.filter_eq {keep : Char → Bool} {text : List Char} (h : Grouped mark ds text)
    (hmark : keep mark = false) (hdigits : ∀ c ∈ ds, keep c = true) : text.filter keep = ds := by
  induction h with
  | first => exact List.filter_eq_self.2 hdigits
  | further _ _ ih =>
      rw [List.forall_mem_append] at hdigits
      rw [List.filter_append, ih hdigits.1, List.filter_cons_of_neg (by simp [hmark]),
        List.filter_eq_self.2 hdigits.2]

end Groups

/-- A number is followed by zeros in the digits of its product with a power of ten. -/
theorem digitChars_mul_tenTo {n : Nat} (h : 0 < n) (places : Nat) :
    digitChars (n * tenTo places) = digitChars n ++ List.replicate places '0' := by
  induction places with
  | zero => simp [tenTo]
  | succ places ih =>
      have hpos : 0 < n * tenTo places := Nat.mul_pos h (tenTo_pos places)
      have hzero := Nat.toDigits_append_toDigits (b := 10) (d := 0) (by decide) hpos (by decide)
      rw [tenTo_succ, Nat.mul_left_comm, digitChars, ← Nat.add_zero (10 * _), ← hzero,
        List.replicate_succ', ← List.append_assoc, ← ih]
      rfl

theorem padZeros_digitChars (n places : Nat) :
    padZeros (places + 1) (digitChars (n * tenTo places)) =
      digitChars n ++ List.replicate places '0' := by
  rcases Nat.eq_zero_or_pos n with rfl | h
  · rw [Nat.zero_mul]
    show List.replicate (places + 1 - 1) '0' ++ ['0'] = '0' :: List.replicate places '0'
    rw [Nat.add_sub_cancel, ← List.replicate_succ', List.replicate_succ]
  · have hlength : 0 < (digitChars n).length := by
      rw [List.length_pos_iff]
      exact Nat.toDigits_ne_nil
    rw [digitChars_mul_tenTo h, padZeros, List.length_append, List.length_replicate,
      show places + 1 - ((digitChars n).length + places) = 0 by omega]
    rfl

/-- The decimal places of a whole number are zeros. -/
theorem fixedDigits_of_isWhole {mantissa n : Nat} {exponent : Int}
    (h : IsWhole mantissa exponent n) (places : Nat) :
    fixedDigits places mantissa exponent = (digitChars n, List.replicate places '0') := by
  have hunits : unitsAt places mantissa exponent = n * tenTo places := by
    unfold unitsAt
    dsimp only
    rw [h, Nat.mul_right_comm, roundDiv_mul _ (ratio_snd_pos mantissa exponent)]
  unfold fixedDigits
  rw [hunits]
  dsimp only
  rw [padZeros_digitChars, List.length_append, List.length_replicate, Nat.add_sub_cancel,
    List.take_left, List.drop_left]

end AdminGrid.Binary64

import AdminGrid.Number.Numeral
import Mathlib.Logic.Basic

/-!
# The range of floating numbers

A fraction is rounded to an infinity exactly if it is not below the middle between the greatest
floating number and the next power of two.  So these are the whole numbers that become floating
ones, and the quotients of whole numbers that there are.
-/

namespace AdminGrid

/-- The middle between the greatest floating number and the next power of two. -/
def floatLimit : Nat := (twoTo 54 - 1) * twoTo 970

namespace Binary64

variable {num den : Nat}

theorem twoTo_add (m n : Nat) : twoTo (m + n) = twoTo m * twoTo n := Nat.pow_add 2 m n

theorem twoTo_le {m n : Nat} (h : m ≤ n) : twoTo m ≤ twoTo n :=
  Nat.pow_le_pow_right (by decide) h

theorem twoTo_log2_le (h : 0 < num) : twoTo num.log2 ≤ num := Nat.log2_self_le (by omega)

theorem lt_twoTo_log2_succ (n : Nat) : n < twoTo (n.log2 + 1) := Nat.lt_log2_self

/-- A power of two is reached only if it is no greater than the guess by the lengths. -/
theorem log2_add_le_of_reached (hden : 0 < den) {k : Nat} (h : den * twoTo k ≤ num) :
    den.log2 + k ≤ num.log2 := by
  refine Nat.le_of_not_lt fun hlt => ?_
  have hpow : twoTo (num.log2 + 1) ≤ twoTo den.log2 * twoTo k := by
    rw [← twoTo_add]
    exact twoTo_le (by omega)
  have hmul := Nat.mul_le_mul_right (twoTo k) (twoTo_log2_le hden)
  have hhigh := lt_twoTo_log2_succ num
  omega

/-- A power of two below the guess is always reached. -/
theorem reached_of_log2_add_lt (hnum : 0 < num) {k : Nat} (h : den.log2 + k < num.log2) :
    den * twoTo k ≤ num := by
  have hmul : den * twoTo k ≤ twoTo (den.log2 + 1) * twoTo k :=
    Nat.mul_le_mul_right _ (Nat.le_of_lt (lt_twoTo_log2_succ den))
  rw [← twoTo_add] at hmul
  exact Nat.le_trans hmul (Nat.le_trans (twoTo_le (by omega)) (twoTo_log2_le hnum))

/-- The binary order is at least a number exactly if the fraction reaches its power of two. -/
theorem le_binaryOrder_iff (hnum : 0 < num) (hden : 0 < den) (k : Nat) :
    (k : Int) ≤ binaryOrder num den ↔ den * twoTo k ≤ num := by
  have hguess := @log2_add_le_of_reached num den hden k
  unfold binaryOrder
  dsimp only
  by_cases hsign : 0 ≤ (num.log2 : Int) - den.log2
  · obtain ⟨g, hg⟩ := Int.eq_ofNat_of_zero_le hsign
    simp only [hg, Int.natCast_nonneg, if_true, Int.toNat_natCast]
    by_cases hreached : den * twoTo g ≤ num
    · rw [if_pos hreached]
      constructor
      · intro hk
        exact Nat.le_trans (Nat.mul_le_mul_left den (twoTo_le (by omega))) hreached
      · intro h
        have := hguess h
        omega
    · rw [if_neg hreached]
      constructor
      · intro hk
        exact reached_of_log2_add_lt hnum (by omega)
      · intro h
        have hk := hguess h
        have hne : k ≠ g := fun heq => hreached (heq ▸ h)
        omega
  · have hfalse : ¬ den * twoTo k ≤ num := fun h => by
      have := hguess h
      omega
    refine iff_of_false (fun hk => ?_) hfalse
    split at hk <;> omega

/-- A fraction below a power of two is rounded to it exactly if it is not below the middle between
this power and the whole number before it. -/
theorem roundDiv_eq_twoTo_iff {half : Nat} (hhalf : 0 < half) (h : num < twoTo 53 * (2 * half)) :
    roundDiv num (2 * half) = twoTo 53 ↔ (twoTo 54 - 1) * half ≤ num := by
  have hpow : twoTo 53 = 9007199254740992 := rfl
  have hpow' : twoTo 54 - 1 = 18014398509481983 := rfl
  rw [hpow] at h ⊢
  rw [hpow']
  have hsplit := Nat.div_add_mod num (2 * half)
  have hrest := Nat.mod_lt num (show 0 < 2 * half by omega)
  have hquotient : num / (2 * half) < 9007199254740992 :=
    Nat.div_lt_of_lt_mul (by rwa [Nat.mul_comm] at h)
  unfold roundDiv
  dsimp only
  generalize num / (2 * half) = quotient at *
  generalize num % (2 * half) = rest at *
  by_cases hlast : quotient = 9007199254740991
  · subst hlast
    by_cases hlow : 2 * rest < 2 * half
    · rw [if_pos hlow]
      omega
    · rw [if_neg hlow]
      by_cases hhigh : 2 * half < 2 * rest
      · rw [if_pos hhigh]
        omega
      · rw [if_neg hhigh]
        omega
  · have hmul : 2 * half * quotient ≤ 2 * half * 9007199254740990 :=
      Nat.mul_le_mul_left _ (by omega)
    refine iff_of_false (fun heq => ?_) (by omega)
    split at heq
    · omega
    · split at heq <;> omega

/-- At the greatest exponent a fraction below the next power of two is rounded to it exactly if it
reaches the limit. -/
theorem roundDiv_maxExponent_iff (hden : 0 < den) (h : num < den * twoTo 1024) :
    roundDiv num (den * twoTo 971) = twoTo 53 ↔ den * floatLimit ≤ num := by
  have hscale : den * twoTo 971 = 2 * (den * twoTo 970) := by
    rw [twoTo_succ 970]
    exact Nat.mul_left_comm _ _ _
  have hlimit : den * floatLimit = (twoTo 54 - 1) * (den * twoTo 970) := Nat.mul_left_comm _ _ _
  rw [hscale, hlimit]
  refine roundDiv_eq_twoTo_iff (Nat.mul_pos hden (twoTo_pos 970)) ?_
  rw [← hscale, Nat.mul_left_comm, ← twoTo_add]
  exact h

/-- A rounded mantissa with its exponent, infinite where the exponent is out of range. -/
theorem ofRatio_eq (negative : Bool) (hnum : num ≠ 0) (exponent : Int)
    (hexponent : exponent = max (binaryOrder num den - 52) minExponent) :
    ∃ mantissa : Nat, (0 ≤ exponent → mantissa = roundDiv num (den * twoTo exponent.toNat)) ∧
      (ofRatio negative num den = .infinite negative ↔
        maxExponent < exponent ∨ (maxExponent = exponent ∧ mantissa = twoTo 53)) := by
  refine ⟨if 0 ≤ exponent then roundDiv num (den * twoTo exponent.toNat)
    else roundDiv (num * twoTo (-exponent).toNat) den, fun h => if_pos h, ?_⟩
  unfold ofRatio
  rw [if_neg hnum]
  dsimp only
  rw [← hexponent]
  generalize (if 0 ≤ exponent then roundDiv num (den * twoTo exponent.toNat)
    else roundDiv (num * twoTo (-exponent).toNat) den) = mantissa
  by_cases hcarry : mantissa = twoTo 53
  · simp only [hcarry, if_true]
    by_cases hrange : maxExponent < exponent + 1
    · rw [if_pos hrange]
      simp only [and_true, true_iff]
      omega
    · rw [if_neg hrange]
      simp only [reduceCtorEq, and_true, false_iff]
      omega
  · simp only [hcarry, if_false, and_false, or_false]
    by_cases hrange : maxExponent < exponent
    · simp only [hrange, if_true]
    · simp only [hrange, if_false, reduceCtorEq]

theorem floatLimit_bounds : twoTo 1023 ≤ floatLimit ∧ floatLimit ≤ twoTo 1024 := by
  have hlow : twoTo 1023 = twoTo 53 * twoTo 970 := twoTo_add 53 970
  have hhigh : twoTo 1024 = twoTo 54 * twoTo 970 := twoTo_add 54 970
  rw [floatLimit, hlow, hhigh]
  exact ⟨Nat.mul_le_mul_right _ (by decide), Nat.mul_le_mul_right _ (by decide)⟩

/-- A fraction is rounded to an infinity exactly if it reaches the limit. -/
theorem ofRatio_eq_infinite_iff (negative : Bool) (hden : 0 < den) :
    ofRatio negative num den = .infinite negative ↔ floatLimit * den ≤ num := by
  obtain ⟨hlow, hhigh⟩ := floatLimit_bounds
  have hlowMul := Nat.mul_le_mul_left den hlow
  have hhighMul := Nat.mul_le_mul_left den hhigh
  rw [Nat.mul_comm floatLimit]
  by_cases hnum : num = 0
  · subst hnum
    refine iff_of_false (by simp [ofRatio, zero]) (fun h => ?_)
    have hpos := Nat.mul_pos hden (twoTo_pos 1023)
    omega
  obtain ⟨mantissa, hmantissa, hiff⟩ := @ofRatio_eq num den negative hnum _ rfl
  rw [hiff]
  have horder := le_binaryOrder_iff (Nat.pos_of_ne_zero hnum) hden
  have hmin : minExponent = -1074 := rfl
  have hmax : maxExponent = 971 := rfl
  by_cases hfar : den * twoTo 1024 ≤ num
  · have hreached := (horder 1024).2 hfar
    exact iff_of_true (Or.inl (by omega)) (by omega)
  have hbelow : ¬ (1024 : Int) ≤ binaryOrder num den := fun h => hfar ((horder 1024).1 h)
  by_cases hnear : den * twoTo 1023 ≤ num
  · -- only here the rounding decides
    have hreached := (horder 1023).2 hnear
    have hexponent : max (binaryOrder num den - 52) minExponent = 971 := by omega
    rw [hexponent] at hmantissa ⊢
    rw [hmantissa (by decide), show (971 : Int).toNat = 971 from rfl,
      roundDiv_maxExponent_iff hden (Nat.lt_of_not_le hfar), hmax]
    simp
  · have hbelow' : ¬ (1023 : Int) ≤ binaryOrder num den := fun h => hnear ((horder 1023).1 h)
    refine iff_of_false ?_ (by omega)
    rintro (h | ⟨h, -⟩) <;> omega

theorem ofRatio_infinite_or_finite (negative : Bool) (num den : Nat) :
    ofRatio negative num den = .infinite negative ∨
      ∃ mantissa exponent, ofRatio negative num den = .finite negative mantissa exponent := by
  unfold ofRatio
  split
  · exact Or.inr ⟨0, minExponent, rfl⟩
  · exact (ite_eq_or_eq _ _ _).imp id fun h => ⟨_, _, h⟩

/-- The whole numbers that become floating ones are those below the limit. -/
theorem ofInt?_eq_none_iff (n : Int) : ofInt? n = none ↔ floatLimit ≤ n.natAbs := by
  have hinfinite := @ofRatio_eq_infinite_iff n.natAbs 1 (n < 0) Nat.one_pos
  rw [Nat.mul_one] at hinfinite
  rw [← hinfinite, ofInt?]
  rcases ofRatio_infinite_or_finite (n < 0) n.natAbs 1 with h | ⟨mantissa, exponent, h⟩ <;>
    simp [h]

end Binary64

namespace Numeral

/-- Whether a number is a floating one, or a whole one that can become one. -/
def FitsFloat : Numeral → Prop
  | int n => n.natAbs < floatLimit
  | float _ => True

theorem exists_toFloat {a : Numeral} (h : a.FitsFloat) : ∃ x, a.toFloat = .ok x := by
  cases a with
  | float x => exact ⟨x, rfl⟩
  | int n =>
      cases hn : Binary64.ofInt? n with
      | none => exact absurd ((Binary64.ofInt?_eq_none_iff n).1 hn) (Nat.not_le.2 h)
      | some x => exact ⟨x, by rw [toFloat, hn]⟩

theorem toFloat_of_not_fitsFloat {a : Numeral} (h : ¬ a.FitsFloat) :
    a.toFloat = .error .outOfRange := by
  cases a with
  | float x => exact absurd trivial h
  | int n => rw [toFloat, (Binary64.ofInt?_eq_none_iff n).2 (Nat.not_lt.1 h)]

/-- A quotient of whole numbers is too large exactly if it reaches the limit. -/
theorem divInt_eq_outOfRange_iff (a b : Int) :
    divInt a b = .error .outOfRange ↔ b ≠ 0 ∧ floatLimit * b.natAbs ≤ a.natAbs := by
  unfold divInt
  by_cases hb : b = 0
  · simp [hb]
  · have hinfinite := @Binary64.ofRatio_eq_infinite_iff a.natAbs b.natAbs
      (a < 0 && 0 < b || 0 < a && b < 0) (Int.natAbs_pos.2 hb)
    rw [if_neg hb, ← hinfinite]
    rcases Binary64.ofRatio_infinite_or_finite (a < 0 && 0 < b || 0 < a && b < 0) a.natAbs
      b.natAbs with h | ⟨mantissa, exponent, h⟩ <;> simp [h, hb]

end Numeral

end AdminGrid

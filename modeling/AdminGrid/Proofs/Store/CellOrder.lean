import AdminGrid.Proofs.Outcome
import AdminGrid.Store.Query
import Mathlib.Algebra.Order.Field.Rat
import Mathlib.Algebra.Order.Field.Power
import Mathlib.Tactic.FieldSimp
import Mathlib.Tactic.Ring
import Mathlib.Tactic.Positivity

/-!
# The order of cells

A cell that holds what is no number has no place in the order of cells.  All other cells are ordered
by three keys: the place of their kind, the amount of a number, and the letters of a text or of
bytes.  So rows are totally preordered by any of their columns.
-/

namespace AdminGrid

/-- The fraction that a finite number is. -/
def Binary64.amount (negative : Bool) (mantissa : Nat) (exponent : Int) : ℚ :=
  (signed negative mantissa : ℚ) * 2 ^ exponent

/-- Comparing whole numbers amounts to comparing what they become under a strictly monotone map. -/
theorem compare_eq_compare {a b : Int} {x y : ℚ} (hlt : a < b ↔ x < y) (hgt : b < a ↔ y < x) :
    compare a b = compare x y := by
  rcases lt_trichotomy a b with h | h | h
  · rw [compare_lt_iff_lt.2 h, compare_lt_iff_lt.2 (hlt.1 h)]
  · have hx : ¬ x < y := fun hxy => absurd (hlt.2 hxy) (by omega)
    have hy : ¬ y < x := fun hyx => absurd (hgt.2 hyx) (by omega)
    rw [compare_eq_iff_eq.2 h, compare_eq_iff_eq.2 (le_antisymm (not_lt.1 hy) (not_lt.1 hx))]
  · rw [compare_gt_iff_gt.2 h, compare_gt_iff_gt.2 (hgt.1 h)]

theorem compare_scaled {a b : Int} {x y scale : ℚ} (hscale : 0 < scale) (ha : (a : ℚ) = x * scale)
    (hb : (b : ℚ) = y * scale) : compare a b = compare x y := by
  apply compare_eq_compare
  · rw [← Int.cast_lt (R := ℚ), ha, hb]
    exact mul_lt_mul_iff_left₀ hscale
  · rw [← Int.cast_lt (R := ℚ), ha, hb]
    exact mul_lt_mul_iff_left₀ hscale

theorem cast_twoTo (n : Nat) : ((twoTo n : Int) : ℚ) = 2 ^ n := by
  simp [twoTo]

/-- A signed mantissa over a lower exponent is the amount over the power of that exponent. -/
theorem cast_signed_mul_twoTo (negative : Bool) (mantissa : Nat) {exponent low : Int}
    (h : low ≤ exponent) :
    ((Binary64.signed negative mantissa * twoTo (exponent - low).toNat : Int) : ℚ) =
      Binary64.amount negative mantissa exponent * 2 ^ (-low) := by
  have hpow : (2 : ℚ) ^ (exponent - low).toNat = 2 ^ exponent * 2 ^ (-low) := by
    rw [← zpow_natCast, Int.toNat_of_nonneg (by omega), ← zpow_add₀ (by norm_num)]
    rfl
  rw [Int.cast_mul, cast_twoTo, hpow, Binary64.amount]
  ring

theorem Binary64.compare?_finite (s t : Bool) (m n : Nat) (e f : Int) :
    compare? (.finite s m e) (.finite t n f) = some (compare (amount s m e) (amount t n f)) := by
  have hscaled := compare_scaled (zpow_pos (by norm_num : (0 : ℚ) < 2) (-min e f))
    (cast_signed_mul_twoTo s m (min_le_left e f)) (cast_signed_mul_twoTo t n (min_le_right e f))
  exact congrArg some hscaled

theorem Binary64.compareInt?_finite (s : Bool) (m : Nat) (e n : Int) :
    compareInt? (.finite s m e) n = some (compare (amount s m e) (n : ℚ)) := by
  by_cases he : 0 ≤ e
  · have hleft : ((signed s m * twoTo e.toNat : Int) : ℚ) = amount s m e * 1 := by
      simpa using cast_signed_mul_twoTo s m he
    have hscaled := compare_scaled one_pos hleft (mul_one (n : ℚ)).symm
    simpa [compareInt?, he] using hscaled
  · have hleft : ((signed s m : Int) : ℚ) = amount s m e * 2 ^ (-e) := by
      rw [amount, mul_assoc, ← zpow_add₀ (by norm_num)]
      simp
    have hright : ((n * twoTo (-e).toNat : Int) : ℚ) = (n : ℚ) * 2 ^ (-e) := by
      rw [Int.cast_mul, cast_twoTo, ← zpow_natCast, Int.toNat_of_nonneg (by omega)]
    have hscaled := compare_scaled (zpow_pos (by norm_num : (0 : ℚ) < 2) (-e)) hleft hright
    simpa [compareInt?, he] using hscaled

namespace Store

/-- The place of a cell's kind in the order of all cells, infinite numbers around the others. -/
def Stored.place : Stored → Nat
  | .null => 0
  | .real (.infinite true) => 1
  | .int _ | .real (.finite ..) | .real .nan => 2
  | .real (.infinite false) => 3
  | .text _ => 4
  | .blob _ => 5

/-- The number that a cell holds, zero where there is none. -/
def Stored.amount : Stored → ℚ
  | .int n => n
  | .real (.finite s m e) => Binary64.amount s m e
  | _ => 0

/-- The characters of a text or the bytes of a cell. -/
def Stored.letters : Stored → List Nat
  | .text s => s.toList.map Char.toNat
  | .blob bytes => bytes.map UInt8.toNat
  | _ => []

/-- The order of cells by their three keys. -/
def Stored.keyOrder : Stored → Stored → Ordering :=
  compareLex (compareOn Stored.place) (compareLex (compareOn Stored.amount)
    (compareOn Stored.letters))

/-- Whether a cell holds no number where it should hold one. -/
def Stored.isNan : Stored → Bool
  | .real .nan => true
  | _ => false

theorem compareLists_eq (xs ys : List Nat) : Stored.compareLists xs ys = compare xs ys := by
  induction xs generalizing ys with
  | nil => cases ys <;> rfl
  | cons x xs ih =>
      cases ys with
      | nil => rfl
      | cons y ys =>
          show (compare x y).then (Stored.compareLists xs ys) = compare (x :: xs) (y :: ys)
          rw [ih]
          show _ = List.compareLex compare (x :: xs) (y :: ys)
          rw [List.compareLex_cons_cons]
          rfl

/-- Cells that hold no letters are ordered by their place and their amount. -/
theorem keyOrder_of_letters {a b : Stored} (ha : a.letters = []) (hb : b.letters = []) :
    a.keyOrder b = (compare a.place b.place).then (compare a.amount b.amount) := by
  show (compare a.place b.place).then ((compare a.amount b.amount).then
    (compare a.letters b.letters)) = _
  rw [ha, hb]
  cases compare a.amount b.amount <;> rfl

/-- Every cell but one that is no number is ordered by its keys.  Cells of different places settle
themselves; what is left are two numbers, two texts and two lists of bytes. -/
theorem order_eq_keyOrder {a b : Stored} (ha : a.isNan = false) (hb : b.isNan = false) :
    a.order b = a.keyOrder b := by
  -- cells of two kinds are told apart by their places, so only cells of one kind are left
  rcases a with _ | i | (_ | (_ | _) | ⟨s, m, e⟩) | s | bytes
  all_goals rcases b with _ | j | (_ | (_ | _) | ⟨t, n, f⟩) | t | others
  all_goals first | rfl | (cases ha; done) | (cases hb; done) | skip
  case int.int =>
      rw [keyOrder_of_letters rfl rfl]
      exact compare_eq_compare Int.cast_lt.symm Int.cast_lt.symm
  case int.real.finite =>
      rw [keyOrder_of_letters rfl rfl]
      show (((Binary64.finite t n f).compareInt? i).map Ordering.swap).getD .eq = _
      rw [Binary64.compareInt?_finite]
      exact Std.OrientedCmp.eq_swap.symm
  case real.finite.int =>
      rw [keyOrder_of_letters rfl rfl]
      show ((Binary64.finite s m e).compareInt? j).getD .eq = _
      rw [Binary64.compareInt?_finite]
      rfl
  case real.finite.real.finite =>
      rw [keyOrder_of_letters rfl rfl]
      show ((Binary64.finite s m e).compare? (.finite t n f)).getD .eq = _
      rw [Binary64.compare?_finite]
      rfl
  case text.text => exact compareLists_eq _ _
  case blob.blob => exact compareLists_eq _ _

end Store

end AdminGrid

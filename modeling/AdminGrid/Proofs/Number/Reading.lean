import AdminGrid.Number.Reading
import AdminGrid.Proofs.Text.Trim
import Mathlib.Data.List.Basic
import Mathlib.Tactic.IntervalCases

/-!
# Reading what was written

A whole number that is written in plain digits is read back, unless it has more digits than a
whole number may have.  Of the texts of digits of any script, those are no numbers that have too
many of them, or one without place value.
-/

namespace AdminGrid.Reading

theorem toNat_of_isDigit {c : Char} (hc : c.isDigit = true) : 48 ≤ c.toNat ∧ c.toNat ≤ 57 := by
  simp only [Char.isDigit, Bool.and_eq_true, decide_eq_true_eq, ge_iff_le, UInt32.le_iff_toNat_le]
    at hc
  exact hc

section Unmarked

/-! The characters from `0` to `?` are no signs, marks or blanks. -/

variable {cs : List Char} (h : ∀ c ∈ cs, 48 ≤ c.toNat ∧ c.toNat ≤ 63)

include h

theorem plain_of_digits : plain cs = cs := by
  unfold plain
  refine (List.map_congr_left fun c hc => ?_).trans (List.map_id' cs)
  have hrange := h c hc
  exact if_pos (by omega)

theorem forall_not_isPlainBlank : ∀ c ∈ cs, Text.isPlainBlank c = false := by
  intro c hc
  have hrange := h c hc
  simp only [Text.isPlainBlank, Bool.or_eq_false_iff, Bool.and_eq_false_iff,
    decide_eq_false_iff_not, beq_eq_false_iff_ne]
  omega

theorem trimBy_of_digits : Text.trimBy Text.isPlainBlank cs = cs :=
  Text.trimBy_eq_self (forall_not_isPlainBlank h)

theorem splitSign_of_digits : splitSign cs = (false, cs) := by
  cases cs with
  | nil => rfl
  | cons c rest =>
      have hrange := h c List.mem_cons_self
      have hminus : c ≠ '-' := by rintro rfl; revert hrange; decide
      have hplus : c ≠ '+' := by rintro rfl; revert hrange; decide
      unfold splitSign
      split
      · simp_all
      · simp_all
      · rfl

theorem dropUnderscores?_of_digits (afterDigit : Bool) :
    dropUnderscores? isPlainDigit afterDigit cs = some cs := by
  -- without a mark to drop it does not matter what stood before
  induction cs generalizing afterDigit with
  | nil => rfl
  | cons c rest ih =>
      have hrange := h c List.mem_cons_self
      have hmark : c ≠ '_' := by rintro rfl; revert hrange; decide
      have hrest := ih (fun c hc => h c (List.mem_cons_of_mem _ hc)) (isPlainDigit c)
      rw [dropUnderscores?, hrest]
      · rfl
      · rintro _ _ rfl; exact absurd rfl hmark
      · rintro rfl; exact absurd rfl hmark

end Unmarked

theorem digitsValue_toDigits (n : Nat) : digitsValue (Nat.toDigits 10 n) = n := by
  have hread : Nat.ofDigitChars 10 (Nat.toDigits 10 n) 0 = n := Nat.ofDigitChars_ten_toDigits
  rw [Nat.ofDigitChars_eq_foldl] at hread
  simp only [Nat.mul_comm 10] at hread
  exact hread

section Written

theorem toList_toString (n : Nat) : (toString (n : Int)).toList = Nat.toDigits 10 n := by
  have hwritten : toString (n : Int) = String.ofList (Nat.toDigits 10 n) :=
    Nat.toString_eq_ofList_toDigits
  rw [hwritten, String.toList_ofList]

theorem toList_toString_negSucc (n : Nat) :
    (toString (Int.negSucc n)).toList = '-' :: Nat.toDigits 10 (n + 1) := by
  have htext : toString (Int.negSucc n) = "-" ++ String.ofList (Nat.toDigits 10 (n + 1)) :=
    congrArg ("-" ++ ·) Nat.repr_eq_ofList_toDigits
  rw [htext, String.toList_append, String.toList_ofList, String.toList_ofList]
  rfl

/-- A whole number is written with a minus sign if it is negative, and its digits. -/
theorem toString_eq_ofList (n : Int) :
    toString n = String.ofList ((if n < 0 then ['-'] else []) ++ Nat.toDigits 10 n.natAbs) := by
  rw [← String.toList_inj, String.toList_ofList]
  cases n with
  | ofNat n =>
      rw [if_neg (Int.not_lt.2 (Int.natCast_nonneg n) : ¬ Int.ofNat n < 0)]
      exact toList_toString n
  | negSucc n =>
      rw [if_pos (Int.negSucc_lt_zero n)]
      exact toList_toString_negSucc n

theorem splitSign_minus (cs : List Char) : splitSign ('-' :: cs) = (true, cs) := rfl

/-- A sign and digits are read as the number, unless there are too many of them. -/
theorem int?_signedDigits (negative : Bool) (n : Nat) :
    int? (String.ofList ((if negative then ['-'] else []) ++ Nat.toDigits 10 n)) =
      if maxDigits < (Nat.toDigits 10 n).length then none
      else some (Binary64.signed negative n) := by
  have hdigits : ∀ c ∈ Nat.toDigits 10 n, c.isDigit = true := fun c hc =>
    Nat.isDigit_of_mem_toDigits (by decide) (by decide) hc
  have hrange : ∀ c ∈ Nat.toDigits 10 n, 48 ≤ c.toNat ∧ c.toNat ≤ 63 := fun c hc =>
    (toNat_of_isDigit (hdigits c hc)).imp_right fun hle => Nat.le_trans hle (by decide)
  have hallDigits : (Nat.toDigits 10 n).all isPlainDigit = true := List.all_eq_true.2 hdigits
  have hnonempty : (Nat.toDigits 10 n).isEmpty = false := by
    simp [Nat.toDigits_ne_nil]
  have hminus : plain ('-' :: Nat.toDigits 10 n) = '-' :: Nat.toDigits 10 n :=
    congrArg ('-' :: ·) (plain_of_digits hrange)
  have htrim : Text.trimBy Text.isPlainBlank ('-' :: Nat.toDigits 10 n) =
      '-' :: Nat.toDigits 10 n :=
    Text.trimBy_eq_self (List.forall_mem_cons.2 ⟨rfl, forall_not_isPlainBlank hrange⟩)
  unfold int?
  cases negative
  · simp only [Bool.false_eq_true, if_false, List.nil_append, String.toList_ofList,
      plain_of_digits hrange, trimBy_of_digits hrange, splitSign_of_digits hrange,
      dropUnderscores?_of_digits hrange, hallDigits, digitsValue_toDigits, hnonempty]
    simp
  · simp only [if_true, List.cons_append, List.nil_append, String.toList_ofList, hminus, htrim,
      splitSign_minus,
      dropUnderscores?_of_digits hrange, hallDigits, digitsValue_toDigits, hnonempty]
    simp

/-- A number is read back from its digits, unless it has too many of them. -/
theorem int?_toString (n : Nat) :
    int? (toString (n : Int)) =
      if maxDigits < (Nat.toDigits 10 n).length then none else some (n : Int) := by
  rw [toString_eq_ofList, if_neg (Int.not_lt.2 (Int.natCast_nonneg n))]
  exact int?_signedDigits false n

theorem length_toDigits_le {n k : Nat} (hk : 0 < k) (h : n < tenTo k) :
    (Nat.toDigits 10 n).length ≤ k :=
  (Nat.length_toDigits_le_iff (by decide) hk).2 h

theorem signed_natAbs_self (n : Int) : Binary64.signed (n < 0) n.natAbs = n := by
  unfold Binary64.signed
  by_cases h : n < 0
  · rw [if_pos (decide_eq_true h)]
    omega
  · rw [if_neg (by simpa using h)]
    omega

theorem int?_toString_of_lt {n : Int} (h : n.natAbs < tenTo maxDigits) :
    int? (toString n) = some n := by
  have hlength : (Nat.toDigits 10 n.natAbs).length ≤ maxDigits :=
    length_toDigits_le (by decide) h
  have hread := int?_signedDigits (n < 0) n.natAbs
  rw [if_neg (Nat.not_lt.2 hlength), signed_natAbs_self] at hread
  rw [toString_eq_ofList]
  simpa using hread

end Written

section ScriptDigits

theorem isDigit_eq (c : Char) : Text.isDigit c =
    ((Text.zeros.any fun z => z ≤ c.toNat && c.toNat < z + 10) ||
      Text.inIntervals c.toNat Text.placelessIntervals) := by
  have hdecimal : Text.isDecimal c =
      Text.zeros.any fun z => z ≤ c.toNat && c.toNat < z + 10 := by
    rw [Text.isDecimal, Text.digitValue?, Option.isSome_map, Bool.eq_iff_iff, List.find?_isSome,
      List.any_eq_true]
  rw [Text.isDigit, hdecimal]

/-- No digit is a blank. -/
theorem isBlank_of_isDigit {c : Char} (h : Text.isDigit c = true) : Text.isBlank c = false := by
  rw [isDigit_eq] at h
  by_contra hblank
  have hmem : c.toNat ∈ [9, 10, 11, 12, 13, 28, 29, 30, 31, 32, 133, 160, 5760, 8192, 8193, 8194,
      8195, 8196, 8197, 8198, 8199, 8200, 8201, 8202, 8232, 8233, 8239, 8287, 12288] := by
    simp only [Text.isBlank, Bool.not_eq_false, Bool.or_eq_true, Bool.and_eq_true,
      decide_eq_true_eq, beq_iff_eq] at hblank
    simp only [List.mem_cons, List.not_mem_nil, or_false]
    omega
  have hnone : ∀ n ∈ [9, 10, 11, 12, 13, 28, 29, 30, 31, 32, 133, 160, 5760, 8192, 8193, 8194,
      8195, 8196, 8197, 8198, 8199, 8200, 8201, 8202, 8232, 8233, 8239, 8287, 12288],
      ((Text.zeros.any fun z => z ≤ n && n < z + 10) ||
        Text.inIntervals n Text.placelessIntervals) = false := by decide +kernel
  rw [hnone _ hmem] at h
  cases h

/-- A digit is read as a plain one, or as a question mark if it has no place value. -/
theorem exists_plain_singleton {c : Char} (h : Text.isDigit c = true) :
    ∃ d, plain [c] = [d] ∧ (48 ≤ d.toNat ∧ d.toNat ≤ 63) ∧ isPlainDigit d = Text.isDecimal c := by
  by_cases hascii : c.toNat < 128
  · have hsmall : ∀ n < 128, ((Text.zeros.any fun z => z ≤ n && n < z + 10) ||
        Text.inIntervals n Text.placelessIntervals) = true → 48 ≤ n ∧ n ≤ 57 := by decide +kernel
    have hrange := hsmall _ hascii (isDigit_eq c ▸ h)
    have hplain : isPlainDigit c = true := by
      simp only [isPlainDigit, Bool.and_eq_true, decide_eq_true_eq, Char.le_def,
        UInt32.le_iff_toNat_le]
      exact hrange
    have hdecimal : Text.isDecimal c = true := by
      rw [Text.isDecimal, Text.digitValue?, Option.isSome_map, List.find?_isSome]
      refine ⟨48, List.mem_cons_self, ?_⟩
      simp only [Bool.and_eq_true, decide_eq_true_eq]
      omega
    refine ⟨c, ?_, hrange.imp_right fun hle => Nat.le_trans hle (by decide), ?_⟩
    · simp [plain, hascii]
    · rw [hplain, hdecimal]
  · cases hvalue : Text.digitValue? c with
    | none =>
        refine ⟨'?', ?_, by decide, ?_⟩
        · simp [plain, hascii, isBlank_of_isDigit h, hvalue]
        · rw [Text.isDecimal, hvalue]
          decide
    | some v =>
        have hv : v < 10 := by
          obtain ⟨z, hz, rfl⟩ := Option.map_eq_some_iff.1 hvalue
          have hin := List.find?_some hz
          simp only [Bool.and_eq_true, decide_eq_true_eq] at hin
          omega
        refine ⟨Char.ofNat (48 + v), ?_, ?_, ?_⟩
        · simp [plain, hascii, isBlank_of_isDigit h, hvalue]
        · interval_cases v <;> decide
        · rw [Text.isDecimal, hvalue]
          interval_cases v <;> decide

theorem plain_of_scriptDigits {cs : List Char} (h : ∀ c ∈ cs, Text.isDigit c = true) :
    (∀ d ∈ plain cs, 48 ≤ d.toNat ∧ d.toNat ≤ 63) ∧
      (plain cs).all isPlainDigit = cs.all Text.isDecimal ∧ (plain cs).length = cs.length := by
  induction cs with
  | nil => exact ⟨fun _ hd => absurd hd List.not_mem_nil, rfl, rfl⟩
  | cons c rest ih =>
      rw [List.forall_mem_cons] at h
      obtain ⟨hrange, hall, hlength⟩ := ih h.2
      obtain ⟨d, hd, hdrange, hdigit⟩ := exists_plain_singleton h.1
      have hplain : plain (c :: rest) = d :: plain rest := by
        show plain [c] ++ plain rest = _
        rw [hd]
        rfl
      rw [hplain, List.forall_mem_cons, List.all_cons, List.all_cons, hdigit, hall]
      exact ⟨⟨hdrange, hrange⟩, rfl, congrArg (· + 1) hlength⟩

/-- A text of digits is no number exactly if it has too many of them, or one without place
value. -/
theorem int?_eq_none_iff_of_digits {s : String} (hs : s ≠ "")
    (h : ∀ c ∈ s.toList, Text.isDigit c = true) :
    int? s = none ↔ s.toList.all Text.isDecimal = false ∨ maxDigits < s.toList.length := by
  obtain ⟨hrange, hall, hlength⟩ := plain_of_scriptDigits h
  have hnonempty : (plain s.toList).isEmpty = false := by
    rw [List.isEmpty_eq_false_iff, ← List.length_pos_iff, hlength, List.length_pos_iff]
    simpa using hs
  unfold int?
  simp only [trimBy_of_digits hrange, splitSign_of_digits hrange,
    dropUnderscores?_of_digits hrange, hnonempty, hall, hlength]
  cases s.toList.all Text.isDecimal <;> simp

end ScriptDigits

end AdminGrid.Reading

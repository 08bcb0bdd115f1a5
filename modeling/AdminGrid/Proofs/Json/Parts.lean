import AdminGrid.Json.Read
import AdminGrid.Json.Write
import AdminGrid.Proofs.Number.Reading

/-!
# Texts and whole numbers of a document

A text that is written is read back character by character, up to its closing mark.  A whole number
of 64 bits is read back wherever no part of a floating number follows.
-/

namespace AdminGrid.Json

section Texts

variable (steps : Nat) (rest : List Char)

theorem hexNumber?_append {cs : List Char} {n : Nat} (h : hexNumber? cs = some (n, [])) :
    hexNumber? (cs ++ rest) = some (n, rest) := by
  rcases cs with _ | ⟨a, _ | ⟨b, _ | ⟨c, _ | ⟨d, tail⟩⟩⟩⟩
  case cons.cons.cons.cons =>
    simp only [hexNumber?, Option.bind_eq_bind, Option.bind_eq_some_iff, Option.pure_def,
      Option.some.injEq, Prod.mk.injEq, List.cons_append] at h ⊢
    obtain ⟨w, hw, x, hx, y, hy, z, hz, hn, rfl⟩ := h
    exact ⟨w, hw, x, hx, y, hy, z, hz, hn, rfl⟩
  all_goals cases h

/-- The number of a control character is read back. -/
theorem numberedEscape?_hex {n : Nat} (hn : n < 32) :
    numberedEscape? (Text.hex 4 n ++ rest) = some (Char.ofNat n, rest) := by
  have hall : ∀ n < 32, hexNumber? (Text.hex 4 n) = some (n, []) := by decide
  have hhigh : ¬ (decide (0xD800 ≤ n) && decide (n < 0xDC00)) = true := by simp; omega
  have hlow : ¬ (decide (0xDC00 ≤ n) && decide (n < 0xE000)) = true := by simp; omega
  rw [numberedEscape?, hexNumber?_append rest (hall n hn)]
  show (if (decide (0xD800 ≤ n) && decide (n < 0xDC00)) = true then _ else
    if (decide (0xDC00 ≤ n) && decide (n < 0xE000)) = true then none else
      some (Char.ofNat n, rest)) = _
  rw [if_neg hhigh, if_neg hlow]

theorem readChars_numbered {n : Nat} (hn : n < 32) :
    readChars (steps + 1) ('\\' :: 'u' :: (Text.hex 4 n ++ rest)) =
      (readChars steps rest).map fun read => (Char.ofNat n :: read.1, read.2) := by
  rw [readChars, numberedEscape?_hex rest hn]
  show (readChars steps rest >>= fun read => some (Char.ofNat n :: read.1, read.2)) = _
  cases readChars steps rest <;> rfl

theorem readChars_short {mark c : Char} (h : shortEscape? mark = some c) (hmark : mark ≠ 'u') :
    readChars (steps + 1) ('\\' :: mark :: rest) =
      (readChars steps rest).map fun read => (c :: read.1, read.2) := by
  rw [readChars, h]
  · cases readChars steps rest <;> rfl
  · exact hmark

theorem readChars_plain {c : Char} (hquote : c ≠ '"') (hescape : c ≠ '\\') (hplain : 32 ≤ c.toNat) :
    readChars (steps + 1) (c :: rest) =
      (readChars steps rest).map fun read => (c :: read.1, read.2) := by
  have hbare : ¬ (decide (c = '\\') || decide (c.toNat < 32)) = true := by
    simp [hescape]
    omega
  rw [readChars, if_neg hbare]
  · cases readChars steps rest <;> rfl
  · exact hquote
  · exact fun _ h => absurd h hescape
  · exact fun _ _ h => absurd h hescape

/-- A character is read back from what it is written as. -/
theorem readChars_escapeChar (c : Char) :
    readChars (steps + 1) (escapeChar c ++ rest) =
      (readChars steps rest).map fun read => (c :: read.1, read.2) := by
  unfold escapeChar
  iterate 7
    split
    next h => subst h; exact readChars_short steps rest rfl (by decide)
  split
  next hcontrol =>
    have hread := readChars_numbered steps rest hcontrol
    rwa [Char.ofNat_toNat] at hread
  next hquote hescape _ _ _ _ _ hplain =>
    exact readChars_plain steps rest hquote hescape (by omega)

theorem length_escapeChar_pos (c : Char) : 0 < (escapeChar c).length := by
  unfold escapeChar
  repeat' split
  all_goals simp

/-- Characters are read back up to the closing mark. -/
theorem readChars_flatMap_escapeChar {cs : List Char} (hsteps : cs.length < steps) :
    readChars steps (cs.flatMap escapeChar ++ '"' :: rest) = some (cs, rest) := by
  induction cs generalizing steps with
  | nil =>
      obtain ⟨steps, rfl⟩ := Nat.exists_eq_succ_of_ne_zero (Nat.ne_zero_of_lt hsteps)
      rfl
  | cons c cs ih =>
      obtain ⟨steps, rfl⟩ := Nat.exists_eq_succ_of_ne_zero (Nat.ne_zero_of_lt hsteps)
      have hread := ih steps (Nat.lt_of_succ_lt_succ hsteps)
      rw [List.flatMap_cons, List.append_assoc, readChars_escapeChar, hread]
      rfl

theorem length_le_length_flatMap_escapeChar (cs : List Char) :
    cs.length ≤ (cs.flatMap escapeChar).length := by
  induction cs with
  | nil => exact Nat.le_refl 0
  | cons c cs ih =>
      have hpos := length_escapeChar_pos c
      rw [List.flatMap_cons, List.length_append, List.length_cons]
      omega

/-- A text is read back after its opening mark. -/
theorem readText_writeText (s : String) :
    readText (s.toList.flatMap escapeChar ++ '"' :: rest) = some (s, rest) := by
  have hle := length_le_length_flatMap_escapeChar s.toList
  have hsteps : s.toList.length <
      (s.toList.flatMap escapeChar ++ '"' :: rest).length + 1 := by
    rw [List.length_append]
    omega
  rw [readText, readChars_flatMap_escapeChar _ rest hsteps]
  show some (String.ofList s.toList, rest) = _
  rw [String.ofList_toList]

end Texts

section Numbers

/-- What may follow a value inside a document, or nothing. -/
def Closes (rest : List Char) : Prop := ∀ c ∈ rest.head?, c = ',' ∨ c = ']' ∨ c = '\x7d'

theorem closes_nil : Closes [] := fun _ h => nomatch h

theorem closes_cons {c : Char} (h : c = ',' ∨ c = ']' ∨ c = '\x7d') (rest : List Char) :
    Closes (c :: rest) := by
  intro d hd
  obtain rfl : c = d := by simpa using hd
  exact h

/-- Only zero is written with a zero in front. -/
theorem head?_toDigits {n : Nat} (h : n ≠ 0) : (Nat.toDigits 10 n).head? ≠ some '0' := by
  induction n using Nat.strongRecOn with
  | _ n ih =>
    by_cases hn : n < 10
    · have hall : ∀ n < 10, n ≠ 0 → some (Nat.digitChar n) ≠ some '0' := by decide
      rw [Nat.toDigits_of_lt_base hn]
      exact hall n hn h
    · rw [Nat.toDigits_of_base_le (by decide) (by omega),
        List.head?_append_of_ne_nil _ Nat.toDigits_ne_nil]
      exact ih (n / 10) (by omega) (by omega)

variable {rest : List Char} (hrest : Closes rest)

include hrest

theorem readDigits?_toDigits (n : Nat) :
    readDigits? (Nat.toDigits 10 n ++ rest) = some (Nat.toDigits 10 n, rest) := by
  have hdigits : ∀ c ∈ Nat.toDigits 10 n, Reading.isPlainDigit c = true := fun c hc =>
    Nat.isDigit_of_mem_toDigits (by decide) (by decide) hc
  have hstop : rest.takeWhile Reading.isPlainDigit = [] ∧
      rest.dropWhile Reading.isPlainDigit = rest := by
    cases rest with
    | nil => exact ⟨rfl, rfl⟩
    | cons c rest => rcases hrest c rfl with rfl | rfl | rfl <;> exact ⟨rfl, rfl⟩
  have hnonempty : (Nat.toDigits 10 n).isEmpty = false := by simp [Nat.toDigits_ne_nil]
  rw [readDigits?, List.takeWhile_append_of_pos hdigits, List.dropWhile_append_of_pos hdigits,
    hstop.1, hstop.2, List.append_nil]
  exact if_neg (by simp [hnonempty])

end Numbers

/-- A number at the front of a list, after its sign. -/
def readUnsigned (negative : Bool) (cs : List Char) : Option (Value × List Char) := do
  let (whole, cs) ← readDigits? cs
  if whole.head? = some '0' && 1 < whole.length then none
  let point := cs.head? = some '.'
  let (places, cs) ← readPlaces? cs
  let (exponent, cs) ← readExponent? cs
  if !point && exponent.isNone then
    return (← wholeValue? negative (Reading.digitsValue whole), cs)
  let digits := Reading.digitsValue (whole ++ places)
  return (← finite? (Reading.ofDecimal negative digits (exponent.getD 0 - places.length)), cs)

theorem readNumber_minus (cs : List Char) : readNumber ('-' :: cs) = readUnsigned true cs := rfl

theorem readNumber_of_ne {c : Char} (h : c ≠ '-') (cs : List Char) :
    readNumber (c :: cs) = readUnsigned false (c :: cs) := by
  unfold readNumber readUnsigned
  split
  rename_i hsplit
  split at hsplit
  next hminus => exact absurd (List.cons.inj hminus).1 h
  next =>
    cases hsplit
    rfl

theorem readUnsigned_toDigits {rest : List Char} (hrest : Closes rest) (negative : Bool) (n : Nat) :
    readUnsigned negative (Nat.toDigits 10 n ++ rest) =
      (wholeValue? negative n).map fun v => (v, rest) := by
  have hzero : ¬ (decide ((Nat.toDigits 10 n).head? = some '0') &&
      decide (1 < (Nat.toDigits 10 n).length)) = true := by
    rcases Nat.eq_zero_or_pos n with rfl | hpos
    · decide
    · simp [head?_toDigits (Nat.pos_iff_ne_zero.1 hpos)]
  have hfollows : rest.head? ≠ some '.' ∧ readPlaces? rest = some ([], rest) ∧
      readExponent? rest = some (none, rest) := by
    cases rest with
    | nil => exact ⟨by simp, rfl, rfl⟩
    | cons c rest => rcases hrest c rfl with rfl | rfl | rfl <;> exact ⟨by simp, rfl, rfl⟩
  obtain ⟨hpoint, hplaces, hexponent⟩ := hfollows
  unfold readUnsigned
  rw [readDigits?_toDigits hrest]
  dsimp only [Option.bind_eq_bind, Option.bind_some]
  rw [if_neg hzero, hplaces]
  dsimp only [Option.bind_eq_bind, Option.bind_some]
  rw [hexponent]
  dsimp only [Option.bind_eq_bind, Option.bind_some]
  have hwhole : (!decide (rest.head? = some '.') && (none : Option Int).isNone) = true := by
    simp [hpoint]
  rw [if_pos hwhole, Reading.digitsValue_toDigits]
  cases wholeValue? negative n <;> rfl

theorem wholeValue?_of_fits (negative : Bool) (n : Nat)
    (h : fits (Binary64.signed negative n) = true) :
    wholeValue? negative n = some (.int (Binary64.signed negative n)) := by
  unfold fits at h
  rw [wholeValue?, if_pos h]

theorem exists_cons_toDigits (n : Nat) :
    ∃ c ds, Nat.toDigits 10 n = c :: ds ∧ c.isDigit = true := by
  obtain ⟨c, ds, hds⟩ := List.exists_cons_of_ne_nil (Nat.toDigits_ne_nil (n := n) (b := 10))
  exact ⟨c, ds, hds, Nat.isDigit_of_mem_toDigits (by decide) (by decide) (hds ▸ List.mem_cons_self)⟩

/-- A whole number that is written starts with a digit or a sign. -/
theorem exists_cons_toString (n : Int) :
    ∃ c ds, (toString n).toList = c :: ds ∧ (c.isDigit = true ∨ c = '-') := by
  cases n with
  | ofNat n =>
      obtain ⟨c, ds, hds, hc⟩ := exists_cons_toDigits n
      exact ⟨c, ds, (Reading.toList_toString n).trans hds, .inl hc⟩
  | negSucc n => exact ⟨'-', _, Reading.toList_toString_negSucc n, .inr rfl⟩

/-- A whole number of 64 bits is read back. -/
theorem readNumber_toString {rest : List Char} (hrest : Closes rest) {n : Int}
    (h : fits n = true) : readNumber ((toString n).toList ++ rest) = some (.int n, rest) := by
  cases n with
  | ofNat n =>
      obtain ⟨c, ds, hds, hc⟩ := exists_cons_toDigits n
      have hminus : c ≠ '-' := by rintro rfl; cases hc
      have hread := readUnsigned_toDigits hrest false n
      rw [wholeValue?_of_fits false n h] at hread
      have hwritten : (toString (Int.ofNat n)).toList = Nat.toDigits 10 n :=
        Reading.toList_toString n
      rw [hwritten]
      rw [hds, List.cons_append] at hread ⊢
      rw [readNumber_of_ne hminus, hread]
      rfl
  | negSucc n =>
      rw [Reading.toList_toString_negSucc, List.cons_append, readNumber_minus,
        readUnsigned_toDigits hrest, wholeValue?_of_fits true (n + 1) h]
      rfl

end AdminGrid.Json

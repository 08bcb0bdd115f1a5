import AdminGrid.Proofs.Request.FlatKeys
import AdminGrid.Proofs.Text.Pattern
import AdminGrid.Proofs.Text.Trim
import AdminGrid.Request.Guard
import AdminGrid.Value
import Mathlib.Data.Bool.AllAny

/-!
# Texts without dangerous patterns

All dangerous patterns but one ask for no line end, and all but this one ask for a character that no
number is written with.  So a harmless text stays harmless without the blanks around it, and the
texts of truth values and numbers are harmless.  The one exception asks for two dashes at the end of
a line, with blanks behind them.
-/

namespace AdminGrid.Request

open Text

/-- Whether a pattern is that of two dashes at the end of a line. -/
def isDashes (p : Pattern) : Bool :=
  match p.pieces with
  | [.text "--", .run .blank, .lineEnd] => !p.caseless
  | _ => false

theorem isHarmless_iff {s : String} :
    isHarmless s = true ↔ ∀ p ∈ dangerousPatterns, p.occursIn s = false := by
  unfold isHarmless dangerousPattern?
  rw [Option.isNone_iff_eq_none, List.find?_eq_none]
  simp only [Bool.not_eq_true]

section Dashes

variable {p : Pattern} {cs : List Char}

theorem fitDashes_iff (hp : isDashes p = true) :
    fitPieces p.caseless p.pieces cs = true ↔
      ∃ rest, dropText? false ['-', '-'] cs = some rest ∧
        ∃ left ∈ runRests .blank rest, atLineEnd left = true := by
  unfold isDashes at hp
  split at hp
  · rename_i hpieces
    have hcaseless : p.caseless = false := by simpa using hp
    have hdashes : "--".toList = ['-', '-'] := by decide
    rw [hpieces, hcaseless]
    simp only [fitPieces, Piece.rests, hdashes, List.any_eq_true, Option.mem_toList]
    refine exists_congr fun rest => and_congr_right fun _ => exists_congr fun left =>
      and_congr_right fun _ => ?_
    split
    · rename_i hend
      simp [hend]
    · rename_i hend
      simp [hend]
  · cases hp

theorem nil_mem_runRests_iff {cls : CharClass} :
    [] ∈ runRests cls cs ↔ ∀ c ∈ cs, cls.has c = true := by
  induction cs with
  | nil => simp [runRests]
  | cons c cs ih =>
      rw [runRests, List.forall_mem_cons, ← ih]
      by_cases hc : cls.has c = true <;> simp [hc]

/-- Blanks behind two dashes at the end of a line leave them there. -/
theorem fitDashes_append (hp : isDashes p = true) {back : List Char}
    (hback : ∀ c ∈ back, isBlank c = true) (h : fitPieces p.caseless p.pieces cs = true) :
    fitPieces p.caseless p.pieces (cs ++ back) = true := by
  obtain ⟨rest, hrest, left, hleft, hend⟩ := (fitDashes_iff hp).1 h
  refine (fitDashes_iff hp).2 ⟨rest ++ back, dropText?_append hrest, ?_⟩
  cases left with
  | nil =>
      -- the blanks reach the end of the text, and so they do with more blanks behind them
      refine ⟨[], nil_mem_runRests_iff.2 fun c hc => ?_, rfl⟩
      exact (List.mem_append.1 hc).elim (nil_mem_runRests_iff.1 hleft c) (hback c)
  | cons c left => exact ⟨c :: left ++ back, mem_runRests_append hleft, hend⟩

end Dashes

section Strip

theorem isOpen_or_isDashes :
    ∀ p ∈ dangerousPatterns, p.pieces.all Piece.isOpen = true ∨ isDashes p = true := by
  have hall : dangerousPatterns.all (fun p => p.pieces.all Piece.isOpen || isDashes p) = true := by
    decide
  exact fun p hp => (Bool.or_eq_true _ _).mp (List.all_eq_true.1 hall p hp)

/-- A dangerous pattern that occurs in a text without the blanks around it occurs in the text. -/
theorem occursIn_of_strip {p : Pattern} (hp : p ∈ dangerousPatterns) {s : String}
    (h : p.occursIn (strip s) = true) : p.occursIn s = true := by
  obtain ⟨before, behind, -, hbehind, hs⟩ := exists_append_trimBy isBlank s.toList
  rw [Pattern.occursIn, strip, String.toList_ofList, occurPieces_iff] at h
  obtain ⟨front, back, hmiddle, hfit⟩ := h
  have hmore : fitPieces p.caseless p.pieces (back ++ behind) = true := by
    rcases isOpen_or_isDashes p hp with hopen | hdashes
    · exact fitPieces_append (List.all_eq_true.1 hopen) hfit
    · exact fitDashes_append hdashes hbehind hfit
  refine occurPieces_iff.2 ⟨before ++ front, back ++ behind, ?_, hmore⟩
  rw [hs, hmiddle, List.append_assoc, List.append_assoc, List.append_assoc]

theorem isHarmless_strip {s : String} (h : isHarmless s = true) : isHarmless (strip s) = true := by
  rw [isHarmless_iff] at h ⊢
  intro p hp
  rw [Bool.eq_false_iff]
  exact fun hoccurs => Bool.noConfusion ((h p hp).symm.trans (occursIn_of_strip hp hoccurs))

end Strip

/-- The characters that truth values and numbers are written with, and their like. -/
def plainChars : List Char :=
  "0123456789ABCDEFGHIJKLMNOPQRSTUVWXYZabcdefghijklmnopqrstuvwxyz+-.".toList

/-- Whether a piece asks for a character that is not plain. -/
def isForeign (caseless : Bool) : Piece → Bool
  | .text s => s.toList.any fun p => plainChars.all fun c => !sameLetter caseless p c
  | .one cls | .some cls => plainChars.all fun c => !cls.has c
  | _ => false

/-- Whether characters are plain and do not end in a dash. -/
structure IsPlain (cs : List Char) : Prop where
  plain : ∀ c ∈ cs, c ∈ plainChars
  ends : ∃ front c, cs = front ++ [c] ∧ c ≠ '-'

section Plain

theorem not_meets_of_isForeign {caseless : Bool} {piece : Piece} {cs : List Char}
    (h : isForeign caseless piece = true) (hcs : ∀ c ∈ cs, c ∈ plainChars) :
    ¬ piece.Meets caseless cs := by
  intro hmeets
  cases piece with
  | text s =>
      obtain ⟨p, hp, hforeign⟩ := List.any_eq_true.1 h
      obtain ⟨c, hc, hsame⟩ := hmeets p hp
      have hother := List.all_eq_true.1 hforeign c (hcs c hc)
      rw [hsame] at hother
      cases hother
  | one cls | some cls =>
      obtain ⟨c, hc, hhas⟩ := hmeets
      have hother := List.all_eq_true.1 h c (hcs c hc)
      rw [hhas] at hother
      cases hother
  | _ => cases h

theorem isForeign_or_isDashes :
    ∀ p ∈ dangerousPatterns, p.pieces.any (isForeign p.caseless) = true ∨ isDashes p = true := by
  have hall : dangerousPatterns.all
      (fun p => p.pieces.any (isForeign p.caseless) || isDashes p) = true := by
    decide +kernel
  exact fun p hp => (Bool.or_eq_true _ _).mp (List.all_eq_true.1 hall p hp)

theorem eq_of_dropText? {head cs rest : List Char} (h : dropText? false head cs = some rest) :
    cs = head ++ rest := by
  induction head generalizing cs with
  | nil =>
      cases h
      rfl
  | cons p ps ih =>
      cases cs with
      | nil => cases h
      | cons c cs =>
          rw [dropText?] at h
          split at h
          · rename_i hsame
            have heq : p = c := by simpa [sameLetter] using hsame
            rw [ih h, heq]
            rfl
          · cases h

/-- A list of plain characters fits two dashes at the end of a line only if it is just these. -/
theorem eq_of_fitDashes {p : Pattern} (hp : isDashes p = true) {cs : List Char}
    (hcs : ∀ c ∈ cs, c ∈ plainChars) (h : fitPieces p.caseless p.pieces cs = true) :
    cs = ['-', '-'] := by
  have hblank : ∀ c ∈ plainChars, isBlank c = false ∧ (c == '\n') = false :=
    List.all_iff_forall_prop.1 (by decide +kernel)
  obtain ⟨rest, hrest, left, hleft, hend⟩ := (fitDashes_iff hp).1 h
  obtain rfl := eq_of_dropText? hrest
  cases rest with
  | nil => rfl
  | cons c rest =>
      obtain ⟨hnotblank, hnotfeed⟩ := hblank c (hcs c (by simp))
      have hhas : CharClass.blank.has c = false := hnotblank
      rw [runRests, hhas] at hleft
      obtain rfl : left = c :: rest := by simpa using hleft
      rw [atLineEnd, hnotfeed] at hend
      cases hend

theorem isHarmless_of_isPlain {s : String} (h : IsPlain s.toList) : isHarmless s = true := by
  rw [isHarmless_iff]
  intro p hp
  rw [Bool.eq_false_iff]
  intro hoccurs
  rcases isForeign_or_isDashes p hp with hforeign | hdashes
  · obtain ⟨piece, hpiece, hforeign⟩ := List.any_eq_true.1 hforeign
    exact not_meets_of_isForeign hforeign h.plain (meets_of_occursIn hoccurs piece hpiece)
  · obtain ⟨front, back, hs, hfit⟩ := occurPieces_iff.1 hoccurs
    have hback : ∀ c ∈ back, c ∈ plainChars := fun c hc =>
      h.plain c (hs ▸ List.mem_append_right front hc)
    obtain ⟨start, c, hlast, hc⟩ := h.ends
    rw [hs, eq_of_fitDashes hdashes hback hfit] at hlast
    -- the last character would be a dash
    have heq := congrArg List.getLast? hlast
    simp only [List.getLast?_append, List.getLast?_singleton, List.getLast?_cons_cons,
      Option.some_or, Option.some.injEq] at heq
    exact hc heq.symm

end Plain

section Numbers

theorem isPlain_of_forall {cs : List Char} (hne : cs ≠ [])
    (h : ∀ c ∈ cs, c ∈ plainChars ∧ c ≠ '-') : IsPlain cs where
  plain c hc := (h c hc).1
  ends := by
    rcases List.eq_nil_or_concat cs with rfl | ⟨front, c, rfl⟩
    · exact absurd rfl hne
    · exact ⟨front, c, List.concat_eq_append, (h c (by simp)).2⟩

theorem IsPlain.append {front cs : List Char} (h : IsPlain cs)
    (hfront : ∀ c ∈ front, c ∈ plainChars) : IsPlain (front ++ cs) where
  plain c hc := (List.mem_append.1 hc).elim (hfront c) (h.plain c)
  ends := by
    obtain ⟨start, c, rfl, hc⟩ := h.ends
    exact ⟨front ++ start, c, by rw [List.append_assoc], hc⟩

theorem mem_plainChars_of_isDigit {c : Char} (h : c.isDigit = true) :
    c ∈ plainChars ∧ c ≠ '-' := by
  have hdigits : ∀ k < 10, Char.ofNat (48 + k) ∈ plainChars ∧ Char.ofNat (48 + k) ≠ '-' := by
    decide
  obtain ⟨hlow, hhigh⟩ := Reading.toNat_of_isDigit h
  have hc := hdigits (c.toNat - 48) (by omega)
  rwa [Nat.add_sub_cancel' hlow, Char.ofNat_toNat] at hc

theorem isPlain_toDigits (n : Nat) : IsPlain (Nat.toDigits 10 n) :=
  isPlain_of_forall Nat.toDigits_ne_nil fun _ hc =>
    mem_plainChars_of_isDigit (Nat.isDigit_of_mem_toDigits (by decide) (by decide) hc)

theorem isPlain_toString (n : Int) : IsPlain (toString n).toList := by
  cases n with
  | ofNat n => exact toList_toString n ▸ isPlain_toDigits n
  | negSucc n =>
      rw [Reading.toList_toString_negSucc]
      exact (isPlain_toDigits (n + 1)).append (List.forall_mem_singleton.2 (by decide))

section Layout

open Binary64

theorem forall_isDigit_append {xs ys : List Char} (hxs : ∀ c ∈ xs, c.isDigit = true)
    (hys : ∀ c ∈ ys, c.isDigit = true) : ∀ c ∈ xs ++ ys, c.isDigit = true := fun c hc =>
  (List.mem_append.1 hc).elim (hxs c) (hys c)

theorem forall_isDigit_zeros (n : Nat) : ∀ c ∈ List.replicate n '0', c.isDigit = true :=
  fun _ hc => List.eq_of_mem_replicate hc ▸ by decide

theorem forall_isDigit_digitChars (n : Nat) : ∀ c ∈ digitChars n, c.isDigit = true :=
  fun _ hc => Nat.isDigit_of_mem_toDigits (by decide) (by decide) hc

theorem isPlain_padZeros (width n : Nat) : IsPlain (padZeros width (digitChars n)) := by
  have hdigits := forall_isDigit_append
    (forall_isDigit_zeros (width - (digitChars n).length)) (forall_isDigit_digitChars n)
  exact isPlain_of_forall (List.append_ne_nil_of_right_ne_nil _ Nat.toDigits_ne_nil) fun c hc =>
    mem_plainChars_of_isDigit (hdigits c hc)

/-- Digits before and behind a point are plain. -/
theorem isPlain_pointed {xs ys : List Char} (hxs : ∀ c ∈ xs, c.isDigit = true)
    (hys : ∀ c ∈ ys, c.isDigit = true) : IsPlain (xs ++ '.' :: ys) := by
  refine isPlain_of_forall (List.append_ne_nil_of_right_ne_nil _ (List.cons_ne_nil _ _)) ?_
  intro c hc
  rcases List.mem_append.1 hc with hc | hc
  · exact mem_plainChars_of_isDigit (hxs c hc)
  · rcases List.mem_cons.1 hc with rfl | hc
    · decide
    · exact mem_plainChars_of_isDigit (hys c hc)

theorem isPlain_layout (f : DigitLayout) {ds : List Char} (hds : ∀ c ∈ ds, c.isDigit = true)
    (point : Int) : IsPlain (f.layout ds point) := by
  have htake (n : Nat) : ∀ c ∈ ds.take n, c.isDigit = true := fun c hc =>
    hds c (List.mem_of_mem_take hc)
  have hdrop (n : Nat) : ∀ c ∈ ds.drop n, c.isDigit = true := fun c hc =>
    hds c (List.mem_of_mem_drop hc)
  unfold DigitLayout.layout
  split
  · split
    · exact isPlain_pointed (List.forall_mem_singleton.2 rfl)
        (forall_isDigit_append (forall_isDigit_zeros _) hds)
    · refine isPlain_pointed (forall_isDigit_append (htake _) (forall_isDigit_zeros _)) ?_
      split
      · exact List.forall_mem_singleton.2 rfl
      · exact hdrop _
  · -- everything before the digits of the exponent is plain
    have hsign : ∀ c ∈ (if point - 1 < 0 then ['-'] else if f.plusSign then ['+'] else []),
        c ∈ plainChars := by
      split
      · exact List.forall_mem_singleton.2 (by decide)
      · split
        · exact List.forall_mem_singleton.2 (by decide)
        · exact List.forall_mem_nil _
    have hmark : ∀ c ∈ ['e'], c ∈ plainChars := List.forall_mem_singleton.2 (by decide)
    refine IsPlain.append (((isPlain_padZeros _ _).append hsign).append hmark) ?_
    refine List.forall_mem_append.2
      ⟨fun c hc => (mem_plainChars_of_isDigit (htake 1 c hc)).1, ?_⟩
    split
    · split
      · exact List.all_iff_forall_prop.1 (by decide)
      · exact List.forall_mem_nil _
    · exact List.forall_mem_cons.2 ⟨by decide, fun c hc =>
        (mem_plainChars_of_isDigit (hdrop 1 c hc)).1⟩

theorem forall_isDigit_shortestDigits (mantissa : Nat) (exponent : Int) :
    ∀ c ∈ (shortestDigits mantissa exponent).1, c.isDigit = true := by
  intro c hc
  obtain ⟨k, hk⟩ : ∃ k, (shortestDigits mantissa exponent).1 =
      ((digitChars k).reverse.dropWhile (· == '0')).reverse := ⟨_, rfl⟩
  rw [hk, List.mem_reverse] at hc
  exact forall_isDigit_digitChars k c
    (List.mem_reverse.1 ((List.dropWhile_sublist _).subset hc))

theorem isPlain_text (f : DigitLayout) (x : Binary64) : IsPlain (x.text f).toList := by
  have hdash : ∀ c ∈ ['-'], c ∈ plainChars := List.forall_mem_singleton.2 (by decide)
  have hinf : IsPlain "inf".toList :=
    isPlain_of_forall (by decide) (List.all_iff_forall_prop.1 (by decide))
  have hnan : IsPlain "nan".toList :=
    isPlain_of_forall (by decide) (List.all_iff_forall_prop.1 (by decide))
  cases x with
  | nan => exact hnan
  | infinite negative =>
      cases negative with
      | true => exact (by decide : ['-'] ++ "inf".toList = "-inf".toList) ▸ hinf.append hdash
      | false => exact hinf
  | finite negative mantissa exponent =>
      have hbody : IsPlain (if mantissa = 0 then ['0', '.', '0'] else
          f.layout (shortestDigits mantissa exponent).1 (shortestDigits mantissa exponent).2) := by
        split
        · exact isPlain_of_forall (by decide) (List.all_iff_forall_prop.1 (by decide))
        · exact isPlain_layout f (forall_isDigit_shortestDigits mantissa exponent) _
      rw [text, String.toList_ofList]
      cases negative with
      | true => exact hbody.append hdash
      | false => exact hbody

end Layout

end Numbers

/-- Whether a value is null, a truth value, a number or a text. -/
def isLeaf : Value → Bool
  | .null | .bool _ | .int _ | .float _ | .text _ => true
  | _ => false

/-- What is no text and holds no other values reads as a harmless text. -/
theorem isHarmless_cellText {v : Value} (hleaf : isLeaf v = true)
    (htext : ∀ s, v = .text s → isHarmless s = true) : isHarmless v.cellText = true := by
  cases v with
  | null => decide
  | bool b => cases b <;> decide
  | int n => exact isHarmless_of_isPlain (isPlain_toString n)
  | float x => exact isHarmless_of_isPlain (isPlain_text .display x)
  | text s => exact htext s rfl
  | _ => cases hleaf

end AdminGrid.Request

import AdminGrid.Cell.Number
import AdminGrid.Proofs.Number.Whole
import AdminGrid.Proofs.Request.FlatKeys

/-!
# Whole numbers in cells

A number is shown through a floating one.  So a whole number has its own digits in a cell exactly if
it is a floating number itself; another one has the digits of a floating number beside it, or is not
shown at all.
-/

namespace AdminGrid.Cell

open Binary64

/-- Whether a text shows a whole number: its sign, its digits in groups of three, and zeros behind a
mark where decimal places are asked for. -/
def ShowsWhole (separator : String) (places : Nat) (n : Int) (text : String) : Prop :=
  ∃ whole, Grouped (if separator = "." then '.' else ',') (Nat.toDigits 10 n.natAbs) whole ∧
    text.toList = (if n < 0 then ['-'] else []) ++ whole ++
      (if places = 0 then []
        else (if separator = "." then ',' else '.') :: List.replicate places '0')

/-- A text without the marks between groups and before decimal places. -/
def unmarked (text : String) : String :=
  String.ofList (text.toList.filter fun c => c ≠ '.' && c ≠ ',')

section Shown

variable {separator : String} {places : Nat} {formatType : Option String} {n : Int} {text : String}

/-- The characters that show the magnitude `m` with the sign of a whole number. -/
def shownChars (separator : String) (places : Nat) (n : Int) (m : Nat) : List Char :=
  (if n < 0 then ['-'] else []) ++ groupThousands (marksOf separator).1 (Nat.toDigits 10 m) ++
    (if places = 0 then [] else (marksOf separator).2 :: List.replicate places '0')

theorem marksOf_cases (separator : String) :
    ((marksOf separator).1 = '.' ∨ (marksOf separator).1 = ',') ∧
      ((marksOf separator).2 = '.' ∨ (marksOf separator).2 = ',') := by
  unfold marksOf
  split <;> simp

theorem placesOf_natCast (places : Nat) (formatType : Option String) :
    placesOf places formatType = places := by
  unfold placesOf
  split
  · rfl
  · rename_i h
    simp only [Bool.or_eq_true, decide_eq_true_eq, not_or] at h
    omega

/-- A whole number is shown where a floating one can be made of it, with as many places as numbers
can have. -/
theorem formatNumber_int_eq_ok_iff :
    formatNumber (.int n) places separator formatType = .ok (some text) ↔
      (places : Int) ≤ maxPlaces ∧ ∃ x, ofInt? n = some x ∧
        text = x.groupedText (marksOf separator).1 (marksOf separator).2 places := by
  have hasked : maxPlaces ≤ maxAsked := by decide
  have hblank : (Value.int n).isBlank = false := rfl
  have hnumber : Formula.toNumber (.int n) = .ok (.int n) := rfl
  unfold formatNumber
  rw [placesOf_natCast, hblank, if_neg Bool.false_ne_true, hnumber]
  dsimp only [bind, Except.bind]
  by_cases hplaces : (places : Int) ≤ maxPlaces
  · have hinRange : ¬ (decide ((places : Int) < 0) || decide (maxAsked < places)) = true := by
      simp only [Bool.or_eq_true, decide_eq_true_eq]
      omega
    rw [if_neg hinRange, Numeral.toFloat]
    cases ofInt? n with
    | none => simp
    | some x => simp [hplaces, Int.not_lt.2 hplaces, pure, Except.pure, eq_comm]
  · refine iff_of_false (fun h => ?_) fun h => hplaces h.1
    split at h
    · cases h
    · cases hfloat : (Numeral.int n).toFloat with
      | error fault => rw [hfloat] at h; cases h
      | ok x => simp [hfloat, Int.not_le.1 hplaces] at h

/-- What is shown of a whole number are its sign and the digits of a nearest floating number. -/
theorem exists_of_formatNumber_int
    (h : formatNumber (.int n) places separator formatType = .ok (some text)) :
    ∃ m, IsNearest n.natAbs m ∧ text.toList = shownChars separator places n m := by
  obtain ⟨-, x, hx, rfl⟩ := formatNumber_int_eq_ok_iff.1 h
  obtain ⟨mantissa, exponent, m, rfl, hwhole, hnearest⟩ := exists_of_ofInt? hx
  refine ⟨m, hnearest, ?_⟩
  rw [groupedText, fixedDigits_of_isWhole hwhole, String.toList_ofList]
  simp only [decide_eq_true_eq, digitChars, shownChars]

/-- The digits between the sign and the decimal places are those of one number only. -/
theorem eq_of_unmarked {m k : Nat} {front back : List Char}
    (h : front ++ Nat.toDigits 10 m ++ back = front ++ Nat.toDigits 10 k ++ back) : m = k := by
  rw [List.append_left_inj, List.append_right_inj] at h
  rw [← Reading.digitsValue_toDigits m, h, Reading.digitsValue_toDigits]

theorem ne_of_mem_toDigits {m : Nat} {c : Char} (hc : c ∈ Nat.toDigits 10 m) :
    c ≠ '.' ∧ c ≠ ',' := by
  have hdigit := Nat.isDigit_of_mem_toDigits (by decide) (by decide) hc
  constructor <;> rintro rfl <;> cases hdigit

/-- Without its marks a shown number is its sign, its digits and the zeros of its places. -/
theorem toList_unmarked {m : Nat} {whole : List Char} {mark point : Char}
    (hmark : mark = '.' ∨ mark = ',') (hpoint : point = '.' ∨ point = ',')
    (hwhole : Grouped mark (Nat.toDigits 10 m) whole)
    (htext : text.toList = (if n < 0 then ['-'] else []) ++ whole ++
      (if places = 0 then [] else point :: List.replicate places '0')) :
    (unmarked text).toList = (if n < 0 then ['-'] else []) ++ Nat.toDigits 10 m ++
      List.replicate places '0' := by
  have hdigits : ∀ c ∈ Nat.toDigits 10 m, (c ≠ '.' && c ≠ ',') = true := fun c hc => by
    simp [ne_of_mem_toDigits hc]
  have hfilter := hwhole.filter_eq (by rcases hmark with rfl | rfl <;> rfl) hdigits
  rw [unmarked, String.toList_ofList, htext, List.filter_append, List.filter_append, hfilter]
  congr 1
  · congr 1
    split <;> rfl
  · cases places with
    | zero => rfl
    | succ places =>
        rw [if_neg (Nat.succ_ne_zero places),
          List.filter_cons_of_neg (by rcases hpoint with rfl | rfl <;> decide),
          List.filter_replicate_of_pos (by decide)]

theorem replaceChar_empty (mark : Char) (s : String) :
    Text.replaceChar mark "" s = String.ofList (s.toList.filter (· ≠ mark)) := by
  rw [Text.replaceChar]
  congr 1
  induction s.toList with
  | nil => rfl
  | cons c cs ih =>
      rw [List.flatMap_cons, ih]
      by_cases hc : c = mark
      · rw [if_pos hc, List.filter_cons_of_neg (by simpa using hc)]
        rfl
      · rw [if_neg hc, List.filter_cons_of_pos (by simpa using hc)]
        rfl

theorem isBlank_of_mem_grouped {m : Nat} {whole : List Char}
    (hwhole : Grouped ',' (Nat.toDigits 10 m) whole) {c : Char} (hc : c ∈ whole) :
    Text.isBlank c = false := by
  rcases hwhole.mem_or_eq c hc with hc | rfl
  · have hdigit := Nat.isDigit_of_mem_toDigits (by decide) (by decide) hc
    exact Reading.isBlank_of_isDigit (Request.textIsDigit_of_isDigit hdigit)
  · rfl

/-- Before a text is read as a number its blanks and commas are left out. -/
theorem replaceChar_strip_of_grouped {negative : Bool} {m : Nat} {whole : List Char}
    (hwhole : Grouped ',' (Nat.toDigits 10 m) whole)
    (htext : text.toList = (if negative then ['-'] else []) ++ whole) :
    Text.replaceChar ',' "" (Text.strip text) =
      String.ofList ((if negative then ['-'] else []) ++ Nat.toDigits 10 m) := by
  have hblank : ∀ c ∈ text.toList, Text.isBlank c = false := by
    rw [htext]
    cases negative with
    | false => exact fun c => isBlank_of_mem_grouped hwhole
    | true => exact List.forall_mem_cons.2 ⟨rfl, fun c => isBlank_of_mem_grouped hwhole⟩
  have hcomma : ∀ c ∈ Nat.toDigits 10 m, decide (c ≠ ',') = true := fun c hc =>
    decide_eq_true (ne_of_mem_toDigits hc).2
  rw [Text.strip, Text.trimBy_eq_self hblank, String.ofList_toList, replaceChar_empty, htext,
    List.filter_append, hwhole.filter_eq (by decide) hcomma]
  cases negative <;> rfl

/-- Digits in groups behind a sign are read as the number. -/
theorem toNumber_of_grouped {negative : Bool} {m : Nat} {whole : List Char}
    (hwhole : Grouped ',' (Nat.toDigits 10 m) whole)
    (htext : text.toList = (if negative then ['-'] else []) ++ whole)
    (hm : m < tenTo Reading.maxDigits) :
    Formula.toNumber (.text text) = .ok (.int (signed negative m)) := by
  have hread := Reading.int?_signedDigits negative m
  rw [if_neg (Nat.not_lt.2 (Reading.length_toDigits_le (by decide) hm)),
    ← replaceChar_strip_of_grouped hwhole htext] at hread
  have hsome : Text.replaceChar ',' "" (Text.strip text) ≠ "" := by
    intro hempty
    have hnone : Reading.int? "" = none := rfl
    rw [hempty, hnone] at hread
    cases hread
  have hcell : (Value.text text).cellText = text := rfl
  have hnumeral : (Value.text text).numeral? = none := rfl
  unfold Formula.toNumber
  rw [hnumeral]
  dsimp only
  rw [hcell, if_neg hsome, hread]

end Shown

section Exact

variable {separator : String} {places : Nat} {formatType : Option String} {n : Int}

/-- A property of texts that tells the number itself from others holds of what is shown exactly if
the number is a floating one and has no more places than can be shown. -/
theorem exists_shown_iff {p : String → Prop}
    (hp : ∀ text m, IsFloating m → text.toList = shownChars separator places n m →
      (p text ↔ m = n.natAbs)) :
    (∃ text, formatNumber (.int n) places separator formatType = .ok (some text) ∧ p text) ↔
      (places : Int) ≤ maxPlaces ∧ IsFloating n.natAbs := by
  constructor
  · rintro ⟨text, hshown, htext⟩
    obtain ⟨m, hnearest, hchars⟩ := exists_of_formatNumber_int hshown
    exact ⟨(formatNumber_int_eq_ok_iff.1 hshown).1,
      (hp text m hnearest.1 hchars).1 htext ▸ hnearest.1⟩
  · rintro ⟨hplaces, hfloating⟩
    obtain ⟨x, hx⟩ := exists_ofInt?_of_isFloating hfloating
    have hshown := (@formatNumber_int_eq_ok_iff separator places formatType n _).2
      ⟨hplaces, x, hx, rfl⟩
    obtain ⟨m, hnearest, hchars⟩ := exists_of_formatNumber_int hshown
    exact ⟨_, hshown, (hp _ m hnearest.1 hchars).2 (hnearest.eq hfloating)⟩

/-- What shows a number of the same sign shows its magnitude. -/
theorem showsWhole_iff {text : String} {k : Int} {m : Nat} (hk : k < 0 ↔ n < 0)
    (h : text.toList = shownChars separator places n m) :
    ShowsWhole separator places k text ↔ m = k.natAbs := by
  have hfst : (marksOf separator).1 = if separator = "." then '.' else ',' := apply_ite ..
  have hsnd : (marksOf separator).2 = if separator = "." then ',' else '.' := apply_ite ..
  obtain ⟨hmark, hpoint⟩ := marksOf_cases separator
  unfold ShowsWhole
  rw [← hfst, ← hsnd]
  simp only [hk]
  constructor
  · rintro ⟨whole, hwhole, htext⟩
    have hdigits := toList_unmarked hmark hpoint hwhole htext
    rw [toList_unmarked hmark hpoint (grouped_groupThousands Nat.toDigits_ne_nil) h] at hdigits
    exact eq_of_unmarked hdigits
  · rintro rfl
    exact ⟨_, grouped_groupThousands Nat.toDigits_ne_nil, h⟩

/-- The nearest number has the sign of the number. -/
theorem signed_neg_iff {m : Nat} (h : IsNearest n.natAbs m) : signed (n < 0) m < 0 ↔ n < 0 := by
  unfold signed
  by_cases hn : n < 0
  · have hm := h.pos (Int.natAbs_pos.2 (Int.ne_of_lt hn))
    simpa [hn] using hm
  · simp [hn]

theorem unmarked_eq_toString_iff {text : String} {m : Nat}
    (h : text.toList = shownChars separator 0 n m) : unmarked text = toString n ↔ m = n.natAbs := by
  have hunmarked := toList_unmarked (marksOf_cases separator).1 (marksOf_cases separator).2
    (grouped_groupThousands Nat.toDigits_ne_nil) h
  rw [← String.toList_inj, hunmarked, Reading.toString_eq_ofList, String.toList_ofList]
  constructor
  · intro h
    exact eq_of_unmarked (h.trans (List.append_nil _).symm)
  · rintro rfl
    exact List.append_nil _

theorem toNumber_eq_int_iff {text : String} {m : Nat} (hm : IsFloating m)
    (h : text.toList = shownChars "," 0 n m) :
    Formula.toNumber (.text text) = .ok (.int n) ↔ m = n.natAbs := by
  have hread := @toNumber_of_grouped text (n < 0) m _ (grouped_groupThousands Nat.toDigits_ne_nil)
    (by simpa [shownChars, marksOf] using h) (lt_tenTo_of_isFloating (by decide) hm)
  rw [hread]
  constructor
  · intro h
    have hn : signed (n < 0) m = n := by simpa using h
    rw [← hn, signed_natAbs]
  · rintro rfl
    rw [Reading.signed_natAbs_self]

end Exact

/-- A whole number below the limit of floating numbers is shown as a floating one nearest to it.  It
is shown itself, is what is left without the marks and is read back, exactly if it is one. -/
theorem formatNumber_int_shows_iff (n : Int) (places : Nat) (separator : String)
    (formatType : Option String) :
    ((∃ text, formatNumber (.int n) places separator formatType = .ok (some text)) ↔
      (places : Int) ≤ maxPlaces ∧ n.natAbs < floatLimit) ∧
    (∀ text, formatNumber (.int n) places separator formatType = .ok (some text) →
      ∃ m, IsNearest n.natAbs m ∧ ShowsWhole separator places (signed (n < 0) m) text) ∧
    ((∃ text, formatNumber (.int n) places separator formatType = .ok (some text) ∧
        ShowsWhole separator places n text) ↔
      (places : Int) ≤ maxPlaces ∧ IsFloating n.natAbs) ∧
    ((∃ text, formatNumber (.int n) 0 separator formatType = .ok (some text) ∧
        unmarked text = toString n) ↔ IsFloating n.natAbs) ∧
    ((∃ text, formatNumber (.int n) 0 "," formatType = .ok (some text) ∧
        Formula.toNumber (.text text) = .ok (.int n)) ↔ IsFloating n.natAbs) := by
  have hplaces : ((0 : Nat) : Int) ≤ maxPlaces := by decide
  refine ⟨?_, fun text htext => ?_, exists_shown_iff fun text m _ h => showsWhole_iff Iff.rfl h,
    ?_, ?_⟩
  · simp only [formatNumber_int_eq_ok_iff]
    rw [← not_le, ← ofInt?_eq_none_iff, ← ne_eq, Option.ne_none_iff_exists']
    exact ⟨fun ⟨_, hplaces, x, hx, _⟩ => ⟨hplaces, x, hx⟩,
      fun ⟨hplaces, x, hx⟩ => ⟨_, hplaces, x, hx, rfl⟩⟩
  · obtain ⟨m, hnearest, hchars⟩ := exists_of_formatNumber_int htext
    exact ⟨m, hnearest,
      (showsWhole_iff (signed_neg_iff hnearest) hchars).2 (signed_natAbs _ m).symm⟩
  · exact (exists_shown_iff fun text m _ h => unmarked_eq_toString_iff h).trans
      (and_iff_right hplaces)
  · exact (exists_shown_iff fun text m hm h => toNumber_eq_int_iff hm h).trans
      (and_iff_right hplaces)

/-- The least number that is no floating one is shown as the even one before it. -/
theorem formatNumber_int_shows_iff_even : ∃ m, IsNearest 9007199254740993 m ∧
    ShowsWhole "," 0 (signed false m) "9,007,199,254,740,992" :=
  (formatNumber_int_shows_iff 9007199254740993 0 "," (some "decimal")).2.1 _ rfl

/-- Its own digits are not shown. -/
theorem formatNumber_not_showsWhole :
    formatNumber (.int 9007199254740993) 0 "," (some "decimal") =
        .ok (some "9,007,199,254,740,992") ∧
      ¬ ShowsWhole "," 0 9007199254740993 "9,007,199,254,740,992" := by
  refine ⟨rfl, fun h => ?_⟩
  have hdigits : "9,007,199,254,740,992".toList =
      shownChars "," 0 9007199254740993 9007199254740992 := rfl
  exact absurd ((showsWhole_iff Iff.rfl hdigits).1 h) (by decide)

end AdminGrid.Cell

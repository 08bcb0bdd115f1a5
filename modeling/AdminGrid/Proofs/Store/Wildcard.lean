import AdminGrid.Store.Pattern
import Mathlib.Data.List.TakeWhile
import Mathlib.Tactic.ByContra

/-!
# What a pattern stands for

A text fits a pattern exactly if every character of the pattern stands for a part of it, one after
the other.  A text that is put between percent signs is therefore looked for anywhere in another
one, at its start or at its end.  It is looked for as it is, letters of both sizes being the same,
exactly if it holds no wildcard itself.
-/

namespace AdminGrid.Store

/-- Whether a character stands for others in a pattern. -/
def isWildcard (c : Char) : Bool := c == '%' || c == '_'

/-- Whether a character of a pattern stands for some characters. -/
inductive Means : Char → List Char → Prop
  | any (run : List Char) : Means '%' run
  | one (c : Char) : Means '_' [c]
  | self {p c : Char} (hp : isWildcard p = false) (h : p.toLower = c.toLower) : Means p [c]

/-- Whether a pattern stands for some characters, its own characters for one part after the other.
-/
def StandsFor : List Char → List Char → Prop
  | [], cs => cs = []
  | p :: pattern, cs => ∃ run rest, cs = run ++ rest ∧ Means p run ∧ StandsFor pattern rest

section Fits

variable {pattern cs : List Char}

theorem means_one_iff {run : List Char} : Means '_' run ↔ ∃ c, run = [c] := by
  constructor
  · intro h
    cases h with
    | one c => exact ⟨c, rfl⟩
    | self hp _ => exact absurd hp (by decide)
  · rintro ⟨c, rfl⟩
    exact .one c

theorem means_self_iff {p : Char} (hp : isWildcard p = false) {run : List Char} :
    Means p run ↔ ∃ c, run = [c] ∧ p.toLower = c.toLower := by
  constructor
  · intro h
    cases h with
    | any => exact absurd hp (by decide)
    | one => exact absurd hp (by decide)
    | self _ h => exact ⟨_, rfl, h⟩
  · rintro ⟨c, rfl, h⟩
    exact .self hp h

theorem isWildcard_eq_false {p : Char} (hany : p ≠ '%') (hone : p ≠ '_') :
    isWildcard p = false := by
  rw [isWildcard, Bool.or_eq_false_iff, beq_eq_false_iff_ne, beq_eq_false_iff_ne]
  exact ⟨hany, hone⟩

/-- Characters fit a pattern exactly if it stands for them. -/
theorem fits_iff_standsFor : fits pattern cs = true ↔ StandsFor pattern cs := by
  fun_induction fits pattern cs with
  | case1 cs => exact List.isEmpty_iff
  | case2 pattern ih =>
      rw [ih]
      constructor
      · exact fun h => ⟨[], [], rfl, .any [], h⟩
      · rintro ⟨run, rest, hnil, -, h⟩
        rwa [(List.append_eq_nil_iff.1 hnil.symm).2] at h
  | case3 pattern c cs ihpattern ihcs =>
      rw [Bool.or_eq_true, ihpattern, ihcs]
      constructor
      · rintro (h | ⟨run, rest, rfl, -, h⟩)
        · exact ⟨[], c :: cs, rfl, .any [], h⟩
        · exact ⟨c :: run, rest, rfl, .any _, h⟩
      · rintro ⟨run, rest, heq, -, h⟩
        cases run with
        | nil => exact Or.inl (heq ▸ h)
        | cons d run => exact Or.inr ⟨run, rest, (List.cons.inj heq).2, .any run, h⟩
  | case4 pattern => simp [StandsFor, means_one_iff]
  | case5 pattern c cs ih =>
      rw [ih]
      constructor
      · exact fun h => ⟨[c], cs, rfl, .one c, h⟩
      · rintro ⟨run, rest, heq, hone, h⟩
        obtain ⟨d, rfl⟩ := means_one_iff.1 hone
        rwa [(List.cons.inj heq).2]
  | case6 p pattern hone hany _ =>
      simp [StandsFor, means_self_iff (isWildcard_eq_false (hany rfl) hone)]
  | case7 p pattern hone c cs _ hany ih =>
      have hp := isWildcard_eq_false (hany c cs rfl) hone
      rw [Bool.and_eq_true, beq_iff_eq, ih]
      constructor
      · exact fun h => ⟨[c], cs, rfl, .self hp h.1, h.2⟩
      · rintro ⟨run, rest, heq, hself, h⟩
        obtain ⟨d, rfl, hd⟩ := (means_self_iff hp).1 hself
        rw [(List.cons.inj heq).1, (List.cons.inj heq).2]
        exact ⟨hd, h⟩

/-- A pattern of two parts stands for what one part stands for, and then the other one. -/
theorem standsFor_append_iff {front back : List Char} : StandsFor (front ++ back) cs ↔
    ∃ start rest, cs = start ++ rest ∧ StandsFor front start ∧ StandsFor back rest := by
  induction front generalizing cs with
  | nil =>
      constructor
      · exact fun h => ⟨[], cs, rfl, rfl, h⟩
      · rintro ⟨_, rest, rfl, rfl, h⟩
        exact h
  | cons p front ih =>
      simp only [List.cons_append, StandsFor, ih]
      constructor
      · rintro ⟨run, _, rfl, hp, start, rest, rfl, hfront, hback⟩
        exact ⟨run ++ start, rest, (List.append_assoc ..).symm, ⟨run, start, rfl, hp, hfront⟩, hback⟩
      · rintro ⟨_, rest, rfl, ⟨run, start, rfl, hp, hfront⟩, hback⟩
        exact ⟨run, start ++ rest, List.append_assoc .., hp, start, rest, rfl, hfront, hback⟩

/-- Without wildcards a pattern stands for itself alone, but for the size of letters. -/
theorem standsFor_iff_map_eq (h : ∀ c ∈ pattern, isWildcard c = false) :
    StandsFor pattern cs ↔ cs.map Char.toLower = pattern.map Char.toLower := by
  induction pattern generalizing cs with
  | nil => rw [StandsFor, List.map_nil, List.map_eq_nil_iff]
  | cons p pattern ih =>
      rw [List.forall_mem_cons] at h
      simp only [StandsFor, means_self_iff h.1, ih h.2, List.map_cons, List.map_eq_cons_iff]
      constructor
      · rintro ⟨_, rest, rfl, ⟨c, rfl, hc⟩, hrest⟩
        exact ⟨c, rest, rfl, hc.symm, hrest⟩
      · rintro ⟨c, rest, rfl, hc, hrest⟩
        exact ⟨[c], rest, rfl, ⟨c, rfl, hc.symm⟩, hrest⟩

end Fits

section Case

/-- A character is its own lower case, or a capital with a small letter as its lower case. -/
theorem toLower_cases (c : Char) :
    c.isUpper = false ∧ c.toLower = c ∨
      c.isUpper = true ∧ c.toLower.isUpper = false ∧ c.toLower.isLower = true := by
  delta Char.toLower Char.isUpper Char.isLower
  split
  · grind [UInt32.toNat_add, UInt32.le_iff_toNat_le]
  · grind

theorem toLower_toLower (c : Char) : c.toLower.toLower = c.toLower := by
  rcases toLower_cases c with ⟨-, hself⟩ | ⟨-, hupper, -⟩
  · rw [hself, hself]
  · rcases toLower_cases c.toLower with ⟨-, hself⟩ | ⟨hcapital, -⟩
    · exact hself
    · rw [hupper] at hcapital
      cases hcapital

theorem toLower_eq_iff {c x : Char} (hx : x.isAlpha = false) : c.toLower = x ↔ c = x := by
  rcases toLower_cases c with ⟨-, hself⟩ | ⟨hupper, -, hlower⟩
  · rw [hself]
  · -- a capital and its lower case are both letters, which `x` is not
    constructor
    · rintro rfl
      change (c.toLower.isUpper || c.toLower.isLower) = false at hx
      rw [hlower, Bool.or_true] at hx
      cases hx
    · rintro rfl
      change (c.isUpper || c.isLower) = false at hx
      rw [hupper, Bool.true_or] at hx
      cases hx

theorem isWildcard_toLower (c : Char) : isWildcard c.toLower = isWildcard c := by
  have hany : c.toLower = '%' ↔ c = '%' := toLower_eq_iff (by decide)
  have hone : c.toLower = '_' ↔ c = '_' := toLower_eq_iff (by decide)
  rw [isWildcard, isWildcard, Bool.eq_iff_iff]
  simp only [Bool.or_eq_true, beq_iff_eq, hany, hone]

theorem means_map_toLower_iff {p : Char} {run : List Char} :
    Means p.toLower (run.map Char.toLower) ↔ Means p run := by
  by_cases hany : p = '%'
  · subst hany
    exact ⟨fun _ => .any run, fun _ => .any _⟩
  by_cases hone : p = '_'
  · subst hone
    show Means '_' _ ↔ _
    rw [means_one_iff, means_one_iff]
    constructor
    · rintro ⟨_, heq⟩
      obtain ⟨c, rfl, -⟩ := List.map_eq_singleton_iff.1 heq
      exact ⟨c, rfl⟩
    · rintro ⟨c, rfl⟩
      exact ⟨c.toLower, rfl⟩
  · have hp := isWildcard_eq_false hany hone
    rw [means_self_iff hp, means_self_iff ((isWildcard_toLower p).trans hp),
      toLower_toLower]
    constructor
    · rintro ⟨_, heq, h⟩
      obtain ⟨c, rfl, rfl⟩ := List.map_eq_singleton_iff.1 heq
      exact ⟨c, rfl, by rwa [toLower_toLower] at h⟩
    · rintro ⟨c, rfl, h⟩
      exact ⟨c.toLower, rfl, by rw [h, toLower_toLower]⟩

/-- Small letters change neither the wildcards nor what the other characters stand for. -/
theorem standsFor_map_toLower_iff {pattern cs : List Char} :
    StandsFor (pattern.map Char.toLower) (cs.map Char.toLower) ↔ StandsFor pattern cs := by
  induction pattern generalizing cs with
  | nil => rw [List.map_nil, StandsFor, StandsFor, List.map_eq_nil_iff]
  | cons p pattern ih =>
      rw [List.map_cons, StandsFor, StandsFor]
      constructor
      · rintro ⟨_, _, heq, hp, h⟩
        obtain ⟨run, rest, rfl, rfl, rfl⟩ := List.map_eq_append_iff.1 heq
        exact ⟨run, rest, rfl, means_map_toLower_iff.1 hp, ih.1 h⟩
      · rintro ⟨run, rest, rfl, hp, h⟩
        exact ⟨_, _, List.map_append, means_map_toLower_iff.2 hp, ih.2 h⟩

theorem patternChars_lowerAscii (s : String) :
    patternChars (lowerAscii s) = (patternChars s).map Char.toLower := by
  have hnull : ((· != '\x00') ∘ Char.toLower : Char → Bool) = (· != '\x00') := by
    funext c
    have hlower : c.toLower = '\x00' ↔ c = '\x00' := toLower_eq_iff (by decide)
    rw [Function.comp_apply, Bool.eq_iff_iff, bne_iff_ne, bne_iff_ne, ne_eq, ne_eq, hlower]
  rw [patternChars, lowerAscii, String.toList_ofList, List.takeWhile_map, hnull]
  rfl

theorem like_lowerAscii (pattern s : String) :
    like (lowerAscii pattern) (lowerAscii s) = like pattern s := by
  rw [like, patternChars_lowerAscii, patternChars_lowerAscii, Bool.eq_iff_iff,
    fits_iff_standsFor, standsFor_map_toLower_iff, ← fits_iff_standsFor]
  rfl

end Case

/-- Where a text is looked for: whether others may stand before it and behind it. -/
structure Span where
  before : Bool
  behind : Bool

theorem patternChars_eq_toList {s : String} (hs : '\x00' ∉ s.toList) :
    patternChars s = s.toList := by
  rw [patternChars, List.takeWhile_eq_self_iff]
  exact fun c hc => bne_iff_ne.2 fun h => hs (h ▸ hc)

namespace Span

/-- The pattern by which a text is looked for. -/
def pattern (span : Span) (s : String) : String :=
  (if span.before then "%" else "") ++ s ++ (if span.behind then "%" else "")

/-- Whether some characters are of a kind, but for those that may stand before or behind them. -/
def Within (span : Span) (P : List Char → Prop) (cs : List Char) : Prop :=
  ∃ front middle back, cs = front ++ middle ++ back ∧ P middle ∧
    (span.before = false → front = []) ∧ (span.behind = false → back = [])

/-- Whether a text holds what another one stands for as a pattern, up to a null character. -/
def Finds (span : Span) (s t : String) : Prop :=
  span.Within (StandsFor s.toList) (patternChars t)

/-- Whether a text holds another one, small and capital ASCII letters being the same. -/
def Holds (span : Span) (s t : String) : Prop :=
  span.Within (fun middle => middle.map Char.toLower = s.toList.map Char.toLower) t.toList

theorem standsFor_percent_iff {wild : Bool} {cs : List Char} :
    StandsFor (if wild then "%" else "").toList cs ↔ (wild = false → cs = []) := by
  cases wild with
  | false => simp [StandsFor]
  | true =>
      refine ⟨fun _ hfalse => (nomatch hfalse), fun _ => ?_⟩
      exact ⟨cs, [], (List.append_nil cs).symm, .any cs, rfl⟩

/-- A text that is put between percent signs is looked for as what it stands for itself. -/
theorem like_pattern_iff (span : Span) {s : String} (hs : '\x00' ∉ s.toList) (t : String) :
    like (span.pattern s) t = true ↔ span.Finds s t := by
  have hpercent : ∀ wild : Bool, '\x00' ∉ (if wild then "%" else "").toList := by decide
  have hpattern : '\x00' ∉ (span.pattern s).toList := by
    rw [pattern, String.toList_append, String.toList_append, List.mem_append, List.mem_append]
    rintro ((h | h) | h)
    · exact hpercent _ h
    · exact hs h
    · exact hpercent _ h
  rw [like, fits_iff_standsFor, patternChars_eq_toList hpattern, pattern, String.toList_append,
    String.toList_append]
  simp only [standsFor_append_iff, standsFor_percent_iff]
  constructor
  · rintro ⟨_, back, heq, ⟨front, middle, rfl, hfront, hmiddle⟩, hback⟩
    exact ⟨front, middle, back, heq, hmiddle, hfront, hback⟩
  · rintro ⟨front, middle, back, heq, hmiddle, hfront, hback⟩
    exact ⟨front ++ middle, back, heq, ⟨front, middle, rfl, hfront, hmiddle⟩, hback⟩

/-- A letter in the place of a wildcard. -/
def filled (c : Char) : Char := if isWildcard c then 'x' else c

theorem standsFor_filled (s : List Char) : StandsFor s (s.map filled) := by
  induction s with
  | nil => rfl
  | cons c s ih =>
      refine ⟨[filled c], s.map filled, rfl, ?_, ih⟩
      by_cases hany : c = '%'
      · subst hany
        exact .any _
      by_cases hone : c = '_'
      · subst hone
        exact .one _
      · have hc := isWildcard_eq_false hany hone
        rw [filled, hc]
        exact .self hc rfl

/-- A text with letters in the place of its wildcards does not hold the text itself. -/
theorem not_holds_filled (span : Span) {s : String} {c : Char} (hc : c ∈ s.toList)
    (hwild : isWildcard c = true) : ¬ span.Holds s (String.ofList (s.toList.map filled)) := by
  rintro ⟨front, middle, back, heq, hmiddle, -, -⟩
  rw [String.toList_ofList] at heq
  have hlength := congrArg List.length heq
  have hlengths := congrArg List.length hmiddle
  simp only [List.length_append, List.length_map] at hlength hlengths
  obtain rfl : front = [] := List.length_eq_zero_iff.1 (by omega)
  obtain rfl : back = [] := List.length_eq_zero_iff.1 (by omega)
  rw [List.nil_append, List.append_nil] at heq
  rw [← heq, List.map_map, List.map_inj_left] at hmiddle
  have hlower := hmiddle c hc
  rw [Function.comp_apply, filled, if_pos hwild] at hlower
  have hkept := isWildcard_toLower c
  rw [← hlower, hwild] at hkept
  exact absurd hkept (by decide)

/-- Texts are looked for literally exactly if they hold no wildcard. -/
theorem forall_finds_iff_holds_iff (span : Span) {s : String} (hs : '\x00' ∉ s.toList) :
    (∀ t : String, '\x00' ∉ t.toList → (span.Finds s t ↔ span.Holds s t)) ↔
      ∀ c ∈ s.toList, isWildcard c = false := by
  constructor
  · intro h c hc
    by_contra hwild
    rw [Bool.not_eq_false] at hwild
    have hnull : '\x00' ∉ (String.ofList (s.toList.map filled)).toList := by
      rw [String.toList_ofList]
      intro hmem
      obtain ⟨d, hd, hfilled⟩ := List.mem_map.1 hmem
      unfold filled at hfilled
      split at hfilled
      · exact absurd hfilled (by decide)
      · exact hs (hfilled ▸ hd)
    refine not_holds_filled span hc hwild ((h _ hnull).1 ⟨[], s.toList.map filled, [], ?_,
      standsFor_filled s.toList, fun _ => rfl, fun _ => rfl⟩)
    rw [patternChars_eq_toList hnull, String.toList_ofList, List.nil_append, List.append_nil]
  · intro h t ht
    rw [Finds, Holds, patternChars_eq_toList ht]
    simp only [Within, standsFor_iff_map_eq h]

end Span

end AdminGrid.Store

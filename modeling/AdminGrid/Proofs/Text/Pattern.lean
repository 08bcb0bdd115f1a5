import AdminGrid.Text.Pattern
import Mathlib.Data.List.Basic

/-!
# Where patterns occur

A pattern that occurs in a text occurs in every longer one, as long as it does not ask for the end
of a line.  What it asks of single characters is met by characters of the text, so a text in which
one of them is missing does not hold the pattern.
-/

namespace AdminGrid.Text

section Longer

variable {caseless : Bool} {cs more : List Char}

theorem dropText?_append {head rest : List Char} (h : dropText? caseless head cs = some rest) :
    dropText? caseless head (cs ++ more) = some (rest ++ more) := by
  induction head generalizing cs with
  | nil =>
      cases h
      rfl
  | cons p ps ih =>
      cases cs with
      | nil => cases h
      | cons c cs =>
          rw [List.cons_append, dropText?]
          rw [dropText?] at h
          split at h
          · rename_i hsame
            rw [if_pos hsame]
            exact ih h
          · cases h

theorem mem_runRests_self (cls : CharClass) (cs : List Char) : cs ∈ runRests cls cs := by
  cases cs <;> exact List.mem_cons_self

theorem mem_runRests_append {cls : CharClass} {rest : List Char} (h : rest ∈ runRests cls cs) :
    rest ++ more ∈ runRests cls (cs ++ more) := by
  induction cs with
  | nil =>
      obtain rfl := List.mem_singleton.1 h
      exact mem_runRests_self cls more
  | cons c cs ih =>
      rw [List.cons_append, runRests]
      rcases List.mem_cons.1 h with rfl | h
      · exact List.mem_cons_self
      · refine List.mem_cons_of_mem _ ?_
        split at h
        · rename_i hhas
          rw [if_pos hhas]
          exact ih h
        · cases h

theorem mem_oneRest_append {cls : CharClass} {rest : List Char} (h : rest ∈ oneRest cls cs) :
    rest ++ more ∈ oneRest cls (cs ++ more) := by
  cases cs with
  | nil => cases h
  | cons c cs =>
      rw [oneRest] at h
      rw [List.cons_append, oneRest]
      split at h
      · rename_i hhas
        obtain rfl := List.mem_singleton.1 h
        rw [if_pos hhas]
        exact List.mem_cons_self
      · cases h

/-- Whether a piece asks for no line end. -/
def Piece.isOpen : Piece → Bool
  | lineEnd => false
  | _ => true

theorem Piece.mem_rests_append {p : Piece} (hp : p.isOpen = true) {rest : List Char}
    (h : rest ∈ p.rests caseless cs) : rest ++ more ∈ p.rests caseless (cs ++ more) := by
  cases p with
  | text s => exact Option.mem_toList.2 (dropText?_append (Option.mem_toList.1 h))
  | oneOf texts =>
      obtain ⟨s, hs, hrest⟩ := List.mem_flatMap.1 h
      exact List.mem_flatMap.2
        ⟨s, hs, Option.mem_toList.2 (dropText?_append (Option.mem_toList.1 hrest))⟩
  | one cls => exact mem_oneRest_append h
  | run cls => exact mem_runRests_append h
  | some cls =>
      obtain ⟨next, hnext, hrest⟩ := List.mem_flatMap.1 h
      exact List.mem_flatMap.2 ⟨next ++ more, mem_oneRest_append hnext, mem_runRests_append hrest⟩
  | lineEnd => cases hp

theorem fitPieces_append {pieces : List Piece} (hopen : ∀ p ∈ pieces, p.isOpen = true)
    (h : fitPieces caseless pieces cs = true) : fitPieces caseless pieces (cs ++ more) = true := by
  induction pieces generalizing cs with
  | nil => rfl
  | cons p ps ih =>
      rw [List.forall_mem_cons] at hopen
      obtain ⟨rest, hrest, hfit⟩ := List.any_eq_true.1 h
      exact List.any_eq_true.2
        ⟨rest ++ more, Piece.mem_rests_append hopen.1 hrest, ih hopen.2 hfit⟩

end Longer

section Somewhere

variable {caseless : Bool} {pieces : List Piece}

/-- Pieces that fit somewhere in a list fit at the front of one of its ends. -/
theorem occurPieces_iff {cs : List Char} :
    occurPieces caseless pieces cs = true ↔
      ∃ front back, cs = front ++ back ∧ fitPieces caseless pieces back = true := by
  induction cs with
  | nil =>
      constructor
      · exact fun h => ⟨[], [], rfl, h⟩
      · rintro ⟨front, back, hcs, hfit⟩
        obtain ⟨rfl, rfl⟩ := List.append_eq_nil_iff.1 hcs.symm
        exact hfit
  | cons c cs ih =>
      rw [occurPieces, Bool.or_eq_true, ih]
      constructor
      · rintro (hfit | ⟨front, back, rfl, hfit⟩)
        · exact ⟨[], c :: cs, rfl, hfit⟩
        · exact ⟨c :: front, back, rfl, hfit⟩
      · rintro ⟨front, back, hcs, hfit⟩
        cases front with
        | nil => exact Or.inl (hcs ▸ hfit)
        | cons d front =>
            obtain ⟨rfl, rfl⟩ := List.cons.inj hcs
            exact Or.inr ⟨front, back, rfl, hfit⟩

end Somewhere

section Needs

variable {caseless : Bool}

/-- Whether a piece gets the characters that it asks for out of a list. -/
def Piece.Meets (caseless : Bool) (cs : List Char) : Piece → Prop
  | text s => ∀ p ∈ s.toList, ∃ c ∈ cs, sameLetter caseless p c = true
  | one cls | some cls => ∃ c ∈ cs, cls.has c = true
  | _ => True

theorem Piece.Meets.mono {cs more : List Char} (hsub : cs ⊆ more) {p : Piece}
    (h : p.Meets caseless cs) : p.Meets caseless more := by
  cases p with
  | text s =>
      intro q hq
      obtain ⟨c, hc, hsame⟩ := h q hq
      exact ⟨c, hsub hc, hsame⟩
  | one cls | some cls =>
      obtain ⟨c, hc, hhas⟩ := h
      exact ⟨c, hsub hc, hhas⟩
  | _ => trivial

theorem meets_of_dropText? {head cs rest : List Char} (h : dropText? caseless head cs = some rest) :
    (∀ p ∈ head, ∃ c ∈ cs, sameLetter caseless p c = true) ∧ rest ⊆ cs := by
  induction head generalizing cs with
  | nil =>
      cases h
      exact ⟨fun p hp => (List.not_mem_nil hp).elim, List.Subset.refl _⟩
  | cons p ps ih =>
      cases cs with
      | nil => cases h
      | cons c cs =>
          rw [dropText?] at h
          split at h
          · rename_i hsame
            obtain ⟨hmeets, hrest⟩ := ih h
            refine ⟨List.forall_mem_cons.2 ⟨⟨c, List.mem_cons_self, hsame⟩, fun q hq => ?_⟩,
              List.Subset.trans hrest (List.subset_cons_self c cs)⟩
            obtain ⟨d, hd, hq⟩ := hmeets q hq
            exact ⟨d, List.mem_cons_of_mem c hd, hq⟩
          · cases h

theorem subset_of_mem_runRests {cls : CharClass} {cs rest : List Char}
    (h : rest ∈ runRests cls cs) : rest ⊆ cs := by
  induction cs with
  | nil =>
      obtain rfl := List.mem_singleton.1 h
      exact List.Subset.refl _
  | cons c cs ih =>
      rcases List.mem_cons.1 h with rfl | h
      · exact List.Subset.refl _
      · split at h
        · exact List.Subset.trans (ih h) (List.subset_cons_self c cs)
        · cases h

theorem meets_of_mem_oneRest {cls : CharClass} {cs rest : List Char} (h : rest ∈ oneRest cls cs) :
    (∃ c ∈ cs, cls.has c = true) ∧ rest ⊆ cs := by
  cases cs with
  | nil => cases h
  | cons c cs =>
      rw [oneRest] at h
      split at h
      · rename_i hhas
        obtain rfl := List.mem_singleton.1 h
        exact ⟨⟨c, List.mem_cons_self, hhas⟩, List.subset_cons_self c rest⟩
      · cases h

theorem Piece.meets_of_mem_rests {p : Piece} {cs rest : List Char}
    (h : rest ∈ p.rests caseless cs) : p.Meets caseless cs ∧ rest ⊆ cs := by
  cases p with
  | text s => exact meets_of_dropText? (Option.mem_toList.1 h)
  | oneOf texts =>
      obtain ⟨s, -, hrest⟩ := List.mem_flatMap.1 h
      exact ⟨trivial, (meets_of_dropText? (Option.mem_toList.1 hrest)).2⟩
  | one cls => exact meets_of_mem_oneRest h
  | run cls => exact ⟨trivial, subset_of_mem_runRests h⟩
  | some cls =>
      obtain ⟨next, hnext, hrest⟩ := List.mem_flatMap.1 h
      obtain ⟨hmeets, hsub⟩ := meets_of_mem_oneRest hnext
      exact ⟨hmeets, List.Subset.trans (subset_of_mem_runRests hrest) hsub⟩
  | lineEnd =>
      rw [rests] at h
      split at h
      · obtain rfl := List.mem_singleton.1 h
        exact ⟨trivial, List.Subset.refl _⟩
      · cases h

/-- Each piece of a pattern that fits gets the characters that it asks for. -/
theorem meets_of_fitPieces {pieces : List Piece} {cs : List Char}
    (h : fitPieces caseless pieces cs = true) : ∀ p ∈ pieces, p.Meets caseless cs := by
  induction pieces generalizing cs with
  | nil => exact fun p hp => (List.not_mem_nil hp).elim
  | cons p ps ih =>
      obtain ⟨rest, hrest, hfit⟩ := List.any_eq_true.1 h
      obtain ⟨hmeets, hsub⟩ := Piece.meets_of_mem_rests hrest
      exact List.forall_mem_cons.2 ⟨hmeets, fun q hq => (ih hfit q hq).mono hsub⟩

/-- Each piece of a pattern that occurs in a text gets the characters that it asks for. -/
theorem meets_of_occursIn {p : Pattern} {s : String} (h : p.occursIn s = true) :
    ∀ piece ∈ p.pieces, piece.Meets p.caseless s.toList := by
  obtain ⟨front, back, hs, hfit⟩ := occurPieces_iff.1 h
  rw [hs]
  exact fun piece hpiece =>
    (meets_of_fitPieces hfit piece hpiece).mono (List.subset_append_right front back)

end Needs

end AdminGrid.Text

import AdminGrid.Proofs.Text.Pattern
import Mathlib.Data.List.Forall2

/-!
# What a pattern stands for

The search for a pattern goes through all the rests that its pieces may leave.  What it finds can be
said without the search: a pattern occurs in a text exactly if the text has a part that falls into
one stretch for each piece, and the piece covers its stretch.  Only the end of a line looks at what
is behind its stretch.
-/

namespace AdminGrid.Text

/-- Whether characters read as a text, letter by letter. -/
def Reads (caseless : Bool) (head taken : List Char) : Prop :=
  List.Forall₂ (fun p c => sameLetter caseless p c = true) head taken

/-- Whether a piece covers a stretch of a text that has a rest behind it. -/
def Piece.Covers (caseless : Bool) (taken rest : List Char) : Piece → Prop
  | text s => Reads caseless s.toList taken
  | oneOf texts => ∃ s ∈ texts, Reads caseless s.toList taken
  | one cls => ∃ c, taken = [c] ∧ cls.has c = true
  | run cls => ∀ c ∈ taken, cls.has c = true
  | some cls => taken ≠ [] ∧ ∀ c ∈ taken, cls.has c = true
  | lineEnd => taken = [] ∧ (rest = [] ∨ ∃ more, rest = '\n' :: more)

/-- Pieces that cover, one after the other, the stretches of a part of a text that has a rest behind
it. -/
inductive Covered (caseless : Bool) (rest : List Char) : List Piece → List Char → Prop where
  | nil : Covered caseless rest [] []
  | cons {p : Piece} {ps : List Piece} {taken more : List Char} :
      p.Covers caseless taken (more ++ rest) → Covered caseless rest ps more →
        Covered caseless rest (p :: ps) (taken ++ more)

/-- Whether a text has a part that the pieces of a pattern cover. -/
def Pattern.StandsIn (p : Pattern) (s : String) : Prop :=
  ∃ before found behind,
    s.toList = before ++ found ++ behind ∧ Covered p.caseless behind p.pieces found

section Pieces

variable {caseless : Bool} {cs rest : List Char}

theorem dropText?_eq_some_iff {head : List Char} :
    dropText? caseless head cs = some rest ↔
      ∃ taken, cs = taken ++ rest ∧ Reads caseless head taken := by
  constructor
  · intro h
    induction head generalizing cs with
    | nil =>
        cases h
        exact ⟨[], rfl, .nil⟩
    | cons p ps ih =>
        cases cs with
        | nil => cases h
        | cons c cs =>
            rw [dropText?] at h
            split at h
            · rename_i hsame
              obtain ⟨taken, rfl, hreads⟩ := ih h
              exact ⟨c :: taken, rfl, .cons hsame hreads⟩
            · cases h
  · rintro ⟨taken, rfl, hreads⟩
    induction hreads with
    | nil => rfl
    | cons hsame _ ih => rwa [List.cons_append, dropText?, if_pos hsame]

theorem mem_oneRest_iff {cls : CharClass} :
    rest ∈ oneRest cls cs ↔ ∃ c, cs = c :: rest ∧ cls.has c = true := by
  cases cs with
  | nil => simp [oneRest]
  | cons c cs =>
      rw [oneRest]
      constructor
      · intro h
        split at h
        · rename_i hhas
          exact ⟨c, congrArg (c :: ·) (List.mem_singleton.1 h).symm, hhas⟩
        · cases h
      · rintro ⟨_, hcs, hhas⟩
        obtain ⟨rfl, rfl⟩ := List.cons.inj hcs
        rw [if_pos hhas]
        exact List.mem_cons_self

theorem mem_runRests_iff {cls : CharClass} :
    rest ∈ runRests cls cs ↔ ∃ taken, cs = taken ++ rest ∧ ∀ c ∈ taken, cls.has c = true := by
  constructor
  · intro h
    induction cs with
    | nil => exact ⟨[], (List.mem_singleton.1 h).symm, List.forall_mem_nil _⟩
    | cons c cs ih =>
        rcases List.mem_cons.1 h with rfl | h
        · exact ⟨[], rfl, List.forall_mem_nil _⟩
        · split at h
          · rename_i hhas
            obtain ⟨taken, rfl, hall⟩ := ih h
            exact ⟨c :: taken, rfl, List.forall_mem_cons.2 ⟨hhas, hall⟩⟩
          · cases h
  · rintro ⟨taken, rfl, hall⟩
    induction taken with
    | nil => cases rest <;> exact List.mem_cons_self
    | cons c taken ih =>
        rw [List.forall_mem_cons] at hall
        rw [List.cons_append, runRests, if_pos hall.1]
        exact List.mem_cons_of_mem _ (ih hall.2)

theorem atLineEnd_iff : atLineEnd cs = true ↔ cs = [] ∨ ∃ more, cs = '\n' :: more := by
  cases cs with
  | nil => simp [atLineEnd]
  | cons c cs => simp [atLineEnd]

/-- The rests that a piece leaves are those behind a stretch that it covers. -/
theorem Piece.mem_rests_iff {p : Piece} :
    rest ∈ p.rests caseless cs ↔ ∃ taken, cs = taken ++ rest ∧ p.Covers caseless taken rest := by
  cases p with
  | text s => exact Option.mem_toList.trans dropText?_eq_some_iff
  | oneOf texts =>
      simp only [rests, Covers, List.mem_flatMap, Option.mem_toList,
        dropText?_eq_some_iff]
      constructor
      · rintro ⟨s, hs, taken, hcs, hreads⟩
        exact ⟨taken, hcs, s, hs, hreads⟩
      · rintro ⟨taken, hcs, s, hs, hreads⟩
        exact ⟨s, hs, taken, hcs, hreads⟩
  | one cls =>
      refine mem_oneRest_iff.trans ⟨?_, ?_⟩
      · rintro ⟨c, rfl, hhas⟩
        exact ⟨[c], rfl, c, rfl, hhas⟩
      · rintro ⟨_, rfl, c, rfl, hhas⟩
        exact ⟨c, rfl, hhas⟩
  | run cls => exact mem_runRests_iff
  | some cls =>
      simp only [rests, Covers, List.mem_flatMap, mem_oneRest_iff, mem_runRests_iff]
      constructor
      · rintro ⟨_, ⟨c, rfl, hhas⟩, taken, rfl, hall⟩
        exact ⟨c :: taken, rfl, List.cons_ne_nil c taken, List.forall_mem_cons.2 ⟨hhas, hall⟩⟩
      · rintro ⟨taken, rfl, hne, hall⟩
        obtain ⟨c, taken, rfl⟩ := List.exists_cons_of_ne_nil hne
        rw [List.forall_mem_cons] at hall
        exact ⟨taken ++ rest, ⟨c, rfl, hall.1⟩, taken, rfl, hall.2⟩
  | lineEnd =>
      rw [rests]
      split
      · rename_i hend
        refine List.mem_singleton.trans ⟨?_, ?_⟩
        · rintro rfl
          exact ⟨[], rfl, rfl, atLineEnd_iff.1 hend⟩
        · rintro ⟨_, rfl, rfl, -⟩
          rfl
      · rename_i hend
        refine ⟨fun h => (List.not_mem_nil h).elim, ?_⟩
        rintro ⟨_, rfl, rfl, hrest⟩
        exact absurd (atLineEnd_iff.2 hrest) hend

/-- Pieces fit at the front of a list exactly if they cover some part at its front. -/
theorem fitPieces_iff {pieces : List Piece} :
    fitPieces caseless pieces cs = true ↔
      ∃ found behind, cs = found ++ behind ∧ Covered caseless behind pieces found := by
  induction pieces generalizing cs with
  | nil =>
      exact ⟨fun _ => ⟨[], cs, rfl, .nil⟩, fun _ => rfl⟩
  | cons p ps ih =>
      simp only [fitPieces, List.any_eq_true, Piece.mem_rests_iff, ih]
      constructor
      · rintro ⟨_, ⟨taken, rfl, hcovers⟩, found, behind, rfl, hcovered⟩
        exact ⟨taken ++ found, behind, (List.append_assoc _ _ _).symm, .cons hcovers hcovered⟩
      · rintro ⟨_, behind, rfl, hcovered⟩
        cases hcovered with
        | cons hcovers hcovered =>
            exact ⟨_, ⟨_, List.append_assoc _ _ _, hcovers⟩, _, behind, rfl, hcovered⟩

end Pieces

/-- A pattern is found in a text exactly if it stands in it. -/
theorem Pattern.occursIn_iff {p : Pattern} {s : String} :
    p.occursIn s = true ↔ p.StandsIn s := by
  rw [occursIn, occurPieces_iff]
  simp only [fitPieces_iff]
  constructor
  · rintro ⟨before, _, hs, found, behind, rfl, hcovered⟩
    exact ⟨before, found, behind, by rw [hs, List.append_assoc], hcovered⟩
  · rintro ⟨before, found, behind, hs, hcovered⟩
    exact ⟨before, found ++ behind, by rw [hs, List.append_assoc], found, behind, rfl, hcovered⟩

end AdminGrid.Text

import AdminGrid.Text.Blank
import AdminGrid.Text.Split
import Mathlib.Data.List.Induction
import Mathlib.Data.List.TakeWhile

/-!
# What trimming and cutting leave

Trimming cuts a text into what it drops at the two ends and what it leaves between them.  A text is
also put together again from the parts into which it was cut, at an ending or at the last occurrence
of a mark.
-/

namespace AdminGrid.Text

variable {p : Char → Bool}

theorem dropEndWhile_cons (p : Char → Bool) (c : Char) (cs : List Char) :
    dropEndWhile p (c :: cs) =
      if (dropEndWhile p cs).isEmpty && p c then [] else c :: dropEndWhile p cs := rfl

theorem exists_append_dropEndWhile (p : Char → Bool) (cs : List Char) :
    ∃ back, (∀ c ∈ back, p c = true) ∧ cs = dropEndWhile p cs ++ back := by
  induction cs with
  | nil => exact ⟨[], fun c h => (List.not_mem_nil h).elim, rfl⟩
  | cons c rest ih =>
      obtain ⟨back, hback, hrest⟩ := ih
      rw [dropEndWhile_cons]
      split
      · rename_i hdrop
        rw [Bool.and_eq_true, List.isEmpty_iff] at hdrop
        rw [hdrop.1, List.nil_append] at hrest
        exact ⟨c :: back, List.forall_mem_cons.2 ⟨hdrop.2, hback⟩, by rw [hrest]; rfl⟩
      · exact ⟨back, hback, by rw [List.cons_append, ← hrest]⟩

theorem isPrefix_dropEndWhile (p : Char → Bool) (cs : List Char) : dropEndWhile p cs <+: cs := by
  obtain ⟨back, -, hcs⟩ := exists_append_dropEndWhile p cs
  exact ⟨back, hcs.symm⟩

theorem trimBy_cons_of_not {c : Char} (h : p c = false) (cs : List Char) :
    trimBy p (c :: cs) = c :: dropEndWhile p cs := by
  rw [trimBy, List.dropWhile_cons_of_neg (by simp [h]), dropEndWhile_cons, h, Bool.and_false,
    if_neg Bool.false_ne_true]

/-- A text is what trimming leaves of it, between characters that are dropped. -/
theorem exists_append_trimBy (p : Char → Bool) (cs : List Char) :
    ∃ front back, (∀ c ∈ front, p c = true) ∧ (∀ c ∈ back, p c = true) ∧
      cs = front ++ trimBy p cs ++ back := by
  obtain ⟨back, hback, hrest⟩ := exists_append_dropEndWhile p (cs.dropWhile p)
  refine ⟨cs.takeWhile p, back, fun c hc => List.mem_takeWhile_imp hc, hback, ?_⟩
  rw [trimBy, List.append_assoc, ← hrest, List.takeWhile_append_dropWhile]

/-- Nothing is trimmed where nothing can be dropped. -/
theorem trimBy_eq_self {cs : List Char} (h : ∀ c ∈ cs, p c = false) : trimBy p cs = cs := by
  obtain ⟨front, back, hfront, hback, hcs⟩ := exists_append_trimBy p cs
  have hempty {part : List Char} (hpart : ∀ c ∈ part, p c = true) (hsub : ∀ c ∈ part, c ∈ cs) :
      part = [] := by
    refine List.eq_nil_iff_forall_not_mem.2 fun c hc => ?_
    exact absurd ((h c (hsub c hc)).symm.trans (hpart c hc)) Bool.noConfusion
  have hnofront : front = [] :=
    hempty hfront fun c hc => hcs ▸ List.mem_append_left _ (List.mem_append_left _ hc)
  have hnoback : back = [] := hempty hback fun c hc => hcs ▸ List.mem_append_right _ hc
  rw [hnofront, hnoback, List.nil_append, List.append_nil] at hcs
  exact hcs.symm

theorem dropEndWhile_eq_self {cs : List Char} (h : ∀ c ∈ cs.getLast?, p c = false) :
    dropEndWhile p cs = cs := by
  rcases List.eq_nil_or_concat cs with rfl | ⟨front, c, rfl⟩
  · rfl
  · rw [List.concat_eq_append] at h ⊢
    exact dropEndWhile_append_singleton p front c (h c List.getLast?_concat)

/-- Nothing is trimmed between two characters that are not dropped. -/
theorem trimBy_eq_self_of_ends {cs : List Char} (hhead : ∀ c ∈ cs.head?, p c = false)
    (hlast : ∀ c ∈ cs.getLast?, p c = false) : trimBy p cs = cs := by
  have hstart : cs.dropWhile p = cs := by
    cases cs with
    | nil => rfl
    | cons c cs => exact List.dropWhile_cons_of_neg (by simp [hhead c rfl])
  rw [trimBy, hstart, dropEndWhile_eq_self hlast]

theorem dropEndWhile_dropEndWhile (p : Char → Bool) (cs : List Char) :
    dropEndWhile p (dropEndWhile p cs) = dropEndWhile p cs := by
  induction cs with
  | nil => rfl
  | cons c rest ih =>
      rw [dropEndWhile_cons]
      split
      · rfl
      · rename_i hkept
        rw [dropEndWhile_cons, ih, if_neg hkept]

/-- What was trimmed once is not trimmed again. -/
theorem trimBy_trimBy (p : Char → Bool) (cs : List Char) :
    trimBy p (trimBy p cs) = trimBy p cs := by
  have hstart : (trimBy p cs).dropWhile p = trimBy p cs := by
    have hhead := List.head?_dropWhile_not p cs
    unfold trimBy
    cases hcs : cs.dropWhile p with
    | nil => rfl
    | cons c rest =>
        rw [hcs, List.head?_cons] at hhead
        have hc : p c = false := by simpa using hhead
        rw [dropEndWhile_cons, hc, Bool.and_false, if_neg Bool.false_ne_true,
          List.dropWhile_cons_of_neg (by simp [hc])]
  calc trimBy p (trimBy p cs) = dropEndWhile p (trimBy p cs) := congrArg (dropEndWhile p) hstart
    _ = trimBy p cs := dropEndWhile_dropEndWhile p _

theorem strip_strip (s : String) : strip (strip s) = strip s := by
  rw [strip, strip, String.toList_ofList, trimBy_trimBy]

section Cutting

variable {mark : Char}

theorem dropTail?_eq_some_iff {tail s rest : String} :
    dropTail? tail s = some rest ↔ s = rest ++ tail := by
  rw [dropTail?, Option.map_eq_some_iff]
  simp only [dropHead?_eq_some_iff]
  constructor
  · rintro ⟨cs, hcs, rfl⟩
    refine String.toList_inj.1 ?_
    rw [String.toList_append, String.toList_ofList, ← List.reverse_reverse s.toList, hcs,
      List.reverse_append, List.reverse_reverse]
  · rintro rfl
    refine ⟨rest.toList.reverse, ?_, ?_⟩
    · rw [String.toList_append, List.reverse_append]
    · rw [List.reverse_reverse, String.ofList_toList]

theorem cutLastList?_of_not_mem {cs : List Char} (h : mark ∉ cs) : cutLastList? mark cs = none := by
  induction cs with
  | nil => rfl
  | cons c rest ih =>
      rw [List.mem_cons, not_or] at h
      rw [cutLastList?, ih h.2]
      exact if_neg (Ne.symm h.1)

theorem cutLastList?_append {after : List Char} (h : mark ∉ after) (before : List Char) :
    cutLastList? mark (before ++ mark :: after) = some (before, after) := by
  induction before with
  | nil =>
      rw [List.nil_append, cutLastList?, cutLastList?_of_not_mem h]
      exact if_pos rfl
  | cons c rest ih => rw [List.cons_append, cutLastList?, ih]

theorem cutLast?_append {s : String} {before after : List Char} (h : mark ∉ after)
    (hs : s.toList = before ++ mark :: after) :
    cutLast? mark s = some (String.ofList before, String.ofList after) := by
  rw [cutLast?, hs, cutLastList?_append h]
  rfl

theorem append_of_cutLastList? {cs before after : List Char}
    (h : cutLastList? mark cs = some (before, after)) : cs = before ++ mark :: after := by
  induction cs generalizing before with
  | nil => cases h
  | cons c rest ih =>
      rw [cutLastList?] at h
      cases hrest : cutLastList? mark rest with
      | some parts =>
          rw [hrest, Option.some_inj, Prod.mk.injEq] at h
          obtain ⟨rfl, rfl⟩ := h
          rw [ih hrest, List.cons_append]
      | none =>
          obtain ⟨hc, hparts⟩ : c = mark ∧ ([], rest) = (before, after) := by simpa [hrest] using h
          obtain ⟨rfl, rfl⟩ := Prod.mk.inj hparts
          rw [hc, List.nil_append]

theorem append_of_cutLast? {s before after : String} (h : cutLast? mark s = some (before, after)) :
    s.toList = before.toList ++ mark :: after.toList := by
  rw [cutLast?, Option.map_eq_some_iff] at h
  obtain ⟨parts, hparts, heq⟩ := h
  obtain ⟨rfl, rfl⟩ := Prod.mk.inj heq
  rw [append_of_cutLastList? hparts, String.toList_ofList, String.toList_ofList]

theorem not_of_getLast?_dropEndWhile {p : Char → Bool} {cs : List Char} {c : Char}
    (h : (dropEndWhile p cs).getLast? = some c) : p c = false := by
  induction cs using List.reverseRecOn with
  | nil => cases h
  | append_singleton cs d ih =>
      cases hd : p d with
      | true =>
          rw [dropEndWhile_append_singleton_of_mem p cs d hd] at h
          exact ih h
      | false =>
          rw [dropEndWhile_append_singleton p cs d hd, List.getLast?_concat, Option.some_inj] at h
          rwa [← h]

/-- What trimming leaves does not start with a character that is dropped. -/
theorem not_of_head?_trimBy {p : Char → Bool} {cs : List Char} {c : Char}
    (h : (trimBy p cs).head? = some c) : p c = false := by
  have hhead := List.head?_dropWhile_not p cs
  unfold trimBy at h
  cases hcs : cs.dropWhile p with
  | nil =>
      rw [hcs] at h
      cases h
  | cons d rest =>
      rw [hcs] at h hhead
      have hd : p d = false := by simpa using hhead
      rw [dropEndWhile_cons, hd, Bool.and_false, if_neg Bool.false_ne_true, List.head?_cons,
        Option.some_inj] at h
      rwa [← h]

/-- What trimming leaves does not end with a character that is dropped. -/
theorem not_of_getLast?_trimBy {p : Char → Bool} {cs : List Char} {c : Char}
    (h : (trimBy p cs).getLast? = some c) : p c = false :=
  not_of_getLast?_dropEndWhile h

/-- Dropping the marks at the end leaves what has no mark there and misses nothing else. -/
theorem dropEndWhile_eq_iff {cs rest : List Char} :
    dropEndWhile (· == mark) cs = rest ↔
      rest.getLast? ≠ some mark ∧ ∃ n, cs = rest ++ List.replicate n mark := by
  constructor
  · rintro rfl
    obtain ⟨back, hback, hcs⟩ := exists_append_dropEndWhile (· == mark) cs
    have hmarks : back = List.replicate back.length mark :=
      List.eq_replicate_iff.2 ⟨rfl, fun c hc => beq_iff_eq.1 (hback c hc)⟩
    refine ⟨fun hlast => ?_, back.length, hmarks ▸ hcs⟩
    simpa using not_of_getLast?_dropEndWhile hlast
  · rintro ⟨hlast, n, rfl⟩
    induction n with
    | zero =>
        rw [List.replicate_zero, List.append_nil]
        rcases List.eq_nil_or_concat rest with rfl | ⟨front, c, rfl⟩
        · rfl
        · rw [List.concat_eq_append, List.getLast?_concat, ne_eq, Option.some_inj] at hlast
          rw [List.concat_eq_append]
          exact dropEndWhile_append_singleton _ front c (beq_false_of_ne hlast)
    | succ n ih =>
        rw [List.replicate_succ', ← List.append_assoc]
        rw [dropEndWhile_append_singleton_of_mem (· == mark) _ mark (beq_self_eq_true mark), ih]

theorem stripEnd_eq_iff {s rest : String} :
    stripEnd mark s = rest ↔
      rest.toList.getLast? ≠ some mark ∧ ∃ n, s.toList = rest.toList ++ List.replicate n mark := by
  rw [stripEnd, ← String.toList_inj, String.toList_ofList, dropEndWhile_eq_iff]

end Cutting

end AdminGrid.Text

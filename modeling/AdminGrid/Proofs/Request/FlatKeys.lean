import AdminGrid.Proofs.Number.Reading
import AdminGrid.Proofs.Request.ColumnKeys
import Mathlib.Data.Nat.Digits.Defs

/-!
# Writing and reading flat keys

A flat key is written from a head and the steps behind it, each in square brackets.  As long as no
bracket stands in the head or in a step, the key tells them all, and the key of an attribute of a
column is read back as what it was written from.
-/

namespace AdminGrid.Request

section Digits

variable {i j : Nat}

theorem toList_toString (i : Nat) : (toString i).toList = Nat.toDigits 10 i := by
  rw [Nat.toString_eq_ofList_toDigits, String.toList_ofList]

theorem index_inj (h : toString i = toString j) : i = j := by
  have hdigits : Nat.toDigits 10 i = Nat.toDigits 10 j := by
    rw [← toList_toString, h, toList_toString]
  calc i = Nat.ofDigitChars 10 (Nat.toDigits 10 i) 0 := Nat.ofDigitChars_ten_toDigits.symm
    _ = Nat.ofDigitChars 10 (Nat.toDigits 10 j) 0 := by rw [hdigits]
    _ = j := Nat.ofDigitChars_ten_toDigits

theorem isDigit_of_mem_toString {c : Char} (h : c ∈ (toString i).toList) : c.isDigit = true := by
  rw [toList_toString] at h
  exact Nat.isDigit_of_mem_toDigits (by decide) (by decide) h

theorem not_mem_toString {c : Char} (h : c.isDigit = false) : c ∉ (toString i).toList :=
  fun hmem => Bool.noConfusion ((isDigit_of_mem_toString hmem).symm.trans h)

theorem isDecimal_of_isDigit {c : Char} (h : c.isDigit = true) : Text.isDecimal c = true := by
  obtain ⟨hlow, hhigh⟩ := Reading.toNat_of_isDigit h
  have hzero : (48 ≤ c.toNat && c.toNat < 48 + 10) = true := by
    simp only [Bool.and_eq_true, decide_eq_true_eq]
    omega
  unfold Text.isDecimal Text.digitValue?
  rw [Option.isSome_map, List.find?_isSome]
  exact ⟨48, List.mem_cons_self, hzero⟩

theorem textIsDigit_of_isDigit {c : Char} (h : c.isDigit = true) : Text.isDigit c = true := by
  rw [Text.isDigit, isDecimal_of_isDigit h]
  rfl

/-- An index is read back from its digits, unless there are more of them than are read. -/
theorem int?_index (h : i < tenTo Reading.maxDigits) :
    Reading.int? (toString i) = some (i : Int) :=
  (Reading.int?_toString i).trans (if_neg (Nat.not_lt.2 (Reading.length_toDigits_le (by decide) h)))

theorem strip_index (i : Nat) : Text.strip (toString i) = toString i := by
  have hblank (c : Char) (hc : c ∈ (toString i).toList) : Text.isBlank c = false :=
    Reading.isBlank_of_isDigit (textIsDigit_of_isDigit (isDigit_of_mem_toString hc))
  rw [Text.strip, Text.trimBy_eq_self hblank, String.ofList_toList]

theorem toInt_index (h : i < tenTo Reading.maxDigits) (default : Int) :
    toInt (.text (toString i)) default = i := by
  show (Reading.int? (Text.strip (toString i))).getD default = i
  rw [strip_index, int?_index h]
  rfl

end Digits

section Keys

/-- A list is cut at the first mark in one way only. -/
theorem append_mark_inj {mark : Char} {xs ys s t : List Char} (hxs : mark ∉ xs) (hys : mark ∉ ys)
    (h : xs ++ mark :: s = ys ++ mark :: t) : xs = ys ∧ s = t := by
  induction xs generalizing ys with
  | nil =>
      cases ys with
      | nil => exact ⟨rfl, (List.cons.inj h).2⟩
      | cons y ys => exact absurd ((List.cons.inj h).1 ▸ List.mem_cons_self) hys
  | cons x xs ih =>
      cases ys with
      | nil => exact absurd ((List.cons.inj h).1 ▸ List.mem_cons_self) hxs
      | cons y ys =>
          obtain ⟨rfl, hrest⟩ := List.cons.inj h
          rw [List.mem_cons, not_or] at hxs hys
          obtain ⟨rfl, htail⟩ := ih hxs.2 hys.2 hrest
          exact ⟨rfl, htail⟩

theorem toList_flatKey (head : String) (path : List Step) :
    (flatKey head path).toList =
      head.toList ++ path.flatMap fun step => '[' :: ((stepText step).toList ++ [']']) := by
  simp only [flatKey, String.toList_append, String.toList_join, List.flatMap_map, List.append_assoc]
  rfl

/-- Steps without a closing bracket in them are told by what is written of them. -/
theorem map_stepText_inj {path path' : List Step}
    (h : ∀ step ∈ path, ']' ∉ (stepText step).toList)
    (h' : ∀ step ∈ path', ']' ∉ (stepText step).toList)
    (heq : path.flatMap (fun step => '[' :: ((stepText step).toList ++ [']'])) =
      path'.flatMap fun step => '[' :: ((stepText step).toList ++ [']'])) :
    path.map stepText = path'.map stepText := by
  induction path generalizing path' with
  | nil =>
      cases path' with
      | nil => rfl
      | cons step' rest' => simp at heq
  | cons step rest ih =>
      cases path' with
      | nil => simp at heq
      | cons step' rest' =>
          rw [List.forall_mem_cons] at h h'
          simp only [List.flatMap_cons, List.cons_append, List.append_assoc, List.cons.injEq,
            true_and, List.nil_append] at heq
          obtain ⟨hstep, hrest⟩ := append_mark_inj h.1 h'.1 heq
          rw [List.map_cons, List.map_cons, String.toList_inj.1 hstep, ih h.2 h'.2 hrest]

/-- A flat key tells its head and its steps, if no bracket stands in them. -/
theorem flatKey_inj {head head' : String} {path path' : List Step} (hhead : '[' ∉ head.toList)
    (hhead' : '[' ∉ head'.toList) (h : ∀ step ∈ path, ']' ∉ (stepText step).toList)
    (h' : ∀ step ∈ path', ']' ∉ (stepText step).toList)
    (heq : flatKey head path = flatKey head' path') :
    head = head' ∧ path.map stepText = path'.map stepText := by
  rw [← String.toList_inj, toList_flatKey, toList_flatKey] at heq
  -- a head ends where the first bracket opens
  cases path with
  | nil =>
      cases path' with
      | nil => exact ⟨String.toList_inj.1 (by simpa using heq), rfl⟩
      | cons step' rest' =>
          rw [List.flatMap_nil, List.append_nil] at heq
          exact absurd (heq ▸ List.mem_append_right _ List.mem_cons_self) hhead
  | cons step rest =>
      cases path' with
      | nil =>
          rw [List.flatMap_nil, List.append_nil] at heq
          exact absurd (heq ▸ List.mem_append_right _ List.mem_cons_self) hhead'
      | cons step' rest' =>
          obtain ⟨hsame, hsteps⟩ := append_mark_inj hhead hhead' heq
          exact ⟨String.toList_inj.1 hsame,
            map_stepText_inj h h' (congrArg (List.cons '[') hsteps)⟩

/-- A word in brackets is read up to the closing one. -/
theorem bracketed?_append {inside : Char → Bool} {word : List Char} (rest : List Char)
    (hword : ∀ c ∈ word, inside c = true) (hne : word ≠ []) (hclose : inside ']' = false) :
    bracketed? inside ('[' :: (word ++ ']' :: rest)) = some (word, rest) := by
  have htake : (word ++ ']' :: rest).takeWhile inside = word := by
    rw [List.takeWhile_append_of_pos hword, List.takeWhile_cons_of_neg (by simp [hclose]),
      List.append_nil]
  have hdrop : (word ++ ']' :: rest).dropWhile inside = ']' :: rest := by
    rw [List.dropWhile_append_of_pos hword, List.dropWhile_cons_of_neg (by simp [hclose])]
  have hempty : word.isEmpty = false := by simpa using hne
  simp only [bracketed?, htake, hdrop, hempty, Bool.false_eq_true, if_false]

theorem bracketed?_index (i : Nat) (rest : List Char) :
    bracketed? Text.isDecimal ('[' :: ((toString i).toList ++ ']' :: rest)) =
      some ((toString i).toList, rest) := by
  refine bracketed?_append rest
    (fun c hc => isDecimal_of_isDigit (isDigit_of_mem_toString hc)) ?_ (by decide)
  rw [toList_toString]
  exact Nat.toDigits_ne_nil

/-- A key that does not start with the word for columns is no key of a column. -/
theorem columnKey?_of_head {key : String}
    (h : Text.dropHead? "columns".toList key.toList = none) : columnKey? key = none := by
  unfold columnKey?
  rw [h]
  rfl

/-- The key of an attribute of a column is read back. -/
theorem columnKey?_attribute (i : Nat) {name : String}
    (hname : name.toList.all Text.isWord = true) (hne : name.toList ≠ []) :
    columnKey? (flatKey "columns" [.index i, .name name]) =
      some ⟨(toString i).toList, name, none⟩ := by
  have hkey : (flatKey "columns" [.index i, .name name]).toList = "columns".toList ++
      '[' :: ((toString i).toList ++ ']' :: '[' :: (name.toList ++ ']' :: [])) := by
    rw [toList_flatKey]
    simp [stepText]
  have hword := bracketed?_append [] (List.all_eq_true.1 hname) hne (by decide)
  unfold columnKey?
  rw [hkey, Text.dropHead?_eq_some_iff.2 rfl]
  simp only [Option.bind_eq_bind, Option.bind_some, bracketed?_index, hword, atEnd,
    String.ofList_toList]
  rfl

/-- The key of a part of an attribute of a column is read back. -/
theorem columnKey?_part (i : Nat) {name part : String}
    (hname : name.toList.all Text.isWord = true) (hne : name.toList ≠ [])
    (hpart : part.toList.all Text.isWord = true) (hpartne : part.toList ≠ []) :
    columnKey? (flatKey "columns" [.index i, .name name, .name part]) =
      some ⟨(toString i).toList, name, some part⟩ := by
  have hkey : (flatKey "columns" [.index i, .name name, .name part]).toList = "columns".toList ++
      '[' :: ((toString i).toList ++
        ']' :: '[' :: (name.toList ++ ']' :: '[' :: (part.toList ++ ']' :: []))) := by
    rw [toList_flatKey]
    simp [stepText]
  have hword := bracketed?_append ('[' :: (part.toList ++ ']' :: [])) (List.all_eq_true.1 hname)
    hne (by decide)
  have hlast := bracketed?_append [] (List.all_eq_true.1 hpart) hpartne (by decide)
  unfold columnKey?
  rw [hkey, Text.dropHead?_eq_some_iff.2 rfl]
  simp only [Option.bind_eq_bind, Option.bind_some, bracketed?_index, hword, hlast, atEnd,
    String.ofList_toList]
  rfl

end Keys

end AdminGrid.Request

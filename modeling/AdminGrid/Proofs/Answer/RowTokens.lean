import AdminGrid.Proofs.Cell.Range
import AdminGrid.Proofs.Number.Reading

/-!
# Row tokens

A token is made of a whole number that is moved by an offset, and of any other text as it stands.
Where the moved number has too many digits the id is written as it is, so the token stands for a
number that is smaller by the offset.  But for these ids tokens lead back to their ids, and two ids
have two tokens.
-/

namespace AdminGrid.Answer

open Reading (maxDigits)

/-- Whether an id is a whole number or a text that denotes none. -/
def IsRowId : Value → Prop
  | .int _ => True
  | .text s => Reading.int? s = none
  | _ => False

/-- The number that a token shows for a whole number: the moved one, the number itself where that
has too many digits, and none where the number has too many as well. -/
def shownNumber? (n : Int) : Option Int :=
  if (n + tokenOffset).natAbs < tenTo maxDigits then some (n + tokenOffset)
  else if n.natAbs < tenTo maxDigits then some n else none

section Tokens

variable {n k : Int}

theorem shownNumber?_eq_some_iff : shownNumber? n = some k ↔
    k.natAbs < tenTo maxDigits ∧
      (k = n + tokenOffset ∨ k = n ∧ (tenTo maxDigits : Int) ≤ n + tokenOffset) := by
  have hoffset : tokenOffset = 80 := rfl
  unfold shownNumber?
  split
  · rw [Option.some.injEq]
    omega
  · split
    · rw [Option.some.injEq]
      omega
    · rename_i hmoved hself
      refine iff_of_false (fun h => nomatch h) ?_
      rintro ⟨hk, rfl | ⟨rfl, -⟩⟩
      · exact hmoved hk
      · exact hself hk

theorem integerText?_of_lt (hk : k.natAbs < tenTo maxDigits) : integerText? k = some (toString k) :=
  if_pos hk

theorem integerText?_of_not_lt (hk : ¬ k.natAbs < tenTo maxDigits) : integerText? k = none :=
  if_neg hk

theorem written_int (n : Int) : (Value.int n).written =
    if (integerText? n).isSome then .ok (toString n) else .error .badValue := rfl

theorem encodeId_int (n : Int) : encodeId (.int n) = match shownNumber? n with
    | some k => .ok (some (toString k ++ tokenMark))
    | none => .error .badValue := by
  rw [encodeId_of_whole? rfl rfl, Option.map_some, Option.bind_some, shownNumber?]
  by_cases hmoved : (n + tokenOffset).natAbs < tenTo maxDigits
  · rw [if_pos hmoved, integerText?_of_lt hmoved]
  · rw [if_neg hmoved, integerText?_of_not_lt hmoved, written_int]
    by_cases hself : n.natAbs < tenTo maxDigits
    · rw [if_pos hself, integerText?_of_lt hself]
      rfl
    · rw [if_neg hself, integerText?_of_not_lt hself]
      rfl

theorem encodeId_text {s : String} (hs : s ≠ "") : encodeId (.text s) =
    match ((Reading.int? s).map (· + tokenOffset)).bind integerText? with
    | some moved => .ok (some (moved ++ tokenMark))
    | none => .ok (some (s ++ tokenMark)) := by
  have hblank : (Value.text s).isBlank = false := beq_false_of_ne hs
  rw [encodeId_of_whole? hblank rfl]
  rfl

theorem decodeId_append (id : String) :
    decodeId (id ++ tokenMark) = (Reading.int? id).map (· - tokenOffset) := by
  rw [decodeId, Text.dropTail?_eq_some_iff.2 rfl, Option.bind_some]

theorem decodeId_toString (hk : k.natAbs < tenTo maxDigits) :
    decodeId (toString k ++ tokenMark) = some (k - tokenOffset) := by
  rw [decodeId_append, Reading.int?_toString_of_lt hk, Option.map_some]

/-- The token of a whole number stands for the number exactly if the moved number is written. -/
theorem exists_decodes_int_iff : (∃ token, encodeId (.int n) = .ok (some token) ∧
    decodeId token = some n) ↔ (n + tokenOffset).natAbs < tenTo maxDigits := by
  have hoffset : tokenOffset = 80 := rfl
  rw [encodeId_int]
  cases hshown : shownNumber? n with
  | none =>
      refine iff_of_false (fun ⟨_, h, _⟩ => nomatch h) fun hmoved => ?_
      rw [shownNumber?_eq_some_iff.2 ⟨hmoved, .inl rfl⟩] at hshown
      cases hshown
  | some k =>
      obtain ⟨hk, hcase⟩ := shownNumber?_eq_some_iff.1 hshown
      simp only [Except.ok.injEq, Option.some.injEq, exists_eq_left', decodeId_toString hk]
      omega

/-- The token of a text stands for the number that the text denotes, if it denotes one, exactly if
the moved number is written. -/
theorem exists_decodes_text_iff {s : String} (hs : s ≠ "") :
    (∃ token, encodeId (.text s) = .ok (some token) ∧ decodeId token = Reading.int? s) ↔
      ∀ n, Reading.int? s = some n → (n + tokenOffset).natAbs < tenTo maxDigits := by
  rw [encodeId_text hs]
  cases hread : Reading.int? s with
  | none =>
      refine iff_of_true ⟨_, rfl, ?_⟩ fun _ h => nomatch h
      rw [decodeId_append, hread]
      rfl
  | some n =>
      rw [Option.map_some, Option.bind_some]
      simp only [Option.some.injEq, forall_eq']
      by_cases hmoved : (n + tokenOffset).natAbs < tenTo maxDigits
      · rw [integerText?_of_lt hmoved]
        refine iff_of_true ⟨_, rfl, ?_⟩ hmoved
        rw [decodeId_toString hmoved, Int.add_sub_cancel]
      · rw [integerText?_of_not_lt hmoved]
        refine iff_of_false ?_ hmoved
        rintro ⟨token, htoken, hdecode⟩
        cases htoken
        rw [decodeId_append, hread, Option.map_some, Option.some.injEq] at hdecode
        have hoffset : tokenOffset = 80 := rfl
        omega

theorem encodeId_int_eq_iff {token : String} : encodeId (.int n) = .ok (some token) ↔
    ∃ k, shownNumber? n = some k ∧ token = toString k ++ tokenMark := by
  rw [encodeId_int]
  cases shownNumber? n with
  | none => exact iff_of_false (fun h => nomatch h) fun ⟨_, h, _⟩ => nomatch h
  | some k => simp [eq_comm]

/-- The token of a whole number stands for some number. -/
theorem exists_decodeId_of_int {token : String} (h : encodeId (.int n) = .ok (some token)) :
    ∃ k, decodeId token = some k := by
  obtain ⟨k, hshown, rfl⟩ := encodeId_int_eq_iff.1 h
  exact ⟨_, decodeId_toString (shownNumber?_eq_some_iff.1 hshown).1⟩

/-- A text that denotes no number stands in its token, which stands for none. -/
theorem eq_append_of_encodeId_text {s token : String} (hs : Reading.int? s = none)
    (h : encodeId (.text s) = .ok (some token)) :
    token = s ++ tokenMark ∧ decodeId token = none := by
  have hempty : s ≠ "" := by
    rintro rfl
    cases h
  rw [encodeId_text hempty, hs] at h
  cases h
  exact ⟨rfl, by rw [decodeId_append, hs]; rfl⟩

/-- A whole number shares no token with a text that denotes none. -/
theorem not_exists_token_of_text {s : String} (hs : Reading.int? s = none) :
    ¬ ∃ token, encodeId (.int n) = .ok (some token) ∧ encodeId (.text s) = .ok (some token) := by
  rintro ⟨token, hn, ht⟩
  obtain ⟨k, hk⟩ := exists_decodeId_of_int hn
  rw [(eq_append_of_encodeId_text hs ht).2] at hk
  cases hk

/-- Two whole numbers share a token exactly if one is shown as it is and the other one, moved, comes
to the same. -/
theorem exists_token_int_iff {m : Int} (hne : n ≠ m) :
    (∃ token, encodeId (.int n) = .ok (some token) ∧ encodeId (.int m) = .ok (some token)) ↔
      ∃ k : Int, tenTo maxDigits ≤ k + tokenOffset ∧ k < tenTo maxDigits ∧
        (n = k ∧ m = k - tokenOffset ∨ m = k ∧ n = k - tokenOffset) := by
  have hoffset : tokenOffset = 80 := rfl
  have hlarge := @lt_tenTo_maxDigits 80 (by decide)
  simp only [encodeId_int_eq_iff]
  constructor
  · rintro ⟨token, ⟨k, hn, rfl⟩, l, hm, htoken⟩
    rw [shownNumber?_eq_some_iff] at hn hm
    have hkl : some (k - tokenOffset) = some (l - tokenOffset) := by
      rw [← decodeId_toString hn.1, htoken, decodeId_toString hm.1]
    rw [Option.some.injEq] at hkl
    exact ⟨k, by omega⟩
  · rintro ⟨k, hlow, hhigh, hcase⟩
    have hshown {m : Int} (hm : m = k ∨ m = k - tokenOffset) : shownNumber? m = some k :=
      shownNumber?_eq_some_iff.2 (by omega)
    exact ⟨_, ⟨k, hshown (by omega), rfl⟩, k, hshown (by omega), rfl⟩

end Tokens

/-- A token stands for its id, unless the id is a whole number that has too many digits when it is
moved.  No two ids have the same token but such a number and the one below it by the offset. -/
theorem decodeId_encodeId_iff (n : Int) (s : String) (a b : Value) :
    ((∃ token, encodeId (.int n) = .ok (some token) ∧ decodeId token = some n) ↔
      (n + tokenOffset).natAbs < tenTo maxDigits) ∧
    (s ≠ "" → ((∃ token, encodeId (.text s) = .ok (some token) ∧
        decodeId token = Reading.int? s) ↔
      ∀ n, Reading.int? s = some n → (n + tokenOffset).natAbs < tenTo maxDigits)) ∧
    (IsRowId a → IsRowId b → a ≠ b →
      ((∃ token, encodeId a = .ok (some token) ∧ encodeId b = .ok (some token)) ↔
        ∃ n : Int, tenTo maxDigits ≤ n + tokenOffset ∧ n < tenTo maxDigits ∧
          (a = .int n ∧ b = .int (n - tokenOffset) ∨
            b = .int n ∧ a = .int (n - tokenOffset)))) := by
  refine ⟨exists_decodes_int_iff, exists_decodes_text_iff, fun ha hb hne => ?_⟩
  match a, b, ha, hb with
  | .int n, .int m, _, _ =>
      simpa only [Value.int.injEq] using exists_token_int_iff fun h => hne (congrArg Value.int h)
  | .int n, .text s, _, hs =>
      exact iff_of_false (not_exists_token_of_text hs) fun ⟨_, _, _, h⟩ => by simp at h
  | .text s, .int n, hs, _ =>
      refine iff_of_false (fun ⟨token, ht, hn⟩ => ?_) fun ⟨_, _, _, h⟩ => by simp at h
      exact not_exists_token_of_text hs ⟨token, hn, ht⟩
  | .text s, .text t, hs, ht =>
      refine iff_of_false (fun ⟨token, h, h'⟩ => ?_) fun ⟨_, _, _, h⟩ => by simp at h
      have hst := (eq_append_of_encodeId_text hs h).1.symm.trans
        (eq_append_of_encodeId_text ht h').1
      rw [String.append_left_inj] at hst
      exact hne (congrArg Value.text hst)

/-- A number is read back, in another spelling too, and a text that starts with the moved number
keeps its own token. -/
theorem decodeId_encodeId_iff_five :
    (∃ token, encodeId (.int 5) = .ok (some token) ∧ decodeId token = some 5) ∧
    (∃ token, encodeId (.text " -1_0 ") = .ok (some token) ∧ decodeId token = some (-10)) ∧
    IsRowId (.text "85x") ∧
    ¬ ∃ token, encodeId (.int 5) = .ok (some token) ∧
      encodeId (.text "85x") = .ok (some token) := by
  have hread : Reading.int? " -1_0 " = some (-10) := by cbv
  have hword : Reading.int? "85x" = none := by cbv
  obtain ⟨hint, htext, hsame⟩ := decodeId_encodeId_iff 5 " -1_0 " (.int 5) (.text "85x")
  refine ⟨hint.2 (lt_tenTo_maxDigits (by decide)), ?_, hword, fun h => ?_⟩
  · rw [← hread]
    refine (htext (by decide)).2 fun n hn => ?_
    rw [hread] at hn
    cases hn
    exact lt_tenTo_maxDigits (by decide)
  · obtain ⟨_, _, _, ⟨_, hb⟩ | ⟨hb, _⟩⟩ := (hsame trivial hword (by simp)).1 h
    · cases hb
    · cases hb

/-- The greatest number that is written shares its token with the one below it by the offset, and
its token stands for that one. -/
theorem decodeId_encodeId_greatest :
    ((tenTo maxDigits : Int) - 1).natAbs < tenTo maxDigits ∧
    ∃ token, encodeId (.int (tenTo maxDigits - 1)) = .ok (some token) ∧
      encodeId (.int (tenTo maxDigits - 1 - tokenOffset)) = .ok (some token) ∧
      decodeId token = some (tenTo maxDigits - 1 - tokenOffset) := by
  have hoffset : tokenOffset = 80 := rfl
  have hlarge := @lt_tenTo_maxDigits 80 (by decide)
  have hne : (tenTo maxDigits : Int) - 1 ≠ tenTo maxDigits - 1 - tokenOffset := by omega
  obtain ⟨token, hself, hbelow⟩ := (exists_token_int_iff hne).2 ⟨tenTo maxDigits - 1, by omega⟩
  obtain ⟨other, hother, hdecode⟩ := (@exists_decodes_int_iff
    (tenTo maxDigits - 1 - tokenOffset)).2 (by omega)
  cases hbelow.symm.trans hother
  exact ⟨by omega, token, hself, hbelow, hdecode⟩

end AdminGrid.Answer

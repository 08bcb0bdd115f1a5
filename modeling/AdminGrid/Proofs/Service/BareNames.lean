import AdminGrid.Proofs.Service.TableName

/-!
# Names that pass for identifiers

A name of a table or a column must be a bare name: letters, digits and underscores, and no digit in
front.  The check lets such names through, and also those with one line feed behind them.  A
descriptor stands under its name without blanks around it, so a table that is found by a name that
passed has a bare name after all.
-/

namespace AdminGrid

namespace Request

/-- Whether a character is a Latin letter or the underscore. -/
def IsNameStart (c : Char) : Prop := ('A' ≤ c ∧ c ≤ 'Z') ∨ ('a' ≤ c ∧ c ≤ 'z') ∨ c = '_'

/-- Whether a text is made of Latin letters, digits and underscores, with no digit in front. -/
def IsBareName (s : String) : Prop :=
  ∃ c cs, s.toList = c :: cs ∧ IsNameStart c ∧ ∀ d ∈ cs, IsNameStart d ∨ ('0' ≤ d ∧ d ≤ '9')

/-- Whether a text is a bare name, or one with a line feed behind it. -/
def PassesForName (s : String) : Prop :=
  IsBareName s ∨ ∃ name, IsBareName name ∧ s = name ++ "\n"

section Characters

variable {c : Char} {cs : List Char}

theorem startsName_iff : startsName c = true ↔ IsNameStart c := by
  unfold startsName IsNameStart
  delta Char.isAlpha Char.isUpper Char.isLower
  simp only [Char.le_def, Bool.or_eq_true, Bool.and_eq_true, decide_eq_true_eq, beq_iff_eq,
    ge_iff_le, or_assoc]

theorem inName_iff : inName c = true ↔ IsNameStart c ∨ ('0' ≤ c ∧ c ≤ '9') := by
  rw [← startsName_iff]
  simp only [inName, startsName, Char.isAlphanum, Char.isDigit, Char.le_def, Bool.or_eq_true,
    Bool.and_eq_true, decide_eq_true_eq, ge_iff_le]
  tauto

theorem dropWhile_inName_eq_iff {rest : List Char} (hrest : ∀ d ∈ rest.head?, inName d = false) :
    cs.dropWhile inName = rest ↔ ∃ taken, cs = taken ++ rest ∧ ∀ d ∈ taken, inName d = true := by
  constructor
  · rintro rfl
    exact ⟨cs.takeWhile inName, List.takeWhile_append_dropWhile.symm,
      fun d hd => List.mem_takeWhile_imp hd⟩
  · rintro ⟨taken, rfl, htaken⟩
    rw [List.dropWhile_append_of_pos htaken]
    cases rest with
    | nil => rfl
    | cons d rest => exact List.dropWhile_cons_of_neg (by simpa using hrest d rfl)

end Characters

section Names

variable {s : String}

theorem passesForName_iff : PassesForName s ↔
    ∃ c cs, ∃ ending ∈ [[], ['\n']], s.toList = c :: (cs ++ ending) ∧ startsName c = true ∧
      ∀ d ∈ cs, inName d = true := by
  simp only [startsName_iff, inName_iff]
  constructor
  · rintro (⟨c, cs, hs, hc, hcs⟩ | ⟨name, ⟨c, cs, hname, hc, hcs⟩, rfl⟩)
    · exact ⟨c, cs, [], by simp, by rw [hs, List.append_nil], hc, hcs⟩
    · refine ⟨c, cs, ['\n'], by simp, ?_, hc, hcs⟩
      rw [String.toList_append, hname]
      rfl
  · rintro ⟨c, cs, ending, hending, hs, hc, hcs⟩
    rcases List.mem_pair.1 hending with rfl | rfl
    · exact Or.inl ⟨c, cs, by rw [hs, List.append_nil], hc, hcs⟩
    · refine Or.inr ⟨String.ofList (c :: cs), ⟨c, cs, String.toList_ofList, hc, hcs⟩, ?_⟩
      rw [← String.toList_inj, hs, String.toList_append, String.toList_ofList]
      rfl

/-- What passes for an identifier is a bare name or one with a line feed behind it. -/
theorem isIdentifier_iff : isIdentifier s = true ↔ PassesForName s := by
  have hhead : ∀ ending ∈ [[], ['\n']], ∀ d ∈ ending.head?, inName d = false := by
    intro ending hending d hd
    rcases List.mem_pair.1 hending with rfl | rfl
    · exact nomatch hd
    · obtain rfl : '\n' = d := Option.some.inj hd
      decide
  rw [passesForName_iff, isIdentifier]
  constructor
  · intro h
    split at h
    · cases h
    · rename_i c cs hs
      obtain ⟨hc, htail⟩ := (Bool.and_eq_true _ _).mp h
      have hending : cs.dropWhile inName ∈ [[], ['\n']] := by
        split at htail
        · rename_i hnil
          rw [hnil]
          exact List.mem_cons_self
        · rw [of_decide_eq_true htail]
          decide
      obtain ⟨taken, hcs, htaken⟩ := (dropWhile_inName_eq_iff (hhead _ hending)).1 rfl
      exact ⟨c, taken, _, hending, by rw [hs, ← hcs], hc, htaken⟩
  · rintro ⟨c, cs, ending, hending, hs, hc, hcs⟩
    have hdrop : (cs ++ ending).dropWhile inName = ending :=
      (dropWhile_inName_eq_iff (hhead ending hending)).2 ⟨cs, rfl, hcs⟩
    rw [hs]
    simp only [hdrop, hc, Bool.true_and]
    rcases List.mem_pair.1 hending with rfl | rfl <;> rfl

theorem checkIdentifier_eq_ok_iff (field : String) :
    checkIdentifier field (.text s) = .ok s ↔ PassesForName s := by
  rw [← isIdentifier_iff, checkIdentifier]
  split
  · rename_i hs
    exact iff_of_true rfl hs
  · rename_i hs
    refine iff_of_false (fun h => ?_) hs
    cases h

theorem checkIdentifier_of_not_passesForName (field : String) (h : ¬ PassesForName s) :
    checkIdentifier field (.text s) =
      .error (.security (.badIdentifier (.text s)) (some field)) := by
  rw [← isIdentifier_iff] at h
  rw [checkIdentifier, if_neg h]

/-- A name that passes and has no blanks around it is a bare name. -/
theorem PassesForName.isBareName (h : PassesForName s) (hstrip : Text.strip s = s) :
    IsBareName s := by
  rcases h with hbare | ⟨name, -, rfl⟩
  · exact hbare
  · -- the line feed would be a blank that trimming leaves at the end
    have hlist := congrArg String.toList hstrip
    rw [Text.strip, String.toList_ofList] at hlist
    have hlast : (Text.trimBy Text.isBlank (name ++ "\n").toList).getLast? = some '\n' := by
      rw [hlist, String.toList_append]
      exact List.getLast?_concat
    exact absurd (Text.not_of_getLast?_dropEndWhile hlast) (by decide)

end Names

end Request

namespace Service

open Request

theorem passesForName_of_tableName {pathName : Option String} {params : Params} {name : String}
    (h : tableName pathName params = .ok name) : PassesForName name := by
  obtain ⟨_, _, h⟩ := bind_eq_ok.1 h
  dsimp only at h
  split at h
  · cases h
  · rw [eq_text_of_checkIdentifier h] at h
    exact (checkIdentifier_eq_ok_iff _).1 h

/-- A text passes for the name of a table or a column exactly if it is a bare name or one with a
line feed behind it, and every other text is refused.  A name with which the registry is asked for a
table has passed; where the registry has the table, the name is a bare one. -/
theorem checkIdentifier_text_iff {registry : Registry} (hbuilt : registry.Built)
    (field s : String) (pathName : Option String) (params : Params) :
    (checkIdentifier field (.text s) = .ok s ↔
      IsBareName s ∨ ∃ name, IsBareName name ∧ s = name ++ "\n") ∧
    (checkIdentifier field (.text s) = .ok s ∨ checkIdentifier field (.text s) =
      .error (.security (.badIdentifier (.text s)) (some field))) ∧
    (tableName pathName params = .ok s →
      (IsBareName s ∨ ∃ name, IsBareName name ∧ s = name ++ "\n") ∧
        ∀ d, registry.find? s = some d → IsBareName s) := by
  refine ⟨checkIdentifier_eq_ok_iff field, ?_, fun hname => ?_⟩
  · by_cases hpasses : PassesForName s
    · exact Or.inl ((checkIdentifier_eq_ok_iff field).2 hpasses)
    · exact Or.inr (checkIdentifier_of_not_passesForName field hpasses)
  · have hpasses := passesForName_of_tableName hname
    exact ⟨hpasses, fun d hfind => hpasses.isBareName (hbuilt.wellNamed.find? hfind).2.2⟩

/-- The name of the table of orders is a bare one, by which the table is found. -/
theorem checkIdentifier_text_orders : ordersKnown.Built ∧
    tableName (some "orders") [] = .ok "orders" ∧ IsBareName "orders" := by
  have hname : tableName (some "orders") [] = .ok "orders" := rfl
  refine ⟨built_ordersKnown, hname, ?_⟩
  exact ((checkIdentifier_text_iff built_ordersKnown "table_name" "orders" (some "orders")
    []).2.2 hname).2 ordersTable rfl

/-- A name with a line feed behind it passes although it is no bare name, and the registry is asked
for it. -/
theorem checkIdentifier_ordersAndFeed : ¬ IsBareName "orders\n" ∧
    checkIdentifier "table_name" (.text "orders\n") = .ok "orders\n" ∧
    tableName (some "orders\n") [] = .ok "orders\n" := by
  refine ⟨?_, rfl, rfl⟩
  rintro ⟨c, cs, hs, -, hcs⟩
  have hlist : "orders\n".toList = ['o', 'r', 'd', 'e', 'r', 's', '\n'] := by decide
  obtain ⟨-, rfl⟩ := List.cons.inj (hlist.symm.trans hs)
  exact absurd (inName_iff.2 (hcs '\n' (by decide))) (by decide)

end Service

end AdminGrid

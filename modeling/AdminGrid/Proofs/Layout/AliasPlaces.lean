import AdminGrid.Proofs.Entries
import AdminGrid.Proofs.Layout.Insertion

/-!
# The places of aliases

An alias that the table does not know claims its index among the requested fields, and an alias that
is a column of the table claims the index of that column.  The two kinds of indexes count different
lists but share one list of places, where an unknown alias wins.  A column that loses its place this
way has been taken out of the fields and is not put back.

The main statement says exactly which requested relations are shown after all: those of which some
alias has a place, and those whose display field was a column that stayed.
-/

namespace AdminGrid.Layout

/-- The relation of an alias, the last one that is given for it. -/
def specOf? (relations : List RelationSpec) (name : String) : Option RelationSpec :=
  relations.reverse.find? (·.aliasField == name)

/-- An index among the requested fields at which an alias stands that is no field. -/
def Claimed (relations : List RelationSpec) (fields requested : List String) (i : Nat) : Prop :=
  ∃ other, requested[i]? = some other ∧ (specOf? relations other).isSome ∧ other ∉ fields

/-- An alias that is put at some index: it is no field, or a field at an index that no unknown alias
claims. -/
def HasPlace (relations : List RelationSpec) (fields requested : List String)
    (name : String) : Prop :=
  name ∉ fields ∨ ∃ i, fields[i]? = some name ∧ ¬ Claimed relations fields requested i

theorem get?_byAlias (relations : List RelationSpec) (name : String) :
    (byAlias relations).get? name = specOf? relations name := by
  rw [byAlias, Entries.get?_ofList, Entries.get?_eq_find?, ← List.map_reverse, List.find?_map]
  rw [Option.map_map]
  exact Option.map_id'

theorem has_byAlias (relations : List RelationSpec) (name : String) :
    (byAlias relations).has name = (specOf? relations name).isSome := by
  rw [Entries.has, get?_byAlias]

theorem aliasField_of_specOf? {relations : List RelationSpec} {name : String} {r : RelationSpec}
    (h : specOf? relations name = some r) : r.aliasField = name := by
  simpa using List.find?_some h

section Places

variable {aliases : Entries RelationSpec} {fields requested : List String} {i : Nat} {name : String}

theorem mem_unknownPlaces_iff :
    (i, name) ∈ unknownPlaces aliases fields requested ↔
      requested[i]? = some name ∧ aliases.has name = true ∧ name ∉ fields := by
  simp only [unknownPlaces, List.mem_map, List.mem_filter, Prod.exists, Prod.mk.injEq,
    List.mem_zipIdx_iff_getElem?, Bool.and_eq_true, Bool.not_eq_true', List.contains_eq_mem,
    decide_eq_false_iff_not]
  constructor
  · rintro ⟨_, _, ⟨hget, hhas, hnot⟩, rfl, rfl⟩
    exact ⟨hget, hhas, hnot⟩
  · rintro ⟨hget, hhas, hnot⟩
    exact ⟨name, i, ⟨hget, hhas, hnot⟩, rfl, rfl⟩

theorem mem_knownPlaces_iff :
    (i, name) ∈ knownPlaces aliases fields requested ↔
      fields[i]? = some name ∧ aliases.has name = true ∧ name ∈ requested := by
  simp only [knownPlaces, List.mem_map, List.mem_filter, Prod.exists, Prod.mk.injEq,
    List.mem_zipIdx_iff_getElem?, Bool.and_eq_true, List.contains_eq_mem, decide_eq_true_eq]
  constructor
  · rintro ⟨_, _, ⟨hget, hhas, hmem⟩, rfl, rfl⟩
    exact ⟨hget, hhas, hmem⟩
  · rintro ⟨hget, hhas, hmem⟩
    exact ⟨name, i, ⟨hget, hhas, hmem⟩, rfl, rfl⟩

/-- The places after the two kinds are put together. -/
theorem mem_aliasPlaces_iff :
    (i, name) ∈ aliasPlaces aliases fields requested ↔
      (i, name) ∈ unknownPlaces aliases fields requested ∨
        (i, name) ∈ knownPlaces aliases fields requested ∧
          ∀ other, (i, other) ∉ unknownPlaces aliases fields requested := by
  simp only [aliasPlaces, List.mem_mergeSort, List.mem_append, List.mem_filter,
    Bool.not_eq_true', List.any_eq_false, beq_iff_eq, Prod.forall]
  constructor
  · rintro (h | ⟨h, hfree⟩)
    · exact Or.inl h
    · exact Or.inr ⟨h, fun other hother => hfree i other hother rfl⟩
  · rintro (h | ⟨h, hfree⟩)
    · exact Or.inl h
    · exact Or.inr ⟨h, fun j other hother hj => hfree other (hj ▸ hother)⟩

end Places

/-- A requested alias stands at some place exactly if it has one of its own. -/
theorem exists_mem_aliasPlaces_iff {relations : List RelationSpec} {fields requested : List String}
    {name : String} :
    (∃ i, (i, name) ∈ aliasPlaces (byAlias relations) fields requested) ↔
      name ∈ requested ∧ (specOf? relations name).isSome ∧
        HasPlace relations fields requested name := by
  have hclaimed (i : Nat) : Claimed relations fields requested i ↔
      ∃ other, (i, other) ∈ unknownPlaces (byAlias relations) fields requested := by
    simp only [Claimed, mem_unknownPlaces_iff, has_byAlias]
  simp only [mem_aliasPlaces_iff, HasPlace, hclaimed, not_exists]
  constructor
  · rintro ⟨i, h | ⟨h, hfree⟩⟩
    · obtain ⟨hget, hhas, hnot⟩ := mem_unknownPlaces_iff.1 h
      exact ⟨List.mem_of_getElem? hget, has_byAlias relations name ▸ hhas, Or.inl hnot⟩
    · obtain ⟨hget, hhas, hmem⟩ := mem_knownPlaces_iff.1 h
      exact ⟨hmem, has_byAlias relations name ▸ hhas, Or.inr ⟨i, hget, hfree⟩⟩
  · rintro ⟨hmem, hsome, hplace⟩
    have hhas : (byAlias relations).has name = true := (has_byAlias relations name).trans hsome
    rcases hplace with hnot | ⟨i, hget, hfree⟩
    · obtain ⟨i, hi⟩ := List.mem_iff_getElem?.1 hmem
      exact ⟨i, Or.inl (mem_unknownPlaces_iff.2 ⟨hi, hhas, hnot⟩)⟩
    · exact ⟨i, Or.inr ⟨mem_knownPlaces_iff.2 ⟨hget, hhas, hmem⟩, hfree⟩⟩

/-- Showing a relation adds its display field and nothing else. -/
theorem mem_fields_showRelation_iff {aliases : Entries RelationSpec} {c : Columns}
    {place : Nat × String} {x : String} :
    x ∈ (showRelation aliases c place).fields ↔
      x ∈ c.fields ∨ ∃ r, aliases.get? place.2 = some r ∧ r.displayField = x := by
  unfold showRelation
  cases hget : aliases.get? place.2 with
  | none => simp
  | some r =>
      by_cases hmem : r.displayField ∈ c.fields
      · have hcontains : c.fields.contains r.displayField = true := by simpa using hmem
        simp only [hcontains, if_true, Option.some.injEq, exists_eq_left']
        exact ⟨Or.inl, fun h => h.elim id fun e => e ▸ hmem⟩
      · have hcontains : c.fields.contains r.displayField = false := by simpa using hmem
        simp only [hcontains, Bool.false_eq_true, if_false, mem_insertAt, Option.some.injEq,
          exists_eq_left', eq_comm (a := x), or_comm]

theorem mem_fields_foldl_showRelation_iff {aliases : Entries RelationSpec} {c : Columns}
    {places : List (Nat × String)} {x : String} :
    x ∈ (places.foldl (showRelation aliases) c).fields ↔
      x ∈ c.fields ∨
        ∃ place ∈ places, ∃ r, aliases.get? place.2 = some r ∧ r.displayField = x := by
  induction places generalizing c with
  | nil => simp
  | cons place rest ih =>
      rw [List.foldl_cons, ih, mem_fields_showRelation_iff]
      simp only [List.mem_cons, exists_eq_or_imp, or_assoc]

/-- The fields that are no requested aliases. -/
def keptFields (relations : List RelationSpec) (fields requested : List String) : List String :=
  fields.filter fun name => !((specOf? relations name).isSome && requested.contains name)

theorem mem_keptFields_iff {relations : List RelationSpec} {fields requested : List String}
    {x : String} :
    x ∈ keptFields relations fields requested ↔
      x ∈ fields ∧ ¬ ((specOf? relations x).isSome ∧ x ∈ requested) := by
  cases hspec : specOf? relations x <;> simp [keptFields, hspec]

/-- Without relations nothing is taken out and nothing is shown, so the two branches of the
definition are one. -/
theorem applyRelations_eq (c : Columns) (requested : List String) (relations : List RelationSpec) :
    applyRelations c requested relations =
      (aliasPlaces (byAlias relations) c.fields requested).foldl (showRelation (byAlias relations))
        { c with fields := keptFields relations c.fields requested } := by
  unfold applyRelations
  simp only [has_byAlias]
  split
  · rename_i hempty
    have hnone (name : String) : specOf? relations name = none := by
      rw [← get?_byAlias, List.isEmpty_iff.1 hempty]
      rfl
    have hplaces : aliasPlaces (byAlias relations) c.fields requested = [] := by
      simp [aliasPlaces, unknownPlaces, knownPlaces, has_byAlias, hnone]
    simp [hplaces, keptFields, hnone]
  · rfl

/-- What is shown once the relations are applied: the fields that are no requested aliases, and the
display fields of the aliases that have a place. -/
theorem mem_fields_applyRelations_iff {c : Columns} {requested : List String}
    {relations : List RelationSpec} {x : String} :
    x ∈ (applyRelations c requested relations).fields ↔
      x ∈ keptFields relations c.fields requested ∨
        ∃ other s, other ∈ requested ∧ specOf? relations other = some s ∧ s.displayField = x ∧
          HasPlace relations c.fields requested other := by
  rw [applyRelations_eq, mem_fields_foldl_showRelation_iff]
  simp only [get?_byAlias, Prod.exists]
  refine or_congr_right ⟨?_, ?_⟩
  · rintro ⟨i, other, hplace, s, hspec, hdisplay⟩
    obtain ⟨hmem, -, hhas⟩ := exists_mem_aliasPlaces_iff.1 ⟨i, hplace⟩
    exact ⟨other, s, hmem, hspec, hdisplay, hhas⟩
  · rintro ⟨other, s, hmem, hspec, hdisplay, hhas⟩
    obtain ⟨i, hplace⟩ := exists_mem_aliasPlaces_iff.2 ⟨hmem, by simp [hspec], hhas⟩
    exact ⟨i, other, hplace, s, hspec, hdisplay⟩

/-- A requested relation is shown exactly if its alias has a place, or its display field is there
anyway: as a field that stayed, or through another alias with the same display field.  An alias
that is a column of the table and meets an unknown alias at its index is lost otherwise. -/
theorem displayField_mem_applyRelations_iff (c : Columns) {requested : List String}
    {relations : List RelationSpec} {name : String} {r : RelationSpec} (hname : name ∈ requested)
    (hspec : specOf? relations name = some r) :
    r.displayField ∈ (applyRelations c requested relations).fields ↔
      HasPlace relations c.fields requested name ∨
        r.displayField ∈ keptFields relations c.fields requested ∨
        ∃ other s, other ≠ name ∧ other ∈ requested ∧ specOf? relations other = some s ∧
          s.displayField = r.displayField ∧ HasPlace relations c.fields requested other := by
  rw [mem_fields_applyRelations_iff]
  constructor
  · rintro (hkept | ⟨other, s, hmem, hother, hdisplay, hplace⟩)
    · exact Or.inr (Or.inl hkept)
    · by_cases hne : other = name
      · exact Or.inl (hne ▸ hplace)
      · exact Or.inr (Or.inr ⟨other, s, hne, hmem, hother, hdisplay, hplace⟩)
  · rintro (hplace | hkept | ⟨other, s, -, hmem, hother, hdisplay, hplace⟩)
    · exact Or.inr ⟨name, r, hname, hspec, rfl, hplace⟩
    · exact Or.inl hkept
    · exact Or.inr ⟨other, s, hmem, hother, hdisplay, hplace⟩

/-- A shop that the table does not know and a user that is one of its columns. -/
def shopAndUser : List RelationSpec :=
  [⟨"shop", "shops.title", none, []⟩, ⟨"user_id", "users.name", none, []⟩]

/-- With the shop behind the user both kinds of aliases are shown. -/
theorem user_name_shown_before_shop :
    "user_id" ∈ ["id", "user_id", "shop"] ∧
      specOf? shopAndUser "user_id" = some ⟨"user_id", "users.name", none, []⟩ ∧
      "users.name" ∈
        (applyRelations ⟨["id", "user_id"], [], .none⟩ ["id", "user_id", "shop"]
          shopAndUser).fields := by
  have hname : "user_id" ∈ ["id", "user_id", "shop"] := by decide
  have hspec : specOf? shopAndUser "user_id" = some ⟨"user_id", "users.name", none, []⟩ := by
    decide
  refine ⟨hname, hspec, (displayField_mem_applyRelations_iff _ hname hspec).2 (Or.inl ?_)⟩
  -- the only unknown alias stands at index 2, beyond the fields
  refine Or.inr ⟨1, rfl, ?_⟩
  rintro ⟨other, hget, -, hnot⟩
  cases hget
  exact hnot (by decide)

/-- With the shop before the user both claim index 1, and the name of the user is lost. -/
theorem user_name_lost_behind_shop :
    ¬ ∀ (c : Columns) (requested : List String) (relations : List RelationSpec) (name : String)
        (r : RelationSpec), name ∈ requested → specOf? relations name = some r →
        r.displayField ∈ (applyRelations c requested relations).fields := by
  intro h
  have hlost := h ⟨["id", "user_id"], [], .none⟩ ["id", "shop", "user_id"] shopAndUser "user_id"
    ⟨"user_id", "users.name", none, []⟩ (by decide) (by decide)
  exact absurd hlost (by decide +kernel)

end AdminGrid.Layout

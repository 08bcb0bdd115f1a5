import AdminGrid.Proofs.Layout.DeclaredOrder
import AdminGrid.Proofs.Layout.ShownRelations
import Mathlib.Data.List.Sort

/-!
# Aliases with one display field

A display field is shown once.  Where several requested aliases have the same one, the alias at the
first place gets the column, and the others get none; so does every one of them whose display field
is a column that stayed.
-/

namespace AdminGrid.Layout

/-- The display field of the relation of an alias. -/
def displayOf? (relations : List RelationSpec) (name : String) : Option String :=
  (specOf? relations name).map (·.displayField)

section Places

variable {relations : List RelationSpec} {fields requested : List String} {labels : Entries String}

/-- Of the places with one display field, the first one shows its alias. -/
theorem mem_keys_foldl_showRelation_iff {c : Columns} {places : List (Nat × String)}
    {name : String} {r : RelationSpec} (hspec : specOf? relations name = some r) :
    name ∈ (places.foldl (showRelation (byAlias relations)) c).relations.relations.keys ↔
      name ∈ c.relations.relations.keys ∨ r.displayField ∉ c.fields ∧
        (places.find? fun p => displayOf? relations p.2 == some r.displayField).map (·.2) =
          some name := by
  induction places generalizing c with
  | nil => simp
  | cons place rest ih =>
      rw [List.foldl_cons, ih, List.find?_cons]
      unfold showRelation
      rw [get?_byAlias]
      cases hplace : specOf? relations place.2 with
      | none => simp [displayOf?, hplace]
      | some s =>
          have hdisplay : displayOf? relations place.2 = some s.displayField := by
            rw [displayOf?, hplace]
            rfl
          by_cases hmem : s.displayField ∈ c.fields
          · have hcontains : c.fields.contains s.displayField = true := by simpa using hmem
            simp only [hcontains, if_true, hdisplay]
            by_cases hsame : s.displayField = r.displayField
            · simp [← hsame, hmem]
            · have hskip : (some s.displayField == some r.displayField) = false := by simpa
              rw [hskip]
          · have hcontains : c.fields.contains s.displayField = false := by simpa using hmem
            simp only [hcontains, Bool.false_eq_true, if_false, hdisplay, mem_insertAt,
              Entries.mem_keys_put_iff]
            by_cases hsame : s.displayField = r.displayField
            · simp [← hsame, hmem, eq_comm]
            · -- the alias at this place is another one, as its display field is
              have hname : name ≠ place.2 := by
                rintro rfl
                rw [hspec] at hplace
                exact hsame (congrArg _ (Option.some.inj hplace)).symm
              have hskip : (some s.displayField == some r.displayField) = false := by simpa
              rw [hskip]
              simp [hname, Ne.symm hsame]

/-- An alias stands at the same indexes among the requested names and among the fields, if it is
one of both. -/
def AliasesAligned (relations : List RelationSpec) (fields requested : List String) : Prop :=
  ∀ name, (specOf? relations name).isSome → name ∈ fields → name ∈ requested →
    ∀ i : Nat, fields[i]? = some name ↔ requested[i]? = some name

/-- Then the places of the aliases are their indexes among the requested names. -/
theorem mem_aliasPlaces_iff_of_aligned (h : AliasesAligned relations fields requested) {i : Nat}
    {name : String} : (i, name) ∈ aliasPlaces (byAlias relations) fields requested ↔
      requested[i]? = some name ∧ (specOf? relations name).isSome := by
  rw [mem_aliasPlaces_iff]
  simp only [mem_unknownPlaces_iff, mem_knownPlaces_iff, has_byAlias]
  constructor
  · rintro (⟨hget, hspec, -⟩ | ⟨⟨hget, hspec, hmem⟩, -⟩)
    · exact ⟨hget, hspec⟩
    · exact ⟨(h name hspec (List.mem_of_getElem? hget) hmem i).1 hget, hspec⟩
  · rintro ⟨hget, hspec⟩
    by_cases hfield : name ∈ fields
    · have hmem := List.mem_of_getElem? hget
      refine Or.inr ⟨⟨(h name hspec hfield hmem i).2 hget, hspec, hmem⟩, ?_⟩
      rintro other ⟨hother, -, hnot⟩
      rw [hget] at hother
      exact hnot (Option.some.inj hother ▸ hfield)
    · exact Or.inl ⟨hget, hspec, hfield⟩

theorem aliasPlaces_eq_of_aligned (h : AliasesAligned relations fields requested) :
    aliasPlaces (byAlias relations) fields requested =
      (requested.zipIdx.filter fun p => (specOf? relations p.1).isSome).map fun p =>
        (p.2, p.1) := by
  have hindexes : ((requested.zipIdx.filter fun p => (specOf? relations p.1).isSome).map fun p =>
      (p.2, p.1)).Pairwise (·.1 < ·.1) := by
    refine List.pairwise_map.2 (List.Pairwise.filter _ ?_)
    have hrange := List.pairwise_lt_range' (s := 0) (n := requested.length)
    rw [← List.zipIdx_map_snd 0 requested] at hrange
    exact List.pairwise_map.1 hrange
  have : Std.Irrefl fun p q : Nat × String => p.1 < q.1 := ⟨fun p => Nat.lt_irrefl p.1⟩
  refine (pairwise_aliasPlaces _ _ _).eq_of_mem_iff hindexes ?_
  rintro ⟨i, name⟩
  rw [mem_aliasPlaces_iff_of_aligned h]
  simp [List.mem_zipIdx_iff_getElem?]

/-- The first place of a display field is that of the first requested alias with it. -/
theorem find?_aliasPlaces (h : AliasesAligned relations fields requested) (display : String) :
    ((aliasPlaces (byAlias relations) fields requested).find? fun p =>
      displayOf? relations p.2 == some display).map (·.2) =
        requested.find? fun name => displayOf? relations name == some display := by
  rw [aliasPlaces_eq_of_aligned h, List.find?_map, List.find?_filter, Option.map_map]
  have hnames := List.zipIdx_map_fst 0 requested
  conv_rhs => rw [← hnames, List.find?_map]
  have hsome : ∀ p : String × Nat, decide ((specOf? relations p.1).isSome = true ∧
      (displayOf? relations p.1 == some display) = true) =
        (displayOf? relations p.1 == some display) := by
    intro p
    rw [Bool.eq_iff_iff]
    cases hspec : specOf? relations p.1 <;> simp [displayOf?, hspec]
  simp only [Function.comp_def, hsome]

/-- An alias is shown exactly if its display field is no field that stays, and it is the first
requested alias with this display field. -/
theorem shown_iff_of_aligned (h : AliasesAligned relations fields requested) {name : String}
    {r : RelationSpec} (hspec : specOf? relations name = some r) :
    name ∈ (applyRelations ⟨fields, labels, .none⟩ requested
        relations).relations.relations.keys ↔
      r.displayField ∉ keptFields relations fields requested ∧
        requested.find? (fun other => displayOf? relations other == some r.displayField) =
          some name := by
  rw [applyRelations_eq, mem_keys_foldl_showRelation_iff hspec, find?_aliasPlaces h]
  simp [RelationMeta.none, Entries.keys]

/-- All requested aliases are shown exactly if their display fields are different, and none of them
is a field that stays. -/
theorem all_shown_iff_of_aligned (h : AliasesAligned relations fields requested)
    (labels : Entries String) :
    (∀ name ∈ requested, (specOf? relations name).isSome →
        name ∈ (applyRelations ⟨fields, labels, .none⟩ requested
          relations).relations.relations.keys) ↔
      ∀ name ∈ requested, ∀ display, displayOf? relations name = some display →
        display ∉ keptFields relations fields requested ∧
          ∀ other ∈ requested, displayOf? relations other = some display → other = name := by
  constructor
  · intro hall name hname display hdisplay
    obtain ⟨r, hspec, rfl⟩ := Option.map_eq_some_iff.1 hdisplay
    obtain ⟨hkept, hfirst⟩ := (shown_iff_of_aligned h hspec).1 (hall name hname (by simp [hspec]))
    refine ⟨hkept, fun other hother hsame => ?_⟩
    obtain ⟨s, hspec', hdisplay'⟩ := Option.map_eq_some_iff.1 hsame
    have hfirst' := ((shown_iff_of_aligned h hspec').1 (hall other hother (by simp [hspec']))).2
    rw [hdisplay', hfirst] at hfirst'
    exact (Option.some.inj hfirst').symm
  · intro hall name hname hsome
    obtain ⟨r, hspec⟩ := Option.isSome_iff_exists.1 hsome
    have hdisplay : displayOf? relations name = some r.displayField := by
      rw [displayOf?, hspec]
      rfl
    obtain ⟨hkept, honly⟩ := hall name hname _ hdisplay
    refine (shown_iff_of_aligned h hspec).2 ⟨hkept, ?_⟩
    cases hfind : requested.find? fun other =>
        displayOf? relations other == some r.displayField with
    | none => exact absurd (List.find?_eq_none.1 hfind name hname) (by simp [hdisplay])
    | some other =>
        rw [honly other (List.mem_of_find?_eq_some hfind) (by simpa using List.find?_some hfind)]

/-- A display field that is no field that stays is shown once at most. -/
theorem count_fields_applyRelations_le_one {x : String}
    (hx : x ∉ keptFields relations fields requested) :
    (applyRelations ⟨fields, labels, .none⟩ requested relations).fields.count x ≤ 1 := by
  have hfold : ∀ (places : List (Nat × String)) (c : Columns), c.fields.count x ≤ 1 →
      (places.foldl (showRelation (byAlias relations)) c).fields.count x ≤ 1 := by
    intro places
    induction places with
    | nil => exact fun c hc => hc
    | cons place rest ih =>
        intro c hc
        refine ih _ ?_
        unfold showRelation
        cases (byAlias relations).get? place.2 with
        | none => exact hc
        | some r =>
            dsimp only
            split
            · exact hc
            · rename_i hcontains
              rw [perm_insertAt.count_eq, List.count_cons]
              have hnot : r.displayField ∉ c.fields := by simpa using hcontains
              split
              · rename_i heq
                have hx : r.displayField = x := by simpa using heq
                rw [← hx, List.count_eq_zero_of_not_mem hnot]
              · exact hc
  rw [applyRelations_eq]
  refine hfold _ _ ?_
  rw [List.count_eq_zero_of_not_mem hx]
  exact Nat.zero_le 1

end Places

end AdminGrid.Layout

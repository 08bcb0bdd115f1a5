import AdminGrid.Layout.Requested
import AdminGrid.Proofs.Layout.AliasPlaces

/-!
# The relations that are shown

Every relation that is shown stands under its alias, with the display field that its relation has,
and no display field is shown twice.  Showing one more relation keeps all this, because a display
field that is among the fields already is not shown again.
-/

namespace AdminGrid.Layout

/-- Columns whose shown relations come from some relations by alias. -/
structure Traced (aliases : Entries RelationSpec) (c : Columns) : Prop where
  keys : c.relations.relations.keys.Nodup
  specs : ∀ e ∈ c.relations.relations,
    ∃ r, aliases.get? e.1 = some r ∧ e.2 = ⟨r.displayField, r.foreignKey⟩
  fields : ∀ e ∈ c.relations.relations, e.2.displayField ∈ c.fields
  displays : (c.relations.relations.map (·.2.displayField)).Nodup

theorem traced_none (aliases : Entries RelationSpec) (fields : List String)
    (labels : Entries String) : Traced aliases ⟨fields, labels, .none⟩ where
  keys := List.nodup_nil
  specs := by simp [RelationMeta.none]
  fields := by simp [RelationMeta.none]
  displays := List.nodup_nil

/-- An alias that is shown has its display field among the fields. -/
theorem Traced.not_mem_keys {aliases : Entries RelationSpec} {c : Columns} (h : Traced aliases c)
    {name : String} {r : RelationSpec} (hget : aliases.get? name = some r)
    (hfresh : r.displayField ∉ c.fields) : name ∉ c.relations.relations.keys := by
  intro hkey
  obtain ⟨e, he, rfl⟩ := List.mem_map.1 hkey
  obtain ⟨s, hs, hshown⟩ := h.specs e he
  rw [hget] at hs
  obtain rfl := Option.some.inj hs
  have hfield := h.fields e he
  rw [hshown] at hfield
  exact hfresh hfield

theorem Traced.showRelation {aliases : Entries RelationSpec} {c : Columns}
    (h : Traced aliases c) (place : Nat × String) :
    Traced aliases (showRelation aliases c place) := by
  unfold Layout.showRelation
  cases hget : aliases.get? place.2 with
  | none => exact h
  | some r =>
      by_cases hmem : r.displayField ∈ c.fields
      · have hcontains : c.fields.contains r.displayField = true := by simpa using hmem
        simp only [hcontains, if_true]
        exact h
      · have hcontains : c.fields.contains r.displayField = false := by simpa using hmem
        have hnew := h.not_mem_keys hget hmem
        have hkeys := Entries.nodup_keys_put place.2 (ShownRelation.mk r.displayField r.foreignKey)
          h.keys
        rw [Entries.put_of_not_mem_keys _ hnew] at hkeys
        simp only [hcontains, Bool.false_eq_true, if_false, Entries.put_of_not_mem_keys _ hnew]
        refine ⟨hkeys, ?_, ?_, ?_⟩
        · intro e he
          rcases List.mem_append.1 he with he | he
          · exact h.specs e he
          · obtain rfl := List.mem_singleton.1 he
            exact ⟨r, hget, rfl⟩
        · intro e he
          rcases List.mem_append.1 he with he | he
          · exact mem_insertAt.2 (Or.inr (h.fields e he))
          · obtain rfl := List.mem_singleton.1 he
            exact mem_insertAt.2 (Or.inl rfl)
        · show ((c.relations.relations ++ [_]).map _).Nodup
          rw [List.map_append, List.nodup_append]
          refine ⟨h.displays, List.nodup_singleton _, ?_⟩
          rintro x hx y hy rfl
          obtain ⟨e, he, hdisplay⟩ := List.mem_map.1 hx
          have hfield := h.fields e he
          rw [hdisplay, List.mem_singleton.1 hy] at hfield
          exact hmem hfield

theorem traced_foldl_showRelation {aliases : Entries RelationSpec} {c : Columns}
    (h : Traced aliases c) (places : List (Nat × String)) :
    Traced aliases (places.foldl (showRelation aliases) c) := by
  induction places generalizing c with
  | nil => exact h
  | cons place rest ih => exact ih (h.showRelation place)

theorem traced_applyRelations (fields : List String) (labels : Entries String)
    (requested : List String) (relations : List RelationSpec) :
    Traced (byAlias relations) (applyRelations ⟨fields, labels, .none⟩ requested relations) := by
  rw [applyRelations_eq]
  exact traced_foldl_showRelation (traced_none _ _ _) _

theorem mem_keys_foldl_showRelation {aliases : Entries RelationSpec} {c : Columns}
    {places : List (Nat × String)} {name : String}
    (h : name ∈ (places.foldl (showRelation aliases) c).relations.relations.keys) :
    name ∈ c.relations.relations.keys ∨ ∃ i, (i, name) ∈ places := by
  induction places generalizing c with
  | nil => exact Or.inl h
  | cons place rest ih =>
      rcases ih h with hkey | ⟨i, hi⟩
      · unfold showRelation at hkey
        cases hget : aliases.get? place.2 with
        | none => exact Or.inl (by simpa only [hget] using hkey)
        | some r =>
            simp only [hget] at hkey
            split at hkey
            · exact Or.inl hkey
            · rcases (Entries.mem_keys_put_iff _).1 hkey with hkey | rfl
              · exact Or.inl hkey
              · exact Or.inr ⟨place.1, List.mem_cons_self⟩
      · exact Or.inr ⟨i, List.mem_cons_of_mem place hi⟩

/-- Only relations whose alias is requested are shown. -/
theorem mem_requested_of_shown {fields requested : List String} {labels : Entries String}
    {relations : List RelationSpec} {name : String}
    (h : name ∈ (applyRelations ⟨fields, labels, .none⟩ requested
      relations).relations.relations.keys) : name ∈ requested := by
  rw [applyRelations_eq] at h
  rcases mem_keys_foldl_showRelation h with hkey | hplace
  · cases hkey
  · exact (exists_mem_aliasPlaces_iff.1 hplace).1

theorem subset_foldl_excludeDisplay (relations : List (String × ShownRelation))
    (excluded : List String) : excluded ⊆ relations.foldl excludeDisplay excluded := by
  induction relations generalizing excluded with
  | nil => exact List.Subset.refl excluded
  | cons a rest ih =>
      refine List.Subset.trans ?_ (ih _)
      unfold excludeDisplay
      split
      · exact List.subset_append_left _ _
      · exact List.Subset.refl excluded

/-- The declared fields without a property are excluded, whatever display fields are. -/
theorem fieldsWith_subset_excludedFields (d : TableDescriptor) (shown : RelationMeta)
    (allowed : ColumnSpec → Bool) :
    (d.fieldsWith fun c => !allowed c) ⊆ excludedFields d shown allowed :=
  subset_foldl_excludeDisplay shown.relations _

/-- Where no display field of an excluded relation is itself an alias that is not excluded, the
display fields that are excluded are those of the declared aliases. -/
theorem foldl_excludeDisplay {declared : List String}
    {relations : List (String × ShownRelation)}
    (hchain : ∀ a ∈ relations, a.1 ∈ declared → ∀ b ∈ relations, b.1 = a.2.displayField →
      b.1 ∈ declared)
    {excluded : List String} (hsub : declared ⊆ excluded)
    (hback : ∀ a ∈ relations, a.1 ∈ excluded → a.1 ∈ declared) :
    relations.foldl excludeDisplay excluded = excluded ++
      (relations.filter fun e => declared.contains e.1).map (·.2.displayField) := by
  induction relations generalizing excluded with
  | nil => simp
  | cons a rest ih =>
      have hrest : ∀ b ∈ rest, b.1 ∈ declared → ∀ b' ∈ rest, b'.1 = b.2.displayField →
          b'.1 ∈ declared := fun b hb hdecl b' hb' =>
        hchain b (List.mem_cons_of_mem a hb) hdecl b' (List.mem_cons_of_mem a hb')
      by_cases ha : a.1 ∈ declared
      · have hstep : excludeDisplay excluded a = excluded ++ [a.2.displayField] :=
          if_pos (by simpa using hsub ha)
        rw [List.foldl_cons, hstep, ih hrest, List.filter_cons_of_pos (by simpa using ha),
          List.map_cons, List.append_assoc, List.singleton_append]
        · exact fun x hx => List.mem_append_left _ (hsub hx)
        · intro b hb hmem
          rcases List.mem_append.1 hmem with hmem | hmem
          · exact hback b (List.mem_cons_of_mem a hb) hmem
          · exact hchain a List.mem_cons_self ha b (List.mem_cons_of_mem a hb)
              (List.mem_singleton.1 hmem)
      · have hstep : excludeDisplay excluded a = excluded :=
          if_neg (by simpa using fun h => ha (hback a List.mem_cons_self h))
        rw [List.foldl_cons, hstep, ih hrest hsub
          (fun b hb => hback b (List.mem_cons_of_mem a hb)),
          List.filter_cons_of_neg (by simpa using ha)]

end AdminGrid.Layout

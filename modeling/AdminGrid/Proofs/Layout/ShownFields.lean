import AdminGrid.Proofs.Layout.FormulaGap
import AdminGrid.Proofs.Layout.ShownRelations

/-!
# The fields that are shown

What a table shows is what it asks for: the fields that are requested, the display fields of
relations whose alias is requested, and formulas.  No other column of the table gets among them, no
column is lost, and every accepted formula comes in once.
-/

namespace AdminGrid.Layout

section Insertions

theorem perm_insertFirst (columns names : List String) :
    (insertFirst columns names).Perm (names ++ columns) := by
  rw [insertFirst_eq]
  exact perm_insertBlock columns _ names

theorem perm_insertLastAfter (columns names : List String) :
    (insertLastAfter columns names).Perm (names ++ columns) := by
  have hblock : (lastBlock columns names).Perm names := by
    unfold lastBlock
    split
    · exact List.reverse_perm names
    · exact List.Perm.refl names
  rw [insertLastAfter_eq]
  exact (perm_insertBlock columns _ _).trans (hblock.append_right columns)

theorem perm_moveToEnd (columns names : List String) : (moveToEnd columns names).Perm columns := by
  have hfold : ∀ moved cs : List String, (∀ x ∈ moved, x ∈ cs) →
      (moved.foldl (fun cs name => cs.erase name ++ [name]) cs).Perm cs := by
    intro moved
    induction moved with
    | nil => exact fun cs _ => List.Perm.refl cs
    | cons name rest ih =>
        intro cs hmoved
        have hstep : (cs.erase name ++ [name]).Perm cs :=
          List.perm_append_comm.trans
            (List.perm_cons_erase (hmoved name List.mem_cons_self)).symm
        refine (ih _ fun x hx => ?_).trans hstep
        exact hstep.mem_iff.2 (hmoved x (List.mem_cons_of_mem name hx))
  exact hfold _ columns fun x hx => (List.mem_filter.1 hx).1

/-- The first four groups put their formulas in. -/
theorem Groups.perm_withAfter (g : Groups) (columns : List String) :
    (g.withAfter columns).Perm (columns ++
      (g.first ++ (g.lastAfter ++ (g.before.map (·.name) ++ g.after.map (·.name))))) := by
  refine List.perm_iff_count.2 fun x => ?_
  have hfirst : (g.withFirst columns).count x = _ :=
    (perm_insertFirst columns g.first).count_eq x
  have hlast : (g.withLastAfter columns).count x = _ :=
    (perm_insertLastAfter (g.withFirst columns) g.lastAfter).count_eq x
  have hbefore : (g.withBefore columns).count x = _ :=
    (perm_foldl_insertAt (beforeIndex g.lastAfter.length) (·.name) g.before _).count_eq x
  have hafter : (g.withAfter columns).count x = _ :=
    (perm_foldl_insertAt (fun cs (b : Beside) => b.place cs + 1) (·.name) g.after _).count_eq x
  simp only [List.count_append] at *
  omega

/-- The groups put their formulas in, and leave every other column there. -/
theorem Groups.perm_insertInto (g : Groups) (columns : List String) :
    (g.insertInto columns).Perm (columns ++ g.names) := by
  refine List.perm_iff_count.2 fun x => ?_
  have hafter := (g.perm_withAfter columns).count_eq x
  have hmoved : (g.withMoved columns).count x = (g.withAfter columns).count x := by
    unfold withMoved
    split
    · rfl
    · exact (perm_moveToEnd _ _).count_eq x
  have hend : (g.insertInto columns).count x = _ :=
    (perm_foldl_insertAt (fun cs _ => cs.length - 1) id g.lastBefore
      (g.withMoved columns)).count_eq x
  simp only [List.count_append, List.map_id, names] at *
  omega

end Insertions

theorem placeFormulas_eq (columns : List String) (formulas : List FormulaSpec) :
    placeFormulas columns formulas = (acceptedFormulas columns formulas columns).map
      fun accepted => (groupsOf accepted).insertInto columns := by
  rw [placeFormulas, groupFormulas_eq]
  cases acceptedFormulas columns formulas columns <;> rfl

theorem placeFormulas_eq_ok {columns result : List String} {formulas : List FormulaSpec}
    (h : placeFormulas columns formulas = .ok result) :
    ∃ accepted, acceptedFormulas columns formulas columns = .ok accepted ∧
      (groupsOf accepted).insertInto columns = result := by
  rw [placeFormulas_eq] at h
  exact map_eq_ok.1 h

/-- The columns with formulas among them are the columns and the accepted formulas. -/
theorem perm_placeFormulas {columns result : List String} {formulas : List FormulaSpec}
    (h : placeFormulas columns formulas = .ok result) :
    ∃ accepted, acceptedFormulas columns formulas columns = .ok accepted ∧
      result.Perm (columns ++ accepted.map (·.1.name)) := by
  obtain ⟨accepted, haccepted, rfl⟩ := placeFormulas_eq_ok h
  obtain ⟨-, -, hall⟩ := acceptedFormulas_spec haccepted
  have hnames := perm_names_groupsOf fun a ha => (hall a ha).2
  exact ⟨accepted, haccepted, ((groupsOf accepted).perm_insertInto columns).trans
    (hnames.append_left columns)⟩

/-- A field that is shown is requested, or a display field, or a formula. -/
theorem mem_shown {fields requested result : List String} {labels : Entries String}
    {relations : List RelationSpec} {formulas : List FormulaSpec} (hfields : fields ⊆ requested)
    (h : placeFormulas (applyRelations ⟨fields, labels, .none⟩ requested relations).fields
      formulas = .ok result) {x : String} (hx : x ∈ result) :
    x ∈ requested ∨ x ∈ relations.map (·.displayField) ∨ x ∈ formulas.map (·.name) := by
  obtain ⟨accepted, haccepted, hperm⟩ := perm_placeFormulas h
  rcases List.mem_append.1 (hperm.mem_iff.1 hx) with hx | hx
  · rcases mem_fields_applyRelations_iff.1 hx with hx | ⟨_, r, -, hspec, rfl, -⟩
    · exact Or.inl (hfields (mem_keptFields_iff.1 hx).1)
    · exact Or.inr (Or.inl (List.mem_map_of_mem
        (List.mem_reverse.1 (List.mem_of_find?_eq_some hspec))))
  · obtain ⟨a, ha, rfl⟩ := List.mem_map.1 hx
    obtain ⟨hsub, -, -⟩ := acceptedFormulas_spec haccepted
    exact Or.inr (Or.inr (List.mem_map_of_mem (hsub.subset (List.mem_map_of_mem ha))))

end AdminGrid.Layout

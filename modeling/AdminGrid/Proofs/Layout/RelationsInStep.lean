import AdminGrid.Proofs.Layout.DeclaredOrder
import AdminGrid.Proofs.Layout.ShownRelations

/-!
# Columns, headings and relations in step

Showing a relation changes four things at once: the columns, the headings, the shown relations and
the columns that they join.  It either does all of it or, where the display field is a column
already, nothing.  So after every relation the columns are those that stayed and one display field
for each shown relation, the headings differ from the given ones at these display fields alone, and
the joined columns are those of the shown relations.
-/

namespace AdminGrid.Layout

/-- The display fields of the relations that are shown. -/
def Columns.displays (c : Columns) : List String :=
  c.relations.relations.map (·.2.displayField)

/-- The columns with the display field of an alias put in at an index. -/
def Columns.withDisplay (c : Columns) (place : Nat × String) (r : RelationSpec) : Columns where
  fields := insertAt c.fields place.1 r.displayField
  labels := c.labels.put r.displayField r.label
  relations :=
    { relations := c.relations.relations.put place.2 ⟨r.displayField, r.foreignKey⟩
      foreignKeys := c.relations.foreignKeys.merge r.foreignKey }

/-- Columns that show relations among the kept ones, with everything that belongs to a relation. -/
structure InStep (relations : List RelationSpec) (kept : List String) (labels : Entries String)
    (c : Columns) : Prop extends Traced (byAlias relations) c where
  /-- The kept columns and one display field for each shown relation. -/
  columns : c.fields.Perm (kept ++ c.displays)
  /-- The kept columns are in their order. -/
  order : c.fields.filter (fun x => x ∉ c.displays) = kept
  /-- A display field has the heading of its relation. -/
  headed : ∀ e ∈ c.relations.relations,
    c.labels.get? e.2.displayField = (specOf? relations e.1).map (·.label)
  /-- The other headings are the given ones. -/
  others : ∀ x, x ∉ c.displays → c.labels.get? x = labels.get? x
  /-- The joined columns are those of the foreign keys of the shown relations. -/
  joined : ∀ x, x ∈ c.relations.foreignKeys.keys ↔
    ∃ e ∈ c.relations.relations, x ∈ e.2.foreignKey.keys

section Step

variable {relations : List RelationSpec} {kept : List String} {labels : Entries String}
  {c : Columns} {place : Nat × String} {r : RelationSpec}

theorem showRelation_of_fresh (hget : (byAlias relations).get? place.2 = some r)
    (hfresh : r.displayField ∉ c.fields) :
    showRelation (byAlias relations) c place = c.withDisplay place r := by
  have hcontains : c.fields.contains r.displayField = false := by simpa using hfresh
  simp only [showRelation, hget, hcontains, Bool.false_eq_true, if_false, Columns.withDisplay]

/-- A place shows a relation whose display field is no column yet, or changes nothing. -/
theorem showRelation_cases (relations : List RelationSpec) (c : Columns) (place : Nat × String) :
    showRelation (byAlias relations) c place = c ∨
      ∃ r, (byAlias relations).get? place.2 = some r ∧ r.displayField ∉ c.fields ∧
        showRelation (byAlias relations) c place = c.withDisplay place r := by
  cases hget : (byAlias relations).get? place.2 with
  | none => exact Or.inl (by simp only [showRelation, hget])
  | some r =>
      by_cases hmem : r.displayField ∈ c.fields
      · have hcontains : c.fields.contains r.displayField = true := by simpa using hmem
        exact Or.inl (by simp only [showRelation, hget, hcontains, if_true])
      · exact Or.inr ⟨r, rfl, hmem, showRelation_of_fresh hget hmem⟩

theorem InStep.shown_withDisplay (h : InStep relations kept labels c)
    (hget : (byAlias relations).get? place.2 = some r) (hfresh : r.displayField ∉ c.fields) :
    (c.withDisplay place r).relations.relations =
      c.relations.relations ++ [(place.2, ⟨r.displayField, r.foreignKey⟩)] :=
  Entries.put_of_not_mem_keys _ (h.not_mem_keys hget hfresh)

theorem InStep.displays_withDisplay (h : InStep relations kept labels c)
    (hget : (byAlias relations).get? place.2 = some r) (hfresh : r.displayField ∉ c.fields) :
    (c.withDisplay place r).displays = c.displays ++ [r.displayField] := by
  rw [Columns.displays, h.shown_withDisplay hget hfresh, List.map_append]
  rfl

theorem inStep_none (kept : List String) (labels : Entries String) :
    InStep relations kept labels ⟨kept, labels, .none⟩ where
  toTraced := traced_none _ _ _
  columns := by simp [Columns.displays, RelationMeta.none]
  order := by simp [Columns.displays, RelationMeta.none]
  headed := by simp [RelationMeta.none]
  others := fun _ _ => rfl
  joined := by simp [RelationMeta.none, Entries.keys]

theorem InStep.withDisplay (h : InStep relations kept labels c)
    (hget : (byAlias relations).get? place.2 = some r) (hfresh : r.displayField ∉ c.fields) :
    InStep relations kept labels (c.withDisplay place r) := by
  have hshown := h.shown_withDisplay hget hfresh
  have hdisplays := h.displays_withDisplay hget hfresh
  -- no relation that is shown has this display field
  have hne : ∀ e ∈ c.relations.relations, r.displayField ≠ e.2.displayField :=
    fun e he heq => hfresh (heq ▸ h.fields e he)
  constructor
  case toTraced => exact showRelation_of_fresh hget hfresh ▸ h.toTraced.showRelation place
  case columns =>
    rw [hdisplays, ← List.append_assoc]
    exact perm_insertAt.trans ((h.columns.cons r.displayField).trans
      (List.perm_append_singleton _ _).symm)
  case order =>
    rw [hdisplays]
    refine (filter_insertAt _ (by simp)).trans (Eq.trans ?_ h.order)
    refine List.filter_congr fun x hx => ?_
    have hxr : x ≠ r.displayField := fun heq => hfresh (heq ▸ hx)
    simp [hxr]
  case headed =>
    intro e he
    rw [hshown, List.mem_append, List.mem_singleton] at he
    rcases he with he | rfl
    · exact (Entries.get?_put_of_ne _ _ (hne e he)).trans (h.headed e he)
    · rw [← get?_byAlias, hget]
      exact Entries.get?_put_self _ _ _
  case others =>
    intro x hx
    rw [hdisplays, List.mem_append, List.mem_singleton, not_or] at hx
    exact (Entries.get?_put_of_ne _ _ (Ne.symm hx.2)).trans (h.others x hx.1)
  case joined =>
    intro x
    rw [hshown]
    show x ∈ (c.relations.foreignKeys.merge r.foreignKey).keys ↔ _
    rw [Entries.mem_keys_merge_iff, h.joined]
    simp only [List.mem_append, List.mem_singleton, or_and_right, exists_or, exists_eq_left]

/-- Showing a relation keeps everything in step. -/
theorem InStep.showRelation (h : InStep relations kept labels c) (place : Nat × String) :
    InStep relations kept labels (showRelation (byAlias relations) c place) := by
  rcases showRelation_cases relations c place with hsame | ⟨r, hget, hfresh, hput⟩
  · rwa [hsame]
  · rw [hput]
    exact h.withDisplay hget hfresh

theorem InStep.foldl_showRelation (h : InStep relations kept labels c)
    (places : List (Nat × String)) :
    InStep relations kept labels (places.foldl (Layout.showRelation (byAlias relations)) c) := by
  induction places generalizing c with
  | nil => exact h
  | cons place rest ih => exact ih (h.showRelation place)

/-- Kept columns and display fields are different columns, each there once. -/
theorem InStep.nodup (h : InStep relations kept labels c) (hkept : kept.Nodup) :
    c.fields.Nodup := by
  rw [h.columns.nodup_iff, List.nodup_append]
  refine ⟨hkept, h.displays, fun x hx y hy hxy => ?_⟩
  rw [← h.order, List.mem_filter] at hx
  exact of_decide_eq_true hx.2 (hxy ▸ hy)

end Step

/-- Applying relations keeps columns, headings and relations in step: among columns without doubles
there are no doubles afterwards, the columns are those that are no requested aliases, in their
order, and one display field for each shown relation, which has the heading of its relation; no
other heading is changed, and the joined columns are those of the shown relations. -/
theorem applyRelations_inStep {fields : List String} (hfields : fields.Nodup)
    (requested : List String) (relations : List RelationSpec) (labels : Entries String) :
    (applyRelations ⟨fields, labels, .none⟩ requested relations).fields.Nodup ∧
      InStep relations (keptFields relations fields requested) labels
        (applyRelations ⟨fields, labels, .none⟩ requested relations) := by
  have hstep : InStep relations (keptFields relations fields requested) labels
      (applyRelations ⟨fields, labels, .none⟩ requested relations) := by
    rw [applyRelations_eq]
    exact (inStep_none _ labels).foldl_showRelation _
  exact ⟨hstep.nodup (hfields.filter _), hstep⟩

/-- A shop shown under its own name, a user, another alias with the display field of the user, and
an alias whose display field is an ordinary column. -/
def overlappingRelations : List RelationSpec :=
  [⟨"shop", "shop", none, [("shops.id", "orders.shop")]⟩,
    ⟨"user_id", "users.name", some "Buyer", [("users.id", "orders.user_id")]⟩,
    ⟨"owner", "users.name", none, [("users.id", "orders.owner")]⟩,
    ⟨"note", "id", none, []⟩]

/-- Two of the four relations are shown, and nothing else is touched. -/
theorem applyRelations_inStep_overlapping :
    ["id", "user_id", "note"].Nodup ∧
    (applyRelations ⟨["id", "user_id", "note"], [("id", "Number"), ("shop", "Old")], .none⟩
      ["shop", "user_id", "owner", "note", "shop"] overlappingRelations).fields =
        ["shop", "users.name", "id"] ∧
    InStep overlappingRelations ["id"] [("id", "Number"), ("shop", "Old")]
      (applyRelations ⟨["id", "user_id", "note"], [("id", "Number"), ("shop", "Old")], .none⟩
        ["shop", "user_id", "owner", "note", "shop"] overlappingRelations) := by
  have hfields : ["id", "user_id", "note"].Nodup := by decide
  have hkept : keptFields overlappingRelations ["id", "user_id", "note"]
      ["shop", "user_id", "owner", "note", "shop"] = ["id"] := by decide
  have hplaces : aliasPlaces (byAlias overlappingRelations) ["id", "user_id", "note"]
      ["shop", "user_id", "owner", "note", "shop"] =
        [(0, "shop"), (1, "user_id"), (2, "owner"), (4, "shop")] :=
    aliasPlaces_eq_of_perm (by decide) (by decide)
  refine ⟨hfields, by rw [applyRelations_eq, hplaces, hkept]; rfl, ?_⟩
  rw [← hkept]
  exact (applyRelations_inStep hfields _ overlappingRelations _).2

end AdminGrid.Layout

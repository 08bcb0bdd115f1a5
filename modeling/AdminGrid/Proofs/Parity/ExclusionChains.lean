import AdminGrid.Direct.Query
import AdminGrid.Proofs.Layout.ShownRelations
import AdminGrid.Proofs.Request.Context
import Mathlib.Data.List.Induction

/-!
# Chains of exclusions

A field that is switched off excludes the display field of the relation whose alias it is.  The
single pass asks of each alias whether it is declared so; the staged compilation asks whether it is
excluded by then, so that a display field excludes in turn, where it is the alias of a later
relation.  What is excluded is the same exactly if every such chain ends in a field that is excluded
anyway.
-/

namespace AdminGrid.Layout

section Chains

variable {declared : List String} {relations : List (String × ShownRelation)}

/-- Whether every relation that an excluded display field would exclude is excluded by declaration:
it follows the relation of this display field, whose alias is declared. -/
def ChainsDeclared (declared : List String) (relations : List (String × ShownRelation)) : Prop :=
  ∀ front e back, relations = front ++ e :: back →
    (∃ first ∈ front, first.1 ∈ declared ∧ first.2.displayField = e.1) →
      e.1 ∈ declared ∨ e.2.displayField ∈ declared

/-- The display field of a relation whose alias is excluded by the time it comes is excluded. -/
theorem display_mem_foldl_excludeDisplay {front back : List (String × ShownRelation)}
    {e : String × ShownRelation} (h : e.1 ∈ front.foldl excludeDisplay declared) :
    e.2.displayField ∈ (front ++ e :: back).foldl excludeDisplay declared := by
  rw [List.foldl_append, List.foldl_cons]
  refine subset_foldl_excludeDisplay back _ ?_
  rw [excludeDisplay, if_pos (List.contains_iff_mem.2 h)]
  exact List.mem_append_right _ List.mem_cons_self

/-- Without chains to other relations nothing else is excluded. -/
theorem mem_of_mem_foldl_excludeDisplay (hchains : ChainsDeclared declared relations) {f : String}
    (h : f ∈ relations.foldl excludeDisplay declared) :
    f ∈ declared ∨ ∃ e ∈ relations, e.1 ∈ declared ∧ e.2.displayField = f := by
  induction relations using List.reverseRecOn generalizing f with
  | nil => exact Or.inl h
  | append_singleton front e ih =>
      have hfront : ChainsDeclared declared front := fun first e' back hsplit =>
        hchains first e' (back ++ [e]) (by rw [hsplit, List.append_assoc, List.cons_append])
      have hearlier (g : String) (hg : g ∈ front.foldl excludeDisplay declared) :
          g ∈ declared ∨ ∃ e' ∈ front ++ [e], e'.1 ∈ declared ∧ e'.2.displayField = g := by
        refine (ih hfront hg).imp_right ?_
        rintro ⟨e', he', hdeclared, hdisplay⟩
        exact ⟨e', List.mem_append_left _ he', hdeclared, hdisplay⟩
      rw [List.foldl_append, List.foldl_cons, List.foldl_nil, excludeDisplay] at h
      split at h
      · rename_i hexcluded
        rcases List.mem_append.1 h with h | h
        · exact hearlier f h
        · obtain rfl := List.mem_singleton.1 h
          -- the alias of the last relation is excluded: by declaration, or by a chain that ends
          have hlast : e.1 ∈ declared ∨ e.2.displayField ∈ declared := by
            rcases ih hfront (List.contains_iff_mem.1 hexcluded) with hdeclared | hchain
            · exact Or.inl hdeclared
            · exact hchains front e [] rfl hchain
          rcases hlast with hdeclared | hdisplay
          · exact Or.inr ⟨e, List.mem_append_right _ List.mem_cons_self, hdeclared, rfl⟩
          · exact Or.inl hdisplay
      · exact hearlier f h

end Chains

section Excluded

variable {d : TableDescriptor} {shown : RelationMeta} {allowed : ColumnSpec → Bool} {f : String}

theorem mem_excluded_iff : f ∈ Direct.excluded d shown allowed ↔
    f ∈ d.fieldsWith (fun c => !allowed c) ∨
      ∃ e ∈ shown.relations, e.1 ∈ d.fieldsWith (fun c => !allowed c) ∧
        e.2.displayField = f := by
  simp only [Direct.excluded, List.mem_append, List.mem_map, List.mem_filter,
    List.contains_iff_mem, and_assoc]

theorem excluded_subset_excludedFields :
    Direct.excluded d shown allowed ⊆ excludedFields d shown allowed := by
  intro f hf
  rcases mem_excluded_iff.1 hf with hdeclared | ⟨e, he, hdeclared, rfl⟩
  · exact fieldsWith_subset_excludedFields d shown allowed hdeclared
  · obtain ⟨front, back, hsplit⟩ := List.append_of_mem he
    rw [excludedFields, hsplit]
    exact display_mem_foldl_excludeDisplay (subset_foldl_excludeDisplay front _ hdeclared)

/-- For the relations that can be shown, both compilations exclude the declared fields without a
property and the display fields of their relations, and they exclude the same exactly if no relation
is excluded by a chain alone.  Otherwise the staged compilation excludes more. -/
theorem excludedFields_eq_excluded_iff (d : TableDescriptor) (fields requested : List String)
    (labels : Entries String) (relations : List RelationSpec) (allowed : ColumnSpec → Bool) :
    let shown := (applyRelations ⟨fields, labels, .none⟩ requested relations).relations
    Direct.excluded d shown allowed ⊆ excludedFields d shown allowed ∧
    ((∀ f, f ∈ excludedFields d shown allowed ↔ f ∈ Direct.excluded d shown allowed) ↔
      ChainsDeclared (d.fieldsWith fun c => !allowed c) shown.relations) := by
  intro shown
  refine ⟨excluded_subset_excludedFields, fun hsame => ?_, fun hchains f => ?_⟩
  · rintro front e back hsplit ⟨first, hfirst, hdeclared, hdisplay⟩
    have halias : e.1 ∈ front.foldl excludeDisplay (d.fieldsWith fun c => !allowed c) := by
      obtain ⟨before, between, rfl⟩ := List.append_of_mem hfirst
      rw [← hdisplay]
      exact display_mem_foldl_excludeDisplay (subset_foldl_excludeDisplay before _ hdeclared)
    have hexcluded : e.2.displayField ∈ excludedFields d shown allowed := by
      rw [excludedFields, hsplit]
      exact display_mem_foldl_excludeDisplay halias
    rcases mem_excluded_iff.1 ((hsame _).1 hexcluded) with hdisplay | ⟨e', he', halias', heq⟩
    · exact Or.inr hdisplay
    · -- a display field is shown for one alias only
      have hunique := (traced_applyRelations fields labels requested relations).displays
      have he : e ∈ shown.relations := hsplit ▸ List.mem_append_right front List.mem_cons_self
      have hsamerelation : e' = e := List.inj_on_of_nodup_map hunique he' he heq
      exact Or.inl (hsamerelation ▸ halias')
  · refine ⟨fun hf => ?_, fun hf => excluded_subset_excludedFields hf⟩
    exact mem_excluded_iff.2 (mem_of_mem_foldl_excludeDisplay hchains hf)

end Excluded

/-- Two columns of the orders that stand for relations, the first of them never searched. -/
def ownedOrders : TableDescriptor :=
  { Request.ordersTable with
    columns := [⟨"user", none, false, false, true, false, false⟩,
      ⟨"owner", none, false, false, true, true, false⟩] }

/-- The owner of a user is shown for the user, and the title of a team for the owner. -/
def ownerRelations : List RelationSpec :=
  [⟨"user", "owner", none, [("orders.user_id", "users.id")]⟩,
    ⟨"owner", "title", none, [("orders.team_id", "teams.id")]⟩]

/-- The title is excluded from the search by the staged compilation alone, although the alias that it
stands for may be searched. -/
theorem excludedFields_ownedOrders :
    let shown := (applyRelations ⟨[], ownedOrders.labels, .none⟩ ["user", "owner"]
      ownerRelations).relations
    Direct.excluded ownedOrders shown (·.searchable) = ["user", "owner"] ∧
      excludedFields ownedOrders shown (·.searchable) = ["user", "owner", "title"] := by
  have hplaces : aliasPlaces (byAlias ownerRelations) [] ["user", "owner"] =
      [(0, "user"), (1, "owner")] := List.mergeSort_of_pairwise (by decide)
  rw [applyRelations_eq]
  simp only [hplaces]
  decide

end AdminGrid.Layout

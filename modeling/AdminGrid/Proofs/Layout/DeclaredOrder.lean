import AdminGrid.Layout.Requested
import AdminGrid.Proofs.Layout.AliasPlaces
import AdminGrid.Proofs.Layout.Precedence

/-!
# The declared order of columns

A relation column is put at an absolute index: an alias that the table does not know counts its
position among the requested names, an alias that is a column counts its position among the fields.
The columns come in the declared order exactly if each of these indexes happens to be the number of
requested names before the alias that are shown at all.

The list that is expected is the list of the shown names, each replaced by the column that stands
for it.  The list that comes out has the same columns, the ordinary ones in the same order; so the
two agree as soon as every relation column stands at the same index in both.
-/

namespace AdminGrid.Layout

/-- The column that stands for a requested name: the display field of an alias, or the name. -/
def shownAs (relations : List RelationSpec) (name : String) : String :=
  ((specOf? relations name).map (·.displayField)).getD name

/-- A requested name that is shown: a field that is no alias, or an alias that has a place. -/
def isShown (relations : List RelationSpec) (fields requested : List String)
    (name : String) : Bool :=
  (keptFields relations fields requested).contains name ||
    (aliasPlaces (byAlias relations) fields requested).any (·.2 == name)

/-- The number of shown names before a requested name. -/
def shownAhead (relations : List RelationSpec) (fields requested : List String)
    (name : String) : Nat :=
  ((ahead requested name).filter (isShown relations fields requested)).length

/-- Columns that come in the order of the requested names that they stand for. -/
def InDeclaredOrder (relations : List RelationSpec) (requested columns : List String) : Prop :=
  ∀ x y, Precedes requested x y → shownAs relations x ∈ columns → shownAs relations y ∈ columns →
    Precedes columns (shownAs relations x) (shownAs relations y)

/-- Every relation column is put at the index that its alias has among the shown names. -/
def PlacedInOrder (relations : List RelationSpec) (fields requested : List String) : Prop :=
  ∀ j i name, (aliasPlaces (byAlias relations) fields requested)[j]? = some (i, name) →
    min i ((keptFields relations fields requested).length + j) =
      shownAhead relations fields requested name

theorem shownAs_of_specOf?_eq_none {relations : List RelationSpec} {name : String}
    (h : specOf? relations name = none) : shownAs relations name = name := by
  rw [shownAs, h]
  rfl

section Places

variable {relations : List RelationSpec} {fields requested : List String}

theorem unknownPlaces_sublist (aliases : Entries RelationSpec) (fields requested : List String) :
    ((unknownPlaces aliases fields requested).map (·.1)).Sublist (List.range requested.length) ∧
      ((unknownPlaces aliases fields requested).map (·.2)).Sublist requested := by
  have hfilter := (List.filter_sublist (l := requested.zipIdx)
    (p := fun place => aliases.has place.1 && !fields.contains place.1))
  constructor
  · have h := hfilter.map (·.2)
    rw [List.zipIdx_map_snd, ← List.range_eq_range'] at h
    simpa [unknownPlaces, Function.comp_def] using h
  · have h := hfilter.map (·.1)
    rw [List.zipIdx_map_fst] at h
    simpa [unknownPlaces, Function.comp_def] using h

theorem knownPlaces_sublist (aliases : Entries RelationSpec) (fields requested : List String) :
    ((knownPlaces aliases fields requested).map (·.1)).Sublist (List.range fields.length) ∧
      ((knownPlaces aliases fields requested).map (·.2)).Sublist fields := by
  have hfilter := (List.filter_sublist (l := fields.zipIdx)
    (p := fun place => aliases.has place.1 && requested.contains place.1))
  constructor
  · have h := hfilter.map (·.2)
    rw [List.zipIdx_map_snd, ← List.range_eq_range'] at h
    simpa [knownPlaces, Function.comp_def] using h
  · have h := hfilter.map (·.1)
    rw [List.zipIdx_map_fst] at h
    simpa [knownPlaces, Function.comp_def] using h

/-- The places of the fields that no unknown alias claims. -/
def freePlaces (aliases : Entries RelationSpec) (fields requested : List String) :
    List (Nat × String) :=
  (knownPlaces aliases fields requested).filter fun (i, _) =>
    !(unknownPlaces aliases fields requested).any fun (j, _) => j == i

theorem perm_aliasPlaces (aliases : Entries RelationSpec) (fields requested : List String) :
    (aliasPlaces aliases fields requested).Perm
      (unknownPlaces aliases fields requested ++ freePlaces aliases fields requested) :=
  List.mergeSort_perm _ _

/-- Each index is claimed once, and the places come in ascending order. -/
theorem pairwise_aliasPlaces (aliases : Entries RelationSpec) (fields requested : List String) :
    (aliasPlaces aliases fields requested).Pairwise (·.1 < ·.1) := by
  have hle : (aliasPlaces aliases fields requested).Pairwise (fun a b => a.1 ≤ b.1) := by
    have h := @List.pairwise_mergeSort (Nat × String) (fun a b => decide (a.1 ≤ b.1))
      (fun a b c => by simpa using Nat.le_trans) (fun a b => by simpa using Nat.le_total a.1 b.1)
      (unknownPlaces aliases fields requested ++ freePlaces aliases fields requested)
    simpa [aliasPlaces, freePlaces] using h
  have hne : ((aliasPlaces aliases fields requested).map (·.1)).Nodup := by
    rw [((perm_aliasPlaces aliases fields requested).map _).nodup_iff, List.map_append,
      List.nodup_append]
    refine ⟨(unknownPlaces_sublist aliases fields requested).1.nodup List.nodup_range,
      (List.filter_sublist.map _).nodup
        ((knownPlaces_sublist aliases fields requested).1.nodup List.nodup_range), ?_⟩
    intro i hi j hj hij
    simp only [freePlaces, List.mem_map, List.mem_filter, Bool.not_eq_true', List.any_eq_false,
      beq_iff_eq] at hi hj
    obtain ⟨place, hplace, rfl⟩ := hi
    obtain ⟨other, ⟨-, hfree⟩, rfl⟩ := hj
    exact hfree place hplace hij
  exact hle.imp₂ (fun a b hle hne => Nat.lt_of_le_of_ne hle hne) (List.pairwise_map.1 hne)

/-- The places are the claims in whichever order is ascending. -/
theorem aliasPlaces_eq_of_perm {aliases : Entries RelationSpec} {places : List (Nat × String)}
    (hperm : (unknownPlaces aliases fields requested ++ freePlaces aliases fields requested).Perm
      places) (hsorted : places.Pairwise (·.1 < ·.1)) :
    aliasPlaces aliases fields requested = places :=
  List.Perm.eq_of_pairwise (fun _ _ _ _ hab hba => absurd hab (Nat.lt_asymm hba))
    (pairwise_aliasPlaces aliases fields requested) hsorted
    ((perm_aliasPlaces aliases fields requested).trans hperm)

/-- Each alias has one place. -/
theorem nodup_names_aliasPlaces (aliases : Entries RelationSpec) (hfields : fields.Nodup)
    (hrequested : requested.Nodup) :
    ((aliasPlaces aliases fields requested).map (·.2)).Nodup := by
  rw [((perm_aliasPlaces aliases fields requested).map _).nodup_iff, List.map_append,
    List.nodup_append]
  refine ⟨(unknownPlaces_sublist aliases fields requested).2.nodup hrequested,
    (List.filter_sublist.map _).nodup
      ((knownPlaces_sublist aliases fields requested).2.nodup hfields), ?_⟩
  intro name hname other hother heq
  obtain ⟨⟨i, _⟩, hplace, rfl⟩ := List.mem_map.1 hname
  have hmem : other ∈ fields := by
    have hknown : other ∈ (knownPlaces aliases fields requested).map (·.2) :=
      (List.filter_sublist.map _).subset hother
    exact (knownPlaces_sublist aliases fields requested).2.subset hknown
  rw [← heq] at hmem
  exact (mem_unknownPlaces_iff.1 hplace).2.2 hmem

/-- Display fields that are not there yet, and are all different, are put in at their places. -/
theorem fields_foldl_showRelation (c : Columns) {places : List (Nat × String)}
    (hspec : ∀ place ∈ places, (specOf? relations place.2).isSome)
    (hnew : ∀ place ∈ places, shownAs relations place.2 ∉ c.fields)
    (hnodup : (places.map fun place => shownAs relations place.2).Nodup) :
    (places.foldl (showRelation (byAlias relations)) c).fields =
      insertAll c.fields (places.map fun place => (place.1, shownAs relations place.2)) := by
  induction places generalizing c with
  | nil => rfl
  | cons place rest ih =>
      obtain ⟨r, hr⟩ := Option.isSome_iff_exists.1 (hspec place List.mem_cons_self)
      have hshown : shownAs relations place.2 = r.displayField := by rw [shownAs, hr]; rfl
      have hfields : (showRelation (byAlias relations) c place).fields =
          insertAt c.fields place.1 (shownAs relations place.2) := by
        have hcontains : c.fields.contains r.displayField = false := by
          simpa [hshown] using hnew place List.mem_cons_self
        simp only [showRelation, get?_byAlias, hr, hcontains, Bool.false_eq_true, if_false, hshown]
      rw [List.map_cons] at hnodup
      obtain ⟨hfirst, hrest⟩ := List.nodup_cons.1 hnodup
      rw [List.foldl_cons, List.map_cons, insertAll_cons, ih _ ?_ ?_ hrest, hfields]
      · exact fun q hq => hspec q (List.mem_cons_of_mem _ hq)
      · intro q hq
        rw [hfields, mem_insertAt, not_or]
        -- a later relation neither repeats the one just shown nor a field that was there before
        refine ⟨fun heq => hfirst ?_, hnew q (List.mem_cons_of_mem _ hq)⟩
        exact List.mem_map.2 ⟨q, hq, heq⟩

end Places

section Order

variable {relations : List RelationSpec} {fields requested : List String}

/-- A part of a list without duplicates is what a filter by membership keeps. -/
theorem filter_contains_eq_of_sublist (hsub : fields.Sublist requested) (hnodup : requested.Nodup) :
    requested.filter fields.contains = fields := by
  have hself : fields.filter fields.contains = fields :=
    List.filter_eq_self.2 fun x hx => by simpa using hx
  have hkeep : fields.Sublist (requested.filter fields.contains) := by
    simpa only [hself] using hsub.filter fields.contains
  refine (hkeep.eq_of_length_le (List.subperm_of_subset (hnodup.filter _) ?_ |>.length_le)).symm
  intro x hx
  simpa using (List.mem_filter.1 hx).2

theorem mem_requested_of_isShown (hsub : fields.Sublist requested) {name : String}
    (h : isShown relations fields requested name = true) : name ∈ requested := by
  simp only [isShown, Bool.or_eq_true, List.contains_eq_mem, decide_eq_true_eq, List.any_eq_true,
    beq_iff_eq] at h
  rcases h with h | ⟨⟨i, _⟩, hplace, rfl⟩
  · exact hsub.subset (mem_keptFields_iff.1 h).1
  · exact (exists_mem_aliasPlaces_iff.1 ⟨i, hplace⟩).1

theorem specOf?_eq_none_of_mem_keptFields (hsub : fields.Sublist requested) {name : String}
    (h : name ∈ keptFields relations fields requested) : specOf? relations name = none := by
  obtain ⟨hmem, hno⟩ := mem_keptFields_iff.1 h
  by_contra hspec
  exact hno ⟨Option.isSome_iff_ne_none.2 hspec, hsub.subset hmem⟩

theorem isSome_specOf?_of_mem_aliasPlaces {place : Nat × String}
    (h : place ∈ aliasPlaces (byAlias relations) fields requested) :
    place.2 ∈ requested ∧ (specOf? relations place.2).isSome := by
  obtain ⟨hmem, hspec, -⟩ := exists_mem_aliasPlaces_iff.1 ⟨place.1, h⟩
  exact ⟨hmem, hspec⟩

/-- The shown names, each replaced by the column that stands for it. -/
def expectedFields (relations : List RelationSpec) (fields requested : List String) :
    List String :=
  (requested.filter (isShown relations fields requested)).map (shownAs relations)

/-- The relation columns with the indexes at which they are put. -/
def relationPlaces (relations : List RelationSpec) (fields requested : List String) :
    List (Nat × String) :=
  (aliasPlaces (byAlias relations) fields requested).map fun place =>
    (place.1, shownAs relations place.2)

/-- A relation column is never an ordinary column. -/
theorem shownAs_not_mem_keptFields (hsub : fields.Sublist requested)
    (hnodup : (requested.map (shownAs relations)).Nodup) {place : Nat × String}
    (h : place ∈ aliasPlaces (byAlias relations) fields requested) :
    shownAs relations place.2 ∉ keptFields relations fields requested := by
  intro hkept
  obtain ⟨hmem, hspec⟩ := isSome_specOf?_of_mem_aliasPlaces h
  have hnone := specOf?_eq_none_of_mem_keptFields hsub hkept
  have hsame : shownAs relations place.2 = place.2 :=
    List.inj_on_of_nodup_map hnodup (hsub.subset (mem_keptFields_iff.1 hkept).1) hmem
      (shownAs_of_specOf?_eq_none hnone)
  rw [hsame] at hnone
  rw [hnone] at hspec
  cases hspec

theorem fields_applyRelations_eq {c : Columns} (hsub : c.fields.Sublist requested)
    (hnodup : (requested.map (shownAs relations)).Nodup) :
    (applyRelations c requested relations).fields =
      insertAll (keptFields relations c.fields requested)
        (relationPlaces relations c.fields requested) := by
  have hrequested : requested.Nodup := hnodup.of_map _
  rw [applyRelations_eq, relationPlaces]
  refine fields_foldl_showRelation _ (fun place h => (isSome_specOf?_of_mem_aliasPlaces h).2)
    (fun place h => shownAs_not_mem_keptFields hsub hnodup h) ?_
  have hnames := nodup_names_aliasPlaces (byAlias relations) (hsub.nodup hrequested) hrequested
  suffices h : (((aliasPlaces (byAlias relations) c.fields requested).map (·.2)).map
      (shownAs relations)).Nodup by rwa [List.map_map] at h
  refine List.Nodup.map_on ?_ hnames
  intro x hx y hy hxy
  obtain ⟨place, hplace, rfl⟩ := List.mem_map.1 hx
  obtain ⟨other, hother, rfl⟩ := List.mem_map.1 hy
  exact List.inj_on_of_nodup_map hnodup (isSome_specOf?_of_mem_aliasPlaces hplace).1
    (isSome_specOf?_of_mem_aliasPlaces hother).1 hxy

theorem nodup_expectedFields (hnodup : (requested.map (shownAs relations)).Nodup) :
    (expectedFields relations fields requested).Nodup :=
  (List.filter_sublist.map _).nodup hnodup

/-- The columns that come out are the expected ones, in some order. -/
theorem perm_expectedFields {c : Columns} (hsub : c.fields.Sublist requested)
    (hnodup : (requested.map (shownAs relations)).Nodup) :
    (applyRelations c requested relations).fields.Perm
      (expectedFields relations c.fields requested) := by
  have hrequested : requested.Nodup := hnodup.of_map _
  have hout : (applyRelations c requested relations).fields.Perm
      (((relationPlaces relations c.fields requested).map (·.2)) ++
        keptFields relations c.fields requested) := by
    rw [fields_applyRelations_eq hsub hnodup]
    exact perm_insertAll _ _
  -- the names behind the columns, the aliases before the ordinary ones
  have hnames : (((aliasPlaces (byAlias relations) c.fields requested).map (·.2)) ++
      keptFields relations c.fields requested).Perm
        (requested.filter (isShown relations c.fields requested)) := by
    refine (List.perm_ext_iff_of_nodup ?_ (hrequested.filter _)).2 fun name => ?_
    · refine List.nodup_append.2 ⟨nodup_names_aliasPlaces _ (hsub.nodup hrequested) hrequested,
        List.filter_sublist.nodup (hsub.nodup hrequested), ?_⟩
      intro name hname other hother heq
      obtain ⟨place, hplace, rfl⟩ := List.mem_map.1 hname
      have hspec := (isSome_specOf?_of_mem_aliasPlaces hplace).2
      rw [heq, specOf?_eq_none_of_mem_keptFields hsub hother] at hspec
      cases hspec
    · have hshown : isShown relations c.fields requested name = true ↔
          name ∈ (aliasPlaces (byAlias relations) c.fields requested).map (·.2) ∨
            name ∈ keptFields relations c.fields requested := by
        simp [isShown, or_comm]
      rw [List.mem_append, List.mem_filter, ← hshown]
      exact ⟨fun h => ⟨mem_requested_of_isShown hsub h, h⟩, fun h => h.2⟩
  have hkept : (keptFields relations c.fields requested).map (shownAs relations) =
      keptFields relations c.fields requested := by
    refine (List.map_congr_left fun name hname => ?_).trans (List.map_id _)
    exact shownAs_of_specOf?_eq_none (specOf?_eq_none_of_mem_keptFields hsub hname)
  have hmap := hnames.map (shownAs relations)
  rw [List.map_append, hkept, List.map_map] at hmap
  refine hout.trans ?_
  rw [relationPlaces, List.map_map]
  exact hmap

/-- A requested name is shown exactly if the column that stands for it comes out. -/
theorem shownAs_mem_fields_iff {c : Columns} (hsub : c.fields.Sublist requested)
    (hnodup : (requested.map (shownAs relations)).Nodup) {name : String}
    (hname : name ∈ requested) :
    shownAs relations name ∈ (applyRelations c requested relations).fields ↔
      isShown relations c.fields requested name = true := by
  rw [(perm_expectedFields hsub hnodup).mem_iff, expectedFields, List.mem_map]
  constructor
  · rintro ⟨other, hother, hsame⟩
    obtain ⟨hmem, hshown⟩ := List.mem_filter.1 hother
    rwa [List.inj_on_of_nodup_map hnodup hmem hname hsame] at hshown
  · intro hshown
    exact ⟨name, List.mem_filter.2 ⟨hname, hshown⟩, rfl⟩

/-- The declared order is the order of the expected columns. -/
theorem inDeclaredOrder_iff_eq {c : Columns} (hsub : c.fields.Sublist requested)
    (hnodup : (requested.map (shownAs relations)).Nodup) :
    InDeclaredOrder relations requested (applyRelations c requested relations).fields ↔
      (applyRelations c requested relations).fields =
        expectedFields relations c.fields requested := by
  have hperm := perm_expectedFields hsub hnodup
  constructor
  · intro horder
    refine eq_of_perm_of_precedes (hperm.nodup_iff.2 (nodup_expectedFields hnodup)) hperm ?_
    intro a b hab
    obtain ⟨pair, hpair, hmap⟩ := List.sublist_map_iff.1 hab
    obtain ⟨x, y, rfl⟩ : ∃ x y, pair = [x, y] :=
      List.length_eq_two.1 (by simpa using (congrArg List.length hmap).symm)
    obtain ⟨rfl, rfl⟩ : a = shownAs relations x ∧ b = shownAs relations y := by simpa using hmap
    refine horder x y (hpair.trans List.filter_sublist) (hperm.mem_iff.2 ?_) (hperm.mem_iff.2 ?_)
    · exact hab.mem_left
    · exact hab.mem_right
  · intro heq x y hxy hx hy
    rw [shownAs_mem_fields_iff hsub hnodup hxy.mem_left] at hx
    rw [shownAs_mem_fields_iff hsub hnodup hxy.mem_right] at hy
    rw [heq]
    exact (hxy.filter hx hy).map _

/-- The index of a relation column among the expected ones. -/
theorem getElem?_expectedFields {place : Nat × String}
    (h : place ∈ aliasPlaces (byAlias relations) fields requested) :
    (expectedFields relations fields requested)[shownAhead relations fields requested place.2]? =
      some (shownAs relations place.2) := by
  have hshown : isShown relations fields requested place.2 = true := by
    rw [isShown, Bool.or_eq_true, List.any_eq_true]
    exact Or.inr ⟨place, h, by simp⟩
  rw [expectedFields, List.getElem?_map, shownAhead,
    getElem?_filter_ahead (isSome_specOf?_of_mem_aliasPlaces h).1 hshown]
  rfl

/-- The index at which a relation column comes out. -/
theorem getElem?_fields_applyRelations {c : Columns} (hsub : c.fields.Sublist requested)
    (hnodup : (requested.map (shownAs relations)).Nodup) {j : Nat} {place : Nat × String}
    (h : (aliasPlaces (byAlias relations) c.fields requested)[j]? = some place) :
    (applyRelations c requested relations).fields[
        min place.1 ((keptFields relations c.fields requested).length + j)]? =
      some (shownAs relations place.2) := by
  have hsorted : (relationPlaces relations c.fields requested).Pairwise (·.1 < ·.1) :=
    List.pairwise_map.2 (pairwise_aliasPlaces _ _ _)
  have hget : (relationPlaces relations c.fields requested)[j]? =
      some (place.1, shownAs relations place.2) := by
    rw [relationPlaces, List.getElem?_map, h]
    rfl
  rw [fields_applyRelations_eq hsub hnodup]
  exact getElem?_insertAll hsorted hget

/-- The ordinary columns come out in their order, as they are expected. -/
theorem filter_keptFields_eq {c : Columns} (hsub : c.fields.Sublist requested)
    (hnodup : (requested.map (shownAs relations)).Nodup) :
    (applyRelations c requested relations).fields.filter
        (keptFields relations c.fields requested).contains =
      (expectedFields relations c.fields requested).filter
        (keptFields relations c.fields requested).contains := by
  have hkept : (keptFields relations c.fields requested).Sublist requested :=
    List.filter_sublist.trans hsub
  have hnodupKept := hkept.nodup (hnodup.of_map _)
  have hleft : (applyRelations c requested relations).fields.filter
      (keptFields relations c.fields requested).contains =
        keptFields relations c.fields requested := by
    rw [fields_applyRelations_eq hsub hnodup, filter_insertAll,
      filter_contains_eq_of_sublist (List.Sublist.refl _) hnodupKept]
    intro p hp
    obtain ⟨place, hplace, rfl⟩ := List.mem_map.1 hp
    simpa using shownAs_not_mem_keptFields hsub hnodup hplace
  have hright : (expectedFields relations c.fields requested).filter
      (keptFields relations c.fields requested).contains =
        keptFields relations c.fields requested := by
    have hself (name : String) (h : name ∈ keptFields relations c.fields requested) :
        shownAs relations name = name :=
      shownAs_of_specOf?_eq_none (specOf?_eq_none_of_mem_keptFields hsub h)
    -- among the requested names, only an ordinary column stands for an ordinary column
    have hsame (name : String) (hname : name ∈ requested) :
        (isShown relations c.fields requested name &&
          (keptFields relations c.fields requested).contains (shownAs relations name)) =
            (keptFields relations c.fields requested).contains name := by
      rw [Bool.eq_iff_iff, Bool.and_eq_true, List.contains_iff_mem, List.contains_iff_mem]
      constructor
      · rintro ⟨-, h⟩
        have heq := List.inj_on_of_nodup_map hnodup (hkept.subset h) hname (hself _ h)
        rwa [heq] at h
      · intro h
        exact ⟨by simp [isShown, h], (hself name h).symm ▸ h⟩
    calc (expectedFields relations c.fields requested).filter
          (keptFields relations c.fields requested).contains
        = (requested.filter (keptFields relations c.fields requested).contains).map
            (shownAs relations) := by
          rw [expectedFields, List.filter_map, List.filter_filter]
          congr 1
          refine List.filter_congr fun name hname => ?_
          rw [Function.comp_apply, Bool.and_comm, hsame name hname]
      _ = (keptFields relations c.fields requested).map (shownAs relations) := by
          rw [filter_contains_eq_of_sublist hkept (hnodup.of_map _)]
      _ = keptFields relations c.fields requested := by
          exact (List.map_congr_left hself).trans (List.map_id _)
  rw [hleft, hright]

theorem eq_expectedFields_iff_placedInOrder {c : Columns} (hsub : c.fields.Sublist requested)
    (hnodup : (requested.map (shownAs relations)).Nodup) :
    (applyRelations c requested relations).fields = expectedFields relations c.fields requested ↔
      PlacedInOrder relations c.fields requested := by
  have hperm := perm_expectedFields hsub hnodup
  have hexpected : (expectedFields relations c.fields requested).Nodup :=
    nodup_expectedFields hnodup
  constructor
  · intro heq j i name hplace
    have hout := getElem?_fields_applyRelations hsub hnodup hplace
    rw [heq] at hout
    exact (getElem?_eq_some_iff_of_nodup hexpected
      (getElem?_expectedFields (List.mem_of_getElem? hplace))).1 hout
  · intro hplaced
    refine eq_of_filter_eq (filter_keptFields_eq hsub hnodup) fun k x hx => ?_
    by_cases hmem : x ∈ (applyRelations c requested relations).fields
    · -- a column that is not an ordinary one is a relation column
      rw [fields_applyRelations_eq hsub hnodup, (perm_insertAll _ _).mem_iff, List.mem_append]
        at hmem
      have hrelation := hmem.resolve_right (by simpa using hx)
      simp only [relationPlaces, List.mem_map] at hrelation
      obtain ⟨_, ⟨place, hplace, rfl⟩, rfl⟩ := hrelation
      obtain ⟨j, hj⟩ := List.mem_iff_getElem?.1 hplace
      have hout := getElem?_fields_applyRelations hsub hnodup hj
      rw [hplaced j place.1 place.2 hj] at hout
      rw [getElem?_eq_some_iff_of_nodup (hperm.nodup_iff.2 hexpected) hout,
        getElem?_eq_some_iff_of_nodup hexpected (getElem?_expectedFields hplace)]
    · have hnot : x ∉ expectedFields relations c.fields requested := by rwa [← hperm.mem_iff]
      exact ⟨fun h => absurd (List.mem_of_getElem? h) hmem,
        fun h => absurd (List.mem_of_getElem? h) hnot⟩

end Order

/-- Requested names, and the relations among them, that can be told apart once they are shown. -/
structure DistinctDisplays (relations : List RelationSpec) (requested : List String) : Prop where
  nodup : requested.Nodup
  displays : ((requested.filterMap (specOf? relations)).map (·.displayField)).Nodup
  fresh : ∀ r ∈ requested.filterMap (specOf? relations), r.displayField ∉ requested

theorem DistinctDisplays.nodup_map_shownAs {relations : List RelationSpec} {requested : List String}
    (h : DistinctDisplays relations requested) : (requested.map (shownAs relations)).Nodup := by
  have hmem {name : String} {r : RelationSpec} (hname : name ∈ requested)
      (hr : specOf? relations name = some r) : r ∈ requested.filterMap (specOf? relations) :=
    List.mem_filterMap.2 ⟨name, hname, hr⟩
  have hshown {name : String} {r : RelationSpec} (hr : specOf? relations name = some r) :
      shownAs relations name = r.displayField := by rw [shownAs, hr]; rfl
  refine h.nodup.map_on fun x hx y hy hxy => ?_
  -- two ordinary columns differ by name, two aliases by display field, and no display field is
  -- requested itself
  cases hspecx : specOf? relations x with
  | none =>
      rw [shownAs_of_specOf?_eq_none hspecx] at hxy
      cases hspecy : specOf? relations y with
      | none => rwa [shownAs_of_specOf?_eq_none hspecy] at hxy
      | some s =>
          rw [hshown hspecy] at hxy
          exact absurd (hxy ▸ hx) (h.fresh s (hmem hy hspecy))
  | some r =>
      rw [hshown hspecx] at hxy
      cases hspecy : specOf? relations y with
      | none =>
          rw [shownAs_of_specOf?_eq_none hspecy] at hxy
          exact absurd (hxy ▸ hy) (h.fresh r (hmem hx hspecx))
      | some s =>
          rw [hshown hspecy] at hxy
          have hrs : r = s :=
            List.inj_on_of_nodup_map h.displays (hmem hx hspecx) (hmem hy hspecy) hxy
          rw [← aliasField_of_specOf? hspecx, ← aliasField_of_specOf? hspecy, hrs]

/-- The columns of a table come in the order of its descriptor exactly if every relation column is
put at the index that its alias has among the requested names that are shown.  An alias that the
table does not know counts all requested names instead, also those that are not shown; an alias that
is a column counts only the columns of the table, and no relation columns before it. -/
theorem inDeclaredOrder_requestedColumns_iff (d : TableDescriptor) (tableColumns : List String)
    (relations : List RelationSpec) (labels : Entries String)
    (h : DistinctDisplays relations (requestedColumns d)) :
    InDeclaredOrder relations (requestedColumns d)
        (applyRelations ⟨schemaColumns (requestedColumns d) tableColumns, labels, .none⟩
          (requestedColumns d) relations).fields ↔
      PlacedInOrder relations (schemaColumns (requestedColumns d) tableColumns)
        (requestedColumns d) := by
  have hsub : (schemaColumns (requestedColumns d) tableColumns).Sublist (requestedColumns d) :=
    List.filter_sublist
  have hnodup := h.nodup_map_shownAs
  rw [inDeclaredOrder_iff_eq hsub hnodup, eq_expectedFields_iff_placedInOrder hsub hnodup]

/-- A table of columns and nothing else. -/
def tableOf (fields : List String) : TableDescriptor where
  name := "orders"
  columns := fields.map fun field => ⟨field, none, false, false, true, true, false⟩
  relations := []
  formulas := []
  actions := { ActionConfig.standard with enabled := false }
  filters := []
  paging := .standard
  formatRules := []
  clickable := false
  numbering := false
  urlTargetField := "id"
  softDeleteField := none
  mergedColumns := []
  fixedColumns := []
  orderBy := none

/-- With the shop behind everything else, the columns come in the declared order. -/
theorem inDeclaredOrder_note_user_shop :
    DistinctDisplays shopAndUser (requestedColumns (tableOf ["note", "user_id", "shop"])) ∧
      InDeclaredOrder shopAndUser (requestedColumns (tableOf ["note", "user_id", "shop"]))
        (applyRelations ⟨schemaColumns (requestedColumns (tableOf ["note", "user_id", "shop"]))
          ["note", "user_id"], [], .none⟩ (requestedColumns (tableOf ["note", "user_id", "shop"]))
          shopAndUser).fields := by
  have hdistinct : DistinctDisplays shopAndUser
      (requestedColumns (tableOf ["note", "user_id", "shop"])) :=
    ⟨by decide, by decide, by decide⟩
  refine ⟨hdistinct, (inDeclaredOrder_requestedColumns_iff _ _ _ _ hdistinct).2 ?_⟩
  have hplaces : aliasPlaces (byAlias shopAndUser) ["note", "user_id"]
      ["note", "user_id", "shop"] = [(1, "user_id"), (2, "shop")] :=
    aliasPlaces_eq_of_perm (by decide) (by decide)
  have huser : shownAhead shopAndUser ["note", "user_id"] ["note", "user_id", "shop"]
      "user_id" = 1 := by
    unfold shownAhead isShown
    rw [hplaces]
    rfl
  have hshop : shownAhead shopAndUser ["note", "user_id"] ["note", "user_id", "shop"]
      "shop" = 2 := by
    unfold shownAhead isShown
    rw [hplaces]
    rfl
  intro j i name hplace
  change (aliasPlaces (byAlias shopAndUser) ["note", "user_id"]
    ["note", "user_id", "shop"])[j]? = some (i, name) at hplace
  rw [hplaces] at hplace
  rcases j with _ | _ | j
  · cases hplace
    exact huser.symm
  · cases hplace
    exact hshop.symm
  · simp at hplace

/-- With the shop before everything else, the user comes before the note. -/
theorem not_inDeclaredOrder_shop_note_user :
    ¬ ∀ (d : TableDescriptor) (tableColumns : List String) (relations : List RelationSpec)
        (labels : Entries String), DistinctDisplays relations (requestedColumns d) →
        InDeclaredOrder relations (requestedColumns d)
          (applyRelations ⟨schemaColumns (requestedColumns d) tableColumns, labels, .none⟩
            (requestedColumns d) relations).fields := by
  intro h
  have hfields : (applyRelations ⟨schemaColumns (requestedColumns (tableOf ["shop", "note",
      "user_id"])) ["note", "user_id"], [], .none⟩ (requestedColumns (tableOf ["shop", "note",
      "user_id"])) shopAndUser).fields = ["shops.title", "users.name", "note"] := by
    have hplaces : aliasPlaces (byAlias shopAndUser) ["note", "user_id"]
        ["shop", "note", "user_id"] = [(0, "shop"), (1, "user_id")] :=
      aliasPlaces_eq_of_perm (by decide) (by decide)
    show (applyRelations ⟨["note", "user_id"], [], .none⟩ ["shop", "note", "user_id"]
      shopAndUser).fields = _
    rw [applyRelations_eq, hplaces]
    rfl
  have horder := h (tableOf ["shop", "note", "user_id"]) ["note", "user_id"] shopAndUser []
    ⟨by decide, by decide, by decide⟩ "note" "user_id" (by decide)
  rw [hfields] at horder
  exact absurd (horder (by decide) (by decide)) (by decide)

end AdminGrid.Layout

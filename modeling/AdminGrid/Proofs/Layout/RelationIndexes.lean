import AdminGrid.Proofs.Layout.RelationsInStep
import AdminGrid.Proofs.Layout.SharedDisplays
import Mathlib.Data.List.Pairwise

/-!
# The indexes of relation columns

Relation columns are put in one after another, in ascending order of the indexes that their aliases
claim, and an index behind the end of the columns means the end.  As each index lies behind the one
before it, no later column moves an earlier one: every relation column stays at its index, or at the
end of the columns that were there when it came.
-/

namespace AdminGrid.Layout

/-- The index that an alias claims: that of the field with its name or, if there is none, its own
among the requested names. -/
def claimedIndex (fields requested : List String) (name : String) : Nat :=
  if name ∈ fields then fields.idxOf name else requested.idxOf name

/-- Fields and requested names without doubles, and requested aliases with display fields of their
own that are no fields. -/
structure SeparateDisplays (relations : List RelationSpec) (fields requested : List String) :
    Prop where
  nodup_fields : fields.Nodup
  nodup_requested : requested.Nodup
  nodup_displays : (requested.filterMap (displayOf? relations)).Nodup
  fresh : ∀ display ∈ requested.filterMap (displayOf? relations), display ∉ fields

/-- Columns among which the shown relations stand at the indexes that their aliases claim. -/
structure AtIndexes (relations : List RelationSpec) (kept : List String) (index : String → Nat)
    (c : Columns) : Prop where
  /-- The relations are shown in ascending order of their indexes. -/
  ascending : c.relations.relations.keys.Pairwise fun a b => index a < index b
  length : c.fields.length = kept.length + c.relations.relations.keys.length
  landed : ∀ j name, c.relations.relations.keys[j]? = some name →
    ∃ display, displayOf? relations name = some display ∧
      c.fields[min (index name) (kept.length + j)]? = some display
  /-- Without the relation columns the kept columns are left. -/
  rest : c.fields.filter (fun x => x ∉ c.displays) = kept

section Places

variable {relations : List RelationSpec} {fields requested : List String}

theorem displayOf?_of_isSome {name : String} (h : (specOf? relations name).isSome) :
    displayOf? relations name = some (shownAs relations name) := by
  obtain ⟨r, hr⟩ := Option.isSome_iff_exists.1 h
  rw [displayOf?, shownAs, hr]
  rfl

/-- The index of a place is the one that its alias claims. -/
theorem claimedIndex_of_mem_aliasPlaces {aliases : Entries RelationSpec} (hfields : fields.Nodup)
    (hrequested : requested.Nodup) {place : Nat × String}
    (h : place ∈ aliasPlaces aliases fields requested) :
    claimedIndex fields requested place.2 = place.1 := by
  obtain ⟨i, name⟩ := place
  have hindex {xs : List String} (hxs : xs.Nodup) (hget : xs[i]? = some name) :
      xs.idxOf name = i :=
    (getElem?_eq_some_iff_of_nodup hxs hget).1
      (List.getElem?_idxOf (List.mem_of_getElem? hget))
  rcases mem_aliasPlaces_iff.1 h with hunknown | ⟨hknown, -⟩
  · obtain ⟨hget, -, hnot⟩ := mem_unknownPlaces_iff.1 hunknown
    rw [claimedIndex, if_neg hnot, hindex hrequested hget]
  · obtain ⟨hget, -, -⟩ := mem_knownPlaces_iff.1 hknown
    rw [claimedIndex, if_pos (List.mem_of_getElem? hget), hindex hfields hget]

/-- Display fields that are no columns yet, and are all different, are all shown. -/
theorem keys_foldl_showRelation {c : Columns} (h : Traced (byAlias relations) c)
    {places : List (Nat × String)}
    (hspec : ∀ place ∈ places, (specOf? relations place.2).isSome)
    (hnew : ∀ place ∈ places, shownAs relations place.2 ∉ c.fields)
    (hnodup : (places.map fun place => shownAs relations place.2).Nodup) :
    (places.foldl (showRelation (byAlias relations)) c).relations.relations.keys =
      c.relations.relations.keys ++ places.map (·.2) := by
  induction places generalizing c with
  | nil => exact (List.append_nil _).symm
  | cons place rest ih =>
      rw [List.forall_mem_cons] at hspec hnew
      rw [List.map_cons, List.nodup_cons] at hnodup
      obtain ⟨r, hr⟩ := Option.isSome_iff_exists.1 hspec.1
      have hget : (byAlias relations).get? place.2 = some r := (get?_byAlias _ _).trans hr
      have hshown : shownAs relations place.2 = r.displayField := by rw [shownAs, hr]; rfl
      have hfresh : r.displayField ∉ c.fields := hshown ▸ hnew.1
      have hput := showRelation_of_fresh hget hfresh
      have hkeys : (c.withDisplay place r).relations.relations.keys =
          c.relations.relations.keys ++ [place.2] := by
        rw [Columns.withDisplay, Entries.put_of_not_mem_keys _ (h.not_mem_keys hget hfresh),
          Entries.keys, List.map_append]
        rfl
      have hnext := h.showRelation place
      rw [hput] at hnext
      rw [List.foldl_cons, hput, ih hnext hspec.2 ?_ hnodup.2, hkeys, List.append_assoc]
      · rfl
      · intro q hq
        show shownAs relations q.2 ∉ insertAt c.fields place.1 r.displayField
        rw [mem_insertAt, not_or, ← hshown]
        exact ⟨fun heq => hnodup.1 (List.mem_map.2 ⟨q, hq, heq⟩), hnew.2 q hq⟩

theorem SeparateDisplays.eq_of_shownAs_eq (h : SeparateDisplays relations fields requested)
    {x y : String} (hx : x ∈ requested) (hy : y ∈ requested)
    (hspecx : (specOf? relations x).isSome) (hspecy : (specOf? relations y).isSome)
    (heq : shownAs relations x = shownAs relations y) : x = y := by
  by_contra hne
  have hpair := List.pairwise_filterMap.1 h.nodup_displays
  have : Std.Symm fun a b => ∀ d, displayOf? relations a = some d →
      ∀ d', displayOf? relations b = some d' → d ≠ d' :=
    ⟨fun _ _ hab d hd d' hd' => (hab d' hd' d hd).symm⟩
  exact hpair.forall hx hy hne _ (displayOf?_of_isSome hspecx) _ (displayOf?_of_isSome hspecy) heq

/-- The places of the aliases show display fields that are no fields, and are all different. -/
theorem SeparateDisplays.places (h : SeparateDisplays relations fields requested) :
    (∀ place ∈ aliasPlaces (byAlias relations) fields requested,
        (specOf? relations place.2).isSome) ∧
      (∀ place ∈ aliasPlaces (byAlias relations) fields requested,
        shownAs relations place.2 ∉ keptFields relations fields requested) ∧
      ((aliasPlaces (byAlias relations) fields requested).map fun place =>
        shownAs relations place.2).Nodup := by
  have hplace := @isSome_specOf?_of_mem_aliasPlaces relations fields requested
  refine ⟨fun place hmem => (hplace hmem).2, fun place hmem hkept => ?_, ?_⟩
  · refine h.fresh (shownAs relations place.2) (List.mem_filterMap.2 ⟨place.2, (hplace hmem).1, ?_⟩)
      (mem_keptFields_iff.1 hkept).1
    exact displayOf?_of_isSome (hplace hmem).2
  · have hnames := nodup_names_aliasPlaces (byAlias relations) h.nodup_fields h.nodup_requested
    refine List.Nodup.map_on (fun p hp q hq heq => ?_) hnames.of_map
    have hname := h.eq_of_shownAs_eq (hplace hp).1 (hplace hq).1 (hplace hp).2 (hplace hq).2 heq
    exact List.inj_on_of_nodup_map hnames hp hq hname

end Places

/-- Relation columns land at their indexes: the aliases that are shown come in ascending order of
the indexes that they claim, the display field of each stands at its index or, if there were fewer
columns, behind those that were there, and without the display fields the kept columns are left. -/
theorem applyRelations_atIndexes {relations : List RelationSpec} {fields requested : List String}
    (h : SeparateDisplays relations fields requested) (labels : Entries String) :
    AtIndexes relations (keptFields relations fields requested) (claimedIndex fields requested)
      (applyRelations ⟨fields, labels, .none⟩ requested relations) := by
  obtain ⟨hspec, hnew, hdisplays⟩ := h.places
  have hstep : InStep relations (keptFields relations fields requested) labels
      (applyRelations ⟨fields, labels, .none⟩ requested relations) := by
    rw [applyRelations_eq]
    exact (inStep_none _ labels).foldl_showRelation _
  have hkeys : (applyRelations ⟨fields, labels, .none⟩ requested
      relations).relations.relations.keys =
        (aliasPlaces (byAlias relations) fields requested).map (·.2) := by
    rw [applyRelations_eq]
    exact keys_foldl_showRelation (traced_none _ _ labels) hspec hnew hdisplays
  have hfields : (applyRelations ⟨fields, labels, .none⟩ requested relations).fields =
      insertAll (keptFields relations fields requested)
        (relationPlaces relations fields requested) := by
    rw [applyRelations_eq]
    exact fields_foldl_showRelation _ hspec hnew hdisplays
  have hclaimed := @claimedIndex_of_mem_aliasPlaces fields requested (byAlias relations)
    h.nodup_fields h.nodup_requested
  have hsorted := pairwise_aliasPlaces (byAlias relations) fields requested
  constructor
  case ascending =>
    rw [hkeys, List.pairwise_map]
    exact hsorted.imp_of_mem fun hp hq hlt => by rwa [hclaimed hp, hclaimed hq]
  case length =>
    rw [hstep.columns.length_eq, List.length_append]
    simp [Columns.displays, Entries.keys]
  case landed =>
    intro j name hj
    rw [hkeys, List.getElem?_map] at hj
    obtain ⟨place, hplace, rfl⟩ := Option.map_eq_some_iff.1 hj
    have hmem := List.mem_of_getElem? hplace
    refine ⟨shownAs relations place.2, displayOf?_of_isSome (hspec place hmem), ?_⟩
    -- the relation columns are put in by ascending indexes, so that each stays where it is put
    rw [hfields, hclaimed hmem]
    have hascending : (relationPlaces relations fields requested).Pairwise fun p q => p.1 < q.1 :=
      List.pairwise_map.2 hsorted
    have hat : (relationPlaces relations fields requested)[j]? =
        some (place.1, shownAs relations place.2) := by
      rw [relationPlaces, List.getElem?_map, hplace]
      rfl
    exact getElem?_insertAll hascending hat
  case rest => exact hstep.order

/-- Aliases of both kinds, two of them behind the end of the columns. -/
def farRelations : List RelationSpec :=
  [⟨"user_id", "users.name", none, []⟩, ⟨"shop", "shops.title", none, []⟩,
    ⟨"city", "cities.name", none, []⟩]

/-- The user keeps the index of its column, and the shop and the city stand at the end. -/
theorem applyRelations_atIndexes_far :
    SeparateDisplays farRelations ["id", "user_id"] ["note", "user_id", "tax", "shop", "city"] ∧
    (applyRelations ⟨["id", "user_id"], [], .none⟩ ["note", "user_id", "tax", "shop", "city"]
      farRelations).fields = ["id", "users.name", "shops.title", "cities.name"] ∧
    AtIndexes farRelations ["id"]
      (claimedIndex ["id", "user_id"] ["note", "user_id", "tax", "shop", "city"])
      (applyRelations ⟨["id", "user_id"], [], .none⟩ ["note", "user_id", "tax", "shop", "city"]
        farRelations) := by
  have hdisplays : ["note", "user_id", "tax", "shop", "city"].filterMap
      (displayOf? farRelations) = ["users.name", "shops.title", "cities.name"] := by decide
  have hseparate : SeparateDisplays farRelations ["id", "user_id"]
      ["note", "user_id", "tax", "shop", "city"] :=
    ⟨by decide, by decide, by rw [hdisplays]; decide, by rw [hdisplays]; decide⟩
  have hkept : keptFields farRelations ["id", "user_id"]
      ["note", "user_id", "tax", "shop", "city"] = ["id"] := by decide
  have hplaces : aliasPlaces (byAlias farRelations) ["id", "user_id"]
      ["note", "user_id", "tax", "shop", "city"] =
        [(1, "user_id"), (3, "shop"), (4, "city")] :=
    aliasPlaces_eq_of_perm (by decide) (by decide)
  refine ⟨hseparate, by rw [applyRelations_eq, hplaces, hkept]; rfl, ?_⟩
  rw [← hkept]
  exact applyRelations_atIndexes hseparate []

end AdminGrid.Layout

import AdminGrid.Proofs.Layout.ComingIn
import AdminGrid.Proofs.Request.FlatKeys

/-!
# Formulas beside an index

A formula beside a column follows the column, a formula beside an index does not: the index is that
of a column at first, and it is used in the list as it stands when the turn of the formula comes.

The main statement says when the two are the same.  The formula is put in at two indexes of one
list, and what comes afterwards leaves the order of the columns that are there, but for the formulas
after the end.  So the results differ as soon as a column that is not moved stands between the two
indexes, and one always does.
-/

namespace AdminGrid

/-- The same formula beside a column. -/
def FormulaSpec.beside (f : FormulaSpec) (column : String) : FormulaSpec :=
  { f with placement := { f.placement with anchor := some (.name column) } }

namespace Layout

section Insertions

variable {L moved rest : List String} {x : String} {i j : Nat}

theorem precedes_insertAt_left {y : String} (hy : y ∈ L.drop i) : Precedes (insertAt L i x) x y :=
  ((List.singleton_sublist.2 hy).cons_cons x).trans (List.sublist_append_right _ _)

theorem precedes_insertAt_right {y : String} (hy : y ∈ L.take i) : Precedes (insertAt L i x) y x :=
  (List.singleton_sublist.2 hy).append (List.singleton_sublist.2 List.mem_cons_self)

/-- A column put in at two indexes of a list: what comes afterwards does not hide the difference, as
long as it puts in other columns and moves none of one column between the indexes. -/
theorem finish_insertAt_eq_iff {finish : List String → List String}
    (hfinish : ∀ p : String → Bool, (∀ z ∈ moved, p z = false) → (∀ z ∈ rest, p z = false) →
      ∀ M, (finish M).filter p = M.filter p)
    (hnodup : (L ++ x :: rest).Nodup) (hmoved : moved ⊆ L) (hle : i ≤ j)
    (hbetween : i < j → ∃ y ∈ L.drop i, y ∈ L.take j ∧ y ∉ moved) :
    finish (insertAt L i x) = finish (insertAt L j x) ↔ i = j := by
  constructor
  case mpr =>
    rintro rfl
    rfl
  case mp =>
    intro heq
    by_contra hne
    obtain ⟨y, hdrop, htake, hy⟩ := hbetween (by omega)
    obtain ⟨hL, hrest, hdisjoint⟩ := List.nodup_append.1 hnodup
    have hyL : y ∈ L := List.mem_of_mem_take htake
    have hx : x ∉ L := fun hmem => hdisjoint x hmem x List.mem_cons_self rfl
    have hpMoved : ∀ z ∈ moved, (z == x || z == y) = false := by
      intro z hz
      have hzx : z ≠ x := fun h => hx (h ▸ hmoved hz)
      have hzy : z ≠ y := fun h => hy (h ▸ hz)
      simp [hzx, hzy]
    have hpRest : ∀ z ∈ rest, (z == x || z == y) = false := by
      intro z hz
      have hzx : z ≠ x := fun h => (List.nodup_cons.1 hrest).1 (h ▸ hz)
      have hzy : z ≠ y := fun h => hdisjoint y hyL z (List.mem_cons_of_mem x hz) h.symm
      simp [hzx, hzy]
    have hsame : (insertAt L i x).filter (fun z => z == x || z == y) =
        (insertAt L j x).filter fun z => z == x || z == y := by
      rw [← hfinish _ hpMoved hpRest, heq, hfinish _ hpMoved hpRest]
    -- the column comes before the one between the indexes in one list, and behind it in the other
    have hbefore : Precedes (insertAt L j x) x y :=
      (precedes_iff_of_filter_eq (by simp) (by simp) hsame).1 (precedes_insertAt_left hdrop)
    exact hbefore.asymm (nodup_insertAt hx hL) (precedes_insertAt_right htake)

end Insertions

namespace Groups

variable {columns : List String} {g : Groups}

/-- The formulas on one side of other columns. -/
def side (g : Groups) : (after : Bool) → List Beside
  | true => g.after
  | false => g.before

/-- The groups with other formulas on one side of other columns. -/
def withSide (g : Groups) (places : List Beside) : (after : Bool) → Groups
  | true => { g with after := places }
  | false => { g with before := places }

/-- The groups as far as some formulas on one side of other columns. -/
def upTo (g : Groups) (ahead : List Beside) : (after : Bool) → Groups
  | true => { g with after := ahead }
  | false => { g with before := ahead, after := [] }

/-- The columns as they stand when the turn of a formula beside another column comes. -/
def standing (g : Groups) (columns : List String) (f : FormulaSpec) : List String :=
  (g.upTo ((g.side f.placement.after).takeWhile (·.name != f.name)) f.placement.after).withAfter
    columns

/-- The formulas after the end stand directly before the column of buttons, so that it stands
between them and any other column behind them. -/
theorem precedes_action (hnodup : (g.withLastAfter columns).Nodup) {l c : String}
    (hl : l ∈ g.lastAfter) (hc : c ∈ g.withFirst columns) (haction : c ≠ actionColumn)
    (h : Precedes (g.withLastAfter columns) l c) :
    actionColumn ∈ g.withFirst columns ∧ Precedes (g.withLastAfter columns) l actionColumn ∧
      Precedes (g.withLastAfter columns) actionColumn c := by
  have hsplit : g.withLastAfter columns =
      (g.withFirst columns).take (lastIndex (g.withFirst columns)) ++
        lastBlock (g.withFirst columns) g.lastAfter ++
          (g.withFirst columns).drop (lastIndex (g.withFirst columns)) :=
    insertLastAfter_eq _ _
  have hblock : l ∈ lastBlock (g.withFirst columns) g.lastAfter := mem_lastBlock.2 hl
  have hnot : c ∉ (g.withFirst columns).take (lastIndex (g.withFirst columns)) := by
    intro htake
    refine h.asymm hnodup ?_
    rw [hsplit]
    exact ((List.singleton_sublist.2 htake).append (List.singleton_sublist.2 hblock)).trans
      (List.sublist_append_left _ _)
  have hdrop : c ∈ (g.withFirst columns).drop (lastIndex (g.withFirst columns)) := by
    rw [← List.take_append_drop (lastIndex (g.withFirst columns)) (g.withFirst columns),
      List.mem_append] at hc
    exact hc.resolve_left hnot
  have hmem : actionColumn ∈ g.withFirst columns := by
    by_contra hmem
    rw [lastIndex, if_neg hmem, List.drop_length] at hdrop
    cases hdrop
  have hhead : (g.withFirst columns).drop (lastIndex (g.withFirst columns)) =
      actionColumn :: (g.withFirst columns).drop (lastIndex (g.withFirst columns) + 1) := by
    rw [lastIndex, if_pos hmem, List.drop_eq_getElem_cons (List.idxOf_lt_length_of_mem hmem),
      List.getElem_idxOf]
  rw [hhead] at hsplit hdrop
  have hbehind := List.singleton_sublist.2 ((List.mem_cons.1 hdrop).resolve_left haction)
  rw [hsplit]
  refine ⟨hmem, ?_, ?_⟩
  · exact (List.singleton_sublist.2 (List.mem_append_right _ hblock)).append
      (List.singleton_sublist.2 List.mem_cons_self)
  · exact (hbehind.cons_cons actionColumn).trans (List.sublist_append_right _ _)

/-- The names of the formulas of the first four groups. -/
def namesBeside (g : Groups) : List String :=
  g.first ++ (g.lastAfter ++ (g.before.map (·.name) ++ g.after.map (·.name)))

section Standing

variable {x c : String} {i : Nat} {rest : List String}

section Nodup

variable (hnodup : (columns ++ g.namesBeside ++ x :: rest).Nodup)

include hnodup

theorem nodup_withAfter_append : (g.withAfter columns ++ x :: rest).Nodup :=
  ((g.perm_withAfter columns).append_right (x :: rest)).nodup_iff.2 hnodup

theorem nodup_withAfter : (g.withAfter columns).Nodup :=
  (List.nodup_append.1 (nodup_withAfter_append hnodup)).1

theorem mixed_withAfter_of_nodup : Mixed columns (g.withAfter columns) := by
  have hnew : ∀ y ∈ g.namesBeside, columns.contains y = false := by
    intro y hy
    have hdisjoint := (List.nodup_append.1 (List.nodup_append.1 hnodup).1).2.2
    simpa using fun hmem => hdisjoint y hmem y hy rfl
  simp only [namesBeside, List.forall_mem_append, List.forall_mem_map] at hnew
  obtain ⟨hfirst, hlastAfter, hbefore, hafter⟩ := hnew
  refine ⟨?_, nodup_withAfter hnodup⟩
  rw [filter_withAfter hfirst hlastAfter hbefore hafter]
  exact List.filter_eq_self.2 fun y hy => by simpa using hy

/-- A column put in at an index of the first columns, and at the index that the column there has
come to: the results are the same exactly if the column stands there still. -/
theorem finish_index_eq_iff (finish : List String → List String) (offset : Nat)
    (hfinish : ∀ p : String → Bool, (∀ z ∈ g.lastAfter, p z = false) → (∀ z ∈ rest, p z = false) →
      ∀ M, (finish M).filter p = M.filter p)
    (hc : columns[i]? = some c)
    (hbetween : i < (g.withAfter columns).idxOf c →
      ∃ y ∈ (g.withAfter columns).drop (i + offset),
        y ∈ (g.withAfter columns).take ((g.withAfter columns).idxOf c + offset) ∧
          y ∉ g.lastAfter) :
    finish (insertAt (g.withAfter columns) (i + offset) x) =
        finish (insertAt (g.withAfter columns) ((g.withAfter columns).idxOf c + offset) x) ↔
      (g.withAfter columns)[i]? = some c := by
  have hmixed := mixed_withAfter_of_nodup hnodup
  have hcolumns : columns.Nodup := (List.nodup_append.1 (List.nodup_append.1 hnodup).1).1
  have hmem : c ∈ columns := List.mem_of_getElem? hc
  have hindex : columns.idxOf c = i :=
    (getElem?_eq_some_iff_of_nodup hcolumns hc).1 (List.getElem?_idxOf hmem)
  have hle : i ≤ (g.withAfter columns).idxOf c := by
    rw [← hindex, ← length_filter_take_idxOf hmixed hmem]
    exact (List.length_filter_le _ _).trans (List.length_take_le _ _)
  have hmoved : g.lastAfter ⊆ g.withAfter columns := by
    intro y hy
    refine (g.perm_withAfter columns).mem_iff.2 ?_
    simp [hy]
  have hat := List.getElem?_idxOf (hmixed.mem hmem)
  rw [finish_insertAt_eq_iff hfinish (nodup_withAfter_append hnodup) hmoved (by omega)
    fun hlt => hbetween (by omega), getElem?_eq_some_iff_of_nodup hmixed.nodup hat]
  omega

end Nodup

variable {ahead behind : List Beside}

theorem insertAfter_none (L : List String) :
    insertAfter L ⟨x, none, i⟩ = insertAt L (i + 1) x := rfl

theorem insertAfter_some {L : List String} (hc : c ∈ L) :
    insertAfter L ⟨x, some c, i⟩ = insertAt L (L.idxOf c + 1) x := by
  simp [insertAfter, Beside.place, hc]

theorem insertBefore_none (k : Nat) (L : List String) :
    insertBefore k L ⟨x, none, i⟩ = insertAt L i x := rfl

theorem insertBefore_some {k : Nat} {L : List String} (hc : c ∈ L) (haction : c ≠ actionColumn) :
    insertBefore k L ⟨x, some c, i⟩ = insertAt L (L.idxOf c) x := by
  simp [insertBefore, Beside.place, hc, haction]

theorem filter_foldl_insertAfter {p : String → Bool} {bs : List Beside} {M : List String}
    (h : ∀ b ∈ bs, p b.name = false) : (bs.foldl insertAfter M).filter p = M.filter p :=
  filter_foldl_insertAt h

theorem filter_foldl_insertBefore {p : String → Bool} {bs : List Beside} {k : Nat}
    {M : List String} (h : ∀ b ∈ bs, p b.name = false) :
    (bs.foldl (insertBefore k) M).filter p = M.filter p :=
  filter_foldl_insertAt h

/-- A formula after a column, beside its first index and beside its name. -/
theorem insertInto_after_eq_iff
    (hnodup : (columns ++
      (g.withSide (ahead ++ ⟨x, none, i⟩ :: behind) true).names).Nodup)
    (hc : columns[i]? = some c) :
    (g.withSide (ahead ++ ⟨x, none, i⟩ :: behind) true).insertInto columns =
        (g.withSide (ahead ++ ⟨x, some c, i⟩ :: behind) true).insertInto columns ↔
      ((g.upTo ahead true).withAfter columns)[i]? = some c := by
  have hall : (columns ++ (g.upTo ahead true).namesBeside ++
      x :: (behind.map (·.name) ++ g.lastBefore)).Nodup := by
    refine (List.Perm.nodup_iff (List.perm_iff_count.2 fun y => ?_)).1 hnodup
    simp only [names, namesBeside, withSide, upTo, List.count_append, List.count_cons,
      List.map_append, List.map_cons]
    omega
  have hmem : c ∈ columns := List.mem_of_getElem? hc
  have hmixed := mixed_withAfter_of_nodup hall
  generalize hL : (g.upTo ahead true).withAfter columns = L at hmixed
  have hfinish (t : Option String) :
      (g.withSide (ahead ++ ⟨x, t, i⟩ :: behind) true).insertInto columns =
        (g.withSide [⟨x, none, i⟩] true).finish
          (behind.foldl insertAfter (insertAfter L ⟨x, t, i⟩)) := by
    have hafter : (g.withSide (ahead ++ ⟨x, t, i⟩ :: behind) true).withAfter columns =
        behind.foldl insertAfter (insertAfter L ⟨x, t, i⟩) := by
      rw [← hL]
      exact List.foldl_append
    rw [insertInto_eq, hafter]
    simp [finish, withSide]
  rw [hfinish, hfinish, insertAfter_none, insertAfter_some (hmixed.mem hmem), ← hL]
  refine finish_index_eq_iff hall (fun M => (g.withSide [⟨x, none, i⟩] true).finish
    (behind.foldl insertAfter M)) 1 (fun p hlastAfter hrest M => ?_) hc fun hlt => ?_
  · rw [List.forall_mem_append, List.forall_mem_map] at hrest
    have hend : ((g.withSide [⟨x, none, i⟩] true).finish (behind.foldl insertAfter M)).filter p =
        (behind.foldl insertAfter M).filter p := filter_finish hlastAfter hrest.2
    rw [hend, filter_foldl_insertAfter hrest.1]
  · -- the column itself stands between the indexes
    rw [hL] at hlt ⊢
    have hat := List.getElem?_idxOf (hmixed.mem hmem)
    have hnew : c ∉ g.lastAfter := fun hlast =>
      (List.nodup_append.1 hnodup).2.2 c hmem c
        (List.mem_append_right _ (List.mem_append_left _ hlast)) rfl
    exact ⟨c, mem_drop_of_getElem? hat hlt, mem_take_of_getElem? hat (Nat.lt_succ_self _), hnew⟩

theorem withAfter_upTo_false (g : Groups) (columns : List String) (ahead : List Beside) :
    (g.upTo ahead false).withAfter columns =
      ahead.foldl (insertBefore g.lastAfter.length) (g.withLastAfter columns) := rfl

/-- Before a column that has moved from its first index stands one that is not moved to the end. -/
theorem exists_mem_drop_mem_take (hnodup : (columns ++ (g.upTo ahead false).namesBeside).Nodup)
    (hmem : c ∈ columns) (haction : c ≠ actionColumn) {L : List String}
    (hL : L = (g.upTo ahead false).withAfter columns) (hlt : i < L.idxOf c) :
    ∃ y ∈ L.drop i, y ∈ L.take (L.idxOf c) ∧ y ∉ g.lastAfter := by
  have hperm : L.Perm (columns ++ (g.upTo ahead false).namesBeside) :=
    hL ▸ (g.upTo ahead false).perm_withAfter columns
  have hnodupL : L.Nodup := hperm.nodup_iff.2 hnodup
  have hcL : c ∈ L := hperm.mem_iff.2 (List.mem_append_left _ hmem)
  have horder {x y : String} (hx : ∀ b ∈ ahead, b.name ≠ x) (hy : ∀ b ∈ ahead, b.name ≠ y) :
      Precedes L x y ↔ Precedes (g.withLastAfter columns) x y := by
    rw [hL, withAfter_upTo_false]
    refine precedes_iff_of_filter_eq (p := fun z => z == x || z == y) (by simp) (by simp) ?_
    exact filter_foldl_insertBefore fun b hb => by simp [hx b hb, hy b hb]
  have hat : L[L.idxOf c]? = some c := List.getElem?_idxOf hcL
  obtain ⟨l, hl⟩ : ∃ l, L[i]? = some l :=
    ⟨_, List.getElem?_eq_getElem (hlt.trans (List.idxOf_lt_length_of_mem hcL))⟩
  have htake : l ∈ L.take (L.idxOf c) := mem_take_of_getElem? hl hlt
  by_cases hlast : l ∈ g.lastAfter
  case neg => exact ⟨l, mem_drop_of_getElem? hl (Nat.le_refl i), htake, hlast⟩
  case pos =>
    have hprecedes : Precedes L l c :=
      precedes_of_mem_take_of_mem_drop htake (mem_drop_of_getElem? hat (Nat.le_refl _))
    have hnames : columns ++ (g.upTo ahead false).namesBeside =
        columns ++ g.first ++ g.lastAfter ++ ahead.map (·.name) := by
      simp [namesBeside, upTo]
    have hstartPerm : (g.withLastAfter columns).Perm (columns ++ g.first ++ g.lastAfter) := by
      have hperm : (g.withLastAfter columns).Perm (columns ++ (g.upTo [] false).namesBeside) :=
        (g.upTo [] false).perm_withAfter columns
      simpa [namesBeside, upTo] using hperm
    have hfirst := perm_insertFirst columns g.first
    rw [hnames, List.nodup_append] at hnodup
    obtain ⟨hstart, -, hapart⟩ := hnodup
    have hne {y : String} (hy : y ∈ columns ++ g.first ++ g.lastAfter) :
        ∀ b ∈ ahead, b.name ≠ y :=
      fun b hb => (hapart y hy b.name (List.mem_map_of_mem hb)).symm
    have hlastNe := hne (List.mem_append_right _ hlast)
    have hcNe := hne (List.mem_append_left _ (List.mem_append_left _ hmem))
    obtain ⟨hactionMem, hbehind, hahead⟩ := precedes_action (hstartPerm.nodup_iff.2 hstart) hlast
      (hfirst.mem_iff.2 (List.mem_append_right _ hmem)) haction
      ((horder hlastNe hcNe).1 hprecedes)
    have hactionStart : actionColumn ∈ columns ++ g.first := by
      rw [List.mem_append, or_comm, ← List.mem_append]
      exact hfirst.mem_iff.1 hactionMem
    have hactionNe := hne (List.mem_append_left _ hactionStart)
    refine ⟨actionColumn, ((horder hlastNe hactionNe).2 hbehind).mem_drop hnodupL hl,
      ((horder hactionNe hcNe).2 hahead).mem_take hnodupL hat, fun hmoved => ?_⟩
    exact (List.nodup_append.1 hstart).2.2 actionColumn hactionStart actionColumn hmoved rfl

/-- A formula before a column, beside its first index and beside its name. -/
theorem insertInto_before_eq_iff
    (hnodup : (columns ++
      (g.withSide (ahead ++ ⟨x, none, i⟩ :: behind) false).names).Nodup)
    (hc : columns[i]? = some c) (haction : c ≠ actionColumn) :
    (g.withSide (ahead ++ ⟨x, none, i⟩ :: behind) false).insertInto columns =
        (g.withSide (ahead ++ ⟨x, some c, i⟩ :: behind) false).insertInto columns ↔
      ((g.upTo ahead false).withAfter columns)[i]? = some c := by
  have hall : (columns ++ (g.upTo ahead false).namesBeside ++
      x :: (behind.map (·.name) ++ (g.after.map (·.name) ++ g.lastBefore))).Nodup := by
    refine (List.Perm.nodup_iff (List.perm_iff_count.2 fun y => ?_)).1 hnodup
    simp only [names, namesBeside, withSide, upTo, List.count_append, List.count_cons,
      List.map_append, List.map_cons, List.map_nil, List.count_nil]
    omega
  have hmem : c ∈ columns := List.mem_of_getElem? hc
  have hmixed := mixed_withAfter_of_nodup hall
  have hbetween (hlt : i < ((g.upTo ahead false).withAfter columns).idxOf c) :=
    exists_mem_drop_mem_take (List.nodup_append.1 hall).1 hmem haction rfl hlt
  generalize hL : (g.upTo ahead false).withAfter columns = L
    at hmixed
  have hfinish (t : Option String) :
      (g.withSide (ahead ++ ⟨x, t, i⟩ :: behind) false).insertInto columns =
        g.finish (g.after.foldl insertAfter (behind.foldl (insertBefore g.lastAfter.length)
          (insertBefore g.lastAfter.length L ⟨x, t, i⟩))) := by
    have hbefore :
        (g.withSide (ahead ++ ⟨x, t, i⟩ :: behind) false).withBefore columns =
          behind.foldl (insertBefore g.lastAfter.length)
            (insertBefore g.lastAfter.length L ⟨x, t, i⟩) := by
      rw [← hL]
      exact List.foldl_append
    rw [insertInto_eq, withAfter, hbefore]
    rfl
  rw [hfinish, hfinish, insertBefore_none, insertBefore_some (hmixed.mem hmem) haction, ← hL]
  refine finish_index_eq_iff hall (fun M => g.finish (g.after.foldl insertAfter
    (behind.foldl (insertBefore g.lastAfter.length) M))) 0 (fun p hlastAfter hrest M => ?_) hc
      hbetween
  simp only [List.forall_mem_append, List.forall_mem_map] at hrest
  have hend : (g.finish (g.after.foldl insertAfter
      (behind.foldl (insertBefore g.lastAfter.length) M))).filter p =
        (g.after.foldl insertAfter (behind.foldl (insertBefore g.lastAfter.length) M)).filter p :=
    filter_finish hlastAfter hrest.2.2
  rw [hend, filter_foldl_insertAfter hrest.2.1, filter_foldl_insertBefore hrest.1]

/-- A formula beside another column, beside its first index and beside its name. -/
theorem insertInto_withSide_eq_iff (after : Bool)
    (hnodup : (columns ++ (g.withSide (ahead ++ ⟨x, none, i⟩ :: behind) after).names).Nodup)
    (hc : columns[i]? = some c) (haction : c ≠ actionColumn) :
    (g.withSide (ahead ++ ⟨x, none, i⟩ :: behind) after).insertInto columns =
        (g.withSide (ahead ++ ⟨x, some c, i⟩ :: behind) after).insertInto columns ↔
      ((g.upTo ahead after).withAfter columns)[i]? = some c := by
  cases after with
  | true => exact insertInto_after_eq_iff hnodup hc
  | false => exact insertInto_before_eq_iff hnodup hc haction

/-- What stands when the turn of a formula comes is due to the formulas ahead of it. -/
theorem standing_withSide {f : FormulaSpec} {place : Beside} (hplace : place.name = f.name)
    (hahead : ∀ b ∈ ahead, b.name ≠ f.name) :
    (g.withSide (ahead ++ place :: behind) f.placement.after).standing columns f =
      (g.upTo ahead f.placement.after).withAfter columns := by
  have htake : (ahead ++ place :: behind).takeWhile (·.name != f.name) = ahead := by
    rw [List.takeWhile_append_of_pos (by simpa using hahead),
      List.takeWhile_cons_of_neg (by simpa using hplace), List.append_nil]
  unfold standing
  cases f.placement.after with
  | true => rw [withSide, side, htake]; rfl
  | false => rw [withSide, side, htake]; rfl

end Standing

end Groups

section Spots

variable {columns : List String} {f : FormulaSpec} {i : Nat}

theorem spotOf_of_targetIndex? {anchor : Anchor} (hanchor : f.placement.anchor = some anchor)
    (hreads : targetIndex? anchor = .ok (some (i : Int)))
    (hname : ¬ ∃ x ∈ columns, anchor = .name x) (hi : i < columns.length) :
    spotOf columns f = .ok (some (.beside ⟨f.name, none, i⟩ f.placement.after)) := by
  have hword (word : String) (h : targetIndex? (.name word) = .ok none) : anchor ≠ .name word := by
    rintro rfl
    rw [h] at hreads
    cases hreads
  have hbeside : isBeside f = true := by
    rw [isBeside, hanchor]
    simp [hword "first" rfl, hword "last" rfl]
  have htarget : targetOf f = some anchor := by
    rw [targetOf, hanchor]
    split
    · rename_i h
      cases h
    · rename_i h
      exact absurd (Option.some.inj h) (hword "" rfl)
    · rfl
  rw [spotOf, if_pos hbeside, htarget]
  dsimp only
  rw [besideOf_of_not_name hname, hreads]
  simp [Except.map, hi]

theorem spotOf_beside {c : String} (hcolumns : columns.Nodup) (hc : columns[i]? = some c)
    (hwords : c ∉ ["first", "last", ""]) :
    spotOf columns (f.beside c) =
      .ok (some (.beside ⟨f.name, some c, i⟩ f.placement.after)) := by
  have hmem : c ∈ columns := List.mem_of_getElem? hc
  have hindex : columns.idxOf c = i :=
    (getElem?_eq_some_iff_of_nodup hcolumns hc).1 (List.getElem?_idxOf hmem)
  simp only [List.mem_cons, List.not_mem_nil, or_false, not_or] at hwords
  have hbeside : isBeside (f.beside c) = true := by
    simp [isBeside, FormulaSpec.beside, hwords]
  have htarget : targetOf (f.beside c) = some (.name c) := by
    unfold targetOf
    split
    · rename_i h
      cases h
    · rename_i h
      cases h
      exact absurd rfl hwords.2.2
    · rfl
  rw [spotOf, if_pos hbeside, htarget]
  dsimp only
  rw [besideOf_name_of_mem hmem, hindex]
  rfl

/-- The names that are taken once some formulas are accepted. -/
def takenNames (columns : List String) (accepted : List (FormulaSpec × Spot)) : List String :=
  (accepted.map (·.1.name)).reverse ++ columns

section Split

variable {earlier : List FormulaSpec} {a : List (FormulaSpec × Spot)}

/-- The names that are taken are those of the columns and of the formulas that come in. -/
theorem mem_takenNames_iff (h : acceptedFormulas columns earlier columns = .ok a) {x : String} :
    x ∈ takenNames columns a ↔
      x ∈ columns ∨ x ∈ (comingIn columns [] earlier).map (·.name) := by
  rw [comingIn_eq (by simp) h, List.nil_append, List.map_map, takenNames, List.mem_append,
    List.mem_reverse, or_comm]
  rfl

theorem acceptedFormulas_of_error {e : Failure}
    (h : acceptedFormulas columns earlier columns = .error e) (later : List FormulaSpec) :
    acceptedFormulas columns (earlier ++ later) columns = .error e := by
  rw [acceptedFormulas_append, h]
  rfl

/-- A formula whose name is taken is not looked at. -/
theorem acceptedFormulas_of_taken (h : acceptedFormulas columns earlier columns = .ok a)
    (htaken : f.name ∈ takenNames columns a) (later : List FormulaSpec) :
    acceptedFormulas columns (earlier ++ f :: later) columns =
      (acceptedFormulas columns later (takenNames columns a)).map (a ++ ·) := by
  rw [acceptedFormulas_append, h]
  show (acceptedFormulas columns (f :: later) (takenNames columns a)).map _ = _
  rw [acceptedFormulas, if_pos (by simpa using htaken)]

/-- A formula with a name of its own and a spot is accepted behind the earlier ones. -/
theorem acceptedFormulas_of_free {spot : Spot}
    (h : acceptedFormulas columns earlier columns = .ok a) (hfree : f.name ∉ takenNames columns a)
    (hspot : spotOf columns f = .ok (some spot)) (later : List FormulaSpec) :
    acceptedFormulas columns (earlier ++ f :: later) columns =
      (acceptedFormulas columns later (f.name :: takenNames columns a)).map
        fun b => a ++ (f, spot) :: b := by
  rw [acceptedFormulas_append, h]
  show (acceptedFormulas columns (f :: later) (takenNames columns a)).map _ = _
  rw [acceptedFormulas, if_neg (by simpa using hfree), hspot]
  cases acceptedFormulas columns later (f.name :: takenNames columns a) <;> rfl

end Split

/-- An accepted formula beside a column has taken its name. -/
theorem name_mem_takenNames {earlier : List FormulaSpec} {a : List (FormulaSpec × Spot)}
    {after : Bool} {p : Beside} (h : acceptedFormulas columns earlier columns = .ok a)
    (hp : p ∈ placesAt after a) : p.name ∈ takenNames columns a := by
  obtain ⟨x, hx, hplace⟩ := List.mem_filterMap.1 hp
  have hspot : x.2 = .beside p after := by
    cases hspot : x.2 with
    | first => simp [hspot, Spot.place?] at hplace
    | last side => simp [hspot, Spot.place?] at hplace
    | beside place side =>
        simp only [hspot, Spot.place?, Option.ite_none_right_eq_some] at hplace
        obtain ⟨rfl, hplace⟩ := hplace
        rw [Option.some.inj hplace]
  have hname : p.name = x.1.name :=
    name_of_spotOf (hspot ▸ ((acceptedFormulas_spec h).2.2 x hx).2)
  exact List.mem_append_left _ (List.mem_reverse.2 (List.mem_map.2 ⟨x, hx, hname.symm⟩))

theorem groupsOf_append_beside (a b : List (FormulaSpec × Spot)) (f : FormulaSpec) (place : Beside)
    (after : Bool) :
    groupsOf (a ++ (f, .beside place after) :: b) =
      (groupsOf (a ++ b)).withSide (placesAt after a ++ place :: placesAt after b) after := by
  rw [groupsOf_eq, groupsOf_eq]
  cases after <;> simp [Groups.withSide, namesAt, placesAt, Spot.place?]

end Spots

section Numeric

variable {columns : List String} {earlier later : List FormulaSpec} {f : FormulaSpec} {i : Nat}
  {c : String} {a b : List (FormulaSpec × Spot)}

/-- The accepted formulas beside the first index of a column, and those beside its name. -/
theorem insertInto_groupsOf_eq_iff
    (hnodup : (columns ++ (groupsOf (a ++ (f, .beside ⟨f.name, none, i⟩ f.placement.after) ::
      b)).names).Nodup) (hc : columns[i]? = some c) (haction : c ≠ actionColumn)
    (hahead : ∀ p ∈ placesAt f.placement.after a, p.name ≠ f.name) :
    (groupsOf (a ++ (f, .beside ⟨f.name, none, i⟩ f.placement.after) :: b)).insertInto columns =
        (groupsOf (a ++ (f.beside c, .beside ⟨f.name, some c, i⟩ f.placement.after) ::
          b)).insertInto columns ↔
      ((groupsOf (a ++ (f, .beside ⟨f.name, none, i⟩ f.placement.after) :: b)).standing
        columns f)[i]? = some c := by
  rw [groupsOf_append_beside] at hnodup ⊢
  rw [groupsOf_append_beside, Groups.standing_withSide rfl hahead]
  exact Groups.insertInto_withSide_eq_iff f.placement.after hnodup hc haction

/-- A formula beside an index is put in where it would be beside the column of this index exactly if
the column stands at the index still when the turn of the formula comes, or the formula does not
come in. -/
theorem placeFormulas_index_eq_iff {anchor : Anchor} (hcolumns : columns.Nodup)
    (hc : columns[i]? = some c) (hwords : c ∉ [actionColumn, "first", "last", ""])
    (hanchor : f.placement.anchor = some anchor)
    (hreads : targetIndex? anchor = .ok (some (i : Int)))
    (hname : ¬ ∃ x ∈ columns, anchor = .name x) :
    placeFormulas columns (earlier ++ f :: later) =
        placeFormulas columns (earlier ++ f.beside c :: later) ↔
      (ComesIn columns (comingIn columns [] earlier) f →
        ∀ g, groupFormulas columns (earlier ++ f :: later) columns ⟨[], [], [], [], []⟩ = .ok g →
          (g.standing columns f)[i]? = some c) := by
  obtain ⟨haction, hwords⟩ := not_or.1 (List.mem_cons.not.1 hwords)
  have hi : i < columns.length := (List.getElem?_eq_some_iff.1 hc).1
  have hspot := spotOf_of_targetIndex? hanchor hreads hname hi
  have hspot' := spotOf_beside (f := f) hcolumns hc hwords
  rw [placeFormulas_eq, placeFormulas_eq, groupFormulas_eq]
  cases hearlier : acceptedFormulas columns earlier columns with
  | error e =>
      rw [acceptedFormulas_of_error hearlier, acceptedFormulas_of_error hearlier]
      exact iff_of_true rfl fun _ g hg => nomatch hg
  | ok a =>
      by_cases hmem : f.name ∈ takenNames columns a
      · have hout : ¬ ComesIn columns (comingIn columns [] earlier) f := fun h =>
          ((mem_takenNames_iff hearlier).1 hmem).elim h.1 h.2.1
        refine iff_of_true ?_ fun h => absurd h hout
        rw [acceptedFormulas_of_taken hearlier hmem,
          acceptedFormulas_of_taken (f := f.beside c) hearlier hmem]
      · have hfree := not_or.1 (mt (mem_takenNames_iff hearlier).2 hmem)
        have hin : ComesIn columns (comingIn columns [] earlier) f :=
          ⟨hfree.1, hfree.2, (spotOf_isSome_iff hspot).1 rfl⟩
        have hsplit := acceptedFormulas_of_free hearlier hmem hspot later
        rw [imp_iff_right hin, hsplit,
          acceptedFormulas_of_free (f := f.beside c) hearlier hmem hspot' later]
        show (Except.map _ (Except.map _ (acceptedFormulas columns later
          (f.name :: takenNames columns a))) = Except.map _ (Except.map _ (acceptedFormulas columns
            later (f.name :: takenNames columns a)))) ↔ _
        cases hlater : acceptedFormulas columns later (f.name :: takenNames columns a) with
        | error e => exact iff_of_true rfl fun g hg => nomatch hg
        | ok b =>
            rw [hlater] at hsplit
            have hnodup := nodup_append_names_groupsOf hcolumns hsplit
            have hahead (p : Beside) (hp : p ∈ placesAt f.placement.after a) : p.name ≠ f.name :=
              fun heq => hmem (heq ▸ name_mem_takenNames hearlier hp)
            have hiff := insertInto_groupsOf_eq_iff hnodup hc haction hahead
            constructor
            · intro h g hg
              obtain rfl := Except.ok.inj hg
              exact hiff.1 (Except.ok.inj h)
            · intro h
              exact congrArg Except.ok (hiff.2 (h _ rfl))

end Numeric

section Digits

variable {i : Nat}

/-- The anchors that an index is given by: the index itself, and its digits. -/
theorem targetIndex?_of_lt (h : i < tenTo Reading.maxDigits) :
    targetIndex? (.index i) = .ok (some (i : Int)) ∧
      targetIndex? (.name (toString i)) = .ok (some (i : Int)) := by
  have hshort : (Nat.toDigits 10 i).length ≤ Reading.maxDigits :=
    Reading.length_toDigits_le (by decide) h
  have hdigits : (toString i).toList.all Text.isDigit = true :=
    List.all_eq_true.2 fun c hc =>
      Request.textIsDigit_of_isDigit (Request.isDigit_of_mem_toString hc)
  constructor
  · rw [targetIndex?, Int.natAbs_natCast, if_neg (Nat.not_lt.2 hshort)]
  · rw [targetIndex?, Request.strip_index, hdigits, Request.int?_index h]
    simp

end Digits

/-- A formula beside the second column by its index. -/
def besideSecond (anchor : Anchor) (after : Bool) : FormulaSpec :=
  ⟨"n", none, ["amount", "amount"], "+", ⟨some anchor, after⟩⟩

/-- A formula at the start or after the end. -/
def sumAt (word : String) : FormulaSpec :=
  ⟨"sum", none, ["amount", "amount"], "+", ⟨some (.name word), true⟩⟩

/-- A formula after the end leaves the second column where it is, so that the digits of its index
are as good as its name. -/
theorem placeFormulas_index_eq_iff_second :
    targetIndex? (.name "1") = .ok (some 1) ∧
    placeFormulas ["id", "amount"] [sumAt "last", besideSecond (.name "1") false] =
      placeFormulas ["id", "amount"]
        [sumAt "last", (besideSecond (.name "1") false).beside "amount"] := by
  have hreads : targetIndex? (.name (toString 1)) = .ok (some 1) :=
    (targetIndex?_of_lt (by decide +kernel)).2
  have h := @placeFormulas_index_eq_iff ["id", "amount"] [sumAt "last"] []
    (besideSecond (.name "1") false) 1 "amount" (.name "1") (by decide) rfl (by decide) rfl hreads
    (by decide)
  refine ⟨hreads, h.2 fun _ g hg => ?_⟩
  obtain rfl := Except.ok.inj hg
  rfl

/-- A formula at the start moves the second column on, and the formula beside its index does not
follow it.  A column under a word that an anchor is read for has no anchor of its own. -/
theorem not_placeFormulas_index_eq :
    placeFormulas ["id", "amount"] [sumAt "first", besideSecond (.index 1) true] =
      .ok ["sum", "id", "n", "amount"] ∧
    placeFormulas ["id", "amount"]
        [sumAt "first", (besideSecond (.index 1) true).beside "amount"] =
      .ok ["sum", "id", "amount", "n"] ∧
    placeFormulas ["id", "first"] [besideSecond (.index 1) true] = .ok ["id", "first", "n"] ∧
    placeFormulas ["id", "first"] [(besideSecond (.index 1) true).beside "first"] =
      .ok ["n", "id", "first"] :=
  ⟨rfl, rfl, rfl, rfl⟩

end Layout

end AdminGrid

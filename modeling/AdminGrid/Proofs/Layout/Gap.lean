import AdminGrid.Layout.Placement
import AdminGrid.Proofs.Layout.Insertion
import AdminGrid.Proofs.Layout.Precedence

/-!
# The gap of a column

A list in which new columns stand among the original ones has a gap for every new column: the number
of original columns before it.  Putting further new columns in, or moving other new columns about,
does not change a gap.  So the gap of a column is the number of original columns before the index at
which it is put in, and it is settled at that moment.
-/

namespace AdminGrid.Layout

variable {columns cs names : List String} {i k : Nat} {x y : String}

/-- The number of original columns before one. -/
def gap (columns cs : List String) (x : String) : Nat :=
  ((ahead cs x).filter columns.contains).length

/-- A list of columns in which new ones stand among the original ones. -/
structure Mixed (columns cs : List String) : Prop where
  originals : cs.filter columns.contains = columns
  nodup : cs.Nodup

theorem Mixed.mem (h : Mixed columns cs) (hx : x ∈ columns) : x ∈ cs := by
  rw [← h.originals] at hx
  exact (List.mem_filter.1 hx).1

theorem Mixed.refl (h : columns.Nodup) : Mixed columns columns :=
  ⟨List.filter_eq_self.2 fun x hx => by simpa using hx, h⟩

/-- The gap of a column depends only on where it stands among the original ones. -/
theorem gap_eq_of_filter_eq {ds : List String}
    (h : cs.filter (fun y => columns.contains y || y == x) =
      ds.filter (fun y => columns.contains y || y == x)) :
    gap columns cs x = gap columns ds x := by
  have hfilter (es : List String) : (ahead es x).filter columns.contains =
      (ahead (es.filter fun y => columns.contains y || y == x) x).filter columns.contains := by
    rw [ahead_filter (by simp), List.filter_filter]
    refine List.filter_congr fun y _ => ?_
    cases hy : columns.contains y <;> simp
  rw [gap, gap, hfilter cs, hfilter ds, h]

/-- New columns come into a list, or are moved in it, and the others keep their order. -/
structure Adds (names cs ds : List String) : Prop where
  mem : ∀ x, x ∈ ds ↔ x ∈ names ∨ x ∈ cs
  nodup : ds.Nodup
  filter : ∀ p : String → Bool, (∀ x ∈ names, p x = false) → ds.filter p = cs.filter p

theorem Adds.refl (h : cs.Nodup) : Adds [] cs cs :=
  ⟨by simp, h, fun _ _ => rfl⟩

theorem Adds.trans {more ds es : List String} (h : Adds names cs ds) (h' : Adds more ds es) :
    Adds (names ++ more) cs es := by
  refine ⟨fun x => ?_, h'.nodup, fun p hp => ?_⟩
  · rw [h'.mem, h.mem, List.mem_append, ← or_assoc, or_comm (a := x ∈ more)]
  · rw [h'.filter p fun x hx => hp x (List.mem_append_right _ hx),
      h.filter p fun x hx => hp x (List.mem_append_left _ hx)]

theorem Adds.of_subset (hcs : cs.Nodup) (h : names ⊆ cs) : Adds names cs cs :=
  ⟨fun _ => ⟨Or.inr, fun hx => hx.elim (fun hmem => h hmem) id⟩, hcs, fun _ _ => rfl⟩

theorem Adds.congr {ds more : List String} (h : Adds names cs ds)
    (hmore : ∀ x, x ∈ names ↔ x ∈ more) : Adds more cs ds :=
  ⟨fun x => by rw [h.mem, hmore], h.nodup, fun p hp => h.filter p fun x hx => hp x ((hmore x).1 hx)⟩

theorem Adds.mixed {ds : List String} (h : Adds names cs ds) (hcs : Mixed columns cs)
    (hnew : ∀ x ∈ names, x ∉ columns) : Mixed columns ds :=
  ⟨by rw [h.filter _ fun x hx => by simpa using hnew x hx, hcs.originals], h.nodup⟩

/-- New columns do not change the gaps of the others. -/
theorem Adds.gap {ds : List String} (h : Adds names cs ds) (hnew : ∀ x ∈ names, x ∉ columns)
    (hy : y ∉ names) : gap columns ds y = gap columns cs y := by
  refine gap_eq_of_filter_eq (h.filter _ fun x hx => ?_)
  have hne : x ≠ y := fun hxy => hy (hxy ▸ hx)
  simpa using ⟨hnew x hx, hne⟩

theorem adds_insertAt (hcs : cs.Nodup) (hx : x ∉ cs) : Adds [x] cs (insertAt cs i x) :=
  ⟨by simp, nodup_insertAt hx hcs, fun p hp => filter_insertAt p (hp x List.mem_cons_self)⟩

/-- The gap of a new column is the number of original columns before its index. -/
theorem gap_insertAt_self (hx : x ∉ cs) :
    gap columns (insertAt cs i x) x = ((cs.take i).filter columns.contains).length := by
  have htake : x ∉ cs.take i := fun h => hx (List.mem_of_mem_take h)
  rw [gap, Layout.insertAt, ahead_append_of_not_mem htake, ahead_cons_self, List.append_nil]

/-- Before an original column stand the same original columns as ever. -/
theorem filter_ahead (h : Mixed columns cs) (hx : x ∈ columns) :
    (ahead cs x).filter columns.contains = ahead columns x := by
  rw [← ahead_filter (by simpa using hx), h.originals]

theorem length_filter_take_idxOf (h : Mixed columns cs) (hx : x ∈ columns) :
    ((cs.take (cs.idxOf x)).filter columns.contains).length = columns.idxOf x := by
  rw [← ahead_eq_take, filter_ahead h hx, length_ahead hx]

theorem length_filter_take_idxOf_succ (h : Mixed columns cs) (hx : x ∈ columns) :
    ((cs.take (cs.idxOf x + 1)).filter columns.contains).length = columns.idxOf x + 1 := by
  have hget : cs[cs.idxOf x]? = some x := List.getElem?_idxOf (h.mem hx)
  have htake : cs.take (cs.idxOf x + 1) = cs.take (cs.idxOf x) ++ [x] := by
    rw [List.take_add_one, hget]
    rfl
  rw [htake, List.filter_append, List.length_append, length_filter_take_idxOf h hx,
    List.filter_cons_of_pos (by simpa using hx)]
  rfl

section Block

/-- New columns put in at one index in one block. -/
def insertBlock (cs : List String) (i : Nat) (block : List String) : List String :=
  cs.take i ++ block ++ cs.drop i

theorem filter_insertBlock {p : String → Bool} {block : List String}
    (h : ∀ x ∈ block, p x = false) : (insertBlock cs i block).filter p = cs.filter p := by
  have hblock : block.filter p = [] := List.filter_eq_nil_iff.2 fun x hx => by simp [h x hx]
  rw [insertBlock, List.filter_append, List.filter_append, hblock, List.append_nil,
    ← List.filter_append, List.take_append_drop]

theorem perm_insertBlock (cs : List String) (i : Nat) (block : List String) :
    (insertBlock cs i block).Perm (block ++ cs) := by
  have h : (cs.take i ++ block ++ cs.drop i).Perm (block ++ cs.take i ++ cs.drop i) :=
    List.perm_append_comm.append_right _
  rwa [List.append_assoc block, List.take_append_drop] at h

theorem adds_insertBlock {block : List String} (hcs : cs.Nodup) (hblock : block.Nodup)
    (hnew : ∀ x ∈ block, x ∉ cs) : Adds block cs (insertBlock cs i block) := by
  refine ⟨fun x => ?_, ?_, fun p hp => filter_insertBlock hp⟩
  · rw [(perm_insertBlock cs i block).mem_iff, List.mem_append]
  · rw [(perm_insertBlock cs i block).nodup_iff, List.nodup_append]
    exact ⟨hblock, hcs, fun x hx y hy hxy => hnew x hx (hxy ▸ hy)⟩

/-- All columns of a block have the same gap. -/
theorem gap_insertBlock_self {block : List String} (hblock : ∀ x ∈ block, x ∉ columns)
    (hx : x ∈ block) (hnew : x ∉ cs) :
    gap columns (insertBlock cs i block) x = ((cs.take i).filter columns.contains).length := by
  have htake : x ∉ cs.take i := fun h => hnew (List.mem_of_mem_take h)
  have hahead : (ahead block x).filter columns.contains = [] :=
    List.filter_eq_nil_iff.2 fun y hy => by simpa using hblock y (ahead_subset block x hy)
  rw [gap, insertBlock, List.append_assoc, ahead_append_of_not_mem htake, ahead_append_of_mem hx,
    List.filter_append, hahead, List.append_nil]

end Block

section Run

/-- The `k` columns directly before a column are new ones. -/
def NewBefore (columns cs : List String) (x : String) (k : Nat) : Prop :=
  ∃ before run behind, cs = before ++ run ++ x :: behind ∧ k ≤ run.length ∧
    ∀ y ∈ run, y ∉ columns

/-- A new column that is put in anywhere leaves the others before it, or joins them. -/
theorem NewBefore.insertAt (h : NewBefore columns cs x k) (hy : y ∉ columns) :
    NewBefore columns (insertAt cs i y) x k := by
  obtain ⟨before, run, behind, rfl, hk, hrun⟩ := h
  by_cases hbefore : i ≤ before.length
  · refine ⟨Layout.insertAt before i y, run, behind, ?_, hk, hrun⟩
    rw [List.append_assoc, insertAt_append_left hbefore, List.append_assoc]
  by_cases hinside : i ≤ (before ++ run).length
  · refine ⟨before, Layout.insertAt run (i - before.length) y, behind, ?_, ?_, ?_⟩
    · rw [insertAt_append_left hinside, insertAt_append_right (by omega)]
    · rw [length_insertAt]
      omega
    · intro z hz
      rcases mem_insertAt.1 hz with rfl | hz
      · exact hy
      · exact hrun z hz
  · obtain ⟨m, hm⟩ : ∃ m, i - (before ++ run).length = m + 1 :=
      ⟨i - (before ++ run).length - 1, by omega⟩
    refine ⟨before, run, Layout.insertAt behind m y, ?_, hk, hrun⟩
    rw [insertAt_append_right (by omega), hm]
    rfl

/-- Before the new columns stand the same original columns as before the column itself. -/
theorem NewBefore.length_filter_take (h : NewBefore columns cs x k) (hcs : Mixed columns cs)
    (hx : x ∈ columns) :
    ((cs.take (cs.idxOf x - k)).filter columns.contains).length = columns.idxOf x := by
  obtain ⟨before, run, behind, rfl, hk, hrun⟩ := h
  -- whatever is taken of the run before the column, none of it counts
  have hnew (m : Nat) : (run.take m).filter columns.contains = [] :=
    List.filter_eq_nil_iff.2 fun y hy => by simpa using hrun y (List.mem_of_mem_take hy)
  have hbehind : x ∉ before ++ run := by
    have hnodup := hcs.nodup
    rw [List.nodup_append] at hnodup
    exact fun hmem => hnodup.2.2 x hmem x List.mem_cons_self rfl
  have hahead : ahead (before ++ run ++ x :: behind) x = before ++ run := by
    rw [ahead_append_of_not_mem hbehind, ahead_cons_self, List.append_nil]
  have hlength := length_ahead (hcs.mem hx)
  have hall := filter_ahead hcs hx
  rw [hahead] at hlength hall
  rw [List.length_append] at hlength
  have htake : (before ++ run ++ x :: behind).take
      ((before ++ run ++ x :: behind).idxOf x - k) = before ++ run.take (run.length - k) := by
    rw [← hlength, List.append_assoc, List.take_append, List.take_of_length_le (by omega),
      List.take_append_of_le_length (by omega)]
    congr 2
    omega
  have hwhole := hnew run.length
  rw [List.take_length] at hwhole
  rw [htake, List.filter_append, hnew, ← length_ahead hx, ← hall, List.filter_append, hwhole]

/-- Columns that are put in directly before another one stand before it. -/
theorem newBefore_insertBlock {block : List String} (hx : x ∈ cs)
    (hblock : ∀ y ∈ block, y ∉ columns) :
    NewBefore columns (insertBlock cs (cs.idxOf x) block) x block.length := by
  obtain ⟨behind, hbehind⟩ : ∃ behind, cs.drop (cs.idxOf x) = x :: behind := by
    have hlt : cs.idxOf x < cs.length := List.idxOf_lt_length_iff.2 hx
    refine ⟨cs.drop (cs.idxOf x + 1), ?_⟩
    rw [List.drop_eq_getElem_cons hlt, List.getElem_idxOf]
  refine ⟨cs.take (cs.idxOf x), block, behind, ?_, Nat.le_refl _, hblock⟩
  rw [insertBlock, hbehind]

end Run

section Moving

/-- Columns that are taken out and put behind everything else, one after another. -/
theorem foldl_erase_append {ds : List String} (hcs : cs.Nodup) (hds : ds.Nodup)
    (hsub : ds ⊆ cs) :
    ds.foldl (fun cs x => cs.erase x ++ [x]) cs = cs.filter (fun y => !ds.contains y) ++ ds := by
  induction ds generalizing cs with
  | nil => simp
  | cons d ds ih =>
      obtain ⟨hd, hds⟩ := List.nodup_cons.1 hds
      have hmoved : (cs.erase d ++ [d]).Nodup := by
        have hperm : (cs.erase d ++ [d]).Perm cs :=
          (List.perm_append_singleton _ _).trans
            (List.perm_cons_erase (hsub List.mem_cons_self)).symm
        exact hperm.nodup_iff.2 hcs
      have hsub' : ds ⊆ cs.erase d ++ [d] := by
        intro y hy
        have hne : y ≠ d := fun heq => hd (heq ▸ hy)
        exact List.mem_append_left _
          ((List.mem_erase_of_ne hne).2 (hsub (List.mem_cons_of_mem _ hy)))
      have hkeep : [d].filter (fun y => !ds.contains y) = [d] := by simp [hd]
      rw [List.foldl_cons, ih hmoved hds hsub', List.filter_append, hkeep, hcs.erase_eq_filter,
        List.filter_filter, List.append_assoc]
      congr 1
      refine List.filter_congr fun y _ => ?_
      simp [Bool.and_comm, bne, beq_eq_decide]

theorem moveToEnd_eq (hcs : cs.Nodup) (names : List String) :
    moveToEnd cs names =
      cs.filter (fun y => !names.contains y) ++ cs.filter names.contains := by
  rw [moveToEnd, foldl_erase_append hcs (hcs.filter _) (List.filter_subset_self cs)]
  congr 1
  refine List.filter_congr fun y hy => ?_
  simp [hy]

theorem adds_moveToEnd (hcs : cs.Nodup) (hnames : names ⊆ cs) :
    Adds names cs (moveToEnd cs names) := by
  have hperm : (cs.filter (fun y => !names.contains y) ++ cs.filter names.contains).Perm cs :=
    List.perm_append_comm.trans (List.filter_append_perm _ cs)
  rw [moveToEnd_eq hcs]
  refine ⟨fun x => ?_, hperm.nodup_iff.2 hcs, fun p hp => ?_⟩
  · rw [hperm.mem_iff]
    exact ⟨Or.inr, fun h => h.elim (fun hx => hnames hx) id⟩
  · have hmoved : (cs.filter names.contains).filter p = [] := by
      refine List.filter_eq_nil_iff.2 fun y hy => ?_
      simp [hp y (by simpa using (List.mem_filter.1 hy).2)]
    rw [List.filter_append, hmoved, List.append_nil, List.filter_filter]
    refine List.filter_congr fun y _ => ?_
    by_cases hy : y ∈ names
    · simp [hp y hy]
    · simp [hy]

/-- A column that is moved to the end has all original columns before it. -/
theorem gap_moveToEnd_self (h : Mixed columns cs) (hnames : ∀ y ∈ names, y ∉ columns)
    (hx : x ∈ names) : gap columns (moveToEnd cs names) x = columns.length := by
  have hstay : x ∉ cs.filter fun y => !names.contains y := by simp [hx]
  have hahead : (ahead (cs.filter names.contains) x).filter columns.contains = [] := by
    refine List.filter_eq_nil_iff.2 fun y hy => ?_
    have hmem := List.mem_filter.1 (ahead_subset _ _ hy)
    simpa using hnames y (by simpa using hmem.2)
  have hstill : (cs.filter fun y => !names.contains y).filter columns.contains = columns := by
    rw [List.filter_filter]
    refine (List.filter_congr fun y _ => ?_).trans h.originals
    by_cases hy : y ∈ names
    · simp [hnames y hy]
    · simp [hy]
  rw [moveToEnd_eq h.nodup, gap, ahead_append_of_not_mem hstay, List.filter_append, hahead,
    List.append_nil, hstill]

/-- All original columns but one stand before the last column. -/
theorem length_sub_one_le_filter_take (h : Mixed columns cs) :
    columns.length - 1 ≤ ((cs.take (cs.length - 1)).filter columns.contains).length := by
  have hsplit : (cs.take (cs.length - 1)).filter columns.contains ++
      (cs.drop (cs.length - 1)).filter columns.contains = columns := by
    rw [← List.filter_append, List.take_append_drop, h.originals]
  have hlast : ((cs.drop (cs.length - 1)).filter columns.contains).length ≤ 1 := by
    refine Nat.le_trans (List.length_filter_le _ _) ?_
    rw [List.length_drop]
    omega
  have hlength := congrArg List.length hsplit
  rw [List.length_append] at hlength
  omega

end Moving

end AdminGrid.Layout

import AdminGrid.Proofs.Layout.FormulaGroups
import AdminGrid.Proofs.Layout.Gap

/-!
# The gap law of formula columns

The number of original columns before a formula column follows from the placement of that formula,
whatever other formulas stand around it.  Each group settles the gaps of its own formulas, and no
later group changes them, but for the formulas after the end, which are moved once.

Before the column of buttons the groups share an index.  The formulas after the end form a run of
new columns directly before it, a formula before it steps back over as many columns as were put
there, and every insertion leaves the run at least that long.
-/

namespace AdminGrid.Layout

variable {columns cs : List String}

/-- Names put in at successive indexes stand there as a block. -/
theorem foldl_insertAt_zipIdx (before behind : List String) (names : List String) (base k : Nat)
    (h : before.length = base + k) :
    (names.zipIdx k).foldl (fun cs (name, offset) => insertAt cs (base + offset) name)
        (before ++ behind) = before ++ names ++ behind := by
  induction names generalizing before k with
  | nil => simp
  | cons name rest ih =>
      have hhead : insertAt (before ++ behind) (base + k) name =
          before ++ [name] ++ behind := by
        rw [insertAt_append_right (by omega), h, Nat.sub_self]
        simp [insertAt]
      have hlen : (before ++ [name]).length = base + (k + 1) := by
        rw [List.length_append, h]
        rfl
      rw [List.zipIdx_cons, List.foldl_cons]
      show (rest.zipIdx (k + 1)).foldl _ (insertAt (before ++ behind) (base + k) name) = _
      rw [hhead, ih (before ++ [name]) (k + 1) hlen]
      simp

/-- Names put in at one index stand there as a block, the last one first. -/
theorem foldl_insertAt_const (names : List String) {cs : List String} {i : Nat}
    (h : i ≤ cs.length) :
    names.foldl (fun cs name => insertAt cs i name) cs = insertBlock cs i names.reverse := by
  induction names generalizing cs with
  | nil => simp [insertBlock]
  | cons name rest ih =>
      have htake : (insertAt cs i name).take i = cs.take i := by
        rw [insertAt, List.take_append_of_le_length (by rw [List.length_take]; omega),
          List.take_take, Nat.min_self]
      have hdrop : (insertAt cs i name).drop i = name :: cs.drop i := by
        have hlen : (cs.take i).length = i := by rw [List.length_take]; omega
        rw [insertAt, List.drop_append_of_le_length (by omega), List.drop_eq_nil_of_le (by omega),
          List.nil_append]
      rw [List.foldl_cons, ih (by rw [length_insertAt]; omega), insertBlock, insertBlock, htake,
        hdrop]
      simp

/-- The index behind the column of row numbers, where there is one. -/
def firstIndex (columns : List String) : Nat := if numberColumn ∈ columns then 1 else 0

theorem insertFirst_eq (columns names : List String) :
    insertFirst columns names = insertBlock columns (firstIndex columns) names := by
  have hlen : (columns.take (firstIndex columns)).length = firstIndex columns + 0 := by
    rw [List.length_take, firstIndex]
    split
    · rename_i hmem
      have hpos := List.length_pos_of_mem hmem
      omega
    · rfl
  have hfold := foldl_insertAt_zipIdx (columns.take (firstIndex columns))
    (columns.drop (firstIndex columns)) names (firstIndex columns) 0 hlen
  rw [List.take_append_drop] at hfold
  rw [insertBlock, ← hfold, insertFirst]
  simp [firstIndex]

/-- The index of the formulas after the end: that of the column of buttons, or the end. -/
def lastIndex (cs : List String) : Nat :=
  if actionColumn ∈ cs then cs.idxOf actionColumn else cs.length

/-- The formulas after the end in the order in which they are put in. -/
def lastBlock (cs names : List String) : List String :=
  if actionColumn ∈ cs then names.reverse else names

theorem insertLastAfter_eq (cs names : List String) :
    insertLastAfter cs names = insertBlock cs (lastIndex cs) (lastBlock cs names) := by
  by_cases haction : actionColumn ∈ cs
  · have hle : cs.idxOf actionColumn ≤ cs.length := List.idxOf_le_length
    rw [insertLastAfter, if_pos (by simpa using haction), lastIndex, if_pos haction, lastBlock,
      if_pos haction, foldl_insertAt_const names hle]
  · rw [insertLastAfter, if_neg (by simpa using haction), lastIndex, if_neg haction, lastBlock,
      if_neg haction, insertBlock]
    simp

theorem mem_lastBlock {names : List String} {x : String} : x ∈ lastBlock cs names ↔ x ∈ names := by
  unfold lastBlock
  split <;> simp

/-- Columns put in one after another, each under a name of its own: the gap of each is the number of
original columns before its index when it came. -/
theorem foldl_insertAt_gap {β : Type} (place : List String → β → Nat) (name : β → String)
    (Inv : List String → Prop) {bs : List β}
    (hstep : ∀ es b, Inv es → b ∈ bs → Inv (insertAt es (place es b) (name b)))
    (hmixed : Mixed columns cs) (hinv : Inv cs) (hnodup : (bs.map name).Nodup)
    (hnew : ∀ b ∈ bs, name b ∉ cs) :
    Adds (bs.map name) cs (bs.foldl (fun es b => insertAt es (place es b) (name b)) cs) ∧
      Inv (bs.foldl (fun es b => insertAt es (place es b) (name b)) cs) ∧
      ∀ b ∈ bs, ∃ es, Mixed columns es ∧ Inv es ∧
        gap columns (bs.foldl (fun es b => insertAt es (place es b) (name b)) cs) (name b) =
          ((es.take (place es b)).filter columns.contains).length := by
  induction bs generalizing cs with
  | nil => exact ⟨Adds.refl hmixed.nodup, hinv, fun b hb => by cases hb⟩
  | cons b bs ih =>
      rw [List.map_cons] at hnodup
      obtain ⟨hb, hnodup⟩ := List.nodup_cons.1 hnodup
      have hbnew : name b ∉ cs := hnew b List.mem_cons_self
      have hadd : Adds [name b] cs (insertAt cs (place cs b) (name b)) :=
        adds_insertAt hmixed.nodup hbnew
      have hcolumns {c : β} (hc : c ∈ b :: bs) : name c ∉ columns :=
        fun hmem => hnew c hc (hmixed.mem hmem)
      have hmixed' : Mixed columns (insertAt cs (place cs b) (name b)) :=
        hadd.mixed hmixed (by simpa using hcolumns List.mem_cons_self)
      obtain ⟨hadds, hinv', hgaps⟩ := ih
        (fun es c hes hc => hstep es c hes (List.mem_cons_of_mem _ hc)) hmixed'
        (hstep cs b hinv List.mem_cons_self) hnodup (fun c hc => by
          rw [hadd.mem, List.mem_singleton, not_or]
          exact ⟨fun heq => hb (heq ▸ List.mem_map_of_mem hc), hnew c (List.mem_cons_of_mem _ hc)⟩)
      refine ⟨hadd.trans hadds, hinv', fun c hc => ?_⟩
      -- the gap of a name is settled when it is inserted; what comes later is no original column
      rcases List.mem_cons.1 hc with rfl | hc
      · refine ⟨cs, hmixed, hinv, ?_⟩
        rw [List.foldl_cons, hadds.gap ?_ hb, gap_insertAt_self hbnew]
        intro x hx
        obtain ⟨d, hd, rfl⟩ := List.mem_map.1 hx
        exact hcolumns (List.mem_cons_of_mem _ hd)
      · exact hgaps c hc

/-- An insertion before or after another column, and its index. -/
def beforeIndex (behind : Nat) (cs : List String) (b : Beside) : Nat :=
  if b.target = some actionColumn then b.place cs - behind else b.place cs

theorem place_eq_idxOf (h : Mixed columns cs) {b : Beside} {x : String} (hx : x ∈ columns)
    (hb : b.target = some x) : b.place cs = cs.idxOf x := by
  have hmem : x ∈ cs := h.mem hx
  simp [Beside.place, hb, hmem]

/-- The gap of a formula before a column is the index of that column, also before the column of
buttons. -/
theorem length_filter_take_beforeIndex {k : Nat} (h : Mixed columns cs)
    (hrun : actionColumn ∈ columns → NewBefore columns cs actionColumn k) {b : Beside} {x : String}
    (hx : x ∈ columns) (hb : b.target = some x) :
    ((cs.take (beforeIndex k cs b)).filter columns.contains).length = columns.idxOf x := by
  rw [beforeIndex, place_eq_idxOf h hx hb, hb]
  by_cases haction : x = actionColumn
  · subst haction
    rw [if_pos rfl]
    exact (hrun hx).length_filter_take h hx
  · rw [if_neg (by simpa using haction)]
    exact length_filter_take_idxOf h hx

/-- The names of all formulas in the order in which their groups are inserted. -/
def Groups.names (g : Groups) : List String :=
  g.first ++ (g.lastAfter ++ (g.before.map (·.name) ++ (g.after.map (·.name) ++ g.lastBefore)))

/-- Groups of formulas with names of their own, none of them that of the column of buttons. -/
structure Groups.Fresh (columns : List String) (g : Groups) : Prop where
  nodup_columns : columns.Nodup
  nodup_names : g.names.Nodup
  new : ∀ x ∈ g.names, x ∉ columns
  not_action : ∀ x ∈ g.names, x ≠ actionColumn

namespace Groups

variable {g : Groups}

/-- The columns with the formulas at the start. -/
def withFirst (g : Groups) (columns : List String) : List String := insertFirst columns g.first

/-- The columns with the formulas at the start and after the end. -/
def withLastAfter (g : Groups) (columns : List String) : List String :=
  insertLastAfter (g.withFirst columns) g.lastAfter

/-- The columns with, in addition, the formulas before another column. -/
def withBefore (g : Groups) (columns : List String) : List String :=
  g.before.foldl (insertBefore g.lastAfter.length) (g.withLastAfter columns)

/-- The columns with, in addition, the formulas after another column. -/
def withAfter (g : Groups) (columns : List String) : List String :=
  g.after.foldl insertAfter (g.withBefore columns)

/-- The columns after the formulas after the end are moved, where they are. -/
def withMoved (g : Groups) (columns : List String) : List String :=
  if g.after.isEmpty || g.lastAfter.isEmpty then g.withAfter columns
  else moveToEnd (g.withAfter columns) g.lastAfter

theorem Fresh.new_first (h : g.Fresh columns) : ∀ x ∈ g.first, x ∉ columns :=
  fun x hx => h.new x (List.mem_append_left _ hx)

theorem Fresh.new_lastAfter (h : g.Fresh columns) : ∀ x ∈ g.lastAfter, x ∉ columns :=
  fun x hx => h.new x (List.mem_append_right _ (List.mem_append_left _ hx))

theorem adds_withFirst (h : g.Fresh columns) : Adds g.first columns (g.withFirst columns) := by
  rw [withFirst, insertFirst_eq]
  exact adds_insertBlock h.nodup_columns (List.nodup_append.1 h.nodup_names).1 h.new_first

theorem mixed_withFirst (h : g.Fresh columns) : Mixed columns (g.withFirst columns) :=
  (adds_withFirst h).mixed (Mixed.refl h.nodup_columns) h.new_first

theorem gap_withFirst (h : g.Fresh columns) {x : String} (hx : x ∈ g.first) :
    gap columns (g.withFirst columns) x = firstIndex columns := by
  have hall : (columns.take (firstIndex columns)).filter columns.contains =
      columns.take (firstIndex columns) :=
    List.filter_eq_self.2 fun y hy => by simpa using List.mem_of_mem_take hy
  rw [withFirst, insertFirst_eq, gap_insertBlock_self h.new_first hx (h.new_first x hx), hall,
    List.length_take, firstIndex]
  split
  · rename_i hmem
    have hpos := List.length_pos_of_mem hmem
    omega
  · exact Nat.zero_min _

theorem action_mem_withFirst_iff (h : g.Fresh columns) :
    actionColumn ∈ g.withFirst columns ↔ actionColumn ∈ columns := by
  rw [(adds_withFirst h).mem]
  exact or_iff_right fun hmem => h.not_action _ (List.mem_append_left _ hmem) rfl

theorem lastAfter_not_mem_withFirst (h : g.Fresh columns) {x : String} (hx : x ∈ g.lastAfter) :
    x ∉ g.withFirst columns := by
  rw [(adds_withFirst h).mem, not_or]
  have hnames := (List.nodup_append.1 h.nodup_names).2.2
  exact ⟨fun hfirst => hnames x hfirst x (List.mem_append_left _ hx) rfl, h.new_lastAfter x hx⟩

theorem adds_withLastAfter (h : g.Fresh columns) :
    Adds g.lastAfter (g.withFirst columns) (g.withLastAfter columns) := by
  have hnodup : g.lastAfter.Nodup :=
    (List.nodup_append.1 (List.nodup_append.1 h.nodup_names).2.1).1
  have hblock : (lastBlock (g.withFirst columns) g.lastAfter).Nodup := by
    unfold lastBlock
    split
    · exact List.nodup_reverse.2 hnodup
    · exact hnodup
  rw [withLastAfter, insertLastAfter_eq]
  refine (adds_insertBlock (adds_withFirst h).nodup hblock fun x hx => ?_).congr
    fun x => mem_lastBlock
  exact lastAfter_not_mem_withFirst h (mem_lastBlock.1 hx)

theorem mixed_withLastAfter (h : g.Fresh columns) : Mixed columns (g.withLastAfter columns) :=
  (adds_withLastAfter h).mixed (mixed_withFirst h) h.new_lastAfter

theorem gap_withLastAfter (h : g.Fresh columns) {x : String} (hx : x ∈ g.lastAfter) :
    gap columns (g.withLastAfter columns) x = lastIndex columns := by
  have hnew : ∀ y ∈ lastBlock (g.withFirst columns) g.lastAfter, y ∉ columns :=
    fun y hy => h.new_lastAfter y (mem_lastBlock.1 hy)
  rw [withLastAfter, insertLastAfter_eq, gap_insertBlock_self hnew (mem_lastBlock.2 hx)
    (lastAfter_not_mem_withFirst h hx), lastIndex, lastIndex]
  by_cases haction : actionColumn ∈ columns
  · rw [if_pos ((action_mem_withFirst_iff h).2 haction), if_pos haction]
    exact length_filter_take_idxOf (mixed_withFirst h) haction
  · rw [if_neg (mt (action_mem_withFirst_iff h).1 haction), if_neg haction, List.take_length,
      (mixed_withFirst h).originals]

/-- The formulas after the end stand directly before the column of buttons. -/
theorem newBefore_withLastAfter (h : g.Fresh columns) (haction : actionColumn ∈ columns) :
    NewBefore columns (g.withLastAfter columns) actionColumn g.lastAfter.length := by
  have hmem := (action_mem_withFirst_iff h).2 haction
  have hnew : ∀ y ∈ g.lastAfter.reverse, y ∉ columns :=
    fun y hy => h.new_lastAfter y (List.mem_reverse.1 hy)
  have hrun := newBefore_insertBlock hmem hnew
  rw [List.length_reverse] at hrun
  rwa [withLastAfter, insertLastAfter_eq, lastIndex, if_pos hmem, lastBlock, if_pos hmem]

/-- The names that come with the third group and later. -/
def laterNames (g : Groups) : List String :=
  g.before.map (·.name) ++ (g.after.map (·.name) ++ g.lastBefore)

theorem Fresh.nodup_laterNames (h : g.Fresh columns) : g.laterNames.Nodup :=
  (List.nodup_append.1 (List.nodup_append.1 h.nodup_names).2.1).2.1

theorem Fresh.later_not_mem (h : g.Fresh columns) {x : String} (hx : x ∈ g.laterNames) :
    x ∉ g.first ∧ x ∉ g.lastAfter ∧ x ∉ columns := by
  obtain ⟨-, hrest, hfirst⟩ := List.nodup_append.1 h.nodup_names
  obtain ⟨-, -, hlast⟩ := List.nodup_append.1 hrest
  exact ⟨fun hmem => hfirst x hmem x (List.mem_append_right _ hx) rfl,
    fun hmem => hlast x hmem x hx rfl,
    h.new x (List.mem_append_right _ (List.mem_append_right _ hx))⟩

theorem later_not_mem_withLastAfter (h : g.Fresh columns) {x : String} (hx : x ∈ g.laterNames) :
    x ∉ g.withLastAfter columns := by
  obtain ⟨hfirst, hlast, hcolumns⟩ := h.later_not_mem hx
  rw [(adds_withLastAfter h).mem, (adds_withFirst h).mem, not_or, not_or]
  exact ⟨hlast, hfirst, hcolumns⟩

theorem before_mem_laterNames {b : Beside} (hb : b ∈ g.before) : b.name ∈ g.laterNames :=
  List.mem_append_left _ (List.mem_map_of_mem hb)

theorem after_mem_laterNames {b : Beside} (hb : b ∈ g.after) : b.name ∈ g.laterNames :=
  List.mem_append_right _ (List.mem_append_left _ (List.mem_map_of_mem hb))

theorem lastBefore_mem_laterNames {x : String} (hx : x ∈ g.lastBefore) : x ∈ g.laterNames :=
  List.mem_append_right _ (List.mem_append_right _ hx)

/-- The formulas before another column, and the run before the column of buttons that they
leave. -/
theorem withBefore_spec (h : g.Fresh columns) :
    Adds (g.before.map (·.name)) (g.withLastAfter columns) (g.withBefore columns) ∧
      ∀ b ∈ g.before, ∀ x ∈ columns, b.target = some x →
        gap columns (g.withBefore columns) b.name = columns.idxOf x := by
  have hnodup : (g.before.map (·.name)).Nodup := (List.nodup_append.1 h.nodup_laterNames).1
  obtain ⟨hadds, -, hgaps⟩ := foldl_insertAt_gap (beforeIndex g.lastAfter.length) Beside.name
    (fun es => actionColumn ∈ columns → NewBefore columns es actionColumn g.lastAfter.length)
    (fun es b hes hb haction => (hes haction).insertAt
      (h.later_not_mem (before_mem_laterNames hb)).2.2)
    (mixed_withLastAfter h) (newBefore_withLastAfter h) hnodup
    (fun b hb => later_not_mem_withLastAfter h (before_mem_laterNames hb))
  refine ⟨hadds, fun b hb x hx htarget => ?_⟩
  obtain ⟨es, hmixed, hrun, hgap⟩ := hgaps b hb
  exact hgap.trans (length_filter_take_beforeIndex hmixed hrun hx htarget)

theorem mixed_withBefore (h : g.Fresh columns) : Mixed columns (g.withBefore columns) := by
  refine (withBefore_spec h).1.mixed (mixed_withLastAfter h) fun x hx => ?_
  exact (h.later_not_mem (List.mem_append_left _ hx)).2.2

/-- The formulas after another column. -/
theorem withAfter_spec (h : g.Fresh columns) :
    Adds (g.after.map (·.name)) (g.withBefore columns) (g.withAfter columns) ∧
      ∀ b ∈ g.after, ∀ x ∈ columns, b.target = some x →
        gap columns (g.withAfter columns) b.name = columns.idxOf x + 1 := by
  obtain ⟨-, hrest, hbefore⟩ := List.nodup_append.1 h.nodup_laterNames
  have hnodup : (g.after.map (·.name)).Nodup := (List.nodup_append.1 hrest).1
  obtain ⟨hadds, -, hgaps⟩ := foldl_insertAt_gap (fun es b => b.place es + 1) Beside.name
    (fun _ => True) (fun _ _ _ _ => trivial) (mixed_withBefore h) trivial hnodup
    (fun b hb => by
      rw [(withBefore_spec h).1.mem, not_or]
      refine ⟨fun hmem => ?_, later_not_mem_withLastAfter h (after_mem_laterNames hb)⟩
      exact hbefore b.name hmem b.name (List.mem_append_left _ (List.mem_map_of_mem hb)) rfl)
  refine ⟨hadds, fun b hb x hx htarget => ?_⟩
  obtain ⟨es, hmixed, -, hgap⟩ := hgaps b hb
  refine hgap.trans ?_
  rw [place_eq_idxOf hmixed hx htarget]
  exact length_filter_take_idxOf_succ hmixed hx

theorem mixed_withAfter (h : g.Fresh columns) : Mixed columns (g.withAfter columns) := by
  refine (withAfter_spec h).1.mixed (mixed_withBefore h) fun x hx => ?_
  exact (h.later_not_mem (List.mem_append_right _ (List.mem_append_left _ hx))).2.2

theorem lastAfter_subset_withAfter (h : g.Fresh columns) : g.lastAfter ⊆ g.withAfter columns := by
  intro x hx
  rw [(withAfter_spec h).1.mem, (withBefore_spec h).1.mem, (adds_withLastAfter h).mem]
  exact Or.inr (Or.inr (Or.inl hx))

/-- The formulas after the end keep their gaps until they are moved. -/
theorem gap_withAfter_lastAfter (h : g.Fresh columns) {x : String} (hx : x ∈ g.lastAfter) :
    gap columns (g.withAfter columns) x = lastIndex columns := by
  have hlater : x ∉ g.laterNames := fun hmem => (h.later_not_mem hmem).2.1 hx
  have hnew : ∀ y ∈ g.laterNames, y ∉ columns := fun y hy => (h.later_not_mem hy).2.2
  rw [(withAfter_spec h).1.gap (fun y hy => hnew y (by simp [laterNames, hy]))
      (fun hmem => hlater (by simp [laterNames, hmem])),
    (withBefore_spec h).1.gap (fun y hy => hnew y (by simp [laterNames, hy]))
      (fun hmem => hlater (by simp [laterNames, hmem])), gap_withLastAfter h hx]

theorem withMoved_spec (h : g.Fresh columns) :
    Adds g.lastAfter (g.withAfter columns) (g.withMoved columns) ∧
      ∀ x ∈ g.lastAfter, gap columns (g.withMoved columns) x =
        if g.after = [] then lastIndex columns else columns.length := by
  have hmixed := mixed_withAfter h
  have hsub := lastAfter_subset_withAfter h
  unfold withMoved
  by_cases hmove : (g.after.isEmpty || g.lastAfter.isEmpty) = true
  · rw [if_pos hmove]
    refine ⟨Adds.of_subset hmixed.nodup hsub, fun x hx => ?_⟩
    have hafter : g.after = [] := by
      rcases Bool.or_eq_true_iff.1 hmove with hafter | hlast
      · exact List.isEmpty_iff.1 hafter
      · rw [List.isEmpty_iff.1 hlast] at hx
        cases hx
    rw [if_pos hafter, gap_withAfter_lastAfter h hx]
  · rw [if_neg hmove]
    refine ⟨adds_moveToEnd hmixed.nodup hsub, fun x hx => ?_⟩
    have hafter : g.after ≠ [] := by
      rintro hnil
      rw [hnil] at hmove
      exact hmove rfl
    rw [if_neg hafter, gap_moveToEnd_self hmixed h.new_lastAfter hx]

theorem mixed_withMoved (h : g.Fresh columns) : Mixed columns (g.withMoved columns) :=
  (withMoved_spec h).1.mixed (mixed_withAfter h) h.new_lastAfter

/-- The formulas before the end. -/
theorem insertInto_spec (h : g.Fresh columns) :
    Adds g.lastBefore (g.withMoved columns) (g.insertInto columns) ∧
      ∀ x ∈ g.lastBefore, columns.length - 1 ≤ gap columns (g.insertInto columns) x := by
  obtain ⟨-, hrest, hbefore⟩ := List.nodup_append.1 h.nodup_laterNames
  obtain ⟨-, hnodup, hafter⟩ := List.nodup_append.1 hrest
  obtain ⟨hadds, -, hgaps⟩ := foldl_insertAt_gap (fun es _ => es.length - 1) id (fun _ => True)
    (fun _ _ _ _ => trivial) (mixed_withMoved h) trivial (by rwa [List.map_id])
    (fun x hx => by
      have hlater := lastBefore_mem_laterNames hx
      rw [id_eq, (withMoved_spec h).1.mem, (withAfter_spec h).1.mem, (withBefore_spec h).1.mem,
        not_or, not_or, not_or]
      refine ⟨(h.later_not_mem hlater).2.1, fun hmem => hafter x hmem x hx rfl, fun hmem => ?_,
        later_not_mem_withLastAfter h hlater⟩
      exact hbefore x hmem x (List.mem_append_right _ hx) rfl)
  rw [List.map_id] at hadds
  refine ⟨hadds, fun x hx => ?_⟩
  obtain ⟨es, hmixed, -, hgap⟩ := hgaps x hx
  exact hgap ▸ length_sub_one_le_filter_take hmixed

theorem adds_from_withAfter (h : g.Fresh columns) :
    Adds (g.lastAfter ++ g.lastBefore) (g.withAfter columns) (g.insertInto columns) :=
  (withMoved_spec h).1.trans (insertInto_spec h).1

theorem adds_from_withBefore (h : g.Fresh columns) :
    Adds (g.after.map (·.name) ++ (g.lastAfter ++ g.lastBefore)) (g.withBefore columns)
      (g.insertInto columns) :=
  (withAfter_spec h).1.trans (adds_from_withAfter h)

theorem adds_from_withFirst (h : g.Fresh columns) :
    Adds (g.lastAfter ++ (g.before.map (·.name) ++
        (g.after.map (·.name) ++ (g.lastAfter ++ g.lastBefore))))
      (g.withFirst columns) (g.insertInto columns) :=
  (adds_withLastAfter h).trans ((withBefore_spec h).1.trans (adds_from_withBefore h))

theorem mem_insertInto_iff (h : g.Fresh columns) {x : String} :
    x ∈ g.insertInto columns ↔ x ∈ g.names ∨ x ∈ columns := by
  rw [(adds_from_withFirst h).mem, (adds_withFirst h).mem]
  simp only [names, List.mem_append]
  tauto

theorem gap_insertInto_first (h : g.Fresh columns) {x : String} (hx : x ∈ g.first) :
    gap columns (g.insertInto columns) x = firstIndex columns := by
  have hother : x ∉ g.lastAfter ++ g.laterNames :=
    fun hmem => (List.nodup_append.1 h.nodup_names).2.2 x hx x hmem rfl
  rw [(adds_from_withFirst h).gap (fun y hy => h.new y ?_) ?_, gap_withFirst h hx]
  · simp only [laterNames, List.mem_append] at hother ⊢
    tauto
  · simp only [names, List.mem_append] at hy ⊢
    tauto

/-- The formulas at the start keep their order. -/
theorem first_sublist_insertInto (h : g.Fresh columns) :
    g.first.Sublist (g.insertInto columns) := by
  have hother : ∀ x ∈ g.lastAfter ++ g.laterNames, g.first.contains x = false := by
    intro x hx
    have hmem : x ∉ g.first := fun hmem =>
      (List.nodup_append.1 h.nodup_names).2.2 x hmem x hx rfl
    simpa using hmem
  have hcolumns (es : List String) (hes : es.Sublist columns) :
      es.filter g.first.contains = [] :=
    List.filter_eq_nil_iff.2 fun x hx => by
      simpa using fun hmem => h.new_first x hmem (hes.subset hx)
  have hfilter : (g.insertInto columns).filter g.first.contains = g.first := by
    rw [(adds_from_withFirst h).filter _ fun x hx => hother x ?_, withFirst, insertFirst_eq,
      insertBlock, List.filter_append, List.filter_append, hcolumns _ (List.take_sublist _ _),
      hcolumns _ (List.drop_sublist _ _), List.filter_eq_self.2 fun x hx => by simpa using hx]
    · simp
    · simp only [laterNames, List.mem_append] at hx ⊢
      tauto
  exact hfilter ▸ List.filter_sublist

theorem gap_insertInto_before (h : g.Fresh columns) {b : Beside} (hb : b ∈ g.before) {x : String}
    (hx : x ∈ columns) (htarget : b.target = some x) :
    gap columns (g.insertInto columns) b.name = columns.idxOf x := by
  have hlater := before_mem_laterNames hb
  have hrest := (List.nodup_append.1 h.nodup_laterNames).2.2 b.name (List.mem_map_of_mem hb)
  have hlast := (h.later_not_mem hlater).2.1
  rw [(adds_from_withBefore h).gap (fun y hy => h.new y ?_) ?_,
    (withBefore_spec h).2 b hb x hx htarget]
  · rw [List.mem_append, List.mem_append, not_or, not_or]
    exact ⟨fun hmem => hrest _ (List.mem_append_left _ hmem) rfl, hlast,
      fun hmem => hrest _ (List.mem_append_right _ hmem) rfl⟩
  · simp only [names, List.mem_append] at hy ⊢
    tauto

theorem gap_insertInto_after (h : g.Fresh columns) {b : Beside} (hb : b ∈ g.after) {x : String}
    (hx : x ∈ columns) (htarget : b.target = some x) :
    gap columns (g.insertInto columns) b.name = columns.idxOf x + 1 := by
  have hlater := after_mem_laterNames hb
  obtain ⟨-, hrest, -⟩ := List.nodup_append.1 h.nodup_laterNames
  have hlastBefore := (List.nodup_append.1 hrest).2.2 b.name (List.mem_map_of_mem hb)
  have hlast := (h.later_not_mem hlater).2.1
  rw [(adds_from_withAfter h).gap (fun y hy => h.new y ?_) ?_,
    (withAfter_spec h).2 b hb x hx htarget]
  · rw [List.mem_append, not_or]
    exact ⟨hlast, fun hmem => hlastBefore _ hmem rfl⟩
  · simp only [names, List.mem_append] at hy ⊢
    tauto

theorem gap_insertInto_lastAfter (h : g.Fresh columns) {x : String} (hx : x ∈ g.lastAfter) :
    gap columns (g.insertInto columns) x =
      if g.after = [] then lastIndex columns else columns.length := by
  have hlater : x ∉ g.laterNames := fun hmem => (h.later_not_mem hmem).2.1 hx
  rw [(insertInto_spec h).1.gap
    (fun y hy => (h.later_not_mem (lastBefore_mem_laterNames hy)).2.2)
    (fun hmem => hlater (lastBefore_mem_laterNames hmem)), (withMoved_spec h).2 x hx]

theorem perm_names_put (g : Groups) {name : String} {spot : Spot}
    (h : ∀ place after, spot = .beside place after → place.name = name) :
    (g.put name spot).names.Perm (name :: g.names) := by
  refine List.perm_iff_count.2 fun x => ?_
  rcases spot with _ | (_ | _) | ⟨place, _ | _⟩ <;>
    simp only [put, names, List.count_append, List.count_cons, List.count_nil, List.map_append,
      List.map_cons, List.map_nil]
  case beside.false => rw [h place false rfl]; omega
  case beside.true => rw [h place true rfl]; omega
  all_goals omega

end Groups

section Accepted

variable {formulas : List FormulaSpec} {accepted : List (FormulaSpec × Spot)}

/-- The groups of the accepted formulas. -/
def groupsOf (accepted : List (FormulaSpec × Spot)) : Groups :=
  accepted.foldl (fun g a => g.put a.1.name a.2) ⟨[], [], [], [], []⟩

theorem groupsOf_eq (accepted : List (FormulaSpec × Spot)) :
    groupsOf accepted =
      { first := namesAt (· == .first) accepted
        lastAfter := namesAt (· == .last true) accepted
        lastBefore := namesAt (· == .last false) accepted
        before := placesAt false accepted
        after := placesAt true accepted } := by
  rw [groupsOf, foldl_put]
  rfl

theorem perm_names_foldl_put (g : Groups) {accepted : List (FormulaSpec × Spot)}
    (h : ∀ a ∈ accepted, ∀ place after, a.2 = .beside place after → place.name = a.1.name) :
    (accepted.foldl (fun g a => g.put a.1.name a.2) g).names.Perm
      (accepted.map (·.1.name) ++ g.names) := by
  induction accepted generalizing g with
  | nil => exact List.Perm.refl _
  | cons a rest ih =>
      have hput := g.perm_names_put (h a List.mem_cons_self)
      refine (ih _ fun b hb => h b (List.mem_cons_of_mem _ hb)).trans ?_
      exact (hput.append_left _).trans List.perm_middle

/-- An accepted formula is in the group of its spot. -/
theorem mem_groupsOf {a : FormulaSpec × Spot} (ha : a ∈ accepted) :
    (a.2 = .first → a.1.name ∈ (groupsOf accepted).first) ∧
      (a.2 = .last true → a.1.name ∈ (groupsOf accepted).lastAfter) ∧
      (a.2 = .last false → a.1.name ∈ (groupsOf accepted).lastBefore) ∧
      (∀ place, a.2 = .beside place false → place ∈ (groupsOf accepted).before) ∧
      ∀ place, a.2 = .beside place true → place ∈ (groupsOf accepted).after := by
  rw [groupsOf_eq]
  have hname (spot : Spot) (h : a.2 = spot) : a.1.name ∈ namesAt (· == spot) accepted :=
    mem_namesAt.2 ⟨a, ha, beq_iff_eq.2 h, rfl⟩
  have hplace (after : Bool) (place : Beside) (h : a.2 = .beside place after) :
      place ∈ placesAt after accepted :=
    List.mem_filterMap.2 ⟨a, ha, by rw [h]; simp [Spot.place?]⟩
  exact ⟨hname _, hname _, hname _, hplace false, hplace true⟩

/-- A formula beside a column is remembered there by its own name. -/
theorem name_of_spotOf {f : FormulaSpec} {place : Beside} {after : Bool}
    (h : spotOf columns f = .ok (some (.beside place after))) : place.name = f.name := by
  have hplaced : ((Spot.beside place after).place? after).isSome = true := by simp [Spot.place?]
  have hside : isBeside f = true := ((spotOf_place?_isSome h).1 hplaced).1
  obtain ⟨place', hspot, hname, -⟩ := (spotOf_spec h).2.2 hside
  obtain ⟨rfl, -⟩ := Spot.beside.inj hspot
  exact hname

/-- The groups of the accepted formulas hold their names. -/
theorem perm_names_groupsOf (h : ∀ a ∈ accepted, spotOf columns a.1 = .ok (some a.2)) :
    (groupsOf accepted).names.Perm (accepted.map (·.1.name)) := by
  have hplaces : ∀ a ∈ accepted, ∀ place after, a.2 = .beside place after →
      place.name = a.1.name := fun a ha place after hspot =>
    name_of_spotOf (hspot ▸ h a ha)
  simpa [groupsOf, Groups.names] using perm_names_foldl_put ⟨[], [], [], [], []⟩ hplaces

/-- The columns and the accepted formulas have names of their own. -/
theorem nodup_append_names_groupsOf (hcolumns : columns.Nodup)
    (h : acceptedFormulas columns formulas columns = .ok accepted) :
    (columns ++ (groupsOf accepted).names).Nodup := by
  obtain ⟨-, hnodup, hall⟩ := acceptedFormulas_spec h
  have hperm := perm_names_groupsOf fun a ha => (hall a ha).2
  refine List.nodup_append.2 ⟨hcolumns, hperm.nodup_iff.2 hnodup, ?_⟩
  rintro x hx _ hname rfl
  obtain ⟨a, ha, rfl⟩ := List.mem_map.1 (hperm.mem_iff.1 hname)
  exact (hall a ha).1 hx

/-- The accepted formulas of a table are fresh names among its columns. -/
theorem fresh_groupsOf (hcolumns : columns.Nodup)
    (haction : ∀ f ∈ formulas, f.name ≠ actionColumn)
    (h : acceptedFormulas columns formulas columns = .ok accepted) :
    (groupsOf accepted).names.Perm (accepted.map (·.1.name)) ∧
      (groupsOf accepted).Fresh columns := by
  obtain ⟨hsub, -, hall⟩ := acceptedFormulas_spec h
  have hperm := perm_names_groupsOf fun a ha => (hall a ha).2
  obtain ⟨-, hnodup, hapart⟩ := List.nodup_append.1 (nodup_append_names_groupsOf hcolumns h)
  refine ⟨hperm, hcolumns, hnodup, fun x hx hmem => hapart x hmem x hx rfl, fun x hx => ?_⟩
  obtain ⟨a, ha, rfl⟩ := List.mem_map.1 (hperm.mem_iff.1 hx)
  exact haction a.1 (hsub.subset (List.mem_map_of_mem ha))

/-- The gap of an accepted formula, as its own placement says. -/
structure GapLaw (columns result : List String) (accepted : List (FormulaSpec × Spot))
    (f : FormulaSpec) : Prop where
  first : f.placement.anchor = some (.name "first") →
    gap columns result f.name = if columns.head? = some numberColumn then 1 else 0
  beside : isBeside f = true → ∀ x ∈ columns, targetOf f = some (.name x) →
    gap columns result f.name = columns.idxOf x + if f.placement.after then 1 else 0
  lastAfter : f.placement.anchor = some (.name "last") → f.placement.after = true →
    gap columns result f.name =
      if actionColumn ∈ columns ∧
          ¬ ∃ a ∈ accepted, isBeside a.1 = true ∧ a.1.placement.after = true then
        columns.idxOf actionColumn
      else columns.length
  lastBefore : f.placement.anchor = some (.name "last") → f.placement.after = false →
    columns.length - 1 ≤ gap columns result f.name

theorem firstIndex_eq (h : numberColumn ∈ columns → columns.head? = some numberColumn) :
    firstIndex columns = if columns.head? = some numberColumn then 1 else 0 := by
  unfold firstIndex
  by_cases hmem : numberColumn ∈ columns
  · rw [if_pos hmem, if_pos (h hmem)]
  · have hhead : columns.head? ≠ some numberColumn := fun hh => hmem (List.mem_of_mem_head? hh)
    rw [if_neg hmem, if_neg hhead]

theorem placesAt_eq_nil_iff (hall : ∀ a ∈ accepted, spotOf columns a.1 = .ok (some a.2)) :
    placesAt true accepted = [] ↔
      ¬ ∃ a ∈ accepted, isBeside a.1 = true ∧ a.1.placement.after = true := by
  rw [placesAt, List.filterMap_eq_nil_iff]
  constructor
  · rintro hnone ⟨a, ha, hside⟩
    have hsome := (spotOf_place?_isSome (hall a ha)).2 hside
    rw [hnone a ha] at hsome
    cases hsome
  · intro hno a ha
    by_contra hsome
    exact hno ⟨a, ha,
      (spotOf_place?_isSome (hall a ha)).1 (Option.isSome_iff_ne_none.2 hsome)⟩

theorem gapLaw_of_fresh (hnumber : numberColumn ∈ columns → columns.head? = some numberColumn)
    (hfresh : (groupsOf accepted).Fresh columns)
    (hall : ∀ a ∈ accepted, spotOf columns a.1 = .ok (some a.2)) {a : FormulaSpec × Spot}
    (ha : a ∈ accepted) :
    GapLaw columns ((groupsOf accepted).insertInto columns) accepted a.1 := by
  obtain ⟨hfirst, hlast, hbeside⟩ := spotOf_spec (hall a ha)
  obtain ⟨memFirst, memLastAfter, memLastBefore, memBefore, memAfter⟩ := mem_groupsOf ha
  constructor
  case first =>
    intro hanchor
    rw [Groups.gap_insertInto_first hfresh (memFirst (hfirst hanchor)), firstIndex_eq hnumber]
  case beside =>
    intro hside x hx htarget
    obtain ⟨place, hspot, hname, hplace⟩ := hbeside hside
    have hx' : place.target = some x := (hplace x).2 ⟨htarget, hx⟩
    rw [← hname]
    cases hafter : a.1.placement.after with
    | false =>
        rw [hafter] at hspot
        exact Groups.gap_insertInto_before hfresh (memBefore place hspot) hx hx'
    | true =>
        rw [hafter] at hspot
        exact Groups.gap_insertInto_after hfresh (memAfter place hspot) hx hx'
  case lastAfter =>
    intro hanchor hafter
    have hspot := hlast hanchor
    rw [hafter] at hspot
    have hnil : (groupsOf accepted).after = [] ↔
        ¬ ∃ a ∈ accepted, isBeside a.1 = true ∧ a.1.placement.after = true := by
      rw [groupsOf_eq]
      exact placesAt_eq_nil_iff hall
    rw [Groups.gap_insertInto_lastAfter hfresh (memLastAfter hspot), lastIndex]
    -- where a formula stands behind a column, those at the end are moved behind the buttons too
    by_cases hbeside : (groupsOf accepted).after = []
    · rw [if_pos hbeside]
      by_cases haction : actionColumn ∈ columns
      · rw [if_pos haction, if_pos ⟨haction, hnil.1 hbeside⟩]
      · rw [if_neg haction, if_neg fun h => haction h.1]
    · rw [if_neg hbeside, if_neg fun h => hbeside (hnil.2 h.2)]
  case lastBefore =>
    intro hanchor hafter
    have hspot := hlast hanchor
    rw [hafter] at hspot
    exact (Groups.insertInto_spec hfresh).2 _ (memLastBefore hspot)

/-- Where formula columns stand: every accepted formula is inserted, those at the start keep their
order, and the number of original columns before each of them follows from its own placement. -/
theorem gapLaw_placeFormulas {result : List String} (hcolumns : columns.Nodup)
    (hnumber : numberColumn ∈ columns → columns.head? = some numberColumn)
    (haction : ∀ f ∈ formulas, f.name ≠ actionColumn)
    (h : placeFormulas columns formulas = .ok result) :
    ∃ accepted, acceptedFormulas columns formulas columns = .ok accepted ∧
      (∀ x, x ∈ result ↔ x ∈ columns ∨ ∃ a ∈ accepted, a.1.name = x) ∧
      ((accepted.filter fun a => a.1.placement.anchor == some (.name "first")).map
        (·.1.name)).Sublist result ∧
      ∀ a ∈ accepted, GapLaw columns result accepted a.1 := by
  cases haccepted : acceptedFormulas columns formulas columns with
  | error e =>
      rw [placeFormulas, groupFormulas_eq, haccepted] at h
      cases h
  | ok accepted =>
      have hresult : result = (groupsOf accepted).insertInto columns := by
        rw [placeFormulas, groupFormulas_eq, haccepted] at h
        exact (Except.ok.inj h).symm
      subst hresult
      obtain ⟨hperm, hfresh⟩ := fresh_groupsOf hcolumns haction haccepted
      obtain ⟨-, -, hall⟩ := acceptedFormulas_spec haccepted
      refine ⟨accepted, rfl, fun x => ?_, ?_, fun a ha => gapLaw_of_fresh hnumber hfresh
        (fun b hb => (hall b hb).2) ha⟩
      · rw [Groups.mem_insertInto_iff hfresh, hperm.mem_iff, List.mem_map, or_comm]
      · have hfirst : (accepted.filter fun a =>
            a.1.placement.anchor == some (.name "first")).map (·.1.name) =
              (groupsOf accepted).first := by
          rw [groupsOf_eq]
          refine congrArg (List.map _) (List.filter_congr fun a ha => ?_)
          rw [Bool.eq_iff_iff, beq_iff_eq, beq_iff_eq]
          exact (spotOf_eq_first_iff (hall a ha).2).symm
        rw [hfirst]
        exact Groups.first_sublist_insertInto hfresh

end Accepted

/-- A formula of each kind, two of them before the column of buttons. -/
def mixedFormulas : List FormulaSpec :=
  [⟨"before_end", none, [], "+", ⟨some (.name "last"), false⟩⟩,
    ⟨"start", none, [], "+", ⟨some (.name "first"), false⟩⟩,
    ⟨"end", none, [], "+", ⟨some (.name "last"), true⟩⟩,
    ⟨"button", none, [], "+", ⟨some (.name "action"), false⟩⟩,
    ⟨"total", none, ["amount", "tax"], "+", .beforeSource⟩]

/-- The gaps of formulas of every kind in a table with row numbers and buttons. -/
theorem gapLaw_mixedFormulas :
    ["number_lists", "amount", "tax", "action"].Nodup ∧
      (∀ f ∈ mixedFormulas, f.name ≠ actionColumn) ∧
      ∃ accepted, acceptedFormulas ["number_lists", "amount", "tax", "action"] mixedFormulas
          ["number_lists", "amount", "tax", "action"] = .ok accepted ∧
        accepted.length = 5 ∧
        ∀ a ∈ accepted, GapLaw ["number_lists", "amount", "tax", "action"]
          ["number_lists", "start", "amount", "total", "tax", "button", "end", "before_end",
            "action"] accepted a.1 := by
  have hplaced : placeFormulas ["number_lists", "amount", "tax", "action"] mixedFormulas =
      .ok ["number_lists", "start", "amount", "total", "tax", "button", "end", "before_end",
        "action"] := by rfl
  obtain ⟨accepted, haccepted, -, -, hgaps⟩ :=
    gapLaw_placeFormulas (by decide) (fun _ => by decide) (by decide) hplaced
  refine ⟨by decide, by decide, accepted, haccepted, ?_, hgaps⟩
  have hlength : (acceptedFormulas ["number_lists", "amount", "tax", "action"] mixedFormulas
      ["number_lists", "amount", "tax", "action"]).map List.length = .ok 5 := by rfl
  rw [haccepted] at hlength
  exact Except.ok.inj hlength

end AdminGrid.Layout

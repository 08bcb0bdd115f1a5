import AdminGrid.Direct.Compile
import AdminGrid.Proofs.Parity.Items
import AdminGrid.Proofs.Parity.Stages
import AdminGrid.Proofs.Store.Sight

/-!
# Cells and items that do not depend on a column

What a table shows under a field is computed from some columns of the row: the sources of a formula,
or the column of the field's own name and the thumbnail beside it.  Rows that differ in another
column show the same.

Rows that differ in one column become items that differ in what is computed from it.  A single pass
makes an item in one go; the stages render the cells of a row first, and attach to them what the
single pass would have added.
-/

namespace AdminGrid

/-- The formula of a field, the last one where there are several. -/
def TableDescriptor.formula? (d : TableDescriptor) (field : String) : Option FormulaSpec :=
  d.formulas.reverse.find? (·.name == field)

/-- Whether the cell that a table shows under a field is computed from a column. -/
def CellFrom (d : TableDescriptor) (column field : String) : Prop :=
  match d.formula? field with
  | some f => column ∈ f.sourceFields
  | none => field = column ∨ field ++ "_thumb" = column

/-- Whether the action cells of a table are computed from a column: the one that names its rows, the
one that stands in for it, or the one that tells the deleted rows. -/
def ActionFrom (d : TableDescriptor) (column : String) : Prop :=
  column = d.urlTargetField ∨ column = "id" ∨ d.softDeleteField = some column

/-- Whether what a row of an answer holds under a key is computed from a column. -/
def ComputedFrom (d : TableDescriptor) (column key : String) : Prop :=
  CellFrom d column key ∨ key = "action" ∧ d.actions.enabled = true ∧ ActionFrom d column ∨
    key = "DT_RowAttr" ∧ d.clickable = true ∧ column = Direct.targetField d

section Cells

variable {column : String} {a b : Entries Value}

theorem cellAt_eq_of_ne (h : a.AlikeOn (· ≠ column) b) {field : String} (hfield : field ≠ column) :
    cellAt a field = cellAt b field := by
  rw [cellAt, cellAt, h.get? field hfield]

theorem evaluate_eq_of_alikeOn (h : a.AlikeOn (· ≠ column) b) {f : FormulaSpec}
    (hf : column ∉ f.sourceFields) : Formula.evaluate f a = Formula.evaluate f b := by
  have hcells : f.sourceFields.map (cellAt a) = f.sourceFields.map (cellAt b) :=
    List.map_congr_left fun field hfield =>
      cellAt_eq_of_ne h fun heq => hf (heq ▸ hfield)
  have hpairs : f.sourceFields.map (fun field => (field, cellAt a field)) =
      f.sourceFields.map fun field => (field, cellAt b field) :=
    List.map_congr_left fun field hfield => by
      rw [cellAt_eq_of_ne h fun heq => hf (heq ▸ hfield)]
  unfold Formula.evaluate Formula.compute
  simp only [hcells, hpairs]

theorem imageCell_eq_of_alikeOn (h : a.AlikeOn (· ≠ column) b) (assets : Cell.Assets)
    {field : String} (hthumb : field ++ "_thumb" ≠ column) (cell : Value) :
    Cell.imageCell assets field cell a = Cell.imageCell assets field cell b := by
  unfold Cell.imageCell Cell.renderImage
  rw [cellAt_eq_of_ne h hthumb]

theorem render_eq_of_alikeOn (h : a.AlikeOn (· ≠ column) b) {d : TableDescriptor}
    (hd : ¬ ActionFrom d column) (buttons : List ActionButton) (base : String) :
    Action.render buttons a base d.urlTargetField d.softDeleteField =
      Action.render buttons b base d.urlTargetField d.softDeleteField := by
  obtain ⟨htarget, hid, hdelete⟩ : column ≠ d.urlTargetField ∧ column ≠ "id" ∧
      d.softDeleteField ≠ some column := by
    simpa [ActionFrom, not_or] using hd
  -- an action cell reads two things of a row: which one it is, and whether it is deleted
  have hrow : Action.rowId a d.urlTargetField = Action.rowId b d.urlTargetField := by
    unfold Action.rowId
    rw [cellAt_eq_of_ne h htarget.symm, h.get? "id" hid.symm]
  have hrestore : Action.offersRestore a d.softDeleteField =
      Action.offersRestore b d.softDeleteField := by
    unfold Action.offersRestore
    cases hfield : d.softDeleteField with
    | none => rfl
    | some field =>
        have hne : field ≠ column := fun heq => hdelete (heq ▸ hfield)
        simp only [cellAt_eq_of_ne h hne]
  unfold Action.render
  simp only [hrow, hrestore]

end Cells

section Fields

variable {d : TableDescriptor} {column : String} {a b : Entries Value}

theorem itemCell_eq_of_alikeOn {s : Direct.ItemStyle} (h : a.AlikeOn (· ≠ column) b)
    {field : String} (hfield : ¬ CellFrom s.descriptor column field) :
    Direct.itemCell s a field = Direct.itemCell s b field := by
  have hformula : s.formula? field = s.descriptor.formula? field := by
    unfold Direct.ItemStyle.formula? TableDescriptor.formula?
    rw [Entries.get?_ofList, Entries.get?_eq_find?, ← List.map_reverse, List.find?_map,
      Option.map_map]
    exact Option.map_id'
  unfold CellFrom at hfield
  unfold Direct.itemCell
  rw [hformula]
  cases hf : s.descriptor.formula? field with
  | some f =>
      rw [hf] at hfield
      simp only [evaluate_eq_of_alikeOn h hfield]
  | none =>
      rw [hf, not_or] at hfield
      have hshows : s.showsImage field a = s.showsImage field b := by
        unfold Direct.ItemStyle.showsImage
        rw [cellAt_eq_of_ne h hfield.1, cellAt_eq_of_ne h hfield.2]
      simp only [cellAt_eq_of_ne h hfield.1, hshows, imageCell_eq_of_alikeOn h _ hfield.2]

theorem cellValue_eq_of_alikeOn {style : Cell.RowStyle} (hstyle : style.formulas = d.formulas)
    (h : a.AlikeOn (· ≠ column) b) {field : String} (hfield : ¬ CellFrom d column field) :
    Cell.cellValue style a field = Cell.cellValue style b field := by
  have hformula : style.formula? field = d.formula? field := by
    rw [Cell.RowStyle.formula?, TableDescriptor.formula?, hstyle]
  unfold CellFrom at hfield
  unfold Cell.cellValue
  rw [hformula]
  cases hf : d.formula? field with
  | some f =>
      rw [hf] at hfield
      simp only [evaluate_eq_of_alikeOn h hfield]
  | none =>
      rw [hf, not_or] at hfield
      have hshows : style.isImageColumn field a = style.isImageColumn field b := by
        unfold Cell.RowStyle.isImageColumn
        rw [cellAt_eq_of_ne h hfield.1, cellAt_eq_of_ne h hfield.2]
      simp only [cellAt_eq_of_ne h hfield.1, hshows, imageCell_eq_of_alikeOn h _ hfield.2]

end Fields

/-- Two items that differ in what a table computes from a column. -/
abbrev SameButComputed (d : TableDescriptor) (column : String) (item item' : Entries Value) :
    Prop :=
  Entries.AlikeOn (fun key => ¬ ComputedFrom d column key) item item'

section Items

variable {d : TableDescriptor} {column : String} {s : Direct.ItemStyle} {a b : Entries Value}

theorem sameButComputed_withNumber (i : Nat) {item item' : Entries Value}
    (h : SameButComputed d column item item') :
    SameButComputed d column (Direct.withNumber s i item) (Direct.withNumber s i item') := by
  have hnumbered : SameButComputed d column
      (item.put "DT_RowIndex" (.int (s.start + i + 1)))
      (item'.put "DT_RowIndex" (.int (s.start + i + 1))) := h.put fun _ => rfl
  unfold Direct.withNumber
  by_cases hnumbering : s.descriptor.numbering = true
  · simp only [if_pos hnumbering, ← hnumbered.has_eq]
    by_cases hshown : Entries.has Layout.numberColumn
        (item.put "DT_RowIndex" (.int (s.start + i + 1))) = true
    · rw [if_pos hshown, if_pos hshown]
      exact hnumbered.put fun _ => rfl
    · rw [if_neg hshown, if_neg hshown]
      exact hnumbered
  · rw [if_neg hnumbering, if_neg hnumbering]
    exact h

theorem compatible_withAction (hs : s.descriptor = d) (hrows : a.AlikeOn (· ≠ column) b)
    {item item' : Entries Value} (h : SameButComputed d column item item') :
    Compatible (SameButComputed d column) (Direct.withAction s a item)
      (Direct.withAction s b item') := by
  subst hs
  unfold Direct.withAction
  by_cases henabled : s.descriptor.actions.enabled = true
  · rw [if_pos henabled, if_pos henabled]
    intro x y hx hy
    obtain ⟨cell, hcell, rfl⟩ := map_eq_ok.1 hx
    obtain ⟨cell', hcell', rfl⟩ := map_eq_ok.1 hy
    refine h.put fun hseen => ?_
    -- the action cell is seen only where no column that it is made of differs
    have hcolumn : ¬ ActionFrom s.descriptor column := fun hfrom =>
      hseen (Or.inr (Or.inl ⟨rfl, henabled, hfrom⟩))
    rw [render_eq_of_alikeOn hrows hcolumn, hcell'] at hcell
    rw [Except.ok.inj hcell]
  · rw [if_neg henabled, if_neg henabled]
    exact compatible_ok h

theorem compatible_withAttributes (hs : s.descriptor = d) (hrows : a.AlikeOn (· ≠ column) b)
    {item item' : Entries Value} (h : SameButComputed d column item item') :
    Compatible (SameButComputed d column) (Direct.withAttributes s a item)
      (Direct.withAttributes s b item') := by
  subst hs
  unfold Direct.withAttributes
  by_cases hclickable : s.descriptor.clickable = true
  · rw [if_pos hclickable, if_pos hclickable]
    intro x y hx hy
    obtain ⟨token, htoken, hx⟩ := bind_eq_ok.1 hx
    obtain ⟨token', htoken', hy⟩ := bind_eq_ok.1 hy
    rw [← pure_eq_ok.1 hx, ← pure_eq_ok.1 hy]
    refine (h.put fun hseen => ?_).put fun _ => rfl
    -- the token of a row is seen only where another column names the rows
    have hcolumn : Direct.targetField s.descriptor ≠ column := fun htarget =>
      hseen (Or.inr (Or.inr ⟨rfl, hclickable, htarget.symm⟩))
    rw [cellAt_eq_of_ne hrows hcolumn, htoken'] at htoken
    rw [Except.ok.inj htoken]
  · rw [if_neg hclickable, if_neg hclickable]
    exact compatible_ok h

/-- What is added to the cells of rows that differ in a column. -/
theorem compatible_completed (hs : s.descriptor = d) (hrows : a.AlikeOn (· ≠ column) b) (i : Nat)
    {item item' : Entries Value} (h : SameButComputed d column item item') :
    Compatible (SameButComputed d column)
      (Direct.withAction s a (Direct.withNumber s i item) >>= Direct.withAttributes s a)
      (Direct.withAction s b (Direct.withNumber s i item') >>= Direct.withAttributes s b) :=
  (compatible_withAction hs hrows (sameButComputed_withNumber i h)).bind fun _ _ _ _ hacted =>
    compatible_withAttributes hs hrows hacted

theorem sameButComputed_of_cells {item item' : Entries Value}
    (h : Entries.AlikeOn (fun field => ¬ CellFrom d column field) item item') :
    SameButComputed d column item item' :=
  h.mono fun _ hkey hcell => hkey (Or.inl hcell)

theorem compatible_itemOf (hs : s.descriptor = d) (hrows : a.AlikeOn (· ≠ column) b) (i : Nat) :
    Compatible (SameButComputed d column) (Direct.itemOf s i a) (Direct.itemOf s i b) := by
  have hcells := compatible_pairs s.fields fun field _ (hfield : ¬ CellFrom d column field) =>
    itemCell_eq_of_alikeOn hrows (hs ▸ hfield)
  refine Compatible.bind (R := Entries.AlikeOn fun field => ¬ CellFrom d column field)
    (hcells.bind fun cells cells' _ _ hall => compatible_ok ?_) fun item item' _ _ hitem =>
      compatible_completed hs hrows i (sameButComputed_of_cells hitem)
  exact (Entries.AlikeOn.refl _ []).merge hall

/-- The items of rows that differ in a column differ in what is computed from it. -/
theorem compatible_itemsFrom (hs : s.descriptor = d) {as bs : List (Entries Value)}
    (hrows : List.Forall₂ (Entries.AlikeOn (· ≠ column)) as bs) (i : Nat) :
    Compatible (List.Forall₂ (SameButComputed d column)) (Direct.itemsFrom s i as)
      (Direct.itemsFrom s i bs) := by
  induction hrows generalizing i with
  | nil => exact compatible_ok .nil
  | cons hab _ ih =>
      exact (compatible_itemOf hs hab i).bind fun item item' _ _ hitem =>
        (ih (i + 1)).bind fun _ _ _ _ hitems => compatible_ok (.cons hitem hitems)

end Items

section Views

variable {d : TableDescriptor} {column : String} {a b : Entries Value}

/-- The cells of the stages differ in what is computed from the column. -/
theorem compatible_cellValues {style : Cell.RowStyle} (hstyle : style.formulas = d.formulas)
    (hrows : a.AlikeOn (· ≠ column) b) (fields : List String) {shown shown' : Entries Value}
    (h : Entries.AlikeOn (fun field => ¬ CellFrom d column field) shown shown') :
    Compatible (Entries.AlikeOn fun field => ¬ CellFrom d column field)
      (Cell.cellValues style a fields shown) (Cell.cellValues style b fields shown') := by
  induction fields generalizing shown shown' with
  | nil => exact compatible_ok h
  | cons field rest ih =>
      have hcell : Compatible (fun cell cell' => ¬ CellFrom d column field → cell = cell')
          (Cell.cellValue style a field) (Cell.cellValue style b field) := by
        intro cell cell' hcell hcell' hfield
        rw [cellValue_eq_of_alikeOn hstyle hrows hfield, hcell'] at hcell
        exact (Except.ok.inj hcell).symm
      exact hcell.bind fun cell cell' _ _ heq => ih (h.put heq)

/-- A view of a row before anything is attached to it, whose cells differ in what is computed from
the column. -/
structure BareView (d : TableDescriptor) (column : String) (view view' : RowView) : Prop where
  bare : view = ⟨view.values, [], none, none⟩
  bare' : view' = ⟨view'.values, [], none, none⟩
  values : SameButComputed d column view.values view'.values

theorem compatible_viewOfRow {style : Cell.RowStyle} (hstyle : style.formulas = d.formulas)
    (hrows : a.AlikeOn (· ≠ column) b) :
    Compatible (BareView d column) (viewOfRow style a) (viewOfRow style b) :=
  (compatible_cellValues hstyle hrows style.ordered (.refl _ [])).map fun _ _ hshown =>
    ⟨rfl, rfl, sameButComputed_of_cells hshown⟩

variable {c : Request.Context} {assets : Cell.Assets} {fields : List String}
  {s : Direct.ItemStyle} {action : Option (Entries Value → Attempt String)}

/-- Two rows of an answer that read as items which differ in what is computed from the column. -/
def SameRow (d : TableDescriptor) (column : String) (row row' : RowView) : Prop :=
  SameButComputed d column row.serialize row'.serialize

/-- What the stages attach to the views of two rows. -/
theorem compatible_assembleRow (hs : StyleOf d c assets fields s action)
    (hrows : a.AlikeOn (· ≠ column) b) (fetched fetched' : Staged.Fetched)
    (views views' : List RowView) (i : Nat) {view view' : RowView}
    (h : BareView d column view view') :
    Compatible (SameRow d column)
      (Answer.assembleRow (Staged.pageOf d c fetched views action) i a view)
      (Answer.assembleRow (Staged.pageOf d c fetched' views' action) i b view') := by
  intro row row' hrow hrow'
  rw [h.bare] at hrow
  rw [h.bare'] at hrow'
  have hitem := alike_assembleRow (hs.attaches fetched views) (a := a) (fun _ => rfl) i view.values
  have hitem' := alike_assembleRow (hs.attaches fetched' views') (a := b) (fun _ => rfl) i
    view'.values
  rw [hrow] at hitem
  rw [hrow'] at hitem'
  obtain ⟨item, hitem, rfl⟩ := hitem.exists_of_ok
  obtain ⟨item', hitem', rfl⟩ := hitem'.exists_of_ok
  exact compatible_completed hs.descriptor hrows i h.values _ _ hitem hitem'

/-- The rows of two answers, from a place of their pages on. -/
theorem compatible_assembleRows (hs : StyleOf d c assets fields s action)
    {fetched fetched' : Staged.Fetched} {pageViews pageViews' : List RowView}
    {as bs : List (Entries Value)} (hrows : List.Forall₂ (Entries.AlikeOn (· ≠ column)) as bs)
    {views views' : List RowView} (hviews : List.Forall₂ (BareView d column) views views') {i : Nat}
    (hrest : fetched.rows.drop i = as) (hrest' : fetched'.rows.drop i = bs)
    (hlength : views.length = as.length) :
    Compatible (List.Forall₂ (SameRow d column))
      (Answer.assembleRows (Staged.pageOf d c fetched pageViews action) i views)
      (Answer.assembleRows (Staged.pageOf d c fetched' pageViews' action) i views') := by
  induction hviews generalizing i as bs with
  | nil => exact compatible_ok .nil
  | @cons view view' rest rest' hview _ ih =>
      cases hrows with
      | nil => simp at hlength
      | @cons a b as bs hab hrows =>
          -- the raw row of a view is looked up by its place on the page
          have hraw : (Staged.pageOf d c fetched pageViews action).rawAt i view = a := by
            show (fetched.rows[i]?).getD view.values = a
            rw [← List.head?_drop, hrest, List.head?_cons, Option.getD_some]
          have hraw' : (Staged.pageOf d c fetched' pageViews' action).rawAt i view' = b := by
            show (fetched'.rows[i]?).getD view'.values = b
            rw [← List.head?_drop, hrest', List.head?_cons, Option.getD_some]
          have htail : fetched.rows.drop (i + 1) = as := by
            rw [← List.tail_drop, hrest, List.tail_cons]
          have htail' : fetched'.rows.drop (i + 1) = bs := by
            rw [← List.tail_drop, hrest', List.tail_cons]
          unfold Answer.assembleRows
          rw [hraw, hraw']
          exact (compatible_assembleRow hs hab fetched fetched' _ _ i hview).bind
            fun row row' _ _ hrow =>
              (ih hrows htail htail' (Nat.succ.inj hlength)).bind fun _ _ _ _ hrest =>
                compatible_ok (.cons hrow hrest)

end Views

end AdminGrid

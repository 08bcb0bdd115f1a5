import AdminGrid.Direct.Compile
import AdminGrid.Proofs.Parity.Cells

/-!
# Items on both sides

One compilation makes an item of each row in one go, the other one renders the rows of a page first
and attaches the number, the action cell and the attributes afterwards.
-/

namespace AdminGrid

/-- What makes the action cell of an item. -/
def Direct.ItemStyle.action (s : Direct.ItemStyle) : Option (Entries Value → Attempt String) :=
  if s.descriptor.actions.enabled then
    some fun row => Action.render s.buttons row s.basePath s.descriptor.urlTargetField
      s.descriptor.softDeleteField
  else none

/-- The action cell of an item, if its table has any. -/
def Direct.ItemStyle.actionOf (s : Direct.ItemStyle) (row : Entries Value) :
    Attempt (Option String) :=
  match s.action with
  | some render => (render row).map some
  | none => .ok none

/-- A style of items for a table, with what makes its action cells. -/
structure StyleOf (d : TableDescriptor) (c : Request.Context) (assets : Cell.Assets)
    (fields : List String) (s : Direct.ItemStyle)
    (action : Option (Entries Value → Attempt String)) : Prop where
  descriptor : s.descriptor = d
  fields : s.fields = fields
  assets : s.assets = assets
  start : s.start = c.paging.start
  action : action = s.action

theorem alike_itemStyle (d : TableDescriptor) (c : Request.Context) (assets : Cell.Assets)
    (fields : List String) :
    Alike (StyleOf d c assets fields) (Direct.itemStyle d c assets fields)
      (Staged.rowAction d c) := by
  unfold Direct.itemStyle Staged.rowAction
  by_cases henabled : d.actions.enabled = true
  · simp only [henabled, if_true]
    cases Action.basePath c.route with
    | error e => trivial
    | ok base => exact ⟨rfl, rfl, rfl, rfl, (if_pos henabled).symm⟩
  · simp only [henabled, Bool.false_eq_true, if_false]
    exact ⟨rfl, rfl, rfl, rfl, (if_neg henabled).symm⟩

theorem styleOf_of_itemStyle {d : TableDescriptor} {c : Request.Context} {assets : Cell.Assets}
    {fields : List String} {s : Direct.ItemStyle}
    (h : Direct.itemStyle d c assets fields = .ok s) : StyleOf d c assets fields s s.action := by
  rcases (alike_itemStyle d c assets fields).error_or_ok with ⟨e, _, he, -⟩ | ⟨s', _, hs', -, hs⟩
  · exact nomatch h.symm.trans he
  · obtain rfl := Except.ok.inj (h.symm.trans hs')
    exact ⟨hs.descriptor, hs.fields, hs.assets, hs.start, rfl⟩

section Flags

variable (d : TableDescriptor)

/-- The presentation of a table with the field by which its rows are named. -/
def allFlags : Entries Value := Entries.put "url_target_field" (.text d.urlTargetField) d.flags

theorem cellAt_clickable : cellAt (allFlags d) "clickable" = .bool d.clickable := by
  simp [allFlags, cellAt, TableDescriptor.flags, Entries.put, Entries.get?]

theorem cellAt_numbering : cellAt (allFlags d) "numbering" = .bool d.numbering := by
  simp [allFlags, cellAt, TableDescriptor.flags, Entries.put, Entries.get?]

theorem cellAt_urlTargetField :
    cellAt (allFlags d) "url_target_field" = .text d.urlTargetField := by
  simp [allFlags, cellAt, TableDescriptor.flags, Entries.put, Entries.get?]

theorem targetCell_eq (row : Entries Value) :
    Answer.targetCell row (allFlags d) = .ok (cellAt row (Direct.targetField d)) := by
  unfold Answer.targetCell Direct.targetField
  simp only [cellAt_urlTargetField, Value.truthy]
  by_cases hempty : d.urlTargetField = ""
  · simp [hempty]
  · simp [hempty]

end Flags

/-- The attributes of a clickable row with a token, or without one. -/
def clickableAttributes (token : Option String) : Entries String :=
  ("class", Answer.clickableClass) :: (token.map fun t => ("rlp", t)).toList

theorem rowAttributes_eq (d : TableDescriptor) (row : Entries Value) :
    Answer.rowAttributes row (allFlags d) =
      if d.clickable then
        (Answer.encodeId (cellAt row (Direct.targetField d))).map clickableAttributes
      else .ok [] := by
  unfold Answer.rowAttributes
  rw [cellAt_clickable, targetCell_eq]
  cases hclickable : d.clickable with
  | false => rfl
  | true =>
      simp only [Value.truthy, Bool.not_true, Bool.false_eq_true, if_false, if_true]
      show (Answer.encodeId (cellAt row (Direct.targetField d)) >>= _) = _
      cases Answer.encodeId (cellAt row (Direct.targetField d)) with
      | error e => rfl
      | ok token => cases token <;> rfl

theorem addAttributes_clickable (token : Option String) :
    Answer.addAttributes [] (clickableAttributes token) = clickableAttributes token := by
  cases token <;> rfl

theorem withNumber_eq (s : Direct.ItemStyle) (i : Nat) (item : Entries Value) :
    Direct.withNumber s i item = if s.descriptor.numbering then
      Answer.numbered item (s.start + i + 1) else item := rfl

/-- A rendered row with its action cell reads as the item of a single pass. -/
theorem withAction_eq_map (s : Direct.ItemStyle) {a b : Entries Value} (hcells : SameCells a b)
    (item : Entries Value) : Direct.withAction s a item =
      (s.actionOf b).map fun action => RowView.serialize ⟨item, [], none, action⟩ := by
  unfold Direct.withAction Direct.ItemStyle.actionOf Direct.ItemStyle.action
  by_cases henabled : s.descriptor.actions.enabled = true
  · simp only [henabled, if_true, render_congr hcells]
    cases Action.render s.buttons b s.basePath s.descriptor.urlTargetField
      s.descriptor.softDeleteField <;> rfl
  · simp only [henabled, Bool.false_eq_true, if_false]
    rfl

variable {d : TableDescriptor} {c : Request.Context} {assets : Cell.Assets} {fields : List String}
  {s : Direct.ItemStyle} {action : Option (Entries Value → Attempt String)} {page : Answer.Page}

/-- A page attaches to its rows what a style adds to its items. -/
structure Attaches (s : Direct.ItemStyle) (page : Answer.Page) : Prop where
  flags : page.flags = allFlags s.descriptor
  start : page.request.start = s.start
  action : page.action = s.action

theorem StyleOf.attaches (hs : StyleOf d c assets fields s action) (fetched : Staged.Fetched)
    (views : List RowView) : Attaches s (Staged.pageOf d c fetched views action) := by
  obtain ⟨rfl, rfl, rfl, hstart, rfl⟩ := hs
  exact ⟨rfl, hstart.symm, rfl⟩

theorem assembleRow_eq (h : Attaches s page) (i : Nat) (row item : Entries Value) :
    Answer.assembleRow page i row ⟨item, [], none, none⟩ =
      (if s.descriptor.clickable then
        (Answer.encodeId (cellAt row (Direct.targetField s.descriptor))).map clickableAttributes
      else .ok []) >>= fun attributes => (s.actionOf row).map fun action =>
        ⟨if s.descriptor.numbering then Answer.numbered item (s.start + i + 1) else item,
          Answer.addAttributes [] attributes, (Answer.addAttributes [] attributes).get? "class",
          action⟩ := by
  have haction : Answer.actionOf page row ⟨item, [], none, none⟩ = s.actionOf row := by
    unfold Answer.actionOf Direct.ItemStyle.actionOf
    rw [h.action]
    cases s.action <;> rfl
  unfold Answer.assembleRow
  rw [h.flags, h.start, haction, rowAttributes_eq, cellAt_numbering]
  refine bind_congr fun attributes => ?_
  cases s.actionOf row <;> rfl

/-- What is attached to a rendered row is what a single pass adds to its item, which makes the
action cell before the attributes. -/
theorem alike_assembleRow (h : Attaches s page) {a b : Entries Value} (hcells : SameCells a b)
    (i : Nat) (item : Entries Value) :
    Alike (fun row item => RowView.serialize row = item)
      (Answer.assembleRow page i b ⟨item, [], none, none⟩)
      (Direct.withAction s a (Direct.withNumber s i item) >>= Direct.withAttributes s a) := by
  rw [assembleRow_eq h, withNumber_eq, withAction_eq_map s hcells]
  unfold Direct.withAttributes
  rw [hcells.cellAt_eq]
  cases hclickable : s.descriptor.clickable with
  | false => cases s.actionOf b <;> trivial
  | true =>
      simp only [if_true]
      cases Answer.encodeId (cellAt b (Direct.targetField s.descriptor)) with
      | error e => cases s.actionOf b <;> trivial
      | ok token =>
          have hclass : (clickableAttributes token).get? "class" = some Answer.clickableClass := rfl
          cases s.actionOf b with
          | error e => trivial
          | ok action =>
              show RowView.serialize ⟨_, Answer.addAttributes [] _, _, _⟩ = _
              rw [addAttributes_clickable, hclass]
              rfl

/-- The rows of an answer depend on the page only by its request, its raw rows, its presentation and
its action cells. -/
theorem assembleRows_withRows (page : Answer.Page) (views : List RowView) (i : Nat)
    (rows : List RowView) :
    Answer.assembleRows { page with rows := views } i rows = Answer.assembleRows page i rows := by
  induction rows generalizing i with
  | nil => rfl
  | cons row rest ih =>
      unfold Answer.assembleRows
      rw [ih]
      rfl

/-- The view of a row before anything is attached to it. -/
def viewOfRow (style : Cell.RowStyle) (row : Entries Value) : Attempt RowView :=
  (Cell.cellValues style row style.ordered []).map fun shown => ⟨shown, [], none, none⟩

/-- The item of a row, with the cells that are made in some way. -/
def Direct.itemWith (s : Direct.ItemStyle) (cell : Entries Value → String → Attempt Value)
    (i : Nat) (row : Entries Value) : Attempt (Entries Value) := do
  let cells ← s.fields.mapM fun field => do return (field, ← cell row field)
  Direct.withAttributes s row
    (← Direct.withAction s row (Direct.withNumber s i (Entries.ofList cells)))

/-- The items of rows from a place on, with the cells that are made in some way. -/
def Direct.itemsWith (s : Direct.ItemStyle) (cell : Entries Value → String → Attempt Value)
    (i : Nat) : List (Entries Value) → Attempt (List (Entries Value))
  | [] => .ok []
  | row :: rest => do
      return (← Direct.itemWith s cell i row) :: (← Direct.itemsWith s cell (i + 1) rest)

theorem itemOf_eq (s : Direct.ItemStyle) (i : Nat) (row : Entries Value) :
    Direct.itemOf s i row = Direct.itemWith s (Direct.itemCell s) i row := by
  unfold Direct.itemOf Direct.itemWith Direct.itemCells
  cases s.fields.mapM fun field => do return (field, ← Direct.itemCell s row field) <;> rfl

theorem itemsFrom_eq (s : Direct.ItemStyle) (i : Nat) (rows : List (Entries Value)) :
    Direct.itemsFrom s i rows = Direct.itemsWith s (Direct.itemCell s) i rows := by
  induction rows generalizing i with
  | nil => rfl
  | cons row rest ih => rw [Direct.itemsFrom, Direct.itemsWith, itemOf_eq, ih]

section Rendered

variable {style : Cell.RowStyle} {cell : Entries Value → String → Attempt Value}

/-- Two rows with the same cells, which are shown as a style says. -/
structure ShownAs (style : Cell.RowStyle) (cell : Entries Value → String → Attempt Value)
    (a b : Entries Value) : Prop where
  cells : SameCells a b
  shown : ∀ field ∈ style.ordered, cell a field = Cell.cellValue style b field

/-- The cells of a single pass are those of a style whose rules fit the row. -/
theorem SameStyle.shownAs (h : SameStyle s style) {a b : Entries Value} (hcells : SameCells a b)
    (hfit : style.RulesFit b) : ShownAs style (Direct.itemCell s) a b :=
  ⟨hcells, fun field hfield => (h.itemCell_eq hcells field).trans (hfit.shownCell_eq hfield)⟩

variable (h : Attaches s page) (hfields : s.fields = style.ordered)

include h hfields

/-- The item of one row, made in one go or rendered first and completed afterwards. -/
theorem alike_itemWith {a b : Entries Value} (hab : ShownAs style cell a b) (i : Nat) :
    Alike (fun item row => item = RowView.serialize row) (Direct.itemWith s cell i a)
      (viewOfRow style b >>= fun view => Answer.assembleRow page i b view) := by
  have hshown := cellValues_eq hab.shown []
  unfold Direct.itemWith viewOfRow
  rw [hfields]
  rcases hshown.error_or_ok with ⟨e, e', hcells, hvalues⟩ | ⟨item, shown, hcells, hvalues, rfl⟩
  · cases hlist : style.ordered.mapM fun field => do return (field, ← cell a field) with
    | error e => rw [hvalues]; trivial
    | ok cells => rw [hlist] at hcells; cases hcells
  · obtain ⟨cells, hlist, hmerge⟩ := map_eq_ok.1 hcells
    have hrow := alike_assembleRow h hab.cells i item
    rw [hlist, hvalues]
    show Alike _ (Direct.withAction s a (Direct.withNumber s i (Entries.ofList cells)) >>=
      Direct.withAttributes s a) (Answer.assembleRow _ i b ⟨item, [], none, none⟩)
    rw [show Entries.ofList cells = item from hmerge]
    rcases hrow.error_or_ok with ⟨e, e', hrow, hitem⟩ | ⟨row, item, hrow, hitem, rfl⟩
    · rw [hrow, hitem]
      trivial
    · rw [hrow, hitem]
      exact rfl

/-- The items of a page, made one after the other or in two rounds. -/
theorem alike_itemsWith {rows as bs : List (Entries Value)} (hraws : page.raws = some rows)
    (hcells : List.Forall₂ (ShownAs style cell) as bs) {i : Nat} (hrest : rows.drop i = bs) :
    Alike (fun items rows => items = rows.map RowView.serialize) (Direct.itemsWith s cell i as)
      (bs.mapM (viewOfRow style) >>= fun rendered => Answer.assembleRows page i rendered) := by
  induction hcells generalizing i with
  | nil => exact rfl
  | @cons a b as bs hab _ ih =>
      -- the raw row of an item is looked up by its position in the page
      have hget : rows[i]? = some b := by
        rw [← List.head?_drop, hrest, List.head?_cons]
      have htail : rows.drop (i + 1) = bs := by
        rw [← List.tail_drop, hrest, List.tail_cons]
      have hraw : ∀ view, page.rawAt i view = b := by
        intro view
        rw [Answer.Page.rawAt, hraws]
        show (rows[i]?).getD view.values = b
        rw [hget, Option.getD_some]
      -- the row at hand is completed before the others are rendered
      have hswap := alike_bind_exchange (viewOfRow style b) (bs.mapM (viewOfRow style))
        (Answer.assembleRow page i b) (Answer.assembleRows page (i + 1))
        fun row rows => .ok (row :: rows)
      have hrounds : ((b :: bs).mapM (viewOfRow style) >>= fun rendered =>
          Answer.assembleRows page i rendered) =
          (viewOfRow style b >>= fun view => bs.mapM (viewOfRow style) >>= fun rest =>
            Answer.assembleRow page i b view >>= fun row =>
              Answer.assembleRows page (i + 1) rest >>= fun rows => .ok (row :: rows)) := by
        rw [List.mapM_cons]
        cases viewOfRow style b with
        | error e => rfl
        | ok view =>
            cases bs.mapM (viewOfRow style) with
            | error e => rfl
            | ok rest =>
                show (Answer.assembleRow _ i _ view >>= _) = _
                rw [hraw]
                rfl
      rw [hrounds]
      refine Alike.trans_right ?_ hswap
      refine (alike_itemWith h hfields hab i).bind fun item row _ _ hrow =>
        (ih htail).bind fun items rows _ _ hrows => ?_
      exact congrArg₂ List.cons hrow hrows

end Rendered

end AdminGrid

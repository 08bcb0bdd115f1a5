import AdminGrid.Proofs.Parity.Rows
import AdminGrid.Proofs.Parity.Stages

/-!
# Cells on both sides

A cell is shown by what its row holds under some fields, so rows with the same cells are shown
alike.  The two ways of showing a cell differ only where a format rule asks for a number of decimal
places that the cell cannot be shown with: one fails, the other leaves the cell empty.
-/

namespace AdminGrid

/-! ## Cells before and after their rules

A cell is made first and put under the rule of its column last.  Statuses and images come under no
rule, and the cell before its rule does not depend on any rule.  The two compilations differ in the
failures of a rule that they take for an empty cell. -/

/-- The failures that a single pass takes for an empty cell. -/
def Failure.isFormat : Failure → Bool
  | .format _ => true
  | _ => false

/-- The failures that a staged compilation takes for an empty cell. -/
def Failure.isUnshown : Failure → Bool
  | .format _ | .badValue => true
  | _ => false

namespace Cell

/-- The same style with other rules. -/
def RowStyle.withRules (style : RowStyle) (rules : List FormatRule) : RowStyle :=
  { style with rules }

/-- The cell that is shown in a column where there are no rules. -/
def plainCell (style : RowStyle) (row : Entries Value) (field : String) : Attempt Value :=
  cellValue (style.withRules []) row field

/-- Whether a cell comes under the rule of its column: it is computed, or it is neither a status nor
an image. -/
def RowStyle.takesRule (style : RowStyle) (row : Entries Value) (field : String) : Bool :=
  (style.formula? field).isSome ||
    !(statusFields.contains field || style.isImageColumn field row)

/-- A cell under a rule, if there is one.  It is left empty by a failure that is caught. -/
def underRule (caught : Failure → Bool) (rule? : Option FormatRule) (cell : Value) :
    Attempt Value :=
  match rule? with
  | none => .ok cell
  | some rule =>
      if cell.isBlank then .ok cell
      else match applyRule rule cell with
        | .ok shown => .ok shown
        | .error e => if caught e then .ok (.text "") else .error e

/-- The cell that is shown in a column, where some failures of rules are caught. -/
def shownCell (caught : Failure → Bool) (style : RowStyle) (row : Entries Value)
    (field : String) : Attempt Value := do
  let cell ← plainCell style row field
  if style.takesRule row field then underRule caught (style.rule? field) cell else return cell

theorem ruledValue_eq (style : RowStyle) (field : String) (cell : Value) :
    ruledValue style field cell = underRule Failure.isUnshown (style.rule? field) cell := by
  unfold ruledValue underRule
  cases style.rule? field with
  | none => rfl
  | some rule =>
      dsimp only
      rcases applyRule rule cell with e | shown
      · cases e <;> rfl
      · rfl

/-- A cell is made without rules, and then put under its own. -/
theorem cellValue_eq (style : RowStyle) (row : Entries Value) (field : String) :
    cellValue style row field = shownCell Failure.isUnshown style row field := by
  have hformula : (style.withRules []).formula? field = style.formula? field := rfl
  have himage : (style.withRules []).isImageColumn field row = style.isImageColumn field row := rfl
  have hassets : (style.withRules []).assets = style.assets := rfl
  unfold shownCell plainCell cellValue RowStyle.takesRule
  rw [hformula, himage, hassets]
  simp only [ruledValue_eq]
  cases style.formula? field with
  | some f =>
      dsimp only
      cases Formula.evaluate f row <;> rfl
  | none =>
      dsimp only
      by_cases hstatus : statusFields.contains field = true
      · simp only [hstatus, if_true]
        cases renderStatus field (cellAt row field) <;> rfl
      · by_cases hcolumn : style.isImageColumn field row = true
        · simp only [hstatus, hcolumn, if_true, Bool.false_eq_true, if_false, Bool.or_true]
          cases imageCell style.assets field (cellAt row field) row <;> rfl
        · simp only [hstatus, hcolumn, Bool.false_eq_true, if_false]
          rfl

end Cell

/-! ## Rows with the same cells -/

section Congruence

variable {a b : Entries Value}

theorem SameCells.cellAt_eq (h : SameCells a b) : cellAt a = cellAt b := by
  funext field
  rw [cellAt, cellAt, h field]

theorem compute_congr (h : SameCells a b) (f : FormulaSpec) :
    Formula.compute f a = Formula.compute f b := by
  unfold Formula.compute
  rw [h.cellAt_eq]

theorem evaluate_congr (h : SameCells a b) (f : FormulaSpec) :
    Formula.evaluate f a = Formula.evaluate f b := by
  rw [Formula.evaluate, Formula.evaluate, compute_congr h]

theorem imageCell_congr (h : SameCells a b) (assets : Cell.Assets) (field : String)
    (cell : Value) :
    Cell.imageCell assets field cell a = Cell.imageCell assets field cell b := by
  unfold Cell.imageCell Cell.renderImage
  rw [h.cellAt_eq]

theorem render_congr (h : SameCells a b) (buttons : List ActionButton)
    (base target : String) (softDelete : Option String) :
    Action.render buttons a base target softDelete =
      Action.render buttons b base target softDelete := by
  have hid : Action.rowId a target = Action.rowId b target := by
    unfold Action.rowId
    rw [h.cellAt_eq, h "id"]
  have hrestore : Action.offersRestore a softDelete = Action.offersRestore b softDelete := by
    unfold Action.offersRestore
    rw [h.cellAt_eq]
  unfold Action.render
  simp only [hid, hrestore]

end Congruence

namespace Cell

/-- Whether numbers can be shown with the decimal places that a rule asks for. -/
def ShowsPlaces (rule : FormatRule) : Prop :=
  0 ≤ placesOf rule.decimals rule.formatType ∧ placesOf rule.decimals rule.formatType ≤ maxPlaces

theorem toNumber_ne_badValue (cell : Value) : Formula.toNumber cell ≠ .error .badValue := by
  intro h
  unfold Formula.toNumber at h
  split at h
  · cases h
  · split at h
    · cases h
    · simp only at h
      split at h
      · cases h
      · split at h
        · cases h
        · split at h <;> cases h

/-- A rule with such places never finds a bad value. -/
theorem applyRule_ne_badValue {rule : FormatRule} (h : ShowsPlaces rule) (cell : Value) :
    applyRule rule cell ≠ .error .badValue := by
  have hasked : ¬ (placesOf rule.decimals rule.formatType < 0 ∨
      maxAsked < placesOf rule.decimals rule.formatType) := by
    have hlow := h.1
    have hhigh := h.2
    have hle : maxPlaces ≤ maxAsked := by decide
    omega
  have hplaces : ¬ maxPlaces < placesOf rule.decimals rule.formatType := by
    have hhigh := h.2
    omega
  intro hbad
  -- what is left to fail is the reading of the number, and its size
  unfold applyRule formatNumber at hbad
  by_cases hblank : cell.isBlank = true
  · simp [hblank, pure, Except.pure, bind, Except.bind] at hbad
  · simp only [hblank, Bool.false_eq_true, if_false, hasked, hplaces, Bool.or_eq_true,
      decide_eq_true_eq] at hbad
    cases hnumber : Formula.toNumber cell with
    | error e =>
        rw [hnumber] at hbad
        have he : e = .badValue := by simpa [bind, Except.bind] using hbad
        exact toNumber_ne_badValue cell (he ▸ hnumber)
    | ok number =>
        rw [hnumber] at hbad
        cases hfloat : number.toFloat with
        | error fault =>
            cases fault <;> simp [bind, Except.bind, hfloat, ArithmeticFault.toFailure] at hbad
        | ok x => simp [bind, Except.bind, hfloat, pure, Except.pure] at hbad

/-- No rule asks for decimal places that the cell of a row cannot be shown with. -/
def RowStyle.RulesFit (style : RowStyle) (row : Entries Value) : Prop :=
  ∀ field ∈ style.ordered, ∀ rule, style.rule? field = some rule →
    style.takesRule row field = true → ∀ cell, plainCell style row field = .ok cell →
      applyRule rule cell ≠ .error .badValue

theorem RowStyle.rulesFit_of_showsPlaces {style : RowStyle}
    (h : ∀ rule ∈ style.rules, ShowsPlaces rule) (row : Entries Value) : style.RulesFit row :=
  fun _ _ rule hrule _ cell _ =>
    applyRule_ne_badValue (h rule (List.mem_reverse.1 (List.mem_of_find?_eq_some hrule))) cell

theorem underRule_isFormat_eq {rule? : Option FormatRule} {cell : Value}
    (h : ∀ rule, rule? = some rule → applyRule rule cell ≠ .error .badValue) :
    underRule Failure.isFormat rule? cell = underRule Failure.isUnshown rule? cell := by
  unfold underRule
  cases hrule : rule? with
  | none => rfl
  | some rule =>
      dsimp only
      cases hshown : applyRule rule cell with
      | ok shown => rfl
      | error e =>
          cases e with
          | badValue => exact absurd hshown (h rule hrule)
          | _ => rfl

/-- Where the rules fit a row, it does not matter which failures of rules are caught. -/
theorem RowStyle.RulesFit.shownCell_eq {style : RowStyle} {row : Entries Value}
    (h : style.RulesFit row) {field : String} (hfield : field ∈ style.ordered) :
    shownCell Failure.isFormat style row field = cellValue style row field := by
  rw [cellValue_eq, shownCell, shownCell]
  cases hcell : plainCell style row field with
  | error e => rfl
  | ok cell =>
      cases htakes : style.takesRule row field with
      | false => rfl
      | true =>
          exact underRule_isFormat_eq fun rule hrule =>
            h field hfield rule hrule htakes cell hcell

end Cell

/-- The style of a single pass and that of a staged compilation for one table. -/
structure SameStyle (s : Direct.ItemStyle) (style : Cell.RowStyle) : Prop where
  fields : s.fields = style.ordered
  assets : s.assets = style.assets
  images : s.descriptor.fieldsWith (·.imageHint) = style.imageFields
  formulas : s.descriptor.formulas = style.formulas
  rules : s.descriptor.formatRules = style.rules

namespace SameStyle

variable {s : Direct.ItemStyle} {style : Cell.RowStyle}

theorem formula?_eq (h : SameStyle s style) (field : String) :
    s.formula? field = style.formula? field := by
  unfold Direct.ItemStyle.formula? Cell.RowStyle.formula?
  rw [Entries.get?_ofList, Entries.get?_eq_find?, ← List.map_reverse, List.find?_map,
    Option.map_map, h.formulas]
  exact Option.map_id'

theorem rule?_eq (h : SameStyle s style) (field : String) :
    s.rule? field = style.rule? field := by
  unfold Direct.ItemStyle.rule? Cell.RowStyle.rule?
  rw [Entries.get?_ofList, Entries.get?_eq_find?, ← List.map_reverse, List.find?_map,
    Option.map_map, h.rules]
  exact Option.map_id'

theorem ruledCell_eq (h : SameStyle s style) (field : String) (cell : Value) :
    Direct.ruledCell s field cell =
      Cell.underRule Failure.isFormat (style.rule? field) cell := by
  unfold Direct.ruledCell Cell.underRule
  rw [h.rule?_eq]
  cases style.rule? field with
  | none => rfl
  | some rule =>
      dsimp only
      rcases Cell.applyRule rule cell with e | shown
      · cases e <;> rfl
      · rfl

theorem showsImage_eq (h : SameStyle s style) {a b : Entries Value} (hcells : SameCells a b)
    (field : String) : s.showsImage field a = style.isImageColumn field b := by
  unfold Direct.ItemStyle.showsImage Cell.RowStyle.isImageColumn
  rw [h.images, hcells.cellAt_eq]

/-- A single pass makes the same cells, and catches fewer failures of their rules. -/
theorem itemCell_eq (h : SameStyle s style) {a b : Entries Value} (hcells : SameCells a b)
    (field : String) :
    Direct.itemCell s a field = Cell.shownCell Failure.isFormat style b field := by
  have hformula : (style.withRules []).formula? field = style.formula? field := rfl
  have himage : (style.withRules []).isImageColumn field b = style.isImageColumn field b := rfl
  have hassets : (style.withRules []).assets = style.assets := rfl
  unfold Direct.itemCell Cell.shownCell Cell.plainCell Cell.cellValue Cell.RowStyle.takesRule
  rw [h.formula?_eq, hcells.cellAt_eq, h.showsImage_eq hcells, h.assets, hformula, himage, hassets]
  simp only [h.ruledCell_eq, evaluate_congr hcells, imageCell_congr hcells]
  cases style.formula? field with
  | some f =>
      dsimp only
      cases Formula.evaluate f b <;> rfl
  | none =>
      dsimp only
      by_cases hstatus : Cell.statusFields.contains field = true
      · simp only [hstatus, if_true]
        cases Cell.renderStatus field (cellAt b field) <;> rfl
      · by_cases hcolumn : style.isImageColumn field b = true
        · simp only [hstatus, hcolumn, if_true, Bool.false_eq_true, if_false, Bool.or_true]
          cases Cell.imageCell style.assets field (cellAt b field) b <;> rfl
        · simp only [hstatus, hcolumn, Bool.false_eq_true, if_false]
          rfl

end SameStyle

/-- Cells that are put one by one are those that are put together. -/
theorem cellValues_eq {style : Cell.RowStyle} {row : Entries Value} {cell : String → Attempt Value}
    {fields : List String} (h : ∀ field ∈ fields, cell field = Cell.cellValue style row field)
    (shown : Entries Value) :
    Alike Eq ((fields.mapM fun field => do return (field, ← cell field)).map
      fun cells => shown.merge cells) (Cell.cellValues style row fields shown) := by
  induction fields generalizing shown with
  | nil => exact rfl
  | cons field rest ih =>
      rw [List.mapM_cons, Cell.cellValues, h field List.mem_cons_self]
      cases Cell.cellValue style row field with
      | error e => trivial
      | ok value =>
          have hrest := ih (fun other hother => h other (List.mem_cons_of_mem field hother))
            (Entries.put field value shown)
          refine Alike.trans_eq (Alike.of_eq ?_) hrest
          cases rest.mapM fun field => do return (field, ← cell field) <;> rfl

end AdminGrid

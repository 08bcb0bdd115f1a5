import AdminGrid.Proofs.Entries
import AdminGrid.Proofs.Formula.Range
import AdminGrid.Proofs.Parity.Stages

/-!
# Cells in range

A cell that cannot be computed or shown is left empty, and the row is shown for all that.  Numbers
out of range are the exception: they take the whole row down, and in the id of a clickable row the
whole answer.  A row of short formulas is shown exactly if each of its columns is in range, and an
answer is made exactly if the id of each clickable row has a token and each action cell is made.
-/

namespace AdminGrid

/-- Whether a value is an infinity, which no whole number stands for. -/
def Value.IsInfinite : Value → Prop
  | .float (.infinite _) | .decimal (.infinite _) => True
  | _ => False

theorem exists_whole?_iff {v : Value} : (∃ n?, v.whole? = .ok n?) ↔ ¬ v.IsInfinite := by
  cases v with
  | float x =>
      cases x with
      | infinite negative => exact iff_of_false (fun h => nomatch h) (not_not_intro trivial)
      | _ => exact iff_of_true ⟨_, rfl⟩ id
  | decimal d =>
      cases d with
      | infinite negative => exact iff_of_false (fun h => nomatch h) (not_not_intro trivial)
      | _ => exact iff_of_true ⟨_, rfl⟩ id
  | _ => exact iff_of_true ⟨_, rfl⟩ id

namespace Cell

/-- The failures that leave a cell empty. -/
def LeavesEmpty : Failure → Prop
  | .format _ | .badValue => True
  | _ => False

end Cell

open Cell Formula

section Rules

variable {style : RowStyle} {field : String} {rule : FormatRule} {cell : Value}

/-- Whether a rule can make a floating number of a cell, where it comes to that: the cell is not
empty, it holds a number, and the decimal places can be asked for. -/
def FormatRule.InRange (rule : FormatRule) (cell : Value) : Prop :=
  cell.isBlank = false → ∀ n, toNumber cell = .ok n →
    0 ≤ placesOf rule.decimals rule.formatType →
      placesOf rule.decimals rule.formatType ≤ maxAsked → n.FitsFloat

theorem ends_formatNumber_iff :
    Ends LeavesEmpty (fun _ => True)
      (formatNumber cell rule.decimals rule.separator rule.formatType) ↔ rule.InRange cell := by
  unfold formatNumber FormatRule.InRange
  generalize placesOf rule.decimals rule.formatType = places
  cases hblank : cell.isBlank with
  | true => exact iff_of_true trivial fun h => nomatch h
  | false =>
      rw [if_neg Bool.false_ne_true]
      cases hnumber : toNumber cell with
      | error e =>
          have hsettles := settles_toNumber cell
          rw [hnumber] at hsettles
          cases e with
          | format fault => exact iff_of_true trivial fun _ n hn => nomatch hn
          | _ => exact hsettles.elim
      | ok n =>
          show Ends LeavesEmpty (fun _ => True) (if _ then _ else _) ↔ _
          by_cases hplaces : places < 0 ∨ maxAsked < places
          · rw [if_pos (by simpa using hplaces)]
            exact iff_of_true trivial fun _ _ _ hlow hhigh => by omega
          · rw [if_neg (by simpa using hplaces)]
            by_cases hfits : n.FitsFloat
            · obtain ⟨x, hx⟩ := Numeral.exists_toFloat hfits
              rw [hx]
              refine iff_of_true ?_ fun _ m hm _ _ => Except.ok.inj hm ▸ hfits
              dsimp only
              split <;> trivial
            · rw [Numeral.toFloat_of_not_fitsFloat hfits]
              exact iff_of_false id fun h => hfits (h rfl n rfl (by omega) (by omega))

theorem ends_applyRule_iff :
    Ends LeavesEmpty (fun _ => True) (applyRule rule cell) ↔ rule.InRange cell := by
  rw [← ends_formatNumber_iff]
  unfold applyRule
  cases formatNumber cell rule.decimals rule.separator rule.formatType <;> exact Iff.rfl

theorem applyRule_of_isBlank (h : cell.isBlank = true) :
    ∃ shown, applyRule rule cell = .ok shown := by
  unfold applyRule formatNumber
  rw [if_pos h]
  exact ⟨_, rfl⟩

theorem ruledValue_of_isBlank (h : cell.isBlank = true) :
    ruledValue style field cell = .ok cell := by
  unfold ruledValue
  cases style.rule? field with
  | none => rfl
  | some rule => exact if_pos h

/-- A cell has a value under the rule of its column exactly if the rule keeps it in range. -/
theorem exists_ruledValue_iff :
    (∃ v, ruledValue style field cell = .ok v) ↔
      ∀ rule, style.rule? field = some rule → rule.InRange cell := by
  cases hblank : cell.isBlank with
  | true =>
      exact iff_of_true ⟨cell, ruledValue_of_isBlank hblank⟩
        fun rule _ h => absurd (hblank.symm.trans h) Bool.noConfusion
  | false =>
      unfold ruledValue
      cases style.rule? field with
      | none => exact iff_of_true ⟨cell, rfl⟩ fun rule h => nomatch h
      | some rule =>
          rw [hblank]
          simp only [Bool.false_eq_true, if_false, Option.some.injEq, forall_eq',
            ← ends_applyRule_iff]
          cases applyRule rule cell with
          | ok shown => exact iff_of_true ⟨shown, rfl⟩ trivial
          | error e =>
              cases e with
              | format fault => exact iff_of_true ⟨_, rfl⟩ trivial
              | badValue => exact iff_of_true ⟨_, rfl⟩ trivial
              | _ => exact iff_of_false (fun h => nomatch h) id

/-- A cell that a rule cannot show is empty where the row is shown at all. -/
theorem ruledValue_of_applyRule_error (hrule : style.rule? field = some rule) {e : Failure}
    (happly : applyRule rule cell = .error e) {v : Value}
    (hv : ruledValue style field cell = .ok v) : v = .text "" := by
  unfold ruledValue at hv
  rw [hrule] at hv
  by_cases hblank : cell.isBlank = true
  · obtain ⟨shown, hshown⟩ := @applyRule_of_isBlank rule cell hblank
    rw [hshown] at happly
    cases happly
  · simp only [hblank, happly, Bool.false_eq_true, if_false] at hv
    cases e <;> cases hv <;> rfl

end Rules

namespace Cell

/-- Whether a column is in range in a row: the numbers of its formula and those of its rule, the
code of a status, and the digits of a cell that names an image. -/
def RowStyle.InRange (style : RowStyle) (row : Entries Value) (field : String) : Prop :=
  match style.formula? field with
  | some f => f.InRange row ∧ ∀ v, evaluate f row = .ok v →
      ∀ rule, style.rule? field = some rule → rule.InRange v
  | none =>
      let cell := cellAt row field
      if statusFields.contains field then ¬ cell.IsInfinite
      else if style.isImageColumn field row then cell.isWritable = true
      else ∀ rule, style.rule? field = some rule → rule.InRange cell

/-- The ways in which a column is left empty in a row. -/
inductive RowStyle.Empties (style : RowStyle) (row : Entries Value) (field : String) : Prop
  /-- Its formula cannot be computed. -/
  | formula {f : FormulaSpec} {fault : FormatFault} (hformula : style.formula? field = some f)
      (hcompute : compute f row = .error (.format fault))
  /-- Its rule cannot show what its formula comes to. -/
  | ruledFormula {f : FormulaSpec} {v : Value} {rule : FormatRule} {e : Failure}
      (hformula : style.formula? field = some f) (hcompute : compute f row = .ok v)
      (hrule : style.rule? field = some rule) (happly : applyRule rule v = .error e)
  /-- Its rule cannot show its cell. -/
  | ruledCell {rule : FormatRule} {e : Failure} (hformula : style.formula? field = none)
      (hstatus : field ∉ statusFields) (himage : style.isImageColumn field row = false)
      (hrule : style.rule? field = some rule)
      (happly : applyRule rule (cellAt row field) = .error e)

section Cells

variable {style : RowStyle} {row : Entries Value} {field : String}

theorem exists_renderStatus_iff {cell : Value} :
    (∃ v, renderStatus field cell = .ok v) ↔ ¬ cell.IsInfinite := by
  rw [← exists_whole?_iff]
  unfold renderStatus
  cases hblank : cell.isBlank with
  | true =>
      refine iff_of_true ⟨cell, rfl⟩ ?_
      cases cell with
      | null | text s => exact ⟨_, rfl⟩
      | _ => cases hblank
  | false =>
      rw [if_neg Bool.false_ne_true]
      exact exists_bind_iff fun n? => by cases n? <;> exact ⟨_, rfl⟩

theorem exists_imageCell_iff {assets : Assets} {cell : Value} :
    (∃ v, imageCell assets field cell row = .ok v) ↔ cell.isWritable = true := by
  have hwritten : imageCell assets field cell row =
      cell.written.map fun _ => .text (renderImage assets field cell row) := by
    unfold imageCell Value.written
    split <;> rfl
  rw [hwritten, exists_map_iff, Value.exists_written_iff]

theorem exists_cellValue_iff :
    (∃ v, cellValue style row field = .ok v) ↔ style.InRange row field := by
  unfold cellValue RowStyle.InRange
  cases style.formula? field with
  | some f =>
      dsimp only
      rw [← exists_evaluate_iff]
      simp only [← exists_ruledValue_iff]
      cases evaluate f row with
      | ok v => exact ⟨fun h => ⟨⟨v, rfl⟩, fun w hw => Except.ok.inj hw ▸ h⟩, fun h => h.2 v rfl⟩
      | error e => exact iff_of_false (fun h => nomatch h) (fun h => nomatch h.1)
  | none =>
      dsimp only
      split
      · exact exists_renderStatus_iff
      · split
        · exact exists_imageCell_iff
        · exact exists_ruledValue_iff

theorem cellValue_of_empties (h : style.Empties row field) {v : Value}
    (hv : cellValue style row field = .ok v) : v = .text "" := by
  unfold cellValue at hv
  cases h with
  | formula hformula hcompute =>
      rw [hformula] at hv
      simp only [evaluate, hcompute] at hv
      exact (Except.ok.inj ((ruledValue_of_isBlank rfl).symm.trans hv)).symm
  | ruledFormula hformula hcompute hrule happly =>
      rw [hformula] at hv
      simp only [evaluate, hcompute] at hv
      exact ruledValue_of_applyRule_error hrule happly hv
  | ruledCell hformula hstatus himage hrule happly =>
      rw [hformula] at hv
      dsimp only at hv
      rw [if_neg (by simpa using hstatus), himage, if_neg Bool.false_ne_true] at hv
      exact ruledValue_of_applyRule_error hrule happly hv

theorem exists_cellValues_iff {fields : List String} {shown : Entries Value} :
    (∃ cells, cellValues style row fields shown = .ok cells) ↔
      ∀ field ∈ fields, style.InRange row field := by
  induction fields generalizing shown with
  | nil => exact iff_of_true ⟨shown, rfl⟩ fun field h => nomatch h
  | cons field rest ih =>
      rw [List.forall_mem_cons, ← exists_cellValue_iff, cellValues]
      cases cellValue style row field with
      | error e => exact iff_of_false (fun h => nomatch h) (fun h => nomatch h.1)
      | ok cell => exact ih.trans (and_iff_right ⟨cell, rfl⟩).symm

/-- A column of a row that is shown holds the cell of its field. -/
theorem get?_cellValues {fields : List String} {shown cells : Entries Value} {v : Value}
    (h : cellValues style row fields shown = .ok cells) (hv : cellValue style row field = .ok v)
    (hfield : field ∈ fields ∨ shown.get? field = some v) : cells.get? field = some v := by
  induction fields generalizing shown with
  | nil =>
      cases h
      exact hfield.resolve_left fun h => nomatch h
  | cons other rest ih =>
      obtain ⟨cell, hcell, hrest⟩ := bind_eq_ok.1 h
      refine ih hrest ?_
      rw [Entries.get?_put]
      by_cases hother : other = field
      · subst hother
        rw [hv] at hcell
        exact Or.inr (by rw [if_pos rfl, Except.ok.inj hcell])
      · rw [if_neg hother]
        exact hfield.imp_left fun hmem => (List.mem_cons.1 hmem).resolve_left (Ne.symm hother)

end Cells

end Cell

namespace Answer

/-- Whether a token can be made of an id: it is no infinity, and its digits, or those of the moved
number, are not too many. -/
def HasToken (id : Value) : Prop :=
  ¬ id.IsInfinite ∧ (id.isWritable = true ∨
    ∃ n, id = .int n ∧ (integerText? (n + tokenOffset)).isSome = true)

theorem encodeId_of_whole? {id : Value} {n? : Option Int} (hblank : id.isBlank = false)
    (hwhole : id.whole? = .ok n?) :
    encodeId id = match (n?.map (· + tokenOffset)).bind integerText? with
      | some moved => .ok (some (moved ++ tokenMark))
      | none => id.written.map fun digits => some (digits ++ tokenMark) := by
  unfold encodeId
  rw [hblank, if_neg Bool.false_ne_true, hwhole]
  dsimp only [bind, Except.bind]
  cases (n?.map (· + tokenOffset)).bind integerText? with
  | some moved => rfl
  | none => cases id.written <;> rfl

/-- Where the moved number is written, so is the id, unless it is a whole number itself. -/
theorem writable_or_moved {id : Value} {n? : Option Int} (hwhole : id.whole? = .ok n?)
    {moved : String} (hmoved : (n?.map (· + tokenOffset)).bind integerText? = some moved) :
    id.isWritable = true ∨ ∃ n, id = .int n ∧ (integerText? (n + tokenOffset)).isSome = true := by
  cases id with
  | int n =>
      cases hwhole
      rw [Option.map_some, Option.bind_some] at hmoved
      exact Or.inr ⟨n, rfl, Option.isSome_iff_exists.2 ⟨moved, hmoved⟩⟩
  | list items | tuple items =>
      cases hwhole
      cases hmoved
  | map entries =>
      cases hwhole
      cases hmoved
  | _ => exact Or.inl rfl

theorem exists_encodeId_iff {id : Value} : (∃ token, encodeId id = .ok token) ↔ HasToken id := by
  unfold HasToken
  rw [← exists_whole?_iff]
  cases hblank : id.isBlank with
  | true =>
      have htoken : encodeId id = .ok none := if_pos hblank
      refine iff_of_true ⟨none, htoken⟩ ?_
      cases id with
      | null | text s => exact ⟨⟨_, rfl⟩, Or.inl rfl⟩
      | _ => cases hblank
  | false =>
      cases hwhole : id.whole? with
      | error e =>
          refine iff_of_false ?_ (fun h => nomatch h.1)
          unfold encodeId
          rw [hblank, if_neg Bool.false_ne_true, hwhole]
          exact fun h => nomatch h
      | ok n? =>
          rw [and_iff_right ⟨n?, rfl⟩, encodeId_of_whole? hblank hwhole]
          cases hmoved : (n?.map (· + tokenOffset)).bind integerText? with
          | some moved => exact iff_of_true ⟨_, rfl⟩ (writable_or_moved hwhole hmoved)
          | none =>
              -- the id itself is written instead
              have hint : ¬ ∃ n, id = .int n ∧ (integerText? (n + tokenOffset)).isSome = true := by
                rintro ⟨n, rfl, hn⟩
                cases hwhole
                exact absurd hn (by simpa using hmoved)
              rw [or_iff_left hint, ← Value.exists_written_iff]
              cases id.written with
              | error e => exact iff_of_false (fun h => nomatch h) (fun h => nomatch h)
              | ok digits => exact iff_of_true ⟨_, rfl⟩ ⟨digits, rfl⟩

/-- Whether the rows of a page can be clicked, where they are meant to be. -/
def Page.TargetsInRange (page : Page) : Prop :=
  (cellAt page.flags "clickable").truthy = true → ∀ i view, page.rows[i]? = some view →
    ∃ id, targetCell (page.rawAt i view) page.flags = .ok id ∧ HasToken id

theorem exists_rowAttributes_iff {row flags : Entries Value} :
    (∃ attributes, rowAttributes row flags = .ok attributes) ↔
      ((cellAt flags "clickable").truthy = true →
        ∃ id, targetCell row flags = .ok id ∧ HasToken id) := by
  unfold rowAttributes
  cases (cellAt flags "clickable").truthy with
  | false => exact iff_of_true ⟨[], rfl⟩ fun h => nomatch h
  | true =>
      rw [imp_iff_right rfl, if_neg (by decide)]
      cases targetCell row flags with
      | error e => exact iff_of_false (fun ⟨_, h⟩ => nomatch h) (fun ⟨_, h, _⟩ => nomatch h)
      | ok id =>
          simp only [Except.ok.injEq, ↓existsAndEq, true_and, ← exists_encodeId_iff]
          show (∃ attributes, (encodeId id >>= _) = _) ↔ _
          exact exists_bind_iff fun token => by cases token <;> exact ⟨_, rfl⟩

/-- Whether the action cells of a page are made, where its rows have none of their own. -/
def Page.ActionsInRange (page : Page) : Prop :=
  ∀ render, page.action = some render → ∀ i view, page.rows[i]? = some view →
    view.action = none → ∃ cell, render (page.rawAt i view) = .ok cell

theorem exists_actionOf_iff {page : Page} {raw : Entries Value} {view : RowView} :
    (∃ action, actionOf page raw view = .ok action) ↔
      ∀ render, page.action = some render → view.action = none →
        ∃ cell, render raw = .ok cell := by
  unfold actionOf
  cases view.action with
  | some own => exact iff_of_true ⟨_, rfl⟩ fun _ _ h => nomatch h
  | none =>
      cases page.action with
      | none => exact iff_of_true ⟨_, rfl⟩ fun _ h => nomatch h
      | some render => simp [exists_map_iff]

theorem exists_assembleRow_iff {page : Page} {i : Nat} {raw : Entries Value} {view : RowView} :
    (∃ row, assembleRow page i raw view = .ok row) ↔
      (∃ attributes, rowAttributes raw page.flags = .ok attributes) ∧
        ∃ action, actionOf page raw view = .ok action := by
  unfold assembleRow
  cases rowAttributes raw page.flags with
  | error e => exact iff_of_false (fun ⟨_, h⟩ => nomatch h) (fun ⟨⟨_, h⟩, _⟩ => nomatch h)
  | ok attributes =>
      rw [and_iff_right ⟨attributes, rfl⟩]
      exact exists_bind_iff fun _ => ⟨_, rfl⟩

theorem exists_assembleRows_iff {page : Page} {views : List RowView} {i : Nat} :
    (∃ rows, assembleRows page i views = .ok rows) ↔
      ∀ k view, views[k]? = some view →
        ∃ row, assembleRow page (i + k) (page.rawAt (i + k) view) view = .ok row := by
  induction views generalizing i with
  | nil => exact iff_of_true ⟨[], rfl⟩ fun k view h => nomatch h
  | cons view rest ih =>
      -- the rows after the first one are counted from the next place on
      have hrest : (∃ rows, assembleRows page (i + 1) rest = .ok rows) ↔
          ∀ k v, rest[k]? = some v → ∃ row,
            assembleRow page (i + (k + 1)) (page.rawAt (i + (k + 1)) v) v = .ok row := by
        rw [ih]
        simp only [Nat.add_assoc, Nat.add_comm 1]
      rw [← Nat.and_forall_add_one]
      simp only [List.getElem?_cons_zero, List.getElem?_cons_succ, Option.some.injEq, forall_eq',
        Nat.add_zero]
      rw [← hrest, assembleRows]
      cases assembleRow page i (page.rawAt i view) view with
      | error e => exact iff_of_false (fun ⟨_, h⟩ => nomatch h) (fun ⟨⟨_, h⟩, _⟩ => nomatch h)
      | ok row =>
          rw [and_iff_right ⟨row, rfl⟩]
          exact exists_bind_iff fun rows => ⟨_, rfl⟩

/-- An answer is made of a page exactly if its rows can be clicked where they are meant to be, and
their action cells are made. -/
theorem exists_assemble_iff {page : Page} {extras : Entries Value} :
    (∃ response, assemble page extras = .ok response) ↔
      page.TargetsInRange ∧ page.ActionsInRange := by
  refine (exists_bind_iff fun rows => ⟨_, rfl⟩).trans (exists_assembleRows_iff.trans ?_)
  simp only [exists_assembleRow_iff, exists_rowAttributes_iff, exists_actionOf_iff, Nat.zero_add]
  constructor
  · exact fun h => ⟨fun hclickable k view hview => (h k view hview).1 hclickable,
      fun render hrender k view hview => (h k view hview).2 render hrender⟩
  · exact fun h k view hview => ⟨fun hclickable => h.1 hclickable k view hview,
      fun render hrender => h.2 render hrender k view hview⟩

end Answer

/-- A row is shown exactly if each of its columns is in range. -/
theorem exists_renderRow_iff {style : RowStyle} {row : Entries Value} {tally : Tally} :
    (∃ view, ((renderRow style row).run.run tally).1 = .ok view) ↔
      ∀ field ∈ style.ordered, style.InRange row field := by
  rw [yields_renderRow style row tally, ← @exists_cellValues_iff style row style.ordered []]
  simp only [map_eq_ok]
  constructor
  · rintro ⟨_, cells, hcells, rfl⟩
    exact ⟨cells, hcells⟩
  · rintro ⟨cells, hcells⟩
    exact ⟨_, cells, hcells, rfl⟩

/-- Whatever cannot be computed or shown is empty in a row that is shown. -/
theorem cellAt_of_empties {style : RowStyle} {row : Entries Value} {tally : Tally} {view : RowView}
    (h : ((renderRow style row).run.run tally).1 = .ok view) {field : String}
    (hfield : field ∈ style.ordered) (hempties : style.Empties row field) :
    cellAt view.values field = .text "" := by
  obtain ⟨v, hv⟩ := exists_cellValue_iff.2 (exists_renderRow_iff.1 ⟨view, h⟩ field hfield)
  rw [yields_renderRow style row tally, map_eq_ok] at h
  obtain ⟨cells, hcells, rfl⟩ := h
  have hcell := get?_cellValues hcells hv (Or.inl hfield)
  rw [cellValue_of_empties hempties hv] at hcell
  simp only [cellAt, hcell, Option.getD_some]

/-- A row of short formulas is shown exactly if each of its columns is in range, and wherever it is
shown its columns that cannot be computed or shown are empty; an answer is made of a page exactly if
its rows can be clicked where they are meant to be, and their action cells are made. -/
theorem rows_shown_and_answers_made_in_range (style : RowStyle) (row : Entries Value)
    (tally : Tally) (page : Answer.Page) (extras : Entries Value) :
    ((∀ f ∈ style.formulas, f.IsShort) →
      ((∃ view, ((renderRow style row).run.run tally).1 = .ok view) ↔
        ∀ field ∈ style.ordered, style.InRange row field)) ∧
    (∀ view, ((renderRow style row).run.run tally).1 = .ok view →
      ∀ field ∈ style.ordered, style.Empties row field → cellAt view.values field = .text "") ∧
    ((∃ response, Answer.assemble page extras = .ok response) ↔
      page.TargetsInRange ∧ page.ActionsInRange) :=
  ⟨fun _ => exists_renderRow_iff, fun _ hview _ hfield => cellAt_of_empties hview hfield,
    Answer.exists_assemble_iff⟩

section Shares

/-- A column that joins a count and a share by an operator. -/
def shareFormula (logic : String) : FormulaSpec :=
  ⟨"total", none, ["count", "share"], logic, ⟨none, true⟩⟩

/-- The style of a table with this column alone. -/
def shareStyle (logic : String) : RowStyle := ⟨.none, [], ["total"], [shareFormula logic], []⟩

/-- A row with a count and a share. -/
def shareRow (count : Int) (share : Value) : Entries Value :=
  [("count", .int count), ("share", share)]

/-- A page of one clickable row without an id. -/
def sharePage (row : Entries Value) : Answer.Page where
  request := ⟨0, 10, none, .ascending, none, 1, []⟩
  rows := [⟨row, [], none, none⟩]
  raws := none
  total := 1
  filtered := 1
  flags := [("clickable", .bool true)]
  action := none

/-- A division by zero leaves its cell empty, and the row is shown and answered with. -/
theorem rows_shown_and_answers_made_in_range_zeroShare :
    (∀ f ∈ (shareStyle "/").formulas, f.IsShort) ∧
    (∃ view, ((renderRow (shareStyle "/") (shareRow 1 (.int 0))).run.run ⟨0, 0⟩).1 = .ok view ∧
      cellAt view.values "total" = .text "") ∧
    ∃ response, Answer.assemble (sharePage (shareRow 1 (.int 0))) [] = .ok response := by
  obtain ⟨hshown, hempty, hanswer⟩ := rows_shown_and_answers_made_in_range (shareStyle "/")
    (shareRow 1 (.int 0)) ⟨0, 0⟩ (sharePage (shareRow 1 (.int 0))) []
  have hshort : ∀ f ∈ (shareStyle "/").formulas, f.IsShort :=
    List.forall_mem_singleton.2 (by decide)
  obtain ⟨view, hview⟩ := (hshown hshort).2 fun field hfield => by
    obtain rfl := List.mem_singleton.1 hfield
    refine ⟨?_, fun _ _ _ hrule => nomatch hrule⟩
    rintro _ _ ⟨⟩
    exact ⟨fun _ h => absurd rfl h, fun _ h => nomatch h⟩
  have htotal : (shareStyle "/").Empties (shareRow 1 (.int 0)) "total" :=
    .formula (f := shareFormula "/") rfl rfl
  refine ⟨hshort, ⟨view, hview, hempty view hview "total" (List.mem_singleton.2 rfl) htotal⟩, ?_⟩
  refine hanswer.2 ⟨fun _ i clicked hclicked => ⟨.null, ?_, id, Or.inl rfl⟩,
    fun _ hrender => nomatch hrender⟩
  cases i with
  | zero =>
      cases hclicked
      rfl
  | succ i => nomatch hclicked

theorem twoTo_three_mul_le (n : Nat) : twoTo (3 * n) ≤ tenTo n :=
  calc twoTo (3 * n) = Nat.pow (Nat.pow 2 3) n := Nat.pow_mul 2 3 n
    _ ≤ tenTo n := Nat.pow_le_pow_left (by decide) n

theorem floatLimit_le_tenTo : floatLimit ≤ tenTo 400 :=
  calc floatLimit ≤ twoTo 1024 := Binary64.floatLimit_bounds.2
    _ ≤ twoTo (3 * 400) := Binary64.twoTo_le (by decide)
    _ ≤ tenTo 400 := twoTo_three_mul_le 400

theorem not_inRange_share {count : Nat} (hcount : floatLimit ≤ count) (x : Binary64) :
    ¬ (shareStyle "+").InRange (shareRow count (.float x)) "total" := fun h =>
  Nat.not_le.2 (h.1 _ _ rfl).1.1 hcount

theorem not_targetsInRange_infinite :
    ¬ (sharePage [("id", .float (.infinite false))]).TargetsInRange := by
  intro h
  obtain ⟨id, hid, hfinite, -⟩ := h rfl 0 _ rfl
  cases hid
  exact hfinite trivial

/-- A count of 401 digits and a share of one half take the row down, and an infinite id of a
clickable row the answer. -/
theorem not_shown_hugeCount :
    (¬ ∃ view, ((renderRow (shareStyle "+") (shareRow (tenTo 400)
      (.float (Binary64.ofRatio false 1 2)))).run.run ⟨0, 0⟩).1 = .ok view) ∧
    ¬ ∃ response,
      Answer.assemble (sharePage [("id", .float (.infinite false))]) [] = .ok response := by
  rw [exists_renderRow_iff, Answer.exists_assemble_iff]
  refine ⟨fun h => ?_, fun h => not_targetsInRange_infinite h.1⟩
  have htotal := h "total" (List.mem_singleton.2 rfl)
  exact not_inRange_share floatLimit_le_tenTo _ htotal

end Shares

end AdminGrid

import AdminGrid.Direct.Compile
import AdminGrid.Proofs.Json.RoundTrip
import AdminGrid.Proofs.Parity.Cells

/-!
# Cells that can be shown

A value is written if its whole numbers have 64 bits and it is nested in few enough levels.  A row
can be shown if its cells are written, and are small enough to be read as the numbers that they are
shown as.  The items of such rows are made and written.
-/

namespace AdminGrid

open Json

/-- Whether a value can be written wherever there is room for some levels of containers. -/
def Writes (depth : Nat) (v : Value) : Prop :=
  ∀ level, level + depth ≤ maxNesting → ∃ cs, writeValue .compact level v = .ok cs

section Writing

theorem Writes.mono {depth deeper : Nat} {v : Value} (h : Writes depth v) (hle : depth ≤ deeper) :
    Writes deeper v := fun level hlevel => h level (by omega)

theorem writes_text (s : String) : Writes 0 (.text s) := fun _ _ => ⟨_, rfl⟩

theorem writes_null : Writes 0 .null := fun _ _ => ⟨_, rfl⟩

theorem writes_ofText? (s : Option String) : Writes 0 (.ofText? s) := by
  cases s with
  | none => exact writes_null
  | some s => exact writes_text s

theorem writes_int {n : Int} (h : fits n = true) : Writes 0 (.int n) := fun level _ => by
  refine ⟨(toString n).toList, ?_⟩
  show writeInt n = _
  exact if_pos h

theorem writes_map {depth : Nat} {entries : Entries Value} (h : ∀ e ∈ entries, Writes depth e.2) :
    Writes (depth + 1) (.map entries) := by
  intro level hlevel
  -- the entries are all written one level deeper than the map itself
  have hentries : ∀ entries : Entries Value, (∀ e ∈ entries, Writes depth e.2) →
      ∃ items, writeEntries .compact level entries = .ok items := by
    intro entries
    induction entries with
    | nil => exact fun _ => ⟨[], rfl⟩
    | cons e rest ih =>
        intro h
        rw [List.forall_mem_cons] at h
        obtain ⟨item, hitem⟩ := h.1 (level + 1) (by omega)
        obtain ⟨items, hitems⟩ := ih h.2
        exact ⟨_, writeEntries_cons_eq_ok.2 ⟨by omega, item, items, hitem, hitems, rfl⟩⟩
  obtain ⟨items, hitems⟩ := hentries entries h
  refine ⟨Style.compact.enclose level '\x7b' '\x7d' items, ?_⟩
  rw [writeValue, hitems]
  rfl

theorem writes_list {depth : Nat} {items : List Value} (h : ∀ v ∈ items, Writes depth v) :
    Writes (depth + 1) (.list items) := by
  intro level hlevel
  have hitems : ∀ items : List Value, (∀ v ∈ items, Writes depth v) →
      ∃ written, writeItems .compact level items = .ok written := by
    intro items
    induction items with
    | nil => exact fun _ => ⟨[], rfl⟩
    | cons v rest ih =>
        intro h
        rw [List.forall_mem_cons] at h
        obtain ⟨item, hitem⟩ := h.1 (level + 1) (by omega)
        obtain ⟨written, hwritten⟩ := ih h.2
        exact ⟨_, writeItems_cons_eq_ok.2 ⟨by omega, item, written, hitem, hwritten, rfl⟩⟩
  obtain ⟨written, hwritten⟩ := hitems items h
  refine ⟨Style.compact.enclose level '[' ']' written, ?_⟩
  rw [writeValue, hwritten]
  rfl

theorem writes_ofTextMap (entries : Entries String) : Writes 1 (.ofTextMap entries) := by
  refine writes_map fun e he => ?_
  obtain ⟨e', -, rfl⟩ := List.mem_map.1 he
  exact writes_text e'.2

theorem isSome_integerText? {n : Int} (h : fits n = true) : (integerText? n).isSome = true := by
  have hlimit : twoTo 64 ≤ tenTo Reading.maxDigits :=
    Nat.le_trans (by decide : twoTo 64 ≤ tenTo 20) (tenTo_le (by decide))
  have hsmall : n.natAbs < tenTo Reading.maxDigits := by
    unfold fits at h
    simp only [Bool.and_eq_true, decide_eq_true_eq] at h
    have htwo : (twoTo 64 : Int) = twoTo 63 + twoTo 63 := by decide
    omega
  rw [integerText?, if_pos hsmall]
  rfl

/-- At the deepest level only single values and empty containers are written, so that no whole
number in them has too many digits. -/
theorem isWritable_of_writes {v : Value} (h : Writes 0 v) : v.isWritable = true := by
  obtain ⟨cs, hcs⟩ := h maxNesting (by omega)
  have hitems : ∀ {items : List Value} {written},
      writeItems .compact maxNesting items = .ok written → items = [] := by
    intro items written hwritten
    cases items with
    | nil => rfl
    | cons v rest => cases hwritten
  cases v with
  | int n =>
      by_cases hn : fits n = true
      · rw [Value.isWritable]
        exact isSome_integerText? hn
      · rw [writeValue, writeInt, if_neg hn] at hcs
        cases hcs
  | list items | tuple items =>
      rw [writeValue, bind_eq_ok] at hcs
      obtain ⟨written, hwritten, -⟩ := hcs
      rw [hitems hwritten]
      rfl
  | map entries =>
      cases entries with
      | nil => rfl
      | cons e rest =>
          rw [writeValue, bind_eq_ok] at hcs
          obtain ⟨written, hwritten, -⟩ := hcs
          cases hwritten
  | _ => rfl

theorem exists_write {depth : Nat} {v : Value} (h : Writes depth v) (hdepth : depth ≤ maxNesting) :
    ∃ s, write .compact v = .ok s := by
  obtain ⟨cs, hcs⟩ := h 0 (by omega)
  refine ⟨String.ofList cs, ?_⟩
  rw [write, hcs]
  rfl

end Writing

/-- Whether a cell can be read as a whole number, as far as it is a number. -/
def Value.ReadsWhole (v : Value) : Prop := ∃ n?, v.whole? = .ok n?

/-- Whether a cell can be read as a floating number, as far as it is a number. -/
def Value.ReadsFloat (v : Value) : Prop :=
  ∀ n, Formula.toNumber v = .ok n → ∃ x, n.toFloat = .ok x

/-- Whether a row can be shown: its cells and formulas are written, its codes are read as whole
numbers, and what a rule applies to is read as a floating one. -/
structure TableDescriptor.CanShow (d : TableDescriptor) (row : Entries Value) : Prop where
  writes : ∀ e ∈ row, Writes 0 e.2
  formulas : ∀ f ∈ d.formulas, ∃ v, Formula.evaluate f row = .ok v ∧ Writes 0 v ∧
    ∀ rule ∈ d.formatRules, rule.field = f.name → v.ReadsFloat
  codes : ∀ field ∈ Cell.statusFields, (cellAt row field).ReadsWhole
  target : d.clickable = true → (cellAt row (Direct.targetField d)).ReadsWhole
  ruled : ∀ rule ∈ d.formatRules, (cellAt row rule.field).ReadsFloat

section Cells

theorem writes_cellAt {row : Entries Value} (h : ∀ e ∈ row, Writes 0 e.2) (field : String) :
    Writes 0 (cellAt row field) := by
  unfold cellAt
  cases hget : Entries.get? field row with
  | none => exact writes_null
  | some v => exact h _ (Entries.mem_of_get?_eq_some hget)

/-- No number is read off a cell only where the cell is no number. -/
theorem ends_toNumber (cell : Value) :
    Ends (fun e => ∃ fault, e = .format fault) (fun _ => True) (Formula.toNumber cell) := by
  unfold Formula.toNumber
  split
  · exact True.intro
  · split
    · exact ⟨_, rfl⟩
    · generalize Text.replaceChar ',' "" (Text.strip cell.cellText) = text
      dsimp only
      split
      · exact ⟨_, rfl⟩
      · split
        · exact True.intro
        · split
          · exact True.intro
          · exact ⟨_, rfl⟩

/-- A rule with places shows a cell, unless it is no number. -/
theorem ends_applyRule {rule : FormatRule} (hrule : Cell.ShowsPlaces rule) {cell : Value}
    (h : cell.ReadsFloat) : Ends (fun e => ∃ fault, e = .format fault) (Writes 0)
      (Cell.applyRule rule cell) := by
  have hformat : Ends (fun e => ∃ fault, e = .format fault) (fun _ => True)
      (Cell.formatNumber cell rule.decimals rule.separator rule.formatType) := by
    unfold Cell.formatNumber
    split
    · exact True.intro
    · refine (ends_toNumber cell).bind fun n hn _ => ?_
      obtain ⟨x, hx⟩ := h n hn
      have hasked : ¬ ((Cell.placesOf rule.decimals rule.formatType < 0 ||
          Cell.maxAsked < Cell.placesOf rule.decimals rule.formatType) = true) := by
        have hlow := hrule.1
        have hhigh := hrule.2
        have hle : Cell.maxPlaces ≤ Cell.maxAsked := by decide
        simp only [Bool.or_eq_true, decide_eq_true_eq]
        omega
      have hplaces : ¬ Cell.maxPlaces < Cell.placesOf rule.decimals rule.formatType := by
        have hhigh := hrule.2
        omega
      dsimp only
      rw [if_neg hasked, hx]
      dsimp only
      rw [if_neg hplaces]
      exact True.intro
  exact hformat.bind fun shown _ _ => writes_ofText? shown

/-- The cell of a status is written. -/
theorem ends_renderStatus (field : String) {cell : Value} (hwrites : Writes 0 cell)
    (hwhole : cell.ReadsWhole) :
    Ends (fun _ => False) (Writes 0) (Cell.renderStatus field cell) := by
  obtain ⟨n?, hwhole⟩ := hwhole
  unfold Cell.renderStatus
  split
  · exact hwrites
  · rw [hwhole]
    cases n? with
    | none => exact hwrites
    | some code =>
        show Writes 0 (((Cell.statusLabel? field code).map Value.text).getD cell)
        cases Cell.statusLabel? field code with
        | none => exact hwrites
        | some label => exact writes_text label

end Cells

section Items

variable {s : Direct.ItemStyle}

theorem mem_of_rule? {field : String} {rule : FormatRule} (h : s.rule? field = some rule) :
    rule ∈ s.descriptor.formatRules ∧ rule.field = field := by
  unfold Direct.ItemStyle.rule? at h
  rw [Entries.get?_ofList] at h
  obtain ⟨rule', hrule', heq⟩ := List.mem_map.1
    (List.mem_reverse.1 (Entries.mem_of_get?_eq_some h))
  cases heq
  exact ⟨hrule', rfl⟩

theorem mem_of_formula? {field : String} {f : FormulaSpec} (h : s.formula? field = some f) :
    f ∈ s.descriptor.formulas ∧ f.name = field := by
  unfold Direct.ItemStyle.formula? at h
  rw [Entries.get?_ofList] at h
  obtain ⟨f', hf', heq⟩ := List.mem_map.1 (List.mem_reverse.1 (Entries.mem_of_get?_eq_some h))
  cases heq
  exact ⟨hf', rfl⟩

theorem ends_ruledCell (hrules : ∀ rule ∈ s.descriptor.formatRules, Cell.ShowsPlaces rule)
    {field : String} {cell : Value} (hwrites : Writes 0 cell)
    (hfloat : ∀ rule ∈ s.descriptor.formatRules, rule.field = field → cell.ReadsFloat) :
    Ends (fun _ => False) (Writes 0) (Direct.ruledCell s field cell) := by
  unfold Direct.ruledCell
  cases hrule : s.rule? field with
  | none => exact hwrites
  | some rule =>
      dsimp only
      split
      · exact hwrites
      · obtain ⟨hmem, hfield⟩ := mem_of_rule? hrule
        have happly := ends_applyRule (hrules rule hmem) (hfloat rule hmem hfield)
        cases hshown : Cell.applyRule rule cell with
        | ok shown =>
            rw [hshown] at happly
            exact happly
        | error e =>
            -- what is no number is left empty
            rw [hshown] at happly
            obtain ⟨fault, rfl⟩ := happly
            exact writes_text ""

/-- The cell that an item shows of a row. -/
theorem ends_itemCell (hrules : ∀ rule ∈ s.descriptor.formatRules, Cell.ShowsPlaces rule)
    {row : Entries Value} (hrow : s.descriptor.CanShow row) (field : String) :
    Ends (fun _ => False) (Writes 0) (Direct.itemCell s row field) := by
  have hwrites := writes_cellAt hrow.writes field
  unfold Direct.itemCell
  cases hformula : s.formula? field with
  | some f =>
      -- a formula comes before a cell of the same name
      obtain ⟨hmem, rfl⟩ := mem_of_formula? hformula
      obtain ⟨v, hv, hshown, hfloat⟩ := hrow.formulas f hmem
      dsimp only
      rw [hv]
      exact ends_ruledCell hrules hshown hfloat
  | none =>
      dsimp only
      split
      · rename_i hstatus
        exact ends_renderStatus field hwrites (hrow.codes field (List.contains_iff_mem.1 hstatus))
      · split
        · rw [Cell.imageCell, if_pos (isWritable_of_writes hwrites)]
          exact writes_text _
        · refine ends_ruledCell hrules hwrites ?_
          rintro rule hmem rfl
          exact hrow.ruled rule hmem

theorem forall_withNumber {item : Entries Value} (h : ∀ e ∈ item, Writes 1 e.2) {i : Nat}
    (hnumber : fits (s.start + i + 1) = true) :
    ∀ e ∈ Direct.withNumber s i item, Writes 1 e.2 := by
  have hwrites : Writes 1 (.int (s.start + i + 1)) := (writes_int hnumber).mono (by omega)
  unfold Direct.withNumber
  split
  · dsimp only
    split
    · exact Entries.forall_put (Entries.forall_put h _ hwrites) _ hwrites
    · exact Entries.forall_put h _ hwrites
  · exact h

theorem exists_rowId {row : Entries Value} (h : ∀ e ∈ row, Writes 0 e.2) (targetField : String) :
    ∃ id, Action.rowId row targetField = .ok id := by
  have hwritten : ∀ v : Value, Writes 0 v → ∃ s, v.written = .ok s := fun v hv =>
    Value.exists_written_iff.2 (isWritable_of_writes hv)
  unfold Action.rowId
  split
  · cases hget : Entries.get? "id" row with
    | none => exact hwritten _ (writes_text "")
    | some v => exact hwritten _ (h _ (Entries.mem_of_get?_eq_some hget))
  · exact hwritten _ (writes_cellAt h targetField)

theorem ends_withAction {row item : Entries Value} (hrow : s.descriptor.CanShow row)
    (h : ∀ e ∈ item, Writes 1 e.2) :
    Ends (fun _ => False) (fun item => ∀ e ∈ item, Writes 1 e.2)
      (Direct.withAction s row item) := by
  unfold Direct.withAction
  split
  · obtain ⟨id, hid⟩ := exists_rowId hrow.writes s.descriptor.urlTargetField
    rw [Action.render, hid]
    exact Entries.forall_put h _ ((writes_text _).mono (by omega))
  · exact h

theorem ends_encodeId {cell : Value} (hwrites : Writes 0 cell) (h : cell.ReadsWhole) :
    Ends (fun _ => False) (fun _ => True) (Answer.encodeId cell) := by
  obtain ⟨n?, hwhole⟩ := h
  unfold Answer.encodeId
  split
  · exact True.intro
  · rw [hwhole]
    dsimp only [bind, Except.bind]
    split
    · exact True.intro
    · rw [Value.written, if_pos (isWritable_of_writes hwrites)]
      exact True.intro

theorem ends_withAttributes {row item : Entries Value} (hrow : s.descriptor.CanShow row)
    (h : ∀ e ∈ item, Writes 1 e.2) :
    Ends (fun _ => False) (fun item => ∀ e ∈ item, Writes 1 e.2)
      (Direct.withAttributes s row item) := by
  unfold Direct.withAttributes
  split
  · rename_i hclickable
    refine (ends_encodeId (writes_cellAt hrow.writes _) (hrow.target hclickable)).bind
      fun token _ _ => ?_
    exact Entries.forall_put (Entries.forall_put h _ (writes_ofTextMap _)) _
      ((writes_text _).mono (by omega))
  · exact h

theorem ends_itemOf (hrules : ∀ rule ∈ s.descriptor.formatRules, Cell.ShowsPlaces rule)
    {row : Entries Value} (hrow : s.descriptor.CanShow row) {i : Nat}
    (hnumber : fits (s.start + i + 1) = true) :
    Ends (fun _ => False) (fun item => ∀ e ∈ item, Writes 1 e.2) (Direct.itemOf s i row) := by
  have hcells : Ends (fun _ => False) (fun item => ∀ e ∈ item, Writes 1 e.2)
      (Direct.itemCells s row) := by
    have hpairs := Ends.mapM (P := fun _ => False) (R := fun e : String × Value => Writes 1 e.2)
      (f := fun field => do return (field, ← Direct.itemCell s row field))
      fun field (_ : field ∈ s.fields) => (ends_itemCell hrules hrow field).bind fun cell _ hcell =>
        hcell.mono (by omega)
    exact hpairs.bind fun cells _ hwritten =>
      Entries.forall_merge (fun e he => nomatch he) hwritten.2
  exact hcells.bind fun item _ hitem =>
    (ends_withAction hrow (forall_withNumber hitem hnumber)).bind fun acted _ hacted =>
      ends_withAttributes hrow hacted

/-- The items of rows that can be shown are made, and everything in them is written. -/
theorem ends_itemsFrom (hrules : ∀ rule ∈ s.descriptor.formatRules, Cell.ShowsPlaces rule)
    {rows : List (Entries Value)} {i : Nat} (hrows : ∀ row ∈ rows, s.descriptor.CanShow row)
    (hnumbers : ∀ k < i + rows.length, fits (s.start + k + 1) = true) :
    Ends (fun _ => False) (fun items => ∀ item ∈ items, ∀ e ∈ item, Writes 1 e.2)
      (Direct.itemsFrom s i rows) := by
  induction rows generalizing i with
  | nil => exact fun item hitem => nomatch hitem
  | cons row rest ih =>
      rw [List.forall_mem_cons] at hrows
      rw [List.length_cons] at hnumbers
      refine (ends_itemOf hrules hrows.1 (hnumbers i (by omega))).bind fun item _ hitem => ?_
      -- the rows left are numbered on from the next one
      refine (ih hrows.2 fun k hk => hnumbers k (by omega)).bind fun items _ hitems => ?_
      exact List.forall_mem_cons.2 ⟨hitem, hitems⟩

end Items

/-- An answer whose numbers have 64 bits and whose items are written is written itself. -/
theorem writes_answer {draw total filtered : Int} (hdraw : fits draw = true)
    (htotal : fits total = true) (hfiltered : fits filtered = true) {items : List (Entries Value)}
    (hitems : ∀ item ∈ items, ∀ e ∈ item, Writes 1 e.2) :
    Writes 4 (.map [("draw", .int draw), ("recordsTotal", .int total),
      ("recordsFiltered", .int filtered), ("data", .list (items.map .map))]) := by
  have hdata : Writes 3 (.list (items.map .map)) := writes_list fun v hv => by
    obtain ⟨item, hitem, rfl⟩ := List.mem_map.1 hv
    exact writes_map (hitems item hitem)
  refine writes_map (List.forall_mem_cons.2 ⟨?_, List.forall_mem_cons.2 ⟨?_,
    List.forall_mem_cons.2 ⟨?_, List.forall_mem_singleton.2 hdata⟩⟩⟩)
  · exact (writes_int hdraw).mono (by omega)
  · exact (writes_int htotal).mono (by omega)
  · exact (writes_int hfiltered).mono (by omega)

end AdminGrid

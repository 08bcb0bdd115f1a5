import AdminGrid.Proofs.Parity.Agreement
import AdminGrid.Proofs.Service.Showable
import AdminGrid.Proofs.Service.Statements

/-!
# What a single pass ends in

A single pass has an answer that can be written, or the database refuses one of its statements, as
long as the numbers of the request and of the filters fit cells, the links and the formulas can be
placed, and the rows can be shown.
-/

namespace AdminGrid

open Store

/-- A value with the values that a filter may take out of it. -/
def Value.comparands (v : Value) : List Value :=
  v :: match v with
    | .list items | .tuple items => items
    | .map entries => entries.map (·.2)
    | _ => []

/-- Whether the whole numbers of a filter can be given to a statement, and the text that it looks
for can be written out. -/
structure FilterSpec.InCells (f : FilterSpec) : Prop where
  cells : ∀ v ∈ f.value.comparands, InCell v
  written : f.operator ∈ [FilterOperator.contains, .startsWith, .endsWith] →
    f.value.isWritable = true

/-- Whether the place of a formula can be read. -/
def FormulaSpec.Anchored (f : FormulaSpec) : Prop :=
  ∀ target, Layout.targetOf f = some target → ∃ i?, Layout.targetIndex? target = .ok i?

/-- Whether a request for a table goes beyond nothing that cells, documents and links can hold. -/
structure Request.Context.InBounds (c : Request.Context) (d : TableDescriptor) : Prop where
  draw : Json.fits c.paging.draw = true
  start : fitsCell c.paging.start = true
  length : fitsCell c.paging.length = true
  filters : ∀ f ∈ c.filters, f.InCells
  anchors : ∀ f ∈ d.formulas, f.Anchored
  places : ∀ rule ∈ d.formatRules, Cell.ShowsPlaces rule
  link : d.actions.enabled = true → ∃ path, Action.basePath c.route = .ok path

theorem expected_of_describedTable {c : Request.Context} {e : Failure}
    (h : c.describedTable = .error e) : e.Expected := by
  unfold Request.Context.describedTable at h
  split at h
  · split at h
    · cases h
      trivial
    · cases h
  · cases h
    trivial

section Formulas

theorem ends_besideOf (columns : List String) (name : String) {target : Anchor}
    (h : ∃ i?, Layout.targetIndex? target = .ok i?) :
    Ends (fun _ => False) (fun _ => True) (Layout.besideOf columns name target) := by
  obtain ⟨i?, hindex⟩ := h
  unfold Layout.besideOf
  dsimp only
  rw [hindex]
  split
  · trivial
  · cases i? with
    | none => trivial
    | some i =>
        show Ends _ _ (if _ then _ else _)
        split <;> trivial

theorem ends_add? (columns : List String) (g : Layout.Groups) {f : FormulaSpec} (h : f.Anchored) :
    Ends (fun _ => False) (fun _ => True) (g.add? columns f) := by
  unfold Layout.Groups.add?
  split
  · trivial
  · split <;> trivial
  · cases htarget : Layout.targetOf f with
    | none => trivial
    | some target =>
        refine (ends_besideOf columns f.name (h target htarget)).bind fun place? _ _ => ?_
        cases place? with
        | none => trivial
        | some place =>
            dsimp only
            split <;> trivial

theorem ends_groupFormulas (columns : List String) {formulas : List FormulaSpec}
    (h : ∀ f ∈ formulas, f.Anchored) (taken : List String) (g : Layout.Groups) :
    Ends (fun _ => False) (fun _ => True) (Layout.groupFormulas columns formulas taken g) := by
  induction formulas generalizing taken g with
  | nil => trivial
  | cons f rest ih =>
      rw [List.forall_mem_cons] at h
      unfold Layout.groupFormulas
      split
      · exact ih h.2 taken g
      · refine (ends_add? columns g h.1).bind fun g? _ _ => ?_
        cases g? with
        -- a formula without a place leaves the groups as they are
        | none => exact ih h.2 taken g
        | some g => exact ih h.2 (f.name :: taken) g

/-- Formulas whose places can be read are placed. -/
theorem ends_placeFormulas (columns : List String) {formulas : List FormulaSpec}
    (h : ∀ f ∈ formulas, f.Anchored) :
    Ends (fun _ => False) (fun _ => True) (Layout.placeFormulas columns formulas) :=
  (ends_groupFormulas columns h columns _).bind fun _ _ _ => trivial

end Formulas

theorem inCell_cellAt {entries : Entries Value} (h : ∀ e ∈ entries, InCell e.2) (key : String) :
    InCell (cellAt entries key) := by
  unfold cellAt
  cases hget : Entries.get? key entries with
  | none => exact inCell_null
  | some v => exact h _ (Entries.mem_of_get?_eq_some hget)

namespace Direct

theorem inCell_boundsOf {v : Value} (h : ∀ w ∈ v.comparands, InCell w) :
    InCell (boundsOf v).1 ∧ InCell (boundsOf v).2 := by
  unfold boundsOf
  split
  · rename_i entries
    have hentries : ∀ e ∈ entries, InCell e.2 := fun e he =>
      h e.2 (List.mem_cons_of_mem _ (List.mem_map_of_mem he))
    exact ⟨inCell_cellAt hentries "from", inCell_cellAt hentries "to"⟩
  · exact ⟨h _ (by simp [Value.comparands]), h _ (by simp [Value.comparands])⟩
  · exact ⟨h _ (by simp [Value.comparands]), h _ (by simp [Value.comparands])⟩
  · exact ⟨inCell_null, inCell_null⟩

theorem values_rangeClauses {column : ColumnRef} {v : Value} (h : ∀ w ∈ v.comparands, InCell w) :
    ∀ q ∈ rangeClauses column v, q.Values InCell := by
  have hbounds := inCell_boundsOf h
  unfold rangeClauses
  generalize boundsOf v = bounds at hbounds ⊢
  obtain ⟨low, high⟩ := bounds
  intro q hq
  rcases List.mem_append.1 hq with hq | hq
  · dsimp only at hq
    split at hq
    · cases hq
    · obtain rfl := List.mem_singleton.1 hq
      exact hbounds.1
  · dsimp only at hq
    split at hq
    · cases hq
    · obtain rfl := List.mem_singleton.1 hq
      exact hbounds.2

theorem values_amongClause {column : ColumnRef} {v : Value} (h : ∀ w ∈ v.comparands, InCell w) :
    (amongClause column v).Values InCell := by
  unfold amongClause
  split
  · trivial
  · trivial
  · exact fun w hw => h w (List.mem_cons_of_mem _ hw)
  · exact fun w hw => h w (List.mem_cons_of_mem _ hw)
  · exact List.forall_mem_singleton.2 (h v List.mem_cons_self)

/-- The condition of a filter that looks for a text holds no value but this text. -/
theorem ends_like_of_written {α : Type} {P : α → Prop} (column : ColumnRef)
    (pattern : String → String) {v : Value} (h : v.isWritable = true) :
    Ends Failure.Expected (fun qs => ∀ q ∈ qs, q.Values P)
      (do return [Condition.like column (pattern (← v.written))]) := by
  rw [Value.written, if_pos h]
  exact List.forall_mem_singleton.2 trivial

/-- The conditions of a filter hold no other values than the filter. -/
theorem ends_filterClauses {column : ColumnRef} {f : FilterSpec} (h : f.InCells) :
    Ends Failure.Expected (fun qs => ∀ q ∈ qs, q.Values InCell)
      (filterClauses column f.operator f.value) := by
  have hself : InCell f.value := h.cells _ List.mem_cons_self
  have hwritten := h.written
  cases hop : f.operator with
  | contains =>
      exact ends_like_of_written column (fun s => "%" ++ s ++ "%") (hwritten (by simp [hop]))
  | startsWith =>
      exact ends_like_of_written column (fun s => s ++ "%") (hwritten (by simp [hop]))
  | endsWith => exact ends_like_of_written column (fun s => "%" ++ s) (hwritten (by simp [hop]))
  | inRange => exact values_rangeClauses h.cells
  | among => exact List.forall_mem_singleton.2 (values_amongClause h.cells)
  | _ => exact List.forall_mem_singleton.2 (by first | exact hself | trivial)

variable {source : Source} {d : TableDescriptor} {c : Request.Context} {p : Plan}

/-- All rows of a plan, before any condition. -/
def Plan.allRows (p : Plan) : List JoinedRow := Store.allRows p.base (p.joins.map (·.join))

theorem ends_prepare {names : List String} {conditions : List (Condition Value)}
    (h : ∀ q ∈ conditions, q.Values InCell) : Ends Failure.Expected (·.PicksFrom p.allRows)
      (Statement.prepare ⟨names, (p.statement conditions).query⟩) := by
  unfold Statement.prepare
  split
  · exact ends_queryBind (q := (p.statement conditions).query) h
  · trivial

theorem ends_filterConditions {filters : List FilterSpec} (h : ∀ f ∈ filters, f.InCells) :
    Ends Failure.Expected (fun qs => ∀ q ∈ qs, q.Values InCell) (p.filterConditions filters) := by
  have hown : ∀ f ∈ filters,
      Ends Failure.Expected (fun qs => ∀ q ∈ qs, q.Values InCell) (p.conditionsOf f) := by
    intro f hf
    unfold Plan.conditionsOf
    split
    · exact ends_filterClauses (h f hf)
    · exact fun q hq => nomatch hq
  refine (Ends.mapM hown).bind fun parts _ hparts q hq => ?_
  obtain ⟨own, hmem, hq⟩ := List.mem_flatten.1 hq
  exact hparts.2 own hmem q hq

/-- The searches compare with texts alone. -/
theorem values_searchConditions (d : TableDescriptor) (request : PagingRequest) :
    ∀ q ∈ p.searchConditions d request, q.Values InCell := by
  intro q hq
  rcases List.mem_append.1 hq with hq | hq
  · unfold Plan.termConditions at hq
    split at hq
    · cases hq
    · split at hq
      · cases hq
      · refine values_any? (fun r hr => ?_) (Option.mem_toList.1 hq)
        obtain ⟨column, -, rfl⟩ := List.mem_map.1 hr
        trivial
  · obtain ⟨e, -, he⟩ := List.mem_filterMap.1 hq
    obtain ⟨column, -, rfl⟩ := Option.map_eq_some_iff.1 he
    trivial

/-- What is found for a request: two counts and a page, unless the database refuses a statement. -/
theorem ends_find (h : c.InBounds d) : Ends Failure.Expected
    (fun found => PageOf p.allRows found.total found.filtered found.rows) (p.find d c) := by
  refine (ends_filterConditions h.filters).bind fun filters _ hfilters => ?_
  have hall : ∀ q ∈ filters ++ p.searchConditions d c.paging, q.Values InCell :=
    List.forall_mem_append.2 ⟨hfilters, values_searchConditions d c.paging⟩
  -- the page itself, once the two counts are there
  have hpage : ∀ total filtered names, total ≤ p.allRows.length → filtered ≤ p.allRows.length →
      Ends Failure.Expected (fun found => PageOf p.allRows found.total found.filtered found.rows)
        (do
          let query ← Statement.prepare
            ⟨names, (p.statement (filters ++ p.searchConditions d c.paging)).query⟩
          bindSegment c.paging.start c.paging.length
          return Found.mk total filtered (segment c.paging.start c.paging.length
            (ordered (p.order d c.paging) query.rows))) := by
    intro total filtered names htotal hfiltered
    refine (ends_prepare hall).bind fun q _ hq => ?_
    rw [bindSegment, h.start, h.length]
    exact pageOf_segment htotal hfiltered hq _ _ _
  dsimp only
  refine (ends_prepare hfilters).bind fun total _ htotal => ?_
  split
  · exact hpage _ _ _ htotal.count_le htotal.count_le
  · exact (ends_prepare hall).bind fun query _ hquery =>
      hpage _ _ _ htotal.count_le hquery.count_le

theorem rawRow_congr {a b : JoinedRow} (h : a.seen = b.seen) : rawRow p a = rawRow p b := by
  have hbase : a.base = b.base := congrArg SeenRow.base h
  unfold rawRow
  rw [hbase, cell_congr h]

/-- Whether the rows of a plan can be counted and shown, with no column shown under the name of
another one. -/
structure Plan.CanServe (p : Plan) (d : TableDescriptor) : Prop where
  count : fitsCell p.allRows.length = true
  displays : ∀ j ∈ p.joins, j.displayField ∉ p.base.columnNames
  rows : ∀ row ∈ p.allRows, d.CanShow (rawRow p row)

theorem ends_itemStyle (h : c.InBounds d) (assets : Cell.Assets) (fields : List String) :
    Ends (fun _ => False) (fun s => s.descriptor = d ∧ s.start = c.paging.start)
      (itemStyle d c assets fields) := by
  unfold itemStyle
  split
  · rename_i henabled
    obtain ⟨path, hpath⟩ := h.link henabled
    dsimp only
    rw [hpath]
    exact ⟨rfl, rfl⟩
  · exact ⟨rfl, rfl⟩

/-- Rows that can be shown become an answer that can be written. -/
theorem ends_payloadWith (h : c.InBounds d) {n : Nat} (hn : fitsCell n = true) {found : Found}
    (htotal : found.total ≤ n) (hfiltered : found.filtered ≤ n) {rows : List (Entries Value)}
    (hlength : rows.length ≤ n) (hrows : ∀ row ∈ rows, d.CanShow row) (fields : List String) :
    Ends (fun _ => False) (fun answer => Writes 4 (.map answer))
      (payloadWith source d c fields itemCell found rows) := by
  unfold payloadWith
  simp only [← itemsFrom_eq]
  refine (ends_itemStyle h source.assets fields).bind fun s _ hs => ?_
  obtain ⟨rfl, hstart⟩ := hs
  refine (ends_itemsFrom h.places hrows fun k hk => ?_).bind fun items _ hitems =>
    writes_answer h.draw (fits_of_fitsCell (fitsCell_of_le hn htotal))
      (fits_of_fitsCell (fitsCell_of_le hn hfiltered)) hitems
  rw [hstart]
  exact fits_rowNumber h.start hn (by omega)

theorem ends_payloadOf (h : c.InBounds d) (hp : p.CanServe d) {found : Found}
    (hfound : PageOf p.allRows found.total found.filtered found.rows) :
    Ends (fun _ => False) (fun answer => Writes 4 (.map answer))
      (p.payloadOf source d c found) := by
  have hlength : (found.rows.map (rawRow p)).length ≤ p.allRows.length := by
    rw [List.length_map]
    exact hfound.length
  have hrows : ∀ row ∈ found.rows.map (rawRow p), d.CanShow row := by
    intro row hrow
    obtain ⟨joined, hjoined, rfl⟩ := List.mem_map.1 hrow
    -- the page holds rows that look like some of all rows, though not the same ones
    obtain ⟨other, hother, hseen⟩ := hfound.rows joined hjoined
    rw [← rawRow_congr hseen]
    exact hp.rows other hother
  rw [payloadOf_eq (rawRows_of_fresh hp.displays found.rows)]
  exact ends_payloadWith h hp.count hfound.total hfound.filtered hlength hrows p.fields

/-- What a single pass ends in: an answer that can be written, unless the database refuses a
statement or there is no such table. -/
theorem ends_compile (hd : c.descriptor = some d) (h : c.InBounds d)
    (hp : ∀ base p, source.database.table? d.name = some base →
      plan source.database base d source.catalog = .ok p → p.CanServe d) :
    Ends Failure.Expected (fun answer => Writes 4 (.map answer)) (compile source c) := by
  cases hdescribed : c.describedTable with
  | error e =>
      have hexpected := expected_of_describedTable hdescribed
      rw [compile, hdescribed]
      exact hexpected
  | ok d' =>
      obtain rfl : d' = d := descriptor_of_describedTable hdescribed hd
      rw [compile_of_described hdescribed]
      cases htable : source.database.table? d'.name with
      | none => trivial
      | some base =>
          -- a plan fails only in the places of its formulas
          have hplanned : Ends Failure.Expected (fun _ => True)
              (plan source.database base d' source.catalog) :=
            (ends_placeFormulas _ h.anchors).of_never.bind fun _ _ _ => trivial
          refine hplanned.bind fun p hplan _ => (ends_find h).bind fun found _ hfound => ?_
          exact (ends_payloadOf h (hp base p htable hplan) hfound).of_never

end Direct

end AdminGrid

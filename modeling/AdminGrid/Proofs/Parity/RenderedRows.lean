import AdminGrid.Proofs.Parity.Items

/-!
# Rows rendered alike

A single pass makes a raw row into an item.  Elsewhere a row is rendered by itself, and an answer is
assembled of it and its raw row.  Whatever row, fields, table, buttons and place on the page, both
come to the same item or both fail, as long as no rule asks for decimal places that a cell of the
row cannot be shown with: then only the single pass fails.
-/

namespace AdminGrid

/-- The style in which rows are rendered that become items in a style of items. -/
def Direct.ItemStyle.rowStyle (s : Direct.ItemStyle) : Cell.RowStyle :=
  ⟨s.assets, s.descriptor.fieldsWith (·.imageHint), s.fields, s.descriptor.formulas,
    s.descriptor.formatRules⟩

theorem sameStyle_self (s : Direct.ItemStyle) : SameStyle s s.rowStyle :=
  ⟨rfl, rfl, rfl, rfl, rfl⟩

theorem run_renderRow (style : Cell.RowStyle) (row : Entries Value) (tally : Cell.Tally) :
    ((Cell.renderRow style row).run.run tally).1 = viewOfRow style row :=
  Cell.yields_renderRow style row tally

theorem run_mapM_renderRow (style : Cell.RowStyle) (rows : List (Entries Value))
    (tally : Cell.Tally) :
    ((rows.mapM (Cell.renderRow style)).run.run tally).1 = rows.mapM (viewOfRow style) :=
  Yields.mapM (Cell.yields_renderRow style) rows tally

/-- A raw row is made into the same item by both compilations, and so are the raw rows of a page, or
both fail. -/
theorem rows_rendered_alike (s : Direct.ItemStyle) (page : Answer.Page) (hpage : Attaches s page)
    (rows : List (Entries Value)) (hfit : ∀ row ∈ rows, s.rowStyle.RulesFit row)
    (tally : Cell.Tally) :
    (∀ row ∈ rows, ∀ i,
      Alike (fun item view => item = RowView.serialize view) (Direct.itemOf s i row) (do
        let view ← ((Cell.renderRow s.rowStyle row).run.run tally).1
        Answer.assembleRow page i row view)) ∧
    ∀ extras, page.raws = some rows →
      Alike (fun items response => items = response.data.map RowView.serialize)
        (Direct.itemsFrom s 0 rows) (do
          let views ← ((rows.mapM (Cell.renderRow s.rowStyle)).run.run tally).1
          Answer.assemble { page with rows := views } extras) := by
  have hshown (row : Entries Value) (hrow : row ∈ rows) :
      ShownAs s.rowStyle (Direct.itemCell s) row row :=
    (sameStyle_self s).shownAs (fun _ => rfl) (hfit row hrow)
  refine ⟨fun row hrow i => ?_, fun extras hraws => ?_⟩
  · rw [run_renderRow, itemOf_eq]
    exact alike_itemWith hpage rfl (hshown row hrow) i
  · have hitems := alike_itemsWith hpage rfl hraws (List.forall₂_same.2 hshown) List.drop_zero
    have hassembled : (rows.mapM (viewOfRow s.rowStyle) >>= fun views =>
        Answer.assemble { page with rows := views } extras) =
        (rows.mapM (viewOfRow s.rowStyle) >>= fun views =>
          Answer.assembleRows page 0 views).map fun shown =>
            ⟨page.request.draw, page.total, page.filtered, shown, extras.merge page.flags⟩ := by
      rw [map_bind_eq]
      refine congrArg _ (funext fun views => ?_)
      rw [Answer.assemble, assembleRows_withRows]
      cases Answer.assembleRows page 0 views <;> rfl
    rw [run_mapM_renderRow, hassembled, itemsFrom_eq]
    refine Alike.trans_eq (Alike.of_eq ?_) (hitems.map (f := id) fun items shown h => h)
    exact (congrFun Except.map_id _).symm

section Payments

/-- Numbered and clickable payments with two rules, one of them for a status, which comes under no
rule. -/
def payments : TableDescriptor where
  name := "payments"
  columns := []
  relations := []
  formulas := [⟨"double", none, ["amount", "amount"], "+", .beforeSource⟩]
  actions := ⟨false, [], [], []⟩
  filters := []
  paging := ⟨10, 100⟩
  formatRules := [⟨"double", 2, ",", none⟩, ⟨"active", -1, ",", some "decimal"⟩]
  clickable := true
  numbering := true
  urlTargetField := "id"
  softDeleteField := none
  mergedColumns := []
  fixedColumns := []
  orderBy := none

/-- The items of the payments from the tenth one on. -/
def paymentStyle : Direct.ItemStyle where
  fields := ["number_lists", "double", "active", "DT_RowIndex"]
  descriptor := payments
  assets := .none
  buttons := []
  basePath := ""
  start := 10

/-- An active payment without an id. -/
def payment : Entries Value := [("amount", .int 1000), ("active", .int 1)]

/-- The page of one payment. -/
def paymentPage : Answer.Page where
  request := ⟨10, 10, none, .ascending, none, 0, []⟩
  rows := []
  raws := some [payment]
  total := 11
  filtered := 11
  flags := allFlags payments
  action := none

/-- A payment is made into its item by both compilations, with the place of the page where a column
of that name was. -/
theorem rows_rendered_alike_payment :
    Attaches paymentStyle paymentPage ∧ paymentStyle.rowStyle.RulesFit payment ∧
      ∃ view, (do
          let view ← ((Cell.renderRow paymentStyle.rowStyle payment).run.run ⟨0, 0⟩).1
          Answer.assembleRow paymentPage 0 payment view) = .ok view ∧
        Direct.itemOf paymentStyle 0 payment = .ok view.serialize ∧
        cellAt view.serialize "double" = .text "2,000.00" ∧
        cellAt view.serialize "active" = .text "Yes" ∧
        cellAt view.serialize "number_lists" = .int 11 := by
  have hattaches : Attaches paymentStyle paymentPage := ⟨rfl, rfl, rfl⟩
  have hfit : paymentStyle.rowStyle.RulesFit payment := by
    intro field _ rule hrule htakes cell _
    have hname : rule.field = field := by simpa using List.find?_some hrule
    have hmem : rule ∈ paymentStyle.rowStyle.rules :=
      List.mem_reverse.1 (List.mem_of_find?_eq_some hrule)
    rcases List.mem_pair.1 hmem with rfl | rfl
    · exact Cell.applyRule_ne_badValue ⟨by decide, by decide⟩ cell
    · subst hname
      exact absurd htakes (by decide)
  have halike := (rows_rendered_alike paymentStyle paymentPage hattaches [payment]
    (List.forall_mem_singleton.2 hfit) ⟨0, 0⟩).1 payment List.mem_cons_self 0
  rcases halike.error_or_ok with ⟨e, e', hitem, hview⟩ | ⟨item, view, hitem, hview, rfl⟩
  · cases hview
  · refine ⟨hattaches, hfit, view, hview, hitem, ?_⟩
    obtain rfl := Except.ok.inj hview
    exact ⟨rfl, rfl, rfl⟩

end Payments

end AdminGrid

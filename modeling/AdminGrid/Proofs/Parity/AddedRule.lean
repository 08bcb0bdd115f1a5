import AdminGrid.Proofs.Parity.Agreement
import AdminGrid.Proofs.Parity.ChangedColumn
import AdminGrid.Proofs.Parity.RenderedRows

/-!
# A format rule more

A rule that is added to a table changes the cells that it is put to, each to the text of its
number or to nothing, and leaves the rest of the answer as it was: the counts, the rows and their
order, and every other entry of a row.  The answer itself is lost exactly if the rule fails on such
a cell with a failure that is not taken for an empty cell.  A single pass takes only a cell that is
no number for one, a staged compilation also decimal places that cannot be shown; a number that is
too large for a floating one is fatal to both.
-/

namespace AdminGrid

/-- The same table with other format rules. -/
def TableDescriptor.withRules (d : TableDescriptor) (rules : List FormatRule) : TableDescriptor :=
  { d with formatRules := rules }

/-- The same request of a table with other format rules. -/
def Request.Context.withRules (c : Request.Context) (rules : List FormatRule) : Request.Context :=
  { c with descriptor := c.descriptor.map (·.withRules rules) }

namespace Cell

/-- A cell as a rule shows it: the text of its number, or nothing where the rule fails. -/
def shownBy (rule : FormatRule) (cell : Value) : Value :=
  match formatNumber cell rule.decimals rule.separator rule.formatType with
  | .ok text? => .ofText? text?
  | .error _ => .text ""

/-- A rule is put to a cell of a row: it is the rule of a column that is shown, and the cell of this
column comes under rules and is not empty. -/
structure RowStyle.PutsTo (style : RowStyle) (rule : FormatRule) (row : Entries Value)
    (cell : Value) : Prop where
  shown : rule.field ∈ style.ordered
  applies : style.rule? rule.field = some rule
  takes : style.takesRule row rule.field = true
  made : plainCell style row rule.field = .ok cell
  filled : cell.isBlank = false

/-- A rule fails on a cell with none but a caught failure. -/
def FailsCaught (caught : Failure → Bool) (rule : FormatRule) (cell : Value) : Prop :=
  Ends (caught · = true) (fun _ => True)
    (formatNumber cell rule.decimals rule.separator rule.formatType)

section Rules

variable {caught : Failure → Bool} {style : RowStyle} {rule : FormatRule} {row : Entries Value}
  {before after : List FormatRule} {field : String} {cell : Value}

theorem applyRule_eq (rule : FormatRule) (cell : Value) : applyRule rule cell =
    (formatNumber cell rule.decimals rule.separator rule.formatType).map Value.ofText? := by
  unfold applyRule
  cases formatNumber cell rule.decimals rule.separator rule.formatType <;> rfl

theorem underRule_of_isBlank (h : cell.isBlank = true) (rule? : Option FormatRule) :
    underRule caught rule? cell = .ok cell := by
  cases rule? with
  | none => rfl
  | some rule => exact if_pos h

theorem exists_underRule_iff (h : cell.isBlank = false) :
    (∃ v, underRule caught (some rule) cell = .ok v) ↔ FailsCaught caught rule cell := by
  simp only [underRule, h, Bool.false_eq_true, if_false, applyRule_eq, FailsCaught]
  cases formatNumber cell rule.decimals rule.separator rule.formatType with
  | ok text? => exact iff_of_true ⟨_, rfl⟩ trivial
  | error e =>
      cases hcaught : caught e with
      | false => exact iff_of_false (by simp [Except.map, hcaught]) (by simp [Ends, hcaught])
      | true => exact iff_of_true ⟨_, if_pos hcaught⟩ hcaught

theorem eq_shownBy_of_underRule (h : cell.isBlank = false) {v : Value}
    (hv : underRule caught (some rule) cell = .ok v) : v = shownBy rule cell := by
  simp only [underRule, h, Bool.false_eq_true, if_false, applyRule_eq] at hv
  unfold shownBy
  cases hshown : formatNumber cell rule.decimals rule.separator rule.formatType with
  | ok text? =>
      rw [hshown] at hv
      exact (Except.ok.inj hv).symm
  | error e =>
      rw [hshown] at hv
      simp only [Except.map] at hv
      split at hv
      · exact (Except.ok.inj hv).symm
      · cases hv

theorem rule?_withRules (style : RowStyle) (rules : List FormatRule) (field : String) :
    (style.withRules rules).rule? field = rules.reverse.find? (·.field == field) := rfl

/-- A column that the rule does not name keeps its rule. -/
theorem rule?_of_ne (h : field ≠ rule.field) :
    (style.withRules (before ++ rule :: after)).rule? field =
      (style.withRules (before ++ after)).rule? field := by
  have hfield : (rule.field == field) = false := beq_false_of_ne (Ne.symm h)
  simp [rule?_withRules, List.find?_append, hfield]

/-- A rule that is not the one of its column stands behind another one, and changes nothing. -/
theorem rule?_of_ne_some
    (h : (style.withRules (before ++ rule :: after)).rule? rule.field ≠ some rule) :
    (style.withRules (before ++ rule :: after)).rule? rule.field =
      (style.withRules (before ++ after)).rule? rule.field := by
  simp only [rule?_withRules, List.reverse_append, List.reverse_cons, List.find?_append,
    List.append_assoc] at h ⊢
  cases hafter : after.reverse.find? (·.field == rule.field) with
  | none => simp [hafter] at h
  | some other => simp

theorem shownCell_of_ne (h : field ≠ rule.field) (row : Entries Value) :
    shownCell caught (style.withRules (before ++ rule :: after)) row field =
      shownCell caught (style.withRules (before ++ after)) row field := by
  unfold shownCell
  rw [rule?_of_ne h]
  rfl

theorem RowStyle.PutsTo.shownCell_eq (h : style.PutsTo rule row cell) :
    shownCell caught style row rule.field = underRule caught (some rule) cell := by
  rw [shownCell, h.made, h.applies]
  exact if_pos h.takes

/-- A rule that is put to no cell of a row changes none. -/
theorem shownCell_of_not_putsTo
    (hshown : rule.field ∈ style.ordered)
    (h : ∀ cell, ¬ (style.withRules (before ++ rule :: after)).PutsTo rule row cell) :
    shownCell caught (style.withRules (before ++ rule :: after)) row rule.field =
      shownCell caught (style.withRules (before ++ after)) row rule.field := by
  by_cases hrule :
      (style.withRules (before ++ rule :: after)).rule? rule.field = some rule
  · show (plainCell (style.withRules []) row rule.field >>= fun cell =>
        if style.takesRule row rule.field then underRule caught _ cell else .ok cell) =
      (plainCell (style.withRules []) row rule.field >>= fun cell =>
        if style.takesRule row rule.field then underRule caught _ cell else .ok cell)
    cases hmade : plainCell (style.withRules []) row rule.field with
    | error e => rfl
    | ok cell =>
        cases htakes : style.takesRule row rule.field with
        | false => rfl
        | true =>
            -- what keeps the rule from the cell can only be that the cell is empty
            have hblank : cell.isBlank = true := by
              by_contra hfilled
              exact h cell ⟨hshown, hrule, htakes, hmade, Bool.eq_false_of_not_eq_true hfilled⟩
            exact (underRule_of_isBlank hblank _).trans (underRule_of_isBlank hblank _).symm
  · unfold shownCell
    rw [rule?_of_ne_some hrule]
    rfl

/-- Where a column can be shown without a rule, it can be shown with it exactly if the rule fails on
no cell with a failure that is not caught. -/
theorem exists_shownCell_iff
    (h : rule.field ∈ style.ordered →
      ∃ v, shownCell caught (style.withRules (before ++ after)) row rule.field = .ok v) :
    (rule.field ∈ style.ordered →
        ∃ v, shownCell caught (style.withRules (before ++ rule :: after)) row rule.field = .ok v) ↔
      ∀ cell, (style.withRules (before ++ rule :: after)).PutsTo rule row cell →
        FailsCaught caught rule cell := by
  constructor
  · intro hnew cell hputs
    rw [← exists_underRule_iff hputs.filled, ← hputs.shownCell_eq]
    exact hnew hputs.shown
  · intro hcaught hshown
    by_cases hputs : ∃ cell, (style.withRules (before ++ rule :: after)).PutsTo rule row cell
    · obtain ⟨cell, hputs⟩ := hputs
      rw [hputs.shownCell_eq, exists_underRule_iff hputs.filled]
      exact hcaught cell hputs
    · rw [shownCell_of_not_putsTo hshown fun cell hcell => hputs ⟨cell, hcell⟩]
      exact h hshown

/-- Without a rule of its own, the column of a rule shows its cells as they are made. -/
theorem RowStyle.PutsTo.shownCell_without_eq
    (h : (style.withRules (before ++ rule :: after)).PutsTo rule row cell)
    (hbare : ∀ other ∈ before ++ after, other.field ≠ rule.field) :
    shownCell caught (style.withRules (before ++ after)) row rule.field = .ok cell := by
  have hrule : (style.withRules (before ++ after)).rule? rule.field = none :=
    List.find?_eq_none.2 fun other hother => by simpa using hbare other (List.mem_reverse.1 hother)
  have hmade : plainCell (style.withRules (before ++ after)) row rule.field = .ok cell := h.made
  rw [shownCell, hmade, hrule]
  show (if _ then underRule caught none cell else .ok cell) = .ok cell
  exact ite_self _

end Rules

end Cell

/-- The items of a row without a rule and with it. -/
structure RuleChange (d : TableDescriptor) (style : Cell.RowStyle) (others : List FormatRule)
    (rule : FormatRule) (row item item' : Entries Value) : Prop where
  /-- The keys and their order are the same, and so is every entry but that of the rule. -/
  unchanged : item.AlikeOn (fun key =>
    ¬ (key = rule.field ∧ d.setsKey key = false ∧ ∃ cell, style.PutsTo rule row cell)) item'
  before : ∀ cell, style.PutsTo rule row cell → d.setsKey rule.field = false →
    (∀ other ∈ others, other.field ≠ rule.field) → item.get? rule.field = some cell
  after : ∀ cell, style.PutsTo rule row cell → d.setsKey rule.field = false →
    item'.get? rule.field = some (Cell.shownBy rule cell)

/-- The cells of a row that a rule changes. -/
theorem ruleChange_of_changedCell {d : TableDescriptor} {style : Cell.RowStyle}
    {caught : Failure → Bool} {before after : List FormatRule} {rule : FormatRule}
    {row item item' : Entries Value}
    (h : ChangedCell d style.ordered rule.field
      (Cell.shownCell caught (style.withRules (before ++ after)) row rule.field)
      (Cell.shownCell caught (style.withRules (before ++ rule :: after)) row rule.field)
      item item') :
    RuleChange (d.withRules (before ++ rule :: after))
      (style.withRules (before ++ rule :: after)) (before ++ after) rule row item item' := by
  constructor
  case unchanged =>
    refine h.others.mono fun key hkey => ?_
    rintro ⟨rfl, hsets, hshown, hne⟩
    refine hne (Cell.shownCell_of_not_putsTo hshown fun cell hcell => ?_)
    exact hkey ⟨rfl, hsets, cell, hcell⟩
  case before =>
    intro cell hputs hsets hbare
    obtain ⟨v, hv, hget⟩ := h.before hputs.shown
    rw [hputs.shownCell_without_eq hbare] at hv
    rw [hget hsets, Except.ok.inj hv]
  case after =>
    intro cell hputs hsets
    obtain ⟨v, hv, hget⟩ := h.after hputs.shown
    rw [hputs.shownCell_eq] at hv
    rw [hget hsets, Cell.eq_shownBy_of_underRule hputs.filled hv]

/-- A page whose rows are not shown yet, with the counts and the style in which they will be. -/
structure ShownPage where
  table : TableDescriptor
  style : Cell.RowStyle
  total : Nat
  filtered : Nat
  rows : List (Entries Value)

namespace ShownPage

/-- The counts of a page. -/
def counts (page : ShownPage) : Direct.Found := ⟨page.total, page.filtered, []⟩

/-- The same page with other format rules. -/
def withRules (page : ShownPage) (rules : List FormatRule) : ShownPage :=
  { page with table := page.table.withRules rules, style := page.style.withRules rules }

/-- What becomes of a page where some failures of rules are caught. -/
def payload (page : ShownPage) (source : Source) (c : Request.Context)
    (caught : Failure → Bool) : Attempt (Entries Value) :=
  Direct.payloadWith source page.table c page.style.ordered
    (fun _ => Cell.shownCell caught page.style) page.counts page.rows

end ShownPage

/-- The page that a single pass shows. -/
def Direct.shownPage (source : Source) (c : Request.Context) : Attempt ShownPage := do
  let d ← c.describedTable
  match source.database.table? d.name with
  | none => .error (.configuration (.unknownTable d.name))
  | some base =>
      let p ← Direct.plan source.database base d source.catalog
      let found ← p.find d c
      return ⟨d, ⟨source.assets, d.fieldsWith (·.imageHint), p.fields, d.formulas, d.formatRules⟩,
        found.total, found.filtered, ← Direct.rawRows p found.rows⟩

/-- The page that a staged compilation shows. -/
def Staged.shownPage (source : Source) (c : Request.Context) : Attempt ShownPage := do
  let d ← c.describedTable
  let found ← Staged.resolvedOf source d
  let fetched ← (Staged.viewOf source d found.1 found.2).fetch (Staged.fetchOf d c found.2)
  return ⟨d, Staged.rowStyle d source.assets found.2, fetched.total, fetched.filtered,
    fetched.rows⟩

/-- What a rule that is added to others does to a request that has a payload without it: there is
one with it exactly if the rule fails on no cell of the page with a failure that is not caught, and
it has the same counts and rows, whose items the rule changes. -/
structure RuleAdded (caught : Failure → Bool) (others : List FormatRule) (rule : FormatRule)
    (page : ShownPage) (payload : Entries Value) (added : Attempt (Entries Value)) : Prop where
  returns : (∃ payload', added = .ok payload') ↔ ∀ row ∈ page.rows, ∀ cell,
    page.style.PutsTo rule row cell → Cell.FailsCaught caught rule cell
  differs : ∀ payload', added = .ok payload' →
    ∃ (draw : Int) (pairs : List (Entries Value × Entries Value)),
      payload = Direct.payload draw page.counts (pairs.map (·.1)) ∧
      payload' = Direct.payload draw page.counts (pairs.map (·.2)) ∧
      List.Forall₂ (fun row pair =>
        RuleChange page.table page.style others rule row pair.1 pair.2) page.rows pairs

theorem RuleAdded.congr {caught : Failure → Bool} {others : List FormatRule}
    {rule : FormatRule} {page : ShownPage} {payload : Entries Value}
    {added added' : Attempt (Entries Value)}
    (h : RuleAdded caught others rule page payload added)
    (halike : ∀ payload', added' = .ok payload' ↔ added = .ok payload') :
    RuleAdded caught others rule page payload added' where
  returns := (exists_congr halike).trans h.returns
  differs payload' hpayload' := h.differs payload' ((halike payload').1 hpayload')

section Pages

variable {source : Source} {c : Request.Context} {d : TableDescriptor}

theorem describedTable_withRules (c : Request.Context) (rules : List FormatRule) :
    (c.withRules rules).describedTable = c.describedTable.map (·.withRules rules) := by
  unfold Request.Context.describedTable Request.Context.withRules
  cases c.descriptor with
  | none => rfl
  | some d =>
      cases c.tableName with
      | none => rfl
      | some name =>
          by_cases hname : name = "" <;> simp [hname, Except.map]

theorem rowStyle_of_itemStyle {assets : Cell.Assets} {fields : List String}
    {s : Direct.ItemStyle} (h : Direct.itemStyle d c assets fields = .ok s) :
    s.rowStyle = ⟨assets, d.fieldsWith (·.imageHint), fields, d.formulas, d.formatRules⟩ := by
  obtain ⟨rfl, rfl, rfl, -, -⟩ := styleOf_of_itemStyle h
  rfl

/-- A single pass makes a page, and then shows its rows. -/
theorem Direct.alike_shownPage (source : Source) (c : Request.Context) :
    Alike Eq (Direct.compile source c) (Direct.shownPage source c >>= fun page =>
      page.payload source c Failure.isFormat) := by
  unfold Direct.shownPage
  cases hdescribed : c.describedTable with
  | error e =>
      rw [Direct.compile, hdescribed]
      trivial
  | ok d =>
      rw [compile_of_described hdescribed]
      show Alike Eq _
        ((match source.database.table? d.name with | none => _ | some base => _) >>= _)
      cases source.database.table? d.name with
      | none => trivial
      | some base =>
          simp only [bind_assoc, pure_bind]
          refine (Alike.refl _).bind fun p _ _ _ hp => hp ▸ ?_
          refine (Alike.refl _).bind fun found _ _ _ hfound => hfound ▸ ?_
          cases hraws : Direct.rawRows p found.rows with
          | error e =>
              -- the style of the items may fail before the raw rows do
              unfold Direct.Plan.payloadOf
              rw [hraws]
              cases Direct.itemStyle d c source.assets p.fields <;> trivial
          | ok rows =>
              rw [payloadOf_eq hraws]
              show Alike Eq _ (Direct.payloadWith _ _ _ _ _ _ rows)
              unfold Direct.payloadWith
              refine (Alike.refl _).bind fun s _ hs _ heq => heq ▸ Alike.of_eq ?_
              have hcells : Direct.itemCell s = Cell.shownCell Failure.isFormat s.rowStyle :=
                funext fun row => funext fun field =>
                  (sameStyle_self s).itemCell_eq (fun _ => rfl) field
              rw [hcells, rowStyle_of_itemStyle hs]
              rfl

/-- So does a staged compilation, which catches more failures of rules. -/
theorem Staged.alike_shownPage (source : Source) (c : Request.Context) :
    Alike Eq (Staged.shownPage source c >>= fun page => page.payload source c Failure.isUnshown)
      ((Staged.compile source c).1.map fun response => response.toWire false) := by
  rw [Staged.compile_fst]
  unfold Staged.shownPage
  cases hdescribed : c.describedTable with
  | error e =>
      rw [Staged.answer, hdescribed]
      trivial
  | ok d =>
      rw [answer_of_described hdescribed]
      show Alike Eq ((Staged.resolvedOf source d >>= _) >>= _) _
      simp only [bind_assoc, pure_bind, map_bind_eq]
      refine (Alike.refl _).bind fun found _ _ _ hfound => hfound ▸ ?_
      refine (Alike.refl _).bind fun fetched _ _ _ hfetched => hfetched ▸ ?_
      refine alike_payloadWith _ rfl rfl fun s _ _ _ => List.forall₂_same.2 fun row _ => ?_
      exact ⟨fun _ => rfl, fun field _ => (Cell.cellValue_eq _ _ _).symm⟩

/-- Which page is shown does not depend on the rules, but for the rules that come with it. -/
theorem Direct.shownPage_withRules (source : Source) (c : Request.Context)
    (rules : List FormatRule) : Direct.shownPage source (c.withRules rules) =
      (Direct.shownPage source c).map (·.withRules rules) := by
  unfold Direct.shownPage
  rw [describedTable_withRules]
  cases c.describedTable with
  | error e => rfl
  | ok d =>
      show (match source.database.table? d.name with | none => _ | some base => _) =
        Except.map _ (match source.database.table? d.name with | none => _ | some base => _)
      cases source.database.table? d.name with
      | none => rfl
      | some base =>
          simp only [map_bind_eq]
          rfl

theorem Staged.shownPage_withRules (source : Source) (c : Request.Context)
    (rules : List FormatRule) : Staged.shownPage source (c.withRules rules) =
      (Staged.shownPage source c).map (·.withRules rules) := by
  unfold Staged.shownPage
  rw [describedTable_withRules]
  cases c.describedTable with
  | error e => rfl
  | ok d =>
      show _ = Except.map _ (Staged.resolvedOf source d >>= _)
      simp only [map_bind_eq]
      rfl

/-- The style of items depends on the rules only by its table. -/
theorem itemStyle_withRules (d : TableDescriptor) (c : Request.Context) (assets : Cell.Assets)
    (fields : List String) (rules : List FormatRule) :
    Direct.itemStyle (d.withRules rules) (c.withRules rules) assets fields =
      (Direct.itemStyle d c assets fields).map fun s =>
        { s with descriptor := d.withRules rules } := by
  unfold Direct.itemStyle
  show (if d.actions.enabled then Action.basePath c.route >>= _ else _) = Except.map _ _
  cases d.actions.enabled with
  | false => rfl
  | true => cases Action.basePath c.route <;> rfl

/-- Items whose cells are made in a given way do not depend on the rules of their table. -/
theorem itemsWith_withRules {s : Direct.ItemStyle} (hd : s.descriptor = d)
    (rules : List FormatRule) (cell : Entries Value → String → Attempt Value) (i : Nat)
    (rows : List (Entries Value)) :
    Direct.itemsWith { s with descriptor := d.withRules rules } cell i rows =
      Direct.itemsWith s cell i rows := by
  subst hd
  induction rows generalizing i with
  | nil => rfl
  | cons row rest ih =>
      rw [Direct.itemsWith, Direct.itemsWith, ih]
      rfl

/-- The payload of a page that is there with rules is that of items whose cells they show. -/
theorem ShownPage.payload_withRules_eq_ok {page : ShownPage} {caught : Failure → Bool}
    {rules : List FormatRule} {payload : Entries Value} :
    (page.withRules rules).payload source (c.withRules rules) caught = .ok payload ↔
      ∃ s items, Direct.itemStyle page.table c source.assets page.style.ordered = .ok s ∧
        Direct.itemsWith s (Cell.shownCell caught (page.style.withRules rules)) 0 page.rows =
          .ok items ∧ payload = Direct.payload c.paging.draw page.counts items := by
  unfold ShownPage.payload Direct.payloadWith
  show (Direct.itemStyle (page.table.withRules rules) (c.withRules rules) _ _ >>= _) = _ ↔ _
  rw [itemStyle_withRules, bind_eq_ok]
  constructor
  · rintro ⟨s', hs', hpayload⟩
    obtain ⟨s, hs, rfl⟩ := map_eq_ok.1 hs'
    obtain ⟨items, hitems, hpayload⟩ := bind_eq_ok.1 hpayload
    have hitems := (itemsWith_withRules (styleOf_of_itemStyle hs).descriptor rules _ 0 _).symm.trans
      hitems
    exact ⟨s, items, hs, hitems, (pure_eq_ok.1 hpayload).symm⟩
  · rintro ⟨s, items, hs, hitems, rfl⟩
    refine ⟨_, map_eq_ok.2 ⟨s, hs, rfl⟩, bind_eq_ok.2 ⟨items, ?_, rfl⟩⟩
    exact (itemsWith_withRules (styleOf_of_itemStyle hs).descriptor rules _ 0 _).trans hitems

/-- A rule that is added to those of a page. -/
theorem ShownPage.ruleAdded {page : ShownPage} {caught : Failure → Bool}
    {before after : List FormatRule} {rule : FormatRule} {payload : Entries Value}
    (h : (page.withRules (before ++ after)).payload source (c.withRules (before ++ after)) caught =
      .ok payload) :
    RuleAdded caught (before ++ after) rule (page.withRules (before ++ rule :: after)) payload
      ((page.withRules (before ++ rule :: after)).payload source
        (c.withRules (before ++ rule :: after)) caught) := by
  obtain ⟨s, items, hs, hitems, rfl⟩ := payload_withRules_eq_ok.1 h
  have hfields : s.fields = page.style.ordered := (styleOf_of_itemStyle hs).fields
  have hdescriptor : s.descriptor = page.table := (styleOf_of_itemStyle hs).descriptor
  have hchanged := itemsWith_changed
    (g := Cell.shownCell caught (page.style.withRules (before ++ rule :: after)))
    (fun row other (hother : other ≠ rule.field) => Cell.shownCell_of_ne hother row) hitems
  constructor
  case returns =>
    have hrow : ∀ row ∈ page.rows, (rule.field ∈ s.fields → ∃ v, Cell.shownCell caught
        (page.style.withRules (before ++ rule :: after)) row rule.field = .ok v) ↔
        ∀ cell, (page.style.withRules (before ++ rule :: after)).PutsTo rule row cell →
          Cell.FailsCaught caught rule cell := by
      intro row hrow
      rw [hfields]
      exact Cell.exists_shownCell_iff fun hshown =>
        exists_of_itemsWith hitems hrow (hfields ▸ hshown)
    refine Iff.trans ?_ (hchanged.1.trans (forall₂_congr hrow))
    constructor
    · rintro ⟨payload', hpayload'⟩
      obtain ⟨s', items', hs', hitems', -⟩ := payload_withRules_eq_ok.1 hpayload'
      obtain rfl : s = s' := Except.ok.inj (hs.symm.trans hs')
      exact ⟨items', hitems'⟩
    · rintro ⟨items', hitems'⟩
      exact ⟨_, payload_withRules_eq_ok.2 ⟨s, items', hs, hitems', rfl⟩⟩
  case differs =>
    intro payload' hpayload'
    obtain ⟨s', items', hs', hitems', rfl⟩ := payload_withRules_eq_ok.1 hpayload'
    obtain rfl : s = s' := Except.ok.inj (hs.symm.trans hs')
    obtain ⟨pairs, rfl, rfl, hpairs⟩ := hchanged.2 items' hitems'
    refine ⟨c.paging.draw, pairs, rfl, rfl, hpairs.imp fun row pair hpair => ?_⟩
    rw [hfields, hdescriptor] at hpair
    exact ruleChange_of_changedCell hpair

/-- The extras of an answer do not depend on the rules. -/
theorem extras_withRules {rules : List FormatRule} {response : PagingResponse}
    (h : (Staged.compile source (c.withRules rules)).1 = .ok response) :
    ∃ d found, c.describedTable = .ok d ∧ Staged.resolvedOf source d = .ok found ∧
      response.extras = (Answer.columnExtras found.2).merge (allFlags d) := by
  rw [Staged.compile_fst] at h
  obtain ⟨d', hdescribed, -⟩ := bind_eq_ok.1 h
  rw [answer_of_described hdescribed] at h
  rw [describedTable_withRules] at hdescribed
  obtain ⟨d, hd, rfl⟩ := map_eq_ok.1 hdescribed
  obtain ⟨found, hfound, h⟩ := bind_eq_ok.1 h
  obtain ⟨fetched, -, h⟩ := bind_eq_ok.1 h
  obtain ⟨views, -, h⟩ := bind_eq_ok.1 h
  obtain ⟨action, -, h⟩ := bind_eq_ok.1 h
  obtain ⟨rows, -, h⟩ := bind_eq_ok.1 h
  obtain rfl := pure_eq_ok.1 h
  exact ⟨d, found, hd, hfound, rfl⟩

/-- Both compilations of a request with a payload have one with a rule more exactly if the rule
fails on no cell with a failure that is not caught.  It differs from the one without the rule in the
cells that the rule is put to. -/
theorem rule_changes_its_cells_alone (source : Source) (c : Request.Context)
    (before after : List FormatRule) (rule : FormatRule) :
    (∀ payload, Direct.compile source (c.withRules (before ++ after)) = .ok payload →
      ∃ page, Direct.shownPage source (c.withRules (before ++ rule :: after)) = .ok page ∧
        RuleAdded Failure.isFormat (before ++ after) rule page payload
          (Direct.compile source (c.withRules (before ++ rule :: after)))) ∧
    ∀ response, (Staged.compile source (c.withRules (before ++ after))).1 = .ok response →
      ∃ page, Staged.shownPage source (c.withRules (before ++ rule :: after)) = .ok page ∧
        RuleAdded Failure.isUnshown (before ++ after) rule page (response.toWire false)
          ((Staged.compile source (c.withRules (before ++ rule :: after))).1.map
            (·.toWire false)) ∧
        ∀ response', (Staged.compile source (c.withRules (before ++ rule :: after))).1 =
          .ok response' → response'.extras = response.extras := by
  refine ⟨fun payload hpayload => ?_, fun response hresponse => ?_⟩
  · have hshown := (alike_eq_iff.1 (Direct.alike_shownPage source _) payload).1 hpayload
    have halike := alike_eq_iff.1 (Direct.alike_shownPage source
      (c.withRules (before ++ rule :: after)))
    rw [Direct.shownPage_withRules] at hshown halike ⊢
    obtain ⟨_, hruled, hshown⟩ := bind_eq_ok.1 hshown
    obtain ⟨page, hpage, rfl⟩ := map_eq_ok.1 hruled
    rw [hpage] at halike ⊢
    exact ⟨_, rfl, (ShownPage.ruleAdded hshown).congr halike⟩
  · have hshown := (alike_eq_iff.1 (Staged.alike_shownPage source _) (response.toWire false)).2
      (map_eq_ok.2 ⟨response, hresponse, rfl⟩)
    have halike := alike_eq_iff.1 (Staged.alike_shownPage source
      (c.withRules (before ++ rule :: after)))
    rw [Staged.shownPage_withRules] at hshown halike ⊢
    obtain ⟨_, hruled, hshown⟩ := bind_eq_ok.1 hshown
    obtain ⟨page, hpage, rfl⟩ := map_eq_ok.1 hruled
    rw [hpage] at halike ⊢
    refine ⟨_, rfl, (ShownPage.ruleAdded hshown).congr fun payload' => (halike payload').symm,
      fun response' h' => ?_⟩
    obtain ⟨d, found, hd, hfound, hextras⟩ := extras_withRules hresponse
    obtain ⟨d', found', hd', hfound', hextras'⟩ := extras_withRules h'
    obtain rfl : d = d' := Except.ok.inj (hd.symm.trans hd')
    obtain rfl : found = found' := Except.ok.inj (hfound.symm.trans hfound')
    rw [hextras, hextras']

end Pages

section Sums

open Store

/-- One sum. -/
def sums : Table where
  name := "sums"
  columns := [⟨"label", "TEXT", false, false, none⟩, ⟨"amount", "INTEGER", false, false, none⟩]
  keys := []
  rows := [[("label", .text "rent"), ("amount", .int 1000)]]

/-- A database of nothing but this sum. -/
def sumsKept : Source := ⟨⟨[sums]⟩, .none, []⟩

/-- The descriptor of the sums, without format rules. -/
def sumColumns : TableDescriptor where
  name := "sums"
  columns := [⟨"label", none, false, false, true, true, false⟩,
    ⟨"amount", none, false, false, true, true, false⟩]
  relations := []
  formulas := []
  actions := ⟨false, [], [], []⟩
  filters := []
  paging := ⟨10, 100⟩
  formatRules := []
  clickable := false
  numbering := false
  urlTargetField := "id"
  softDeleteField := none
  mergedColumns := []
  fixedColumns := []
  orderBy := none

/-- The request of the sums. -/
def sumsAsked : Request.Context where
  tableName := some "sums"
  descriptor := some sumColumns
  paging := ⟨0, 10, none, .ascending, none, 0, []⟩
  filters := []
  filterPage := []
  route := ⟨none, none, none, none⟩
  roles := []
  roleGroup := none
  params := []

/-- The rule for amounts with some decimal places. -/
def amountRule (decimals : Int) : FormatRule := ⟨"amount", decimals, ",", some "decimal"⟩

/-- The answer with the amount of the sum as it is shown. -/
def sumsAnswer (amount : Value) : Entries Value :=
  Direct.payload 0 ⟨1, 1, []⟩ [[("label", .text "rent"), ("amount", amount)]]

/-- The plan of the sums. -/
def sumsPlan : Direct.Plan :=
  ⟨sums, ["label", "amount"], [],
    [("label", ⟨none, "label", .text⟩), ("amount", ⟨none, "amount", .integer⟩)], .none⟩

theorem find_sumsPlan : sumsPlan.find sumColumns sumsAsked =
    .ok ⟨1, 1, [⟨[("label", .text "rent"), ("amount", .int 1000)], []⟩]⟩ := by
  have htotal : sumsPlan.totalQuery sumsAsked = .ok ⟨sums, [], []⟩ :=
    totalQuery_of_conditions (p := sumsPlan) (c := sumsAsked) rfl (by decide)
  have hpage : sumsPlan.pageQuery sumColumns sumsAsked = .ok ⟨sums, [], []⟩ :=
    pageQuery_of_conditions (p := sumsPlan) (d := sumColumns) (c := sumsAsked) rfl (by decide)
  rw [find_eq fun _ hqs => Except.ok.inj hqs ▸ by decide, htotal, hpage]
  rfl

theorem compile_sumsAsked (rules : List FormatRule) :
    Direct.compile sumsKept (sumsAsked.withRules rules) =
      sumsPlan.payloadOf sumsKept (sumColumns.withRules rules) (sumsAsked.withRules rules)
        ⟨1, 1, [⟨[("label", .text "rent"), ("amount", .int 1000)], []⟩]⟩ := by
  have htable : sumsKept.database.table? (sumColumns.withRules rules).name = some sums := rfl
  have hplan : Direct.plan sumsKept.database sums (sumColumns.withRules rules) sumsKept.catalog =
      .ok sumsPlan := rfl
  rw [@compile_of_described _ (sumColumns.withRules rules) _ rfl]
  simp only [htable, hplan]
  show (sumsPlan.find sumColumns sumsAsked >>= sumsPlan.payloadOf sumsKept
    (sumColumns.withRules rules) (sumsAsked.withRules rules)) = _
  rw [find_sumsPlan]
  rfl

/-- The view of the sums. -/
def sumsView : Staged.View := ⟨sums, []⟩

/-- The columns of the sums that are shown. -/
def sumsResolved : Layout.ResolvedColumns := ⟨["label", "amount"], sumColumns.labels, .none, []⟩

theorem answer_sumsAsked (rules : List FormatRule) :
    Staged.answer sumsKept (sumsAsked.withRules rules) =
      Staged.answerOf sumsKept (sumColumns.withRules rules) (sumsAsked.withRules rules)
        sumsResolved ⟨1, 1, [[("label", .text "rent"), ("amount", .int 1000)]]⟩ := by
  have hanswer : Staged.answer sumsKept (sumsAsked.withRules rules) =
      sumsView.fetch (Staged.fetchOf sumColumns sumsAsked sumsResolved) >>=
        Staged.answerOf sumsKept (sumColumns.withRules rules) (sumsAsked.withRules rules)
          sumsResolved := rfl
  rw [hanswer, fetch_eq]
  rfl

/-- With two decimal places, the amount is changed from a number to its text. -/
theorem rule_changes_its_cells_alone_amount :
    Direct.compile sumsKept (sumsAsked.withRules []) = .ok (sumsAnswer (.int 1000)) ∧
    Direct.compile sumsKept (sumsAsked.withRules [amountRule 2]) =
      .ok (sumsAnswer (.text "1,000.00")) ∧
    (∃ page, RuleAdded Failure.isFormat [] (amountRule 2) page (sumsAnswer (.int 1000))
      (Direct.compile sumsKept (sumsAsked.withRules [amountRule 2]))) ∧
    (Staged.compile sumsKept (sumsAsked.withRules [])).1.map (·.toWire false) =
      .ok (sumsAnswer (.int 1000)) ∧
    ∃ page, RuleAdded Failure.isUnshown [] (amountRule 2) page (sumsAnswer (.int 1000))
      ((Staged.compile sumsKept (sumsAsked.withRules [amountRule 2])).1.map (·.toWire false)) := by
  have hadded := rule_changes_its_cells_alone sumsKept sumsAsked [] [] (amountRule 2)
  have hplain : Direct.compile sumsKept (sumsAsked.withRules []) =
      .ok (sumsAnswer (.int 1000)) := by
    rw [compile_sumsAsked]
    rfl
  have hstaged : (Staged.compile sumsKept (sumsAsked.withRules [])).1.map (·.toWire false) =
      .ok (sumsAnswer (.int 1000)) := by
    rw [Staged.compile_fst, answer_sumsAsked]
    rfl
  obtain ⟨page, -, hdirect⟩ := hadded.1 _ hplain
  obtain ⟨response, hresponse, hwire⟩ := map_eq_ok.1 hstaged
  obtain ⟨page', -, hadded', -⟩ := hadded.2 response hresponse
  refine ⟨hplain, ?_, ⟨page, hdirect⟩, hstaged, page', hwire ▸ hadded'⟩
  rw [compile_sumsAsked]
  rfl

/-- With fewer than none, a single pass fails, and a staged compilation leaves the amount empty. -/
theorem not_shown_amount_placesNegative :
    Direct.compile sumsKept (sumsAsked.withRules []) = .ok (sumsAnswer (.int 1000)) ∧
    Direct.compile sumsKept (sumsAsked.withRules [amountRule (-1)]) = .error .badValue ∧
    Cell.formatNumber (.int 1000) (-1) "," (some "decimal") = .error .badValue ∧
    (Staged.compile sumsKept (sumsAsked.withRules [amountRule (-1)])).1.map (·.toWire false) =
      .ok (sumsAnswer (.text "")) := by
  refine ⟨?_, ?_, rfl, ?_⟩
  · rw [compile_sumsAsked]
    rfl
  · rw [compile_sumsAsked]
    rfl
  · rw [Staged.compile_fst, answer_sumsAsked]
    rfl

end Sums

end AdminGrid

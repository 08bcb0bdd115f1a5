import AdminGrid.Proofs.Parity.Items
import AdminGrid.Proofs.Parity.NullFilters

/-!
# Answers on both sides

A page becomes a payload in one go on one side, and in two rounds on the other: its rows are
rendered, then they are completed and put together with the counts.  Pages with the same counts and
the same cells have the same payload.
-/

namespace AdminGrid

open Store

section Answers

variable {source : Source} {d : TableDescriptor} {c : Request.Context} {base : Table}
  {p : Direct.Plan} {r : Layout.ResolvedColumns}

/-- The payload of a page in a single pass. -/
def Direct.Plan.payloadOf (p : Direct.Plan) (source : Source) (d : TableDescriptor)
    (c : Request.Context) (found : Direct.Found) : Attempt (Entries Value) := do
  let style ← Direct.itemStyle d c source.assets p.fields
  let items ← Direct.itemsFrom style 0 (← Direct.rawRows p found.rows)
  return Direct.payload c.paging.draw found items

/-- The answer of a page in a staged compilation. -/
def Staged.answerOf (source : Source) (d : TableDescriptor) (c : Request.Context)
    (r : Layout.ResolvedColumns) (fetched : Staged.Fetched) : Attempt PagingResponse := do
  let views ← Staged.rowViews source d r fetched.rows
  let action ← Staged.rowAction d c
  Answer.assemble (Staged.pageOf d c fetched views action) (Answer.columnExtras r)

/-- Display fields that are no columns of the table leave none of its columns ambiguous. -/
theorem rawRows_of_fresh (h : ∀ j ∈ p.joins, j.displayField ∉ p.base.columnNames)
    (rows : List JoinedRow) : Direct.rawRows p rows = .ok (rows.map (Direct.rawRow p)) := by
  have hany : (p.joins.any fun j => p.base.columnNames.contains j.displayField) = false :=
    List.any_eq_false.2 fun j hj => by simpa using h j hj
  unfold Direct.rawRows
  rw [hany, Bool.and_false]
  rfl

/-- No join shows its column under the name of a column of the table. -/
theorem rawRows_eq (h : Comparable source d c) (hbase : source.database.table? d.name = some base)
    (hresolves : Resolves source d base p r) (rows : List JoinedRow) :
    Direct.rawRows p rows = .ok (rows.map (Direct.rawRow p)) := by
  obtain ⟨hmem, hname⟩ := Database.mem_of_table? hbase
  refine rawRows_of_fresh (fun j hj => ?_) rows
  obtain ⟨spec, hspec, hmade⟩ := hresolves.made j hj
  rw [hmade.displayField, hresolves.table]
  exact h.displays spec hspec base hmem hname

theorem toWire_eq_payload {found : Direct.Found} {fetched : Staged.Fetched}
    (htotal : found.total = fetched.total) (hfiltered : found.filtered = fetched.filtered)
    {draw : Int} {extras : Entries Value} (rows : List RowView) :
    PagingResponse.toWire ⟨draw, fetched.total, fetched.filtered, rows, extras⟩ false =
      Direct.payload draw found (rows.map RowView.serialize) := by
  unfold PagingResponse.toWire Direct.payload
  rw [htotal, hfiltered, List.map_map]
  rfl

/-- The payload of raw rows that are made into items one by one, with the cells that are made in
some way. -/
def Direct.payloadWith (source : Source) (d : TableDescriptor) (c : Request.Context)
    (fields : List String) (cell : Direct.ItemStyle → Entries Value → String → Attempt Value)
    (found : Direct.Found) (rows : List (Entries Value)) : Attempt (Entries Value) := do
  let s ← Direct.itemStyle d c source.assets fields
  return Direct.payload c.paging.draw found (← Direct.itemsWith s (cell s) 0 rows)

/-- What a staged compilation makes of a page is what becomes of its rows one by one. -/
theorem alike_payloadWith {cell : Direct.ItemStyle → Entries Value → String → Attempt Value}
    (found : Direct.Found) {fetched : Staged.Fetched} (htotal : found.total = fetched.total)
    (hfiltered : found.filtered = fetched.filtered) {rows : List (Entries Value)}
    (hrows : ∀ s, s.descriptor = d → s.assets = source.assets → s.fields = r.ordered →
      List.Forall₂ (ShownAs (Staged.rowStyle d source.assets r) (cell s)) rows fetched.rows) :
    Alike Eq (Direct.payloadWith source d c r.ordered cell found rows)
      ((Staged.answerOf source d c r fetched).map fun response => response.toWire false) := by
  -- the rows are rendered before their action cells are made ready, or after it
  have hswap := alike_bind_comm (Staged.rowAction d c) (Staged.rowViews source d r fetched.rows)
    fun action views => (Answer.assemble (Staged.pageOf d c fetched views action)
      (Answer.columnExtras r)).map fun response => response.toWire false
  have hstaged : (Staged.answerOf source d c r fetched).map (fun response =>
      response.toWire false) = (Staged.rowViews source d r fetched.rows >>= fun views =>
        Staged.rowAction d c >>= fun action =>
          (Answer.assemble (Staged.pageOf d c fetched views action)
            (Answer.columnExtras r)).map fun response => response.toWire false) := by
    unfold Staged.answerOf
    simp only [map_bind_eq]
  rw [hstaged]
  refine Alike.trans_right ?_ hswap
  unfold Direct.payloadWith
  refine (alike_itemStyle d c source.assets r.ordered).bind fun s action _ _ hs => ?_
  have hitems := alike_itemsWith (hs.attaches fetched []) hs.fields rfl
    (hrows s hs.descriptor hs.assets hs.fields) List.drop_zero
  have hassembled : (Staged.rowViews source d r fetched.rows >>= fun views =>
      (Answer.assemble (Staged.pageOf d c fetched views action) (Answer.columnExtras r)).map
        fun response => response.toWire false) =
      (fetched.rows.mapM (viewOfRow (Staged.rowStyle d source.assets r)) >>= fun views =>
        Answer.assembleRows (Staged.pageOf d c fetched [] action) 0 views).map fun rows =>
          Direct.payload c.paging.draw found (rows.map RowView.serialize) := by
    show (fetched.rows.mapM (viewOfRow (Staged.rowStyle d source.assets r)) >>= _) = _
    cases fetched.rows.mapM (viewOfRow (Staged.rowStyle d source.assets r)) with
    | error e => rfl
    | ok views =>
        show (Answer.assemble (Staged.pageOf d c fetched views action) _).map _ =
          (Answer.assembleRows (Staged.pageOf d c fetched [] action) 0 views).map _
        have hsame : Answer.assembleRows (Staged.pageOf d c fetched [] action) 0 views =
            Answer.assembleRows (Staged.pageOf d c fetched views action) 0 views :=
          assembleRows_withRows (Staged.pageOf d c fetched views action) [] 0 views
        rw [hsame, Answer.assemble]
        show Except.map _ (Answer.assembleRows _ 0 views >>= _) = _
        cases Answer.assembleRows (Staged.pageOf d c fetched views action) 0 views with
        | error e => rfl
        | ok rows => exact congrArg Except.ok (toWire_eq_payload htotal hfiltered rows)
  rw [hassembled]
  have hmapped := hitems.map (S := Eq) (f := Direct.payload c.paging.draw found)
    (g := fun rows => Direct.payload c.paging.draw found (rows.map RowView.serialize))
    fun items rows hrows => congrArg _ hrows
  refine Alike.trans_eq (Alike.of_eq ?_) hmapped
  show (Direct.itemsWith s (cell s) 0 rows >>= _) = _
  cases Direct.itemsWith s (cell s) 0 rows <;> rfl

theorem sameStyle_of_eq {s : Direct.ItemStyle} (hd : s.descriptor = d)
    (hassets : s.assets = source.assets) (hfields : s.fields = r.ordered) :
    SameStyle s (Staged.rowStyle d source.assets r) where
  fields := hfields
  assets := hassets
  images := by rw [hd]; rfl
  formulas := by rw [hd]; rfl
  rules := by rw [hd]; rfl

/-- Rules that fit let a staged compilation show the rows of a page as a single pass does. -/
theorem alike_payloadOfRows (hplaces : ∀ rule ∈ d.formatRules, Cell.ShowsPlaces rule)
    (found : Direct.Found) {fetched : Staged.Fetched} (htotal : found.total = fetched.total)
    (hfiltered : found.filtered = fetched.filtered) {rows : List (Entries Value)}
    (hrows : List.Forall₂ SameCells rows fetched.rows) :
    Alike Eq (Direct.payloadWith source d c r.ordered Direct.itemCell found rows)
      ((Staged.answerOf source d c r fetched).map fun response => response.toWire false) := by
  refine alike_payloadWith found htotal hfiltered fun s hd hassets hfields => ?_
  exact hrows.imp fun a b hcells => (sameStyle_of_eq hd hassets hfields).shownAs hcells
    (Cell.RowStyle.rulesFit_of_showsPlaces hplaces b)

theorem payloadOf_eq {found : Direct.Found} {rows : List (Entries Value)}
    (hraws : Direct.rawRows p found.rows = .ok rows) :
    p.payloadOf source d c found =
      Direct.payloadWith source d c p.fields Direct.itemCell found rows := by
  unfold Direct.Plan.payloadOf Direct.payloadWith
  rw [hraws]
  simp only [itemsFrom_eq]
  rfl

/-- What a single pass makes of a page is what a staged compilation makes of it. -/
theorem alike_payloadOf (h : Comparable source d c)
    (hbase : source.database.table? d.name = some base) (hresolves : Resolves source d base p r)
    {found : Direct.Found} {fetched : Staged.Fetched} (hpage : SamePage p found fetched) :
    Alike Eq (p.payloadOf source d c found)
      ((Staged.answerOf source d c r fetched).map fun response => response.toWire false) := by
  rw [payloadOf_eq (rawRows_eq h hbase hresolves found.rows), hresolves.fields]
  exact alike_payloadOfRows h.places found hpage.total hpage.filtered hpage.rows

/-- An empty page has no payload only where the action cells cannot be made ready. -/
theorem error_of_payloadOf_empty {e : Failure}
    (h : p.payloadOf source d c ⟨0, 0, []⟩ = .error e) (fetched : Staged.Fetched) :
    ∃ e', Staged.answerOf source d c r fetched = .error e' := by
  unfold Direct.Plan.payloadOf at h
  unfold Staged.answerOf
  rcases (alike_itemStyle d c source.assets p.fields).error_or_ok with
    ⟨e', e'', hs, haction⟩ | ⟨s, action, hs, haction, -⟩
  · -- the rows may fail to be rendered before that
    cases Staged.rowViews source d r fetched.rows with
    | error e => exact ⟨e, rfl⟩
    | ok views => exact ⟨e'', by rw [haction]; rfl⟩
  · rw [hs] at h
    cases h

theorem recordsTotal_of_toWire {response : PagingResponse} {draw : Int} {found : Direct.Found}
    {items : List (Entries Value)}
    (h : response.toWire false = Direct.payload draw found items) :
    response.recordsTotal = found.total := by
  have htotal : Value.int response.recordsTotal = .int found.total :=
    congrArg Prod.snd (List.cons.inj (List.cons.inj h).2).1
  exact Value.int.inj htotal

theorem counts_of_answerOf {fetched : Staged.Fetched} {response : PagingResponse}
    (h : Staged.answerOf source d c r fetched = .ok response) :
    response.recordsTotal = fetched.total ∧ response.recordsFiltered = fetched.filtered := by
  obtain ⟨views, -, h⟩ := bind_eq_ok.1 h
  obtain ⟨action, -, h⟩ := bind_eq_ok.1 h
  obtain ⟨rows, -, h⟩ := bind_eq_ok.1 h
  obtain rfl := pure_eq_ok.1 h
  exact ⟨rfl, rfl⟩

/-- An empty page has the same payload on both sides exactly if no row passes the filters on
either. -/
theorem alike_payloadOf_iff_of_empty (h : Comparable source d c)
    (hbase : source.database.table? d.name = some base) (hresolves : Resolves source d base p r)
    {found : Direct.Found} {fetched : Staged.Fetched} (hempty : EmptyPage found fetched) :
    Alike Eq (p.payloadOf source d c found)
        ((Staged.answerOf source d c r fetched).map fun response => response.toWire false) ↔
      ∀ payload, p.payloadOf source d c found = .ok payload → fetched.total = 0 := by
  obtain ⟨rfl, hempty⟩ := hempty
  constructor
  · intro halike payload hpayload
    obtain ⟨response, hanswer, hwire⟩ := map_eq_ok.1 ((alike_eq_iff.1 halike payload).1 hpayload)
    obtain ⟨s, -, hpayload⟩ := bind_eq_ok.1 hpayload
    obtain ⟨rows, -, hpayload⟩ := bind_eq_ok.1 hpayload
    obtain ⟨items, -, hpayload⟩ := bind_eq_ok.1 hpayload
    rw [← pure_eq_ok.1 hpayload] at hwire
    have htotal := recordsTotal_of_toWire hwire
    rw [(counts_of_answerOf hanswer).1] at htotal
    exact Int.ofNat_eq_zero.1 htotal
  · intro hsafe
    -- rows that only one side finds make the payloads differ, unless there is no payload at all
    cases hpayload : p.payloadOf source d c ⟨0, 0, []⟩ with
    | error e =>
        obtain ⟨e', he'⟩ := error_of_payloadOf_empty (r := r) hpayload fetched
        rw [he']
        trivial
    | ok payload =>
        obtain rfl := hempty (hsafe payload hpayload)
        rw [← hpayload]
        exact alike_payloadOf h hbase hresolves ⟨rfl, rfl, .nil⟩

end Answers

end AdminGrid

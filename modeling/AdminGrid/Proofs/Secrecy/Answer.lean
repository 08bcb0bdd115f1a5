import AdminGrid.Proofs.Parity.Agreement
import AdminGrid.Proofs.Secrecy.Items
import AdminGrid.Proofs.Secrecy.View

/-!
# Answers that do not tell a column

A request that does not search a column, and makes no other use of it but to show it, is answered
alike from twin databases: with the same numbers of rows, and with rows that differ in what is
computed from the column.
-/

namespace AdminGrid

open Store

/-- Two sources that differ in the values of one column of one table alone. -/
structure Source.Twin (ofTable column : String) (source source' : Source) : Prop where
  database : source.database.Twin ofTable column source'.database
  assets : source.assets = source'.assets
  catalog : source.catalog = source'.catalog

/-- Two answers that have everything in common but the cells that are computed from a column: the
counts, and the rows one by one. -/
structure SamePayload (d : TableDescriptor) (column : String) (w w' : Entries Value) : Prop where
  around : w.AlikeOn (· ≠ "data") w'
  rows : ∃ items items' : List (Entries Value),
    w.get? "data" = some (.list (items.map .map)) ∧
      w'.get? "data" = some (.list (items'.map .map)) ∧
        List.Forall₂ (SameButComputed d column) items items'

section Direct

variable {source source' : Source} {d : TableDescriptor} {c : Request.Context} {column : String}
  {p p' : Direct.Plan}

theorem rawRow_alikeOn (h : p.Twin column p') {x y : JoinedRow}
    (hxy : x.AlikeOn (p.sightBut column) y) :
    Entries.AlikeOn (· ≠ column) (Direct.rawRow p x) (Direct.rawRow p' y) := by
  have hjoins : p.joins.map (fun j => (j.displayField, Direct.rawCell (x.cell j.displayColumn))) =
      p'.joins.map fun j => (j.displayField, Direct.rawCell (y.cell j.displayColumn)) := by
    rw [← List.forall₂_eq_eq_eq, List.forall₂_map_left_iff, List.forall₂_map_right_iff]
    exact h.joins.imp fun j j' hj => by
      rw [cell_eq_of_alikeOn hxy hj.seesDisplay, hj.displayField, hj.displayColumn]
  rw [rawRow_eq, rawRow_eq, hjoins]
  exact (hxy.base.map Direct.rawCell).append (.refl _ _)

theorem compatible_rawRows (h : p.Twin column p') {rows rows' : List JoinedRow}
    (hrows : List.Forall₂ (JoinedRow.AlikeOn (p.sightBut column)) rows rows') :
    Compatible (List.Forall₂ (Entries.AlikeOn (· ≠ column))) (Direct.rawRows p rows)
      (Direct.rawRows p' rows') := by
  intro xs ys hxs hys
  unfold Direct.rawRows at hxs hys
  split at hxs
  · cases hxs
  · split at hys
    · cases hys
    · cases hxs
      cases hys
      rw [List.forall₂_map_left_iff, List.forall₂_map_right_iff]
      exact hrows.imp fun x y hxy => rawRow_alikeOn h hxy

/-- Answers with the same counts, whose items differ in what is computed from the column. -/
theorem samePayload_of_items (draw total filtered : Int) {items items' : List (Entries Value)}
    (hitems : List.Forall₂ (SameButComputed d column) items items') (extras : Entries Value) :
    SamePayload d column
      ([("draw", .int draw), ("recordsTotal", .int total), ("recordsFiltered", .int filtered),
        ("data", .list (items.map .map))] ++ extras)
      ([("draw", .int draw), ("recordsTotal", .int total), ("recordsFiltered", .int filtered),
        ("data", .list (items'.map .map))] ++ extras) where
  around := by
    refine Entries.AlikeOn.append (.of_forall₂ ?_) (.refl _ extras)
    exact .cons ⟨rfl, fun _ => rfl⟩ (.cons ⟨rfl, fun _ => rfl⟩ (.cons ⟨rfl, fun _ => rfl⟩
      (.cons ⟨rfl, fun h => absurd rfl h⟩ .nil)))
  rows := ⟨items, items', rfl, rfl, hitems⟩

/-- The payloads of pages that differ in a column differ in what is computed from it. -/
theorem compatible_payloadOf (h : p.Twin column p') (hassets : source.assets = source'.assets)
    {found found' : Direct.Found} (hfound : found.AlikeOn (p.sightBut column) found') :
    Compatible (SamePayload d column) (p.payloadOf source d c found)
      (p'.payloadOf source' d c found') := by
  unfold Direct.Plan.payloadOf
  rw [← hassets, ← h.fields]
  refine (compatible_of_eq rfl).bind fun s s' hs _ heq => ?_
  subst heq
  refine (compatible_rawRows h hfound.rows).bind fun rows rows' _ _ hrows => ?_
  refine (compatible_itemsFrom (styleOf_of_itemStyle hs).descriptor hrows 0).bind
    fun items items' _ _ hitems => compatible_ok ?_
  unfold Direct.payload
  rw [hfound.total, hfound.filtered]
  exact samePayload_of_items _ _ _ hitems []

theorem compatible_direct (hd : c.descriptor = some d) (htwin : source.Twin d.name column source')
    (hunused : Unused source d c column)
    (hsearch : Unsearched d source.catalog c.paging column) :
    Compatible (SamePayload d column) (Direct.compile source c) (Direct.compile source' c) := by
  cases hdescribed : c.describedTable with
  | error e =>
      intro w w' hw
      rw [Direct.compile, hdescribed] at hw
      cases hw
  | ok d' =>
      obtain rfl : d' = d := descriptor_of_describedTable hdescribed hd
      rw [compile_of_described hdescribed, compile_of_described hdescribed]
      have htable := htwin.database.table? d'.name
      cases hbase : source.database.table? d'.name with
      | none =>
          intro w w' hw
          cases hw
      | some base =>
          obtain ⟨hmem, hname⟩ := Database.mem_of_table? hbase
          rw [hbase] at htable
          generalize source'.database.table? d'.name = found at htable ⊢
          cases htable with
          | @some _ base' hbases =>
              have hplan : Alike (Direct.Plan.Twin column)
                  (Direct.plan source.database base d' source.catalog)
                  (Direct.plan source'.database base' d' source.catalog) :=
                Direct.alike_plan_of_twin (hname ▸ htwin.database) (hname ▸ hbases) hmem
                  (hname ▸ hunused.key) (hname ▸ hunused.joins)
              simp only [← htwin.catalog]
              refine hplan.compatible.bind fun p p' hp _ hplans => ?_
              refine (Direct.alike_find_of_unused hplans hbase hp hunused hsearch).compatible.bind
                fun found found' _ _ hfound => ?_
              exact compatible_payloadOf hplans htwin.assets hfound

end Direct

section Staged

variable {source source' : Source} {d : TableDescriptor} {c : Request.Context} {column : String}
  {r : Layout.ResolvedColumns}

theorem compatible_rowViews (hassets : source.assets = source'.assets)
    {rows rows' : List (Entries Value)}
    (hrows : List.Forall₂ (Entries.AlikeOn (· ≠ column)) rows rows') :
    Compatible (List.Forall₂ (BareView d column)) (Staged.rowViews source d r rows)
      (Staged.rowViews source' d r rows') := by
  unfold Staged.rowViews
  rw [← hassets]
  refine Compatible.mapM hrows fun a b hab => ?_
  show Compatible _ (viewOfRow (Staged.rowStyle d source.assets r) a) (viewOfRow _ b)
  exact compatible_viewOfRow rfl hab

/-- What makes the action cells of a table is that of a style of its items. -/
theorem exists_styleOf (assets : Cell.Assets) (fields : List String)
    {action : Option (Entries Value → Attempt String)} (h : Staged.rowAction d c = .ok action) :
    ∃ s, StyleOf d c assets fields s action := by
  rcases (alike_itemStyle d c assets fields).error_or_ok with
    ⟨_, e, -, he⟩ | ⟨s, action', -, haction', hs⟩
  · exact nomatch h.symm.trans he
  · obtain rfl := Except.ok.inj (h.symm.trans haction')
    exact ⟨s, hs⟩

/-- The answers of pages that differ in a column differ in what is computed from it. -/
theorem compatible_answerOf (hassets : source.assets = source'.assets)
    {fetched fetched' : Staged.Fetched} (hfetched : fetched.AlikeBut column fetched') :
    Compatible (fun response response' => ∀ withExtras,
        SamePayload d column (response.toWire withExtras) (response'.toWire withExtras))
      (Staged.answerOf source d c r fetched) (Staged.answerOf source' d c r fetched') := by
  unfold Staged.answerOf
  refine (compatible_rowViews hassets hfetched.rows).bind fun views views' hviewed _ hviews => ?_
  refine (compatible_of_eq rfl).bind fun action action' haction _ heq => ?_
  subst heq
  obtain ⟨s, hs⟩ := exists_styleOf source.assets r.ordered haction
  have hlength : views.length = fetched.rows.length := (mapM_eq_ok.1 hviewed).length_eq.symm
  unfold Answer.assemble
  refine (compatible_assembleRows hs hfetched.rows hviews List.drop_zero List.drop_zero
    hlength).bind fun rows rows' _ _ hrows => compatible_ok fun withExtras => ?_
  have hwire : ∀ rows : List RowView, rows.map (fun row => Value.map row.serialize) =
      (rows.map RowView.serialize).map .map := fun rows => (List.map_map ..).symm
  have hitems : List.Forall₂ (SameButComputed d column) (rows.map RowView.serialize)
      (rows'.map RowView.serialize) := by
    rw [List.forall₂_map_left_iff, List.forall₂_map_right_iff]
    exact hrows
  unfold PagingResponse.toWire
  simp only [hwire, Staged.pageOf, hfetched.total, hfetched.filtered]
  exact samePayload_of_items _ _ _ hitems _

theorem mem_requested_of_resolved {base : Table} {relations : List RelationSpec}
    (h : Layout.resolveColumns (Staged.columnRequest base d relations) = .ok r) :
    ∀ name ∈ r.relations.relations.keys, name ∈ Layout.requestedColumns d := by
  obtain ⟨ordered, -, h⟩ := bind_eq_ok.1 h
  rw [← pure_eq_ok.1 h]
  exact fun name hname => Layout.mem_requested_of_shown hname

/-- The same columns are resolved over twin databases, and the views over them are twins. -/
theorem compatible_resolvedOf (htwin : source.Twin d.name column source')
    (hunused : Unused source d c column) :
    Compatible (fun found found' => found.2 = found'.2 ∧
        (Staged.viewOf source d found.1 found.2).Twin column
          (Staged.viewOf source' d found'.1 found'.2))
      (Staged.resolvedOf source d) (Staged.resolvedOf source' d) := by
  rintro ⟨base, r⟩ ⟨base', r'⟩ h h'
  obtain ⟨hlinked, hresolved⟩ := Staged.resolvedOf_eq_ok.1 h
  obtain ⟨hlinked', hresolved'⟩ := Staged.resolvedOf_eq_ok.1 h'
  have hbase := Database.table?_of_linkedTable? hlinked
  have hbase' := Database.table?_of_linkedTable? hlinked'
  obtain ⟨hmem, hname⟩ := Database.mem_of_table? hbase
  have htables := htwin.database.table? d.name
  rw [hbase, hbase'] at htables
  cases htables with
  | some hbases =>
      have hrequest : Staged.columnRequest base' d
            (Layout.mergeRelations d.relations source'.catalog) =
          Staged.columnRequest base d (Layout.mergeRelations d.relations source.catalog) := by
        unfold Staged.columnRequest Table.columnNames
        rw [hbases.columns, htwin.catalog]
      rw [hrequest, hresolved] at hresolved'
      obtain rfl := Except.ok.inj hresolved'
      exact ⟨rfl, Staged.twin_viewOf htwin.database htwin.catalog hbases hname hmem hunused.key
        hunused.joins (mem_requested_of_resolved hresolved)⟩

theorem compatible_staged (hd : c.descriptor = some d) (htwin : source.Twin d.name column source')
    (hunused : Unused source d c column)
    (hsearch : Unsearched d source.catalog c.paging column) :
    Compatible (fun response response' => ∀ withExtras,
        SamePayload d column (response.toWire withExtras) (response'.toWire withExtras))
      (Staged.answer source c) (Staged.answer source' c) := by
  cases hdescribed : c.describedTable with
  | error e =>
      intro w w' hw
      rw [Staged.answer, hdescribed] at hw
      cases hw
  | ok d' =>
      obtain rfl : d' = d := descriptor_of_describedTable hdescribed hd
      rw [answer_of_described hdescribed, answer_of_described hdescribed]
      refine (compatible_resolvedOf htwin hunused).bind fun found found' hfound _ hboth => ?_
      obtain ⟨base, r⟩ := found
      obtain ⟨base', r'⟩ := found'
      obtain ⟨rfl, hviews⟩ := hboth
      obtain ⟨hlinked, hresolved⟩ := Staged.resolvedOf_eq_ok.1 hfound
      have hbase := Database.table?_of_linkedTable? hlinked
      have hfields : shownFields base d' source.catalog = .ok r.ordered := by
        unfold shownFields
        rw [hresolved]
        rfl
      have hfetch := Staged.compatible_fetch hviews (f := Staged.fetchOf d' c r) hunused.filters
        (fun field hfield hhidden => hsearch.ne_of_mem hfields hfield fun hdeclared =>
          hhidden (Layout.fieldsWith_subset_excludedFields _ _ _ hdeclared))
        hsearch.alone hunused.declaredOrder
        fun i hi hfield => Layout.fieldsWith_subset_excludedFields _ _ _
          (hunused.requestedOrder base r.ordered i hbase hfields hi hfield)
      exact hfetch.bind fun fetched fetched' _ _ hfetched =>
        compatible_answerOf htwin.assets hfetched

end Staged

/-- Answers from two databases that differ in a column which a request neither uses nor searches
have the same counts and the same rows, up to the cells that are computed from the column. -/
theorem samePayload_of_unsearched {source source' : Source} {d : TableDescriptor}
    {c : Request.Context} {column : String} (hd : c.descriptor = some d)
    (htwin : source.Twin d.name column source') (hunused : Unused source d c column)
    (hsearch : Unsearched d source.catalog c.paging column) :
    (∀ w w', Direct.compile source c = .ok w → Direct.compile source' c = .ok w' →
      SamePayload d column w w') ∧
    ∀ response response', (Staged.compile source c).1 = .ok response →
      (Staged.compile source' c).1 = .ok response' → ∀ withExtras,
        SamePayload d column (response.toWire withExtras) (response'.toWire withExtras) := by
  rw [Staged.compile_fst, Staged.compile_fst]
  exact ⟨compatible_direct hd htwin hunused hsearch, compatible_staged hd htwin hunused hsearch⟩

section Staff

/-- One member of staff, with a pin or without one. -/
def staff (pin : Stored) : Table where
  name := "staff"
  columns := [⟨"name", "TEXT", false, false, none⟩, ⟨"pin", "TEXT", false, false, none⟩]
  keys := []
  rows := [[("name", .text "Ada"), ("pin", pin)]]

/-- A database of nothing but the staff. -/
def staffWith (pin : Stored) : Source := ⟨⟨[staff pin]⟩, .none, []⟩

/-- The descriptor of the staff, which does not declare the pin. -/
def staffColumns : TableDescriptor where
  name := "staff"
  columns := [⟨"name", none, false, false, true, true, false⟩]
  relations := []
  formulas := []
  actions := ⟨false, [], [], []⟩
  filters := []
  paging := ⟨10, 100⟩
  formatRules := []
  clickable := false
  numbering := false
  urlTargetField := "id"
  softDeleteField := none
  mergedColumns := []
  fixedColumns := []
  orderBy := none

/-- The request of the staff with a text in one column. -/
def staffSearched (field text : String) : Request.Context where
  tableName := some "staff"
  descriptor := some staffColumns
  paging := ⟨0, 10, none, .ascending, none, 0, [(field, text)]⟩
  filters := []
  filterPage := []
  route := ⟨none, none, none, none⟩
  roles := []
  roleGroup := none
  params := []

/-- The query of the staff with a text in one column. -/
def staffQuery (pin : Stored) (field text : String) : Query Stored :=
  ⟨staff pin, [], [.likeLower ⟨none, field, .text⟩ ("%" ++ text ++ "%")]⟩

/-- The one row of the staff. -/
def staffRow (pin : Stored) : JoinedRow := ⟨[("name", .text "Ada"), ("pin", pin)], []⟩

/-- The answer that finds the member of staff or finds nobody. -/
def staffAnswer (found : Bool) : Entries Value :=
  [("draw", .int 0), ("recordsTotal", .int 1), ("recordsFiltered", .int (if found then 1 else 0)),
    ("data", .list (if found then [.map [("name", .text "Ada")]] else []))]

theorem rows_staffQuery (pin : Stored) (field text : String) : (staffQuery pin field text).rows =
    if (staffQuery pin field text).holds (staffRow pin) then [staffRow pin] else [] := by
  show List.filter _ [staffRow pin] = _
  rw [List.filter_singleton]
  cases (staffQuery pin field text).holds (staffRow pin) <;> rfl

/-- The plan of the staff. -/
def staffPlan (pin : Stored) : Direct.Plan :=
  ⟨staff pin, ["name"], [], [("name", ⟨none, "name", .text⟩), ("pin", ⟨none, "pin", .text⟩)], .none⟩

theorem find_staffPlan (pin : Stored) {field : String} (hfield : field = "name" ∨ field = "pin")
    (text : String) : (staffPlan pin).find staffColumns (staffSearched field text) =
      .ok ⟨1, (staffQuery pin field text).rows.length,
        (staffQuery pin field text).rows.take 10⟩ := by
  have hnames : ∀ name ∈ ["staff", "staff", field], Direct.nameable name = true := by
    rcases hfield with rfl | rfl <;> decide
  have htotal : (staffPlan pin).totalQuery (staffSearched field text) = .ok ⟨staff pin, [], []⟩ :=
    totalQuery_of_conditions (p := staffPlan pin) (c := staffSearched field text) rfl
      fun name hname => hnames name (List.mem_append_left ["staff", field] hname)
  have hpage : (staffPlan pin).pageQuery staffColumns (staffSearched field text) =
      .ok (staffQuery pin field text) := by
    rcases hfield with rfl | rfl
    · exact pageQuery_of_conditions (p := staffPlan pin) (d := staffColumns)
        (c := staffSearched "name" text) rfl hnames
    · exact pageQuery_of_conditions (p := staffPlan pin) (d := staffColumns)
        (c := staffSearched "pin" text) rfl hnames
  rw [find_eq, htotal, hpage]
  · rfl
  · rintro _ ⟨⟩
    rcases hfield with rfl | rfl <;> exact hnames

theorem compile_staffSearched (pin : Stored) {field : String}
    (hfield : field = "name" ∨ field = "pin") (text : String) :
    Direct.compile (staffWith pin) (staffSearched field text) =
      .ok (staffAnswer ((staffQuery pin field text).holds (staffRow pin))) := by
  have hcompile : Direct.compile (staffWith pin) (staffSearched field text) =
      (staffPlan pin).find staffColumns (staffSearched field text) >>=
        (staffPlan pin).payloadOf (staffWith pin) staffColumns (staffSearched field text) := rfl
  rw [hcompile, find_staffPlan pin hfield, rows_staffQuery]
  cases (staffQuery pin field text).holds (staffRow pin) <;> rfl

/-- The view of the staff. -/
def staffView (pin : Stored) : Staged.View := ⟨staff pin, []⟩

/-- The columns of the staff that are shown. -/
def staffResolved : Layout.ResolvedColumns := ⟨["name"], staffColumns.labels, .none, []⟩

theorem fetch_staffView (pin : Stored) {field : String} (hfield : field = "name" ∨ field = "pin")
    (text : String) :
    (staffView pin).fetch (Staged.fetchOf staffColumns (staffSearched field text) staffResolved) =
      do return ⟨1, (staffQuery pin field text).rows.length,
        ← ((staffQuery pin field text).rows.take 10).mapM (staffView pin).readRow⟩ := by
  rw [fetch_eq]
  rcases hfield with rfl | rfl <;> rfl

theorem answer_staffSearched (pin : Stored) {field : String}
    (hfield : field = "name" ∨ field = "pin") (text : String) :
    (Staged.compile (staffWith pin) (staffSearched field text)).1.map (·.toWire false) =
      .ok (staffAnswer ((staffQuery pin field text).holds (staffRow pin))) := by
  have hanswer : Staged.answer (staffWith pin) (staffSearched field text) =
      (staffView pin).fetch (Staged.fetchOf staffColumns (staffSearched field text) staffResolved)
        >>= Staged.answerOf (staffWith pin) staffColumns (staffSearched field text)
          staffResolved := rfl
  rw [Staged.compile_fst, hanswer, fetch_staffView pin hfield, rows_staffQuery]
  cases (staffQuery pin field text).holds (staffRow pin) with
  | false => rfl
  | true => cases pin <;> rfl

theorem twin_staffWith (pin pin' : Stored) :
    Source.Twin "staff" "pin" (staffWith pin) (staffWith pin') where
  database := by
    refine .cons ⟨rfl, rfl, rfl, .cons (.of_forall₂ ?_) .nil⟩ .nil
    exact .cons ⟨rfl, fun _ => rfl⟩ (.cons ⟨rfl, fun hseen => absurd rfl (hseen rfl)⟩ .nil)
  assets := rfl
  catalog := rfl

theorem unused_staffWith (pin : Stored) (field text : String) :
    Unused (staffWith pin) staffColumns (staffSearched field text) "pin" where
  key := by
    intro t ht _
    obtain rfl := List.mem_singleton.1 ht
    exact fun hmem => nomatch hmem
  joins := fun r hr => nomatch hr
  filters := fun f hf => nomatch hf
  declaredOrder := fun o ho => nomatch ho
  requestedOrder := fun base fields i _ _ hi => nomatch hi

/-- A search for a name is answered with a pin as it is without one. -/
theorem samePayload_staffNamed :
    (∃ w w', Direct.compile (staffWith (.text "9")) (staffSearched "name" "Ad") = .ok w ∧
      Direct.compile (staffWith .null) (staffSearched "name" "Ad") = .ok w' ∧
        SamePayload staffColumns "pin" w w') ∧
    ∃ response response',
      (Staged.compile (staffWith (.text "9")) (staffSearched "name" "Ad")).1 = .ok response ∧
        (Staged.compile (staffWith .null) (staffSearched "name" "Ad")).1 = .ok response' ∧
          ∀ withExtras, SamePayload staffColumns "pin" (response.toWire withExtras)
            (response'.toWire withExtras) := by
  obtain ⟨hdirect, hstaged⟩ := samePayload_of_unsearched rfl (twin_staffWith (.text "9") .null)
    (unused_staffWith _ "name" "Ad") ⟨by decide, Or.inr ⟨by decide, by decide, by decide⟩⟩
  have hfield : "name" = "name" ∨ "name" = "pin" := Or.inl rfl
  have hnine := compile_staffSearched (.text "9") hfield "Ad"
  have hnull := compile_staffSearched .null hfield "Ad"
  obtain ⟨response, hresponse, -⟩ := map_eq_ok.1 (answer_staffSearched (.text "9") hfield "Ad")
  obtain ⟨response', hresponse', -⟩ := map_eq_ok.1 (answer_staffSearched .null hfield "Ad")
  exact ⟨⟨_, _, hnine, hnull, hdirect _ _ hnine hnull⟩,
    ⟨response, response', hresponse, hresponse', hstaged _ _ hresponse hresponse'⟩⟩

theorem holds_staffQuery_nine : (staffQuery (.text "9") "pin" "9").holds (staffRow (.text "9")) =
    true := by
  have hpattern : patternChars (lowerAscii ("%" ++ "9" ++ "%")) = ['%', '9', '%'] := rfl
  have htext : patternChars (lowerAscii "9") = ['9'] := rfl
  have hlike : like (lowerAscii ("%" ++ "9" ++ "%")) (lowerAscii "9") = true := by
    rw [like, hpattern, htext]
    simp [fits]
  show (some (like (lowerAscii ("%" ++ "9" ++ "%")) (lowerAscii "9")) == some true && true) = true
  rw [hlike]
  rfl

/-- The pin is neither declared nor used, but a search in this column tells whether there is one
with a given digit, in both compilations. -/
theorem not_samePayload_pinSearched :
    Source.Twin "staff" "pin" (staffWith (.text "9")) (staffWith .null) ∧
    Unused (staffWith (.text "9")) staffColumns (staffSearched "pin" "9") "pin" ∧
    "pin" ∉ staffColumns.fieldNames ∧
    Direct.compile (staffWith (.text "9")) (staffSearched "pin" "9") = .ok (staffAnswer true) ∧
    Direct.compile (staffWith .null) (staffSearched "pin" "9") = .ok (staffAnswer false) ∧
    (Staged.compile (staffWith (.text "9")) (staffSearched "pin" "9")).1.map (·.toWire false) =
      .ok (staffAnswer true) ∧
    (Staged.compile (staffWith .null) (staffSearched "pin" "9")).1.map (·.toWire false) =
      .ok (staffAnswer false) ∧
    (staffAnswer true).get? "recordsFiltered" = some (.int 1) ∧
    (staffAnswer false).get? "recordsFiltered" = some (.int 0) := by
  have hnine := holds_staffQuery_nine
  have hnull : (staffQuery .null "pin" "9").holds (staffRow .null) = false := rfl
  have hfield : "pin" = "name" ∨ "pin" = "pin" := Or.inr rfl
  refine ⟨twin_staffWith _ _, unused_staffWith _ _ _, by decide, ?_, ?_, ?_, ?_, rfl, rfl⟩
  · rw [compile_staffSearched _ hfield, hnine]
  · rw [compile_staffSearched _ hfield, hnull]
  · rw [answer_staffSearched _ hfield, hnine]
  · rw [answer_staffSearched _ hfield, hnull]

end Staff

end AdminGrid

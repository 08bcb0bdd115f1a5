import AdminGrid.Parity.Run
import AdminGrid.Proofs.Parity.Severity
import AdminGrid.Proofs.Service.Direct
import AdminGrid.Store.Catalog

/-!
# What a staged compilation ends in

A staged compilation has an answer that can be written, or the database refuses one of its
statements, under the same bounds as a single pass.  Beside them, its filters must not have it look
for null among lists, and the types of its columns must be able to read the rows.
-/

namespace AdminGrid

open Store

/-- Whether a filter that has null among its values has constants alone. -/
def FilterSpec.LooksUp (f : FilterSpec) : Prop :=
  f.operator = .among → ∀ items, f.value.items? = some items →
    items.any Staged.isNullValue = true → items.all Value.isConstant = true

namespace Staged

section Writing

theorem inCell_of_ne {v : Value} (h : ∀ n, v ≠ .int n) : InCell v := fun n hn => absurd hn (h n)

theorem ends_writeTruth {v : Value} :
    Ends Failure.Expected InCell (Meaning.writeTruth v) := by
  have hone : ∀ {n : Int}, n = 0 ∨ n = 1 → InCell (.int n) := by
    rintro n hn m hm
    obtain rfl := Value.int.inj hm
    rcases hn with rfl | rfl <;> decide
  unfold Meaning.writeTruth
  split
  · exact inCell_truth _
  · split
    · rename_i hn
      exact hone (by simpa using hn)
    · trivial
  · split
    · split
      · rename_i hn
        exact hone (by simpa using hn)
      · trivial
    · trivial
  · split
    · exact hone (.inl rfl)
    · split
      · exact hone (.inr rfl)
      · trivial
  · trivial

theorem ends_writeNumber {v : Value} :
    Ends Failure.Expected InCell (Meaning.writeNumber v) := by
  have hread : ∀ x : Option Binary64, Ends Failure.Expected InCell
      (x.elim (.error .unavailable) fun x => .ok (.float x)) := by
    intro x
    cases x with
    | none => trivial
    | some x => exact inCell_of_ne fun _ => by simp
  unfold Meaning.writeNumber
  dsimp only
  split
  · exact inCell_of_ne fun _ => by simp
  · exact hread _
  · exact inCell_of_ne fun _ => by simp
  · exact inCell_of_ne fun _ => by simp
  · exact hread _
  · exact hread _
  · trivial

/-- A parameter that fits a cell is written as such a value, or refused by its type. -/
theorem ends_write {p : Parameter} (h : InCell p.value) :
    Ends Failure.Expected InCell p.write := by
  unfold Parameter.write
  split
  · exact inCell_null
  · exact ends_writeTruth
  · exact ends_writeNumber
  · exact ends_writeNumber
  all_goals first
    | trivial
    | exact h
    | exact inCell_of_ne fun _ => by simp [Meaning.writtenDate]

theorem ends_prepare {q : Query Parameter}
    (h : ∀ p ∈ q.conditions, p.Values fun w => InCell w.value) :
    Ends Failure.Expected (·.PicksFrom (allRows q.base q.joins)) (prepare q) := by
  have hwritten : Ends Failure.Expected (fun written => ∀ p ∈ written, p.Values InCell)
      (q.conditions.mapM (Condition.traverse Parameter.write)) :=
    (Ends.mapM fun p hp => ends_traverse (fun w => ends_write) (h p hp)).mono (fun _ he => he)
      fun _ hw => hw.2
  exact hwritten.bind fun written _ hw => ends_queryBind (q := ⟨q.base, q.joins, written⟩) hw

end Writing

section Clauses

variable {column : TypedColumn} {v : Value}

theorem values_equalClause (h : InCell v) :
    (equalClause column v).Values fun w => InCell w.value := by
  unfold equalClause
  split
  · trivial
  · exact inCell_truth _
  · exact h

theorem values_unequalClause (h : InCell v) :
    (unequalClause column v).Values fun w => InCell w.value := by
  unfold unequalClause
  split
  · trivial
  · exact inCell_truth _
  · exact h

theorem ends_orderClause (op : Comparison) (h : InCell v) :
    Ends Failure.Expected (Condition.Values fun w => InCell w.value)
      (orderClause op column v) := by
  unfold orderClause
  split
  · trivial
  · trivial
  · exact h

theorem ends_amongClause (h : ∀ w ∈ v.comparands, InCell w)
    (hconstants : ∀ items, v.items? = some items →
      items.any isNullValue = true → items.all Value.isConstant = true) :
    Ends Failure.Expected (Condition.Values fun w => InCell w.value) (amongClause column v) := by
  -- a value that is no list stands for the list of itself alone
  have hitems : ∀ w ∈ v.items?.getD [v], InCell w := by
    intro w hw
    cases v with
    | list items => exact h w (List.mem_cons_of_mem _ hw)
    | tuple items => exact h w (List.mem_cons_of_mem _ hw)
    | _ =>
        obtain rfl := List.mem_singleton.1 hw
        exact h _ List.mem_cons_self
  have hconstant : (v.items?.getD [v]).any isNullValue = true →
      (v.items?.getD [v]).all Value.isConstant = true := by
    cases hv : v.items? with
    | some items => exact hconstants items hv
    | none =>
        cases v with
        | null => exact fun _ => rfl
        | list items => cases hv
        | tuple items => cases hv
        | _ => exact fun hnull => by simp [isNullValue] at hnull
  unfold amongClause
  dsimp only
  split
  · trivial
  · split
    · rename_i hnull
      rw [if_pos (hconstant hnull)]
      exact fun w hw => by
        obtain ⟨x, hx, rfl⟩ := List.mem_map.1 hw
        exact hitems x hx
    · exact fun w hw => by
        obtain ⟨x, hx, rfl⟩ := List.mem_map.1 hw
        exact hitems x hx

theorem ends_boundClause (op : Comparison) (h : InCell v) :
    Ends Failure.Expected (fun clauses => ∀ p ∈ clauses, p.Values fun w => InCell w.value)
      (boundClause op column v) := by
  unfold boundClause
  split
  · exact fun p hp => nomatch hp
  · exact (ends_orderClause op h).bind fun p _ hp => List.forall_mem_singleton.2 hp

theorem inCell_rangeBounds (h : ∀ w ∈ v.comparands, InCell w) :
    InCell (rangeBounds v).1 ∧ InCell (rangeBounds v).2 := by
  have hpair : ∀ items, v.items? = some items → ∀ w ∈ items, InCell w := by
    intro items hitems w hw
    refine h w (List.mem_cons_of_mem _ ?_)
    cases v with
    | list items' => exact Option.some.inj hitems ▸ hw
    | tuple items' => exact Option.some.inj hitems ▸ hw
    | _ => cases hitems
  unfold rangeBounds
  split
  · rename_i entries hentries
    have hcells : ∀ e ∈ entries, InCell e.2 := by
      intro e he
      refine h e.2 (List.mem_cons_of_mem _ ?_)
      cases v with
      | map entries' =>
          obtain rfl := Option.some.inj hentries
          exact List.mem_map_of_mem he
      | _ => cases hentries
    exact ⟨inCell_cellAt hcells "from", inCell_cellAt hcells "to"⟩
  · rename_i low high _ hitems
    exact ⟨hpair _ hitems low (by simp), hpair _ hitems high (by simp)⟩
  · exact ⟨inCell_null, inCell_null⟩

/-- The conditions of a filter hold no other values than the filter, unless the filter is refused.
-/
theorem ends_filterClauses {g : FilterSpec} (h : g.InCells) (hlooks : g.LooksUp) :
    Ends Failure.Expected (fun clauses => ∀ p ∈ clauses, p.Values fun w => InCell w.value)
      (filterClauses column g.operator g.value) := by
  have hself : InCell g.value := h.cells _ List.mem_cons_self
  have hwritten := h.written
  cases hop : g.operator with
  | contains =>
      exact Direct.ends_like_of_written column.ref (fun s => "%" ++ s ++ "%")
        (hwritten (by simp [hop]))
  | startsWith =>
      exact Direct.ends_like_of_written column.ref (fun s => s ++ "%") (hwritten (by simp [hop]))
  | endsWith =>
      exact Direct.ends_like_of_written column.ref (fun s => "%" ++ s) (hwritten (by simp [hop]))
  | equals => exact List.forall_mem_singleton.2 (values_equalClause hself)
  | notEqual => exact List.forall_mem_singleton.2 (values_unequalClause hself)
  | among =>
      exact (ends_amongClause h.cells (hlooks hop)).bind fun p _ hp =>
        List.forall_mem_singleton.2 hp
  | inRange =>
      obtain ⟨hlow, hhigh⟩ := inCell_rangeBounds h.cells
      exact (ends_boundClause _ hlow).bind fun low _ hlow =>
        (ends_boundClause _ hhigh).bind fun high _ hhigh => List.forall_mem_append.2 ⟨hlow, hhigh⟩
  | greaterThan | lessThan | greaterThanOrEqual | lessThanOrEqual =>
      exact (ends_orderClause _ hself).bind fun p _ hp => List.forall_mem_singleton.2 hp
  | _ => exact List.forall_mem_singleton.2 trivial

end Clauses

variable {source : Source} {d : TableDescriptor} {c : Request.Context} {v : View} {f : Fetch}

theorem ends_filterConditions {filters : List FilterSpec} (h : ∀ f ∈ filters, f.InCells)
    (hlooks : ∀ f ∈ filters, f.LooksUp) :
    Ends Failure.Expected (fun clauses => ∀ p ∈ clauses, p.Values fun w => InCell w.value)
      (v.filterConditions filters) := by
  induction filters with
  | nil => exact fun p hp => nomatch hp
  | cons f rest ih =>
      rw [List.forall_mem_cons] at h hlooks
      -- a filter on an unknown column adds no clause, so that both cases go on alike
      have hrest : ∀ own : List (Condition Parameter),
          (∀ p ∈ own, p.Values fun w => InCell w.value) →
            Ends Failure.Expected (fun clauses => ∀ p ∈ clauses, p.Values fun w => InCell w.value)
              (v.filterConditions rest >>= fun others => .ok (own ++ others)) := fun own hown =>
        (ih h.2 hlooks.2).bind fun others _ hothers => List.forall_mem_append.2 ⟨hown, hothers⟩
      unfold View.filterConditions
      split
      · exact (ends_filterClauses h.1 hlooks.1).bind fun own _ hown => hrest own hown
      · exact hrest [] fun p hp => nomatch hp

/-- The searches compare with texts alone. -/
theorem values_searchConditions (ordered : List String) (request : PagingRequest)
    (hidden : List String) : ∀ p ∈ v.searchConditions ordered request hidden,
      p.Values fun w => InCell w.value := by
  intro p hp
  rcases List.mem_append.1 hp with hp | hp
  · split at hp
    · split at hp
      · cases hp
      · refine values_any? (fun q hq => ?_) (Option.mem_toList.1 hp)
        obtain ⟨column, -, rfl⟩ := List.mem_map.1 hq
        trivial
    · cases hp
  · obtain ⟨e, -, he⟩ := List.mem_filterMap.1 hp
    obtain ⟨column, -, rfl⟩ := Option.map_eq_some_iff.1 he
    trivial

theorem readRow_congr {a b : JoinedRow} (h : a.seen = b.seen) : v.readRow a = v.readRow b := by
  unfold View.readRow
  rw [cell_congr h]

/-- All rows of a view, before any condition. -/
def View.allRows (v : View) : List JoinedRow := Store.allRows v.base (v.joins.map (·.join))

/-- Whether the rows of a view can be counted, read by the types of their columns, and shown. -/
structure View.CanServe (v : View) (d : TableDescriptor) : Prop where
  count : fitsCell v.allRows.length = true
  rows : ∀ row ∈ v.allRows, ∃ shown, v.readRow row = .ok shown ∧ d.CanShow shown

/-- A page that is fetched counts no more rows than there are, and its rows can be shown. -/
structure Fetched.CanServe (fetched : Fetched) (d : TableDescriptor) (n : Nat) : Prop where
  total : fetched.total ≤ n
  filtered : fetched.filtered ≤ n
  length : fetched.rows.length ≤ n
  rows : ∀ row ∈ fetched.rows, d.CanShow row

theorem ends_readPage (hv : v.CanServe d) {total filtered : Nat} {page : List JoinedRow}
    (hpage : PageOf v.allRows total filtered page) :
    Ends (fun _ => False) (fun fetched => fetched.CanServe d v.allRows.length)
      (do return Fetched.mk total filtered (← page.mapM v.readRow)) := by
  have hread : ∀ row ∈ page, Ends (fun _ => False) d.CanShow (v.readRow row) := by
    intro row hrow
    -- a row of the page looks like one of all rows, which can be read and shown
    obtain ⟨other, hother, hseen⟩ := hpage.rows row hrow
    obtain ⟨shown, hshown, hcan⟩ := hv.rows other hother
    rw [← readRow_congr hseen, hshown]
    exact hcan
  refine (Ends.mapM hread).bind fun rows _ hrows => ?_
  exact ⟨hpage.total, hpage.filtered, hrows.1 ▸ hpage.length, hrows.2⟩

/-- What is fetched for a request: two counts and a page, unless the database refuses a statement.
-/
theorem ends_fetch (hv : v.CanServe d) (hstart : fitsCell f.request.start = true)
    (hlength : fitsCell f.request.length = true) (hfilters : ∀ g ∈ f.filters, g.InCells)
    (hlooks : ∀ g ∈ f.filters, g.LooksUp) : Ends Failure.Expected
      (fun fetched => fetched.CanServe d v.allRows.length) (v.fetch f) := by
  have hconditions := ends_filterConditions (v := v) hfilters hlooks
  have htotal : Ends Failure.Expected (·.PicksFrom v.allRows) (v.totalQuery f) :=
    hconditions.bind fun clauses _ hclauses => ends_prepare (q := v.query clauses) hclauses
  have hquery : Ends Failure.Expected (·.PicksFrom v.allRows) (v.pageQuery f) :=
    hconditions.bind fun clauses _ hclauses => ends_prepare (q := v.query (clauses ++ _))
      (List.forall_mem_append.2 ⟨hclauses, values_searchConditions _ _ _⟩)
  rw [fetch_eq]
  refine htotal.bind fun total _ htotal => hquery.bind fun q _ hq => ?_
  rw [bindSegment, hstart, hlength]
  exact (ends_readPage hv (pageOf_segment htotal.count_le hq.count_le hq _ _ _)).of_never

/-- What a staged compilation ends in: an answer that can be written, unless the database refuses a
statement or there is no such table. -/
theorem ends_answer (hd : c.descriptor = some d) (h : c.InBounds d)
    (hlooks : ∀ f ∈ c.filters, f.LooksUp)
    (hv : ∀ base r, source.database.linkedTable? d.name = some base →
      Layout.resolveColumns (columnRequest base d
        (Layout.mergeRelations d.relations source.catalog)) = .ok r →
        (viewOf source d base r).CanServe d) :
    Ends Failure.Expected (fun wire => Writes 4 (.map wire))
      ((answer source c).map fun response => response.toWire false) := by
  cases hdescribed : c.describedTable with
  | error e =>
      have hexpected := expected_of_describedTable hdescribed
      rw [answer, hdescribed]
      exact hexpected
  | ok d' =>
      obtain rfl : d' = d := descriptor_of_describedTable hdescribed hd
      rw [answer_of_described hdescribed, map_bind_eq, resolvedOf]
      cases htable : source.database.linkedTable? d'.name with
      | none => trivial
      | some base =>
          have hresolved : Ends Failure.Expected (fun _ => True)
              (Layout.resolveColumns (columnRequest base d'
                (Layout.mergeRelations d'.relations source.catalog))) :=
            (ends_placeFormulas _ h.anchors).of_never.bind fun _ _ _ => trivial
          have hfound := hresolved.map (f := fun r => (base, r))
            (R := fun found => (viewOf source d' found.1 found.2).CanServe d')
            fun r hr _ => hv base r htable hr
          refine hfound.bind fun found _ hserve => ?_
          rw [map_bind_eq]
          refine (ends_fetch hserve h.start h.length h.filters hlooks).bind
            fun fetched _ hfetched => ?_
          -- the rows of the page become the payload that they would become one by one
          refine Ends.of_never (Ends.of_alike (alike_payloadOfRows h.places
            ⟨fetched.total, fetched.filtered, []⟩ rfl rfl
            (List.forall₂_same.2 fun row _ field => rfl)) ?_)
          exact Direct.ends_payloadWith h hserve.count hfetched.total hfetched.filtered
            hfetched.length hfetched.rows found.2.ordered

end Staged

/-! ## What a run ends in

A run ends as the compilation does whose answer it gives: the report on the differences of two
answers is always made, and the relations that a database suggests are missing only where a table
is. -/

namespace Parity

theorem ends_severity (direct : Entries Value) (staged : Option (Entries Value)) :
    Ends (fun _ => False) (fun _ => True) (severity (compare direct staged)) := by
  cases staged with
  | none => trivial
  | some staged =>
      by_cases h : (differences direct staged).isEmpty = true
      · rw [compare_of_isEmpty direct staged h]
        trivial
      · rw [severity_of_not_isEmpty direct staged h]
        trivial

variable {source : Source} {c : Request.Context} {mode : Mode} {limit : Int}

/-- A run ends as the compilation of its mode does. -/
theorem ends_run
    (hdirect : ∀ d, c.descriptor = some d → mode ≠ .staged →
      Ends Failure.Expected (fun answer => Writes 4 (.map answer)) (Direct.compile source c))
    (hstaged : ∀ d, c.descriptor = some d → mode = .staged →
      Ends Failure.Expected (fun wire => Writes 4 (.map wire))
        ((Staged.answer source c).map fun response => response.toWire false)) :
    Ends Failure.Expected (fun r => Writes 4 (.map r.chosen))
      (run source mode (.ok limit) c) := by
  rw [← Staged.compile_fst] at hstaged
  unfold run
  generalize Staged.compile source c = compiled at hstaged
  obtain ⟨staged, progress⟩ := compiled
  dsimp only
  split
  · trivial
  · rename_i hsome
    obtain ⟨d, hd⟩ := Option.ne_none_iff_exists'.1 (by simpa using hsome)
    cases mode with
    | staged =>
        refine (hstaged d hd rfl).bind fun wire _ h => ?_
        exact h
    | direct =>
        refine (hdirect d hd (by decide)).bind fun answer _ h => ?_
        exact h
    | both =>
        refine (hdirect d hd (by decide)).bind fun direct _ h => ?_
        refine (ends_severity direct _).of_never.bind fun severity _ _ => ?_
        exact h

end Parity

namespace Store.Database

theorem ends_table (db : Database) (name : String) :
    Ends Failure.Expected (fun _ => True) (db.table name) := by
  unfold table
  split <;> trivial

theorem ends_suggested? (db : Database) (chosen : Entries String) (base : String)
    (key : ForeignKey) : Ends Failure.Expected (fun _ => True) (db.suggested? chosen base key) := by
  have hshown : Ends Failure.Expected (fun _ => True) (db.shownColumn? chosen key.table) := by
    unfold shownColumn?
    split
    · trivial
    · exact (ends_table db key.table).bind fun _ _ _ => trivial
  unfold suggested?
  split
  · split
    · trivial
    · refine hshown.bind fun display? _ _ => ?_
      split <;> trivial
  · trivial

/-- The relations of a table are suggested, unless a table is not there. -/
theorem ends_catalog (db : Database) (chosen : Entries String) (name : String) :
    Ends Failure.Expected (fun _ => True) (db.catalog chosen name) :=
  (ends_table db name).bind fun t _ _ =>
    (Ends.mapM fun key (_ : key ∈ t.keys.reverse) => ends_suggested? db chosen name key).bind
      fun _ _ _ => trivial

end Store.Database

end AdminGrid

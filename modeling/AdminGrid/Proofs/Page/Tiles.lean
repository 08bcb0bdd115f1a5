import AdminGrid.Proofs.Page.RelationColumns
import AdminGrid.Proofs.Store.Arrangement

/-!
# Pages that tile the answer

What a request finds does not depend on the page that it asks for: the statements, the order of the
rows and the way in which each of them is shown are the same for every page.  So an answer that
shows all rows settles every other page, which shows a segment of them, each row with the number
that it has in the whole.  Pages of one length that follow each other therefore show the rows of the
whole answer one after the other.
-/

namespace AdminGrid

open Store

section Segments

variable {α β : Type}

/-- Segments of one length that follow each other are one segment. -/
theorem flatMap_segment_range {length : Int} (hlength : 0 ≤ length) (n : Nat) (xs : List α) :
    ((List.range n).flatMap fun k : Nat => segment (k * length) length xs) =
      segment 0 (n * length) xs := by
  induction n with
  | zero =>
      unfold Store.segment
      simp
  | succ n ih =>
      have hbefore : 0 ≤ (n : Int) * length := Int.mul_nonneg (Int.natCast_nonneg n) hlength
      have hnext : ((n + 1 : Nat) : Int) * length = n * length + length := by
        rw [Nat.cast_succ, Int.add_mul, Int.one_mul]
      rw [List.range_succ, List.flatMap_append, ih, List.flatMap_singleton, hnext]
      have hjoined := segment_append_segment (le_refl 0) hbefore hlength xs
      rwa [Int.zero_add] at hjoined

/-- An attempt at all elements of a list is one at those of each segment. -/
theorem mapM_segment {f : α → Attempt β} {xs : List α} {ys : List β} (h : xs.mapM f = .ok ys)
    (start length : Int) : (segment start length xs).mapM f = .ok (segment start length ys) := by
  rw [mapM_eq_ok] at h ⊢
  unfold Store.segment
  dsimp only
  split
  · exact List.forall₂_drop _ h
  · exact List.forall₂_take _ (List.forall₂_drop _ h)

/-- A segment keeps the places of its elements. -/
theorem zipIdx_segment (start length : Int) (xs : List α) :
    (segment start length xs).zipIdx start.toNat = segment start length xs.zipIdx := by
  have hdrop : (xs.drop start.toNat).zipIdx start.toNat = xs.zipIdx.drop start.toNat :=
    List.ext_getElem? fun i => by simp [List.getElem?_zipIdx, List.getElem?_drop]
  have htake : ∀ k : Nat, ((xs.drop start.toNat).take k).zipIdx start.toNat =
      ((xs.drop start.toNat).zipIdx start.toNat).take k := fun k =>
    List.ext_getElem? fun i => by
      rw [List.getElem?_zipIdx, List.getElem?_take, List.getElem?_take, List.getElem?_zipIdx]
      split <;> rfl
  unfold Store.segment
  dsimp only
  split
  · exact hdrop
  · rw [htake, hdrop]

/-- An attempt at the elements with their places is one at those of each segment, with the places
that they have in the whole list. -/
theorem mapM_zipIdx_segment {f : α × Nat → Attempt β} {xs : List α} {ys : List β}
    (h : xs.zipIdx.mapM f = .ok ys) (start length : Int) :
    (segment start length xs).zipIdx.mapM (fun e => f (e.1, start.toNat + e.2)) =
      .ok (segment start length ys) := by
  have hplaces := mapM_segment h start length
  rw [← zipIdx_segment, List.zipIdx_eq_map_add, List.mapM_map] at hplaces
  exact hplaces

end Segments

/-- A request with another page. -/
def Request.Context.onPage (c : Request.Context) (start length : Int) : Request.Context :=
  { c with paging := { c.paging with start := start, length := length } }

/-- The requests of pages of one length, one after the other. -/
def Request.Context.pages (c : Request.Context) (length : Int) (n : Nat) : List Request.Context :=
  (List.range n).map fun k : Nat => c.onPage (k * length) length

/-- What an answer tells a grid: how many rows there are before and after the search, and some of
them. -/
structure Tells (wire : Entries Value) (total filtered : Nat) (rows : List (Entries Value)) :
    Prop where
  total : wire.get? "recordsTotal" = some (.int total)
  filtered : wire.get? "recordsFiltered" = some (.int filtered)
  rows : wire.get? "data" = some (.list (rows.map .map))

/-- Whether a page of a length holds all rows that the search leaves. -/
def HoldsAll (wire : Entries Value) (length : Int) : Prop :=
  ∀ filtered, wire.get? "recordsFiltered" = some (.int filtered) → filtered ≤ length

/-- Whether a row has a number, also in the number column where it is shown. -/
structure HasNumber (fields : List String) (number : Int) (row : Entries Value) : Prop where
  index : row.get? "DT_RowIndex" = some (.int number)
  column : Layout.numberColumn ∈ fields → row.get? Layout.numberColumn = some (.int number)

/-- Whether rows have the numbers from one on. -/
def CountUp (fields : List String) (rows : List (Entries Value)) : Prop :=
  ∀ (i : Nat) row, rows[i]? = some row → HasNumber fields (i + 1) row

/-- Whether the rows of an answer are counted up where its table wants them to be numbered. -/
def Numbered (source : Source) (c : Request.Context) (rows : List (Entries Value)) : Prop :=
  ∀ d base fields, c.descriptor = some d → d.numbering = true →
    source.database.table? d.name = some base → shownFields base d source.catalog = .ok fields →
      CountUp fields rows

/-- Whether the pages of a request are segments of some rows: each page whose bounds the database
accepts is answered, with the same counts. -/
def PagedBy (answer : Request.Context → Attempt (Entries Value)) (c : Request.Context)
    (total : Nat) (rows : List (Entries Value)) : Prop :=
  ∀ start length : Int, 0 ≤ start →
    Alike (fun _ page => Tells page total rows.length (segment start length rows))
      (bindSegment start length) (answer (c.onPage start length))

/-- Answers that show one after the other what another one shows, with the same counts as that. -/
def TileWhole (source : Source) (c : Request.Context) (whole : Entries Value)
    (pages : List (Entries Value)) : Prop :=
  ∃ (total : Nat) (parts : List (List (Entries Value))),
    Tells whole total parts.flatten.length parts.flatten ∧
    List.Forall₂ (fun page part => Tells page total parts.flatten.length part) pages parts ∧
    Numbered source c parts.flatten

theorem Tells.withExtras {wire : Entries Value} {total filtered : Nat}
    {rows : List (Entries Value)} (h : Tells wire total filtered rows) (extras : Entries Value) :
    Tells (wire ++ extras) total filtered rows where
  total := by rw [Entries.get?_append, h.total, Option.some_or]
  filtered := by rw [Entries.get?_append, h.filtered, Option.some_or]
  rows := by rw [Entries.get?_append, h.rows, Option.some_or]

theorem tells_payload (draw : Int) (found : Direct.Found) (items : List (Entries Value)) :
    Tells (Direct.payload draw found items) found.total found.filtered items := ⟨rfl, rfl, rfl⟩

section Tiling

variable {answer : Request.Context → Attempt (Entries Value)} {source : Source}
  {c : Request.Context} {total : Nat} {rows : List (Entries Value)}

/-- A page that is answered is a segment. -/
theorem PagedBy.tells (h : PagedBy answer c total rows) {start length : Int} (hstart : 0 ≤ start)
    {page : Entries Value} (hpage : answer (c.onPage start length) = .ok page) :
    Tells page total rows.length (segment start length rows) := by
  rcases (h start length hstart).error_or_ok with ⟨_, _, -, herror⟩ | ⟨_, x, -, hok, htells⟩
  · exact nomatch herror.symm.trans hpage
  · rwa [← Except.ok.inj (hok.symm.trans hpage)]

/-- Pages that follow each other until all rows are shown tile the answer that shows them all. -/
theorem PagedBy.tileWhole (h : PagedBy answer c total rows) (hnumbered : Numbered source c rows)
    {length bound : Int} (hlength : 0 ≤ length) {n : Nat} (hbound : (rows.length : Int) ≤ bound)
    (hn : (rows.length : Int) ≤ n * length) {whole : Entries Value}
    (hwhole : answer (c.onPage 0 bound) = .ok whole) {pages : List (Entries Value)}
    (hpages : (c.pages length n).mapM answer = .ok pages) : TileWhole source c whole pages := by
  have hflatten : ((List.range n).map fun k : Nat => segment (k * length) length rows).flatten =
      rows := by
    rw [← List.flatMap_def, flatMap_segment_range hlength]
    exact segment_eq_self (le_refl 0) (Or.inr hn)
  refine ⟨total, (List.range n).map fun k : Nat => segment (k * length) length rows, ?_, ?_, ?_⟩
  · have htells := h.tells (le_refl 0) hwhole
    rw [segment_eq_self (le_refl 0) (Or.inr hbound)] at htells
    rwa [hflatten]
  · rw [mapM_eq_ok, Request.Context.pages, List.forall₂_map_left_iff] at hpages
    rw [hflatten, List.forall₂_map_right_iff]
    refine hpages.flip.imp fun page k hpage => ?_
    exact h.tells (Int.mul_nonneg (Int.natCast_nonneg k) hlength) hpage
  · rwa [hflatten]

end Tiling

/-! ## Rows with their numbers -/

section Items

variable {s : Direct.ItemStyle} {cell : Entries Value → String → Attempt Value}

theorem HasNumber.put {fields : List String} {number : Int} {row : Entries Value}
    (h : HasNumber fields number row) {key : String} (hindex : key ≠ "DT_RowIndex")
    (hcolumn : key ≠ Layout.numberColumn) (v : Value) : HasNumber fields number (row.put key v) where
  index := by rw [Entries.get?_put_of_ne v row hindex, h.index]
  column hshown := by rw [Entries.get?_put_of_ne v row hcolumn, h.column hshown]

theorem hasNumber_numbered {fields : List String} {cells : Entries Value}
    (h : ∀ field ∈ fields, cells.has field = true) (number : Int) :
    HasNumber fields number (Answer.numbered cells number) := by
  have hne : Layout.numberColumn ≠ "DT_RowIndex" := by decide
  have hhas : (cells.put "DT_RowIndex" (.int number)).has Layout.numberColumn =
      cells.has Layout.numberColumn := by
    rw [Entries.has, Entries.get?_put_of_ne _ cells hne.symm, Entries.has]
  unfold Answer.numbered
  simp only [hhas]
  cases hshown : cells.has Layout.numberColumn with
  | true =>
      exact ⟨(Entries.get?_put_of_ne _ _ hne).trans (Entries.get?_put_self _ _ cells),
        fun _ => Entries.get?_put_self _ _ _⟩
  | false =>
      refine ⟨Entries.get?_put_self _ _ cells, fun hmem => ?_⟩
      exact absurd (h _ hmem) (by simp [hshown])

theorem hasNumber_withAction {fields : List String} {number : Int}
    {row item item' : Entries Value} (h : HasNumber fields number item)
    (hitem : Direct.withAction s row item = .ok item') : HasNumber fields number item' := by
  unfold Direct.withAction at hitem
  split at hitem
  · obtain ⟨cell, -, rfl⟩ := map_eq_ok.1 hitem
    exact h.put (by decide) (by decide) _
  · rwa [← Except.ok.inj hitem]

theorem hasNumber_withAttributes {fields : List String} {number : Int}
    {row item item' : Entries Value} (h : HasNumber fields number item)
    (hitem : Direct.withAttributes s row item = .ok item') : HasNumber fields number item' := by
  unfold Direct.withAttributes at hitem
  split at hitem
  · obtain ⟨token, -, hitem⟩ := bind_eq_ok.1 hitem
    rw [← pure_eq_ok.1 hitem]
    exact (h.put (by decide) (by decide) _).put (by decide) (by decide) _
  · rwa [← Except.ok.inj hitem]

/-- An item has the number of its place, counted from the start of the page. -/
theorem hasNumber_itemWith (hnumbering : s.descriptor.numbering = true) {i : Nat}
    {row item : Entries Value} (h : Direct.itemWith s cell i row = .ok item) :
    HasNumber s.fields (s.start + i + 1) item := by
  obtain ⟨cells, hcells, hitem⟩ := bind_eq_ok.1 h
  obtain ⟨acted, hacted, hitem⟩ := bind_eq_ok.1 hitem
  refine hasNumber_withAttributes (hasNumber_withAction ?_ hacted) hitem
  rw [withNumber_eq, if_pos hnumbering]
  refine hasNumber_numbered (fun field hfield => ?_) _
  obtain ⟨e, he, hcell⟩ := exists_of_mem_mapM hcells hfield
  obtain ⟨v, -, hv⟩ := bind_eq_ok.1 hcell
  rw [← Entries.mem_keys_iff_has, Entries.ofList, Entries.mem_keys_merge_iff]
  exact Or.inr (List.mem_map.2 ⟨e, he, by rw [← pure_eq_ok.1 hv]⟩)

theorem itemsWith_eq_mapM (s : Direct.ItemStyle)
    (cell : Entries Value → String → Attempt Value) (i : Nat) (rows : List (Entries Value)) :
    Direct.itemsWith s cell i rows =
      (rows.zipIdx i).mapM fun e => Direct.itemWith s cell e.2 e.1 := by
  induction rows generalizing i with
  | nil => rfl
  | cons row rest ih => rw [Direct.itemsWith, ih, List.zipIdx_cons, List.mapM_cons]

/-- An item depends on its place in the whole alone. -/
theorem itemWith_onPage {start : Int} (hstart : 0 ≤ start) (i : Nat) (row : Entries Value) :
    Direct.itemWith { s with start := start } cell i row =
      Direct.itemWith { s with start := 0 } cell (start.toNat + i) row := by
  have hplace : start + i + 1 = 0 + ((start.toNat + i : Nat) : Int) + 1 := by omega
  have hnumber : ∀ item, Direct.withNumber { s with start := start } i item =
      Direct.withNumber { s with start := 0 } (start.toNat + i) item := fun item => by
    rw [withNumber_eq, withNumber_eq, hplace]
  unfold Direct.itemWith
  simp only [hnumber]
  rfl

/-- The items of a page are a segment of all items. -/
theorem itemsWith_segment {rows items : List (Entries Value)}
    (h : Direct.itemsWith { s with start := 0 } cell 0 rows = .ok items) {start : Int}
    (hstart : 0 ≤ start) (length : Int) :
    Direct.itemsWith { s with start := start } cell 0 (segment start length rows) =
      .ok (segment start length items) := by
  rw [itemsWith_eq_mapM] at h ⊢
  rw [← mapM_zipIdx_segment h start length]
  exact mapM_congr fun e _ => itemWith_onPage hstart e.2 e.1

theorem countUp_itemsWith (hnumbering : s.descriptor.numbering = true) (hstart : s.start = 0)
    {rows items : List (Entries Value)} (h : Direct.itemsWith s cell 0 rows = .ok items) :
    CountUp s.fields items := by
  rw [itemsWith_eq_mapM, mapM_eq_ok, List.forall₂_iff_get] at h
  obtain ⟨hlength, hitems⟩ := h
  intro i item hitem
  obtain ⟨hi, rfl⟩ := List.getElem?_eq_some_iff.1 hitem
  have hmade := hitems i (hlength ▸ hi) hi
  simp only [List.get_eq_getElem, List.getElem_zipIdx] at hmade
  have hnumber := hasNumber_itemWith hnumbering hmade
  rwa [hstart, Nat.zero_add, Int.zero_add] at hnumber

end Items

/-! ## Pages of both compilations -/

section Payloads

variable {source : Source} {d : TableDescriptor} {c : Request.Context} {fields : List String}
  {cell : Direct.ItemStyle → Entries Value → String → Attempt Value} {found : Direct.Found}
  {raws : List (Entries Value)}

theorem itemStyle_onPage (d : TableDescriptor) (c : Request.Context) (assets : Cell.Assets)
    (fields : List String) (start length : Int) :
    Direct.itemStyle d (c.onPage start length) assets fields =
      (Direct.itemStyle d c assets fields).map fun s => { s with start := start } := by
  unfold Direct.itemStyle
  split
  · show (Action.basePath c.route >>= _) = (Action.basePath c.route >>= _).map _
    cases Action.basePath c.route <;> rfl
  · rfl

/-- An answer with the items of all rows settles those of the pages, which hold a segment of
them. -/
theorem payloadWith_segment (hcell : ∀ s start, cell { s with start := start } = cell s)
    {length : Int} {whole : Entries Value}
    (h : Direct.payloadWith source d (c.onPage 0 length) fields cell found raws = .ok whole) :
    ∃ items, items.length = raws.length ∧ (d.numbering = true → CountUp fields items) ∧
      ∀ start length : Int, 0 ≤ start →
        Direct.payloadWith source d (c.onPage start length) fields cell found
            (segment start length raws) =
          .ok (Direct.payload c.paging.draw found (segment start length items)) := by
  obtain ⟨s', hs', h⟩ := bind_eq_ok.1 h
  obtain ⟨items, hitems, -⟩ := bind_eq_ok.1 h
  have hstyle := styleOf_of_itemStyle hs'
  rw [itemStyle_onPage] at hs'
  obtain ⟨s, hs, rfl⟩ := map_eq_ok.1 hs'
  rw [hcell] at hitems
  refine ⟨items, ?_, fun hnumbering => ?_, fun start length hstart => ?_⟩
  · rw [itemsWith_eq_mapM] at hitems
    rw [← (mapM_eq_ok.1 hitems).length_eq, List.length_zipIdx]
  · have hcount := countUp_itemsWith (s := { s with start := 0 })
      (hstyle.descriptor.symm ▸ hnumbering) rfl hitems
    rwa [hstyle.fields] at hcount
  · unfold Direct.payloadWith
    rw [itemStyle_onPage, hs]
    show (Direct.itemsWith { s with start := start } (cell { s with start := start }) 0 _ >>=
      fun items => pure (Direct.payload c.paging.draw found items)) = _
    rw [hcell, itemsWith_segment hitems hstart]
    rfl

end Payloads

namespace Direct

variable {source : Source} {d : TableDescriptor} {c : Request.Context} {p : Plan}

/-- A page that holds all rows settles what is found for every other one. -/
theorem find_onPage {length : Int} {found : Found} (h : p.find d (c.onPage 0 length) = .ok found)
    (hall : (found.filtered : Int) ≤ length) :
    found.rows.length = found.filtered ∧ ∀ start length : Int,
      p.find d (c.onPage start length) = (bindSegment start length).map fun _ =>
        { found with rows := segment start length found.rows } := by
  have hnames := nameable_of_find h
  rw [find_eq hnames] at h
  obtain ⟨total, htotal, h⟩ := bind_eq_ok.1 h
  obtain ⟨query, hquery, h⟩ := bind_eq_ok.1 h
  obtain ⟨_, -, h⟩ := bind_eq_ok.1 h
  have hlength : ((ordered (p.order d c.paging) query.rows).length : Int) = query.count := by
    rw [length_ordered]
    rfl
  have hrows : segment 0 length (ordered (p.order d c.paging) query.rows) =
      ordered (p.order d c.paging) query.rows := by
    rw [← pure_eq_ok.1 h] at hall
    exact segment_eq_self (le_refl 0) (Or.inr (hlength ▸ hall))
  have hfound : found = ⟨total.count, query.count, ordered (p.order d c.paging) query.rows⟩ := by
    rw [← pure_eq_ok.1 h]
    exact congrArg (Found.mk _ _) hrows
  rw [hfound]
  refine ⟨Int.ofNat_inj.1 hlength, fun start length => ?_⟩
  -- neither the names of the statements nor their conditions depend on the page
  have hpage : p.find d (c.onPage start length) = (do
      let total ← p.totalQuery (c.onPage 0 length)
      let query ← p.pageQuery d (c.onPage 0 length)
      bindSegment start length
      return ⟨total.count, query.count,
        segment start length (ordered (p.order d c.paging) query.rows)⟩) := find_eq hnames
  have htotal' : p.totalQuery (c.onPage 0 length) = .ok total := htotal
  have hquery' : p.pageQuery d (c.onPage 0 length) = .ok query := hquery
  rw [hpage, htotal', hquery']
  show (bindSegment start length >>= _) = _
  cases bindSegment start length <;> rfl

theorem rawRows_segment {rows : List JoinedRow} {raws : List (Entries Value)}
    (h : rawRows p rows = .ok raws) (start length : Int) :
    rawRows p (segment start length rows) = .ok (segment start length raws) := by
  unfold rawRows at h ⊢
  by_cases hclash : (p.joins.any fun j => p.base.columnNames.contains j.displayField) = true
  · -- a name is ambiguous, so that there are no rows at all
    rw [hclash, Bool.and_true] at h
    split at h
    · cases h
    · rename_i hempty
      have hnil : rows = [] := by simpa using hempty
      subst hnil
      rw [← Except.ok.inj h]
      unfold Store.segment
      simp
  · rw [Bool.not_eq_true] at hclash
    rw [hclash, Bool.and_false, if_neg Bool.false_ne_true] at h ⊢
    rw [← Except.ok.inj h, segment_map]

/-- An answer of a single pass that shows all rows settles all pages. -/
theorem exists_pagedBy {length : Int} {whole : Entries Value}
    (h : compile source (c.onPage 0 length) = .ok whole) (hall : HoldsAll whole length) :
    ∃ total rows, PagedBy (compile source) c total rows ∧ (rows.length : Int) ≤ length ∧
      Numbered source c rows := by
  obtain ⟨d, hd, -⟩ := bind_eq_ok.1 h
  have hdescribed : ∀ start length, (c.onPage start length).describedTable = .ok d :=
    fun _ _ => hd
  rw [compile_of_described hd] at h
  cases htable : source.database.table? d.name with
  | none =>
      rw [htable] at h
      cases h
  | some base =>
      rw [htable] at h
      obtain ⟨p, hplan, h⟩ := bind_eq_ok.1 h
      obtain ⟨found, hfound, h⟩ := bind_eq_ok.1 h
      obtain ⟨raws, shown, hraws, hpayload⟩ := exists_rawRows_of_payloadOf h
      have hlength : (found.filtered : Int) ≤ length := by
        rw [hpayload] at hall
        exact hall _ rfl
      -- the one answer with all rows is where every page takes its rows from
      obtain ⟨hcount, hfinds⟩ := find_onPage hfound hlength
      rw [payloadOf_eq hraws] at h
      obtain ⟨items, hitems, hnumbered, hpages⟩ := payloadWith_segment (fun _ _ => rfl) h
      have hfiltered : items.length = found.filtered := by
        rw [hitems, length_rawRows hraws, hcount]
      refine ⟨found.total, items, fun start length hstart => ?_, hfiltered ▸ hlength, ?_⟩
      · rw [compile_of_plan (hdescribed start length) htable hplan, hfinds, hfiltered]
        cases bindSegment start length with
        | error e => trivial
        | ok _ =>
            show Alike _ _ (p.payloadOf source d (c.onPage start length) _)
            rw [payloadOf_eq (rawRows_segment hraws start length)]
            have hpage := hpages start length hstart
            change payloadWith source d (c.onPage start length) p.fields itemCell
              { found with rows := segment start length found.rows } _ = _ at hpage
            rw [hpage]
            exact tells_payload _ _ _
      · intro d' base' fields hd' hnumbering hbase' hfields
        obtain rfl : d = d' := descriptor_of_describedTable hd hd'
        obtain rfl : base = base' := Option.some.inj (htable.symm.trans hbase')
        obtain rfl : p.fields = fields :=
          Except.ok.inj ((shownFields_of_plan hplan).symm.trans hfields)
        exact hnumbered hnumbering

end Direct

namespace Staged

variable {source : Source} {d : TableDescriptor} {c : Request.Context} {v : View}
  {r : Layout.ResolvedColumns}

/-- A page that holds all rows settles what is fetched for every other one. -/
theorem fetch_onPage {length : Int} {fetched : Fetched}
    (h : v.fetch (fetchOf d (c.onPage 0 length) r) = .ok fetched)
    (hall : (fetched.filtered : Int) ≤ length) :
    fetched.rows.length = fetched.filtered ∧ ∀ start length : Int,
      v.fetch (fetchOf d (c.onPage start length) r) = (bindSegment start length).map fun _ =>
        { fetched with rows := segment start length fetched.rows } := by
  rw [fetch_eq] at h
  obtain ⟨total, htotal, h⟩ := bind_eq_ok.1 h
  obtain ⟨query, hquery, h⟩ := bind_eq_ok.1 h
  obtain ⟨_, -, h⟩ := bind_eq_ok.1 h
  obtain ⟨rows, hread, h⟩ := bind_eq_ok.1 h
  obtain rfl := pure_eq_ok.1 h
  have hlength : (ordered (v.order r.ordered c.paging d.orderBy
      (fetchOf d c r).fixed) query.rows).length = query.count := length_ordered _ _
  have hread' : (segment 0 length (ordered (v.order r.ordered c.paging d.orderBy
      (fetchOf d c r).fixed) query.rows)).mapM v.readRow = .ok rows := hread
  rw [segment_eq_self (le_refl 0) (Or.inr (by rw [hlength]; exact hall))] at hread'
  refine ⟨(mapM_eq_ok.1 hread').length_eq.symm.trans hlength, fun start length => ?_⟩
  have htotal' : v.totalQuery (fetchOf d (c.onPage start length) r) = .ok total := htotal
  have hquery' : v.pageQuery (fetchOf d (c.onPage start length) r) = .ok query := hquery
  rw [fetch_eq, htotal', hquery']
  show (bindSegment start length >>= fun _ => (segment start length _).mapM v.readRow >>= _) = _
  cases bindSegment start length with
  | error e => rfl
  | ok _ =>
      show ((segment start length (ordered (v.order r.ordered c.paging d.orderBy
        (fetchOf d c r).fixed) query.rows)).mapM v.readRow >>= _) = _
      rw [mapM_segment hread']
      rfl

/-- The answers of a staged compilation, as a grid reads them. -/
def wire (source : Source) (withExtras : Bool) (c : Request.Context) : Attempt (Entries Value) :=
  (compile source c).1.map (·.toWire withExtras)

theorem toWire_eq_append (response : PagingResponse) (withExtras : Bool) :
    response.toWire withExtras = response.toWire false ++
      if withExtras then [("meta", .map response.extras)] else [] := by
  cases withExtras <;> rfl

/-- What a staged compilation makes of a page, row by row. -/
theorem payloadWith_iff (fetched : Fetched) (payload : Entries Value) :
    Direct.payloadWith source d c r.ordered
        (fun _ => Cell.cellValue (rowStyle d source.assets r))
        ⟨fetched.total, fetched.filtered, []⟩ fetched.rows = .ok payload ↔
      (answerOf source d c r fetched).map (·.toWire false) = .ok payload := by
  refine alike_eq_iff.1 (alike_payloadWith _ rfl rfl fun s _ _ _ => ?_) payload
  exact List.forall₂_same.2 fun row _ => ⟨fun _ => rfl, fun _ _ => rfl⟩

/-- An answer of a staged compilation that shows all rows settles all pages. -/
theorem exists_pagedBy {withExtras : Bool} {length : Int} {whole : Entries Value}
    (h : wire source withExtras (c.onPage 0 length) = .ok whole) (hall : HoldsAll whole length) :
    ∃ total rows, PagedBy (wire source withExtras) c total rows ∧ (rows.length : Int) ≤ length ∧
      Numbered source c rows := by
  obtain ⟨response, hanswer, rfl⟩ := map_eq_ok.1 h
  rw [compile_fst] at hanswer
  obtain ⟨d, hd, -⟩ := bind_eq_ok.1 hanswer
  have hdescribed : ∀ start length, (c.onPage start length).describedTable = .ok d :=
    fun _ _ => hd
  rw [answer_of_described hd] at hanswer
  obtain ⟨⟨base, r⟩, hresolved, hanswer⟩ := bind_eq_ok.1 hanswer
  obtain ⟨hlinked, hcolumns⟩ := resolvedOf_eq_ok.1 hresolved
  obtain ⟨fetched, hfetched, hanswer⟩ := bind_eq_ok.1 hanswer
  have hlength : (fetched.filtered : Int) ≤ length := by
    rw [← (counts_of_answerOf hanswer).2]
    refine hall _ ?_
    rw [toWire_eq_append, Entries.get?_append]
    rfl
  obtain ⟨hcount, hfetches⟩ := fetch_onPage hfetched hlength
  obtain ⟨items, hitems, hnumbered, hpages⟩ := payloadWith_segment (fun _ _ => rfl)
    ((payloadWith_iff fetched _).2 (congrArg (Except.map (·.toWire false)) hanswer))
  have hfiltered : items.length = fetched.filtered := hitems.trans hcount
  refine ⟨fetched.total, items, fun start length hstart => ?_, hfiltered ▸ hlength, ?_⟩
  · rw [wire, compile_fst, answer_of_resolved (hdescribed start length) hlinked hcolumns, hfetches,
      hfiltered]
    cases bindSegment start length with
    | error e => trivial
    | ok _ =>
        have hpage := (payloadWith_iff { fetched with rows := segment start length fetched.rows }
          _).1 (hpages start length hstart)
        obtain ⟨page, hpage, heq⟩ := map_eq_ok.1 hpage
        show Alike _ _ ((answerOf source d (c.onPage start length) r _).map _)
        rw [hpage]
        show Tells (page.toWire withExtras) _ _ _
        rw [toWire_eq_append, heq]
        exact (tells_payload _ _ _).withExtras _
  · intro d' base' fields hd' hnumbering hbase' hfields
    obtain rfl : d = d' := descriptor_of_describedTable hd hd'
    obtain rfl : base = base' :=
      Option.some.inj ((Database.table?_of_linkedTable? hlinked).symm.trans hbase')
    unfold shownFields at hfields
    rw [hcolumns] at hfields
    rw [← Except.ok.inj hfields]
    exact hnumbered hnumbering

end Staged

/-- Whatever a request asks for: pages of one length, from the first row on until all rows are
shown, tile the answer that shows them all, in both compilations.  They tell the same counts, show
its rows one after the other, and count them up where they are numbered. -/
theorem pages_tile {source : Source} {c : Request.Context} {length : Int} (hlength : 1 ≤ length)
    (n : Nat) (bound : Int) {whole : Entries Value} {pages : List (Entries Value)}
    (hbound : HoldsAll whole bound) (hn : HoldsAll whole (n * length)) :
    (Direct.compile source (c.onPage 0 bound) = .ok whole →
      (c.pages length n).mapM (Direct.compile source) = .ok pages →
        TileWhole source c whole pages) ∧
    (∀ withExtras, Staged.wire source withExtras (c.onPage 0 bound) = .ok whole →
      (c.pages length n).mapM (Staged.wire source withExtras) = .ok pages →
        TileWhole source c whole pages) := by
  have hlong : 0 ≤ length := by omega
  -- the rows of the whole answer are as many as it tells
  have hrows : ∀ {answer : Request.Context → Attempt (Entries Value)} {total : Nat}
      {rows : List (Entries Value)}, PagedBy answer c total rows →
        answer (c.onPage 0 bound) = .ok whole → (rows.length : Int) ≤ n * length :=
    fun hpaged hwhole => hn _ (hpaged.tells (le_refl 0) hwhole).filtered
  constructor
  · intro hwhole hpages
    obtain ⟨total, rows, hpaged, hle, hnumbered⟩ := Direct.exists_pagedBy hwhole hbound
    exact hpaged.tileWhole hnumbered hlong hle (hrows hpaged hwhole) hwhole hpages
  · intro withExtras hwhole hpages
    obtain ⟨total, rows, hpaged, hle, hnumbered⟩ := Staged.exists_pagedBy hwhole hbound
    exact hpaged.tileWhole hnumbered hlong hle (hrows hpaged hwhole) hwhole hpages

section Notes

/-- Three notes, in a table without a key. -/
def notes : Table where
  name := "notes"
  columns := [⟨"note", "TEXT", false, false, none⟩]
  keys := []
  rows := ["x", "y", "z"].map fun note => [("note", .text note)]

/-- The database of the notes. -/
def notesSource : Source := ⟨⟨[notes]⟩, .none, []⟩

/-- The descriptor of the notes, which are numbered. -/
def noteColumns : TableDescriptor :=
  { staffColumns with
    name := "notes"
    columns := [⟨"note", none, false, false, true, true, false⟩]
    numbering := true }

/-- The request of the notes. -/
def notesRequest : Request.Context :=
  { staffSearched "note" "" with
    tableName := some "notes"
    descriptor := some noteColumns
    paging := .standard }

/-- The answer that shows some notes, each with its number. -/
def notesAnswer (numbered : List (Int × String)) : Entries Value :=
  [("draw", .int 0), ("recordsTotal", .int 3), ("recordsFiltered", .int 3),
    ("data", .list (numbered.map fun (i, note) =>
      .map [("number_lists", .int i), ("note", .text note), ("DT_RowIndex", .int i)]))]

/-- The answer that shows all notes. -/
def allNotes : Entries Value := notesAnswer [(1, "x"), (2, "y"), (3, "z")]

/-- The answers of the pages of two notes. -/
def notePages : List (Entries Value) :=
  [notesAnswer [(1, "x"), (2, "y")], notesAnswer [(3, "z")]]

/-- Two pages of two notes tile the answer that shows all three, in both compilations. -/
theorem pages_tile_notes :
    (1 : Int) ≤ 2 ∧ HoldsAll allNotes 3 ∧ HoldsAll allNotes ((2 : Nat) * 2) ∧
    (Direct.compile notesSource (notesRequest.onPage 0 3) = .ok allNotes ∧
      (notesRequest.pages 2 2).mapM (Direct.compile notesSource) = .ok notePages ∧
      TileWhole notesSource notesRequest allNotes notePages) ∧
    Staged.wire notesSource false (notesRequest.onPage 0 3) = .ok allNotes ∧
      (notesRequest.pages 2 2).mapM (Staged.wire notesSource false) = .ok notePages ∧
      TileWhole notesSource notesRequest allNotes notePages := by
  have hholds : ∀ length : Int, 3 ≤ length → HoldsAll allNotes length := by
    intro length hlength filtered hfiltered
    rwa [← Value.int.inj (Option.some.inj hfiltered)]
  have hbound := hholds 3 (le_refl 3)
  have hn := hholds ((2 : Nat) * 2) (by decide)
  obtain ⟨hdirect, hstaged⟩ :=
    @pages_tile notesSource notesRequest 2 (by decide) 2 3 allNotes notePages hbound hn
  exact ⟨by decide, hbound, hn, ⟨rfl, rfl, hdirect rfl rfl⟩, rfl, rfl, hstaged false rfl rfl⟩

end Notes

end AdminGrid

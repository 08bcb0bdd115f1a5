import AdminGrid.Proofs.Request.Context
import AdminGrid.Proofs.Request.HarmlessText

/-!
# Pages of requests that were let through

The guard looks at the texts in a request one by one.  What a page searches for is a text that was
looked at, or is made of a single value that cannot be harmful, unless a list or an object is
searched for: how that reads was never looked at.  So the page of a request that was let through is
harmless exactly if the lists and objects that it searches for read as harmless texts.
-/

namespace AdminGrid.Request

mutual

/-- The texts that a value holds, at any depth. -/
def textsIn : Value → List String
  | .text s => [s]
  | .list items | .tuple items => textsInItems items
  | .map entries => textsInEntries entries
  | _ => []

/-- The texts that the items of a list hold. -/
def textsInItems : List Value → List String
  | [] => []
  | v :: rest => textsIn v ++ textsInItems rest

/-- The texts that stand under the keys of a map. -/
def textsInEntries : List (String × Value) → List String
  | [] => []
  | (_, v) :: rest => textsIn v ++ textsInEntries rest

end

/-- Whether all texts in a value are harmless. -/
def IsClean (v : Value) : Prop := ∀ s ∈ textsIn v, isHarmless s = true

section Clean

theorem isClean_map_iff {entries : Params} :
    IsClean (.map entries) ↔ ∀ e ∈ entries, IsClean e.2 := by
  have htexts : ∀ entries : Params,
      textsInEntries entries = entries.flatMap fun e => textsIn e.2 := by
    intro entries
    induction entries with
    | nil => rfl
    | cons e rest ih => rw [textsInEntries, ih, List.flatMap_cons]
  unfold IsClean
  rw [textsIn, htexts]
  simp only [List.mem_flatMap, forall_exists_index, and_imp]
  exact ⟨fun h e he s hs => h s e he hs, fun h s e he hs => h e he s hs⟩

theorem isClean_items_iff {items : List Value} :
    (∀ s ∈ textsInItems items, isHarmless s = true) ↔ ∀ v ∈ items, IsClean v := by
  have htexts : ∀ items : List Value, textsInItems items = items.flatMap textsIn := by
    intro items
    induction items with
    | nil => rfl
    | cons v rest ih => rw [textsInItems, ih, List.flatMap_cons]
  rw [htexts]
  simp only [List.mem_flatMap, forall_exists_index, and_imp]
  exact ⟨fun h v hv s hs => h s v hv hs, fun h s v hv hs => h v hv s hs⟩

theorem isClean_null : IsClean .null := fun _ h => nomatch h

theorem harmless_of_checkText {path s : String} {depth : Nat}
    (h : checkText path depth s = .ok ()) : isHarmless s = true := by
  unfold checkText at h
  split at h
  · cases h
  · split at h
    · assumption
    · cases h

mutual

/-- Input that is not refused is clean. -/
theorem isClean_of_checkInput {path : String} {depth : Nat} :
    (v : Value) → checkInput path depth (.of v) = .ok () → IsClean v
  | .map entries, h => by
      rw [Input.of, checkInput] at h
      split at h
      · cases h
      · exact isClean_map_iff.2 (isClean_of_checkEntries entries h)
  | .list items, h => by
      rw [Input.of, checkInput] at h
      split at h
      · cases h
      · exact isClean_items_iff.2 (isClean_of_checkItems items h)
  | .tuple items, h => by
      rw [Input.of, checkInput] at h
      split at h
      · cases h
      · exact isClean_items_iff.2 (isClean_of_checkItems items h)
  | .text s, h => fun t ht => List.mem_singleton.1 ht ▸ harmless_of_checkText h
  | .null, _ | .bool _, _ | .int _, _ | .float _, _ | .bytes _, _ | .decimal _, _ | .date _, _
  | .moment _, _ | .clock _, _ => fun _ h => nomatch h

theorem isClean_of_checkEntries {path : String} {depth : Nat} :
    (entries : List (String × Value)) → checkEntries path depth (Input.ofEntries entries) = .ok () →
      ∀ e ∈ entries, IsClean e.2
  | [], _ => List.forall_mem_nil _
  | (key, v) :: rest, h => by
      obtain ⟨_, -, h⟩ := bind_eq_ok.1 h
      obtain ⟨_, -, h⟩ := bind_eq_ok.1 h
      obtain ⟨_, hv, hrest⟩ := bind_eq_ok.1 h
      exact List.forall_mem_cons.2
        ⟨isClean_of_checkInput v hv, isClean_of_checkEntries rest hrest⟩

theorem isClean_of_checkItems {path : String} {depth i : Nat} :
    (items : List Value) → checkItems path depth i (Input.ofItems items) = .ok () →
      ∀ v ∈ items, IsClean v
  | [], _ => List.forall_mem_nil _
  | v :: rest, h => by
      obtain ⟨_, hv, hrest⟩ := bind_eq_ok.1 h
      exact List.forall_mem_cons.2 ⟨isClean_of_checkInput v hv, isClean_of_checkItems rest hrest⟩

end

end Clean

section Reading

variable {v part : Value} {params : Params}

theorem IsClean.get? (h : IsClean (.map params)) {key : String} (hget : params.get? key = some v) :
    IsClean v :=
  isClean_map_iff.1 h _ (Entries.mem_of_get?_eq_some hget)

theorem IsClean.cellAt (h : IsClean (.map params)) (key : String) :
    IsClean (cellAt params key) := by
  unfold AdminGrid.cellAt
  cases hget : Entries.get? key params with
  | none => exact isClean_null
  | some w => exact h.get? hget

theorem IsClean.part? (h : IsClean v) {step : Step} (hpart : part? v step = some part) :
    IsClean part := by
  cases v with
  | map entries => exact h.get? hpart
  | list items | tuple items =>
      cases step with
      | name key => cases hpart
      | index i => exact isClean_items_iff.1 h part (List.mem_of_getElem? hpart)
  | bytes bs =>
      cases step with
      | name key => cases hpart
      | index i =>
          obtain ⟨b, -, rfl⟩ := Option.map_eq_some_iff.1 hpart
          exact fun _ h => nomatch h
  | _ => cases hpart

theorem IsClean.follow? (h : IsClean v) {path : List Step} (hpart : follow? v path = some part) :
    IsClean part := by
  induction path generalizing v with
  | nil => exact Option.some.inj hpart ▸ h
  | cons step rest ih =>
      obtain ⟨next, hnext, hrest⟩ := Option.bind_eq_some_iff.1 hpart
      exact ih (h.part? hnext) hrest

/-- What is looked up in clean parameters is clean. -/
theorem IsClean.lookup (h : IsClean (.map params)) (head : String) (path : List Step) :
    IsClean (lookup params head path) := by
  unfold Request.lookup
  split
  · rename_i v hget
    exact h.get? hget
  · cases hfollow : Request.follow? (.map params) (.name head :: path) with
    | none => exact isClean_null
    | some v => exact h.follow? hfollow

end Reading

section Columns

variable {params : Params} {columns : List Params}

/-- Whether all that was collected of the columns is clean. -/
def Gathered.IsClean (g : Gathered) : Prop := ∀ c ∈ g.columns, Request.IsClean (.map c.2)

theorem Gathered.IsClean.column {g : Gathered} (h : g.IsClean) (i : Nat) :
    Request.IsClean (.map (g.column i)) := by
  unfold Gathered.column
  cases hfind : g.columns.find? (·.1 == i) with
  | none => exact isClean_map_iff.2 fun _ h => nomatch h
  | some c => exact h c (List.mem_of_find?_eq_some hfind)

theorem Gathered.IsClean.setColumn {g : Gathered} (h : g.IsClean) {i : Nat} {attributes : Params}
    (hattributes : Request.IsClean (.map attributes)) : (g.setColumn i attributes).IsClean := by
  intro c hc
  unfold Gathered.setColumn at hc
  split at hc
  · obtain ⟨⟨j, old⟩, hold, rfl⟩ := List.mem_map.1 hc
    dsimp only
    split
    · exact hattributes
    · exact h _ hold
  · rcases List.mem_append.1 hc with hc | hc
    · exact h c hc
    · exact List.mem_singleton.1 hc ▸ hattributes

theorem isClean_put {entries : Params} (h : IsClean (.map entries)) (key : String) {v : Value}
    (hv : IsClean v) : IsClean (.map (entries.put key v)) :=
  isClean_map_iff.2 (Entries.forall_put (isClean_map_iff.1 h) key hv)

theorem Gathered.IsClean.set {g g' : Gathered} (h : g.IsClean) {i : Nat} {k : ColumnKey} {v : Value}
    (hv : Request.IsClean v) (hset : g.set i k v = .ok g') : g'.IsClean := by
  have hcolumn := h.column i
  unfold Gathered.set at hset
  cases hpart : k.part with
  | none =>
      rw [hpart] at hset
      cases hset
      exact h.setColumn (isClean_put hcolumn k.name hv)
  | some part =>
      simp only [hpart] at hset
      cases hparts : ((g.column i).get? k.name).getD (.map []) with
      | map parts =>
          have hold : Request.IsClean (.map parts) := by
            cases hget : (g.column i).get? k.name with
            | none =>
                rw [hget] at hparts
                cases hparts
                exact isClean_map_iff.2 fun _ h => nomatch h
            | some w =>
                rw [hget] at hparts
                exact hparts ▸ hcolumn.get? hget
          have hnext := h.setColumn (i := i)
            (isClean_put hcolumn k.name (isClean_put hold part hv))
          simp only [hparts] at hset
          split at hset
          · cases hset
            exact hnext
          · cases hset
            exact hnext
      | _ => simp [hparts] at hset

theorem isClean_gather {rest : Params} (hrest : ∀ e ∈ rest, IsClean e.2) {g : Gathered}
    (h : g.IsClean) {collected : List (Nat × Params)}
    (hgather : (gather g rest).2 = .ok collected) : ∀ c ∈ collected, IsClean (.map c.2) := by
  induction rest generalizing g with
  | nil => exact Except.ok.inj hgather ▸ h
  | cons e rest ih =>
      obtain ⟨key, v⟩ := e
      rw [List.forall_mem_cons] at hrest
      rw [gather] at hgather
      split at hgather
      · rename_i next hnext
        have hclean : next.IsClean := by
          split at hnext
          · cases hnext
            exact h
          · split at hnext
            · cases hnext
            · exact h.set hrest.1 hnext
        exact ih hrest.2 (g := { next with params := next.params ++ [(key, v)] }) hclean hgather
      · cases hgather

theorem isClean_mapsOf {values : List Value} (h : ∀ v ∈ values, IsClean v) :
    ∀ c ∈ mapsOf values, IsClean (.map c) := by
  intro c hc
  obtain ⟨v, hv, hentries⟩ := List.mem_filterMap.1 hc
  cases v with
  | map entries => exact Option.some.inj hentries ▸ h _ hv
  | _ => cases hentries

theorem isClean_of_listedColumns? (h : IsClean (.map params))
    (hlisted : listedColumns? params = some columns) : ∀ c ∈ columns, IsClean (.map c) := by
  unfold listedColumns? at hlisted
  split at hlisted
  · rename_i items hget
    cases hlisted
    exact isClean_mapsOf (isClean_items_iff.1 (h.get? hget))
  · rename_i items hget
    cases hlisted
    exact isClean_mapsOf (isClean_items_iff.1 (h.get? hget))
  · cases hlisted
    exact List.forall_mem_nil _
  · rename_i entries hget
    cases hlisted
    refine isClean_mapsOf fun v hv => ?_
    obtain ⟨e, he, rfl⟩ := List.mem_map.1 hv
    exact isClean_map_iff.1 (h.get? hget) e (List.mem_mergeSort.1 he)
  · cases hlisted

/-- What clean parameters say about columns is clean. -/
theorem isClean_of_columnEntries (h : IsClean (.map params))
    (hcolumns : columnEntries params = .ok columns) : ∀ c ∈ columns, IsClean (.map c) := by
  unfold columnEntries at hcolumns
  split at hcolumns
  · rename_i listed hlisted
    obtain rfl := Except.ok.inj hcolumns
    exact isClean_of_listedColumns? h hlisted
  · obtain ⟨collected, hgather, hsorted⟩ := bind_eq_ok.1 hcolumns
    obtain rfl := pure_eq_ok.1 hsorted
    intro c hc
    obtain ⟨e, he, rfl⟩ := List.mem_map.1 hc
    exact isClean_gather (isClean_map_iff.1 h) (fun c hc => (List.not_mem_nil hc).elim) hgather e
      (List.mem_mergeSort.1 he)

end Columns

/-- Whether all that a page searches for is harmless. -/
structure IsHarmlessPage (page : PagingRequest) : Prop where
  term : ∀ term, page.searchTerm = some term → isHarmless term = true
  columns : ∀ e ∈ page.columnSearches, isHarmless e.2 = true

/-- Whether what is searched for and is no single value, but a list or an object, reads as a
harmless text. -/
structure ContainersHarmless (params : Params) (columns : List Params) : Prop where
  term : isLeaf (searched params) = false →
    isHarmless (Text.strip (searched params).cellText) = true
  columns : ∀ e ∈ searchedColumns columns, isLeaf e.2 = false → isHarmless e.2.cellText = true

section Page

variable {params : Params} {columns : List Params}

theorem isClean_searchedColumns (h : ∀ c ∈ columns, IsClean (.map c)) :
    ∀ e ∈ searchedColumns columns, IsClean e.2 := by
  refine Entries.forall_merge (fun _ h => nomatch h) fun e he => ?_
  obtain ⟨c, hc, hsearched⟩ := List.mem_filterMap.1 he
  unfold searchedColumn? at hsearched
  dsimp only at hsearched
  split at hsearched
  · cases hsearched
  · split at hsearched
    · cases hsearched
    · cases hsearched
      have hsearch := (h c hc).cellAt "search"
      cases hcell : cellAt c "search" with
      | map parts =>
          rw [hcell] at hsearch
          exact hsearch.cellAt "value"
      | _ => exact isClean_null

theorem isHarmless_of_isClean {v : Value} (hleaf : isLeaf v = true) (h : IsClean v) :
    isHarmless v.cellText = true :=
  isHarmless_cellText hleaf fun s hs => h s (by rw [hs]; exact List.mem_singleton_self s)

theorem term_harmless_iff {v : Value} (h : IsClean v) :
    (∀ term, termOf v = some term → isHarmless term = true) ↔
      (isLeaf v = false → isHarmless (Text.strip v.cellText) = true) := by
  unfold termOf
  constructor
  · intro hall hleaf
    have hblank : v.isBlank = false := by cases v <;> first | rfl | cases hleaf
    by_cases hempty : Text.strip v.cellText = ""
    · rw [hempty]
      decide
    · exact hall _ (by simp [hblank, hempty])
  · intro hcontainer term hsome
    dsimp only at hsome
    split at hsome
    · cases hsome
    · obtain rfl := Option.some.inj hsome
      cases hleaf : isLeaf v with
      | true => exact isHarmless_strip (isHarmless_of_isClean hleaf h)
      | false => exact hcontainer hleaf

theorem searches_harmless_iff (h : ∀ c ∈ columns, IsClean (.map c)) :
    (∀ e ∈ (searchedColumns columns).map (fun e => (e.1, e.2.cellText)), isHarmless e.2 = true) ↔
      ∀ e ∈ searchedColumns columns, isLeaf e.2 = false → isHarmless e.2.cellText = true := by
  rw [List.forall_mem_map]
  refine forall₂_congr fun e he => ⟨fun hall _ => hall, fun hcontainer => ?_⟩
  cases hleaf : isLeaf e.2 with
  | true => exact isHarmless_of_isClean hleaf (isClean_searchedColumns h e he)
  | false => exact hcontainer hleaf

/-- The page of a request that was let through is harmless exactly if the lists and objects that it
searches for read as harmless texts. -/
theorem page_harmless_iff {maxLength : Option Int} {defaultLength : Int} {page : PagingRequest}
    (hchecked : checkParams (.map params) = .ok ())
    (hpage : requestedPage params maxLength defaultLength = .ok page) :
    ∃ columns, columnEntries params = .ok columns ∧
      (IsHarmlessPage page ↔ ContainersHarmless params columns) := by
  have htree : checkInput "" 0 (.of (.map params)) = .ok () := hchecked
  have hclean : IsClean (.map params) := isClean_of_checkInput _ htree
  obtain ⟨-, columns, hcolumns, rfl⟩ := requestedPage_eq_ok_iff.1 hpage
  have hterm := term_harmless_iff (hclean.lookup "search" [.name "value"])
  have hsearches := searches_harmless_iff (isClean_of_columnEntries hclean hcolumns)
  exact ⟨columns, hcolumns, fun h => ⟨hterm.1 h.term, hsearches.1 h.columns⟩,
    fun h => ⟨hterm.2 h.term, hsearches.2 h.columns⟩⟩

end Page

/-- Parameters that search for a text, and for a number in one column. -/
def namesSearched : Params :=
  [("search", .map [("value", .text " o'neil ")]),
    ("columns", .list [.map [("data", .text "id"), ("search", .map [("value", .int (-7))])]])]

/-- Parameters that search for a list with a text in it. -/
def listSearched : Params := [("search", .map [("value", .list [.text "="])])]

/-- A search for a text and a number is let through and stays harmless. -/
theorem page_harmless_iff_namesSearched : ∃ page, requestedPage namesSearched none 10 = .ok page ∧
    page.searchTerm = some "o'neil" ∧ page.columnSearches = [("id", "-7")] ∧
    IsHarmlessPage page := by
  have hchecked : checkParams (.map namesSearched) = .ok () := by rfl
  have hreadable : Readable namesSearched :=
    { direction := fun h => nomatch h
      search := rfl
      columns := (columnEntries_eq_ok_iff _).1 ⟨_, rfl⟩
      searches := by
        rintro _ ⟨⟩ c hc
        obtain rfl := List.mem_singleton.1 hc
        refine ⟨fun _ => rfl, ?_⟩
        rintro e ⟨⟩
        exact ⟨Value.isWritable_int (lt_tenTo_maxDigits (by decide)), rfl⟩ }
  have hpage : requestedPage namesSearched none 10 =
      .ok ⟨0, 10, none, .ascending, some "o'neil", 0, [("id", "-7")]⟩ :=
    requestedPage_eq_ok_iff.2 ⟨hreadable, _, rfl, rfl⟩
  obtain ⟨columns, hcolumns, hharmless⟩ := page_harmless_iff hchecked hpage
  refine ⟨_, hpage, rfl, rfl, hharmless.2 ?_⟩
  obtain rfl := Except.ok.inj hcolumns
  have hvalues : searchedColumns (mapsOf [.map [("data", .text "id"),
      ("search", .map [("value", .int (-7))])]]) = [("id", .int (-7))] := by rfl
  constructor
  · exact fun h => nomatch h
  · intro e he hleaf
    rw [hvalues, List.mem_singleton] at he
    subst he
    cases hleaf

/-- A search for a list is let through as its text is harmless, and becomes a search for a text that
is refused as such. -/
theorem not_harmless_listSearched : checkParams (.map listSearched) = .ok () ∧
    (∃ page, requestedPage listSearched none 10 = .ok page ∧ page.searchTerm = some "['=']") ∧
    isHarmless "['=']" = false ∧
    checkParams (.map [("search", .map [("value", .text "['=']")])]) =
      .error (.security .dangerous (some "search.value")) := by
  have hcolumns : columnEntries listSearched = .ok [] :=
    columnEntries_of_columnKey?_eq_none rfl (by decide)
  have hreadable : Readable listSearched := readable_of_columnEntries_eq_nil hcolumns rfl rfl
  exact ⟨rfl, ⟨_, requestedPage_eq_ok_iff.2 ⟨hreadable, _, hcolumns, rfl⟩, rfl⟩, rfl, rfl⟩

end AdminGrid.Request

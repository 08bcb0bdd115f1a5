import AdminGrid.Proofs.Request.Context
import AdminGrid.Proofs.Request.FlatColumns
import AdminGrid.Proofs.Request.HarmlessText

/-!
# Encodings of a request

A request can be given under flat keys, in any order, or in nested objects, and the lists in it as
lists or as objects keyed by the index.  All of them ask for the same page: each number, the first
order and the search are found under either kind of key, and the columns come in the order of their
indexes.  A value that cannot be read as a text is found as well, and none of them asks for a page
then.
-/

namespace AdminGrid.Request

/-- An order as a request gives it. -/
structure OrderAsk where
  column : Option Value
  direction : Option Value

/-- A column as a request gives it. -/
structure ColumnAsk where
  data : Option Value
  searchable : Option Value
  /-- The search, if there is one, and the value in it, if there is one. -/
  search : Option (Option Value)

/-- A request without its encoding.  Anything in it may be missing. -/
structure GridRequest where
  start : Option Value
  length : Option Value
  draw : Option Value
  orders : Option (List OrderAsk)
  /-- The search, if there is one, and the value in it, if there is one. -/
  search : Option (Option Value)
  columns : Option (List ColumnAsk)

/-- The entry of a key, if it is given. -/
def given (key : String) (v : Option Value) : Params := (v.map fun v => (key, v)).toList

/-- A search as an object. -/
def searchObject (v : Option Value) : Value := .map (given "value" v)

/-- An order as an object. -/
def OrderAsk.object (o : OrderAsk) : Value :=
  .map (given "column" o.column ++ given "dir" o.direction)

/-- The entries of a column as an object. -/
def ColumnAsk.entries (c : ColumnAsk) : Params :=
  given "data" c.data ++ given "searchable" c.searchable ++
    given "search" (c.search.map searchObject)

/-- A list as an object that is keyed by the index. -/
def keyed (values : List Value) : Params := values.zipIdx.map fun (v, i) => (toString i, v)

namespace GridRequest

/-- A request in nested objects, with its lists given in one way or another. -/
def objects (r : GridRequest) (encode : List Value → Value) : Params :=
  given "start" r.start ++ given "length" r.length ++ given "draw" r.draw ++
    given "order" (r.orders.map fun os => encode (os.map OrderAsk.object)) ++
    given "search" (r.search.map searchObject) ++
    given "columns" (r.columns.map fun cs => encode (cs.map fun c => .map c.entries))

/-- A request in nested lists and objects. -/
def nested (r : GridRequest) : Params := r.objects .list

end GridRequest

/-- A value that a request can give under a flat key. -/
inductive Leaf where
  | start | length | draw | search
  | orderColumn (i : Nat)
  | orderDirection (i : Nat)
  | column (i : Nat) (a : Attribute)

namespace Leaf

/-- The head of the flat key of a value. -/
def head : Leaf → String
  | start => "start"
  | length => "length"
  | draw => "draw"
  | search => "search"
  | orderColumn _ | orderDirection _ => "order"
  | column _ _ => "columns"

/-- The steps behind the head. -/
def path : Leaf → List Step
  | start | length | draw => []
  | search => [.name "value"]
  | orderColumn i => [.index i, .name "column"]
  | orderDirection i => [.index i, .name "dir"]
  | column i a => .index i :: a.path

/-- The flat key of a value. -/
def key (l : Leaf) : String := flatKey l.head l.path

/-- Whether a value is read as a text. -/
def isText : Leaf → Bool
  | search | orderDirection _ | column _ _ => true
  | start | length | draw | orderColumn _ => false

end Leaf

/-- The value that a column is given for an attribute. -/
def ColumnAsk.leaf? (c : ColumnAsk) : Attribute → Option Value
  | .data => c.data
  | .searchable => c.searchable
  | .search => c.search.join

namespace GridRequest

/-- The value that a request gives under a flat key. -/
def leaf? (r : GridRequest) : Leaf → Option Value
  | .start => r.start
  | .length => r.length
  | .draw => r.draw
  | .search => r.search.join
  | .orderColumn i => ((r.orders.getD [])[i]?).bind (·.column)
  | .orderDirection i => ((r.orders.getD [])[i]?).bind (·.direction)
  | .column i a => ((r.columns.getD [])[i]?).bind (·.leaf? a)

/-- The values that a request may give. -/
def leaves (r : GridRequest) : List Leaf :=
  [.start, .length, .draw, .search] ++
    (List.range (r.orders.getD []).length).flatMap (fun i => [.orderColumn i, .orderDirection i]) ++
    (List.range (r.columns.getD []).length).flatMap fun i =>
      [.column i .data, .column i .searchable, .column i .search]

/-- Whether the values that are read as texts are single ones that can be written out. -/
def IsWritten (r : GridRequest) : Prop :=
  ∀ l v, l.isText = true → r.leaf? l = some v → isLeaf v = true ∧ v.isWritable = true

/-- A request under flat keys. -/
def flat (r : GridRequest) : Params := r.leaves.flatMap fun l => given l.key (r.leaf? l)

end GridRequest

@[simp]
theorem get?_given (key other : String) (v : Option Value) :
    (given key v).get? other = if key = other then v else none := by
  cases v <;> simp [given, Entries.get?_cons]

theorem mem_given_iff {key : String} {v : Option Value} {e : String × Value} :
    e ∈ given key v ↔ key = e.1 ∧ v = some e.2 := by
  cases v with
  | none => simp [given]
  | some w => simp [given, Prod.ext_iff, eq_comm]

section Columns

/-- The search of a column depends on nothing but the three values. -/
theorem columnSearch?_congr {p q : Params} (hdata : p.get? "data" = q.get? "data")
    (hsearchable : p.get? "searchable" = q.get? "searchable")
    (hsearch : (cellAt p "search").get? "value" = (cellAt q "search").get? "value") :
    columnSearch? p = columnSearch? q := by
  have hcell : cellAt p "data" = cellAt q "data" := congrArg (·.getD .null) hdata
  unfold columnSearch?
  rw [hcell, hsearchable, hsearch]

theorem ColumnAsk.get?_data (c : ColumnAsk) : c.entries.get? "data" = c.leaf? .data := by
  simp [entries, leaf?, Entries.get?_append]

theorem ColumnAsk.get?_searchable (c : ColumnAsk) :
    c.entries.get? "searchable" = c.leaf? .searchable := by
  simp [entries, leaf?, Entries.get?_append]

theorem ColumnAsk.get?_value (c : ColumnAsk) :
    (cellAt c.entries "search").get? "value" = c.leaf? .search := by
  rcases hsearch : c.search with _ | _ | v <;>
    simp [hsearch, cellAt, entries, leaf?, Entries.get?_append, searchObject, Value.get?]

theorem columnSearch?_of_leaves {c : ColumnAsk} {attributes : Params}
    (h : ∀ a : Attribute, attributes.get? a.name = (c.leaf? a).map a.stored) :
    columnSearch? attributes = columnSearch? c.entries := by
  have hsearch : attributes.get? "search" = (c.leaf? .search).map fun v => .map [("value", v)] :=
    h .search
  refine columnSearch?_congr ?_ ?_ ?_
  · exact ((h .data).trans (congrFun Option.map_id _)).trans c.get?_data.symm
  · exact ((h .searchable).trans (congrFun Option.map_id _)).trans c.get?_searchable.symm
  · rw [c.get?_value, cellAt, hsearch]
    cases c.leaf? .search <;> simp [Value.get?, Entries.get?_cons]

/-- A list is gone through by its indexes. -/
theorem filterMap_range {α β : Type} (f : α → Option β) (xs : List α) :
    ((List.range xs.length).filterMap fun i => xs[i]?.bind f) = xs.filterMap f := by
  induction xs with
  | nil => rfl
  | cons x xs ih =>
      rw [List.length_cons, List.range_succ_eq_map, List.filterMap_cons, List.filterMap_map,
        List.filterMap_cons, ← ih]
      rfl

end Columns

namespace Leaf

theorem not_mem_head (l : Leaf) : '[' ∉ l.head.toList := by
  have horder : '[' ∉ "order".toList := by decide
  have hcolumns : '[' ∉ "columns".toList := by decide
  cases l with
  | start | length | draw | search => decide
  | orderColumn i | orderDirection i => exact horder
  | column i a => exact hcolumns

theorem not_mem_path (l : Leaf) : ∀ step ∈ l.path, ']' ∉ (stepText step).toList := by
  have hindex (i : Nat) : ']' ∉ (stepText (.index i)).toList := not_mem_toString (by decide)
  have hattribute (a : Attribute) : ∀ step ∈ a.path, ']' ∉ (stepText step).toList := by
    cases a <;> decide
  cases l with
  | start | length | draw | search => decide
  | orderColumn i | orderDirection i => exact List.forall_mem_cons.2 ⟨hindex i, by decide⟩
  | column i a => exact List.forall_mem_cons.2 ⟨hindex i, hattribute a⟩

/-- A flat key is that of no other value. -/
theorem key_inj {l m : Leaf} (h : l.key = m.key) : l = m := by
  obtain ⟨hhead, hpath⟩ :=
    flatKey_inj l.not_mem_head m.not_mem_head l.not_mem_path m.not_mem_path h
  cases l with
  | column i a =>
      cases m with
      | column j b =>
          obtain ⟨rfl, rfl⟩ := Attribute.key_inj h
          rfl
      | _ => simp [head] at hhead
  | orderColumn i =>
      cases m with
      | orderColumn j => rw [index_inj (List.cons.inj hpath).1]
      | orderDirection j => simp [path, stepText] at hpath
      | _ => simp [head] at hhead
  | orderDirection i =>
      cases m with
      | orderColumn j => simp [path, stepText] at hpath
      | orderDirection j => rw [index_inj (List.cons.inj hpath).1]
      | _ => simp [head] at hhead
  | _ => cases m <;> first | rfl | simp [head] at hhead

/-- The key of a list or an object is no flat key. -/
theorem key_ne (l : Leaf) {head : String} (hhead : head ∈ ["order", "search", "columns"]) :
    l.key ≠ head := by
  intro h
  have hplain : ∀ head ∈ ["order", "search", "columns"], '[' ∉ head.toList := by decide
  have hkey : l.key = flatKey head [] := by simpa [flatKey] using h
  obtain ⟨hsame, hpath⟩ :=
    flatKey_inj l.not_mem_head (hplain head hhead) l.not_mem_path (by simp) hkey
  cases l with
  | start | length | draw =>
      subst hsame
      revert hhead
      decide
  | column i a => cases a <;> cases hpath
  | _ => cases hpath

theorem columnKey?_key {l : Leaf} (h : ∀ i a, l ≠ column i a) : columnKey? l.key = none := by
  cases l with
  | start | length | draw | search => decide
  | orderColumn i | orderDirection i =>
      have horder : "order".toList = 'o' :: "rder".toList := by decide
      have hcolumns : "columns".toList = 'c' :: "olumns".toList := by decide
      refine columnKey?_of_head ?_
      rw [key, toList_flatKey, head, horder, hcolumns]
      rfl
  | column i a => exact absurd rfl (h i a)

end Leaf

namespace GridRequest

variable (r : GridRequest)

theorem mem_leaves_of_leaf? {l : Leaf} (h : (r.leaf? l).isSome = true) : l ∈ r.leaves := by
  have hlt {α : Type} {xs : List α} {i : Nat} {f : α → Option Value}
      (hi : (xs[i]?.bind f).isSome = true) : i < xs.length := by
    by_contra hge
    rw [List.getElem?_eq_none (Nat.not_lt.1 hge)] at hi
    cases hi
  unfold leaves
  cases l with
  | start | length | draw | search => simp
  | orderColumn i | orderDirection i => simpa using hlt h
  | column i a => cases a <;> simpa using hlt h

theorem mem_flat_iff {e : String × Value} :
    e ∈ r.flat ↔ ∃ l : Leaf, l.key = e.1 ∧ r.leaf? l = some e.2 := by
  unfold flat
  simp only [List.mem_flatMap, mem_given_iff]
  constructor
  · rintro ⟨l, -, hl⟩
    exact ⟨l, hl⟩
  · rintro ⟨l, hl⟩
    exact ⟨l, r.mem_leaves_of_leaf? (Option.isSome_iff_exists.2 ⟨_, hl.2⟩), hl⟩

end GridRequest

/-- Whether parameters give what a request asks for, wherever it is looked up. -/
structure GridRequest.Conveys (r : GridRequest) (params : Params) : Prop where
  start : cellAt params "start" = r.start.getD .null
  length : cellAt params "length" = r.length.getD .null
  draw : cellAt params "draw" = r.draw.getD .null
  orderColumn : lookup params "order" [.index 0, .name "column"] =
    (r.leaf? (.orderColumn 0)).getD .null
  orderDirection : lookup params "order" [.index 0, .name "dir"] =
    (r.leaf? (.orderDirection 0)).getD .null
  search : lookup params "search" [.name "value"] = r.search.join.getD .null
  columns : ∃ columns, columnEntries params = .ok columns ∧
    columns.filterMap columnSearch? =
      (r.columns.getD []).filterMap fun c => columnSearch? c.entries

section Conveys

variable {r : GridRequest} {params other : Params} (maxLength : Option Int) (defaultLength : Int)

theorem GridRequest.IsWritten.getD (h : r.IsWritten) {l : Leaf} (hl : l.isText = true) :
    ((r.leaf? l).getD .null).isWritable = true := by
  cases hv : r.leaf? l with
  | none => rfl
  | some v => exact (h l v hl hv).2

/-- The search of a column can be written out, if its values can. -/
theorem GridRequest.IsWritten.searchWritable (h : r.IsWritten) {i : Nat} {c : ColumnAsk}
    (hc : (r.columns.getD [])[i]? = some c) : SearchWritable c.entries := by
  have hleaf (a : Attribute) (v : Value) (hv : c.leaf? a = some v) : v.isWritable = true := by
    refine (h (.column i a) v rfl ?_).2
    rw [leaf?, hc]
    exact hv
  have hvalue (a : Attribute) (v : Value) (hv : v.isWritable = true) :
      ((c.leaf? a).getD v).isWritable = true := by
    cases hgiven : c.leaf? a with
    | none => exact hv
    | some w => exact hleaf a w hgiven
  constructor
  · intro _
    rw [c.get?_searchable]
    exact hvalue .searchable _ rfl
  · intro e he
    unfold searchedColumn? at he
    dsimp only at he
    split at he
    · cases he
    · split at he
      · cases he
      · obtain rfl := Option.some.inj he
        dsimp only
        rw [c.get?_value, cellAt, c.get?_data]
        exact ⟨hvalue .search _ rfl, hvalue .data _ rfl⟩

theorem GridRequest.Conveys.exists_page (h : r.Conveys params) (hwritten : r.IsWritten) :
    ∃ page, requestedPage params maxLength defaultLength = .ok page := by
  obtain ⟨columns, hcolumns, hsearches⟩ := h.columns
  have hdirection : (directed params).isWritable = true := by
    rw [directed, h.orderDirection]
    exact hwritten.getD rfl
  have hsearch : (searched params).isWritable = true := by
    rw [searched, h.search]
    exact hwritten.getD (l := .search) rfl
  have hall : ∀ search ∈ columns.filterMap columnSearch?, ∃ e, id search = .ok e := by
    rw [hsearches]
    intro search hmem
    obtain ⟨c, hc, hsome⟩ := List.mem_filterMap.1 hmem
    obtain ⟨i, hi⟩ := List.mem_iff_getElem?.1 hc
    rcases columnSearch?_cases c.entries with ⟨-, heq⟩ | ⟨hnot, -⟩
    · rw [heq] at hsome
      obtain ⟨e, -, rfl⟩ := Option.map_eq_some_iff.1 hsome
      exact ⟨_, rfl⟩
    · exact absurd (hwritten.searchWritable hi) hnot
  obtain ⟨searches, hmapM⟩ := exists_mapM_iff.2 hall
  unfold requestedPage
  simp only [bind_eq_ok, pure_eq_ok]
  exact ⟨_, _, orderDirection_eq_ok_iff.2 ⟨fun _ => hdirection, rfl⟩, _,
    searchTerm_eq_ok_iff.2 ⟨hsearch, rfl⟩, columns, hcolumns, searches, hmapM, rfl⟩

/-- Parameters that give the same ask for the same page. -/
theorem GridRequest.Conveys.requestedPage_eq (h : r.Conveys params) (h' : r.Conveys other) :
    requestedPage params maxLength defaultLength = requestedPage other maxLength defaultLength := by
  obtain ⟨columns, hcolumns, hsearches⟩ := h.columns
  obtain ⟨columns', hcolumns', hsearches'⟩ := h'.columns
  unfold requestedPage orderIndex Request.orderDirection searchTerm
  simp only [hcolumns, hcolumns', h.start, h'.start, h.length, h'.length, h.draw, h'.draw,
    h.orderColumn, h'.orderColumn, h.orderDirection, h'.orderDirection, h.search, h'.search, bind,
    Except.bind, hsearches, hsearches']

end Conveys

section Flat

variable {r : GridRequest} {params : Params} (hperm : params.Perm r.flat)

include hperm

theorem mem_of_perm_flat {e : String × Value} :
    e ∈ params ↔ ∃ l : Leaf, l.key = e.1 ∧ r.leaf? l = some e.2 :=
  hperm.mem_iff.trans r.mem_flat_iff

theorem get?_of_perm_flat (l : Leaf) : params.get? l.key = r.leaf? l := by
  cases hget : params.get? l.key with
  | some v =>
      obtain ⟨m, hkey, hm⟩ := (mem_of_perm_flat hperm).1 (Entries.mem_of_get?_eq_some hget)
      rw [← hm, Leaf.key_inj hkey]
  | none =>
      refine (Option.eq_none_iff_forall_ne_some.2 fun v hv => ?_).symm
      have hmem : (l.key, v) ∈ params := (mem_of_perm_flat hperm).2 ⟨l, rfl, hv⟩
      have hhas := (Entries.mem_keys_iff_has l.key params).1 (List.mem_map_of_mem hmem)
      rw [Entries.has, hget] at hhas
      cases hhas

theorem get?_head_of_perm_flat {head : String} (hhead : head ∈ ["order", "search", "columns"]) :
    params.get? head = none := by
  refine Option.eq_none_iff_forall_ne_some.2 fun v hv => ?_
  obtain ⟨l, hkey, -⟩ := (mem_of_perm_flat hperm).1 (Entries.mem_of_get?_eq_some hv)
  exact l.key_ne hhead hkey

theorem lookup_of_perm_flat (l : Leaf) (hhead : l.head ∈ ["order", "search", "columns"]) :
    lookup params l.head l.path = (r.leaf? l).getD .null := by
  have hkey : Entries.get? (flatKey l.head l.path) params = r.leaf? l := get?_of_perm_flat hperm l
  have hnone : part? (.map params) (.name l.head) = none := get?_head_of_perm_flat hperm hhead
  unfold lookup
  rw [hkey, follow?, hnone]
  cases r.leaf? l <;> rfl

/-- Flat keys in any order give what the request asks for. -/
theorem conveys_of_perm_flat (hcolumns : (r.columns.getD []).length ≤ tenTo Reading.maxDigits) :
    r.Conveys params where
  start := congrArg (·.getD .null) (get?_of_perm_flat hperm .start)
  length := congrArg (·.getD .null) (get?_of_perm_flat hperm .length)
  draw := congrArg (·.getD .null) (get?_of_perm_flat hperm .draw)
  orderColumn := lookup_of_perm_flat hperm (.orderColumn 0) (by simp [Leaf.head])
  orderDirection := lookup_of_perm_flat hperm (.orderDirection 0) (by simp [Leaf.head])
  search := lookup_of_perm_flat hperm .search (by simp [Leaf.head])
  columns := by
    have hlisted : listedColumns? params = none := by
      unfold listedColumns?
      rw [get?_head_of_perm_flat hperm (by simp)]
    have hkeys : ∀ e ∈ params, GivesLeaf (fun i a => r.leaf? (.column i a))
        (r.columns.getD []).length e := by
      intro e he
      obtain ⟨l, hkey, hl⟩ := (mem_of_perm_flat hperm).1 he
      cases l with
      | column i a =>
          refine Or.inr ⟨i, ?_, a, hkey, hl⟩
          by_contra hge
          rw [GridRequest.leaf?, List.getElem?_eq_none (Nat.not_lt.1 hge)] at hl
          cases hl
      | _ => exact Or.inl (hkey ▸ Leaf.columnKey?_key (by simp))
    have hgiven : ∀ i a v, r.leaf? (.column i a) = some v → (Attribute.key a i, v) ∈ params :=
      fun i a v hv => (mem_of_perm_flat hperm).2 ⟨.column i a, rfl, hv⟩
    obtain ⟨columns, hread, at_, hat, hsearches⟩ :=
      columnEntries_of_leaves hcolumns hlisted hkeys hgiven
    refine ⟨columns, hread, hsearches.trans (.trans ?_ (filterMap_range _ _))⟩
    refine List.filterMap_congr fun i hi => ?_
    have hget := List.getElem?_eq_getElem (List.mem_range.1 hi)
    rw [hget, Option.bind_some]
    refine columnSearch?_of_leaves fun a => ?_
    rw [hat, GridRequest.leaf?, hget, Option.bind_some]

end Flat

/-- Whether lists are given in a way in which their items are found by their index, and columns in
the order of their indexes. -/
structure EncodesLists (encode : List Value → Value) : Prop where
  part? : ∀ values i, part? (encode values) (.index i) = values[i]?
  listed : ∀ params values, Entries.get? "columns" params = some (encode values) →
    values.length ≤ tenTo Reading.maxDigits → listedColumns? params = some (mapsOf values)

/-- Whether lists are given as objects that are keyed by the index, the keys in any order. -/
def KeysLists (encode : List Value → Value) : Prop :=
  ∀ values, ∃ entries, entries.Perm (keyed values) ∧ encode values = .map entries

section Lists

theorem encodesLists_list : EncodesLists .list where
  part? _ _ := rfl
  listed params values h _ := by
    unfold listedColumns?
    rw [h]

theorem nodup_keys_keyed (values : List Value) : (Entries.keys (keyed values)).Nodup := by
  have hkeys : Entries.keys (keyed values) = (List.range' 0 values.length).map toString := by
    rw [← List.zipIdx_map_snd, List.map_map]
    exact List.map_map
  rw [hkeys]
  exact (List.nodup_map_iff_inj_on List.nodup_range').2 fun i _ j _ => index_inj

theorem get?_of_perm_keyed {entries : Params} {values : List Value}
    (hperm : entries.Perm (keyed values)) (i : Nat) :
    entries.get? (toString i) = values[i]? := by
  have hkeys : entries.keys.Nodup := (hperm.map _).nodup_iff.2 (nodup_keys_keyed values)
  refine Option.ext fun v => ?_
  rw [Entries.get?_eq_some_iff_mem hkeys, hperm.mem_iff, keyed, List.mem_map]
  constructor
  · rintro ⟨⟨w, j⟩, hmem, hkey⟩
    obtain ⟨hindex, rfl⟩ := Prod.mk.inj hkey
    exact index_inj hindex ▸ List.mem_zipIdx_iff_getElem?.1 hmem
  · exact fun h => ⟨(v, i), List.mem_zipIdx_iff_getElem?.2 h, rfl⟩

/-- Sorted by their keys, the entries are in the order of their indexes. -/
theorem mergeSort_of_perm_keyed {entries : Params} {values : List Value}
    (hperm : entries.Perm (keyed values)) (hlength : values.length ≤ tenTo Reading.maxDigits) :
    (entries.mergeSort fun a b => toInt (.text a.1) 0 ≤ toInt (.text b.1) 0) = keyed values := by
  have hindex : ∀ p ∈ values.zipIdx, toInt (.text (toString p.2)) 0 = p.2 := fun p hp => by
    have hlt : p.2 < values.length :=
      (List.getElem?_eq_some_iff.1 (List.mem_zipIdx_iff_getElem?.1 hp)).1
    exact toInt_index (Nat.lt_of_lt_of_le hlt hlength) 0
  have hsorted := @List.pairwise_mergeSort _
    (fun a b : String × Value => decide (toInt (.text a.1) 0 ≤ toInt (.text b.1) 0))
    (fun a b c => by simpa using Int.le_trans) (fun a b => by simpa using Int.le_total _ _) entries
  have hkeyed : (keyed values).Pairwise fun a b => toInt (.text a.1) 0 ≤ toInt (.text b.1) 0 := by
    rw [keyed, List.pairwise_map]
    have hrange : (values.zipIdx.map Prod.snd).Pairwise (· < ·) := by
      rw [List.zipIdx_map_snd]
      exact List.pairwise_lt_range'
    refine (List.pairwise_map.1 hrange).imp_of_mem fun {p q} hp hq hlt => ?_
    rw [hindex p hp, hindex q hq]
    exact Int.ofNat_le.2 (Nat.le_of_lt hlt)
  refine List.Perm.eq_of_pairwise ?_ (hsorted.imp of_decide_eq_true) hkeyed
    ((List.mergeSort_perm entries _).trans hperm)
  -- two entries of the same index are the same
  intro a b ha hb hab hba
  rw [List.mem_mergeSort, hperm.mem_iff] at ha
  obtain ⟨p, hp, rfl⟩ := List.mem_map.1 ha
  obtain ⟨q, hq, rfl⟩ := List.mem_map.1 hb
  rw [hindex p hp, hindex q hq] at hab hba
  have hsame : p.2 = q.2 := Int.ofNat_inj.1 (Int.le_antisymm hab hba)
  have hvalue : some p.1 = some q.1 := by
    rw [← List.mem_zipIdx_iff_getElem?.1 hp, ← List.mem_zipIdx_iff_getElem?.1 hq, hsame]
  obtain rfl : p = q := Prod.ext (Option.some.inj hvalue) hsame
  rfl

theorem KeysLists.encodesLists {encode : List Value → Value} (h : KeysLists encode) :
    EncodesLists encode where
  part? values i := by
    obtain ⟨entries, hperm, hencode⟩ := h values
    rw [hencode]
    exact get?_of_perm_keyed hperm i
  listed params values hget hlength := by
    obtain ⟨entries, hperm, hencode⟩ := h values
    have hvalues : (keyed values).map (·.2) = values := by
      rw [keyed, List.map_map]
      exact List.zipIdx_map_fst 0 values
    unfold listedColumns?
    rw [hget, hencode]
    dsimp only
    rw [mergeSort_of_perm_keyed hperm hlength, hvalues]

end Lists

section Objects

variable (r : GridRequest) (encode : List Value → Value)

theorem get?_order_objects : (r.objects encode).get? "order" =
    r.orders.map fun os => encode (os.map OrderAsk.object) := by
  simp [GridRequest.objects, Entries.get?_append]

theorem get?_search_objects : (r.objects encode).get? "search" = r.search.map searchObject := by
  simp [GridRequest.objects, Entries.get?_append]

theorem get?_columns_objects : (r.objects encode).get? "columns" =
    r.columns.map fun cs => encode (cs.map fun c => .map c.entries) := by
  simp [GridRequest.objects, Entries.get?_append]

/-- The keys of nested objects. -/
def objectKeys : List String := ["start", "length", "draw", "order", "search", "columns"]

theorem mem_objectKeys {e : String × Value} (h : e ∈ r.objects encode) : e.1 ∈ objectKeys := by
  simp only [GridRequest.objects, List.mem_append, mem_given_iff] at h
  rcases h with ((((h | h) | h) | h) | h) | h <;> rw [← h.1] <;> decide

theorem get?_objects_eq_none {key : String} (h : key ∉ objectKeys) :
    (r.objects encode).get? key = none := by
  refine Option.eq_none_iff_forall_ne_some.2 fun v hv => ?_
  exact h (mem_objectKeys r encode (Entries.mem_of_get?_eq_some hv))

/-- A part of an object that stands under its head is found by the steps behind the head. -/
theorem lookup_objects {head : String} {path : List Step}
    (h : flatKey head path ∉ objectKeys) :
    lookup (r.objects encode) head path =
      (((r.objects encode).get? head).bind (follow? · path)).getD .null := by
  unfold lookup
  rw [get?_objects_eq_none r encode h]
  rfl

variable {encode} (hencode : EncodesLists encode)

include hencode

/-- The first order is found in the list of all. -/
theorem lookup_order_objects {name : String} {f : OrderAsk → Option Value}
    (hkey : flatKey "order" [.index 0, .name name] ∉ objectKeys)
    (hpart : ∀ o : OrderAsk, part? o.object (.name name) = f o) :
    lookup (r.objects encode) "order" [.index 0, .name name] =
      (((r.orders.getD [])[0]?).bind f).getD .null := by
  rw [lookup_objects r encode hkey, get?_order_objects]
  cases r.orders with
  | none => rfl
  | some os =>
      rw [Option.map_some, Option.bind_some, follow?, hencode.part?, List.getElem?_map,
        Option.getD_some]
      cases os[0]? with
      | none => rfl
      | some o =>
          rw [Option.map_some, Option.bind_some, Option.bind_some, follow?, hpart]
          cases f o <;> rfl

/-- The columns of nested objects are read in their order. -/
theorem columnEntries_objects (hcolumns : (r.columns.getD []).length ≤ tenTo Reading.maxDigits) :
    ∃ columns, columnEntries (r.objects encode) = .ok columns ∧
      columns.filterMap columnSearch? =
        (r.columns.getD []).filterMap fun c => columnSearch? c.entries := by
  have hget := get?_columns_objects r encode
  cases hgiven : r.columns with
  | none =>
      have hlisted : listedColumns? (r.objects encode) = none := by
        unfold listedColumns?
        rw [hget, hgiven]
        rfl
      have hkeys : ∀ e ∈ r.objects encode, GivesLeaf (fun _ _ => none) 0 e := fun e he =>
        have hnone : ∀ key ∈ objectKeys, columnKey? key = none := by decide
        Or.inl (hnone e.1 (mem_objectKeys r encode he))
      obtain ⟨columns, hread, at_, -, hsearches⟩ :=
        columnEntries_of_leaves (Nat.zero_le _) hlisted hkeys fun _ _ _ h => nomatch h
      exact ⟨columns, hread, hsearches⟩
  | some cs =>
      rw [hgiven, Option.map_some] at hget
      have hlisted := hencode.listed _ _ hget (by simpa [hgiven] using hcolumns)
      refine ⟨cs.map ColumnAsk.entries, ?_, by rw [List.filterMap_map]; rfl⟩
      unfold columnEntries
      rw [hlisted, mapsOf, List.filterMap_map]
      exact congrArg Except.ok (List.filterMap_eq_map_iff_forall_eq_some.2 fun c _ => rfl)

/-- Nested objects give what the request asks for. -/
theorem conveys_objects (hcolumns : (r.columns.getD []).length ≤ tenTo Reading.maxDigits) :
    r.Conveys (r.objects encode) where
  start := by simp [cellAt, GridRequest.objects, Entries.get?_append]
  length := by simp [cellAt, GridRequest.objects, Entries.get?_append]
  draw := by simp [cellAt, GridRequest.objects, Entries.get?_append]
  orderColumn := lookup_order_objects r hencode (by decide) fun o => by
    simp [OrderAsk.object, part?, stepText, Entries.get?_append]
  orderDirection := lookup_order_objects r hencode (by decide) fun o => by
    simp [OrderAsk.object, part?, stepText, Entries.get?_append]
  search := by
    rw [lookup_objects r encode (by decide), get?_search_objects]
    rcases r.search with _ | _ | v <;> rfl
  columns := columnEntries_objects r hencode hcolumns

end Objects

/-- Flat keys in any order, nested lists and objects, and objects keyed by the index ask alike, and
for a page if what is read as a text can be written out.  The bound on the columns is that of the
indexes that can be read, `10 ^ 4300`, and beyond the length of any list in a memory. -/
theorem encodings_ask_alike (r : GridRequest)
    (hcolumns : (r.columns.getD []).length ≤ tenTo Reading.maxDigits) (maxLength : Option Int)
    (defaultLength : Int) {flat : Params} (hflat : flat.Perm r.flat)
    {encode : List Value → Value} (hencode : KeysLists encode) :
    (requestedPage flat maxLength defaultLength = requestedPage r.nested maxLength defaultLength ∧
      requestedPage (r.objects encode) maxLength defaultLength =
        requestedPage r.nested maxLength defaultLength) ∧
    (r.IsWritten → ∃ page, requestedPage flat maxLength defaultLength = .ok page ∧
      requestedPage r.nested maxLength defaultLength = .ok page ∧
      requestedPage (r.objects encode) maxLength defaultLength = .ok page) := by
  have hnested : r.Conveys r.nested := conveys_objects r encodesLists_list hcolumns
  have hkeyed := conveys_objects r hencode.encodesLists hcolumns
  have hflat_eq := (conveys_of_perm_flat hflat hcolumns).requestedPage_eq maxLength defaultLength
    hnested
  have hkeyed_eq := hkeyed.requestedPage_eq maxLength defaultLength hnested
  refine ⟨⟨hflat_eq, hkeyed_eq⟩, fun hwritten => ?_⟩
  obtain ⟨page, hpage⟩ := hnested.exists_page maxLength defaultLength hwritten
  exact ⟨page, hflat_eq.trans hpage, hpage, hkeyed_eq.trans hpage⟩

/-- A request for the notes with a b among two columns, the second one ordered by. -/
def notesAsked : GridRequest where
  start := some (.text "20")
  length := some (.text "-1")
  draw := some (.int 3)
  orders := some [⟨some (.text "1"), some (.text "DESC")⟩]
  search := some none
  columns := some [⟨some (.text "id"), some (.text "true"), some none⟩,
    ⟨some (.text "note"), none, some (some (.text "b"))⟩]

theorem isWritten_notesAsked : notesAsked.IsWritten := by
  intro l v htext hv
  suffices ∃ s, v = .text s by
    obtain ⟨s, rfl⟩ := this
    exact ⟨rfl, rfl⟩
  cases l with
  | start | length | draw | orderColumn i => cases htext
  | search => cases hv
  | orderDirection i =>
      rcases i with _ | i
      · exact ⟨_, (Option.some.inj hv).symm⟩
      · cases hv
  | column i a =>
      rcases i with _ | _ | i
      · cases a with
        | search => cases hv
        | _ => exact ⟨_, (Option.some.inj hv).symm⟩
      · cases a with
        | searchable => cases hv
        | _ => exact ⟨_, (Option.some.inj hv).symm⟩
      · cases hv

/-- The notes are asked for by flat keys and by keyed objects, with all keys in reverse, as by
nested lists. -/
theorem encodings_ask_alike_notesAsked : ∃ page,
    requestedPage notesAsked.flat.reverse (some 100) 10 = .ok page ∧
      requestedPage (notesAsked.objects fun values => .map (keyed values).reverse) (some 100) 10 =
        .ok page ∧
      page = ⟨20, 100, some 1, .descending, none, 3, [("note", "b")]⟩ := by
  have hcolumns : (notesAsked.columns.getD []).length ≤ tenTo Reading.maxDigits :=
    Nat.le_trans (by decide : 2 ≤ tenTo 1) (tenTo_le (by decide))
  have hkeys : KeysLists fun values => .map (keyed values).reverse := fun values =>
    ⟨(keyed values).reverse, List.reverse_perm _, rfl⟩
  obtain ⟨page, hflat, hnested, hkeyed⟩ := (encodings_ask_alike notesAsked hcolumns (some 100) 10
    (List.reverse_perm _) hkeys).2 isWritten_notesAsked
  have hpage : requestedPage notesAsked.nested (some 100) 10 =
      .ok ⟨20, 100, some 1, .descending, none, 3, [("note", "b")]⟩ := by rfl
  rw [hpage] at hnested
  exact ⟨page, hflat, hkeyed, (Except.ok.inj hnested).symm⟩

end AdminGrid.Request

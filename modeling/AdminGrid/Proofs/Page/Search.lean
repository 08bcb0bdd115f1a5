import AdminGrid.Proofs.Page.Order
import AdminGrid.Proofs.Store.Wildcard

/-!
# Filters and searches for texts

Both compilations put the text of a filter or of a search between percent signs and look for it as a
pattern.  No character of the text is kept from being read as a wildcard, so a row passes where the
text stands for a part of what the column holds, and it is looked for literally exactly if it holds
no wildcard.  A search for a term passes if it is found in one of the searched columns, and also
where there is nothing to search for, or no column to search.
-/

namespace AdminGrid

open Store

/-- Where an operator on texts looks for its value. -/
def FilterOperator.span? : FilterOperator → Option Span
  | .contains => some ⟨true, true⟩
  | .startsWith => some ⟨false, true⟩
  | .endsWith => some ⟨true, false⟩
  | _ => none

theorem FilterOperator.span?_eq_some_iff {op : FilterOperator} {span : Span} :
    op.span? = some span ↔ (op = .contains ∧ span = ⟨true, true⟩) ∨
      (op = .startsWith ∧ span = ⟨false, true⟩) ∨ (op = .endsWith ∧ span = ⟨true, false⟩) := by
  cases op <;> simp [FilterOperator.span?, eq_comm]

/-- Whether the text of a cell is found by a text that is looked for. -/
def Store.JoinedRow.Shows (row : JoinedRow) (span : Span) (c : ColumnRef) (s : String) : Prop :=
  ∃ t, (row.cell c).text? = some t ∧ span.Finds s t

/-- Whether conditions are all true of a row, once they are bound. -/
def Store.AllTrue (conditions : List (Condition Value)) (row : JoinedRow) : Prop :=
  ∃ bound, conditions.mapM (Condition.traverse Store.bind) = .ok bound ∧
    ∀ q ∈ bound, q.truth row = some true

/-- Whether the conditions of a statement are made, and all true of a row, once they are bound. -/
def Direct.Passes (conditions : Attempt (List (Condition Value))) (row : JoinedRow) : Prop :=
  ∃ made, conditions = .ok made ∧ AllTrue made row

/-- Whether the conditions of a statement are made, and all true of a row, once they are written and
bound. -/
def Staged.Passes (conditions : Attempt (List (Condition Parameter))) (row : JoinedRow) : Prop :=
  ∃ made written, conditions = .ok made ∧
    made.mapM (Condition.traverse Parameter.write) = .ok written ∧ AllTrue written row

section Conditions

variable {α β : Type}

/-- The conditions of the searches of a request: the term in one of some columns, and a text in
every column that is searched on its own. -/
def searchesOf (α : Type) (searched : List ColumnRef) (column? : String → Option ColumnRef)
    (request : PagingRequest) : List (Condition α) :=
  (match request.searchTerm with
    | none => []
    | some term =>
        if term = "" then []
        else (Condition.any? (searched.map (.likeLower · ("%" ++ term ++ "%")))).toList) ++
    request.columnSearches.filterMap fun e =>
      (column? e.1).map (.likeLower · ("%" ++ e.2 ++ "%"))

theorem traverse_foldl_either {f : α → Attempt β} {q : Condition α} {q' : Condition β}
    (hq : q.traverse f = .ok q') (columns : List ColumnRef) (pattern : String) :
    ((columns.map (.likeLower · pattern)).foldl .either q).traverse f =
      .ok ((columns.map (.likeLower · pattern)).foldl .either q') := by
  induction columns generalizing q q' with
  | nil => exact hq
  | cons c rest ih =>
      refine @ih (.either q (.likeLower c pattern)) (.either q' (.likeLower c pattern)) ?_
      rw [Condition.traverse, hq]
      rfl

theorem mapM_traverse_any? (f : α → Attempt β) (columns : List ColumnRef) (pattern : String) :
    (Condition.any? (columns.map (.likeLower · pattern))).toList.mapM (Condition.traverse f) =
      .ok (Condition.any? (columns.map (.likeLower · pattern))).toList := by
  cases columns with
  | nil => rfl
  | cons c rest =>
      refine mapM_eq_ok.2 (.cons (traverse_foldl_either ?_ rest pattern) .nil)
      rfl

/-- Searches hold no values, so that they stay as they are when values are written or bound. -/
theorem mapM_traverse_searchesOf (f : α → Attempt β) (searched : List ColumnRef)
    (column? : String → Option ColumnRef) (request : PagingRequest) :
    (searchesOf α searched column? request).mapM (Condition.traverse f) =
      .ok (searchesOf β searched column? request) := by
  refine mapM_append_eq_ok.2 ⟨_, _, ?_, ?_, rfl⟩
  · cases request.searchTerm with
    | none => rfl
    | some term =>
        by_cases hempty : term = ""
        · simp only [if_pos hempty]
          rfl
        · simp only [if_neg hempty]
          exact mapM_traverse_any? f searched _
  · rw [mapM_eq_ok]
    induction request.columnSearches with
    | nil => exact .nil
    | cons e rest ih =>
        cases hcolumn : column? e.1 with
        | none =>
            rw [List.filterMap_cons_none (by rw [hcolumn]; rfl),
              List.filterMap_cons_none (by rw [hcolumn]; rfl)]
            exact ih
        | some c =>
            rw [List.filterMap_cons_some (by rw [hcolumn]; rfl),
              List.filterMap_cons_some (by rw [hcolumn]; rfl)]
            exact .cons rfl ih

theorem or3_eq_some_true {a b : Option Bool} :
    Condition.or3 a b = some true ↔ a = some true ∨ b = some true := by
  rcases a with _ | _ | _ <;> rcases b with _ | _ | _ <;> decide

theorem truth_foldl_either {row : JoinedRow} {qs : List (Condition Stored)} {q : Condition Stored} :
    (qs.foldl .either q).truth row = some true ↔
      q.truth row = some true ∨ ∃ r ∈ qs, r.truth row = some true := by
  induction qs generalizing q with
  | nil => simp
  | cons r rest ih =>
      rw [List.foldl_cons, ih, Condition.truth, or3_eq_some_true, or_assoc]
      simp

theorem forall_mem_any?_iff {row : JoinedRow} {qs : List (Condition Stored)} :
    (∀ q ∈ (Condition.any? qs).toList, q.truth row = some true) ↔
      (qs ≠ [] → ∃ q ∈ qs, q.truth row = some true) := by
  cases qs with
  | nil => simp [Condition.any?]
  | cons q rest =>
      simp only [Condition.any?, Option.toList_some, List.mem_singleton, forall_eq,
        truth_foldl_either]
      simp

end Conditions

section Truth

variable {row : JoinedRow} {c : ColumnRef} {s : String}

theorem truth_like_iff (span : Span) (hs : '\x00' ∉ s.toList) :
    Condition.truth row (.like c (span.pattern s)) = some true ↔ row.Shows span c s := by
  rw [Condition.truth, Option.map_eq_some_iff]
  exact exists_congr fun t => and_congr_right fun _ => span.like_pattern_iff hs t

theorem truth_likeLower_iff (hs : '\x00' ∉ s.toList) :
    Condition.truth row (.likeLower c ("%" ++ s ++ "%")) = some true ↔
      row.Shows ⟨true, true⟩ c s := by
  rw [Condition.truth, Option.map_eq_some_iff]
  refine exists_congr fun t => and_congr_right fun _ => ?_
  rw [like_lowerAscii]
  exact Span.like_pattern_iff ⟨true, true⟩ hs t

end Truth

/-- The texts that a request searches for. -/
def PagingRequest.searchTexts (request : PagingRequest) : List String :=
  request.searchTerm.toList ++ request.columnSearches.map (·.2)

/-- Whether a row is found by the searches of a request. -/
structure FoundBy (request : PagingRequest) (searched : List ColumnRef)
    (column? : String → Option ColumnRef) (row : JoinedRow) : Prop where
  /-- The term is found in one of the searched columns; no term, an empty one and no column at all
  find every row. -/
  term : ∀ s ∈ request.searchTerm, s ≠ "" → searched ≠ [] →
    ∃ c ∈ searched, row.Shows ⟨true, true⟩ c s
  /-- The text of every column that is searched on its own is found in it. -/
  columns : ∀ e ∈ request.columnSearches, ∀ c ∈ column? e.1, row.Shows ⟨true, true⟩ c e.2

theorem forall_mem_searchesOf_iff {request : PagingRequest} {searched : List ColumnRef}
    {column? : String → Option ColumnRef} {row : JoinedRow}
    (hnull : ∀ s ∈ request.searchTexts, '\x00' ∉ s.toList) :
    (∀ q ∈ searchesOf Stored searched column? request, q.truth row = some true) ↔
      FoundBy request searched column? row := by
  have hterm : ∀ s ∈ request.searchTerm, '\x00' ∉ s.toList := fun s hs =>
    hnull s (List.mem_append_left _ (Option.mem_toList.2 hs))
  have hcolumns : ∀ e ∈ request.columnSearches, '\x00' ∉ e.2.toList := fun e he =>
    hnull e.2 (List.mem_append_right _ (List.mem_map_of_mem he))
  rw [searchesOf, List.forall_mem_append]
  constructor
  · rintro ⟨hfound, hall⟩
    refine ⟨fun s hs hempty hsearched => ?_, fun e he c hc => ?_⟩
    · rw [Option.mem_def.1 hs] at hfound
      simp only [if_neg hempty] at hfound
      obtain ⟨q, hq, htrue⟩ := forall_mem_any?_iff.1 hfound (by simpa using hsearched)
      obtain ⟨c, hc, rfl⟩ := List.mem_map.1 hq
      exact ⟨c, hc, (truth_likeLower_iff (hterm s hs)).1 htrue⟩
    · refine (truth_likeLower_iff (hcolumns e he)).1 (hall _ (List.mem_filterMap.2 ⟨e, he, ?_⟩))
      rw [Option.mem_def.1 hc, Option.map_some]
  · intro h
    constructor
    · cases hs : request.searchTerm with
      | none => exact List.forall_mem_nil _
      | some s =>
          by_cases hempty : s = ""
          · simp only [if_pos hempty]
            exact List.forall_mem_nil _
          · simp only [if_neg hempty]
            refine forall_mem_any?_iff.2 fun hsearched => ?_
            obtain ⟨c, hc, hshows⟩ := h.term s hs hempty (by simpa using hsearched)
            exact ⟨_, List.mem_map_of_mem hc, (truth_likeLower_iff (hterm s hs)).2 hshows⟩
    · intro q hq
      obtain ⟨e, he, hq⟩ := List.mem_filterMap.1 hq
      obtain ⟨c, hc, rfl⟩ := Option.map_eq_some_iff.1 hq
      exact (truth_likeLower_iff (hcolumns e he)).2 (h.columns e he c hc)

namespace Direct

/-- The columns that a single pass searches for a term. -/
def Plan.searched (p : Plan) (d : TableDescriptor) : List ColumnRef :=
  (p.fields.filter fun f => !(excluded d p.shown (·.searchable)).contains f).filterMap
    p.columns.get?

theorem searchConditions_eq_searchesOf (p : Plan) (d : TableDescriptor)
    (request : PagingRequest) : p.searchConditions d request =
      searchesOf Value (p.searched d) p.columns.get? request := by
  unfold Plan.searchConditions Plan.termConditions searchesOf
  cases request.searchTerm <;> rfl

theorem passes_searches_iff {p : Plan} {d : TableDescriptor} {request : PagingRequest}
    (hnull : ∀ s ∈ request.searchTexts, '\x00' ∉ s.toList) {row : JoinedRow} :
    Passes (.ok (p.searchConditions d request)) row ↔
      FoundBy request (p.searched d) p.columns.get? row := by
  rw [← forall_mem_searchesOf_iff hnull, searchConditions_eq_searchesOf]
  constructor
  · rintro ⟨made, hmade, bound, hbound, htrue⟩
    rw [← Except.ok.inj hmade, mapM_traverse_searchesOf] at hbound
    rwa [Except.ok.inj hbound]
  · exact fun htrue => ⟨_, rfl, _, mapM_traverse_searchesOf _ _ _ _, htrue⟩

/-- The condition that a filter on a text makes. -/
theorem filterClauses_of_span? {op : FilterOperator} {span : Span} (hop : op.span? = some span)
    (c : ColumnRef) (s : String) :
    filterClauses c op (.text s) = .ok [.like c (span.pattern s)] := by
  rcases FilterOperator.span?_eq_some_iff.1 hop with ⟨rfl, rfl⟩ | ⟨rfl, rfl⟩ | ⟨rfl, rfl⟩ <;>
    simp [filterClauses, Value.written, Value.isWritable, Value.cellText, Span.pattern]

theorem passes_filter_iff {p : Plan} {field s : String} {c : ColumnRef} {op : FilterOperator}
    {span : Span} (hs : '\x00' ∉ s.toList) (hop : op.span? = some span)
    (hc : p.columns.get? field = some c) {row : JoinedRow} :
    Passes (p.filterConditions [⟨field, op, .text s⟩]) row ↔ row.Shows span c s := by
  have hconditions : p.filterConditions [⟨field, op, .text s⟩] =
      .ok [.like c (span.pattern s)] := by
    rw [Plan.filterConditions_cons, Plan.conditionsOf, hc]
    simp only [filterClauses_of_span? hop c s]
    rfl
  rw [← truth_like_iff span hs, hconditions]
  constructor
  · rintro ⟨made, hmade, bound, hbound, htrue⟩
    obtain rfl : [.like c (span.pattern s)] = made := Except.ok.inj hmade
    obtain rfl : [.like c (span.pattern s)] = bound := Except.ok.inj hbound
    exact htrue _ (List.mem_singleton_self _)
  · exact fun htrue => ⟨_, rfl, _, rfl, List.forall_mem_singleton.2 htrue⟩

end Direct

namespace Staged

/-- The columns that a staged compilation searches for a term. -/
def View.searched (v : View) (ordered hidden : List String) : List ColumnRef :=
  ((ordered.filter fun f => !hidden.contains f).filterMap v.column?).map (·.ref)

theorem searchConditions_eq_searchesOf (v : View) (ordered hidden : List String)
    (request : PagingRequest) : v.searchConditions ordered request hidden =
      searchesOf Parameter (v.searched ordered hidden) (fun field => (v.column? field).map (·.ref))
        request := by
  unfold View.searchConditions searchesOf View.searched
  dsimp only
  refine congrArg₂ (· ++ ·) ?_ ?_
  · cases request.searchTerm with
    | none => rfl
    | some term =>
        dsimp only
        rw [List.map_map]
        rfl
  · refine congrArg (List.filterMap · request.columnSearches) (funext fun e => ?_)
    rw [Option.map_map]
    rfl

theorem passes_searches_iff {v : View} {ordered hidden : List String} {request : PagingRequest}
    (hnull : ∀ s ∈ request.searchTexts, '\x00' ∉ s.toList) {row : JoinedRow} :
    Passes (.ok (v.searchConditions ordered request hidden)) row ↔
      FoundBy request (v.searched ordered hidden) (fun field => (v.column? field).map (·.ref))
        row := by
  rw [← forall_mem_searchesOf_iff hnull, searchConditions_eq_searchesOf]
  constructor
  · rintro ⟨made, written, hmade, hwritten, bound, hbound, htrue⟩
    rw [← Except.ok.inj hmade, mapM_traverse_searchesOf] at hwritten
    rw [← Except.ok.inj hwritten, mapM_traverse_searchesOf] at hbound
    rwa [Except.ok.inj hbound]
  · exact fun htrue => ⟨_, _, rfl, mapM_traverse_searchesOf _ _ _ _, _,
      mapM_traverse_searchesOf _ _ _ _, htrue⟩

/-- The condition that a filter on a text makes. -/
theorem filterClauses_of_span? {op : FilterOperator} {span : Span} (hop : op.span? = some span)
    (c : TypedColumn) (s : String) :
    filterClauses c op (.text s) = .ok [.like c.ref (span.pattern s)] := by
  rcases FilterOperator.span?_eq_some_iff.1 hop with ⟨rfl, rfl⟩ | ⟨rfl, rfl⟩ | ⟨rfl, rfl⟩ <;>
    simp [filterClauses, Value.written, Value.isWritable, Value.cellText, Span.pattern]

theorem passes_filter_iff {v : View} {field s : String} {c : TypedColumn} {op : FilterOperator}
    {span : Span} (hs : '\x00' ∉ s.toList) (hop : op.span? = some span)
    (hc : v.column? field = some c) {row : JoinedRow} :
    Passes (v.filterConditions [⟨field, op, .text s⟩]) row ↔ row.Shows span c.ref s := by
  have hconditions : v.filterConditions [⟨field, op, .text s⟩] =
      .ok [.like c.ref (span.pattern s)] := by
    rw [View.filterConditions, hc, View.filterConditions]
    simp only [filterClauses_of_span? hop c s]
    rfl
  rw [← truth_like_iff span hs, hconditions]
  constructor
  · rintro ⟨made, written, hmade, hwritten, bound, hbound, htrue⟩
    obtain rfl : [.like c.ref (span.pattern s)] = made := Except.ok.inj hmade
    obtain rfl : [.like c.ref (span.pattern s)] = written := Except.ok.inj hwritten
    obtain rfl : [.like c.ref (span.pattern s)] = bound := Except.ok.inj hbound
    exact htrue _ (List.mem_singleton_self _)
  · exact fun htrue => ⟨_, _, rfl, rfl, _, rfl, List.forall_mem_singleton.2 htrue⟩

end Staged

/-- A filter for a text passes the rows in whose column the text stands for a part, in both
compilations, and so do the searches of a request.  The text is looked for literally exactly if it
holds no wildcard. -/
theorem filters_and_searches_find_patterns {s : String} (hs : '\x00' ∉ s.toList)
    {request : PagingRequest} (hnull : ∀ t ∈ request.searchTexts, '\x00' ∉ t.toList) :
    (∀ (op : FilterOperator) (span : Span), op.span? = some span → ∀ (row : JoinedRow)
      (field : String),
        (∀ (p : Direct.Plan) (c : ColumnRef), p.columns.get? field = some c →
          (Direct.Passes (p.filterConditions [⟨field, op, .text s⟩]) row ↔ row.Shows span c s)) ∧
        (∀ (v : Staged.View) (c : Staged.TypedColumn), v.column? field = some c →
          (Staged.Passes (v.filterConditions [⟨field, op, .text s⟩]) row ↔
            row.Shows span c.ref s))) ∧
    (∀ row : JoinedRow,
      (∀ (p : Direct.Plan) (d : TableDescriptor),
        Direct.Passes (.ok (p.searchConditions d request)) row ↔
          FoundBy request (p.searched d) p.columns.get? row) ∧
      (∀ (v : Staged.View) (ordered hidden : List String),
        Staged.Passes (.ok (v.searchConditions ordered request hidden)) row ↔
          FoundBy request (v.searched ordered hidden) (fun field => (v.column? field).map (·.ref))
            row)) ∧
    (∀ span : Span, (∀ t : String, '\x00' ∉ t.toList → (span.Finds s t ↔ span.Holds s t)) ↔
      ∀ c ∈ s.toList, isWildcard c = false) := by
  refine ⟨fun op span hop row field => ⟨fun p c hc => ?_, fun v c hc => ?_⟩,
    fun row => ⟨fun p d => ?_, fun v ordered hidden => ?_⟩, fun span => ?_⟩
  · exact Direct.passes_filter_iff hs hop hc
  · exact Staged.passes_filter_iff hs hop hc
  · exact Direct.passes_searches_iff hnull
  · exact Staged.passes_searches_iff hnull
  · exact span.forall_finds_iff_holds_iff hs

section Codes

/-- The code `b` with its note. -/
def codeB : JoinedRow := ⟨[("code", .text "b"), ("note", .text "x")], []⟩

/-- A request that searches for a term, and for a text among the notes. -/
def codesSought (term text : String) : PagingRequest :=
  ⟨0, 10, none, .ascending, some term, 0, [("note", text)]⟩

theorem shows_codeB {p : Char} (hp : Means p ['x']) :
    codeB.Shows ⟨true, true⟩ ⟨none, "note", .text⟩ (String.ofList [p]) := by
  refine ⟨"x", rfl, [], ['x'], [], rfl, ?_, fun _ => rfl, fun _ => rfl⟩
  rw [String.toList_ofList]
  exact ⟨['x'], [], rfl, hp, rfl⟩

/-- A term and a text among the notes that are both found in the note. -/
theorem foundBy_codeB {p : Char} (hp : Means p ['x']) {searched : List ColumnRef}
    (hsearched : ⟨none, "note", .text⟩ ∈ searched) {column? : String → Option ColumnRef}
    (hcolumn : column? "note" = some ⟨none, "note", .text⟩) :
    FoundBy (codesSought (String.ofList [p]) (String.ofList [p])) searched column? codeB := by
  constructor
  case term =>
    intro s hs _ _
    obtain rfl : String.ofList [p] = s := Option.some.inj hs
    exact ⟨_, hsearched, shows_codeB hp⟩
  case columns =>
    intro e he c hc
    obtain rfl := List.mem_singleton.1 he
    obtain rfl : ⟨none, "note", .text⟩ = c := Option.some.inj (hcolumn.symm.trans hc)
    exact shows_codeB hp

theorem forall_searchTexts_codesSought {s : String} (hs : '\x00' ∉ s.toList) :
    ∀ t ∈ (codesSought s s).searchTexts, '\x00' ∉ t.toList := by
  intro t ht
  have hts : t = s := by simpa [PagingRequest.searchTexts, codesSought] using ht
  rwa [hts]

/-- The note `x` is found by a capital letter, in both compilations. -/
theorem filters_and_searches_find_patterns_codeB :
    '\x00' ∉ "X".toList ∧ (∀ t ∈ (codesSought "X" "X").searchTexts, '\x00' ∉ t.toList) ∧
    Direct.Passes (codesPlan.filterConditions [⟨"note", .contains, .text "X"⟩]) codeB ∧
    Staged.Passes (codesView.filterConditions [⟨"note", .contains, .text "X"⟩]) codeB ∧
    Direct.Passes (.ok (codesPlan.searchConditions codeColumns (codesSought "X" "X"))) codeB ∧
    Staged.Passes (.ok (codesView.searchConditions ["code", "note"] (codesSought "X" "X") []))
      codeB ∧
    ∀ t : String, '\x00' ∉ t.toList →
      (Span.Finds ⟨true, true⟩ "X" t ↔ Span.Holds ⟨true, true⟩ "X" t) := by
  have hX : Means 'X' ['x'] := .self (by decide) (by decide)
  have hnull : '\x00' ∉ "X".toList := by decide
  have hsought := forall_searchTexts_codesSought hnull
  obtain ⟨hfilters, hsearches, hliteral⟩ := filters_and_searches_find_patterns hnull hsought
  obtain ⟨hdirect, hstaged⟩ := hfilters .contains ⟨true, true⟩ rfl codeB "note"
  refine ⟨hnull, hsought, (hdirect codesPlan _ rfl).2 (shows_codeB hX),
    (hstaged codesView _ rfl).2 (shows_codeB hX),
    ((hsearches codeB).1 codesPlan codeColumns).2 (foundBy_codeB hX (by decide) rfl),
    ((hsearches codeB).2 codesView _ _).2 (foundBy_codeB hX (by decide) rfl),
    (hliteral _).2 fun c hc => ?_⟩
  obtain rfl : c = 'X' := by simpa using hc
  rfl

/-- The note `x` is found by an underscore, in both compilations, though it holds none. -/
theorem not_literal_codeB :
    codeB ∈ Query.rows ⟨codes, [], []⟩ ∧ (codeB.cell ⟨none, "note", .text⟩).text? = some "x" ∧
    '\x00' ∉ "_".toList ∧
    Direct.Passes (codesPlan.filterConditions [⟨"note", .contains, .text "_"⟩]) codeB ∧
    Staged.Passes (codesView.filterConditions [⟨"note", .contains, .text "_"⟩]) codeB ∧
    Direct.Passes (.ok (codesPlan.searchConditions codeColumns (codesSought "_" "_"))) codeB ∧
    Staged.Passes (.ok (codesView.searchConditions ["code", "note"] (codesSought "_" "_") []))
      codeB ∧
    ¬ Span.Holds ⟨true, true⟩ "_" "x" := by
  have hone : Means '_' ['x'] := .one 'x'
  have hnull : '\x00' ∉ "_".toList := by decide
  have hsought := forall_searchTexts_codesSought hnull
  have hrows : Query.rows ⟨codes, [], []⟩ = codes.rows.map fun r => ⟨r, []⟩ := rfl
  have hop : FilterOperator.contains.span? = some ⟨true, true⟩ := rfl
  have hplan : codesPlan.columns.get? "note" = some ⟨none, "note", .text⟩ := rfl
  have hview : codesView.column? "note" = some ⟨⟨none, "note", .text⟩, .ofDeclaration "TEXT"⟩ := rfl
  refine ⟨by rw [hrows]; exact List.mem_cons_self, rfl, hnull,
    (Direct.passes_filter_iff hnull hop hplan).2 (shows_codeB hone),
    (Staged.passes_filter_iff hnull hop hview).2 (shows_codeB hone),
    (Direct.passes_searches_iff hsought).2 (foundBy_codeB hone (by decide) rfl),
    (Staged.passes_searches_iff hsought).2 (foundBy_codeB hone (by decide) rfl), ?_⟩
  exact Span.not_holds_filled ⟨true, true⟩ (s := "_") (c := '_') (by decide) rfl

end Codes

end AdminGrid

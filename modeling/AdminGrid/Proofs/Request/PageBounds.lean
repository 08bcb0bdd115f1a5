import AdminGrid.Proofs.Json.Parts
import AdminGrid.Proofs.Request.Context
import AdminGrid.Proofs.Text.Trim

/-!
# Pages within bounds

The parameters of a request ask for a page by values of any kind: numbers that are negative or
cannot be read, texts of blanks, lists.  The page that comes of them always starts at a row, has at
least one row and no more than the table gives, and searches for no empty text.  What the parameters
ask for within these bounds is what they get.
-/

namespace AdminGrid

/-! ## Values read as texts -/

theorem Binary64.text_ne_empty (f : DigitLayout) (x : Binary64) : x.text f ≠ "" := by
  have hlayout : ∀ ds point, f.layout ds point ≠ [] := by
    intro ds point
    unfold DigitLayout.layout
    split
    · split <;> simp
    · simp
  cases x with
  | nan => simp [text]
  | infinite negative => cases negative <;> simp [text]
  | finite negative mantissa exponent =>
      simp only [text, ne_eq, String.ofList_eq_empty_iff]
      split
      · simp
      · split
        · simp
        · exact hlayout _ _

theorem Decimal.text_ne_empty (d : Decimal) : d.text ≠ "" := by
  cases d with
  | nan => decide
  | infinite negative => cases negative <;> decide
  | finite negative coefficient exponent =>
      have hdigits : Binary64.digitChars coefficient ≠ [] := Nat.toDigits_ne_nil
      simp only [text, ne_eq, String.ofList_eq_empty_iff]
      split
      · simp
      · split
        · split
          · simp
          · split <;> simp [hdigits]
        · simp [hdigits]

theorem Text.quotedBytes_ne_empty (bs : List UInt8) : Text.quotedBytes bs ≠ "" := by
  unfold Text.quotedBytes
  exact fun hempty => nomatch String.ofList_eq_empty_iff.1 hempty

namespace Value

/-- Only null and the empty text can read as an empty text. -/
theorem cellText_ne_empty {v : Value} (h : v.isBlank = false) : v.cellText ≠ "" := by
  cases v with
  | null => cases h
  | bool b => cases b <;> decide
  | int n =>
      obtain ⟨c, ds, hds, -⟩ := Json.exists_cons_toString n
      intro hempty
      have hnil : (toString n).toList = [] := String.toList_eq_nil_iff.2 hempty
      rw [hds] at hnil
      cases hnil
  | float x => exact x.text_ne_empty .display
  | text s => exact fun hempty => beq_eq_false_iff_ne.1 h hempty
  | bytes bs =>
      unfold cellText quoted
      exact Text.quotedBytes_ne_empty bs
  | decimal d => exact d.text_ne_empty
  | date d => simp [cellText, Date.iso]
  | moment m => simp [cellText, Moment.iso]
  | clock t => simp [cellText, Clock.iso]
  | list items =>
      unfold cellText quoted
      simp
  | tuple items =>
      obtain _ | ⟨item, _ | ⟨next, rest⟩⟩ := items
      all_goals
        unfold cellText quoted
        simp
  | map entries =>
      unfold cellText quoted
      simp

end Value

namespace Request

/-- Whether a text is not empty and has no blank at its two ends. -/
structure IsTrimmed (s : String) : Prop where
  nonempty : s ≠ ""
  head : ∀ c, s.toList.head? = some c → Text.isBlank c = false
  last : ∀ c, s.toList.getLast? = some c → Text.isBlank c = false

/-- Whether a page is one that a table with a greatest length, if it has one, can give. -/
structure PageBounded (maxLength : Option Int) (page : PagingRequest) : Prop where
  start : 0 ≤ page.start
  draw : 0 ≤ page.draw
  length : 1 ≤ page.length
  length_le : ∀ max, maxLength = some max → page.length ≤ max
  orderColumn : ∀ i, page.orderColumnIndex = some i → 0 ≤ i
  searchTerm : ∀ term, page.searchTerm = some term → IsTrimmed term
  columnSearches : ∀ e ∈ page.columnSearches, e.2 ≠ ""

section Bounds

variable {params : Params} {maxLength : Option Int} {defaultLength : Int}

/-- The length of a page for any length that is asked for. -/
theorem pageLength_bounded (hmax : ∀ max, maxLength = some max → 1 ≤ max)
    (hdefault : 1 ≤ defaultLength) (length : Int) :
    1 ≤ pageLength length maxLength defaultLength ∧
      ∀ max, maxLength = some max → pageLength length maxLength defaultLength ≤ max := by
  cases maxLength with
  | none =>
      refine ⟨?_, fun _ h => nomatch h⟩
      unfold pageLength
      dsimp only
      split <;> omega
  | some max =>
      have hpos : 1 ≤ max := hmax max rfl
      have hnonzero : max ≠ 0 := by omega
      unfold pageLength
      dsimp only
      rw [if_neg hnonzero]
      refine ⟨?_, fun m hm => ?_⟩
      · have hgiven : 1 ≤ if length < 0 then max else
            if length = 0 then defaultLength else length := by
          split
          · exact hpos
          · split <;> omega
        exact Int.le_min.2 ⟨hgiven, hpos⟩
      · obtain rfl := Option.some.inj hm
        exact Int.min_le_right _ _

/-- A negative length asks for as much as the table gives. -/
theorem pageLength_of_neg {length max : Int} (hlength : length < 0) (hmax : 1 ≤ max) :
    pageLength length (some max) defaultLength = max := by
  unfold pageLength
  dsimp only
  rw [if_neg (by omega), if_pos hlength, Int.min_self]

/-- A length within the bounds is kept. -/
theorem pageLength_of_le {length : Int} (hlength : 1 ≤ length)
    (hmax : ∀ max, maxLength = some max → length ≤ max) :
    pageLength length maxLength defaultLength = length := by
  cases maxLength with
  | none =>
      unfold pageLength
      dsimp only
      rw [if_neg (by omega)]
  | some max =>
      have hle := hmax max rfl
      unfold pageLength
      dsimp only
      rw [if_neg (by omega), if_neg (by omega), if_neg (by omega), Int.min_eq_left hle]

theorem isTrimmed_of_termOf {v : Value} {term : String} (h : termOf v = some term) :
    IsTrimmed term := by
  unfold termOf at h
  dsimp only at h
  split at h
  · cases h
  · rename_i hgiven
    rw [Bool.or_eq_true, decide_eq_true_eq, not_or] at hgiven
    obtain rfl := Option.some.inj h
    refine ⟨hgiven.2, fun c hc => ?_, fun c hc => ?_⟩
    · rw [Text.strip, String.toList_ofList] at hc
      exact Text.not_of_head?_trimBy hc
    · rw [Text.strip, String.toList_ofList] at hc
      exact Text.not_of_getLast?_trimBy hc

theorem not_isBlank_of_searchedColumn? {attributes : Params} {e : String × Value}
    (h : searchedColumn? attributes = some e) : e.2.isBlank = false := by
  unfold searchedColumn? at h
  dsimp only at h
  split at h
  · cases h
  · split at h
    · cases h
    · rename_i hterm
      obtain rfl := Option.some.inj h
      exact Bool.eq_false_iff.2 hterm

theorem ne_empty_of_searchedColumns (columns : List Params) :
    ∀ e ∈ (searchedColumns columns).map (fun e => (e.1, e.2.cellText)), e.2 ≠ "" := by
  have hgiven : ∀ e ∈ searchedColumns columns, e.2.isBlank = false := by
    unfold searchedColumns
    refine Entries.forall_merge (P := fun v : Value => v.isBlank = false) (fun _ h => nomatch h)
      fun e he => ?_
    obtain ⟨attributes, -, hsearch⟩ := List.mem_filterMap.1 he
    exact not_isBlank_of_searchedColumn? hsearch
  exact List.forall_mem_map.2 fun e he => Value.cellText_ne_empty (hgiven e he)

/-- Whatever the parameters are, the page that they ask for is within bounds, if those of the table
leave room for a row.  A negative length gives the greatest one there is, and a start or a length
that is within the bounds already is the one that is given. -/
theorem page_bounded (hmax : ∀ max, maxLength = some max → 1 ≤ max)
    (hdefault : 1 ≤ defaultLength) {page : PagingRequest}
    (hpage : requestedPage params maxLength defaultLength = .ok page) :
    PageBounded maxLength page ∧
    (∀ n max, number? (cellAt params "length") = some n → n < 0 → maxLength = some max →
      page.length = max) ∧
    (∀ n, number? (cellAt params "length") = some n → 1 ≤ n →
      (∀ max, maxLength = some max → n ≤ max) → page.length = n) ∧
    ∀ n, number? (cellAt params "start") = some n → 0 ≤ n → page.start = n := by
  obtain ⟨-, columns, -, rfl⟩ := requestedPage_eq_ok_iff.1 hpage
  dsimp only [pageAsked]
  obtain ⟨hpos, hle⟩ := pageLength_bounded hmax hdefault
    ((number? (cellAt params "length")).getD defaultLength)
  refine ⟨⟨Int.le_max_left _ _, Int.le_max_left _ _, hpos, hle, fun i hi => ?_,
    fun term => isTrimmed_of_termOf, ne_empty_of_searchedColumns columns⟩, ?_, ?_, ?_⟩
  · simpa using (Option.filter_eq_some_iff.1 hi).2
  · intro n max hn hneg hsome
    rw [hn, hsome, Option.getD_some]
    exact pageLength_of_neg hneg (hmax max hsome)
  · intro n hn hone hroom
    rw [hn, Option.getD_some]
    exact pageLength_of_le hone hroom
  · intro n hn hnonneg
    rw [hn, Option.getD_some]
    exact Int.max_eq_right hnonneg

end Bounds

/-- Parameters that ask for everything before the first row, in an order by a column that does not
exist, and search for a text between blanks and for a list. -/
def everythingAsked : Params :=
  [("start", .int (-20)), ("length", .text " -1 "), ("draw", .text "x"),
    ("order", .list [.map [("column", .int (-3))]]),
    ("search", .map [("value", .text "\n Ann ")]),
    ("columns", .list [.map [("data", .text "id"), ("search", .map [("value", .list [])])],
      .map [("data", .text "name"), ("search", .map [("value", .text "")])]])]

/-- The page of such parameters is the first one in its greatest length. -/
theorem page_bounded_everythingAsked :
    (∀ max, some (100 : Int) = some max → 1 ≤ max) ∧ (1 : Int) ≤ 10 ∧
    number? (cellAt everythingAsked "length") = some (-1) ∧
    ∃ page, requestedPage everythingAsked (some 100) 10 = .ok page ∧
      PageBounded (some 100) page ∧ page.start = 0 ∧ page.length = 100 ∧
      page.searchTerm = some "Ann" ∧ page.columnSearches = [("id", "[]")] := by
  have hmax : ∀ max, some (100 : Int) = some max → 1 ≤ max := by
    intro max hsome
    obtain rfl := Option.some.inj hsome
    decide
  have hdefault : (1 : Int) ≤ 10 := by decide
  have hlength : number? (cellAt everythingAsked "length") = some (-1) := by rfl
  have hpage : requestedPage everythingAsked (some 100) 10 =
      .ok ⟨0, 100, none, .ascending, some "Ann", 0, [("id", "[]")]⟩ := by rfl
  obtain ⟨hbounded, hall, -, -⟩ := page_bounded hmax hdefault hpage
  exact ⟨hmax, hdefault, hlength, _, hpage, hbounded, rfl,
    hall (-1) 100 hlength (by decide) rfl, rfl, rfl⟩

end Request

end AdminGrid

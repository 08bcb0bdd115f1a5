import AdminGrid.Parity.Report
import AdminGrid.Proofs.Entries
import AdminGrid.Proofs.Outcome

/-!
# The severity of a report

A report is made by comparing two answers and read again for its severity.  Between two payloads,
answers with whole counts and a list of rows, the severity is a distance: one for each count that
differs, and the difference of the numbers of rows.  So nothing is tolerated exactly where the
counts and the numbers of rows agree, the severity does not depend on which answer comes first, and
over a third answer it never gets smaller.  The draw counter counts for the note of the report
alone.
-/

namespace AdminGrid

theorem Value.same_int_iff {m n : Int} : (Value.int m).same (.int n) = true ↔ m = n := by
  simp [Value.same, Value.sameLeaf, Value.numeral?, Numeral.same, Numeral.compare?]

namespace Parity

section Reports

variable (direct staged : Entries Value)

theorem get?_difference_self (key : String) :
    (difference key direct staged).get? key =
      if (cellAt direct key).same (cellAt staged key) then none
      else some (both key direct staged) := by
  unfold difference
  split
  · rfl
  · rw [Entries.get?_cons, if_pos rfl]

theorem get?_difference {key other : String} (h : key ≠ other) :
    (difference key direct staged).get? other = none := by
  unfold difference
  split
  · rfl
  · rw [Entries.get?_cons, if_neg h, Entries.get?_nil]

theorem difference_eq_nil_iff (key : String) :
    difference key direct staged = [] ↔ (cellAt direct key).same (cellAt staged key) = true := by
  unfold difference
  split <;> simp_all

/-- Two answers differ in nothing exactly if they agree in all that is compared. -/
theorem isEmpty_differences_iff :
    (differences direct staged).isEmpty = true ↔
      (cellAt direct "draw").same (cellAt staged "draw") = true ∧
      (cellAt direct "recordsTotal").same (cellAt staged "recordsTotal") = true ∧
      (cellAt direct "recordsFiltered").same (cellAt staged "recordsFiltered") = true ∧
      rowCount? direct = rowCount? staged := by
  rw [List.isEmpty_iff, differences]
  simp only [List.append_eq_nil_iff, difference_eq_nil_iff, and_assoc]
  by_cases hrows : rowCount? direct = rowCount? staged <;> simp [hrows]

theorem get?_differences {key : String} (h : key ≠ "data_length") :
    (differences direct staged).get? key =
      (((difference "draw" direct staged).get? key).or
        ((difference "recordsTotal" direct staged).get? key)).or
        ((difference "recordsFiltered" direct staged).get? key) := by
  have hrows : Entries.get? key (if rowCount? direct = rowCount? staged then []
      else [("data_length", rowCounts direct staged)]) = none := by
    split
    · rfl
    · rw [Entries.get?_cons, if_neg h.symm, Entries.get?_nil]
  unfold differences
  rw [Entries.get?_append, Entries.get?_append, Entries.get?_append, hrows, Option.or_none]

theorem get?_differences_dataLength :
    (differences direct staged).get? "data_length" =
      if rowCount? direct = rowCount? staged then none else some (rowCounts direct staged) := by
  unfold differences
  rw [Entries.get?_append, Entries.get?_append, Entries.get?_append,
    get?_difference _ _ (by decide), get?_difference _ _ (by decide),
    get?_difference _ _ (by decide)]
  split <;> rfl

theorem compare_of_isEmpty (h : (differences direct staged).isEmpty = true) :
    compare direct (some staged) =
      [("note", .text agreeNote), ("summary", summary direct staged)] := by
  rw [compare]
  exact if_pos h

/-- A report on differences has their entries, and no note. -/
theorem get?_compare_of_not_isEmpty (h : ¬ (differences direct staged).isEmpty = true)
    {key : String} (hkey : "summary" ≠ key) :
    Entries.get? key (compare direct (some staged)) = (differences direct staged).get? key := by
  have hcompare : compare direct (some staged) =
      differences direct staged ++ [("summary", summary direct staged)] := by
    rw [compare]
    exact if_neg h
  rw [hcompare, Entries.get?_append, Entries.get?_cons, if_neg hkey, Entries.get?_nil,
    Option.or_none]

theorem note_of_not_isEmpty (h : ¬ (differences direct staged).isEmpty = true) :
    cellAt (compare direct (some staged)) "note" = .null := by
  rw [cellAt, get?_compare_of_not_isEmpty _ _ h (by decide), get?_differences _ _ (by decide)]
  simp [get?_difference]

theorem reportedCount_countValue (count : Option Nat) :
    reportedCount (countValue count) = .ok (.int (count.getD 0 : Nat)) := by
  rcases count with _ | _ | n <;> rfl

theorem rowDistance_rowCounts :
    rowDistance (rowCounts direct staged) =
      .ok (.int (((rowCount? direct).getD 0 : Int) - (rowCount? staged).getD 0).natAbs) := by
  unfold rowCounts sideBySide rowDistance
  simp only [cellAt, Entries.get?_cons]
  simp [reportedCount_countValue, Numeral.sub, Numeral.lift, distance, bind, Except.bind, pure,
    Except.pure]

/-- The severity of a report on differences, read from what the report lists. -/
theorem severity_of_not_isEmpty (h : ¬ (differences direct staged).isEmpty = true) :
    severity (compare direct (some staged)) = .ok (.int (
      (if (cellAt direct "recordsTotal").same (cellAt staged "recordsTotal") then 0 else 1) +
      (if (cellAt direct "recordsFiltered").same (cellAt staged "recordsFiltered") then 0 else 1) +
      (((rowCount? direct).getD 0 : Int) - (rowCount? staged).getD 0).natAbs)) := by
  have htotal : (compare direct (some staged)).has "recordsTotal" =
      !(cellAt direct "recordsTotal").same (cellAt staged "recordsTotal") := by
    rw [Entries.has, get?_compare_of_not_isEmpty _ _ h (by decide),
      get?_differences _ _ (by decide), get?_difference_self]
    cases (cellAt direct "recordsTotal").same _ <;> simp [get?_difference]
  have hfiltered : (compare direct (some staged)).has "recordsFiltered" =
      !(cellAt direct "recordsFiltered").same (cellAt staged "recordsFiltered") := by
    rw [Entries.has, get?_compare_of_not_isEmpty _ _ h (by decide),
      get?_differences _ _ (by decide), get?_difference_self]
    cases (cellAt direct "recordsFiltered").same _ <;> simp [get?_difference]
  have hrows : rowDistance (cellAt (compare direct (some staged)) "data_length") =
      .ok (.int (((rowCount? direct).getD 0 : Int) - (rowCount? staged).getD 0).natAbs) := by
    rw [cellAt, get?_compare_of_not_isEmpty _ _ h (by decide), get?_differences_dataLength]
    split
    · rename_i hsame
      rw [hsame, Int.sub_self]
      rfl
    · exact rowDistance_rowCounts direct staged
  unfold severity
  rw [note_of_not_isEmpty _ _ h, htotal, hfiltered, hrows]
  cases (cellAt direct "recordsTotal").same (cellAt staged "recordsTotal") <;>
    cases (cellAt direct "recordsFiltered").same (cellAt staged "recordsFiltered") <;> rfl

end Reports

theorem atMost_int (m limit : Int) : atMost (.int m) limit = decide (m ≤ limit) := by
  rw [atMost, Numeral.compare?]
  rcases h : Ord.compare m limit with _ | _ | _
  · exact (decide_eq_true (Int.le_of_lt (Int.compare_eq_lt.1 h))).symm
  · exact (decide_eq_true (Int.le_of_eq (Int.compare_eq_eq.1 h))).symm
  · exact (decide_eq_false (Int.not_le.2 (Int.compare_eq_gt.1 h))).symm

/-- One where two counts differ. -/
def apart (m n : Int) : Nat := if m = n then 0 else 1

theorem apart_eq_zero_iff {m n : Int} : apart m n = 0 ↔ m = n := by
  unfold apart
  split <;> simp_all

theorem apart_comm (m n : Int) : apart m n = apart n m := by
  unfold apart
  split <;> split <;> simp_all

theorem apart_triangle (k m n : Int) : apart k n ≤ apart k m + apart m n := by
  unfold apart
  split <;> split <;> split <;> simp_all

/-- An answer with whole counts and a list of rows. -/
structure Payload where
  entries : Entries Value
  total : Int
  filtered : Int
  rows : List Value
  total_eq : cellAt entries "recordsTotal" = .int total
  filtered_eq : cellAt entries "recordsFiltered" = .int filtered
  rows_eq : (cellAt entries "data").items? = some rows

namespace Payload

/-- One for each count that differs, and the difference of the numbers of rows. -/
def distance (p q : Payload) : Nat :=
  apart p.total q.total + apart p.filtered q.filtered +
    ((p.rows.length : Int) - q.rows.length).natAbs

/-- Whether two payloads agree in their counts and in the number of their rows. -/
def Agrees (p q : Payload) : Prop :=
  p.total = q.total ∧ p.filtered = q.filtered ∧ p.rows.length = q.rows.length

instance (p q : Payload) : Decidable (p.Agrees q) := inferInstanceAs (Decidable (_ ∧ _ ∧ _))

variable (p q r : Payload)

theorem distance_eq_zero_iff : p.distance q = 0 ↔ p.Agrees q := by
  have hrows : ((p.rows.length : Int) - q.rows.length).natAbs = 0 ↔
      p.rows.length = q.rows.length := by omega
  rw [distance, Nat.add_eq_zero_iff, Nat.add_eq_zero_iff, apart_eq_zero_iff, apart_eq_zero_iff,
    hrows, Agrees, and_assoc]

theorem distance_comm : p.distance q = q.distance p := by
  have hrows : ((p.rows.length : Int) - q.rows.length).natAbs =
      ((q.rows.length : Int) - p.rows.length).natAbs := by omega
  rw [distance, distance, apart_comm p.total, apart_comm p.filtered, hrows]

theorem distance_triangle : p.distance r ≤ p.distance q + q.distance r := by
  have htotal := apart_triangle p.total q.total r.total
  have hfiltered := apart_triangle p.filtered q.filtered r.filtered
  unfold distance
  omega

theorem rowCount?_entries : rowCount? p.entries = some p.rows.length := by
  rw [rowCount?, p.rows_eq, Option.map_some]

theorem same_total_iff :
    (cellAt p.entries "recordsTotal").same (cellAt q.entries "recordsTotal") = true ↔
      p.total = q.total := by
  rw [p.total_eq, q.total_eq, Value.same_int_iff]

theorem same_filtered_iff :
    (cellAt p.entries "recordsFiltered").same (cellAt q.entries "recordsFiltered") = true ↔
      p.filtered = q.filtered := by
  rw [p.filtered_eq, q.filtered_eq, Value.same_int_iff]

/-- Two payloads differ in nothing exactly if they agree and have the same draw counter. -/
theorem isEmpty_differences_entries_iff :
    (differences p.entries q.entries).isEmpty = true ↔
      p.Agrees q ∧ (cellAt p.entries "draw").same (cellAt q.entries "draw") = true := by
  rw [isEmpty_differences_iff, same_total_iff, same_filtered_iff, rowCount?_entries,
    rowCount?_entries, Option.some_inj, and_comm, Agrees]

/-- The severity of the report on two payloads is their distance. -/
theorem severity_compare :
    severity (compare p.entries (some q.entries)) = .ok (.int (p.distance q)) := by
  by_cases h : (differences p.entries q.entries).isEmpty = true
  · have hagrees : p.Agrees q := ((isEmpty_differences_entries_iff p q).1 h).1
    rw [compare_of_isEmpty _ _ h, (distance_eq_zero_iff p q).2 hagrees]
    rfl
  · have hcount {m n : Int} {same : Bool} (hsame : same = true ↔ m = n) :
        (if same = true then (0 : Int) else 1) = apart m n := by
      unfold apart
      simp only [hsame]
      split <;> rfl
    rw [severity_of_not_isEmpty _ _ h, hcount (same_total_iff p q), hcount (same_filtered_iff p q),
      rowCount?_entries, rowCount?_entries]
    rfl

theorem withinTolerance_compare (allowed : Int) :
    withinTolerance (compare p.entries (some q.entries)) allowed =
      .ok (decide ((p.distance q : Int) ≤ allowed)) := by
  rw [withinTolerance, p.severity_compare q, ← atMost_int]
  rfl

/-- A report on two payloads bears the note of agreement exactly if it lists no difference. -/
theorem note_compare_iff :
    cellAt (compare p.entries (some q.entries)) "note" = .text agreeNote ↔
      (differences p.entries q.entries).isEmpty = true := by
  by_cases h : (differences p.entries q.entries).isEmpty = true
  · rw [compare_of_isEmpty _ _ h]
    exact iff_of_true rfl h
  · rw [note_of_not_isEmpty _ _ h]
    exact iff_of_false Value.noConfusion h

/-- The payload of a draw counter, two counts and some rows. -/
def of (draw total filtered : Int) (rows : List Value) : Payload where
  entries := [("draw", .int draw), ("recordsTotal", .int total), ("recordsFiltered", .int filtered),
    ("data", .list rows)]
  total := total
  filtered := filtered
  rows := rows
  total_eq := rfl
  filtered_eq := rfl
  rows_eq := rfl

end Payload

/-- Between payloads, the severity of a report is a distance: it is `0`, and the report tolerated,
exactly where both counts and the numbers of rows agree, it is the same the other way round, and
over a third payload it gets no smaller.  The report bears the note of agreement exactly where the
draw counters agree as well. -/
theorem severity_is_distance (p q r : Payload) :
    severity (compare p.entries (some q.entries)) = .ok (.int (p.distance q)) ∧
    withinTolerance (compare p.entries (some q.entries)) 0 = .ok (decide (p.Agrees q)) ∧
    severity (compare p.entries (some q.entries)) =
      severity (compare q.entries (some p.entries)) ∧
    (∃ direct first second : Nat,
      severity (compare p.entries (some r.entries)) = .ok (.int direct) ∧
      severity (compare p.entries (some q.entries)) = .ok (.int first) ∧
      severity (compare q.entries (some r.entries)) = .ok (.int second) ∧
      direct ≤ first + second) ∧
    (cellAt (compare p.entries (some q.entries)) "note" = .text agreeNote ↔
      p.Agrees q ∧ (cellAt p.entries "draw").same (cellAt q.entries "draw") = true) := by
  refine ⟨p.severity_compare q, ?_, ?_, ⟨_, _, _, p.severity_compare r, p.severity_compare q,
    q.severity_compare r, p.distance_triangle q r⟩, ?_⟩
  · have hnone : ((p.distance q : Int) ≤ 0) ↔ p.Agrees q := by
      rw [← p.distance_eq_zero_iff q]
      omega
    rw [p.withinTolerance_compare q 0, decide_eq_decide.2 hnone]
  · rw [p.severity_compare q, q.severity_compare p, p.distance_comm q]
  · rw [p.note_compare_iff q, p.isEmpty_differences_entries_iff q]

/-- Answers that differ in the draw counter alone are tolerated, but not noted as equal. -/
example : compare (Payload.of 1 5 5 []).entries (some (Payload.of 2 5 5 []).entries) =
    [("draw", sideBySide (.int 1) (.int 2)),
      ("summary", summary (Payload.of 1 5 5 []).entries (Payload.of 2 5 5 []).entries)] := rfl

end Parity

end AdminGrid

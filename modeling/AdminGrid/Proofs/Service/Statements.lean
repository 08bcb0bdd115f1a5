import AdminGrid.Direct.Query
import AdminGrid.Json.Write
import AdminGrid.Proofs.Outcome
import AdminGrid.Proofs.Parity.Page
import AdminGrid.Staged.Query

/-!
# Statements that are run or refused

A statement whose whole numbers have 64 bits is run, or the database refuses it.  Whatever its
conditions are, it finds no more rows than the joins of its tables make.
-/

namespace AdminGrid

/-- Whether a failure is that of a table that is not there, or of a database that does not answer.
-/
def Failure.Expected : Failure → Prop
  | .configuration _ | .unavailable => True
  | _ => False

namespace Store

/-- Whether a value is no whole number, or one that a cell can hold. -/
def InCell (v : Value) : Prop := ∀ n, v = .int n → fitsCell n = true

theorem inCell_null : InCell .null := fun _ h => nomatch h

theorem inCell_truth (b : Bool) : InCell (.int (if b then 1 else 0)) := by
  intro n hn
  obtain rfl := Value.int.inj hn
  cases b <;> decide

theorem ends_bind {v : Value} (h : InCell v) :
    Ends Failure.Expected (fun _ => True) (Store.bind v) := by
  cases v with
  | int n =>
      have hbind : Store.bind (.int n) = .ok (.int n) := if_pos (h n rfl)
      rw [hbind]
      trivial
  | _ => trivial

/-- Whether all values of a condition have a property. -/
def Condition.Values {α : Type} (P : α → Prop) : Condition α → Prop
  | .compare _ _ v => P v
  | .among _ vs => ∀ v ∈ vs, P v
  | .both p q | .either p q => Condition.Values P p ∧ Condition.Values P q
  | _ => True

theorem ends_traverse {α β : Type} {P : Failure → Prop} {Q : α → Prop} {R : β → Prop}
    {f : α → Attempt β} (hf : ∀ v, Q v → Ends P R (f v)) {p : Condition α} (h : p.Values Q) :
    Ends P (Condition.Values R) (p.traverse f) := by
  induction p with
  | compare op c v => exact (hf v h).bind fun w _ hw => hw
  | among c vs => exact (Ends.mapM fun v hv => hf v (h v hv)).bind fun ws _ hws => hws.2
  | both p q hp hq =>
      exact (hp h.1).bind fun p' _ hp' => (hq h.2).bind fun q' _ hq' => ⟨hp', hq'⟩
  | either p q hp hq =>
      exact (hp h.1).bind fun p' _ hp' => (hq h.2).bind fun q' _ hq' => ⟨hp', hq'⟩
  | _ => trivial

theorem values_any? {α : Type} {P : α → Prop} {p : Condition α} {ps : List (Condition α)}
    (h : ∀ q ∈ ps, q.Values P) (hp : Condition.any? ps = some p) : p.Values P := by
  cases ps with
  | nil => cases hp
  | cons first rest =>
      -- the alternatives are folded from the left: the induction is for every first one
      obtain rfl := Option.some.inj hp
      rw [List.forall_mem_cons] at h
      obtain ⟨hfirst, hrest⟩ := h
      induction rest generalizing first with
      | nil => exact hfirst
      | cons q rest ih =>
          rw [List.forall_mem_cons] at hrest
          exact ih (.either first q) rfl ⟨hfirst, hrest.1⟩ hrest.2

/-- All rows that joins make of the rows of a table. -/
def allRows (base : Table) (joins : List Join) : List JoinedRow :=
  Query.joinedRows (⟨base, joins, []⟩ : Query Stored)

/-- Whether a query picks its rows out of others, which it may see in another order. -/
def Query.PicksFrom {α : Type} (q : Query α) (all : List JoinedRow) : Prop :=
  (q.joinedRows.map JoinedRow.seen).Perm (all.map JoinedRow.seen)

theorem picksFrom_allRows {α : Type} (q : Query α) : q.PicksFrom (allRows q.base q.joins) := by
  unfold Query.PicksFrom
  rw [← Multiset.coe_eq_coe, map_seen_joinedRows, allRows, map_seen_joinedRows]

/-- A query with values that fit cells is run, unless the database refuses it. -/
theorem ends_queryBind {q : Query Value} (h : ∀ p ∈ q.conditions, p.Values InCell) :
    Ends Failure.Expected (·.PicksFrom (allRows q.base q.joins)) q.bind := by
  rw [Query.bind_eq]
  split
  · exact (Ends.mapM fun p hp => ends_traverse (fun v => ends_bind) (h p hp)).map
      fun bound _ _ => picksFrom_allRows (⟨q.base, q.joins, bound⟩ : Query Stored)
  · trivial

section Pages

variable {q : Query Stored} {all : List JoinedRow}

theorem Query.PicksFrom.count_le (h : q.PicksFrom all) : q.count ≤ all.length := by
  have hlength := h.length_eq
  rw [List.length_map, List.length_map] at hlength
  rw [← hlength]
  exact List.length_filter_le _ _

theorem Query.PicksFrom.exists_seen (h : q.PicksFrom all) {row : JoinedRow} (hrow : row ∈ q.rows) :
    ∃ other ∈ all, other.seen = row.seen :=
  List.mem_map.1 (h.mem_iff.1 (List.mem_map_of_mem (List.mem_of_mem_filter hrow)))

theorem length_segment_le {α : Type} (start length : Int) (xs : List α) :
    (segment start length xs).length ≤ xs.length := by
  unfold segment
  dsimp only
  split
  · rw [List.length_drop]
    omega
  · rw [List.length_take, List.length_drop]
    omega

theorem length_ordered (order : Option RowOrder) (rows : List JoinedRow) :
    (ordered order rows).length = rows.length := by
  cases order with
  | none => rfl
  | some o => exact List.length_mergeSort rows

/-- Two counts and a page of some rows. -/
structure PageOf (all : List JoinedRow) (total filtered : Nat) (rows : List JoinedRow) : Prop where
  total : total ≤ all.length
  filtered : filtered ≤ all.length
  length : rows.length ≤ all.length
  rows : ∀ row ∈ rows, ∃ other ∈ all, other.seen = row.seen

theorem pageOf_segment {total filtered : Nat} (htotal : total ≤ all.length)
    (hfiltered : filtered ≤ all.length) (hq : q.PicksFrom all) (start length : Int)
    (order : Option RowOrder) :
    PageOf all total filtered (segment start length (ordered order q.rows)) := by
  refine ⟨htotal, hfiltered, ?_, fun row hrow =>
    hq.exists_seen (mem_of_mem_ordered (mem_of_mem_segment hrow))⟩
  have hsegment := length_segment_le start length (ordered order q.rows)
  rw [length_ordered] at hsegment
  exact Nat.le_trans hsegment hq.count_le

end Pages

end Store

theorem fits_of_fitsCell {n : Int} (h : Store.fitsCell n = true) : Json.fits n = true := by
  unfold Store.fitsCell at h
  unfold Json.fits
  simp only [Bool.and_eq_true, decide_eq_true_eq] at h ⊢
  have htwo : (twoTo 63 : Int) ≤ twoTo 64 := by decide
  omega

/-- A number at most one that a cell can hold fits as well. -/
theorem fitsCell_of_le {m n : Nat} (h : Store.fitsCell n = true) (hle : m ≤ n) :
    Store.fitsCell m = true := by
  unfold Store.fitsCell at h ⊢
  simp only [Bool.and_eq_true, decide_eq_true_eq] at h ⊢
  omega

/-- The numbers of the rows of a page. -/
theorem fits_rowNumber {start : Int} {k n : Nat} (hstart : Store.fitsCell start = true)
    (hn : Store.fitsCell n = true) (hk : k < n) : Json.fits (start + k + 1) = true := by
  unfold Store.fitsCell at hstart hn
  unfold Json.fits
  simp only [Bool.and_eq_true, decide_eq_true_eq] at hstart hn ⊢
  -- two numbers of cells add up to less than the first number that is not written
  have htwo : (twoTo 64 : Int) = twoTo 63 + twoTo 63 := by decide
  omega

end AdminGrid

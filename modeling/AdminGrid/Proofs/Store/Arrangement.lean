import AdminGrid.Proofs.Store.RowOrder

/-!
# Arrangements of rows

An order leaves it open in which way rows come that it does not tell apart.  So the pages of a query
are fixed by its order exactly if all rows that it finds are told apart: then there is one
arrangement, and pages that follow each other are one segment of it.
-/

namespace AdminGrid.Store

theorem segment_append_segment {α : Type} {start length more : Int} (hstart : 0 ≤ start)
    (hlength : 0 ≤ length) (hmore : 0 ≤ more) (xs : List α) :
    segment start length xs ++ segment (start + length) more xs =
      segment start (length + more) xs := by
  have hdrop : (start + length).toNat = start.toNat + length.toNat := by omega
  have htake : (length + more).toNat = length.toNat + more.toNat := by omega
  unfold segment
  dsimp only
  rw [if_neg (by omega), if_neg (by omega), if_neg (by omega), hdrop, htake, List.take_add,
    List.drop_drop]

theorem segment_zero_length {α : Type} (xs : List α) : segment 0 xs.length xs = xs := by
  have hlength : ¬ (xs.length : Int) < 0 := by omega
  rw [segment, if_neg hlength, Int.toNat_natCast]
  exact List.take_length

/-- Rows that an order allows to come in the place of others: the same ones, no row standing before
one that must stand before it. -/
structure Arranged (o : RowOrder) (rows xs : List JoinedRow) : Prop where
  perm : xs.Perm rows
  pairwise : xs.Pairwise fun a b => o.before a b = true

/-- Whether the pages of some rows are fixed by an order: two pages that follow each other, taken
from any two arrangements, are one segment of the ordered rows. -/
def PagesFixed (o : RowOrder) (rows : List JoinedRow) : Prop :=
  ∀ xs ys, Arranged o rows xs → Arranged o rows ys →
    ∀ start length more : Int, 0 ≤ start → 0 ≤ length → 0 ≤ more →
      segment start length xs ++ segment (start + length) more ys =
        segment start (length + more) (ordered (some o) rows)

section Orderable

variable {o : RowOrder} {rows : List JoinedRow}

/-- The rows of an order by their keys, which is total also where a cell is no number. -/
def precedes (o : RowOrder) (a b : JoinedRow) : Bool := keysPrecede o a.seen b.seen

theorem before_eq_precedes {a b : JoinedRow} (ha : Orderable o a.seen) (hb : Orderable o b.seen) :
    o.before a b = precedes o a b :=
  mayPrecede_eq_keysPrecede ha hb

theorem precedes_trans (o : RowOrder) (a b c : JoinedRow) (hab : precedes o a b = true)
    (hbc : precedes o b c = true) : precedes o a c = true :=
  keysPrecede_trans o a.seen b.seen c.seen hab hbc

theorem precedes_total (o : RowOrder) (a b : JoinedRow) :
    (precedes o a b || precedes o b a) = true :=
  keysPrecede_total o a.seen b.seen

theorem ordered_eq_mergeSort (h : ∀ row ∈ rows, Orderable o row.seen) :
    ordered (some o) rows = rows.mergeSort (precedes o) := by
  have hmap := List.map_mergeSort (f := id) (r := o.before) (s := precedes o) (l := rows)
    fun a ha b hb => before_eq_precedes (h a ha) (h b hb)
  rwa [List.map_id, List.map_id] at hmap

theorem tied_before_eq {a b : JoinedRow} (ha : Orderable o a.seen) (hb : Orderable o b.seen) :
    tied o.before a b = tied (precedes o) a b := by
  rw [tied, tied, before_eq_precedes ha hb, before_eq_precedes hb ha]

/-- Sorting any permutation of the rows arranges them. -/
theorem arranged_mergeSort (h : ∀ row ∈ rows, Orderable o row.seen) {xs : List JoinedRow}
    (hperm : xs.Perm rows) : Arranged o rows (xs.mergeSort (precedes o)) := by
  refine ⟨(List.mergeSort_perm xs _).trans hperm, ?_⟩
  refine List.Pairwise.imp_of_mem ?_
    (List.pairwise_mergeSort (precedes_trans o) (precedes_total o) xs)
  intro a b ha hb hab
  rw [before_eq_precedes (h a (hperm.mem_iff.1 (List.mem_mergeSort.1 ha)))
    (h b (hperm.mem_iff.1 (List.mem_mergeSort.1 hb)))]
  exact hab

/-- Rows that are all told apart have one arrangement. -/
theorem Arranged.eq_ordered (h : ∀ row ∈ rows, Orderable o row.seen)
    (hapart : ∀ a ∈ rows, ∀ b ∈ rows, tied o.before a b = true → a = b) {xs : List JoinedRow}
    (hxs : Arranged o rows xs) : xs = ordered (some o) rows := by
  rw [ordered_eq_mergeSort h]
  have hsorted := arranged_mergeSort h (List.Perm.refl rows)
  refine List.Perm.eq_of_pairwise ?_ hxs.pairwise hsorted.pairwise
    (hxs.perm.trans hsorted.perm.symm)
  intro a b ha hb hab hba
  exact hapart a (hxs.perm.mem_iff.1 ha) b (hsorted.perm.mem_iff.1 hb)
    (by rw [tied, hab, hba]; rfl)

theorem exists_perm_cons_cons {α : Type} {xs : List α} {a b : α} (ha : a ∈ xs) (hb : b ∈ xs)
    (hne : a ≠ b) : ∃ rest, (a :: b :: rest).Perm xs := by
  obtain ⟨front, back, rfl⟩ := List.append_of_mem ha
  have hrest : b ∈ front ++ back := by
    rcases List.mem_cons.1 (List.perm_middle.mem_iff.1 hb) with rfl | hrest
    · exact absurd rfl hne
    · exact hrest
  obtain ⟨front', back', heq⟩ := List.append_of_mem hrest
  refine ⟨front' ++ back', List.Perm.trans (List.Perm.cons a ?_) List.perm_middle.symm⟩
  rw [heq]
  exact List.perm_middle.symm

/-- The whole of an arrangement is a page of it. -/
theorem Arranged.eq_ordered_of_pagesFixed (hfixed : PagesFixed o rows) {xs : List JoinedRow}
    (hxs : Arranged o rows xs) : xs = ordered (some o) rows := by
  have hpage := hfixed xs xs hxs hxs 0 xs.length 0 (by omega) (by omega) (by omega)
  have hlength : xs.length = (ordered (some o) rows).length :=
    hxs.perm.length_eq.trans (List.length_mergeSort rows).symm
  rw [segment_append_segment (by omega) (by omega) (by omega), Int.add_zero,
    segment_zero_length, hlength, segment_zero_length] at hpage
  exact hpage

theorem tied_precedes_self (o : RowOrder) (a : JoinedRow) : tied (precedes o) a a = true := by
  have htotal := precedes_total o a a
  rw [Bool.or_self] at htotal
  rw [tied, htotal]
  rfl

/-- Two different rows that are not told apart come both ways round, in two arrangements. -/
theorem eq_of_tied_of_pagesFixed (h : ∀ row ∈ rows, Orderable o row.seen)
    (hfixed : PagesFixed o rows) {a b : JoinedRow} (ha : a ∈ rows) (hb : b ∈ rows)
    (hab : tied o.before a b = true) : a = b := by
  by_contra hne
  obtain ⟨rest, hperm⟩ := exists_perm_cons_cons ha hb hne
  have hswap : (b :: a :: rest).Perm rows := (List.Perm.swap a b rest).trans hperm
  have hsorted : (a :: b :: rest).mergeSort (precedes o) =
      (b :: a :: rest).mergeSort (precedes o) :=
    ((arranged_mergeSort h hperm).eq_ordered_of_pagesFixed hfixed).trans
      ((arranged_mergeSort h hswap).eq_ordered_of_pagesFixed hfixed).symm
  -- sorting keeps tied rows in the order in which they came, which is not the same
  have htie : tied (precedes o) a b = true := by rw [← tied_before_eq (h a ha) (h b hb), hab]
  have hties := congrArg (List.filter (tied (precedes o) a)) hsorted
  rw [filter_tied_mergeSort (precedes_trans o) (precedes_total o),
    filter_tied_mergeSort (precedes_trans o) (precedes_total o),
    List.filter_cons_of_pos (tied_precedes_self o a), List.filter_cons_of_pos htie,
    List.filter_cons_of_pos htie] at hties
  exact hne (List.cons.inj hties).1

/-- The pages are fixed exactly if no two different rows tie. -/
theorem pagesFixed_iff (h : ∀ row ∈ rows, Orderable o row.seen) : PagesFixed o rows ↔
    ∀ a ∈ rows, ∀ b ∈ rows, tied o.before a b = true → a = b := by
  constructor
  · exact fun hfixed a ha b hb => eq_of_tied_of_pagesFixed h hfixed ha hb
  · intro hapart xs ys hxs hys start length more hstart hlength hmore
    rw [hxs.eq_ordered h hapart, hys.eq_ordered h hapart]
    exact segment_append_segment hstart hlength hmore _

/-- Rows are tied under a single column exactly if they hold equal values in it. -/
theorem tied_column_iff {c : ColumnRef} {descending : Bool} {a b : JoinedRow}
    (ha : (a.cell c).isNan = false) (hb : (b.cell c).isNan = false) :
    tied (RowOrder.before ⟨[c], descending⟩) a b = true ↔
      (a.cell c).order (b.cell c) = .eq := by
  have hcompare : ∀ x y : JoinedRow, compareCells [(x.cell c, y.cell c)] =
      (x.cell c).order (y.cell c) := by
    intro x y
    show ((x.cell c).order (y.cell c)).then .eq = _
    cases (x.cell c).order (y.cell c) <;> rfl
  have hswap : (b.cell c).order (a.cell c) = ((a.cell c).order (b.cell c)).swap := by
    rw [order_eq_keyOrder ha hb, order_eq_keyOrder hb ha]
    exact Std.OrientedCmp.eq_swap
  simp only [tied, RowOrder.before, List.map_cons, List.map_nil, hcompare, hswap]
  cases descending <;> cases (a.cell c).order (b.cell c) <;> decide

end Orderable

end AdminGrid.Store

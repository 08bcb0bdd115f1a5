import AdminGrid.Proofs.Store.CellOrder

/-!
# Rows in an order

Sorting keeps the rows that it does not tell apart in the order in which they came.  So two lists of
the same rows are sorted alike exactly if they agree on every class of tied rows.
-/

namespace AdminGrid.Store

section Ties

variable {α : Type} {le : α → α → Bool}

/-- Whether an order does not tell two elements apart. -/
def tied (le : α → α → Bool) (x y : α) : Bool := le x y && le y x

theorem tied_trans (trans : ∀ x y z, le x y → le y z → le x z) {x y z : α}
    (hy : tied le x y = true) (hz : tied le x z = true) : le y z = true := by
  rw [tied, Bool.and_eq_true] at hy hz
  exact trans y x z hy.2 hz.1

/-- Sorting leaves each class of tied elements as it is. -/
theorem filter_tied_mergeSort (trans : ∀ x y z, le x y → le y z → le x z)
    (total : ∀ x y, le x y || le y x) (xs : List α) (x : α) :
    (xs.mergeSort le).filter (tied le x) = xs.filter (tied le x) := by
  have hsorted : (xs.filter (tied le x)).Pairwise fun y z => le y z = true := by
    refine List.Pairwise.imp_of_mem ?_ (List.pairwise_of_forall fun _ _ => trivial)
    intro y z hy hz _
    exact tied_trans trans (List.mem_filter.1 hy).2 (List.mem_filter.1 hz).2
  have hsub := (List.sublist_mergeSort trans total hsorted List.filter_sublist).filter (tied le x)
  rw [List.filter_filter, List.filter_congr fun y _ => Bool.and_self _] at hsub
  refine (hsub.eq_of_length ?_).symm
  exact (((List.mergeSort_perm xs le).filter (tied le x)).length_eq).symm

/-- Two sorted lists of the same elements are equal if they agree on every class of tied ones. -/
theorem eq_of_pairwise_of_ties (total : ∀ x y, le x y || le y x) {xs ys : List α}
    (hxs : xs.Pairwise fun x y => le x y = true) (hys : ys.Pairwise fun x y => le x y = true)
    (hperm : xs.Perm ys) (hties : ∀ x ∈ xs, xs.filter (tied le x) = ys.filter (tied le x)) :
    xs = ys := by
  induction xs generalizing ys with
  | nil => exact (List.nil_perm.1 hperm).symm
  | cons x xs ih =>
      cases ys with
      | nil => exact absurd hperm (by simp)
      | cons y ys =>
          have hself : le x x = true := by simpa using total x x
          have hxy : le x y = true := by
            rcases List.mem_cons.1 (hperm.mem_iff.2 List.mem_cons_self) with h | h
            · rwa [h]
            · exact (List.pairwise_cons.1 hxs).1 y h
          have hyx : le y x = true := by
            rcases List.mem_cons.1 (hperm.mem_iff.1 List.mem_cons_self) with h | h
            · rwa [← h]
            · exact (List.pairwise_cons.1 hys).1 x h
          have hhead := hties x List.mem_cons_self
          rw [List.filter_cons_of_pos (by simp [tied, hself]),
            List.filter_cons_of_pos (by simp [tied, hxy, hyx])] at hhead
          obtain rfl : x = y := (List.cons.inj hhead).1
          -- without the head the other classes stay as they are, and its own loses the head
          refine congrArg (x :: ·) (ih (List.pairwise_cons.1 hxs).2 (List.pairwise_cons.1 hys).2
            hperm.cons_inv fun z hz => ?_)
          have htail := hties z (List.mem_cons_of_mem x hz)
          by_cases hzx : tied le z x = true
          · rw [List.filter_cons_of_pos hzx, List.filter_cons_of_pos hzx] at htail
            exact (List.cons.inj htail).2
          · rwa [List.filter_cons_of_neg hzx, List.filter_cons_of_neg hzx] at htail

theorem mergeSort_eq_of_ties (trans : ∀ x y z, le x y → le y z → le x z)
    (total : ∀ x y, le x y || le y x) {xs ys : List α} (hperm : xs.Perm ys)
    (hties : ∀ x ∈ xs, xs.filter (tied le x) = ys.filter (tied le x)) :
    xs.mergeSort le = ys.mergeSort le := by
  refine eq_of_pairwise_of_ties total (List.pairwise_mergeSort trans total xs)
    (List.pairwise_mergeSort trans total ys)
    (((List.mergeSort_perm xs le).trans hperm).trans (List.mergeSort_perm ys le).symm) ?_
  intro x hx
  rw [filter_tied_mergeSort trans total, filter_tied_mergeSort trans total]
  exact hties x (List.mem_mergeSort.1 hx)

/-- It does not matter whether elements are left out before or after sorting. -/
theorem mergeSort_filter (trans : ∀ x y z, le x y → le y z → le x z)
    (total : ∀ x y, le x y || le y x) (p : α → Bool) (xs : List α) :
    (xs.filter p).mergeSort le = (xs.mergeSort le).filter p := by
  refine eq_of_pairwise_of_ties total (List.pairwise_mergeSort trans total _)
    ((List.pairwise_mergeSort trans total xs).filter p)
    ((List.mergeSort_perm _ le).trans ((List.mergeSort_perm xs le).filter p).symm) fun x _ => ?_
  rw [filter_tied_mergeSort trans total, List.filter_comm _ _ (xs.mergeSort le),
    filter_tied_mergeSort trans total, List.filter_comm]

end Ties

/-- What can be seen of a joined row: its cells, but not which table was joined first. -/
structure SeenRow where
  base : StoredRow
  related : String → Option (Option StoredRow)

/-- A joined row as it is seen. -/
def JoinedRow.seen (row : JoinedRow) : SeenRow := ⟨row.base, fun name => row.related.get? name⟩

namespace SeenRow

/-- The cell of a column in a row. -/
def cell (row : SeenRow) (c : ColumnRef) : Stored :=
  match c.alias? with
  | none => (Entries.get? c.column row.base).getD .null
  | some joined => match (row.related joined).join with
    | some related => (Entries.get? c.column related).getD .null
    | none => .null

end SeenRow

theorem cell_seen (row : JoinedRow) (c : ColumnRef) : row.seen.cell c = row.cell c := rfl

theorem cell_congr {a b : JoinedRow} (h : a.seen = b.seen) : a.cell = b.cell := by
  funext c
  rw [← cell_seen a, h, cell_seen]

/-- Whether an order may put a row before another one; without an order, any row. -/
def mayPrecede (order : Option RowOrder) (a b : SeenRow) : Bool :=
  match order with
  | none => true
  | some o =>
      let found := compareCells (o.columns.map fun c => (a.cell c, b.cell c))
      if o.descending then found != .lt else found != .gt

/-- The rows that an order does not tell apart come in the same order in two lists, wherever they
are the same rows. -/
def TiesAlike (order : Option RowOrder) (xs ys : List SeenRow) : Prop :=
  ∀ x, (xs.filter (tied (mayPrecede order) x)).Perm (ys.filter (tied (mayPrecede order) x)) →
    xs.filter (tied (mayPrecede order) x) = ys.filter (tied (mayPrecede order) x)

theorem TiesAlike.refl (order : Option RowOrder) (xs : List SeenRow) : TiesAlike order xs xs :=
  fun _ _ => rfl

instance : Std.TransCmp Stored.keyOrder :=
  inferInstanceAs (Std.TransCmp (compareLex (compareOn Stored.place)
    (compareLex (compareOn Stored.amount) (compareOn Stored.letters))))

/-- The order of rows by the keys of some of their cells. -/
def rowKeyOrder (columns : List ColumnRef) (a b : SeenRow) : Ordering :=
  List.compareLex Stored.keyOrder (columns.map a.cell) (columns.map b.cell)

instance (columns : List ColumnRef) : Std.TransCmp (rowKeyOrder columns) where
  eq_swap {a b} := @Std.OrientedCmp.eq_swap _ (List.compareLex Stored.keyOrder) _
    (columns.map a.cell) (columns.map b.cell)
  isLE_trans {a b c} := @Std.TransCmp.isLE_trans _ (List.compareLex Stored.keyOrder) _
    (columns.map a.cell) (columns.map b.cell) (columns.map c.cell)

theorem compareCells_eq_rowKeyOrder {columns : List ColumnRef} {a b : SeenRow}
    (ha : ∀ c ∈ columns, (a.cell c).isNan = false)
    (hb : ∀ c ∈ columns, (b.cell c).isNan = false) :
    compareCells (columns.map fun c => (a.cell c, b.cell c)) = rowKeyOrder columns a b := by
  induction columns with
  | nil => rfl
  | cons c rest ih =>
      have hrest := ih (fun d hd => ha d (List.mem_cons_of_mem c hd))
        (fun d hd => hb d (List.mem_cons_of_mem c hd))
      have hhead := order_eq_keyOrder (ha c List.mem_cons_self) (hb c List.mem_cons_self)
      rw [rowKeyOrder, List.map_cons, List.map_cons, List.map_cons, List.compareLex_cons_cons,
        compareCells, hrest, hhead]
      rfl

/-- Whether the keys let a row stand before another one. -/
def keysPrecede (o : RowOrder) (a b : SeenRow) : Bool :=
  if o.descending then (rowKeyOrder o.columns b a).isLE else (rowKeyOrder o.columns a b).isLE

theorem keysPrecede_trans (o : RowOrder) (a b c : SeenRow) (hab : keysPrecede o a b = true)
    (hbc : keysPrecede o b c = true) : keysPrecede o a c = true := by
  unfold keysPrecede at hab hbc ⊢
  by_cases hdesc : o.descending = true
  · rw [if_pos hdesc] at hab hbc ⊢
    exact Std.TransCmp.isLE_trans hbc hab
  · rw [if_neg hdesc] at hab hbc ⊢
    exact Std.TransCmp.isLE_trans hab hbc

theorem keysPrecede_total (o : RowOrder) (a b : SeenRow) :
    (keysPrecede o a b || keysPrecede o b a) = true := by
  have hone : ∀ x y : SeenRow,
      ((rowKeyOrder o.columns x y).isLE || (rowKeyOrder o.columns y x).isLE) = true := by
    intro x y
    rw [@Std.OrientedCmp.eq_swap _ (rowKeyOrder o.columns) _ y x]
    cases rowKeyOrder o.columns x y <;> rfl
  unfold keysPrecede
  by_cases hdesc : o.descending = true
  · simpa only [if_pos hdesc] using hone b a
  · simpa only [if_neg hdesc] using hone a b

/-- Rows that hold no cell that is no number, as far as the columns of an order go. -/
def Orderable (o : RowOrder) (row : SeenRow) : Prop :=
  ∀ c ∈ o.columns, (row.cell c).isNan = false

theorem mayPrecede_eq_keysPrecede {o : RowOrder} {a b : SeenRow} (ha : Orderable o a)
    (hb : Orderable o b) : mayPrecede (some o) a b = keysPrecede o a b := by
  have hkeys := compareCells_eq_rowKeyOrder ha hb
  show (if o.descending = true then compareCells _ != .lt else compareCells _ != .gt) = _
  rw [hkeys]
  unfold keysPrecede
  by_cases hdesc : o.descending = true
  · rw [if_pos hdesc, if_pos hdesc,
      @Std.OrientedCmp.eq_swap _ (rowKeyOrder o.columns) _ b a]
    cases rowKeyOrder o.columns a b <;> rfl
  · rw [if_neg hdesc, if_neg hdesc]
    cases rowKeyOrder o.columns a b <;> rfl

theorem map_seen_ordered {o : RowOrder} {rows : List JoinedRow}
    (h : ∀ row ∈ rows, Orderable o row.seen) :
    (ordered (some o) rows).map JoinedRow.seen =
      (rows.map JoinedRow.seen).mergeSort (keysPrecede o) := by
  refine List.map_mergeSort fun a ha b hb => ?_
  rw [← mayPrecede_eq_keysPrecede (h a ha) (h b hb)]
  rfl

/-- Rows that are found in two orders are seen in one order once they are sorted, if those that the
sorting does not tell apart came alike. -/
theorem map_seen_ordered_eq {order : Option RowOrder} {xs ys : List JoinedRow}
    (hxs : ∀ o ∈ order, ∀ row ∈ xs, Orderable o row.seen)
    (hperm : (xs.map JoinedRow.seen).Perm (ys.map JoinedRow.seen))
    (hties : TiesAlike order (xs.map JoinedRow.seen) (ys.map JoinedRow.seen)) :
    (ordered order xs).map JoinedRow.seen = (ordered order ys).map JoinedRow.seen := by
  cases order with
  | none =>
      cases xs with
      | nil =>
          obtain rfl : ys = [] := by simpa using hperm.symm.eq_nil
          rfl
      | cons x xs =>
          -- without an order all rows tie, so that they came alike altogether
          have hall : ∀ zs : List SeenRow,
              zs.filter (tied (mayPrecede none) x.seen) = zs := fun zs =>
            List.filter_eq_self.2 fun _ _ => rfl
          have h := hties x.seen
          rw [hall, hall] at h
          exact h hperm
  | some o =>
      have hx := hxs o rfl
      have hy : ∀ row ∈ ys, Orderable o row.seen := by
        intro row hrow
        obtain ⟨row', hrow', hseen⟩ :=
          List.mem_map.1 (hperm.mem_iff.2 (List.mem_map_of_mem hrow))
        rw [← hseen]
        exact hx row' hrow'
      rw [map_seen_ordered hx, map_seen_ordered hy]
      refine mergeSort_eq_of_ties (keysPrecede_trans o) (keysPrecede_total o) hperm fun x hmem => ?_
      obtain ⟨row, hrow, rfl⟩ := List.mem_map.1 hmem
      have hsame : ∀ zs : List JoinedRow, (∀ z ∈ zs, Orderable o z.seen) →
          (zs.map JoinedRow.seen).filter (tied (keysPrecede o) row.seen) =
            (zs.map JoinedRow.seen).filter (tied (mayPrecede (some o)) row.seen) := by
        intro zs hzs
        refine List.filter_congr fun y hy => ?_
        obtain ⟨z, hz, rfl⟩ := List.mem_map.1 hy
        rw [tied, tied, mayPrecede_eq_keysPrecede (hx row hrow) (hzs z hz),
          mayPrecede_eq_keysPrecede (hzs z hz) (hx row hrow)]
      rw [hsame xs hx, hsame ys hy]
      exact hties row.seen (hperm.filter _)

end AdminGrid.Store

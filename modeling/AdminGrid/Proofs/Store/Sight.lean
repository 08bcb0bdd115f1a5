import AdminGrid.Proofs.Outcome
import AdminGrid.Proofs.Store.JoinOrder
import Mathlib.Data.List.Forall2
import Mathlib.Data.Option.Basic

/-!
# What a query sees

A query looks at some columns of its tables: those that it joins, the keys and indexes in whose
order it finds rows, and those of its conditions.  Tables that are alike in these columns have rows
found in them that are alike, one by one and in the same order.
-/

namespace AdminGrid

/-- Two collections with the same keys, and the same entries under those that are seen. -/
structure Entries.AlikeOn {α : Type} (seen : String → Prop) (a b : Entries α) : Prop where
  keys : a.keys = b.keys
  get? : ∀ key, seen key → Entries.get? key a = Entries.get? key b

namespace Entries.AlikeOn

variable {α β : Type} {seen : String → Prop} {a b a' b' : Entries α}

theorem refl (seen : String → Prop) (a : Entries α) : AlikeOn seen a a := ⟨rfl, fun _ _ => rfl⟩

theorem mono {less : String → Prop} (h : AlikeOn seen a b) (hless : ∀ key, less key → seen key) :
    AlikeOn less a b := ⟨h.keys, fun key hkey => h.get? key (hless key hkey)⟩

theorem map (f : α → β) (h : AlikeOn seen a b) :
    AlikeOn seen (a.map fun e => (e.1, f e.2)) (b.map fun e => (e.1, f e.2)) where
  keys := by
    have hkeys : ∀ xs : Entries α, Entries.keys (xs.map fun e => (e.1, f e.2)) = xs.keys :=
      fun xs => List.map_map
    rw [hkeys, hkeys, h.keys]
  get? key hkey := by rw [get?_map, get?_map, h.get? key hkey]

theorem append (h : AlikeOn seen a b) (h' : AlikeOn seen a' b') :
    AlikeOn seen (a ++ a') (b ++ b') where
  keys := by
    have hkeys : ∀ xs ys : Entries α, Entries.keys (xs ++ ys) = xs.keys ++ ys.keys :=
      fun xs ys => List.map_append
    rw [hkeys, hkeys, h.keys, h'.keys]
  get? key hkey := by rw [get?_append, get?_append, h.get? key hkey, h'.get? key hkey]

/-- Entries that are set alike stay alike; what is set under a key that is not seen may differ. -/
theorem put {key : String} {x y : α} (h : AlikeOn seen a b) (hxy : seen key → x = y) :
    AlikeOn seen (a.put key x) (b.put key y) where
  keys := by rw [keys_put, keys_put, h.keys]
  get? other hother := by
    rw [get?_put, get?_put, h.get? other hother]
    by_cases hkey : key = other
    · rw [if_pos hkey, if_pos hkey, hxy (hkey ▸ hother)]
    · rw [if_neg hkey, if_neg hkey]

/-- What is set alike is alike, whether it was seen or not. -/
theorem put_same (h : AlikeOn seen a b) (key : String) (x : α) :
    AlikeOn (fun other => seen other ∨ other = key) (a.put key x) (b.put key x) where
  keys := by rw [keys_put, keys_put, h.keys]
  get? other hother := by
    rw [get?_put, get?_put]
    by_cases hkey : key = other
    · rw [if_pos hkey, if_pos hkey]
    · rw [if_neg hkey, if_neg hkey, h.get? other (hother.resolve_right fun heq => hkey heq.symm)]

theorem of_forall₂ (h : List.Forall₂ (fun e e' => e.1 = e'.1 ∧ (seen e.1 → e.2 = e'.2)) a b) :
    AlikeOn seen a b where
  keys := by
    unfold Entries.keys
    rw [← List.forall₂_eq_eq_eq, List.forall₂_map_left_iff, List.forall₂_map_right_iff]
    exact h.imp fun e e' he => he.1
  get? key hkey := by
    induction h with
    | nil => rfl
    | @cons e e' _ _ hhead _ ih =>
        obtain ⟨k, x⟩ := e
        obtain ⟨k', y⟩ := e'
        obtain ⟨rfl, hxy⟩ := hhead
        rw [get?_cons, get?_cons, ih]
        by_cases hk : k = key
        · rw [if_pos hk, if_pos hk]
          exact congrArg some (hxy (hk ▸ hkey))
        · rw [if_neg hk, if_neg hk]

theorem merge {new new' : Entries α}
    (hnew : List.Forall₂ (fun e e' => e.1 = e'.1 ∧ (seen e.1 → e.2 = e'.2)) new new')
    (h : AlikeOn seen a b) : AlikeOn seen (a.merge new) (b.merge new') := by
  induction hnew generalizing a b with
  | nil => exact h
  | @cons e e' _ _ hhead _ ih =>
      obtain ⟨key, x⟩ := e
      obtain ⟨key', y⟩ := e'
      obtain ⟨rfl, hxy⟩ := hhead
      exact ih (h.put hxy)

theorem has_eq (h : AlikeOn seen a b) (key : String) : a.has key = b.has key := by
  rw [Bool.eq_iff_iff, ← mem_keys_iff_has, ← mem_keys_iff_has, h.keys]

end Entries.AlikeOn

/-- Values that are made key by key are alike where they are made alike. -/
theorem compatible_pairs {α : Type} {seen : String → Prop} (keys : List String)
    {f g : String → Attempt α} (hfg : ∀ key ∈ keys, seen key → f key = g key) :
    Compatible (List.Forall₂ fun e e' => e.1 = e'.1 ∧ (seen e.1 → e.2 = e'.2))
      (keys.mapM fun key => do return (key, ← f key))
      (keys.mapM fun key => do return (key, ← g key)) := by
  refine Compatible.mapM (R := fun key key' => key = key' ∧ key ∈ keys)
    (List.forall₂_same.2 fun key hkey => ⟨rfl, hkey⟩) ?_
  rintro key _ ⟨rfl, hmem⟩ e e' he he'
  obtain ⟨x, hx, he⟩ := bind_eq_ok.1 he
  obtain ⟨y, hy, he'⟩ := bind_eq_ok.1 he'
  rw [← pure_eq_ok.1 he, ← pure_eq_ok.1 he']
  refine ⟨rfl, fun hkey => ?_⟩
  rw [hfg key hmem hkey, hy] at hx
  exact (Except.ok.inj hx).symm

namespace Store

/-- Which columns are seen: those of the base table, and those of a table joined under an alias. -/
abbrev Sight := Option String → String → Prop

/-- Whether a column is seen. -/
def ColumnRef.SeenIn (seen : Sight) (c : ColumnRef) : Prop := seen c.alias? c.column

/-- Two joined rows that are alike in all columns that are seen. -/
structure JoinedRow.AlikeOn (seen : Sight) (x y : JoinedRow) : Prop where
  base : Entries.AlikeOn (seen none) x.base y.base
  related : List.Forall₂ (fun e e' => e.1 = e'.1 ∧
    Option.Rel (Entries.AlikeOn (seen (some e.1))) e.2 e'.2) x.related y.related

section Rows

variable {seen : Sight} {x y : JoinedRow}

theorem cell_eq_of_alikeOn (h : x.AlikeOn seen y) {c : ColumnRef} (hc : c.SeenIn seen) :
    x.cell c = y.cell c := by
  obtain ⟨alias?, column, affinity⟩ := c
  unfold JoinedRow.cell
  cases alias? with
  | none =>
      show (Entries.get? column x.base).getD .null = (Entries.get? column y.base).getD .null
      rw [h.base.get? column hc]
  | some name =>
      have hrelated : Option.Rel (Option.Rel (Entries.AlikeOn (seen (some name))))
          (Entries.get? name x.related) (Entries.get? name y.related) := by
        have hall := h.related
        generalize x.related = xs at hall
        generalize y.related = ys at hall
        induction hall with
        | nil => exact .none
        | @cons e e' _ _ hhead _ ih =>
            obtain ⟨a, found⟩ := e
            obtain ⟨b, found'⟩ := e'
            obtain ⟨rfl, hfound⟩ := hhead
            rw [Entries.get?_cons, Entries.get?_cons]
            by_cases ha : a = name
            · rw [if_pos ha, if_pos ha]
              exact .some (ha ▸ hfound)
            · rw [if_neg ha, if_neg ha]
              exact ih
      dsimp only
      generalize Entries.get? name x.related = found at hrelated
      generalize Entries.get? name y.related = found' at hrelated
      cases hrelated with
      | none => rfl
      | some hfound =>
          cases hfound with
          | none => rfl
          | some hrow =>
              show (Entries.get? column _).getD Stored.null = (Entries.get? column _).getD _
              rw [hrow.get? column hc]

theorem truth_eq_of_alikeOn (h : x.AlikeOn seen y) {p : Condition Stored}
    (hp : ∀ c ∈ Direct.columnsOf p, c.SeenIn seen) : p.truth x = p.truth y :=
  truth_eq_of_cells fun c hc => cell_eq_of_alikeOn h (hp c hc)

/-- Rows alike in the columns of an order stand in the same order to each other. -/
theorem before_eq_of_alikeOn {o : RowOrder} (ho : ∀ c ∈ o.columns, c.SeenIn seen)
    {x y x' y' : JoinedRow} (h : x.AlikeOn seen y) (h' : x'.AlikeOn seen y') :
    o.before x x' = o.before y y' := by
  have hcells : o.columns.map (fun c => (x.cell c, x'.cell c)) =
      o.columns.map fun c => (y.cell c, y'.cell c) := List.map_congr_left fun c hc => by
    rw [cell_eq_of_alikeOn h (ho c hc), cell_eq_of_alikeOn h' (ho c hc)]
  unfold RowOrder.before
  rw [hcells]

end Rows

section Sorting

variable {α β : Type} {R : α → β → Prop}

theorem forall_of_forall₂ {P : α → Prop} (hP : ∀ x y, R x y → P x) {xs : List α} {ys : List β}
    (h : List.Forall₂ R xs ys) : ∀ x ∈ xs, P x := by
  induction h with
  | nil => exact fun x hx => (nomatch hx)
  | cons hxy _ ih => exact List.forall_mem_cons.2 ⟨hP _ _ hxy, ih⟩

/-- Sorting keeps lists related one by one, if related elements are compared alike. -/
theorem forall₂_mergeSort {le : α → α → Bool} {le' : β → β → Bool}
    (hle : ∀ x y x' y', R x y → R x' y' → le x x' = le' y y') {xs : List α} {ys : List β}
    (h : List.Forall₂ R xs ys) : List.Forall₂ R (xs.mergeSort le) (ys.mergeSort le') := by
  -- the pairs of related elements are sorted as their first and as their second parts are
  have hlength := h.length_eq
  have hpairs : ∀ e ∈ xs.zip ys, R e.1 e.2 := fun e he => (List.forall₂_iff_zip.1 h).2 he
  have hfirst : ((xs.zip ys).mergeSort fun e e' => le e.1 e'.1).map Prod.fst =
      xs.mergeSort le := by
    rw [List.map_mergeSort (s := le) fun e _ e' _ => rfl, List.map_fst_zip (Nat.le_of_eq hlength)]
  have hsecond : ((xs.zip ys).mergeSort fun e e' => le e.1 e'.1).map Prod.snd =
      ys.mergeSort le' := by
    rw [List.map_mergeSort (s := le') fun e he e' he' =>
      hle _ _ _ _ (hpairs e he) (hpairs e' he'), List.map_snd_zip (Nat.le_of_eq hlength.symm)]
  rw [← hfirst, ← hsecond, List.forall₂_map_left_iff, List.forall₂_map_right_iff,
    List.forall₂_same]
  exact fun e he => hpairs e (List.mem_mergeSort.1 he)

theorem forall₂_sortedBy {seen : String → Prop} {columns : List String}
    (hcolumns : ∀ c ∈ columns, seen c) {xs ys : List StoredRow}
    (h : List.Forall₂ (Entries.AlikeOn seen) xs ys) :
    List.Forall₂ (Entries.AlikeOn seen) (sortedBy columns xs) (sortedBy columns ys) := by
  unfold sortedBy
  by_cases hempty : columns.isEmpty = true
  · rw [if_pos hempty, if_pos hempty]
    exact h
  · rw [if_neg hempty, if_neg hempty]
    refine forall₂_mergeSort (fun x y x' y' hxy hxy' => ?_) h
    have hcells : columns.map (fun c => ((Entries.get? c x).getD .null,
          (Entries.get? c x').getD .null)) =
        columns.map fun c => ((Entries.get? c y).getD .null, (Entries.get? c y').getD .null) :=
      List.map_congr_left fun c hc => by
        rw [hxy.get? c (hcolumns c hc), hxy'.get? c (hcolumns c hc)]
    rw [hcells]

theorem forall₂_ordered {seen : Sight} {order : Option RowOrder}
    (horder : ∀ o ∈ order, ∀ c ∈ o.columns, c.SeenIn seen) {xs ys : List JoinedRow}
    (h : List.Forall₂ (JoinedRow.AlikeOn seen) xs ys) :
    List.Forall₂ (JoinedRow.AlikeOn seen) (ordered order xs) (ordered order ys) := by
  cases order with
  | none => exact h
  | some o =>
      exact forall₂_mergeSort (R := JoinedRow.AlikeOn seen) (fun x y x' y' hxy hxy' =>
        before_eq_of_alikeOn (horder o rfl) hxy hxy') h

theorem forall₂_segment (start length : Int) {xs : List α} {ys : List β}
    (h : List.Forall₂ R xs ys) :
    List.Forall₂ R (segment start length xs) (segment start length ys) := by
  unfold segment
  split
  · exact List.forall₂_drop _ h
  · exact List.forall₂_take _ (List.forall₂_drop _ h)

end Sorting

/-- Two tables with the same columns, whose rows are alike in those that are seen, the key among
them. -/
structure Table.AlikeOn (seen : String → Prop) (t t' : Table) : Prop where
  name : t.name = t'.name
  columns : t.columns = t'.columns
  rows : List.Forall₂ (Entries.AlikeOn seen) t.rows t'.rows
  seesKey : ∀ c ∈ t.primaryKey, seen c

/-- Two joins of tables that are alike, over columns that are seen. -/
structure Join.AlikeOn (seen : Sight) (j j' : Join) : Prop where
  tableAlias : j.tableAlias = j'.tableAlias
  table : j.table.AlikeOn (seen (some j.tableAlias)) j'.table
  relatedColumn : j.relatedColumn = j'.relatedColumn
  baseColumn : j.baseColumn = j'.baseColumn
  affinity : j.affinity = j'.affinity
  shown : j.shown = j'.shown
  seesRelated : seen (some j.tableAlias) j.relatedColumn
  seesBase : seen none j.baseColumn
  seesShown : seen (some j.tableAlias) j.shown

/-- Two queries over tables that are alike, with the same conditions on columns that are seen. -/
structure Query.AlikeOn {α : Type} (seen : Sight) (q q' : Query α) : Prop where
  base : q.base.AlikeOn (seen none) q'.base
  joins : List.Forall₂ (Join.AlikeOn seen) q.joins q'.joins
  conditions : q.conditions = q'.conditions
  seesConditions : ∀ p ∈ q.conditions, ∀ c ∈ Direct.columnsOf p, c.SeenIn seen

section Queries

variable {α : Type} {seen : Sight}

theorem primaryKey_congr {t t' : Table} (h : t.columns = t'.columns) :
    t.primaryKey = t'.primaryKey := by
  rw [Table.primaryKey, Table.primaryKey, h]

theorem column?_congr {t t' : Table} (h : t.columns = t'.columns) :
    t.column? = t'.column? := by
  funext name
  rw [Table.column?, Table.column?, h]

theorem belongs_eq_of_alikeOn {j j' : Join} (h : j.AlikeOn seen j') {base base' : StoredRow}
    (hbase : Entries.AlikeOn (seen none) base base') {r r' : StoredRow}
    (hr : Entries.AlikeOn (seen (some j.tableAlias)) r r') :
    j.belongs base r = j'.belongs base' r' := by
  unfold Join.belongs
  rw [← h.relatedColumn, ← h.baseColumn, ← h.affinity, hr.get? _ h.seesRelated,
    hbase.get? _ h.seesBase]

/-- What a join finds for rows that are alike. -/
theorem forall₂_extend {j j' : Join} (h : j.AlikeOn seen j') {columns : List String}
    (hcolumns : ∀ c ∈ columns, seen (some j.tableAlias) c) {x y : JoinedRow}
    (hxy : x.AlikeOn seen y) :
    List.Forall₂ (JoinedRow.AlikeOn seen) (j.extend columns x) (j'.extend columns y) := by
  have hkept : List.Forall₂ (Entries.AlikeOn (seen (some j.tableAlias)))
      (j.table.rows.filter (j.belongs x.base)) (j'.table.rows.filter (j'.belongs y.base)) :=
    List.rel_filter (fun r r' hr => by
      show j.belongs x.base r = true ↔ j'.belongs y.base r' = true
      rw [belongs_eq_of_alikeOn h hxy.base hr]) h.table.rows
  have hsorted := forall₂_sortedBy hcolumns hkept
  -- one row is added for each that is found, and one without any if none is
  have hone : ∀ found found' : Option StoredRow,
      Option.Rel (Entries.AlikeOn (seen (some j.tableAlias))) found found' →
        JoinedRow.AlikeOn seen { x with related := x.related ++ [(j.tableAlias, found)] }
          { y with related := y.related ++ [(j'.tableAlias, found')] } := fun found found' hfound =>
    ⟨hxy.base, List.rel_append hxy.related (.cons ⟨h.tableAlias, hfound⟩ .nil)⟩
  unfold Join.extend
  generalize sortedBy columns (j.table.rows.filter (j.belongs x.base)) = found at hsorted
  generalize sortedBy columns (j'.table.rows.filter (j'.belongs y.base)) = found' at hsorted
  cases hsorted with
  | nil => exact .cons (hone none none .none) .nil
  | cons hhead htail =>
      dsimp only
      rw [List.forall₂_map_left_iff, List.forall₂_map_right_iff]
      exact (List.Forall₂.cons hhead htail).imp fun r r' hr => hone _ _ (.some hr)

theorem lookupColumns_eq {q q' : Query α} (h : q.AlikeOn seen q') {j j' : Join}
    (hj : j.AlikeOn seen j') : q.lookupColumns j = q'.lookupColumns j' := by
  unfold Query.lookupColumns Query.leavesFew
  rw [primaryKey_congr h.base.columns, primaryKey_congr hj.table.columns,
    column?_congr hj.table.columns, h.conditions, hj.tableAlias, hj.relatedColumn, hj.affinity,
    hj.shown]

theorem seen_of_mem_lookupColumns {q : Query α} {j j' : Join} (hj : j.AlikeOn seen j') :
    ∀ c ∈ q.lookupColumns j, seen (some j.tableAlias) c := by
  intro c hc
  unfold Query.lookupColumns at hc
  dsimp only at hc
  split at hc
  · cases hc
  · split at hc
    · exact hj.table.seesKey c (List.mem_of_mem_tail hc)
    · split at hc
      · cases hc
      · rw [List.mem_singleton.1 hc]
        exact hj.seesShown

theorem scanColumns_eq {q q' : Query α} (h : q.AlikeOn seen q') :
    q.scanColumns = q'.scanColumns := by
  unfold Query.scanColumns
  rw [primaryKey_congr h.base.columns, h.base.columns, h.conditions]

theorem seen_of_mem_scanColumns {q q' : Query α} (h : q.AlikeOn seen q') :
    ∀ c ∈ q.scanColumns, seen none c := by
  intro c hc
  refine h.base.seesKey c ?_
  unfold Query.scanColumns at hc
  cases hkey : q.base.primaryKey with
  | nil => simp [hkey] at hc
  | cons first rest =>
      simp only [hkey] at hc
      split at hc
      · cases hc
      · split at hc
        · exact hc
        · cases hc

theorem forall₂_joinedRows {q q' : Query α} (h : q.AlikeOn seen q') :
    List.Forall₂ (JoinedRow.AlikeOn seen) q.joinedRows q'.joinedRows := by
  have hscan := forall₂_sortedBy (seen_of_mem_scanColumns h) h.base.rows
  have hstart : List.Forall₂ (JoinedRow.AlikeOn seen)
      ((sortedBy q.scanColumns q.base.rows).map fun r => ⟨r, []⟩)
      ((sortedBy q'.scanColumns q'.base.rows).map fun r => ⟨r, []⟩) := by
    rw [← scanColumns_eq h, List.forall₂_map_left_iff, List.forall₂_map_right_iff]
    exact hscan.imp fun r r' hr => ⟨hr, .nil⟩
  unfold Query.joinedRows
  have hjoins := h.joins
  generalize ((sortedBy q.scanColumns q.base.rows).map fun r => JoinedRow.mk r []) = xs at hstart
  generalize ((sortedBy q'.scanColumns q'.base.rows).map fun r => JoinedRow.mk r []) = ys at hstart
  generalize q.joins = js at hjoins
  generalize q'.joins = js' at hjoins
  induction hjoins generalizing xs ys with
  | nil => exact hstart
  | cons hj _ ih =>
      refine ih _ _ (List.rel_flatMap hstart fun x y hxy => ?_)
      rw [← lookupColumns_eq h hj]
      exact forall₂_extend hj (seen_of_mem_lookupColumns hj) hxy

/-- Queries over tables that are alike find rows that are alike. -/
theorem Query.AlikeOn.forall₂_rows {q q' : Query Stored} (h : q.AlikeOn seen q') :
    List.Forall₂ (JoinedRow.AlikeOn seen) q.rows q'.rows := by
  refine List.rel_filter (fun x y hxy => ?_) (forall₂_joinedRows h)
  show q.holds x = true ↔ q'.holds y = true
  unfold Query.holds
  rw [← h.conditions, List.all_eq_true, List.all_eq_true]
  refine forall₂_congr fun p hp => ?_
  rw [truth_eq_of_alikeOn hxy (h.seesConditions p hp)]

theorem Query.AlikeOn.count_eq {q q' : Query Stored} (h : q.AlikeOn seen q') :
    q.count = q'.count := h.forall₂_rows.length_eq

/-- Replacing the values of a condition leaves its columns as they are. -/
theorem columnsOf_traverse {β : Type} {f : α → Attempt β} {p : Condition α} {q : Condition β}
    (h : p.traverse f = .ok q) : Direct.columnsOf q = Direct.columnsOf p := by
  induction p generalizing q with
  | compare op c v | among c vs =>
      obtain ⟨_, -, hq⟩ := bind_eq_ok.1 h
      rw [← pure_eq_ok.1 hq]
      rfl
  | both p q ihp ihq | either p q ihp ihq =>
      obtain ⟨p', hp, h⟩ := bind_eq_ok.1 h
      obtain ⟨q', hq, h⟩ := bind_eq_ok.1 h
      rw [← pure_eq_ok.1 h]
      exact congrArg₂ (· ++ ·) (ihp hp) (ihq hq)
  | _ =>
      cases h
      rfl

theorem seen_of_mapM_traverse {β : Type} {f : α → Attempt β} {ps : List (Condition α)}
    {qs : List (Condition β)} (h : ps.mapM (Condition.traverse f) = .ok qs)
    (hps : ∀ p ∈ ps, ∀ c ∈ Direct.columnsOf p, c.SeenIn seen) :
    ∀ q ∈ qs, ∀ c ∈ Direct.columnsOf q, c.SeenIn seen := by
  have hall := mapM_eq_ok.1 h
  clear h
  induction hall with
  | nil => exact fun q hq => (nomatch hq)
  | @cons p q _ _ hpq _ ih =>
      rw [List.forall_mem_cons] at hps ⊢
      exact ⟨by rw [columnsOf_traverse hpq]; exact hps.1, ih hps.2⟩

/-- Whether the tables of a query can be joined depends on their names and columns alone. -/
theorem runnable_of_map_eq {q q' : Query α} (hbase : q.base.name = q'.base.name)
    (hjoins : q.joins.map (fun j => (j.tableAlias, j.relatedColumn, j.shown, j.table.columns)) =
      q'.joins.map fun j => (j.tableAlias, j.relatedColumn, j.shown, j.table.columns))
    (h : q.Runnable) : q'.Runnable := by
  have haliases : q.joins.map (·.tableAlias) = q'.joins.map (·.tableAlias) := by
    have hfirst := congrArg (List.map fun parts => parts.1) hjoins
    rwa [List.map_map, List.map_map] at hfirst
  have hlength : q.joins.length = q'.joins.length := by
    simpa only [List.length_map] using congrArg List.length hjoins
  have hfound : ∀ j' ∈ q'.joins, ∃ j ∈ q.joins, j.tableAlias = j'.tableAlias ∧
      j.relatedColumn = j'.relatedColumn ∧ j.shown = j'.shown ∧
        j.table.columns = j'.table.columns := by
    intro j' hj'
    obtain ⟨j, hj, hsame⟩ := List.mem_map.1 (hjoins ▸ List.mem_map_of_mem hj')
    simp only [Prod.mk.injEq] at hsame
    exact ⟨j, hj, hsame⟩
  refine ⟨hlength ▸ h.tables, haliases ▸ h.aliases, fun j' hj' => ?_, fun j' hj' k' hk' => ?_⟩
  · obtain ⟨j, hj, halias, -⟩ := hfound j' hj'
    rw [← halias, ← hbase]
    exact h.base j hj
  · obtain ⟨j, hj, hjalias, hrelated, hshown, -⟩ := hfound j' hj'
    obtain ⟨k, hk, hkalias, -, -, hcolumns⟩ := hfound k' hk'
    have hapart := h.apart j hj k hk
    unfold Join.blurredBy at hapart ⊢
    rwa [← hjalias, ← hrelated, ← hshown, ← hkalias, ← hcolumns]

theorem runnable_iff_of_alikeOn {q q' : Query α} (h : q.AlikeOn seen q') :
    q.Runnable ↔ q'.Runnable := by
  have hjoins : q.joins.map (fun j => (j.tableAlias, j.relatedColumn, j.shown, j.table.columns)) =
      q'.joins.map fun j => (j.tableAlias, j.relatedColumn, j.shown, j.table.columns) := by
    rw [← List.forall₂_eq_eq_eq, List.forall₂_map_left_iff, List.forall₂_map_right_iff]
    exact h.joins.imp fun j j' hj => by
      rw [hj.tableAlias, hj.relatedColumn, hj.shown, hj.table.columns]
  exact ⟨runnable_of_map_eq h.base.name hjoins, runnable_of_map_eq h.base.name.symm hjoins.symm⟩

/-- Queries over tables that are alike can be bound alike. -/
theorem Query.AlikeOn.alike_bind {q q' : Query Value} (h : q.AlikeOn seen q') :
    Alike (Query.AlikeOn seen) q.bind q'.bind := by
  have hsame := runnable_iff_of_alikeOn h
  rw [Query.bind_eq, Query.bind_eq, h.conditions]
  by_cases hruns : q'.Runnable
  · rw [if_pos (hsame.2 hruns), if_pos hruns]
    cases hbound : q'.conditions.mapM (Condition.traverse Store.bind) with
    | error e => trivial
    | ok bound =>
        exact ⟨h.base, h.joins, rfl, seen_of_mapM_traverse hbound (h.conditions ▸ h.seesConditions)⟩
  · rw [if_neg fun h' => hruns (hsame.1 h'), if_neg hruns]
    trivial

end Queries

end Store

end AdminGrid

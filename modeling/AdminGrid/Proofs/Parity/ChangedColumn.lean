import AdminGrid.Proofs.Parity.Answers
import AdminGrid.Proofs.Store.Sight

/-!
# Items with other cells in one column

When the cells of one column are made in another way, the items of a page fail where such a cell
fails, and differ in that column alone.  Under the keys that a table sets itself they do not differ
at all: its numbers, its action cells and the attributes of its rows.
-/

namespace AdminGrid

open Direct

/-- Whether the items of a table hold under a key what the table sets there, whatever their cells
are. -/
def TableDescriptor.setsKey (d : TableDescriptor) (key : String) : Bool :=
  (d.numbering && (key == "DT_RowIndex" || key == Layout.numberColumn)) ||
    (d.actions.enabled && key == Layout.actionColumn) ||
    (d.clickable && (key == "DT_RowAttr" || key == "DT_RowClass"))

section Completed

variable {s : ItemStyle} {row item item' : Entries Value} {seen : String → Prop} {i : Nat}

theorem alike_withNumber (h : item.AlikeOn seen item') :
    Entries.AlikeOn (fun key => seen key ∨ (s.descriptor.numbering &&
      (key == "DT_RowIndex" || key == Layout.numberColumn)) = true)
      (withNumber s i item) (withNumber s i item') := by
  unfold withNumber
  cases s.descriptor.numbering with
  | false => exact h.mono fun key hkey => hkey.resolve_right (by simp)
  | true =>
      have hplace := h.put_same "DT_RowIndex" (Value.int (s.start + i + 1))
      simp only [if_true, ← hplace.has_eq, Bool.true_and, Bool.or_eq_true, beq_iff_eq]
      split
      · refine (hplace.put_same _ _).mono fun key hkey => ?_
        rwa [or_assoc]
      · rename_i hhas
        refine ⟨hplace.keys, fun key hkey => ?_⟩
        rcases hkey with hkey | rfl | rfl
        · exact hplace.get? key (Or.inl hkey)
        · exact hplace.get? _ (Or.inr rfl)
        · -- a column of row numbers that is not there is not set
          have hnone := Option.not_isSome_iff_eq_none.1 hhas
          have hnone' := Option.not_isSome_iff_eq_none.1 (hplace.has_eq Layout.numberColumn ▸ hhas)
          exact hnone.trans hnone'.symm

theorem alike_withAction (h : item.AlikeOn seen item') :
    Alike (Entries.AlikeOn fun key => seen key ∨ (s.descriptor.actions.enabled &&
      key == Layout.actionColumn) = true) (withAction s row item) (withAction s row item') := by
  unfold withAction
  cases s.descriptor.actions.enabled with
  | false => exact h.mono fun key hkey => hkey.resolve_right (by simp)
  | true =>
      simp only [if_true, Bool.true_and, beq_iff_eq]
      refine (Alike.refl _).map fun cell cell' hcell => ?_
      rw [hcell]
      exact h.put_same _ _

theorem alike_withAttributes (h : item.AlikeOn seen item') :
    Alike (Entries.AlikeOn fun key => seen key ∨ (s.descriptor.clickable &&
      (key == "DT_RowAttr" || key == "DT_RowClass")) = true)
      (withAttributes s row item) (withAttributes s row item') := by
  unfold withAttributes
  cases s.descriptor.clickable with
  | false => exact h.mono fun key hkey => hkey.resolve_right (by simp)
  | true =>
      simp only [if_true]
      cases Answer.encodeId (cellAt row (targetField s.descriptor)) with
      | error e => trivial
      | ok token =>
          refine ((h.put_same "DT_RowAttr" _).put_same "DT_RowClass" _).mono fun key hkey => ?_
          simpa [or_assoc] using hkey

/-- What is added to the cells of a row fails alike, and is alike wherever the cells are or the
table sets the key. -/
theorem alike_completed (h : item.AlikeOn seen item') :
    Alike (Entries.AlikeOn fun key => seen key ∨ s.descriptor.setsKey key = true)
      (withAction s row (withNumber s i item) >>= withAttributes s row)
      (withAction s row (withNumber s i item') >>= withAttributes s row) := by
  have hkeys : ∀ key, seen key ∨ s.descriptor.setsKey key = true →
      ((seen key ∨ (s.descriptor.numbering && (key == "DT_RowIndex" || key == Layout.numberColumn))
          = true) ∨ (s.descriptor.actions.enabled && key == Layout.actionColumn) = true) ∨
        (s.descriptor.clickable && (key == "DT_RowAttr" || key == "DT_RowClass")) = true := by
    intro key hkey
    rwa [TableDescriptor.setsKey, Bool.or_eq_true, Bool.or_eq_true, ← or_assoc, ← or_assoc] at hkey
  exact (alike_withAction (alike_withNumber h)).bind fun acted acted' _ _ hacted =>
    (alike_withAttributes hacted).mono fun x x' hxx => hxx.mono hkeys

/-- Under the other keys an item holds the cells of its row. -/
theorem get?_completed {x : Entries Value}
    (h : (withAction s row (withNumber s i item) >>= withAttributes s row) = .ok x) {key : String}
    (hkey : s.descriptor.setsKey key = false) : x.get? key = item.get? key := by
  simp only [TableDescriptor.setsKey, Bool.or_eq_false_iff, Bool.and_eq_false_iff,
    beq_eq_false_iff_ne, Bool.or_eq_false_iff] at hkey
  obtain ⟨⟨hnumber, haction⟩, hclickable⟩ := hkey
  obtain ⟨acted, hmade, h⟩ := bind_eq_ok.1 h
  have hnumbered : (withNumber s i item).get? key = item.get? key := by
    unfold withNumber
    split
    · rename_i hnumbering
      obtain ⟨hindex, hcolumn⟩ := hnumber.resolve_left (by simp [hnumbering])
      dsimp only
      split
      · rw [Entries.get?_put_of_ne _ _ (Ne.symm hcolumn),
          Entries.get?_put_of_ne _ _ (Ne.symm hindex)]
      · exact Entries.get?_put_of_ne _ _ (Ne.symm hindex)
    · rfl
  have hacted : acted.get? key = item.get? key := by
    rw [← hnumbered]
    unfold withAction at hmade
    split at hmade
    · rename_i henabled
      obtain ⟨cell, -, rfl⟩ := map_eq_ok.1 hmade
      exact Entries.get?_put_of_ne _ _ (Ne.symm (haction.resolve_left (by simp [henabled])))
    · rw [Except.ok.inj hmade]
  rw [← hacted]
  unfold withAttributes at h
  split at h
  · rename_i hclick
    obtain ⟨hattr, hclass⟩ := hclickable.resolve_left (by simp [hclick])
    obtain ⟨token, -, h⟩ := bind_eq_ok.1 h
    obtain rfl := pure_eq_ok.1 h
    rw [Entries.get?_put_of_ne _ _ (Ne.symm hclass), Entries.get?_put_of_ne _ _ (Ne.symm hattr)]
  · rw [Except.ok.inj h]

end Completed

/-- Two items of a row whose cells in one column are made in different ways. -/
structure ChangedCell (d : TableDescriptor) (fields : List String) (field : String)
    (old new : Attempt Value) (item item' : Entries Value) : Prop where
  others : item.AlikeOn (fun key =>
    ¬ (key = field ∧ d.setsKey key = false ∧ field ∈ fields ∧ new ≠ old)) item'
  before : field ∈ fields → ∃ v, old = .ok v ∧ (d.setsKey field = false → item.get? field = some v)
  after : field ∈ fields → ∃ v, new = .ok v ∧ (d.setsKey field = false → item'.get? field = some v)

section Changed

variable {s : ItemStyle} {f g : Entries Value → String → Attempt Value} {field : String}
  (hothers : ∀ row other, other ≠ field → g row other = f row other)

include hothers

theorem exists_cells_iff {row : Entries Value} {fields : List String}
    {cells : List (String × Value)}
    (h : (fields.mapM fun field => do return (field, ← f row field)) = .ok cells) :
    (∃ cells', (fields.mapM fun field => do return (field, ← g row field)) = .ok cells') ↔
      (field ∈ fields → ∃ v, g row field = .ok v) := by
  have hcell (k : Entries Value → String → Attempt Value) (other : String) :
      (∃ e : String × Value, (do return (other, ← k row other)) = .ok e) ↔
        ∃ v, k row other = .ok v := by
    cases k row other <;> simp [bind, Except.bind, pure, Except.pure]
  have hold := exists_mapM_iff.1 ⟨cells, h⟩
  simp only [exists_mapM_iff, hcell] at hold ⊢
  refine ⟨fun hnew => hnew field, fun hnew other hother => ?_⟩
  by_cases heq : other = field
  · exact heq ▸ hnew (heq ▸ hother)
  · rw [hothers row other heq]
    exact hold other hother

/-- The cells of a row differ in the column alone. -/
theorem alikeOn_cells {row : Entries Value} {fields : List String}
    {cells cells' : List (String × Value)}
    (h : (fields.mapM fun field => do return (field, ← f row field)) = .ok cells)
    (h' : (fields.mapM fun field => do return (field, ← g row field)) = .ok cells') :
    Entries.AlikeOn (fun key => ¬ (key = field ∧ field ∈ fields ∧ g row field ≠ f row field))
      (Entries.ofList cells) (Entries.ofList cells') := by
  have hsame : ∀ key ∈ fields,
      ¬ (key = field ∧ field ∈ fields ∧ g row field ≠ f row field) → f row key = g row key := by
    intro key hmem hkey
    by_cases heq : key = field
    · subst heq
      exact (not_not.1 fun hne => hkey ⟨rfl, hmem, hne⟩).symm
    · exact (hothers row key heq).symm
  exact (Entries.AlikeOn.refl _ []).merge (compatible_pairs fields hsame cells cells' h h')

omit hothers in
theorem get?_cells {row : Entries Value} {fields : List String}
    {cells : List (String × Value)}
    (h : (fields.mapM fun field => do return (field, ← f row field)) = .ok cells)
    (hfield : field ∈ fields) :
    ∃ v, f row field = .ok v ∧ (Entries.ofList cells).get? field = some v := by
  have hcell : ∀ e ∈ cells, f row e.1 = .ok e.2 := by
    intro e he
    obtain ⟨other, -, hother⟩ := exists_of_mem_of_mapM h he
    obtain ⟨w, hw, hother⟩ := bind_eq_ok.1 hother
    obtain rfl := pure_eq_ok.1 hother
    exact hw
  obtain ⟨e, he, hmade⟩ := exists_of_mem_mapM h hfield
  obtain ⟨v, hv, hmade⟩ := bind_eq_ok.1 hmade
  obtain rfl := pure_eq_ok.1 hmade
  refine ⟨v, hv, ?_⟩
  rw [Entries.get?_ofList]
  cases hget : Entries.get? field cells.reverse with
  | none =>
      have hhas : Entries.has field cells.reverse = true :=
        (Entries.mem_keys_iff_has _ _).1 (List.mem_map.2 ⟨_, List.mem_reverse.2 he, rfl⟩)
      rw [Entries.has, hget] at hhas
      cases hhas
  | some w =>
      have hw := hcell _ (List.mem_reverse.1 (Entries.mem_of_get?_eq_some hget))
      rw [hv] at hw
      rw [Except.ok.inj hw]

omit hothers in
theorem get?_itemWith {row item : Entries Value} (h : itemWith s f i row = .ok item)
    (hfield : field ∈ s.fields) :
    ∃ v, f row field = .ok v ∧ (s.descriptor.setsKey field = false → item.get? field = some v) := by
  obtain ⟨cells, hcells, hitem⟩ := bind_eq_ok.1 h
  obtain ⟨v, hv, hget⟩ := get?_cells hcells hfield
  exact ⟨v, hv, fun hkey => (get?_completed hitem hkey).trans hget⟩

/-- The item of a row fails where the cell of the column fails, and differs in it alone. -/
theorem itemWith_changed {row item : Entries Value} (h : itemWith s f i row = .ok item) :
    ((∃ item', itemWith s g i row = .ok item') ↔ (field ∈ s.fields → ∃ v, g row field = .ok v)) ∧
      ∀ item', itemWith s g i row = .ok item' →
        ChangedCell s.descriptor s.fields field (f row field) (g row field) item item' := by
  obtain ⟨cells, hcells, hitem⟩ := bind_eq_ok.1 h
  refine ⟨?_, fun item' h' => ?_⟩
  · rw [← exists_cells_iff hothers hcells]
    constructor
    · rintro ⟨item', h'⟩
      obtain ⟨cells', hcells', -⟩ := bind_eq_ok.1 h'
      exact ⟨cells', hcells'⟩
    · rintro ⟨cells', hcells'⟩
      have halike := @alike_completed s row _ _ _ i (alikeOn_cells hothers hcells hcells')
      rw [hitem] at halike
      rcases halike.error_or_ok with ⟨e, e', he, -⟩ | ⟨x, x', -, hx', -⟩
      · cases he
      · exact ⟨x', bind_eq_ok.2 ⟨cells', hcells', hx'⟩⟩
  · obtain ⟨cells', hcells', hitem'⟩ := bind_eq_ok.1 h'
    have halike := @alike_completed s row _ _ _ i (alikeOn_cells hothers hcells hcells')
    rw [hitem, hitem'] at halike
    refine ⟨Entries.AlikeOn.mono halike fun key hkey => ?_, get?_itemWith h, get?_itemWith h'⟩
    cases hsets : s.descriptor.setsKey key with
    | true => exact Or.inr rfl
    | false => exact Or.inl fun hnew => hkey ⟨hnew.1, hsets, hnew.2⟩

omit hothers in
theorem exists_of_itemsWith {rows items : List (Entries Value)}
    (h : itemsWith s f i rows = .ok items) {row : Entries Value} (hrow : row ∈ rows)
    (hfield : field ∈ s.fields) : ∃ v, f row field = .ok v := by
  induction rows generalizing i items with
  | nil => cases hrow
  | cons other rest ih =>
      obtain ⟨item, hitem, h⟩ := bind_eq_ok.1 h
      obtain ⟨others, hrest, -⟩ := bind_eq_ok.1 h
      rcases List.mem_cons.1 hrow with rfl | hrow
      · obtain ⟨v, hv, -⟩ := get?_itemWith hitem hfield
        exact ⟨v, hv⟩
      · exact ih hrest hrow

/-- The items of a page fail where a cell of the column fails, and differ in it alone. -/
theorem itemsWith_changed {rows items : List (Entries Value)}
    (h : itemsWith s f i rows = .ok items) :
    ((∃ items', itemsWith s g i rows = .ok items') ↔
        ∀ row ∈ rows, field ∈ s.fields → ∃ v, g row field = .ok v) ∧
      ∀ items', itemsWith s g i rows = .ok items' →
        ∃ pairs : List (Entries Value × Entries Value), items = pairs.map (·.1) ∧
          items' = pairs.map (·.2) ∧
          List.Forall₂ (fun row pair => ChangedCell s.descriptor s.fields field (f row field)
            (g row field) pair.1 pair.2) rows pairs := by
  induction rows generalizing i items with
  | nil =>
      obtain rfl := Except.ok.inj h
      refine ⟨iff_of_true ⟨[], rfl⟩ fun row hrow => (nomatch hrow), fun items' h' => ?_⟩
      obtain rfl := Except.ok.inj h'
      exact ⟨[], rfl, rfl, .nil⟩
  | cons row rest ih =>
      obtain ⟨item, hitem, h⟩ := bind_eq_ok.1 h
      obtain ⟨others, hrest, h⟩ := bind_eq_ok.1 h
      obtain rfl := pure_eq_ok.1 h
      have hrow := itemWith_changed hothers hitem
      obtain ⟨hall, hpairs⟩ := ih hrest
      refine ⟨?_, fun items' h' => ?_⟩
      · rw [List.forall_mem_cons, ← hrow.1, ← hall]
        constructor
        · rintro ⟨items', h'⟩
          obtain ⟨item', hitem', h'⟩ := bind_eq_ok.1 h'
          obtain ⟨others', hrest', -⟩ := bind_eq_ok.1 h'
          exact ⟨⟨item', hitem'⟩, others', hrest'⟩
        · rintro ⟨⟨item', hitem'⟩, others', hrest'⟩
          have hpage : (do return item' :: (← itemsWith s g (i + 1) rest) : Attempt _) =
              .ok (item' :: others') := bind_eq_ok.2 ⟨others', hrest', rfl⟩
          exact ⟨item' :: others', bind_eq_ok.2 ⟨item', hitem', hpage⟩⟩
      · obtain ⟨item', hitem', h'⟩ := bind_eq_ok.1 h'
        obtain ⟨others', hrest', h'⟩ := bind_eq_ok.1 h'
        obtain rfl := pure_eq_ok.1 h'
        obtain ⟨pairs, rfl, rfl, hforall⟩ := hpairs others' hrest'
        exact ⟨(item, item') :: pairs, rfl, rfl, .cons (hrow.2 item' hitem') hforall⟩

end Changed

end AdminGrid

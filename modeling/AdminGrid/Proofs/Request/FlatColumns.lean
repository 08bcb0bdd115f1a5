import AdminGrid.Proofs.Request.FlatKeys
import AdminGrid.Request.Paging

/-!
# Columns from flat keys

What a request says about its columns is one value for each attribute, and each value stands under a
flat key of its own.  Whatever the order of the keys, the columns that are collected from them hold
these values, and they come in the order of their indexes.
-/

namespace AdminGrid.Request

/-- What a request can say about a column. -/
inductive Attribute where
  | data
  | searchable
  /-- The value in the search of a column. -/
  | search

namespace Attribute

/-- The name of an attribute in what is collected of a column. -/
def name : Attribute → String
  | data => "data"
  | searchable => "searchable"
  | search => "search"

/-- The part of the attribute that a value is. -/
def part : Attribute → Option String
  | search => some "value"
  | _ => none

/-- The steps from a column to a value. -/
def path : Attribute → List Step
  | search => [.name "search", .name "value"]
  | a => [.name a.name]

/-- The flat key of a value of a column. -/
def key (a : Attribute) (i : Nat) : String := flatKey "columns" (.index i :: a.path)

/-- A value as it is collected. -/
def stored (a : Attribute) (v : Value) : Value :=
  match a with
  | search => .map [("value", v)]
  | _ => v

theorem columnKey?_key (a : Attribute) (i : Nat) :
    columnKey? (a.key i) = some ⟨(toString i).toList, a.name, a.part⟩ := by
  cases a with
  | data => exact columnKey?_attribute i (by decide) (by decide)
  | searchable => exact columnKey?_attribute i (by decide) (by decide)
  | search => exact columnKey?_part i (by decide) (by decide) (by decide) (by decide)

theorem name_inj {a b : Attribute} (h : a.name = b.name) : a = b := by
  cases a <;> cases b <;> first | rfl | exact absurd h (by decide)

theorem key_inj {a b : Attribute} {i j : Nat} (h : a.key i = b.key j) : i = j ∧ a = b := by
  have hread := (columnKey?_key a i).symm.trans ((congrArg columnKey? h).trans (columnKey?_key b j))
  rw [Option.some.injEq, ColumnKey.mk.injEq] at hread
  exact ⟨index_inj (String.toList_inj.1 hread.1), name_inj hread.2.1⟩

end Attribute

section Sorted

variable {g : Gathered} {n : Nat}

theorem column_of_mem (hnodup : (g.columns.map (·.1)).Nodup) {c : Nat × Params}
    (hc : c ∈ g.columns) : g.column c.1 = c.2 := by
  unfold Gathered.column
  cases hfind : g.columns.find? (·.1 == c.1) with
  | none => exact absurd (beq_self_eq_true c.1) (List.find?_eq_none.1 hfind c hc)
  | some d =>
      have hd := List.find?_some hfind
      rw [List.inj_on_of_nodup_map hnodup (List.mem_of_find?_eq_some hfind) hc (eq_of_beq hd)]
      rfl

theorem column_of_not_mem {i : Nat} (h : i ∉ g.columns.map (·.1)) : g.column i = [] := by
  have hfind : g.columns.find? (·.1 == i) = none := by
    rw [List.find?_eq_none]
    exact fun c hc hci => h (eq_of_beq hci ▸ List.mem_map_of_mem hc)
  unfold Gathered.column
  rw [hfind]
  rfl

/-- Sorted by their indexes, the indexes are those of all columns that were collected. -/
theorem map_fst_mergeSort (hnodup : (g.columns.map (·.1)).Nodup)
    (hlt : ∀ i ∈ g.columns.map (·.1), i < n) :
    (g.columns.mergeSort fun a b => a.1 ≤ b.1).map (·.1) =
      (List.range n).filter (g.columns.map (·.1)).contains := by
  have hperm := (List.mergeSort_perm g.columns fun a b => a.1 ≤ b.1).map (·.1)
  have hsorted := @List.pairwise_mergeSort _ (fun a b : Nat × Params => decide (a.1 ≤ b.1))
    (fun a b c => by simpa using Nat.le_trans) (fun a b => by simpa using Nat.le_total a.1 b.1)
    g.columns
  have hrange : ((List.range n).filter (g.columns.map (·.1)).contains).Pairwise (· ≤ ·) :=
    (List.pairwise_lt_range.imp Nat.le_of_lt).filter _
  refine List.Perm.eq_of_pairwise (fun i j _ _ => Nat.le_antisymm)
    (List.pairwise_map.2 (hsorted.imp of_decide_eq_true)) hrange ?_
  rw [List.perm_ext_iff_of_nodup (hperm.nodup_iff.2 hnodup) (List.nodup_range.filter _)]
  intro i
  rw [hperm.mem_iff, List.mem_filter, List.contains_iff_mem, List.mem_range]
  exact ⟨fun hi => ⟨hlt i hi, hi⟩, fun hi => hi.2⟩

/-- What is found in the collected columns in the order of their indexes is found at one index after
the other. -/
theorem filterMap_mergeSort {β : Type} (f : Params → Option β) (hempty : f [] = none)
    (hnodup : (g.columns.map (·.1)).Nodup) (hlt : ∀ i ∈ g.columns.map (·.1), i < n) :
    ((g.columns.mergeSort fun a b => a.1 ≤ b.1).map (·.2)).filterMap f =
      (List.range n).filterMap fun i => f (g.column i) := by
  have hcolumn : ∀ c ∈ g.columns.mergeSort fun a b => a.1 ≤ b.1,
      f c.2 = f (g.column c.1) := fun c hc => by
    rw [column_of_mem hnodup (List.mem_mergeSort.1 hc)]
  have habsent (i : Nat) : (if (g.columns.map (·.1)).contains i = true then f (g.column i)
      else none) = f (g.column i) := by
    split
    · rfl
    · rename_i hnot
      rw [column_of_not_mem fun hi => hnot (List.contains_iff_mem.2 hi), hempty]
  calc ((g.columns.mergeSort fun a b => a.1 ≤ b.1).map (·.2)).filterMap f
      = (g.columns.mergeSort fun a b => a.1 ≤ b.1).filterMap fun c => f (g.column c.1) := by
        rw [List.filterMap_map]
        exact List.filterMap_congr hcolumn
    _ = ((g.columns.mergeSort fun a b => a.1 ≤ b.1).map (·.1)).filterMap
          fun i => f (g.column i) := by
        rw [List.filterMap_map]
        rfl
    _ = (List.range n).filterMap fun i => f (g.column i) := by
        rw [map_fst_mergeSort hnodup hlt, List.filterMap_filter]
        exact List.filterMap_congr fun i _ => habsent i

end Sorted

section Collected

variable (leaf : Nat → Attribute → Option Value) (n : Nat)

/-- Whether a parameter is no column's, or gives a column one of its values. -/
def GivesLeaf (e : String × Value) : Prop :=
  columnKey? e.1 = none ∨ ∃ i < n, ∃ a, a.key i = e.1 ∧ leaf i a = some e.2

/-- What is collected holds values of the columns, and all that were given before. -/
structure Collects (before : Params) (g : Gathered) : Prop where
  nodup : (g.columns.map (·.1)).Nodup
  lt : ∀ i ∈ g.columns.map (·.1), i < n
  sound : ∀ i (a : Attribute) v, (g.column i).get? a.name = some v →
    ∃ w, leaf i a = some w ∧ v = a.stored w
  complete : ∀ i (a : Attribute) v, (a.key i, v) ∈ before →
    ((g.column i).get? a.name).isSome = true

variable {leaf n} {before : Params} {g g' : Gathered}

theorem collects_nil : Collects leaf n [] ⟨[], []⟩ where
  nodup := List.nodup_nil
  lt _ h := nomatch h
  sound _ _ _ h := nomatch h
  complete _ _ _ h := nomatch h

/-- The parameters that are collected beside the columns do not matter. -/
theorem Collects.congr (h : Collects leaf n before g) (hcolumns : g'.columns = g.columns) :
    Collects leaf n before g' := by
  have hcolumn (i : Nat) : g'.column i = g.column i := by
    unfold Gathered.column
    rw [hcolumns]
  constructor
  · exact hcolumns ▸ h.nodup
  · exact hcolumns ▸ h.lt
  · exact fun i a v hv => h.sound i a v (hcolumn i ▸ hv)
  · exact fun i a v hv => hcolumn i ▸ h.complete i a v hv

theorem Collects.pass (h : Collects leaf n before g) {e : String × Value}
    (he : columnKey? e.1 = none) : Collects leaf n (before ++ [e]) g := by
  refine ⟨h.nodup, h.lt, h.sound, fun i a v hmem => ?_⟩
  rcases List.mem_append.1 hmem with hmem | hmem
  · exact h.complete i a v hmem
  · obtain rfl := List.mem_singleton.1 hmem
    rw [a.columnKey?_key i] at he
    cases he

theorem map_fst_setColumn (g : Gathered) (i : Nat) (attributes : Params) :
    (g.setColumn i attributes).columns.map (·.1) =
      if i ∈ g.columns.map (·.1) then g.columns.map (·.1) else g.columns.map (·.1) ++ [i] := by
  have hany : (g.columns.any (·.1 == i)) = true ↔ i ∈ g.columns.map (·.1) := by
    rw [List.any_eq_true, List.mem_map]
    simp only [beq_iff_eq]
  unfold Gathered.setColumn
  split
  · rename_i hi
    rw [if_pos (hany.1 hi)]
    simp only [List.map_map]
    rfl
  · rename_i hi
    rw [if_neg (mt hany.2 hi), List.map_append]
    rfl

/-- One value more is collected. -/
theorem Collects.put (h : Collects leaf n before g) {i : Nat} (hi : i < n) {a : Attribute}
    {v : Value} (hv : leaf i a = some v) :
    Collects leaf n (before ++ [(a.key i, v)])
      (g.setColumn i ((g.column i).put a.name (a.stored v))) := by
  constructor
  · rw [map_fst_setColumn]
    split
    · exact h.nodup
    · rename_i hnot
      exact List.nodup_append.2 ⟨h.nodup, List.nodup_singleton i,
        fun x hx y hy hxy => hnot (List.mem_singleton.1 hy ▸ hxy ▸ hx)⟩
  · intro j hj
    rw [map_fst_setColumn] at hj
    split at hj
    · exact h.lt j hj
    · rcases List.mem_append.1 hj with hj | hj
      · exact h.lt j hj
      · exact List.mem_singleton.1 hj ▸ hi
  · intro j b w hw
    rw [get?_column_setColumn_put] at hw
    split at hw
    · rename_i hsame
      obtain ⟨rfl, hname⟩ := hsame
      obtain rfl := Attribute.name_inj hname
      exact ⟨v, hv, (Option.some.inj hw).symm⟩
    · exact h.sound j b w hw
  · intro j b w hmem
    rw [get?_column_setColumn_put]
    split
    · rfl
    · rename_i hother
      rcases List.mem_append.1 hmem with hmem | hmem
      · exact h.complete j b w hmem
      · obtain ⟨rfl, rfl⟩ := Attribute.key_inj (Prod.mk.inj (List.mem_singleton.1 hmem)).1
        exact absurd ⟨rfl, rfl⟩ hother

/-- What the key of a value sets is the value as it is collected. -/
theorem Collects.set (h : Collects leaf n before g) {i : Nat} {a : Attribute} {v : Value} :
    ∃ g', g.set i ⟨(toString i).toList, a.name, a.part⟩ v = .ok g' ∧
      g'.columns = (g.setColumn i ((g.column i).put a.name (a.stored v))).columns := by
  cases a with
  | data => exact ⟨_, rfl, rfl⟩
  | searchable => exact ⟨_, rfl, rfl⟩
  | search =>
      have hparts : ∃ parts : Params,
          ((g.column i).get? "search").getD (.map []) = .map parts ∧
            Entries.put "value" v parts = [("value", v)] := by
        cases hget : (g.column i).get? "search" with
        | none => exact ⟨[], rfl, rfl⟩
        | some old =>
            obtain ⟨w, -, rfl⟩ := h.sound i .search old hget
            exact ⟨[("value", w)], rfl, rfl⟩
      obtain ⟨parts, hget, hput⟩ := hparts
      simp only [Gathered.set, Attribute.part, Attribute.name, hget, hput]
      split
      · exact ⟨_, rfl, rfl⟩
      · exact ⟨_, rfl, rfl⟩

/-- All values are collected, whatever the order of their keys. -/
theorem Collects.gather (hn : n ≤ tenTo Reading.maxDigits) {rest : Params}
    (hrest : ∀ e ∈ rest, GivesLeaf leaf n e) (h : Collects leaf n before g) :
    ∃ g', (gather g rest).2 = .ok g'.columns ∧ Collects leaf n (before ++ rest) g' := by
  induction rest generalizing before g with
  | nil => exact ⟨g, rfl, (List.append_nil before).symm ▸ h⟩
  | cons e rest ih =>
      obtain ⟨key, v⟩ := e
      rw [List.forall_mem_cons] at hrest
      rw [List.append_cons]
      obtain hkey | ⟨i, hi, a, rfl, hleaf⟩ := hrest.1
      · simp only [Request.gather, hkey]
        exact ih hrest.2 ((h.pass hkey).congr rfl)
      · have hindex : Reading.int? (String.ofList (toString i).toList) = some (i : Int) := by
          rw [String.ofList_toList, int?_index (Nat.lt_of_lt_of_le hi hn)]
        obtain ⟨next, hnext, hcolumns⟩ := h.set (i := i) (a := a) (v := v)
        simp only [Request.gather, a.columnKey?_key i, hindex, Int.toNat_natCast, hnext]
        exact ih hrest.2 ((h.put hi hleaf).congr hcolumns)

/-- Where all values have been given, an attribute that was collected holds its value. -/
theorem Collects.get?_column {params : Params} (h : Collects leaf n params g)
    (hgiven : ∀ i a v, leaf i a = some v → (a.key i, v) ∈ params) (i : Nat) (a : Attribute) :
    (g.column i).get? a.name = (leaf i a).map a.stored := by
  cases hleaf : leaf i a with
  | none =>
      cases hget : (g.column i).get? a.name with
      | none => rfl
      | some v =>
          obtain ⟨w, hw, -⟩ := h.sound i a v hget
          rw [hleaf] at hw
          cases hw
  | some v =>
      obtain ⟨w, hw⟩ := Option.isSome_iff_exists.1 (h.complete i a v (hgiven i a v hleaf))
      obtain ⟨u, hu, rfl⟩ := h.sound i a w hw
      rw [hleaf, Option.some.injEq] at hu
      rw [hw, hu]
      rfl

/-- The columns of a request whose values stand under flat keys are read, and at each index what is
read has the values of that column. -/
theorem columnEntries_of_leaves (hn : n ≤ tenTo Reading.maxDigits) {params : Params}
    (hlisted : listedColumns? params = none) (hkeys : ∀ e ∈ params, GivesLeaf leaf n e)
    (hgiven : ∀ i a v, leaf i a = some v → (a.key i, v) ∈ params) :
    ∃ columns, columnEntries params = .ok columns ∧ ∃ at_ : Nat → Params,
      (∀ i a, (at_ i).get? (Attribute.name a) = (leaf i a).map a.stored) ∧
      columns.filterMap columnSearch? =
        (List.range n).filterMap fun i => columnSearch? (at_ i) := by
  obtain ⟨g, hg, hcollects⟩ := collects_nil.gather hn hkeys
  rw [List.nil_append] at hcollects
  refine ⟨(g.columns.mergeSort fun a b => a.1 ≤ b.1).map (·.2), ?_, g.column,
    hcollects.get?_column hgiven, filterMap_mergeSort _ rfl hcollects.nodup hcollects.lt⟩
  unfold columnEntries
  rw [hlisted]
  dsimp only
  rw [hg]
  rfl

end Collected

end AdminGrid.Request

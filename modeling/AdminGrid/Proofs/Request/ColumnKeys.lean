import AdminGrid.Proofs.Entries
import AdminGrid.Proofs.Outcome
import AdminGrid.Request.Params

/-!
# Flat column keys

The flat keys of a request are read one after the other.  A key may give an attribute of a column as
a whole, or set one part of it, and the two can contradict each other: an attribute that was last
given as a whole by a value that is no map takes no parts.  Whether the reading succeeds is settled
here by the keys and the order in which they come, without what is collected on the way.
-/

namespace AdminGrid.Request

/-- The index of the column that a key is about.  A number with more digits than are read is
none. -/
def ColumnKey.index? (k : ColumnKey) : Option Nat :=
  (Reading.int? (String.ofList k.digits)).map Int.toNat

/-- What a parameter gives an attribute of a column as a whole. -/
def whole? (i : Nat) (name : String) (e : String × Value) : Option Value :=
  match columnKey? e.1 with
  | some k => if k.part = none ∧ k.name = name ∧ k.index? = some i then some e.2 else none
  | none => none

/-- The value that an attribute of a column was last given as a whole. -/
def lastWhole? (params : Params) (i : Nat) (name : String) : Option Value :=
  (params.filterMap (whole? i name)).getLast?

/-- Whether a key can be read after the parameters before it: it is no column's, or its index can be
read and the attribute takes parts if the key sets one. -/
def Fits (before : Params) (key : String) : Prop :=
  ∀ k, columnKey? key = some k → ∃ i, k.index? = some i ∧
    (k.part ≠ none → ∀ v, lastWhole? before i k.name = some v → ∃ parts, v = .map parts)

/-- Whether what a request says about its columns can be read: they are listed under one key, or
every flat key can be read where it stands. -/
def ColumnsReadable (params : Params) : Prop :=
  listedColumns? params ≠ none ∨
    ∀ before key v after, params = before ++ (key, v) :: after → Fits before key

section Columns

variable (g : Gathered) (i j : Nat)

theorem find?_map_snd (columns : List (Nat × Params)) (attributes : Params) :
    (columns.map fun (j, old) => (j, if j = i then attributes else old)).find? (·.1 == j) =
      (columns.find? (·.1 == j)).map fun (j, old) => (j, if j = i then attributes else old) := by
  rw [List.find?_map]
  rfl

theorem column_setColumn (attributes : Params) :
    (g.setColumn i attributes).column j = if j = i then attributes else g.column j := by
  unfold Gathered.setColumn Gathered.column
  by_cases hany : g.columns.any (·.1 == i) = true
  · rw [if_pos hany]
    simp only [find?_map_snd]
    by_cases hj : j = i
    · subst hj
      obtain ⟨c, hc, hci⟩ := List.any_eq_true.1 hany
      cases hfind : g.columns.find? (·.1 == j) with
      | none => exact absurd hci (List.find?_eq_none.1 hfind c hc)
      | some e =>
          have he : e.1 = j := by simpa using List.find?_some hfind
          simp [he]
    · rw [if_neg hj]
      cases hfind : g.columns.find? (·.1 == j) with
      | none => rfl
      | some e =>
          have he : e.1 = j := by simpa using List.find?_some hfind
          simp [he, hj]
  · rw [if_neg hany]
    have hnone : g.columns.find? (·.1 == i) = none := by
      rw [List.find?_eq_none]
      intro c hc hci
      exact hany (List.any_eq_true.2 ⟨c, hc, hci⟩)
    simp only [List.find?_append]
    by_cases hj : j = i
    · subst hj
      simp [hnone]
    · have hne : ¬ i = j := fun h => hj h.symm
      simp [hj, hne]

end Columns

section LastWhole

variable (before : Params) (i : Nat) (name : String)

theorem lastWhole?_concat (e : String × Value) :
    lastWhole? (before ++ [e]) i name = (whole? i name e).or (lastWhole? before i name) := by
  unfold lastWhole?
  rw [List.filterMap_append]
  cases h : whole? i name e <;> simp [h]

theorem whole?_of_columnKey?_eq_none {key : String} (v : Value) (h : columnKey? key = none) :
    whole? i name (key, v) = none := by
  simp [whole?, h]

theorem whole?_of_part {key : String} {k : ColumnKey} (v : Value) (h : columnKey? key = some k)
    (hpart : k.part ≠ none) : whole? i name (key, v) = none := by
  simp [whole?, h, hpart]

end LastWhole

/-- What is collected agrees with what was read: an attribute holds something else than a map
exactly if that was last given as a whole. -/
def Mirrors (before : Params) (g : Gathered) : Prop :=
  ∀ i name v, v.entries? = none →
    ((g.column i).get? name = some v ↔ lastWhole? before i name = some v)

section Step

variable {before : Params} {g : Gathered} {key : String} {k : ColumnKey} {i : Nat}

theorem mirrors_nil : Mirrors [] ⟨[], []⟩ := fun i name v _ => by
  simp [Gathered.column, lastWhole?]

/-- Other attributes stay as they were. -/
theorem get?_column_setColumn_put (name : String) (v : Value) (j : Nat) (other : String) :
    ((g.setColumn i ((g.column i).put name v)).column j).get? other =
      if j = i ∧ name = other then some v else (g.column j).get? other := by
  rw [column_setColumn]
  by_cases hj : j = i
  · subst hj
    rw [if_pos rfl, Entries.get?_put]
    simp
  · simp [hj]

theorem Mirrors.setWhole (h : Mirrors before g) (hkey : columnKey? key = some k)
    (hindex : k.index? = some i) (hpart : k.part = none) (v : Value) :
    Mirrors (before ++ [(key, v)]) (g.setColumn i ((g.column i).put k.name v)) := by
  intro j name w hw
  rw [get?_column_setColumn_put, lastWhole?_concat]
  by_cases hsame : j = i ∧ k.name = name
  · obtain ⟨rfl, rfl⟩ := hsame
    simp [whole?, hkey, hindex, hpart]
  · have hnone : whole? j name (key, v) = none := by
      have hother : ¬ (k.name = name ∧ i = j) := fun hboth => hsame ⟨hboth.2.symm, hboth.1⟩
      simp [whole?, hkey, hindex, hpart, hother]
    rw [if_neg hsame, hnone]
    exact h j name w hw

theorem Mirrors.setPart (h : Mirrors before g) (hkey : columnKey? key = some k)
    (hpart : k.part ≠ none) (v : Value) {parts : Params}
    (hparts : ((g.column i).get? k.name).getD (.map []) = .map parts) (new : Params) :
    Mirrors (before ++ [(key, v)]) (g.setColumn i ((g.column i).put k.name (.map new))) := by
  intro j name w hw
  rw [get?_column_setColumn_put, lastWhole?_concat, whole?_of_part j name v hkey hpart,
    Option.none_or, ← h j name w hw]
  by_cases hsame : j = i ∧ k.name = name
  · obtain ⟨rfl, rfl⟩ := hsame
    rw [if_pos ⟨rfl, rfl⟩]
    -- a map before and a map after: neither is what the invariant speaks of
    constructor
    · rintro ⟨⟩
      cases hw
    · intro hget
      rw [hget] at hparts
      obtain rfl : w = .map parts := hparts
      cases hw
  · rw [if_neg hsame]

/-- The parameters that are collected beside the columns do not matter. -/
theorem Mirrors.congr {g' : Gathered} (h : Mirrors before g) (hcolumns : g'.columns = g.columns) :
    Mirrors before g' := by
  intro i name v hv
  rw [← h i name v hv, Gathered.column, Gathered.column, hcolumns]

/-- An attribute takes parts exactly if it was not last given as something else than a map. -/
theorem Mirrors.takesParts_iff (h : Mirrors before g) (name : String) :
    (∃ parts, ((g.column i).get? name).getD (.map []) = .map parts) ↔
      ∀ v, lastWhole? before i name = some v → ∃ parts, v = .map parts := by
  constructor
  · rintro ⟨parts, hparts⟩ v hv
    cases hentries : v.entries? with
    | none =>
        rw [(h i name v hentries).2 hv] at hparts
        exact ⟨parts, hparts⟩
    | some entries => cases v <;> cases hentries; exact ⟨entries, rfl⟩
  · intro hall
    cases hget : (g.column i).get? name with
    | none => exact ⟨[], rfl⟩
    | some v =>
        cases hentries : v.entries? with
        | none => exact hall v ((h i name v hentries).1 hget)
        | some entries => cases v <;> cases hentries; exact ⟨entries, rfl⟩

/-- One parameter more is read exactly if its key fits, and what is collected agrees with it
again. -/
theorem Mirrors.set_iff (h : Mirrors before g) (hkey : columnKey? key = some k)
    (hindex : k.index? = some i) (v : Value) :
    (∃ g', g.set i k v = .ok g') ↔ Fits before key := by
  have hfits : Fits before key ↔ (k.part ≠ none →
      ∀ w, lastWhole? before i k.name = some w → ∃ parts, w = .map parts) := by
    simp [Fits, hkey, hindex]
  rw [hfits]
  cases hpart : k.part with
  | none => simp [Gathered.set, hpart]
  | some part =>
      rw [← h.takesParts_iff]
      simp only [Gathered.set, hpart]
      cases ((g.column i).get? k.name).getD (.map []) with
      | map parts =>
          refine ⟨fun _ _ => ⟨parts, rfl⟩, fun _ => ?_⟩
          dsimp only
          split
          · exact ⟨_, rfl⟩
          · exact ⟨_, rfl⟩
      | _ => simp

theorem Mirrors.set (h : Mirrors before g) (hkey : columnKey? key = some k)
    (hindex : k.index? = some i) {v : Value} {g' : Gathered} (hset : g.set i k v = .ok g') :
    Mirrors (before ++ [(key, v)]) g' := by
  unfold Gathered.set at hset
  cases hpart : k.part with
  | none =>
      simp only [hpart] at hset
      cases hset
      exact h.setWhole hkey hindex hpart v
  | some part =>
      have hne : k.part ≠ none := by simp [hpart]
      simp only [hpart] at hset
      cases hparts : ((g.column i).get? k.name).getD (.map []) with
      | map parts =>
          simp only [hparts] at hset
          have hnext := h.setPart hkey hne v hparts (Entries.put part v parts)
          split at hset
          · cases hset
            exact hnext.congr rfl
          · cases hset
            exact hnext
      | _ => simp [hparts] at hset

end Step

/-- Every parameter after those before it: the next one, and then all of the rest. -/
theorem forall_param_cons {P : Params → String → Prop} {before rest : Params} {key : String}
    {v : Value} :
    (∀ front key' w back, (key, v) :: rest = front ++ (key', w) :: back →
        P (before ++ front) key') ↔
      P before key ∧ ∀ front key' w back, rest = front ++ (key', w) :: back →
        P (before ++ [(key, v)] ++ front) key' := by
  have h := @forall_split_cons _ (fun front e => P (before ++ front) e.1) (key, v) rest
  simpa only [Prod.forall, List.append_nil, List.append_assoc, List.singleton_append] using h

/-- The rest of the parameters is read exactly if every key fits where it stands. -/
theorem gather_eq_ok_iff (rest : Params) {before : Params} {g : Gathered} (h : Mirrors before g) :
    (∃ columns, (gather g rest).2 = .ok columns) ↔
      ∀ front key v back, rest = front ++ (key, v) :: back → Fits (before ++ front) key := by
  induction rest generalizing before g with
  | nil => simp [gather]
  | cons e rest ih =>
      obtain ⟨key, v⟩ := e
      rw [forall_param_cons]
      -- once this parameter is read, the rest is read from what was collected of it
      have next : ∀ g', Mirrors (before ++ [(key, v)]) g' → Fits before key →
          ((∃ columns,
              (gather { g' with params := g'.params ++ [(key, v)] } rest).2 = .ok columns) ↔
            Fits before key ∧ ∀ front key' w back, rest = front ++ (key', w) :: back →
              Fits (before ++ [(key, v)] ++ front) key') := fun g' hg' hfits => by
        have hagain : Mirrors (before ++ [(key, v)])
            { g' with params := g'.params ++ [(key, v)] } := hg'.congr rfl
        rw [ih hagain]
        exact ⟨fun hrest => ⟨hfits, hrest⟩, fun hall => hall.2⟩
      cases hkey : columnKey? key with
      | none =>
          simp only [gather, hkey]
          refine next g (fun i name w hw => ?_) fun k hk => ?_
          · rw [lastWhole?_concat, whole?_of_columnKey?_eq_none i name v hkey, Option.none_or]
            exact h i name w hw
          · rw [hkey] at hk
            cases hk
      | some k =>
          cases hindex : Reading.int? (String.ofList k.digits) with
          | none =>
              simp only [gather, hkey, hindex]
              refine ⟨fun ⟨columns, hcolumns⟩ => (by cases hcolumns), fun hall => ?_⟩
              obtain ⟨i, hi, -⟩ := hall.1 k hkey
              simp [ColumnKey.index?, hindex] at hi
          | some n =>
              have hi : k.index? = some n.toNat := by simp [ColumnKey.index?, hindex]
              have hset := h.set_iff hkey hi v
              simp only [gather, hkey, hindex]
              cases hnext : g.set n.toNat k v with
              | ok g' => exact next g' (h.set hkey hi hnext) (hset.1 ⟨g', hnext⟩)
              | error failure =>
                  refine ⟨fun ⟨columns, hcolumns⟩ => (by cases hcolumns), fun hall => ?_⟩
                  obtain ⟨g', hg'⟩ := hset.2 hall.1
                  rw [hnext] at hg'
                  cases hg'

/-- What a request says about its columns is understood exactly if it can be read. -/
theorem columnEntries_eq_ok_iff (params : Params) :
    (∃ columns, columnEntries params = .ok columns) ↔ ColumnsReadable params := by
  unfold columnEntries ColumnsReadable
  cases hlisted : listedColumns? params with
  | some columns => simp
  | none =>
      have hgather := gather_eq_ok_iff params mirrors_nil
      simp only [List.nil_append] at hgather
      rw [← hgather]
      simp only [bind_eq_ok, pure_eq_ok, ne_eq, not_true_eq_false, false_or]
      constructor
      · rintro ⟨_, columns, hcolumns, -⟩
        exact ⟨columns, hcolumns⟩
      · rintro ⟨columns, hcolumns⟩
        exact ⟨_, columns, hcolumns, rfl⟩

end AdminGrid.Request

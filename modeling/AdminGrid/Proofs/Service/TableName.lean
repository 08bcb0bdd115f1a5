import AdminGrid.Proofs.Request.Context
import AdminGrid.Proofs.Text.Trim
import AdminGrid.Service.App

/-!
# The name of a table in its context

The service finds the table of a request by its path, else by the name in the object `difta`, else
by the flat key of this name.  The context of the request names the table by the flat key, else by
the object, and by the descriptor only where both are silent.  So the context of a request can name
another table than the one that is compiled, and with it the report that is stored.
-/

namespace AdminGrid

namespace Checked

variable {α β : Type}

/-- Whether what was read, if it was, has a property. -/
def All (P : α → Prop) (a : Checked α) : Prop := ∀ x, a = .good x → P x

theorem All.map {P : β → Prop} {f : α → β} {a : Checked α} (h : a.All fun x => P (f x)) :
    All P (f <$> a) := by
  intro y hy
  cases a with
  | good x => exact Checked.good.inj hy ▸ h x rfl
  | bad issues => cases hy

theorem All.seq {P : β → Prop} {f : Checked (α → β)} {a : Checked α}
    (h : f.All fun g => ∀ x, P (g x)) : All P (f <*> a) := by
  intro y hy
  cases f with
  | good g =>
      cases a with
      | good x => exact Checked.good.inj hy ▸ h g rfl x
      | bad issues => cases hy
  | bad issues => cases a <;> cases hy

theorem All.under {P : α → Prop} {a : Checked α} (h : a.All P) (step : Step) :
    (a.under step).All P := by
  cases a with
  | good x => exact h
  | bad issues => exact fun _ hx => nomatch hx

end Checked

namespace TableDescriptor

theorem all_readName (v : Value) : (readName v).All fun name => Text.strip name = name := by
  unfold readName
  split
  · split
    · exact fun _ h => nomatch h
    · rename_i s _ _
      exact fun _ h => Checked.good.inj h ▸ Text.strip_strip s
  · exact fun _ h => nomatch h

/-- The name of a descriptor that was read has no blanks around it. -/
theorem strip_name_of_read {v : Value} {d : TableDescriptor} (h : read v = .good d) :
    Text.strip d.name = d.name := by
  have hall : (read v).All fun d => Text.strip d.name = d.name := by
    unfold read Validation.record
    split
    · rename_i entries _
      -- the fourteen fields behind the name do not matter
      iterate 14 refine Checked.All.seq ?_
      refine Checked.All.map ?_
      unfold Validation.required
      split
      · rename_i name _
        exact fun x hx => fun _ _ _ _ _ _ _ _ _ _ _ _ _ _ =>
          ((all_readName name).under _) x hx
      · exact fun _ h => nomatch h
    · exact fun _ h => nomatch h
  exact hall d h

end TableDescriptor

namespace Registry

/-- The registries of a service: nothing is registered, or one more descriptor that was read. -/
inductive Built : Registry → Prop
  | empty : Built []
  | register {r : Registry} (hr : Built r) {v : Value} {d : TableDescriptor}
      (hd : TableDescriptor.read v = .good d) : Built (r.register d)

/-- Whether every descriptor stands under its own name, which has no blanks around it. -/
def WellNamed (r : Registry) : Prop := ∀ e ∈ r, e.2.name = e.1 ∧ Text.strip e.1 = e.1

theorem WellNamed.register {r : Registry} (h : r.WellNamed) {d : TableDescriptor}
    (hd : Text.strip d.name = d.name) : (r.register d).WellNamed := by
  intro e he
  rcases Entries.mem_put he with rfl | hmem
  · exact ⟨rfl, hd⟩
  · exact h e hmem

theorem Built.wellNamed {r : Registry} (h : r.Built) : r.WellNamed := by
  induction h with
  | empty => exact fun e he => nomatch he
  | register _ hd ih => exact ih.register (TableDescriptor.strip_name_of_read hd)

theorem WellNamed.find? {r : Registry} (h : r.WellNamed) {name : String} {d : TableDescriptor}
    (hfind : r.find? name = some d) : d.name = name ∧ name ≠ "" ∧ Text.strip name = name := by
  unfold Registry.find? at hfind
  split at hfind
  · cases hfind
  · rename_i hne
    have hnamed := h _ (Entries.mem_of_get?_eq_some hfind)
    exact ⟨hnamed.1, hne, hnamed.2⟩

end Registry

namespace Service

open Request

/-- The name of a table in the object `difta` of a request. -/
def objectName (params : Params) : Value := ((cellAt params "difta").get? "name").getD .null

theorem lookup_difta (params : Params) : lookup params "difta" [.name "name"] =
    (Entries.get? "difta[name]" params).getD (objectName params) := by
  have hkey : flatKey "difta" [.name "name"] = "difta[name]" := by decide
  have hfollow : (follow? (.map params) [.name "difta", .name "name"]).getD .null =
      objectName params := by
    unfold objectName cellAt
    simp only [follow?, part?, stepText]
    cases Entries.get? "difta" params with
    | none => rfl
    | some v => cases v <;> simp [Value.get?]
  unfold lookup
  rw [hkey, hfollow]
  cases Entries.get? "difta[name]" params <;> rfl

/-- The name that a request gives its table beside the one by which the table is found: that of the
flat key, and behind a path also that of the object `difta`. -/
def rivalName? (pathName : Option String) (params : Params) : Option String :=
  match Entries.get? "difta[name]" params with
  | some flat => named? flat
  | none => if (Web.WebRequest.given pathName).isSome then named? (objectName params) else none

/-- Whether a context bears the name of a table, and every report on a compilation in it. -/
structure NamesTable (c : Context) (d : TableDescriptor) : Prop where
  context : c.tableName = some d.name
  reports : ∀ timestamp report, (Parity.diagnosticOf c timestamp report).tableName = d.name

theorem tableName_diagnosticOf {c : Context} {name : String} (h : c.tableName = some name)
    (hne : name ≠ "") (timestamp : String) (report : Entries Value) :
    (Parity.diagnosticOf c timestamp report).tableName = name := by
  simp [Parity.diagnosticOf, h, Option.filter, hne]

theorem eq_text_of_checkIdentifier {field name : String} {v : Value}
    (h : checkIdentifier field v = .ok name) : v = .text name := by
  cases v with
  | text s =>
      by_cases hs : isIdentifier s = true
      · rw [checkIdentifier, if_pos hs] at h
        rw [Except.ok.inj h]
      · rw [checkIdentifier, if_neg hs] at h
        cases h
  | _ => cases h

theorem requestedTable_of_tableName {pathName : Option String} {params : Params} {name : String}
    (h : tableName pathName params = .ok name) :
    Web.requestedTable pathName params = .text name := by
  obtain ⟨_, _, h⟩ := bind_eq_ok.1 h
  dsimp only at h
  split at h
  · cases h
  · exact eq_text_of_checkIdentifier h

theorem exists_text_of_named? {v : Value} {name : String} (h : named? v = some name) :
    ∃ s, v = .text s ∧ name ≠ "" ∧ Text.strip s = name := by
  cases v with
  | text s =>
      by_cases hs : Text.strip s = ""
      · rw [named?, if_pos hs] at h
        cases h
      · rw [named?, if_neg hs] at h
        obtain rfl := Option.some.inj h
        exact ⟨s, rfl, hs, rfl⟩
  | _ => cases h

section Table

variable {registry : Registry} {pathName : Option String} {params : Params} {name : String}
  {d : TableDescriptor}

/-- Without a path, the name of the object `difta` is the one by which the table is found. -/
theorem eq_of_named?_objectName (hpath : Web.WebRequest.given pathName = none)
    (hname : tableName pathName params = .ok name) (hstrip : Text.strip name = name)
    {other : String} (hother : named? (objectName params) = some other) : other = name := by
  obtain ⟨s, hobject, hne, rfl⟩ := exists_text_of_named? hother
  have htruthy : (Value.text s).truthy = true := by
    have hs : s ≠ "" := by
      rintro rfl
      exact hne rfl
    simpa [Value.truthy] using hs
  have hrequested := requestedTable_of_tableName hname
  unfold Web.requestedTable at hrequested
  rw [hpath] at hrequested
  change (if (objectName params).truthy then Value.text (objectName params).cellText else _) = _
    at hrequested
  rw [hobject, if_pos htruthy] at hrequested
  have hs : s = name := Value.text.inj hrequested
  rw [hs, hstrip]

/-- The name that the context of a request for a known table bears. -/
theorem named?_lookup_difta (hname : tableName pathName params = .ok name)
    (hstrip : Text.strip name = name) :
    (named? (lookup params "difta" [.name "name"])).getD name =
      (rivalName? pathName params).getD name := by
  rw [lookup_difta, rivalName?]
  cases Entries.get? "difta[name]" params with
  | some flat => rfl
  | none =>
      rw [Option.getD_none]
      cases hpath : Web.WebRequest.given pathName with
      | some path => rfl
      | none =>
          cases hother : named? (objectName params) with
          | none => rfl
          | some other => exact eq_of_named?_objectName hpath hname hstrip hother

theorem rivalName?_ne_empty {other : String} (h : rivalName? pathName params = some other) :
    other ≠ "" := by
  unfold rivalName? at h
  split at h
  · obtain ⟨_, _, hne, _⟩ := exists_text_of_named? h
    exact hne
  · split at h
    · obtain ⟨_, _, hne, _⟩ := exists_text_of_named? h
      exact hne
    · cases h

/-- The context of a request for a table, and with it the reports on both compilations of the table,
bear the name of the table exactly if the request can be read and gives no other name.  Where it
gives another name, the table is compiled under that name; where it cannot be read, nothing is
compiled at all. -/
theorem namesTable_iff (hbuilt : registry.Built) (hname : tableName pathName params = .ok name)
    (hfind : registry.find? name = some d) (r : Web.WebRequest) :
    (NamesTable (Context.of params (callerOf r d)) d ↔ Readable params ∧
      ∀ other, rivalName? pathName params = some other → other = d.name) ∧
    (Readable params → (Context.of params (callerOf r d)).descriptor = some d ∧
      ∀ timestamp report, (Parity.diagnosticOf (Context.of params (callerOf r d)) timestamp
        report).tableName = (rivalName? pathName params).getD d.name) ∧
    (¬ Readable params → ∀ source mode limit,
      Parity.run source mode limit (Context.of params (callerOf r d)) =
        .error (.configuration (.unregistered none))) := by
  obtain ⟨hd, hne, hstrip⟩ := hbuilt.wellNamed.find? hfind
  subst hd
  have hkeeps := keeps_of_readable params d r.route r.roles r.roleGroup
  have hempty := eq_empty_of_not_readable params d r.route r.roles r.roleGroup
  change _ → (Context.of params (callerOf r d)).Keeps d params at hkeeps
  change _ → Context.of params (callerOf r d) = _ at hempty
  have hcontext (hreadable : Readable params) :
      (Context.of params (callerOf r d)).tableName =
        some ((rivalName? pathName params).getD d.name) := by
    rw [(hkeeps hreadable).tableName, named?_lookup_difta hname hstrip]
  refine ⟨⟨fun hnames => ?_, fun ⟨hreadable, hrival⟩ => ?_⟩, fun hreadable => ?_, fun hnot => ?_⟩
  · have hreadable : Readable params := by
      by_contra hnot
      have hnone := hnames.context
      rw [hempty hnot] at hnone
      cases hnone
    refine ⟨hreadable, fun other hother => ?_⟩
    have hsame := hnames.context
    rw [hcontext hreadable, hother] at hsame
    exact Option.some.inj hsame
  · have hsame : (rivalName? pathName params).getD d.name = d.name := by
      cases hother : rivalName? pathName params with
      | none => rfl
      | some other => exact hrival other hother
    have hnamed := hcontext hreadable
    rw [hsame] at hnamed
    exact ⟨hnamed, tableName_diagnosticOf hnamed hne⟩
  · refine ⟨(hkeeps hreadable).descriptor, tableName_diagnosticOf (hcontext hreadable) ?_⟩
    cases hother : rivalName? pathName params with
    | none => exact hne
    | some other => exact rivalName?_ne_empty hother
  · intro source mode limit
    rw [hempty hnot]
    rfl

end Table

/-- A service that knows the table of orders alone. -/
def ordersKnown : Registry := Registry.register [] ordersTable

/-- A request of nobody in particular for a table. -/
def bareRequest : Web.WebRequest := ⟨"GET", "/api/v1/datatables", [], [], none, [], .ok []⟩

/-- The parameters of a request that names the table of orders twice, once with blanks around the
name. -/
def namedTwice : Params :=
  [("difta", .map [("name", .text "orders")]), ("difta[name]", .text " orders ")]

/-- The parameters of a request that names the table of users by the flat key. -/
def namedApart : Params :=
  [("difta", .map [("name", .text "orders")]), ("difta[name]", .text "users")]

theorem built_ordersKnown : ordersKnown.Built :=
  .register (v := .map [("name", .text " orders ")]) .empty rfl

/-- Names that differ by blanks alone do not matter. -/
theorem namesTable_iff_namedTwice : ordersKnown.Built ∧
    tableName none namedTwice = .ok "orders" ∧ ordersKnown.find? "orders" = some ordersTable ∧
    NamesTable (Context.of namedTwice (callerOf bareRequest ordersTable)) ordersTable := by
  have hname : tableName none namedTwice = .ok "orders" := rfl
  have hfind : ordersKnown.find? "orders" = some ordersTable := rfl
  have hrival : rivalName? none namedTwice = some "orders" := rfl
  refine ⟨built_ordersKnown, hname, hfind, (namesTable_iff built_ordersKnown hname hfind _).1.2 ?_⟩
  have hcolumns : columnEntries namedTwice = .ok [] :=
    columnEntries_of_columnKey?_eq_none rfl (by decide)
  refine ⟨readable_of_columnEntries_eq_nil hcolumns rfl rfl, fun other hother => ?_⟩
  rw [hrival] at hother
  exact (Option.some.inj hother).symm

/-- The rows of the table of orders are reported under the name of users, both where the path names
orders and where the object does. -/
theorem not_namesTable_namedApart : ordersKnown.Built ∧
    ∀ pathName ∈ [some "orders", none], tableName pathName namedApart = .ok "orders" ∧
      ordersKnown.find? "orders" = some ordersTable ∧
      (Context.of namedApart (callerOf bareRequest ordersTable)).descriptor = some ordersTable ∧
      (∀ timestamp report, (Parity.diagnosticOf
        (Context.of namedApart (callerOf bareRequest ordersTable)) timestamp report).tableName =
          "users") ∧
      ¬ NamesTable (Context.of namedApart (callerOf bareRequest ordersTable)) ordersTable := by
  refine ⟨built_ordersKnown, fun pathName hpath => ?_⟩
  have hname : tableName pathName namedApart = .ok "orders" := by
    rcases List.mem_pair.1 hpath with rfl | rfl <;> rfl
  have hcolumns : columnEntries namedApart = .ok [] :=
    columnEntries_of_columnKey?_eq_none rfl (by decide)
  have hkeeps : (Context.of namedApart (callerOf bareRequest ordersTable)).Keeps ordersTable
      namedApart :=
    keeps_of_readable namedApart ordersTable _ _ _
      (readable_of_columnEntries_eq_nil hcolumns rfl rfl)
  have hreports := tableName_diagnosticOf hkeeps.tableName (by decide)
  refine ⟨hname, rfl, hkeeps.descriptor, hreports, fun hnames => ?_⟩
  have hsame := (hreports "" []).symm.trans (hnames.reports "" [])
  exact absurd hsame (by decide)

end Service

end AdminGrid

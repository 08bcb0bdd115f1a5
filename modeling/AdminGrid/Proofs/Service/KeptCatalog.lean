import AdminGrid.Proofs.Cache.Kept
import AdminGrid.Proofs.Service.Documented

/-!
# Relations that are kept

The relations that a database suggests for a table are kept as a document, and read back from it as
they were, the columns that each of them joins in the same order.  A later request for the table
finds them in the cache, whatever was kept for other tables in between, and even if the database has
changed since.
-/

namespace AdminGrid

open Json Validation

section Documents

theorem keys_ofTextMap (entries : Entries String) :
    Entries.keys (entries.map fun e => (e.1, Value.text e.2)) = entries.keys := by
  simp [Entries.keys]

theorem isDocument_ofTextMap {entries : Entries String} (h : entries.keys.Nodup) :
    IsDocument (.ofTextMap entries) := by
  refine .map ?_ fun e he => ?_
  · rw [keys_ofTextMap]
    exact h
  · obtain ⟨e', -, rfl⟩ := List.mem_map.1 he
    exact .text e'.2

theorem isDocument_ofText? (s : Option String) : IsDocument (.ofText? s) := by
  cases s with
  | none => exact .null
  | some s => exact .text s

theorem nesting_ofTextMap_le (entries : Entries String) : nesting (.ofTextMap entries) ≤ 1 := by
  refine nestingOfEntries_le fun e he => ?_
  obtain ⟨e', -, rfl⟩ := List.mem_map.1 he
  exact Nat.le_refl 0

end Documents

namespace RelationSpec

variable (r : RelationSpec)

theorem isDocument_toValue (h : r.foreignKey.keys.Nodup) : IsDocument r.toValue := by
  refine .map (by simp [Entries.keys]) ?_
  simp only [List.forall_mem_cons]
  exact ⟨.text _, .text _, isDocument_ofText? _, isDocument_ofTextMap h,
    fun _ he => absurd he List.not_mem_nil⟩

theorem nesting_toValue_le : nesting r.toValue ≤ 2 := by
  refine nestingOfEntries_le ?_
  simp only [List.forall_mem_cons]
  refine ⟨Nat.zero_le 1, Nat.zero_le 1, ?_, nesting_ofTextMap_le _,
    fun _ he => absurd he List.not_mem_nil⟩
  cases r.displayLabel <;> exact Nat.zero_le 1

/-- The columns that a relation joins are read back in their order. -/
theorem entries_ofTextMap (entries : Entries String) :
    Checked.entries text (entries.map fun e => (e.1, Value.text e.2)) = .good entries := by
  induction entries with
  | nil => rfl
  | cons e entries ih =>
      rw [List.map_cons, Checked.entries, ih]
      rfl

/-- A relation is read back from its document. -/
theorem read_toValue : RelationSpec.read r.toValue = .good r := by
  obtain ⟨aliasField, displayField, displayLabel, foreignKey⟩ := r
  have hforeign : Validation.map text (.ofTextMap foreignKey) = .good foreignKey :=
    entries_ofTextMap foreignKey
  have hlabel : optional text (.ofText? displayLabel) = .good displayLabel := by
    cases displayLabel <;> rfl
  show RelationSpec.mk <$> Checked.good aliasField <*> Checked.good displayField
    <*> (optional text (.ofText? displayLabel)).under (.name "display_label")
    <*> (Validation.map text (.ofTextMap foreignKey)).under (.name "foreign_key") = _
  rw [hlabel, hforeign]
  rfl

end RelationSpec

namespace Service

open Store

/-- Relations as a document. -/
def catalogValue (catalog : List RelationSpec) : Value := .list (catalog.map (·.toValue))

section Catalog

variable {catalog : List RelationSpec}

theorem isDocument_catalogValue (h : ∀ r ∈ catalog, r.foreignKey.keys.Nodup) :
    IsDocument (catalogValue catalog) := by
  refine .list fun v hv => ?_
  obtain ⟨r, hr, rfl⟩ := List.mem_map.1 hv
  exact r.isDocument_toValue (h r hr)

theorem nesting_catalogValue_le : nesting (catalogValue catalog) ≤ maxNesting := by
  have hle : nesting (catalogValue catalog) ≤ 3 := nestingOfItems_le fun v hv => by
    obtain ⟨r, -, rfl⟩ := List.mem_map.1 hv
    exact r.nesting_toValue_le
  exact Nat.le_trans hle (by decide)

theorem cachedCatalog_catalogValue : cachedCatalog (catalogValue catalog) = .ok catalog := by
  have hread : ∀ r ∈ catalog, (RelationSpec.read r.toValue).toAttempt = .ok r := fun r _ => by
    rw [r.read_toValue]
    rfl
  refine mapM_eq_ok.2 ?_
  rw [List.forall₂_map_left_iff, List.forall₂_same]
  exact hread

/-- A relation that a database suggests joins a single pair of columns. -/
theorem nodup_foreignKey_of_suggested? {db : Database} {chosen : Entries String} {base : String}
    {key : ForeignKey} {r : RelationSpec} (h : db.suggested? chosen base key = .ok (some r)) :
    r.foreignKey.keys.Nodup := by
  unfold Database.suggested? at h
  split at h
  · split at h
    · cases h
    · obtain ⟨display?, -, h⟩ := bind_eq_ok.1 h
      cases hdisplay : display?.filter (· != "") with
      | none =>
          rw [hdisplay] at h
          cases h
      | some display =>
          rw [hdisplay] at h
          cases h
          exact List.nodup_singleton _
  · cases h

theorem nodup_foreignKey_of_catalog {db : Database} {chosen : Entries String} {name : String}
    (h : db.catalog chosen name = .ok catalog) : ∀ r ∈ catalog, r.foreignKey.keys.Nodup := by
  intro r hr
  obtain ⟨t, -, h⟩ := bind_eq_ok.1 h
  obtain ⟨found, hfound, h⟩ := bind_eq_ok.1 h
  cases h
  have hmem : some r ∈ found := by simpa using hr
  obtain ⟨key, -, hkey⟩ := exists_of_mem_of_mapM hfound hmem
  exact nodup_foreignKey_of_suggested? hkey

end Catalog

section Requests

variable {db : Database} {m : Moment} {a : App} {name : String} {catalog : List RelationSpec}

/-- What a request for a table leaves that has its relations kept. -/
def App.keepCatalog (a : App) (m : Moment) (name : String) (catalog : List RelationSpec) : App :=
  { a with cache := (Cache.set (Cache.get a.cache m.outcomes (catalogKey name)).2 m.outcomes
      (catalogKey name) (catalogValue catalog) none).2 }

/-- The relations of a table, from what is found under its key. -/
def relationsFrom (db : Database) (m : Moment) (name : String) :
    Value → Answering (List RelationSpec)
  | .null => do
      let catalog ← attempt (db.catalog [] name)
      modify fun a => { a with cache :=
        (Cache.set a.cache m.outcomes (catalogKey name) (catalogValue catalog) none).2 }
      return catalog
  | v => attempt (cachedCatalog v)

theorem run_relationCatalog {v : Value} {cache : Cache.State}
    (h : Cache.get a.cache m.outcomes (catalogKey name) = (v, cache)) :
    (relationCatalog db m name).run.run a =
      (relationsFrom db m name v).run.run { a with cache := cache } := by
  have hget : (get : Answering App).run.run a = (.ok a, a) := rfl
  unfold relationCatalog
  rw [run_bind, hget]
  dsimp only
  rw [h]
  rfl

/-- Where nothing is kept for a table, the relations that the database suggests are. -/
theorem run_relationCatalog_of_null
    (hkept : (Cache.get a.cache m.outcomes (catalogKey name)).1 = .null)
    (hcatalog : db.catalog [] name = .ok catalog) :
    (relationCatalog db m name).run.run a = (.ok catalog, a.keepCatalog m name catalog) := by
  unfold App.keepCatalog
  rcases hget : Cache.get a.cache m.outcomes (catalogKey name) with ⟨v, cache⟩
  rw [hget] at hkept
  obtain rfl : v = .null := hkept
  rw [run_relationCatalog hget, relationsFrom, hcatalog]
  rfl

/-- Where relations are kept for a table, the database is not asked. -/
theorem run_relationCatalog_of_kept
    (hkept : (Cache.get a.cache m.outcomes (catalogKey name)).1 = catalogValue catalog) :
    ((relationCatalog db m name).run.run a).1 = .ok catalog := by
  rcases hget : Cache.get a.cache m.outcomes (catalogKey name) with ⟨v, cache⟩
  rw [hget] at hkept
  obtain rfl : v = catalogValue catalog := hkept
  rw [run_relationCatalog hget]
  show ((attempt (cachedCatalog (catalogValue catalog))).run.run { a with cache := cache }).1 = _
  rw [cachedCatalog_catalogValue]
  rfl

/-- Relations that were kept for a table are found again by another request, whatever was kept under
other keys in between, and whatever its database suggests. -/
theorem relationCatalog_rebuilt {db' : Database} {m' : Moment} {others : List Cache.Setting}
    (honline : a.cache.Online) (hm : m.outcomes.Serves) (hm' : m'.outcomes.Serves)
    (hothers : ∀ c ∈ others, c.key ≠ catalogKey name ∧ c.outcomes.Reaches)
    (hcatalog : db.catalog [] name = .ok catalog) :
    ((relationCatalog db' m' name).run.run { a.keepCatalog m name catalog with
      cache := others.foldl Cache.State.keep (a.keepCatalog m name catalog).cache }).1 =
      .ok catalog :=
  run_relationCatalog_of_kept (Cache.get_of_set (Cache.online_get honline hm.toReaches _) hm hm'
    none hothers (isDocument_catalogValue (nodup_foreignKey_of_catalog hcatalog))
    nesting_catalogValue_le)

end Requests

/-- With a server that is reached and keeps what is set, a document is kept exactly if it is nested
in few enough levels, and is then found unchanged, whatever was set under other keys in between.  So
are the relations that a database suggests for a table. -/
theorem kept_values_come_back :
    (∀ (s : Cache.State) (o o' : Cache.Outcomes) (key : String) (v : Value) (expire : Option Int)
      (others : List Cache.Setting), s.Online → o.Serves → o'.Serves →
      (∀ c ∈ others, c.key ≠ key ∧ c.outcomes.Reaches) → IsDocument v →
        ((Cache.set s o key v expire).1 = true ↔ nesting v ≤ maxNesting) ∧
        (nesting v ≤ maxNesting →
          (Cache.get (others.foldl Cache.State.keep (Cache.set s o key v expire).2) o' key).1 =
            v)) ∧
    ∀ (db db' : Database) (m m' : Moment) (a : App) (name : String) (catalog : List RelationSpec)
      (others : List Cache.Setting), a.cache.Online → m.outcomes.Serves → m'.outcomes.Serves →
      (∀ c ∈ others, c.key ≠ catalogKey name ∧ c.outcomes.Reaches) →
      (Cache.get a.cache m.outcomes (catalogKey name)).1 = .null →
      db.catalog [] name = .ok catalog →
        ∃ b, (relationCatalog db m name).run.run a = (.ok catalog, b) ∧
          ((relationCatalog db' m' name).run.run
            { b with cache := others.foldl Cache.State.keep b.cache }).1 = .ok catalog := by
  refine ⟨fun s o o' key v expire others hs ho ho' hothers hv => ⟨?_, fun hdepth => ?_⟩, ?_⟩
  · exact Cache.set_fst_iff hs ho key v expire hv
  · exact Cache.get_of_set hs ho ho' expire hothers hv hdepth
  · intro db db' m m' a name catalog others honline hm hm' hothers hkept hcatalog
    exact ⟨_, run_relationCatalog_of_null hkept hcatalog,
      relationCatalog_rebuilt honline hm hm' hothers hcatalog⟩

section Orders

/-- Orders of users, who have names. -/
def orders : Database where
  tables := [
    ⟨"orders", [⟨"id", "INTEGER", true, false, none⟩, ⟨"user_id", "INTEGER", false, false, none⟩],
      [⟨["user_id"], "users", ["id"]⟩], []⟩,
    ⟨"users", [⟨"id", "INTEGER", true, false, none⟩, ⟨"name", "TEXT", false, false, none⟩], [], []⟩]

/-- The relation that shows the name of the user of an order. -/
def userName : RelationSpec :=
  ⟨"user_name", "users.name", some "User Name", [("users.id", "orders.user_id")]⟩

/-- A list is found again after another one was kept, and so is the relation of the orders, without
a database. -/
theorem kept_values_come_back_orders :
    let s : Cache.State := .start true 60
    let v : Value := .list [.int (-1), .map [("a", .text "b\n"), ("", .null)]]
    let other : Cache.Setting := ⟨"other", .list [], none, .good⟩
    let a : App := { readingsService with cache := s }
    (Cache.set s .good "k" v none).1 = true ∧
    (Cache.get ((Cache.set s .good "k" v none).2.keep other) .good "k").1 = v ∧
    ∃ b, (relationCatalog orders calmMoment "orders").run.run a = (.ok [userName], b) ∧
      ((relationCatalog ⟨[]⟩ calmMoment "orders").run.run
        { b with cache := b.cache.keep other }).1 = .ok [userName] := by
  intro s v other a
  have honline : s.Online := .inr ⟨rfl, rfl⟩
  have hv : IsDocument v := by
    refine .list (List.forall_mem_cons.2 ⟨.int (by decide), List.forall_mem_singleton.2 ?_⟩)
    exact .map (by decide) (List.forall_mem_cons.2 ⟨.text _, List.forall_mem_singleton.2 .null⟩)
  have hdepth : nesting v ≤ maxNesting := by decide
  have hgood := Cache.serves_good
  have hother : ∀ c ∈ [other], (c.key ≠ "k" ∧ c.key ≠ catalogKey "orders") ∧ c.outcomes.Reaches :=
    List.forall_mem_singleton.2 ⟨⟨by decide, by decide⟩, hgood.toReaches⟩
  obtain ⟨hvalues, hcatalogs⟩ := kept_values_come_back
  obtain ⟨hset, hget⟩ := hvalues s .good .good "k" v none [other] honline hgood hgood
    (fun c hc => ⟨(hother c hc).1.1, (hother c hc).2⟩) hv
  exact ⟨hset.2 hdepth, hget hdepth,
    hcatalogs orders ⟨[]⟩ calmMoment calmMoment a "orders" [userName] [other] honline hgood hgood
      (fun c hc => ⟨(hother c hc).1.2, (hother c hc).2⟩) rfl rfl⟩

end Orders

section Deep

/-- Null inside a number of lists. -/
def inLists : Nat → Value
  | 0 => .null
  | n + 1 => .list [inLists n]

theorem isDocument_inLists (n : Nat) : IsDocument (inLists n) := by
  induction n with
  | zero => exact .null
  | succ n ih => exact .list (List.forall_mem_singleton.2 ih)

theorem nesting_inLists (n : Nat) : nesting (inLists n) = n := by
  induction n with
  | zero => rfl
  | succ n ih =>
      show max (nesting (inLists n) + 1) 0 = n + 1
      omega

/-- A document that is nested too deeply is not kept, although the server serves. -/
theorem not_kept_inLists :
    let s : Cache.State := .start true 60
    s.Online ∧ Cache.Outcomes.good.Serves ∧ IsDocument (inLists 255) ∧
    (Cache.set s .good "k" (inLists 255) none).1 = false ∧
    (Cache.get (Cache.set s .good "k" (inLists 255) none).2 .good "k").1 = .null ∧
    inLists 255 ≠ .null := by
  intro s
  have hdeep : ¬ nesting (inLists 255) ≤ maxNesting := by
    rw [nesting_inLists]
    decide
  obtain ⟨e, hrefused⟩ : ∃ e, write .compact (inLists 255) = .error e := by
    cases htext : write .compact (inLists 255) with
    | ok text => exact absurd ((exists_write_iff (isDocument_inLists 255)).1 ⟨text, htext⟩) hdeep
    | error e => exact ⟨e, rfl⟩
  rw [Cache.set_of_error hrefused]
  exact ⟨.inr ⟨rfl, rfl⟩, Cache.serves_good, isDocument_inLists 255, rfl, rfl, fun h => nomatch h⟩

end Deep

end Service

end AdminGrid

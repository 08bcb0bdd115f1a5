import AdminGrid.Entries
import Mathlib.Data.List.Nodup

/-!
# Looking entries up

`put` and `merge` are the only ways in which collections of entries grow.  Their keys stay distinct,
and what is found under a key after them is settled here once, so that no later proof opens them.
-/

namespace AdminGrid.Entries

variable {α β : Type}

@[simp]
theorem get?_nil (key : String) : get? key ([] : Entries α) = none := rfl

theorem get?_cons (key k : String) (a : α) (rest : Entries α) :
    get? key ((k, a) :: rest) = if k = key then some a else get? key rest := rfl

theorem get?_put (key other : String) (a : α) (entries : Entries α) :
    (entries.put key a).get? other = if key = other then some a else entries.get? other := by
  by_cases h : key = other
  · subst h
    rw [get?_put_self, if_pos rfl]
  · rw [get?_put_of_ne a entries h, if_neg h]

theorem put_put (key : String) (a b : α) (entries : Entries α) :
    (entries.put key b).put key a = entries.put key a := by
  induction entries with
  | nil => simp [put]
  | cons e rest ih =>
      obtain ⟨k, c⟩ := e
      by_cases h : k = key <;> simp [put, h, ih]

theorem get?_append (key : String) (xs ys : Entries α) :
    get? key (xs ++ ys) = (xs.get? key).or (ys.get? key) := by
  induction xs with
  | nil => rfl
  | cons e rest ih =>
      obtain ⟨k, a⟩ := e
      by_cases h : k = key
      · simp [get?_cons, h]
      · simp [get?_cons, h, ih]

theorem get?_map (key : String) (f : α → β) (entries : Entries α) :
    get? key (entries.map fun e => (e.1, f e.2)) = (entries.get? key).map f := by
  induction entries with
  | nil => rfl
  | cons e rest ih =>
      obtain ⟨k, a⟩ := e
      by_cases h : k = key
      · simp [get?_cons, h]
      · simp [get?_cons, h, ih]

/-- The first entry of a key is the one that is found. -/
theorem get?_eq_find? (key : String) (entries : Entries α) :
    entries.get? key = (entries.find? fun e => e.1 == key).map (·.2) := by
  induction entries with
  | nil => rfl
  | cons e rest ih =>
      obtain ⟨k, a⟩ := e
      by_cases h : k = key
      · simp [get?_cons, h]
      · simp [get?_cons, h, ih]

theorem mem_of_get?_eq_some {key : String} {a : α} {entries : Entries α}
    (h : entries.get? key = some a) : (key, a) ∈ entries := by
  rw [get?_eq_find?] at h
  obtain ⟨e, hfind, ha⟩ := Option.map_eq_some_iff.1 h
  have hkey : e.1 = key := by simpa using List.find?_some hfind
  have hmem := List.mem_of_find?_eq_some hfind
  rwa [← hkey, ← ha]

theorem get?_eq_some_iff_mem {key : String} {a : α} {entries : Entries α}
    (hkeys : entries.keys.Nodup) : entries.get? key = some a ↔ (key, a) ∈ entries := by
  refine ⟨mem_of_get?_eq_some, fun hmem => ?_⟩
  induction entries with
  | nil => simp at hmem
  | cons e rest ih =>
      obtain ⟨k, b⟩ := e
      have hnot : k ∉ keys rest := (List.nodup_cons.1 hkeys).1
      rcases List.mem_cons.1 hmem with h | h
      · cases h
        simp [get?_cons]
      · have hne : k ≠ key := by
          rintro rfl
          exact hnot (List.mem_map_of_mem h)
        rw [get?_cons, if_neg hne]
        exact ih (List.nodup_cons.1 hkeys).2 h

theorem get?_reverse {entries : Entries α} (h : entries.keys.Nodup) (key : String) :
    get? key entries.reverse = entries.get? key := by
  have hreverse : (keys entries.reverse).Nodup := by
    rw [keys, List.map_reverse]
    exact List.nodup_reverse.2 h
  refine Option.ext fun a => ?_
  rw [get?_eq_some_iff_mem hreverse, get?_eq_some_iff_mem h, List.mem_reverse]

theorem get?_perm {xs ys : Entries α} (hperm : xs.Perm ys) (h : xs.keys.Nodup)
    (key : String) : xs.get? key = ys.get? key := by
  have hys : ys.keys.Nodup := (hperm.map _).nodup_iff.1 h
  refine Option.ext fun a => ?_
  rw [get?_eq_some_iff_mem h, get?_eq_some_iff_mem hys, hperm.mem_iff]

/-- Where the keys are distinct, what a filter makes of the entry of a key is found under it. -/
theorem get?_filterMap {entries : Entries α} (h : entries.keys.Nodup) (key : String)
    (f : α → Option β) :
    get? key (entries.filterMap fun e => (f e.2).map fun b => (e.1, b)) =
      (entries.get? key).bind f := by
  induction entries with
  | nil => rfl
  | cons e rest ih =>
      obtain ⟨k, a⟩ := e
      obtain ⟨hnot, hrest⟩ := List.nodup_cons.1 h
      rw [get?_cons, List.filterMap_cons]
      by_cases hk : k = key
      · subst hk
        rw [if_pos rfl]
        cases hf : f a with
        | none =>
            have habsent : get? k rest = none := by
              rw [← Option.not_isSome_iff_eq_none]
              exact fun hhas => hnot ((mem_keys_iff_has k rest).2 hhas)
            simpa [hf, habsent] using ih hrest
        | some b => simp [hf, get?_cons]
      · rw [if_neg hk]
        cases hf : f a with
        | none => simpa [hf] using ih hrest
        | some b => simpa [hf, get?_cons, hk] using ih hrest

theorem nodup_keys_filterMap {entries : Entries α} (h : entries.keys.Nodup) (f : α → Option β) :
    (keys (entries.filterMap fun e => (f e.2).map fun b => (e.1, b))).Nodup := by
  refine h.sublist ?_
  clear h
  induction entries with
  | nil => exact List.Sublist.refl []
  | cons e rest ih =>
      rw [List.filterMap_cons]
      cases hf : f e.2 with
      | none => exact ih.cons e.1
      | some b => exact ih.cons_cons e.1

theorem get?_filter {entries : Entries α} (h : entries.keys.Nodup) (key : String)
    (p : α → Bool) :
    get? key (entries.filter fun e => p e.2) = (entries.get? key).filter p := by
  have hfilter : (entries.filter fun e => p e.2) =
      entries.filterMap fun e => (if p e.2 then some e.2 else none).map fun a => (e.1, a) := by
    rw [← List.filterMap_eq_filter]
    refine List.filterMap_congr fun e _ => ?_
    by_cases he : p e.2 = true <;> simp [Option.guard, he]
  rw [hfilter, get?_filterMap h key fun a => if p a then some a else none]
  cases entries.get? key <;> rfl

/-- A known key keeps its place, a new one comes last. -/
theorem keys_put (key : String) (a : α) (entries : Entries α) :
    (entries.put key a).keys =
      if key ∈ entries.keys then entries.keys else entries.keys ++ [key] := by
  induction entries with
  | nil => simp [put, keys]
  | cons e rest ih =>
      obtain ⟨k, b⟩ := e
      by_cases h : k = key
      · simp [put, keys, h]
      · have h' : ¬ key = k := fun e => h e.symm
        have hcons : keys (put key a ((k, b) :: rest)) = k :: keys (put key a rest) := by
          simp [put, keys, h]
        rw [hcons, ih]
        by_cases hmem : key ∈ keys rest
        · have hin : key ∈ keys ((k, b) :: rest) := List.mem_cons_of_mem k hmem
          rw [if_pos hmem, if_pos hin]
          rfl
        · have hnot : key ∉ keys ((k, b) :: rest) := by simpa [keys, h'] using hmem
          rw [if_neg hmem, if_neg hnot]
          rfl

theorem mem_keys_put_iff {key other : String} (a : α) {entries : Entries α} :
    other ∈ (entries.put key a).keys ↔ other ∈ entries.keys ∨ other = key := by
  rw [keys_put]
  split
  · rename_i hmem
    exact ⟨Or.inl, fun h => h.elim id fun heq => heq ▸ hmem⟩
  · rw [List.mem_append, List.mem_singleton]

theorem mem_put {key : String} {a : α} {entries : Entries α} {e : String × α}
    (h : e ∈ entries.put key a) : e = (key, a) ∨ e ∈ entries := by
  induction entries with
  | nil => exact .inl (List.mem_singleton.1 h)
  | cons first rest ih =>
      obtain ⟨k, b⟩ := first
      by_cases hk : k = key
      · rw [put, if_pos hk, List.mem_cons, hk] at h
        exact h.imp_right (List.mem_cons_of_mem _)
      · rw [put, if_neg hk, List.mem_cons] at h
        rcases h with h | h
        · exact .inr (h ▸ List.mem_cons_self)
        · exact (ih h).imp_right (List.mem_cons_of_mem _)

theorem put_of_not_mem_keys {key : String} (a : α) {entries : Entries α}
    (h : key ∉ entries.keys) : entries.put key a = entries ++ [(key, a)] := by
  induction entries with
  | nil => rfl
  | cons e rest ih =>
      obtain ⟨k, b⟩ := e
      have hne : k ≠ key := fun hk => h (hk ▸ List.mem_cons_self)
      rw [put, if_neg hne, ih fun hmem => h (List.mem_cons_of_mem k hmem)]
      rfl

theorem nodup_keys_put (key : String) (a : α) {entries : Entries α}
    (h : entries.keys.Nodup) : (entries.put key a).keys.Nodup := by
  rw [keys_put]
  split
  · exact h
  · rename_i hnot
    rw [List.nodup_append]
    exact ⟨h, List.nodup_singleton _, by rintro x hx _ (_ | ⟨_, ⟨⟩⟩) rfl; exact hnot hx⟩

theorem get?_putNew (key other : String) (a : α) (entries : Entries α) :
    (entries.putNew key a).get? other =
      (entries.get? other).or (get? other [(key, a)]) := by
  unfold putNew
  cases hhas : entries.has key with
  | false => exact get?_append other entries [(key, a)]
  | true =>
      by_cases hkey : key = other
      · subst hkey
        obtain ⟨b, hb⟩ := Option.isSome_iff_exists.1 hhas
        simp [hb]
      · simp [get?_cons, hkey]

theorem get?_foldl_putNew (key : β → String) (value : β → α) (xs : List β)
    (entries : Entries α) (other : String) :
    get? other (xs.foldl (fun acc x => acc.putNew (key x) (value x)) entries) =
      (entries.get? other).or (get? other (xs.map fun x => (key x, value x))) := by
  induction xs generalizing entries with
  | nil => simp
  | cons x xs ih =>
      rw [List.foldl_cons, ih, get?_putNew, List.map_cons, Option.or_assoc]
      refine congrArg _ ?_
      exact (get?_append other [(key x, value x)] _).symm

/-- New entries under distinct keys that are not there yet come behind the others. -/
theorem foldl_putNew_of_fresh {key : β → String} (value : β → α) {xs : List β}
    {entries : Entries α} (hfresh : ∀ x ∈ xs, key x ∉ entries.keys) (hkeys : (xs.map key).Nodup) :
    xs.foldl (fun acc x => acc.putNew (key x) (value x)) entries =
      entries ++ xs.map fun x => (key x, value x) := by
  induction xs generalizing entries with
  | nil => rw [List.foldl_nil, List.map_nil, List.append_nil]
  | cons x xs ih =>
      rw [List.forall_mem_cons] at hfresh
      rw [List.map_cons, List.nodup_cons] at hkeys
      have hput : entries.putNew (key x) (value x) = entries ++ [(key x, value x)] := by
        rw [putNew, if_neg fun hhas => hfresh.1 ((mem_keys_iff_has _ _).2 hhas)]
      have hothers : ∀ y ∈ xs, key y ∉ keys (entries ++ [(key x, value x)]) := by
        intro y hy hmem
        rw [keys, List.map_append, List.mem_append] at hmem
        rcases hmem with hmem | hmem
        · exact hfresh.2 y hy hmem
        · have hsame : key y = key x := List.mem_singleton.1 hmem
          exact hkeys.1 (hsame ▸ List.mem_map_of_mem hy)
      rw [List.foldl_cons, hput, ih hothers hkeys.2, List.append_assoc]
      rfl

theorem merge_cons (entries : Entries α) (key : String) (a : α) (new : Entries α) :
    entries.merge ((key, a) :: new) = (entries.put key a).merge new := rfl

/-- The last new entry of a key is found, and the old one where there is none. -/
theorem get?_merge (key : String) (entries new : Entries α) :
    (entries.merge new).get? key = (get? key new.reverse).or (entries.get? key) := by
  induction new generalizing entries with
  | nil => rfl
  | cons e rest ih =>
      obtain ⟨k, a⟩ := e
      rw [merge_cons, ih, List.reverse_cons, get?_append, get?_put]
      by_cases h : k = key
      · cases get? key rest.reverse <;> simp [get?_cons, h]
      · cases get? key rest.reverse <;> simp [get?_cons, h]

theorem get?_ofList (key : String) (pairs : List (String × α)) :
    (ofList pairs).get? key = get? key pairs.reverse := by
  rw [ofList, get?_merge]
  simp

theorem nodup_keys_merge {entries : Entries α} (h : entries.keys.Nodup) (new : Entries α) :
    (entries.merge new).keys.Nodup := by
  induction new generalizing entries with
  | nil => exact h
  | cons e rest ih => exact ih (nodup_keys_put e.1 e.2 h)

theorem nodup_keys_ofList (pairs : List (String × α)) : (ofList pairs).keys.Nodup :=
  nodup_keys_merge (by simp [keys]) pairs

theorem mem_keys_merge_iff {key : String} {entries new : Entries α} :
    key ∈ (entries.merge new).keys ↔ key ∈ entries.keys ∨ key ∈ keys new := by
  induction new generalizing entries with
  | nil => simp [merge, keys]
  | cons e rest ih =>
      rw [merge_cons, ih, mem_keys_put_iff, or_assoc]
      simp [keys]

theorem put_map (key : String) (a : α) (f : α → β) (entries : Entries α) :
    put key (f a) (entries.map fun e => (e.1, f e.2)) =
      (entries.put key a).map fun e => (e.1, f e.2) := by
  induction entries with
  | nil => rfl
  | cons e rest ih =>
      obtain ⟨k, b⟩ := e
      by_cases h : k = key
      · simp [put, h]
      · simp [put, h, ih]

theorem merge_map (f : α → β) (entries new : Entries α) :
    merge (entries.map fun e => (e.1, f e.2)) (new.map fun e => (e.1, f e.2)) =
      (entries.merge new).map fun e => (e.1, f e.2) := by
  induction new generalizing entries with
  | nil => rfl
  | cons e rest ih => rw [List.map_cons, merge_cons, put_map, ih, merge_cons]

/-- Which pair of a key is kept does not depend on the values. -/
theorem ofList_map (f : α → β) (pairs : List (String × α)) :
    ofList (pairs.map fun e => (e.1, f e.2)) = (ofList pairs).map fun e => (e.1, f e.2) :=
  merge_map f [] pairs

theorem forall_put {P : α → Prop} {entries : Entries α} (h : ∀ e ∈ entries, P e.2) (key : String)
    {a : α} (ha : P a) : ∀ e ∈ entries.put key a, P e.2 := by
  intro e he
  rcases mem_put he with rfl | hmem
  · exact ha
  · exact h e hmem

theorem forall_merge {P : α → Prop} {entries new : Entries α} (h : ∀ e ∈ entries, P e.2)
    (hnew : ∀ e ∈ new, P e.2) : ∀ e ∈ entries.merge new, P e.2 := by
  induction new generalizing entries with
  | nil => exact h
  | cons e rest ih =>
      rw [List.forall_mem_cons] at hnew
      exact ih (forall_put h e.1 hnew.1) hnew.2

end AdminGrid.Entries

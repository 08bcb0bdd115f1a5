import AdminGrid.Proofs.Entries
import AdminGrid.Proofs.Json.Parts
import AdminGrid.Proofs.Outcome

/-!
# Documents that are read back

A value of nulls, truth values, whole numbers of 64 bits, texts, lists and maps is written exactly
if it is not nested too deeply, and reading what was written gives the same value, the entries of
every map in the same order.
-/

namespace AdminGrid.Json

/-- The values that a document gives back as they are. -/
inductive IsDocument : Value → Prop where
  | null : IsDocument .null
  | bool (b : Bool) : IsDocument (.bool b)
  | int {n : Int} (h : fits n = true) : IsDocument (.int n)
  | text (s : String) : IsDocument (.text s)
  | list {items : List Value} (h : ∀ v ∈ items, IsDocument v) : IsDocument (.list items)
  | map {entries : Entries Value} (hkeys : entries.keys.Nodup)
      (h : ∀ e ∈ entries, IsDocument e.2) : IsDocument (.map entries)

mutual

/-- How many containers stand around the deepest item of a value. -/
def nesting : Value → Nat
  | .list items | .tuple items => nestingOfItems items
  | .map entries => nestingOfEntries entries
  | _ => 0

def nestingOfItems : List Value → Nat
  | [] => 0
  | v :: rest => max (nesting v + 1) (nestingOfItems rest)

def nestingOfEntries : List (String × Value) → Nat
  | [] => 0
  | e :: rest => max (nesting e.2 + 1) (nestingOfEntries rest)

end

theorem nestingOfItems_le {n : Nat} {items : List Value} (h : ∀ v ∈ items, nesting v ≤ n) :
    nestingOfItems items ≤ n + 1 := by
  induction items with
  | nil => exact Nat.zero_le _
  | cons v items ih =>
      rw [List.forall_mem_cons] at h
      have hv := h.1
      have hrest := ih h.2
      rw [nestingOfItems]
      omega

/-- The keys of a map do not matter for its nesting. -/
theorem nestingOfEntries_eq (entries : Entries Value) :
    nestingOfEntries entries = nestingOfItems entries.values := by
  induction entries with
  | nil => rfl
  | cons e entries ih =>
      show max (nesting e.2 + 1) (nestingOfEntries entries) = _
      rw [ih]
      rfl

theorem nestingOfEntries_le {n : Nat} {entries : Entries Value}
    (h : ∀ e ∈ entries, nesting e.2 ≤ n) : nestingOfEntries entries ≤ n + 1 := by
  rw [nestingOfEntries_eq]
  exact nestingOfItems_le (List.forall_mem_map.2 h)

section Writing

variable {level : Nat}

theorem checkLevel_eq_ok {u : Unit} : checkLevel level = .ok u ↔ level < maxNesting := by
  unfold checkLevel
  split
  next h => exact iff_of_true rfl h
  next h => exact iff_of_false (fun hok => nomatch hok) h

theorem writeItems_cons_eq_ok {v : Value} {vs : List Value} {written : List (List Char)} :
    writeItems .compact level (v :: vs) = .ok written ↔
      level < maxNesting ∧ ∃ w ws, writeValue .compact (level + 1) v = .ok w ∧
        writeItems .compact level vs = .ok ws ∧ written = w :: ws := by
  rw [writeItems, bind_eq_ok]
  simp only [bind_eq_ok, pure_eq_ok, checkLevel_eq_ok]
  constructor
  · rintro ⟨_, hlevel, w, hw, ws, hws, rfl⟩
    exact ⟨hlevel, w, ws, hw, hws, rfl⟩
  · rintro ⟨hlevel, w, ws, hw, hws, rfl⟩
    exact ⟨(), hlevel, w, hw, ws, hws, rfl⟩

theorem writeEntries_cons_eq_ok {e : String × Value} {es : Entries Value}
    {written : List (List Char)} :
    writeEntries .compact level (e :: es) = .ok written ↔
      level < maxNesting ∧ ∃ w ws, writeValue .compact (level + 1) e.2 = .ok w ∧
        writeEntries .compact level es = .ok ws ∧
          written = (writeText e.1 ++ ':' :: w) :: ws := by
  obtain ⟨key, v⟩ := e
  rw [writeEntries, bind_eq_ok]
  simp only [bind_eq_ok, pure_eq_ok, checkLevel_eq_ok]
  constructor
  · rintro ⟨_, hlevel, w, hw, ws, hws, rfl⟩
    exact ⟨hlevel, w, ws, hw, hws, by simp [Style.colon, Style.compact]⟩
  · rintro ⟨hlevel, w, ws, hw, hws, rfl⟩
    exact ⟨(), hlevel, w, hw, ws, hws, by simp [Style.colon, Style.compact]⟩

/-- What stands between two brackets: items with commas between them. -/
def chain (w : List Char) (ws : List (List Char)) : List Char := w ++ ws.flatMap (',' :: ·)

theorem chain_nil (w : List Char) : chain w [] = w := List.append_nil w

theorem chain_cons (w w' : List Char) (ws : List (List Char)) :
    chain w (w' :: ws) = w ++ ',' :: chain w' ws := by simp [chain]

theorem length_chain_cons (w w' : List Char) (ws : List (List Char)) :
    (chain w (w' :: ws)).length = w.length + 1 + (chain w' ws).length := by
  rw [chain_cons, List.length_append, List.length_cons]
  omega

theorem enclose_compact (opening closing : Char) (w : List Char) (ws : List (List Char)) :
    Style.compact.enclose level opening closing (w :: ws) =
      opening :: (chain w ws ++ [closing]) := by
  simp [Style.enclose, Style.lineBreak, Style.compact, chain]

/-- The items of a list are written exactly if there is room for the containers of each. -/
theorem exists_writeItems_iff {items : List Value} (hlevel : level ≤ maxNesting)
    (h : ∀ v ∈ items, level < maxNesting →
      ((∃ cs, writeValue .compact (level + 1) v = .ok cs) ↔ level + 1 + nesting v ≤ maxNesting)) :
    (∃ ws, writeItems .compact level items = .ok ws) ↔
      level + nestingOfItems items ≤ maxNesting := by
  induction items with
  | nil => exact iff_of_true ⟨[], rfl⟩ hlevel
  | cons v rest ih =>
      rw [List.forall_mem_cons] at h
      have hrest := ih h.2
      rw [nestingOfItems]
      simp only [writeItems_cons_eq_ok]
      constructor
      · rintro ⟨_, hbelow, w, ws, hw, hws, -⟩
        have hv := (h.1 hbelow).1 ⟨w, hw⟩
        have hvs := hrest.1 ⟨ws, hws⟩
        omega
      · intro hdepth
        obtain ⟨w, hw⟩ := (h.1 (by omega)).2 (by omega)
        obtain ⟨ws, hws⟩ := hrest.2 (by omega)
        exact ⟨_, by omega, w, ws, hw, hws, rfl⟩

/-- Entries are written exactly if their values are as the items of a list. -/
theorem exists_writeEntries_iff (entries : Entries Value) :
    (∃ ws, writeEntries .compact level entries = .ok ws) ↔
      ∃ ws, writeItems .compact level entries.values = .ok ws := by
  induction entries with
  | nil => exact iff_of_true ⟨[], rfl⟩ ⟨[], rfl⟩
  | cons e entries ih =>
      have hvalues : Entries.values (e :: entries) = e.2 :: Entries.values entries := rfl
      simp only [hvalues, writeEntries_cons_eq_ok, writeItems_cons_eq_ok]
      constructor
      · rintro ⟨_, hlevel, w, ws, hw, hws, -⟩
        obtain ⟨ws', hws'⟩ := ih.1 ⟨ws, hws⟩
        exact ⟨_, hlevel, w, ws', hw, hws', rfl⟩
      · rintro ⟨_, hlevel, w, ws, hw, hws, -⟩
        obtain ⟨ws', hws'⟩ := ih.2 ⟨ws, hws⟩
        exact ⟨_, hlevel, w, ws', hw, hws', rfl⟩

/-- A value is written exactly if there is room for its containers. -/
theorem exists_writeValue_iff {v : Value} (hv : IsDocument v) (hlevel : level ≤ maxNesting) :
    (∃ cs, writeValue .compact level v = .ok cs) ↔ level + nesting v ≤ maxNesting := by
  induction hv generalizing level with
  | null => exact iff_of_true ⟨_, rfl⟩ hlevel
  | bool b => exact iff_of_true ⟨_, rfl⟩ hlevel
  | text s => exact iff_of_true ⟨_, rfl⟩ hlevel
  | int h => exact iff_of_true ⟨_, if_pos h⟩ hlevel
  | @list items _ ih =>
      rw [nesting, ← exists_writeItems_iff hlevel fun v hv hbelow => ih v hv hbelow]
      simp only [writeValue, bind_eq_ok, pure_eq_ok]
      constructor
      · rintro ⟨_, ws, hws, -⟩
        exact ⟨ws, hws⟩
      · rintro ⟨ws, hws⟩
        exact ⟨_, ws, hws, rfl⟩
  | @map entries _ _ ih =>
      have hvalues : ∀ v ∈ entries.values, level < maxNesting →
          ((∃ cs, writeValue .compact (level + 1) v = .ok cs) ↔
            level + 1 + nesting v ≤ maxNesting) :=
        List.forall_mem_map.2 fun e he hbelow => ih e he hbelow
      rw [nesting, nestingOfEntries_eq, ← exists_writeItems_iff hlevel hvalues,
        ← exists_writeEntries_iff]
      simp only [writeValue, bind_eq_ok, pure_eq_ok]
      constructor
      · rintro ⟨_, ws, hws, -⟩
        exact ⟨ws, hws⟩
      · rintro ⟨ws, hws⟩
        exact ⟨_, ws, hws, rfl⟩

end Writing

section Reading

/-- A value whose document is read back wherever it stands. -/
def ReadsBack (v : Value) : Prop :=
  ∀ {level steps : Nat} {cs rest : List Char}, level ≤ maxNesting →
    writeValue .compact level v = .ok cs → cs.length < steps → Closes rest →
      readValue steps level (cs ++ rest) = some (v, rest)

theorem skipGap_cons {c : Char} (h : isGap c = false) (cs : List Char) :
    skipGap (c :: cs) = c :: cs := List.dropWhile_cons_of_neg (by simp [h])

/-- What the document of a value starts with: neither a gap nor a closing bracket. -/
def Opens (cs : List Char) : Prop :=
  ∃ c rest, cs = c :: rest ∧ isGap c = false ∧ c ≠ ']' ∧ c ≠ '\x7d'

theorem ne_of_isDigit {c d : Char} (hc : c.isDigit = true) (hd : d.isDigit = false) : c ≠ d := by
  rintro rfl
  rw [hc] at hd
  cases hd

theorem isGap_of_number {c : Char} (h : c.isDigit = true ∨ c = '-') : isGap c = false := by
  rcases h with hc | rfl
  · simp [isGap, ne_of_isDigit hc]
  · rfl

theorem opens_writeValue {v : Value} (hv : IsDocument v) {level : Nat} {cs : List Char}
    (h : writeValue .compact level v = .ok cs) : Opens cs := by
  cases hv with
  | null =>
      cases h
      exact ⟨'n', _, rfl, rfl, by decide, by decide⟩
  | bool b =>
      cases h
      cases b
      · exact ⟨'f', _, rfl, rfl, by decide, by decide⟩
      · exact ⟨'t', _, rfl, rfl, by decide, by decide⟩
  | text s =>
      cases h
      exact ⟨'"', _, rfl, rfl, by decide, by decide⟩
  | @int n hn =>
      obtain ⟨c, ds, hds, hc⟩ := exists_cons_toString n
      rw [writeValue, writeInt, if_pos hn] at h
      cases h
      refine ⟨c, ds, hds, isGap_of_number hc, ?_, ?_⟩ <;> rintro rfl <;> simp at hc
  | @list items _ =>
      simp only [writeValue, bind_eq_ok, pure_eq_ok] at h
      obtain ⟨ws, -, rfl⟩ := h
      cases ws <;> exact ⟨'[', _, rfl, rfl, by decide, by decide⟩
  | @map entries _ _ =>
      simp only [writeValue, bind_eq_ok, pure_eq_ok] at h
      obtain ⟨ws, -, rfl⟩ := h
      cases ws <;> exact ⟨'\x7b', _, rfl, rfl, by decide, by decide⟩

/-- What starts like a number is read as one. -/
theorem readValue_of_number {c : Char} (h : c.isDigit = true ∨ c = '-') (steps level : Nat)
    (cs : List Char) : readValue (steps + 1) level (c :: cs) = readNumber (c :: cs) := by
  have hmark : ∀ d ∈ ['"', '[', '\x7b', 'n', 't', 'f'], c ≠ d := by
    rintro d hd rfl
    rcases h with hc | rfl
    · have hall : (['"', '[', '\x7b', 'n', 't', 'f'].all fun d => !d.isDigit) = true := rfl
      have hnot := List.all_eq_true.1 hall c hd
      rw [hc] at hnot
      cases hnot
    · revert hd
      decide
  rw [readValue, skipGap_cons (isGap_of_number h)]
  -- all forms but the last start with a mark that no number starts with
  split
  case h_7 => rfl
  all_goals
    rename_i hcs
    exact absurd (List.cons.inj hcs).1 (hmark _ (by decide))

theorem readsBack_int {n : Int} (h : fits n = true) : ReadsBack (.int n) := by
  intro level steps cs rest _ hcs hsteps hrest
  rw [writeValue, writeInt, if_pos h] at hcs
  cases hcs
  obtain ⟨steps, rfl⟩ := Nat.exists_eq_succ_of_ne_zero (Nat.ne_zero_of_lt hsteps)
  obtain ⟨c, ds, hds, hc⟩ := exists_cons_toString n
  have hread := readNumber_toString hrest h
  rw [hds, List.cons_append] at hread ⊢
  rw [readValue_of_number hc, hread]

theorem readsBack_text (s : String) : ReadsBack (.text s) := by
  intro level steps cs rest _ hcs hsteps _
  cases hcs
  obtain ⟨steps, rfl⟩ := Nat.exists_eq_succ_of_ne_zero (Nat.ne_zero_of_lt hsteps)
  show (readText (s.toList.flatMap escapeChar ++ ['"'] ++ rest)).map _ = _
  rw [List.append_assoc]
  exact congrArg (Option.map _) (readText_writeText rest s)

section Items

variable {steps level : Nat} {cs rest : List Char} {v : Value}

theorem readItems_close (h : readValue steps level cs = some (v, ']' :: rest)) :
    readItems (steps + 1) level cs = some ([v], rest) := by
  rw [readItems, h]
  rfl

theorem readItems_comma (h : readValue steps level cs = some (v, ',' :: rest)) :
    readItems (steps + 1) level cs =
      (readItems steps level rest).map fun read => (v :: read.1, read.2) := by
  rw [readItems, h]
  show (readItems steps level rest >>= fun read => some (v :: read.1, read.2)) = _
  cases readItems steps level rest <;> rfl

/-- The items of a list are read back up to its closing bracket. -/
theorem readItems_writeItems (hlevel : level + 1 ≤ maxNesting) (rest : List Char)
    {w : List Char} {vs : List Value} {ws : List (List Char)} (hv : ReadsBack v)
    (hvs : ∀ v ∈ vs, ReadsBack v) (hw : writeValue .compact (level + 1) v = .ok w)
    (hws : writeItems .compact level vs = .ok ws) (hsteps : (chain w ws).length + 1 < steps) :
    readItems steps (level + 1) (chain w ws ++ ']' :: rest) = some (v :: vs, rest) := by
  -- one step reads the item, the others all that follows its comma
  induction vs generalizing v w ws steps with
  | nil =>
      cases hws
      obtain ⟨steps, rfl⟩ := Nat.exists_eq_succ_of_ne_zero (Nat.ne_zero_of_lt hsteps)
      rw [chain_nil] at hsteps ⊢
      exact readItems_close (hv hlevel hw (by omega) (closes_cons (by simp) rest))
  | cons v' vs ih =>
      obtain ⟨-, w', ws, hw', hrest, rfl⟩ := writeItems_cons_eq_ok.1 hws
      rw [List.forall_mem_cons] at hvs
      obtain ⟨steps, rfl⟩ := Nat.exists_eq_succ_of_ne_zero (Nat.ne_zero_of_lt hsteps)
      rw [length_chain_cons] at hsteps
      rw [chain_cons, List.append_assoc, List.cons_append]
      have hfirst : readValue steps (level + 1) (w ++ ',' :: (chain w' ws ++ ']' :: rest)) =
          some (v, ',' :: (chain w' ws ++ ']' :: rest)) :=
        hv hlevel hw (by omega) (closes_cons (by simp) _)
      rw [readItems_comma hfirst, ih hvs.1 hvs.2 hw' hrest (by omega)]
      rfl

end Items

section Entries

variable {steps level : Nat} {before : Entries Value} {key : String} {cs rest : List Char}
  {v : Value}

/-- A key and its value are read, and what comes next decides how it goes on. -/
theorem readEntries_entry (h : readValue steps level cs = some (v, rest)) :
    readEntries (steps + 1) level before (writeText key ++ ':' :: cs) =
      match skipGap rest with
      | ',' :: rest => readEntries steps level (before.put key v) rest
      | '\x7d' :: rest => some (before.put key v, rest)
      | _ => none := by
  have hshape : writeText key ++ ':' :: cs =
      '"' :: (key.toList.flatMap escapeChar ++ '"' :: ':' :: cs) := by simp [writeText]
  rw [hshape, readEntries, skipGap_cons rfl]
  show (readText (key.toList.flatMap escapeChar ++ '"' :: ':' :: cs) >>= fun _ => _) = _
  rw [readText_writeText]
  show (readValue steps level cs >>= fun _ => _) = _
  rw [h]
  rfl

theorem put_of_nodup_append {es : Entries Value} (h : (before ++ (key, v) :: es).keys.Nodup) :
    before.put key v = before ++ [(key, v)] := by
  refine Entries.put_of_not_mem_keys v fun hmem => ?_
  rw [Entries.keys, List.map_append, List.nodup_append] at h
  exact h.2.2 key hmem key List.mem_cons_self rfl

/-- The entries of a map are read back up to its closing bracket, after those before them. -/
theorem readEntries_writeEntries (hlevel : level + 1 ≤ maxNesting) (rest : List Char)
    {w : List Char} {es : Entries Value} {ws : List (List Char)} (hv : ReadsBack v)
    (hes : ∀ e ∈ es, ReadsBack e.2) (hkeys : (before ++ (key, v) :: es).keys.Nodup)
    (hw : writeValue .compact (level + 1) v = .ok w)
    (hws : writeEntries .compact level es = .ok ws)
    (hsteps : (chain (writeText key ++ ':' :: w) ws).length + 1 < steps) :
    readEntries steps (level + 1) before
        (chain (writeText key ++ ':' :: w) ws ++ '\x7d' :: rest) =
      some (before ++ (key, v) :: es, rest) := by
  -- the entry that is read goes to those before, where its key is new
  induction es generalizing before key v w ws steps with
  | nil =>
      cases hws
      obtain ⟨steps, rfl⟩ := Nat.exists_eq_succ_of_ne_zero (Nat.ne_zero_of_lt hsteps)
      rw [chain_nil] at hsteps ⊢
      rw [List.length_append, List.length_cons] at hsteps
      rw [List.append_assoc, List.cons_append]
      have hlast : readValue steps (level + 1) (w ++ '\x7d' :: rest) = some (v, '\x7d' :: rest) :=
        hv hlevel hw (by omega) (closes_cons (.inr (.inr rfl)) rest)
      rw [readEntries_entry hlast, ← put_of_nodup_append hkeys]
      rfl
  | cons e es ih =>
      obtain ⟨-, w', ws, hw', hrest, rfl⟩ := writeEntries_cons_eq_ok.1 hws
      rw [List.forall_mem_cons] at hes
      obtain ⟨steps, rfl⟩ := Nat.exists_eq_succ_of_ne_zero (Nat.ne_zero_of_lt hsteps)
      rw [length_chain_cons, List.length_append, List.length_cons] at hsteps
      rw [chain_cons, List.append_assoc, List.append_assoc, List.cons_append, List.cons_append]
      generalize hnext : chain (writeText e.1 ++ ':' :: w') ws = next at hsteps ⊢
      have hfirst : readValue steps (level + 1) (w ++ ',' :: (next ++ '\x7d' :: rest)) =
          some (v, ',' :: (next ++ '\x7d' :: rest)) :=
        hv hlevel hw (by omega) (closes_cons (.inl rfl) _)
      have hsplit : before ++ (key, v) :: e :: es = before ++ [(key, v)] ++ (e.1, e.2) :: es := by
        simp
      rw [readEntries_entry hfirst, put_of_nodup_append hkeys]
      rw [hsplit] at hkeys ⊢
      subst hnext
      exact ih hes.1 hes.2 hkeys hw' hrest (by omega)

end Entries

section Containers

variable {steps level : Nat} {cs : List Char}

theorem readValue_list (hcs : Opens cs) (hlevel : level < maxLevel) :
    readValue (steps + 1) level ('[' :: cs) =
      (readItems steps (level + 1) cs).map fun read => (.list read.1, read.2) := by
  obtain ⟨c, rest, rfl, hgap, hclose, -⟩ := hcs
  rw [readValue, skipGap_cons rfl]
  show (if maxLevel ≤ level then none else _) = _
  rw [if_neg (by omega), skipGap_cons hgap]
  split
  next heq => exact absurd (List.cons.inj heq).1 hclose
  next => rfl

theorem readValue_map (hcs : Opens cs) (hlevel : level < maxLevel) :
    readValue (steps + 1) level ('\x7b' :: cs) =
      (readEntries steps (level + 1) [] cs).map fun read => (.map read.1, read.2) := by
  obtain ⟨c, rest, rfl, hgap, -, hclose⟩ := hcs
  rw [readValue, skipGap_cons rfl]
  show (if maxLevel ≤ level then none else _) = _
  rw [if_neg (by omega), skipGap_cons hgap]
  split
  next heq => exact absurd (List.cons.inj heq).1 hclose
  next => rfl

theorem Opens.append (h : Opens cs) (more : List Char) : Opens (cs ++ more) := by
  obtain ⟨c, rest, rfl, hopens⟩ := h
  exact ⟨c, rest ++ more, rfl, hopens⟩

theorem opens_writeText (s : String) : Opens (writeText s) :=
  ⟨'"', _, rfl, rfl, by decide, by decide⟩

theorem maxNesting_lt_maxLevel : maxNesting < maxLevel := by decide

theorem readsBack_list {items : List Value} (hitems : ∀ v ∈ items, IsDocument v)
    (hback : ∀ v ∈ items, ReadsBack v) : ReadsBack (.list items) := by
  intro level steps cs rest hlevel hcs hsteps _
  have hmax := maxNesting_lt_maxLevel
  simp only [writeValue, bind_eq_ok, pure_eq_ok] at hcs
  obtain ⟨written, hwritten, rfl⟩ := hcs
  obtain ⟨steps, rfl⟩ := Nat.exists_eq_succ_of_ne_zero (Nat.ne_zero_of_lt hsteps)
  cases items with
  | nil =>
      cases hwritten
      show (if maxLevel ≤ level then none else some (Value.list [], rest)) = _
      rw [if_neg (by omega)]
  | cons v vs =>
      obtain ⟨hbelow, w, ws, hw, hws, rfl⟩ := writeItems_cons_eq_ok.1 hwritten
      rw [List.forall_mem_cons] at hitems hback
      rw [enclose_compact, List.length_cons, List.length_append, List.length_singleton] at hsteps
      have hopens : Opens (chain w ws ++ ']' :: rest) :=
        ((opens_writeValue hitems.1 hw).append _).append _
      rw [enclose_compact, List.cons_append, List.append_assoc, List.singleton_append,
        readValue_list hopens (by omega),
        readItems_writeItems hbelow rest hback.1 hback.2 hw hws (by omega)]
      rfl

theorem readsBack_map {entries : Entries Value} (hkeys : entries.keys.Nodup)
    (hback : ∀ e ∈ entries, ReadsBack e.2) : ReadsBack (.map entries) := by
  intro level steps cs rest hlevel hcs hsteps _
  have hmax := maxNesting_lt_maxLevel
  simp only [writeValue, bind_eq_ok, pure_eq_ok] at hcs
  obtain ⟨written, hwritten, rfl⟩ := hcs
  obtain ⟨steps, rfl⟩ := Nat.exists_eq_succ_of_ne_zero (Nat.ne_zero_of_lt hsteps)
  cases entries with
  | nil =>
      cases hwritten
      show (if maxLevel ≤ level then none else some (Value.map [], rest)) = _
      rw [if_neg (by omega)]
  | cons e es =>
      obtain ⟨hbelow, w, ws, hw, hws, rfl⟩ := writeEntries_cons_eq_ok.1 hwritten
      rw [List.forall_mem_cons] at hback
      rw [enclose_compact, List.length_cons, List.length_append, List.length_singleton] at hsteps
      have hopens : Opens (chain (writeText e.1 ++ ':' :: w) ws ++ '\x7d' :: rest) :=
        (((opens_writeText e.1).append _).append _).append _
      have hread : readEntries steps (level + 1) []
          (chain (writeText e.1 ++ ':' :: w) ws ++ '\x7d' :: rest) = some (e :: es, rest) :=
        readEntries_writeEntries hbelow rest hback.1 hback.2 hkeys hw hws (by omega)
      rw [enclose_compact, List.cons_append, List.append_assoc, List.singleton_append,
        readValue_map hopens (by omega), hread]
      rfl

/-- A document is read back wherever it stands. -/
theorem readsBack {v : Value} (hv : IsDocument v) : ReadsBack v := by
  -- a container is read back because everything in it is, one level deeper
  induction hv with
  | null =>
      intro level steps cs rest _ hcs hsteps _
      cases hcs
      obtain ⟨steps, rfl⟩ := Nat.exists_eq_succ_of_ne_zero (Nat.ne_zero_of_lt hsteps)
      rfl
  | bool b =>
      intro level steps cs rest _ hcs hsteps _
      cases hcs
      obtain ⟨steps, rfl⟩ := Nat.exists_eq_succ_of_ne_zero (Nat.ne_zero_of_lt hsteps)
      cases b <;> rfl
  | int h => exact readsBack_int h
  | text s => exact readsBack_text s
  | list hitems ih => exact readsBack_list hitems ih
  | map hkeys _ ih => exact readsBack_map hkeys ih

end Containers

end Reading

/-- A document is written exactly if it is not nested too deeply. -/
theorem exists_write_iff {v : Value} (hv : IsDocument v) :
    (∃ text, write .compact v = .ok text) ↔ nesting v ≤ maxNesting := by
  have hvalue := exists_writeValue_iff hv (Nat.zero_le maxNesting)
  rw [Nat.zero_add] at hvalue
  rw [← hvalue]
  simp only [write, bind_eq_ok, pure_eq_ok]
  constructor
  · rintro ⟨_, cs, hcs, -⟩
    exact ⟨cs, hcs⟩
  · rintro ⟨cs, hcs⟩
    exact ⟨_, cs, hcs, rfl⟩

/-- What is written of a document is read as the same value. -/
theorem read?_of_write {v : Value} (hv : IsDocument v) {text : String}
    (h : write .compact v = .ok text) : read? text = some v := by
  simp only [write, bind_eq_ok, pure_eq_ok] at h
  obtain ⟨cs, hcs, rfl⟩ := h
  have hread := readsBack hv (Nat.zero_le maxNesting) hcs (Nat.lt_succ_self cs.length) closes_nil
  rw [List.append_nil] at hread
  rw [read?, String.toList_ofList, hread]
  rfl

end AdminGrid.Json

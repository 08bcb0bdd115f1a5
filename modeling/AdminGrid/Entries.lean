/-!
# Entries by key

A collection of entries keeps the order in which its keys first came.  `put` replaces the entry of a
known key where it stands and appends a new one.
-/

namespace AdminGrid

/-- Entries with distinct keys, in the order in which the keys first came. -/
abbrev Entries (α : Type) := List (String × α)

namespace Entries

variable {α β : Type}

/-- The entry of a key. -/
def get? (key : String) : Entries α → Option α
  | [] => none
  | (k, a) :: rest => if k = key then some a else get? key rest

/-- Whether a key has an entry. -/
def has (key : String) (entries : Entries α) : Bool := (entries.get? key).isSome

/-- Sets the entry of a key. -/
def put (key : String) (a : α) : Entries α → Entries α
  | [] => [(key, a)]
  | (k, b) :: rest => if k = key then (k, a) :: rest else (k, b) :: put key a rest

/-- Sets the entry of a key that has none yet. -/
def putNew (key : String) (a : α) (entries : Entries α) : Entries α :=
  if entries.has key then entries else entries ++ [(key, a)]

/-- Sets the entries of the second collection in the first. -/
def merge (entries new : Entries α) : Entries α :=
  new.foldl (fun acc (key, a) => acc.put key a) entries

/-- The collection of the given pairs, a later pair of a key taking the place of an earlier one. -/
def ofList (pairs : List (String × α)) : Entries α := merge [] pairs

/-- The keys in their order. -/
def keys (entries : Entries α) : List String := entries.map (·.1)

/-- The entries without their keys. -/
def values (entries : Entries α) : List α := entries.map (·.2)

theorem get?_put_self (key : String) (a : α) (entries : Entries α) :
    (entries.put key a).get? key = some a := by
  induction entries with
  | nil => simp [put, get?]
  | cons e rest ih =>
      obtain ⟨k, b⟩ := e
      by_cases h : k = key <;> simp [put, get?, h, ih]

theorem get?_put_of_ne {key other : String} (a : α) (entries : Entries α) (h : key ≠ other) :
    (entries.put key a).get? other = entries.get? other := by
  induction entries with
  | nil => simp [put, get?, h]
  | cons e rest ih =>
      obtain ⟨k, b⟩ := e
      by_cases hk : k = key
      · subst hk
        simp [put, get?, h]
      · by_cases ho : k = other
        · subst ho
          simp [put, get?, hk]
        · simp [put, get?, hk, ho, ih]

theorem mem_keys_iff_has (key : String) (entries : Entries α) :
    key ∈ entries.keys ↔ entries.has key = true := by
  induction entries with
  | nil => simp [keys, has, get?]
  | cons e rest ih =>
      obtain ⟨k, b⟩ := e
      by_cases h : k = key
      · simp [keys, has, get?, h]
      · have h' : ¬ key = k := fun e => h e.symm
        simpa [keys, has, get?, h, h'] using ih

end Entries

end AdminGrid

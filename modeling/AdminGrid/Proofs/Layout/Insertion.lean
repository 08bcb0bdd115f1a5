import AdminGrid.Layout.Relations
import Mathlib.Data.List.Nodup

/-!
# Lists with an element put in

Relation columns and formula columns come into a list of columns one at a time, each at an index of
the list as it then stands.  An index beyond the end means the end, so the element always lands at
`min i xs.length`; what stood before it stays where it is, and nothing else changes its order.
-/

namespace AdminGrid.Layout

variable {α : Type} {xs : List α} {i j : Nat} {x y : α}

@[simp]
theorem mem_insertAt : y ∈ insertAt xs i x ↔ y = x ∨ y ∈ xs := by
  have h : y ∈ xs ↔ y ∈ xs.take i ∨ y ∈ xs.drop i := by
    rw [← List.mem_append, List.take_append_drop]
  simp only [insertAt, List.mem_append, List.mem_cons, h]
  tauto

@[simp]
theorem length_insertAt : (insertAt xs i x).length = xs.length + 1 := by
  simp only [insertAt, List.length_append, List.length_cons, List.length_take, List.length_drop]
  omega

theorem perm_insertAt : (insertAt xs i x).Perm (x :: xs) := by
  have h : (insertAt xs i x).Perm (x :: (xs.take i ++ xs.drop i)) := List.perm_middle
  rwa [List.take_append_drop] at h

theorem nodup_insertAt (hx : x ∉ xs) (hxs : xs.Nodup) : (insertAt xs i x).Nodup :=
  perm_insertAt.nodup_iff.2 (List.nodup_cons.2 ⟨hx, hxs⟩)

/-- Elements that are put in one after another, each at a place that may depend on the list as it
then stands, come beside what there was. -/
theorem perm_foldl_insertAt {β : Type} (place : List α → β → Nat) (element : β → α) (bs : List β)
    (xs : List α) :
    (bs.foldl (fun xs b => insertAt xs (place xs b) (element b)) xs).Perm
      (bs.map element ++ xs) := by
  induction bs generalizing xs with
  | nil => exact List.Perm.refl xs
  | cons b rest ih =>
      rw [List.foldl_cons, List.map_cons]
      exact (ih _).trans ((perm_insertAt.append_left _).trans List.perm_middle)

/-- An element that a filter drops may be put in anywhere. -/
theorem filter_insertAt (p : α → Bool) (hx : p x = false) :
    (insertAt xs i x).filter p = xs.filter p := by
  rw [insertAt, List.filter_append, List.filter_cons_of_neg (by simp [hx]), ← List.filter_append,
    List.take_append_drop]

theorem getElem?_insertAt_self : (insertAt xs i x)[min i xs.length]? = some x := by
  have hlen : (xs.take i).length = min i xs.length := List.length_take
  rw [insertAt, List.getElem?_append_right (by omega), hlen]
  simp

/-- What stands before the place of the new element stays where it is. -/
theorem getElem?_insertAt_of_lt (h : j < min i xs.length) : (insertAt xs i x)[j]? = xs[j]? := by
  have hlen : (xs.take i).length = min i xs.length := List.length_take
  rw [insertAt, List.getElem?_append_left (by omega), List.getElem?_take_of_lt (by omega)]

theorem insertAt_append_left {ys : List α} (h : i ≤ xs.length) :
    insertAt (xs ++ ys) i x = insertAt xs i x ++ ys := by
  rw [insertAt, insertAt, List.take_append_of_le_length h, List.drop_append_of_le_length h]
  simp

theorem insertAt_append_right {ys : List α} (h : xs.length ≤ i) :
    insertAt (xs ++ ys) i x = xs ++ insertAt ys (i - xs.length) x := by
  have htake : (xs ++ ys).take i = xs ++ ys.take (i - xs.length) := by
    rw [List.take_append, List.take_of_length_le h]
  have hdrop : (xs ++ ys).drop i = ys.drop (i - xs.length) := by
    rw [List.drop_append, List.drop_eq_nil_of_le h, List.nil_append]
  rw [insertAt, insertAt, htake, hdrop, List.append_assoc]

/-- A list with several elements put in one after another. -/
def insertAll (xs : List α) (places : List (Nat × α)) : List α :=
  places.foldl (fun xs place => insertAt xs place.1 place.2) xs

theorem insertAll_cons (xs : List α) (place : Nat × α) (rest : List (Nat × α)) :
    insertAll xs (place :: rest) = insertAll (insertAt xs place.1 place.2) rest := rfl

theorem perm_insertAll (xs : List α) (places : List (Nat × α)) :
    (insertAll xs places).Perm (places.map (·.2) ++ xs) :=
  perm_foldl_insertAt (fun _ (place : Nat × α) => place.1) (·.2) places xs

theorem filter_insertAll (p : α → Bool) (xs : List α) {places : List (Nat × α)}
    (h : ∀ place ∈ places, p place.2 = false) : (insertAll xs places).filter p = xs.filter p := by
  induction places generalizing xs with
  | nil => rfl
  | cons place rest ih =>
      rw [insertAll_cons, ih _ fun q hq => h q (List.mem_cons_of_mem _ hq)]
      exact filter_insertAt p (h place List.mem_cons_self)

/-- Insertions behind an index leave the element at that index where it is. -/
theorem getElem?_insertAll_of_lt {xs : List α} {places : List (Nat × α)} {k : Nat}
    (hk : k < xs.length) (h : ∀ place ∈ places, k < place.1) :
    (insertAll xs places)[k]? = xs[k]? := by
  induction places generalizing xs with
  | nil => rfl
  | cons place rest ih =>
      have hplace : k < place.1 := h place List.mem_cons_self
      rw [insertAll_cons, ih (by rw [length_insertAt]; omega) fun q hq =>
        h q (List.mem_cons_of_mem _ hq)]
      exact getElem?_insertAt_of_lt (by omega)

/-- In ascending order of their indexes, elements stay where they are put: the `j`-th one at its
index, or at the end of what there was when it came. -/
theorem getElem?_insertAll {xs : List α} {places : List (Nat × α)}
    (hsorted : places.Pairwise (·.1 < ·.1)) {j : Nat} {place : Nat × α}
    (hj : places[j]? = some place) :
    (insertAll xs places)[min place.1 (xs.length + j)]? = some place.2 := by
  induction places generalizing xs j with
  | nil => simp at hj
  | cons first rest ih =>
      obtain ⟨hfirst, hrest⟩ := List.pairwise_cons.1 hsorted
      rw [insertAll_cons]
      cases j with
      | zero =>
          obtain rfl : first = place := by simpa using hj
          have hself : (insertAt xs first.1 first.2)[min first.1 xs.length]? = some first.2 :=
            getElem?_insertAt_self
          -- later insertions stand behind this one and leave it where it is
          rw [Nat.add_zero, ← hself]
          refine getElem?_insertAll_of_lt (by rw [length_insertAt]; omega) fun q hq => ?_
          have := hfirst q hq
          omega
      | succ j =>
          have hlen : (insertAt xs first.1 first.2).length + j = xs.length + (j + 1) := by
            rw [length_insertAt]
            omega
          rw [← hlen]
          exact ih hrest (by simpa using hj)

end AdminGrid.Layout

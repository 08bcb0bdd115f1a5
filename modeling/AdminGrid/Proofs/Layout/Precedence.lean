import Mathlib.Data.List.Perm.Basic

/-!
# The order of a list

An element precedes another one if it stands before it somewhere.  In a list without duplicates this
is a strict order that determines the list up to its elements; a list is determined as well by the
order of one kind of its elements together with the indexes of the others.
-/

namespace AdminGrid.Layout

variable {α : Type} {xs ys : List α} {x y : α}

/-- An element that stands before another one. -/
def Precedes (xs : List α) (x y : α) : Prop :=
  [x, y].Sublist xs

instance [DecidableEq α] (xs : List α) (x y : α) : Decidable (Precedes xs x y) :=
  inferInstanceAs (Decidable ([x, y].Sublist xs))

theorem pairwise_precedes (xs : List α) : xs.Pairwise (Precedes xs) :=
  List.pairwise_iff_forall_sublist.2 id

theorem Precedes.mem_left (h : Precedes xs x y) : x ∈ xs :=
  h.subset (by simp)

theorem Precedes.mem_right (h : Precedes xs x y) : y ∈ xs :=
  h.subset (by simp)

theorem Precedes.filter {p : α → Bool} (h : Precedes xs x y) (hx : p x = true) (hy : p y = true) :
    Precedes (xs.filter p) x y := by
  have hpair : ([x, y].filter p).Sublist (xs.filter p) := List.Sublist.filter p h
  rwa [List.filter_cons_of_pos hx, List.filter_cons_of_pos hy, List.filter_nil] at hpair

theorem Precedes.map {β : Type} (f : α → β) (h : Precedes xs x y) :
    Precedes (xs.map f) (f x) (f y) :=
  List.Sublist.map f h

/-- Without duplicates no two elements stand before each other. -/
theorem Precedes.asymm (hnodup : xs.Nodup) (h : Precedes xs x y) : ¬ Precedes xs y x := by
  intro h'
  induction xs with
  | nil => exact List.not_mem_nil h.mem_left
  | cons a xs ih =>
      obtain ⟨ha, hxs⟩ := List.nodup_cons.1 hnodup
      rcases List.sublist_cons_iff.1 h with htail | ⟨r, hr, hsub⟩
      · rcases List.sublist_cons_iff.1 h' with htail' | ⟨r', hr', hsub'⟩
        · exact ih hxs htail htail'
        · cases hr'
          exact ha (Precedes.mem_right htail)
      · cases hr
        have hy : y ∈ xs := hsub.subset (by simp)
        rcases List.sublist_cons_iff.1 h' with htail' | ⟨r', hr', hsub'⟩
        · exact ha (Precedes.mem_right htail')
        · cases hr'
          exact ha hy

/-- The order of two elements is settled by any part of the list that holds both. -/
theorem precedes_iff_of_filter_eq {p : α → Bool} (hx : p x = true) (hy : p y = true)
    (h : xs.filter p = ys.filter p) : Precedes xs x y ↔ Precedes ys x y := by
  have hfilter (zs : List α) : Precedes (zs.filter p) x y ↔ Precedes zs x y :=
    ⟨fun h => List.Sublist.trans h List.filter_sublist, fun h => h.filter hx hy⟩
  rw [← hfilter xs, h, hfilter ys]

theorem precedes_of_mem_take_of_mem_drop {k : Nat} (hx : x ∈ xs.take k) (hy : y ∈ xs.drop k) :
    Precedes xs x y := by
  have hpair := (List.singleton_sublist.2 hx).append (List.singleton_sublist.2 hy)
  rwa [List.take_append_drop] at hpair

theorem mem_take_of_getElem? {j k : Nat} (h : xs[k]? = some x) (hlt : k < j) : x ∈ xs.take j :=
  List.mem_iff_getElem?.2 ⟨k, by rw [List.getElem?_take_of_lt hlt, h]⟩

theorem mem_drop_of_getElem? {i k : Nat} (h : xs[k]? = some x) (hle : i ≤ k) : x ∈ xs.drop i :=
  List.mem_iff_getElem?.2 ⟨k - i, by rw [List.getElem?_drop, Nat.add_sub_cancel' hle, h]⟩

theorem Precedes.mem_drop {i : Nat} (hnodup : xs.Nodup) (h : Precedes xs x y)
    (hi : xs[i]? = some x) : y ∈ xs.drop i := by
  have hmem := h.mem_right
  rw [← List.take_append_drop i xs, List.mem_append] at hmem
  refine hmem.resolve_left fun htake => h.asymm hnodup ?_
  exact precedes_of_mem_take_of_mem_drop htake (mem_drop_of_getElem? hi (Nat.le_refl i))

theorem Precedes.mem_take {j : Nat} (hnodup : xs.Nodup) (h : Precedes xs x y)
    (hj : xs[j]? = some y) : x ∈ xs.take j := by
  have hy : xs.take (j + 1) = xs.take j ++ [y] := by
    rw [List.take_add_one, hj]
    rfl
  have hmem := h.mem_left
  rw [← List.take_append_drop (j + 1) xs, List.mem_append, hy, List.mem_append,
    List.mem_singleton] at hmem
  rcases hmem with (htake | rfl) | hdrop
  · exact htake
  · exact absurd h (h.asymm hnodup)
  · exact absurd (precedes_of_mem_take_of_mem_drop (hy ▸ by simp) hdrop) (h.asymm hnodup)

/-- Lists of the same elements in the same order are equal. -/
theorem eq_of_perm_of_precedes (hnodup : xs.Nodup) (hperm : xs.Perm ys)
    (h : ∀ x y, Precedes ys x y → Precedes xs x y) : xs = ys := by
  have hys : ys.Pairwise (Precedes xs) :=
    List.pairwise_iff_forall_sublist.2 fun hpair => h _ _ hpair
  exact hperm.eq_of_pairwise (fun a b _ _ hab hba => absurd hba (hab.asymm hnodup))
    (pairwise_precedes xs) hys

/-- Lists are equal if they have the same elements of one kind in the same order and the elements of
the other kind at the same indexes. -/
theorem eq_of_filter_eq {p : α → Bool} (hfilter : xs.filter p = ys.filter p)
    (hsame : ∀ (k : Nat) (x : α), p x = false → (xs[k]? = some x ↔ ys[k]? = some x)) : xs = ys := by
  induction xs generalizing ys with
  | nil =>
      cases ys with
      | nil => rfl
      | cons b ys =>
          by_cases hb : p b = true
          · rw [List.filter_cons_of_pos hb] at hfilter
            cases hfilter
          · have hnil := (hsame 0 b (by simpa using hb)).2 rfl
            cases hnil
  | cons a xs ih =>
      by_cases ha : p a = true
      · cases ys with
        | nil =>
            rw [List.filter_cons_of_pos ha] at hfilter
            cases hfilter
        | cons b ys =>
            by_cases hb : p b = true
            · rw [List.filter_cons_of_pos ha, List.filter_cons_of_pos hb] at hfilter
              obtain ⟨rfl, htail⟩ := List.cons.inj hfilter
              rw [ih htail fun k => hsame (k + 1)]
            · -- a head that is not kept stands at the head of both lists
              have hhead := (hsame 0 b (by simpa using hb)).2 rfl
              rw [Option.some.inj hhead] at ha
              exact absurd ha hb
      · have hhead := (hsame 0 a (by simpa using ha)).1 rfl
        cases ys with
        | nil => cases hhead
        | cons b ys =>
            obtain rfl : b = a := Option.some.inj hhead
            rw [List.filter_cons_of_neg ha, List.filter_cons_of_neg ha] at hfilter
            rw [ih hfilter fun k => hsame (k + 1)]

/-- The elements before the first occurrence of one. -/
def ahead [DecidableEq α] (xs : List α) (x : α) : List α :=
  xs.takeWhile (· != x)

section Ahead

variable [DecidableEq α]

@[simp]
theorem ahead_nil : ahead [] x = [] := rfl

@[simp]
theorem ahead_cons_self : ahead (x :: xs) x = [] := by
  simp [ahead]

theorem ahead_cons_of_ne (h : y ≠ x) : ahead (y :: xs) x = y :: ahead xs x := by
  simp [ahead, h]

theorem ahead_append_of_not_mem (h : x ∉ xs) : ahead (xs ++ ys) x = xs ++ ahead ys x := by
  induction xs with
  | nil => rfl
  | cons a xs ih =>
      rw [List.mem_cons, not_or] at h
      obtain ⟨ha, hxs⟩ := h
      rw [List.cons_append, ahead_cons_of_ne (Ne.symm ha), ih hxs, List.cons_append]

theorem ahead_append_of_mem (h : x ∈ xs) : ahead (xs ++ ys) x = ahead xs x := by
  induction xs with
  | nil => cases h
  | cons a xs ih =>
      by_cases hax : a = x
      · subst hax
        simp
      · have hmem : x ∈ xs := (List.mem_cons.1 h).resolve_left (Ne.symm hax)
        rw [List.cons_append, ahead_cons_of_ne hax, ahead_cons_of_ne hax, ih hmem]

theorem ahead_subset (xs : List α) (x : α) : ahead xs x ⊆ xs :=
  (List.takeWhile_sublist _).subset

theorem ahead_eq_take (xs : List α) (x : α) : ahead xs x = xs.take (xs.idxOf x) := by
  induction xs with
  | nil => rfl
  | cons a xs ih =>
      by_cases hax : a = x
      · subst hax
        simp
      · rw [ahead_cons_of_ne hax, List.idxOf_cons_ne _ hax, List.take_succ_cons, ih]

theorem length_ahead (h : x ∈ xs) : (ahead xs x).length = xs.idxOf x := by
  have hlt : xs.idxOf x < xs.length := List.idxOf_lt_length_iff.2 h
  rw [ahead_eq_take, List.length_take]
  omega

/-- Elements that a filter drops do not matter for what stands before one that it keeps. -/
theorem ahead_filter {p : α → Bool} (hp : p x = true) :
    ahead (xs.filter p) x = (ahead xs x).filter p := by
  induction xs with
  | nil => rfl
  | cons a xs ih =>
      by_cases hax : a = x
      · subst hax
        rw [List.filter_cons_of_pos hp, ahead_cons_self, ahead_cons_self, List.filter_nil]
      · rw [ahead_cons_of_ne hax]
        by_cases ha : p a = true
        · rw [List.filter_cons_of_pos ha, List.filter_cons_of_pos ha, ahead_cons_of_ne hax, ih]
        · rw [List.filter_cons_of_neg ha, List.filter_cons_of_neg ha, ih]

/-- What a filter keeps before an element is its index among all that the filter keeps. -/
theorem getElem?_filter_ahead {p : α → Bool} (hmem : x ∈ xs) (hp : p x = true) :
    (xs.filter p)[((ahead xs x).filter p).length]? = some x := by
  have hfilter : x ∈ xs.filter p := List.mem_filter.2 ⟨hmem, hp⟩
  rw [← ahead_filter hp, length_ahead hfilter]
  exact List.getElem?_idxOf hfilter

end Ahead

/-- In a list without duplicates an element stands at one index only. -/
theorem getElem?_eq_some_iff_of_nodup {i k : Nat} (hnodup : xs.Nodup) (hi : xs[i]? = some x) :
    xs[k]? = some x ↔ k = i := by
  constructor
  · intro hk
    obtain ⟨hlt, -⟩ := List.getElem?_eq_some_iff.1 hk
    exact (List.getElem?_inj hlt hnodup).1 (hk.trans hi.symm)
  · rintro rfl
    exact hi

end AdminGrid.Layout

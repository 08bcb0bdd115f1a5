import AdminGrid.Failure
import Mathlib.Data.List.Forall2

/-!
# What comes out of a computation

An attempt succeeds with a result exactly if each of its steps does.  A computation that also keeps
a state, as the stages with their reports and the rendering with its tally do, yields an attempt if
its result never depends on the state.
-/

namespace AdminGrid

variable {α β σ : Type}

theorem bind_eq_ok {a : Attempt α} {f : α → Attempt β} {y : β} :
    (a >>= f) = .ok y ↔ ∃ x, a = .ok x ∧ f x = .ok y := by
  cases a with
  | error e => simp [bind, Except.bind]
  | ok x => simp [bind, Except.bind]

/-- What follows an attempt matters for its results alone. -/
theorem bind_congr_of_ok {a : Attempt α} {f g : α → Attempt β} (h : ∀ x, a = .ok x → f x = g x) :
    a >>= f = a >>= g := by
  cases a with
  | error e => rfl
  | ok x => exact h x rfl

/-- Steps that cannot fail do not matter for whether there is a result. -/
theorem exists_bind_iff {a : Attempt α} {f : α → Attempt β} (h : ∀ x, ∃ y, f x = .ok y) :
    (∃ y, (a >>= f) = .ok y) ↔ ∃ x, a = .ok x := by
  simp only [bind_eq_ok]
  constructor
  · rintro ⟨_, x, hx, _⟩
    exact ⟨x, hx⟩
  · rintro ⟨x, hx⟩
    obtain ⟨y, hy⟩ := h x
    exact ⟨y, x, hx, hy⟩

theorem map_eq_ok {a : Attempt α} {f : α → β} {y : β} :
    a.map f = .ok y ↔ ∃ x, a = .ok x ∧ f x = y := by
  cases a with
  | error e => simp [Except.map]
  | ok x => simp [Except.map]

theorem exists_map_iff {a : Attempt α} {f : α → β} :
    (∃ y, a.map f = .ok y) ↔ ∃ x, a = .ok x := by
  cases a <;> simp [Except.map]

theorem map_bind_eq {γ : Type} (a : Attempt α) (f : α → Attempt β) (g : β → γ) :
    (a >>= f).map g = a >>= fun x => (f x).map g := by
  cases a <;> rfl

theorem mapError_eq_ok {a : Attempt α} {f : Failure → Failure} {x : α} :
    a.mapError f = .ok x ↔ a = .ok x := by
  cases a <;> simp [Except.mapError]

theorem pure_eq_ok {x y : α} : (pure x : Attempt α) = .ok y ↔ x = y := by
  simp [pure, Except.pure]

theorem mapM_cons_eq_ok {f : α → Attempt β} {x : α} {xs : List α} {ys : List β} :
    (x :: xs).mapM f = .ok ys ↔ ∃ y rest, f x = .ok y ∧ xs.mapM f = .ok rest ∧ ys = y :: rest := by
  rw [List.mapM_cons, bind_eq_ok]
  simp only [bind_eq_ok, pure_eq_ok]
  constructor
  · rintro ⟨y, hy, rest, hrest, rfl⟩
    exact ⟨y, rest, hy, hrest, rfl⟩
  · rintro ⟨y, rest, hy, hrest, rfl⟩
    exact ⟨y, hy, rest, hrest, rfl⟩

/-- A list of attempts succeeds one by one. -/
theorem mapM_eq_ok {f : α → Attempt β} {xs : List α} {ys : List β} :
    xs.mapM f = .ok ys ↔ List.Forall₂ (fun x y => f x = .ok y) xs ys := by
  induction xs generalizing ys with
  | nil => simp [pure, Except.pure, eq_comm]
  | cons x xs ih =>
      rw [mapM_cons_eq_ok, List.forall₂_cons_left_iff]
      simp only [ih]

theorem exists_mapM_iff {f : α → Attempt β} {xs : List α} :
    (∃ ys, xs.mapM f = .ok ys) ↔ ∀ x ∈ xs, ∃ y, f x = .ok y := by
  induction xs with
  | nil => exact iff_of_true ⟨[], rfl⟩ fun x hx => nomatch hx
  | cons x xs ih =>
      simp only [mapM_cons_eq_ok, List.forall_mem_cons, ← ih]
      constructor
      · rintro ⟨ys, y, rest, hy, hrest, rfl⟩
        exact ⟨⟨y, hy⟩, rest, hrest⟩
      · rintro ⟨⟨y, hy⟩, rest, hrest⟩
        exact ⟨y :: rest, y, rest, hy, hrest, rfl⟩

theorem mapM_append_eq_ok {f : α → Attempt β} {xs xs' : List α} {zs : List β} :
    (xs ++ xs').mapM f = .ok zs ↔
      ∃ ys ys', xs.mapM f = .ok ys ∧ xs'.mapM f = .ok ys' ∧ zs = ys ++ ys' := by
  rw [List.mapM_append]
  simp only [bind_eq_ok, pure_eq_ok]
  constructor
  · rintro ⟨ys, hys, ys', hys', rfl⟩
    exact ⟨ys, ys', hys, hys', rfl⟩
  · rintro ⟨ys, ys', hys, hys', rfl⟩
    exact ⟨ys, hys, ys', hys', rfl⟩

theorem mapM_congr {f g : α → Attempt β} {xs : List α} (h : ∀ x ∈ xs, f x = g x) :
    xs.mapM f = xs.mapM g := by
  induction xs with
  | nil => rfl
  | cons x xs ih =>
      rw [List.forall_mem_cons] at h
      rw [List.mapM_cons, List.mapM_cons, h.1, ih h.2]

theorem exists_of_mem_mapM {f : α → Attempt β} {xs : List α} {ys : List β}
    (h : xs.mapM f = .ok ys) {x : α} (hx : x ∈ xs) : ∃ y ∈ ys, f x = .ok y := by
  have hall := mapM_eq_ok.1 h
  clear h
  induction hall with
  | nil => cases hx
  | @cons z w _ _ hzw _ ih =>
      rcases List.mem_cons.1 hx with rfl | hx
      · exact ⟨w, List.mem_cons_self, hzw⟩
      · obtain ⟨y, hy, hfx⟩ := ih hx
        exact ⟨y, List.mem_cons_of_mem w hy, hfx⟩

theorem exists_of_mem_of_mapM {f : α → Attempt β} {xs : List α} {ys : List β}
    (h : xs.mapM f = .ok ys) {y : β} (hy : y ∈ ys) : ∃ x ∈ xs, f x = .ok y := by
  have hall := mapM_eq_ok.1 h
  clear h
  induction hall with
  | nil => cases hy
  | @cons x _ _ _ hxy _ ih =>
      rcases List.mem_cons.1 hy with rfl | hy
      · exact ⟨x, List.mem_cons_self, hxy⟩
      · obtain ⟨x', hx', hfx⟩ := ih hy
        exact ⟨x', List.mem_cons_of_mem x hx', hfx⟩

/-- Each element with those before it: the first one with none, and then the others.  So it is with
what an attempt at a list asks of an element where the earlier ones matter. -/
theorem forall_split_cons {P : List α → α → Prop} {x : α} {xs : List α} :
    (∀ before y after, x :: xs = before ++ y :: after → P before y) ↔
      P [] x ∧ ∀ before y after, xs = before ++ y :: after → P (x :: before) y := by
  constructor
  · intro h
    refine ⟨h [] x xs rfl, fun before y after hxs => ?_⟩
    exact h (x :: before) y after (congrArg (x :: ·) hxs)
  · rintro ⟨hhead, htail⟩ before y after hsplit
    rcases List.cons_eq_append_iff.1 hsplit with ⟨rfl, hy⟩ | ⟨before, rfl, hxs⟩
    · obtain ⟨rfl, -⟩ := List.cons.inj hy
      exact hhead
    · exact htail before y after hxs

/-- Two attempts that both fail, or both succeed with related results. -/
def Alike (R : α → β → Prop) : Attempt α → Attempt β → Prop
  | .ok x, .ok y => R x y
  | .error _, .error _ => True
  | _, _ => False

theorem Alike.error_or_ok {R : α → β → Prop} {a : Attempt α} {b : Attempt β} (h : Alike R a b) :
    (∃ e e', a = .error e ∧ b = .error e') ∨ ∃ x y, a = .ok x ∧ b = .ok y ∧ R x y := by
  cases a with
  | error e =>
      cases b with
      | error e' => exact Or.inl ⟨e, e', rfl, rfl⟩
      | ok y => exact h.elim
  | ok x =>
      cases b with
      | error e' => exact h.elim
      | ok y => exact Or.inr ⟨x, y, rfl, rfl, h⟩

theorem Alike.mono {R S : α → β → Prop} {a : Attempt α} {b : Attempt β} (h : Alike R a b)
    (hRS : ∀ x y, R x y → S x y) : Alike S a b := by
  rcases h.error_or_ok with ⟨e, e', rfl, rfl⟩ | ⟨x, y, rfl, rfl, hxy⟩
  · trivial
  · exact hRS x y hxy

theorem Alike.refl (a : Attempt α) : Alike Eq a a := by
  cases a with
  | error e => trivial
  | ok x => exact rfl

theorem Alike.of_eq {a b : Attempt α} (h : a = b) : Alike Eq a b := h ▸ Alike.refl a

theorem Alike.bind {γ δ : Type} {R : α → β → Prop} {S : γ → δ → Prop} {a : Attempt α}
    {b : Attempt β} {f : α → Attempt γ} {g : β → Attempt δ} (h : Alike R a b)
    (hf : ∀ x y, a = .ok x → b = .ok y → R x y → Alike S (f x) (g y)) :
    Alike S (a >>= f) (b >>= g) := by
  rcases h.error_or_ok with ⟨e, e', rfl, rfl⟩ | ⟨x, y, rfl, rfl, hxy⟩
  · trivial
  · exact hf x y rfl rfl hxy

theorem Alike.map {γ δ : Type} {R : α → β → Prop} {S : γ → δ → Prop} {a : Attempt α}
    {b : Attempt β} {f : α → γ} {g : β → δ} (h : Alike R a b)
    (hf : ∀ x y, R x y → S (f x) (g y)) : Alike S (a.map f) (b.map g) := by
  rcases h.error_or_ok with ⟨e, e', rfl, rfl⟩ | ⟨x, y, rfl, rfl, hxy⟩
  · trivial
  · exact hf x y hxy

theorem Alike.exists_of_ok {R : α → β → Prop} {x : α} {b : Attempt β} (h : Alike R (.ok x) b) :
    ∃ y, b = .ok y ∧ R x y := by
  cases b with
  | error e => exact h.elim
  | ok y => exact ⟨y, rfl, h⟩

theorem Alike.trans_eq {R : α → β → Prop} {a a' : Attempt α} {b : Attempt β} (h : Alike Eq a a')
    (h' : Alike R a' b) : Alike R a b := by
  rcases h.error_or_ok with ⟨e, e', rfl, rfl⟩ | ⟨x, x', rfl, rfl, rfl⟩
  · cases b <;> exact h'
  · exact h'

theorem Alike.trans_right {R : α → β → Prop} {a : Attempt α} {b b' : Attempt β} (h : Alike R a b)
    (h' : Alike Eq b b') : Alike R a b' := by
  rcases h'.error_or_ok with ⟨e, e', rfl, rfl⟩ | ⟨y, y', rfl, rfl, rfl⟩
  · cases a <;> exact h
  · exact h

/-- Attempts are alike exactly if they succeed with the same results. -/
theorem alike_eq_iff {a b : Attempt α} : Alike Eq a b ↔ ∀ x, a = .ok x ↔ b = .ok x := by
  constructor
  · intro h x
    rcases h.error_or_ok with ⟨e, e', rfl, rfl⟩ | ⟨y, z, rfl, rfl, rfl⟩
    · simp
    · rfl
  · intro h
    cases a with
    | error e =>
        cases b with
        | error e' => trivial
        | ok y => exact absurd ((h y).2 rfl) (by simp)
    | ok x =>
        rw [(h x).1 rfl]
        exact rfl

/-- Two attempts that have related results where both of them succeed. -/
def Compatible (R : α → β → Prop) (a : Attempt α) (b : Attempt β) : Prop :=
  ∀ x y, a = .ok x → b = .ok y → R x y

theorem Alike.compatible {R : α → β → Prop} {a : Attempt α} {b : Attempt β} (h : Alike R a b) :
    Compatible R a b := by
  rintro x y rfl rfl
  exact h

theorem compatible_of_eq {a b : Attempt α} (h : a = b) : Compatible Eq a b :=
  (Alike.of_eq h).compatible

theorem compatible_ok {R : α → β → Prop} {x : α} {y : β} (h : R x y) :
    Compatible R (.ok x) (.ok y) := by
  rintro _ _ ⟨⟩ ⟨⟩
  exact h

theorem Compatible.mono {R S : α → β → Prop} {a : Attempt α} {b : Attempt β}
    (h : Compatible R a b) (hRS : ∀ x y, R x y → S x y) : Compatible S a b :=
  fun x y hx hy => hRS x y (h x y hx hy)

theorem Compatible.bind {γ δ : Type} {R : α → β → Prop} {S : γ → δ → Prop} {a : Attempt α}
    {b : Attempt β} {f : α → Attempt γ} {g : β → Attempt δ} (h : Compatible R a b)
    (hf : ∀ x y, a = .ok x → b = .ok y → R x y → Compatible S (f x) (g y)) :
    Compatible S (a >>= f) (b >>= g) := by
  intro z w hz hw
  obtain ⟨x, hx, hz⟩ := bind_eq_ok.1 hz
  obtain ⟨y, hy, hw⟩ := bind_eq_ok.1 hw
  exact hf x y hx hy (h x y hx hy) z w hz hw

theorem Compatible.map {γ δ : Type} {R : α → β → Prop} {S : γ → δ → Prop} {a : Attempt α}
    {b : Attempt β} {f : α → γ} {g : β → δ} (h : Compatible R a b)
    (hf : ∀ x y, R x y → S (f x) (g y)) : Compatible S (a.map f) (b.map g) := by
  intro z w hz hw
  obtain ⟨x, hx, rfl⟩ := map_eq_ok.1 hz
  obtain ⟨y, hy, rfl⟩ := map_eq_ok.1 hw
  exact hf x y (h x y hx hy)

theorem Compatible.mapM {γ δ : Type} {R : α → β → Prop} {S : γ → δ → Prop} {f : α → Attempt γ}
    {g : β → Attempt δ} {xs : List α} {ys : List β} (h : List.Forall₂ R xs ys)
    (hf : ∀ x y, R x y → Compatible S (f x) (g y)) :
    Compatible (List.Forall₂ S) (xs.mapM f) (ys.mapM g) := by
  induction h with
  | nil => exact compatible_ok .nil
  | cons hxy _ ih =>
      rw [List.mapM_cons, List.mapM_cons]
      exact (hf _ _ hxy).bind fun x y _ _ hhead =>
        ih.bind fun _ _ _ _ htail => compatible_ok (.cons hhead htail)

/-- An attempt that fails only in certain ways, and succeeds only with certain results. -/
def Ends (P : Failure → Prop) (Q : α → Prop) : Attempt α → Prop
  | .ok x => Q x
  | .error e => P e

section Ends

variable {P : Failure → Prop} {Q : α → Prop} {R : β → Prop} {a : Attempt α}

theorem Ends.mono {P' : Failure → Prop} {Q' : α → Prop} (h : Ends P Q a) (hP : ∀ e, P e → P' e)
    (hQ : ∀ x, Q x → Q' x) : Ends P' Q' a := by
  cases a with
  | error e => exact hP e h
  | ok x => exact hQ x h

theorem Ends.bind {f : α → Attempt β} (h : Ends P Q a)
    (hf : ∀ x, a = .ok x → Q x → Ends P R (f x)) : Ends P R (a >>= f) := by
  cases a with
  | error e => exact h
  | ok x => exact hf x rfl h

theorem Ends.map {f : α → β} (h : Ends P Q a) (hf : ∀ x, a = .ok x → Q x → R (f x)) :
    Ends P R (a.map f) := by
  cases a with
  | error e => exact h
  | ok x => exact hf x rfl h

theorem Ends.mapError {P' : Failure → Prop} {f : Failure → Failure} (h : Ends P Q a)
    (hf : ∀ e, P e → P' (f e)) : Ends P' Q (a.mapError f) := by
  cases a with
  | error e => exact hf e h
  | ok x => exact h

theorem Ends.mapM {f : α → Attempt β} {xs : List α} (h : ∀ x ∈ xs, Ends P R (f x)) :
    Ends P (fun ys => ys.length = xs.length ∧ ∀ y ∈ ys, R y) (xs.mapM f) := by
  induction xs with
  | nil => exact ⟨rfl, fun y hy => nomatch hy⟩
  | cons x xs ih =>
      rw [List.mapM_cons]
      rw [List.forall_mem_cons] at h
      refine h.1.bind fun y _ hy => (ih h.2).bind fun ys _ hys => ?_
      exact ⟨congrArg (· + 1) hys.1, List.forall_mem_cons.2 ⟨hy, hys.2⟩⟩

/-- An attempt that fails in no way does not fail in other ways either. -/
theorem Ends.of_never (h : Ends (fun _ => False) Q a) : Ends P Q a :=
  h.mono (fun _ he => he.elim) fun _ hx => hx

theorem Ends.of_alike {b : Attempt α} (hab : Alike Eq a b) (h : Ends (fun _ => False) Q a) :
    Ends (fun _ => False) Q b := by
  rcases hab.error_or_ok with ⟨e, e', rfl, -⟩ | ⟨x, y, rfl, rfl, rfl⟩
  · exact h.elim
  · exact h

end Ends

/-- Two attempts that do not depend on each other may be made in either order. -/
theorem alike_bind_comm {γ : Type} (a : Attempt α) (b : Attempt β) (f : α → β → Attempt γ) :
    Alike Eq (a >>= fun x => b >>= fun y => f x y) (b >>= fun y => a >>= fun x => f x y) := by
  cases a with
  | error e => cases b <;> trivial
  | ok x =>
      cases b with
      | error e => trivial
      | ok y => exact Alike.refl _

/-- Two pairs of steps may be made one pair after the other or in two rounds. -/
theorem alike_bind_exchange {γ δ ε : Type} (a : Attempt α) (b : Attempt β) (f : α → Attempt γ)
    (g : β → Attempt δ) (h : γ → δ → Attempt ε) :
    Alike Eq ((a >>= f) >>= fun x => (b >>= g) >>= fun y => h x y)
      (a >>= fun u => b >>= fun v => f u >>= fun x => g v >>= fun y => h x y) := by
  simp only [bind_assoc]
  refine (Alike.refl a).bind fun u u' _ _ hu => ?_
  rw [hu]
  exact alike_bind_comm (f u') b fun x v => g v >>= fun y => h x y

/-- A computation whose result is that of an attempt, whatever its state. -/
def Yields (s : ExceptT Failure (StateM σ) α) (a : Attempt α) : Prop :=
  ∀ state, (s.run.run state).1 = a

theorem yields_pure (x : α) : Yields (σ := σ) (pure x) (.ok x) := fun _ => rfl

theorem yields_throw (e : Failure) : Yields (σ := σ) (α := α) (throw e) (.error e) := fun _ => rfl

theorem yields_modify (f : σ → σ) : Yields (modify f) (.ok ()) := fun _ => rfl

theorem run_bind (s : ExceptT Failure (StateM σ) α) (f : α → ExceptT Failure (StateM σ) β)
    (state : σ) : (s >>= f).run.run state = match s.run.run state with
      | (.ok x, next) => (f x).run.run next
      | (.error e, next) => (.error e, next) := by
  show (s.run >>= ExceptT.bindCont f).run state = _
  rw [StateT.run_bind]
  rcases s.run.run state with ⟨_ | x, next⟩ <;> rfl

/-- A computation that fails is continued from the state that it leaves. -/
theorem run_tryCatch (s : ExceptT Failure (StateM σ) α)
    (f : Failure → ExceptT Failure (StateM σ) α) (state : σ) :
    (tryCatch s f).run.run state = match s.run.run state with
      | (.ok x, next) => (.ok x, next)
      | (.error e, next) => (f e).run.run next := by
  show (ExceptT.tryCatch s f).run.run state = _
  rw [ExceptT.tryCatch, ExceptT.run_mk, StateT.run_bind]
  show (s.run.run state >>= fun p : Attempt α × σ => _) = _
  rcases s.run.run state with ⟨_ | x, next⟩ <;> rfl

theorem run_ofExcept (a : Attempt α) (state : σ) :
    (MonadExcept.ofExcept a : ExceptT Failure (StateM σ) α).run.run state = (a, state) := by
  cases a <;> rfl

theorem Yields.bind {s : ExceptT Failure (StateM σ) α} {a : Attempt α}
    {f : α → ExceptT Failure (StateM σ) β} {g : α → Attempt β} (h : Yields s a)
    (hf : ∀ x, Yields (f x) (g x)) : Yields (s >>= f) (a >>= g) := by
  intro state
  rw [run_bind, ← h state]
  rcases s.run.run state with ⟨_ | x, next⟩
  · rfl
  · exact hf x next

theorem Yields.mapM {f : α → ExceptT Failure (StateM σ) β} {g : α → Attempt β}
    (h : ∀ x, Yields (f x) (g x)) (xs : List α) : Yields (xs.mapM f) (xs.mapM g) := by
  induction xs with
  | nil => exact yields_pure []
  | cons x xs ih =>
      rw [List.mapM_cons, List.mapM_cons]
      exact (h x).bind fun y => ih.bind fun ys => yields_pure (y :: ys)

/-- A computation that from a state fails only in certain ways, and succeeds only with certain
results in certain states. -/
def Runs (P : Failure → Prop) (Q : α → σ → Prop) (s : ExceptT Failure (StateM σ) α) (state : σ) :
    Prop :=
  match s.run.run state with
  | (.ok x, next) => Q x next
  | (.error e, _) => P e

section Runs

variable {P : Failure → Prop} {Q : α → σ → Prop} {R : β → σ → Prop}
  {s : ExceptT Failure (StateM σ) α} {state : σ}

theorem Runs.mono {Q' : α → σ → Prop} (h : Runs P Q s state)
    (hQ : ∀ x next, Q x next → Q' x next) : Runs P Q' s state := by
  unfold Runs at h ⊢
  rcases hrun : s.run.run state with ⟨e | x, next⟩ <;> rw [hrun] at h
  · exact h
  · exact hQ x next h

theorem Runs.bind {f : α → ExceptT Failure (StateM σ) β} (h : Runs P Q s state)
    (hf : ∀ x next, Q x next → Runs P R (f x) next) : Runs P R (s >>= f) state := by
  unfold Runs at h ⊢
  rw [run_bind]
  rcases hrun : s.run.run state with ⟨e | x, next⟩ <;> rw [hrun] at h
  · exact h
  · exact hf x next h

theorem runs_pure {x : α} (h : Q x state) : Runs P Q (pure x) state := h

theorem runs_throw {e : Failure} (h : P e) : Runs P Q (throw e) state := h

theorem runs_get : Runs (σ := σ) P (fun x next => x = state ∧ next = state) get state := ⟨rfl, rfl⟩

theorem runs_modify (f : σ → σ) :
    Runs P (fun _ next => next = f state) (modify f) state := rfl

/-- A computation whose failures are put in other words. -/
theorem Runs.adapt {P' : Failure → Prop} {f : Failure → Failure} (h : Runs P' Q s state)
    (hf : ∀ e, P' e → P (f e)) : Runs P Q (ExceptT.adapt f s) state := by
  have hrun : (ExceptT.adapt f s).run.run state =
      ((s.run.run state).1.mapError f, (s.run.run state).2) := rfl
  unfold Runs at h ⊢
  rw [hrun]
  rcases hs : s.run.run state with ⟨e | x, next⟩ <;> rw [hs] at h
  · exact hf e h
  · exact h

theorem Runs.ends {Q : α → Prop} (h : Runs P (fun x _ => Q x) s state) :
    Ends P Q (s.run.run state).1 := by
  unfold Runs at h
  rcases hs : s.run.run state with ⟨e | x, next⟩ <;> rw [hs] at h <;> exact h

end Runs

end AdminGrid

import AdminGrid.Action.Resolve
import AdminGrid.Proofs.Entries

/-!
# Buttons under more roles

A table offers each caller the same actions in the same style.  The roles of a caller take actions
away where they cover the current route: only what a role of that route grants is left.  So further
roles add actions where the roles at hand cover the route already, or where those that are added do
not cover it either, and otherwise take away what they do not grant themselves.
-/

namespace AdminGrid.Action

/-- The same request by a caller with other roles. -/
def ActionRequest.forRoles (r : ActionRequest) (roles : List String) : ActionRequest :=
  { r with roles := roles }

/-- Whether the roles of a caller outside the root group cover the current route. -/
def ActionRequest.Covered (r : ActionRequest) : Prop :=
  (∀ group, r.roleGroup = some group → 1 < group) ∧
    ∃ route, r.routeName = some route ∧ route ≠ "" ∧ route ∈ r.roles

/-- Whether a role of the current route grants an action. -/
def ActionRequest.Grants (r : ActionRequest) (verb : String) : Prop :=
  ∃ route, r.routeName = some route ∧ ∃ role ∈ r.roles, routeBase role = routeBase route ∧
    canonicalVerb? (routeSuffix role) = some verb

/-- The buttons of the four actions. -/
def ActionChoice.actionButtons (c : ActionChoice) : List ActionButton :=
  c.buttons.filter fun b => ActionConfig.defaultVerbs.contains b.name

/-- What the owner of a table has set, before anything is taken away. -/
def ActionRequest.gathered (r : ActionRequest) : Gathered :=
  (r.customButtons.flatMap buttonsOf).foldl Gathered.add
    ⟨verbsOf (r.baseVerbs.getD ActionConfig.defaultVerbs), [], []⟩

/-- The button of an action in the style that the owner of a table has set. -/
def ActionRequest.styled (r : ActionRequest) (verb : String) : ActionButton :=
  (r.gathered.styles.get? verb).getD (defaultButton verb)

/-- The names under which actions are taken away. -/
def ActionRequest.removed (r : ActionRequest) : List String :=
  r.removedVerbs.map fun name => (canonicalVerb? name).getD name

section Verbs

theorem mem_defaultVerbs_of_canonicalVerb? {name verb : String}
    (h : canonicalVerb? name = some verb) : verb ∈ ActionConfig.defaultVerbs := by
  have hall : ∀ e ∈ verbNames, e.2 ∈ ActionConfig.defaultVerbs := by decide
  exact hall _ (Entries.mem_of_get?_eq_some h)

/-- Each of the four actions is named by its own name. -/
theorem canonicalVerb?_of_mem_defaultVerbs {verb : String}
    (h : verb ∈ ActionConfig.defaultVerbs) : canonicalVerb? verb = some verb := by
  have hall : ∀ verb ∈ ActionConfig.defaultVerbs, canonicalVerb? verb = some verb := by decide
  exact hall verb h

end Verbs

section Gathering

/-- Whether the buttons of a collection are sorted by what they are: those of the four actions by
name among the styles, all others among the customs. -/
structure Gathered.Sorted (g : Gathered) : Prop where
  verbs : ∀ verb ∈ g.verbs, verb ∈ ActionConfig.defaultVerbs
  styles : ∀ verb b, g.styles.get? verb = some b → b.name = verb
  customs : ∀ b ∈ g.customs.values, b.name ∉ ActionConfig.defaultVerbs

theorem mem_addNew_iff {xs : List String} {x y : String} : y ∈ addNew xs x ↔ y ∈ xs ∨ y = x := by
  unfold addNew
  by_cases h : xs.contains x = true
  · rw [if_pos h]
    have hmem : x ∈ xs := by simpa using h
    exact ⟨Or.inl, fun hy => hy.elim id fun hyx => hyx ▸ hmem⟩
  · rw [if_neg h]
    simp

theorem mem_values_putNew {key : String} {b b' : ActionButton} {customs : Entries ActionButton}
    (h : b' ∈ (customs.putNew key b).values) : b' ∈ customs.values ∨ b' = b := by
  unfold Entries.putNew at h
  split at h
  · exact Or.inl h
  · simpa [Entries.values] using h

theorem verbsOf_subset (names : List String) : verbsOf names ⊆ ActionConfig.defaultVerbs := by
  have hfold : ∀ verbs start : List String, start ⊆ ActionConfig.defaultVerbs →
      verbs ⊆ ActionConfig.defaultVerbs → verbs.foldl addNew start ⊆ ActionConfig.defaultVerbs := by
    intro verbs
    induction verbs with
    | nil => exact fun start hstart _ => hstart
    | cons verb rest ih =>
        intro start hstart hverbs
        refine ih _ (fun x hx => ?_) fun x hx => hverbs (List.mem_cons_of_mem verb hx)
        rcases mem_addNew_iff.1 hx with hx | rfl
        · exact hstart hx
        · exact hverbs List.mem_cons_self
  refine hfold _ [] (List.nil_subset _) fun verb hverb => ?_
  obtain ⟨name, -, hname⟩ := List.mem_filterMap.1 hverb
  exact mem_defaultVerbs_of_canonicalVerb? hname

/-- A button of an owner is one of the four actions, or a custom one whose name stands for none. -/
theorem custom_cases_of_mem_buttonsOf {spec : ButtonSpec} {b : ActionButton}
    (h : b ∈ buttonsOf spec) : (b.custom = false ∧ b.name ∈ ActionConfig.defaultVerbs) ∨
      (b.custom = true ∧ canonicalVerb? b.name = none) := by
  cases spec with
  | defaults on =>
      have hall : ∀ b ∈ ["view", "edit", "delete"].map defaultButton,
          b.custom = false ∧ b.name ∈ ActionConfig.defaultVerbs := by decide
      cases on with
      | false => cases h
      | true => exact Or.inl (hall b h)
  | described spec =>
      have hb : describedButton? spec = some b := by simpa [buttonsOf] using h
      unfold describedButton? at hb
      simp only at hb
      split at hb
      · cases hb
      · split at hb
        · rename_i verb hverb
          obtain rfl := Option.some.inj hb
          exact Or.inl ⟨rfl, mem_defaultVerbs_of_canonicalVerb? hverb⟩
        · rename_i hnone
          obtain rfl := Option.some.inj hb
          exact Or.inr ⟨rfl, hnone⟩

/-- A button of an owner is a custom one exactly if it is none of the four actions. -/
theorem custom_iff_of_mem_buttonsOf {spec : ButtonSpec} {b : ActionButton}
    (h : b ∈ buttonsOf spec) : b.custom = true ↔ b.name ∉ ActionConfig.defaultVerbs := by
  rcases custom_cases_of_mem_buttonsOf h with ⟨hcustom, hmem⟩ | ⟨hcustom, hnone⟩
  · simp [hcustom, hmem]
  · refine iff_of_true hcustom fun hmem => ?_
    rw [canonicalVerb?_of_mem_defaultVerbs hmem] at hnone
    cases hnone

theorem Gathered.Sorted.add {g : Gathered} (hg : g.Sorted) {b : ActionButton}
    (hb : b.custom = true ↔ b.name ∉ ActionConfig.defaultVerbs) : (g.add b).Sorted := by
  unfold Gathered.add
  by_cases hcustom : b.custom = true
  · rw [if_pos hcustom]
    refine ⟨hg.verbs, hg.styles, fun b' hb' => ?_⟩
    rcases mem_values_putNew hb' with hb' | rfl
    · exact hg.customs b' hb'
    · exact hb.1 hcustom
  · rw [if_neg hcustom]
    refine ⟨fun verb hverb => ?_, fun verb b' hget => ?_, hg.customs⟩
    · rcases mem_addNew_iff.1 hverb with hverb | rfl
      · exact hg.verbs verb hverb
      · exact not_not.1 fun hnot => hcustom (hb.2 hnot)
    · rw [Entries.get?_put] at hget
      split at hget
      · rename_i hname
        rw [← Option.some.inj hget, hname]
      · exact hg.styles verb b' hget

theorem sorted_gathered (r : ActionRequest) : r.gathered.Sorted := by
  -- by induction on the buttons, for every collection that they are added to
  have hfold : ∀ (buttons : List ActionButton) (g : Gathered), g.Sorted →
      (∀ b ∈ buttons, b.custom = true ↔ b.name ∉ ActionConfig.defaultVerbs) →
        (buttons.foldl Gathered.add g).Sorted := by
    intro buttons
    induction buttons with
    | nil => exact fun g hg _ => hg
    | cons b rest ih =>
        intro g hg hall
        exact ih _ (hg.add (hall b List.mem_cons_self))
          fun b' hb' => hall b' (List.mem_cons_of_mem b hb')
  have hstart : (Gathered.mk (verbsOf (r.baseVerbs.getD ActionConfig.defaultVerbs)) [] []).Sorted :=
    ⟨verbsOf_subset _, fun verb b hget => (nomatch hget), fun b hb => (nomatch hb)⟩
  refine hfold (r.customButtons.flatMap buttonsOf) _ hstart fun b hb => ?_
  obtain ⟨spec, -, hspec⟩ := List.mem_flatMap.1 hb
  exact custom_iff_of_mem_buttonsOf hspec

/-- Roles add no button of the four actions. -/
theorem name_of_mem_addRoleButtons {customs : Entries ActionButton}
    (h : ∀ b ∈ customs.values, b.name ∉ ActionConfig.defaultVerbs) (roles : List String) :
    ∀ b ∈ (addRoleButtons customs roles).values, b.name ∉ ActionConfig.defaultVerbs := by
  unfold addRoleButtons
  induction roles generalizing customs with
  | nil => exact h
  | cons role rest ih =>
      rw [List.foldl_cons]
      refine ih fun b hb => ?_
      by_cases hverb : (canonicalVerb? (routeSuffix role)).isSome = true
      · simp only [if_pos hverb] at hb
        exact h b hb
      · simp only [if_neg hverb] at hb
        rcases mem_values_putNew hb with hb | rfl
        · exact h b hb
        · exact fun hmem => hverb (by rw [canonicalVerb?_of_mem_defaultVerbs hmem]; rfl)

end Gathering

section Offer

variable (r : ActionRequest)

theorem checkedRoute?_eq_some_iff {route : String} : r.checkedRoute? = some route ↔
    (∀ group, r.roleGroup = some group → 1 < group) ∧
      r.routeName = some route ∧ route ≠ "" ∧ route ∈ r.roles := by
  unfold ActionRequest.checkedRoute? ActionRequest.privilegesApply
  cases r.routeName with
  | none => simp
  | some name =>
      cases r.roleGroup with
      | none => grind
      | some group => grind

/-- The roles of a caller are checked exactly where they cover the current route. -/
theorem covered_iff_checkedRoute? : r.Covered ↔ ∃ route, r.checkedRoute? = some route := by
  simp only [checkedRoute?_eq_some_iff, ActionRequest.Covered, exists_and_left]

/-- An action is offered if the owner of the table offers it, and has not taken it away, and the
roles of the caller grant it where they cover the current route. -/
theorem mem_verbs_resolve_iff {verb : String} : verb ∈ (resolve r).verbs ↔
    (verb ∈ r.gathered.verbs ∧ verb ∉ r.removed) ∧ (r.Covered → r.Grants verb) := by
  rw [covered_iff_checkedRoute?]
  unfold resolve
  cases hroute : r.checkedRoute? with
  | none =>
      simp only [List.mem_mergeSort, List.mem_filter]
      simp [ActionRequest.gathered, ActionRequest.removed]
  | some route =>
      obtain ⟨-, hname, -, -⟩ := (checkedRoute?_eq_some_iff r).1 hroute
      simp only [List.mem_mergeSort, List.mem_filter]
      simp [ActionRequest.gathered, ActionRequest.removed, ActionRequest.Grants, rolesOf, hname]
      grind

/-- The buttons of a table are those of the offered actions in the owner's style, and others. -/
theorem buttons_resolve : ∃ customs : List ActionButton,
    (∀ b ∈ customs, b.name ∉ ActionConfig.defaultVerbs) ∧
      (resolve r).buttons = (resolve r).verbs.map r.styled ++ customs := by
  have hcustoms := (sorted_gathered r).customs
  unfold resolve
  cases r.checkedRoute? with
  | none => exact ⟨_, hcustoms, rfl⟩
  | some route => exact ⟨_, name_of_mem_addRoleButtons hcustoms _, rfl⟩

theorem name_styled (verb : String) : (r.styled verb).name = verb := by
  unfold ActionRequest.styled
  cases hstyle : r.gathered.styles.get? verb with
  | none => rfl
  | some b => exact (sorted_gathered r).styles verb b hstyle

/-- The buttons of the four actions are those of the offered ones. -/
theorem mem_actionButtons_resolve_iff {b : ActionButton} :
    b ∈ (resolve r).actionButtons ↔ ∃ verb ∈ (resolve r).verbs, r.styled verb = b := by
  -- the buttons of the actions come first, and none of the others is one of them
  obtain ⟨customs, hcustoms, hbuttons⟩ := buttons_resolve r
  unfold ActionChoice.actionButtons
  rw [hbuttons, List.mem_filter, List.mem_append, List.mem_map, List.contains_iff_mem]
  constructor
  · rintro ⟨hmem | hmem, hverb⟩
    · exact hmem
    · exact absurd hverb (hcustoms b hmem)
  · rintro ⟨verb, hmem, rfl⟩
    refine ⟨Or.inl ⟨verb, hmem, rfl⟩, ?_⟩
    rw [name_styled]
    exact (sorted_gathered r).verbs verb ((mem_verbs_resolve_iff r).1 hmem).1.1

end Offer

theorem ActionRequest.Grants.mono {r : ActionRequest} {roles roles' : List String}
    (hsub : roles ⊆ roles') {verb : String} (h : (r.forRoles roles).Grants verb) :
    (r.forRoles roles').Grants verb := by
  obtain ⟨route, hroute, role, hrole, hgrants⟩ := h
  exact ⟨route, hroute, role, hsub hrole, hgrants⟩

/-- A caller with more roles is offered no fewer of the four actions, unless these roles are the
first to cover the current route: then it takes that they grant each of the actions. -/
theorem actionButtons_subset_iff (r : ActionRequest) {roles roles' : List String}
    (hsub : roles ⊆ roles') :
    (resolve (r.forRoles roles)).actionButtons ⊆ (resolve (r.forRoles roles')).actionButtons ↔
      ((r.forRoles roles').Covered → (r.forRoles roles).Covered ∨
        ∀ b ∈ (resolve (r.forRoles roles)).actionButtons, (r.forRoles roles').Grants b.name) := by
  constructor
  · intro hbuttons hcovered
    refine Or.inr fun b hb => ?_
    obtain ⟨verb, hverb, rfl⟩ := (mem_actionButtons_resolve_iff _).1 (hbuttons hb)
    rw [name_styled]
    exact ((mem_verbs_resolve_iff _).1 hverb).2 hcovered
  · intro hgrants b hb
    obtain ⟨verb, hverb, hstyled⟩ := (mem_actionButtons_resolve_iff _).1 hb
    obtain ⟨hoffered, hgranted⟩ := (mem_verbs_resolve_iff _).1 hverb
    -- what the owner of the table has set does not depend on the roles
    refine (mem_actionButtons_resolve_iff _).2
      ⟨verb, (mem_verbs_resolve_iff _).2 ⟨hoffered, fun hcovered => ?_⟩, hstyled⟩
    rcases hgrants hcovered with hcovers | hall
    · exact (hgranted hcovers).mono hsub
    · have hname := hall b hb
      rwa [← hstyled, name_styled] at hname

/-- The buttons of the orders for a caller without any roles. -/
def orderButtons : ActionRequest where
  roles := []
  baseVerbs := none
  removedVerbs := []
  customButtons := []
  routeName := some "orders.index"
  roleGroup := some 2

/-- A caller who may see the orders keeps that button with the right to change them. -/
theorem actionButtons_subset_orders_edit :
    ["orders.index"] ⊆ ["orders.index", "orders.edit"] ∧
      (resolve (orderButtons.forRoles ["orders.index"])).actionButtons ⊆
        (resolve (orderButtons.forRoles ["orders.index", "orders.edit"])).actionButtons :=
  ⟨by simp, (actionButtons_subset_iff orderButtons (by simp)).2 fun _ =>
    Or.inl ⟨by decide, "orders.index", rfl, by decide, by decide⟩⟩

/-- A caller who may only see the users is offered to delete an order, and no longer so with the
right to see the orders. -/
theorem not_actionButtons_subset_orders_index :
    ["users.index"] ⊆ ["users.index", "orders.index"] ∧
      ¬ (resolve (orderButtons.forRoles ["users.index"])).actionButtons ⊆
        (resolve (orderButtons.forRoles ["users.index", "orders.index"])).actionButtons := by
  refine ⟨by simp, fun h => ?_⟩
  have hdelete : defaultButton "delete" ∈
      (resolve (orderButtons.forRoles ["users.index"])).actionButtons := by
    refine (mem_actionButtons_resolve_iff _).2
      ⟨"delete", (mem_verbs_resolve_iff _).2 ⟨by decide, fun hcovered => ?_⟩, rfl⟩
    obtain ⟨-, route, hroute, -, hmem⟩ := hcovered
    obtain rfl : "orders.index" = route := Option.some.inj hroute
    exact absurd hmem (by decide)
  obtain ⟨verb, hverb, hstyled⟩ := (mem_actionButtons_resolve_iff _).1 (h hdelete)
  have hname : verb = "delete" := by
    rw [← name_styled (orderButtons.forRoles ["users.index", "orders.index"]) verb, hstyled]
    rfl
  have hcovered : (orderButtons.forRoles ["users.index", "orders.index"]).Covered :=
    ⟨by decide, "orders.index", rfl, by decide, by decide⟩
  obtain ⟨route, hroute, role, hrole, hbase, hgrants⟩ :=
    ((mem_verbs_resolve_iff _).1 hverb).2 hcovered
  obtain rfl : "orders.index" = route := Option.some.inj hroute
  rw [hname] at hgrants
  have hall : ∀ role ∈ ["users.index", "orders.index"],
      ¬ canonicalVerb? (routeSuffix role) = some "delete" := by decide
  exact hall role hrole hgrants

end AdminGrid.Action

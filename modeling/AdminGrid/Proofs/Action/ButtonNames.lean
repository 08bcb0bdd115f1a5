import AdminGrid.Proofs.Action.Privileges
import Mathlib.Data.List.Induction
import Mathlib.Data.List.Nodup
import Mathlib.Data.List.Sort

/-!
# The names of the buttons

The buttons of a table come in two parts: first those of the four actions in their fixed order, then
those of other names in the order in which the owner and the roles of the caller first mention them.
No two buttons share a name.  An action that the owner takes away stays away even where a button of
the owner names it; buttons of other names cannot be taken away.
-/

namespace AdminGrid.Action

/-- The names of the buttons in their order. -/
def ActionChoice.names (c : ActionChoice) : List String := c.buttons.map (·.name)

/-- The names of the buttons that the owner of a table adds. -/
def ActionRequest.ownNames (r : ActionRequest) : List String :=
  (r.customButtons.flatMap buttonsOf).map (·.name)

/-- Whether an action is enabled under one of its names. -/
def ActionRequest.Enables (r : ActionRequest) (verb : String) : Prop :=
  ∃ name ∈ r.baseVerbs.getD ActionConfig.defaultVerbs, canonicalVerb? name = some verb

/-- Whether an action is taken away under one of its names. -/
def ActionRequest.TakesAway (r : ActionRequest) (verb : String) : Prop :=
  ∃ name ∈ r.removedVerbs, canonicalVerb? name = some verb

/-- The last parts of the roles that belong to a route. -/
def roleNames (route : String) (roles : List String) : List String :=
  (rolesOf route roles).map routeSuffix

/-- Whether a name stands for no action. -/
def namesNoVerb (name : String) : Bool := (canonicalVerb? name).isNone

/-- The names that stand for no action, each where it is mentioned first. -/
def otherNames (names : List String) : List String := (names.filter namesNoVerb).eraseDups

section Mentions

/-- What is gathered one by one is listed where it is mentioned first. -/
theorem foldl_addNew (xs : List String) : xs.foldl addNew [] = xs.eraseDups := by
  induction xs using List.reverseRecOn with
  | nil => rfl
  | append_singleton xs x ih =>
      rw [List.foldl_append, ih, List.eraseDups_append, List.foldl_cons, List.foldl_nil, addNew]
      by_cases hmem : x ∈ xs <;> simp [List.removeAll, hmem, List.eraseDups_cons]

theorem nodup_foldl_addNew {start : List String} (h : start.Nodup) (xs : List String) :
    (xs.foldl addNew start).Nodup := by
  induction xs generalizing start with
  | nil => exact h
  | cons x xs ih =>
      refine ih ?_
      unfold addNew
      split
      · exact h
      · rename_i hnew
        rw [List.contains_iff_mem] at hnew
        exact List.nodup_append.2 ⟨h, List.nodup_singleton x, fun y hy z hz hyz =>
          hnew (List.mem_singleton.1 hz ▸ hyz ▸ hy)⟩

theorem mem_verbsOf_iff {names : List String} {verb : String} :
    verb ∈ verbsOf names ↔ ∃ name ∈ names, canonicalVerb? name = some verb := by
  rw [verbsOf, foldl_addNew, List.mem_eraseDups, List.mem_filterMap]

theorem mem_otherNames_iff {names : List String} {name : String} :
    name ∈ otherNames names ↔ name ∈ names ∧ canonicalVerb? name = none := by
  rw [otherNames, List.mem_eraseDups, List.mem_filter, namesNoVerb, Option.isNone_iff_eq_none]

theorem nodup_otherNames (names : List String) : (otherNames names).Nodup := by
  rw [otherNames, ← foldl_addNew]
  exact nodup_foldl_addNew List.nodup_nil _

end Mentions

section Gathering

/-- Whether every button of other names is kept under its own name, and no action is listed
twice. -/
structure Gathered.Listed (g : Gathered) : Prop where
  nodup : g.verbs.Nodup
  names : g.customs.values.map (·.name) = g.customs.keys

theorem keys_putNew (key : String) (b : ActionButton) (customs : Entries ActionButton) :
    (customs.putNew key b).keys = addNew customs.keys key := by
  unfold Entries.putNew addNew
  by_cases hhas : customs.has key = true
  · rw [if_pos hhas, if_pos]
    rwa [List.contains_iff_mem, Entries.mem_keys_iff_has]
  · rw [if_neg hhas, if_neg]
    · simp [Entries.keys]
    · rwa [List.contains_iff_mem, Entries.mem_keys_iff_has]

theorem names_putNew {customs : Entries ActionButton}
    (h : customs.values.map (·.name) = customs.keys) (b : ActionButton) :
    (customs.putNew b.name b).values.map (·.name) = (customs.putNew b.name b).keys := by
  unfold Entries.putNew
  split
  · exact h
  · simpa [Entries.values, Entries.keys] using h

theorem Gathered.Listed.add {g : Gathered} (hg : g.Listed) (b : ActionButton) :
    (g.add b).Listed := by
  unfold Gathered.add
  split
  · exact ⟨hg.nodup, names_putNew hg.names b⟩
  · exact ⟨nodup_foldl_addNew hg.nodup [b.name], hg.names⟩

theorem listed_gathered (r : ActionRequest) : r.gathered.Listed := by
  have hfold : ∀ (buttons : List ActionButton) (g : Gathered), g.Listed →
      (buttons.foldl Gathered.add g).Listed := by
    intro buttons
    induction buttons with
    | nil => exact fun g hg => hg
    | cons b rest ih => exact fun g hg => ih _ (hg.add b)
  exact hfold _ _ ⟨nodup_foldl_addNew List.nodup_nil _, rfl⟩

theorem mem_verbs_foldl_add_iff {verb : String} (buttons : List ActionButton) (g : Gathered) :
    verb ∈ (buttons.foldl Gathered.add g).verbs ↔
      verb ∈ g.verbs ∨ ∃ b ∈ buttons, b.custom = false ∧ b.name = verb := by
  induction buttons generalizing g with
  | nil => simp
  | cons b rest ih =>
      rw [List.foldl_cons, ih, Gathered.add]
      cases hcustom : b.custom with
      | true => simp [hcustom]
      | false => simp [hcustom, mem_addNew_iff, or_assoc, @eq_comm _ verb]

theorem keys_foldl_add (buttons : List ActionButton) (g : Gathered) :
    (buttons.foldl Gathered.add g).customs.keys =
      ((buttons.filter (·.custom)).map (·.name)).foldl addNew g.customs.keys := by
  induction buttons generalizing g with
  | nil => rfl
  | cons b rest ih =>
      rw [List.foldl_cons, ih, Gathered.add]
      cases hcustom : b.custom with
      | true => simp [hcustom, keys_putNew]
      | false => simp [hcustom]

theorem keys_addRoleButtons (customs : Entries ActionButton) (roles : List String) :
    (addRoleButtons customs roles).keys =
      ((roles.map routeSuffix).filter namesNoVerb).foldl addNew customs.keys := by
  unfold addRoleButtons
  induction roles generalizing customs with
  | nil => rfl
  | cons role rest ih =>
      rw [List.foldl_cons, ih, List.map_cons]
      cases hverb : canonicalVerb? (routeSuffix role) with
      | none => simp [namesNoVerb, hverb, keys_putNew]
      | some verb => simp [namesNoVerb, hverb]

theorem names_addRoleButtons {customs : Entries ActionButton}
    (h : customs.values.map (·.name) = customs.keys) (roles : List String) :
    (addRoleButtons customs roles).values.map (·.name) = (addRoleButtons customs roles).keys := by
  unfold addRoleButtons
  induction roles generalizing customs with
  | nil => exact h
  | cons role rest ih =>
      rw [List.foldl_cons]
      refine ih ?_
      by_cases hverb : (canonicalVerb? (routeSuffix role)).isSome = true
      · simpa only [if_pos hverb] using h
      · simpa only [if_neg hverb] using names_putNew h ⟨routeSuffix role, "default", "link", true⟩

/-- The custom buttons of an owner are those whose names stand for no action. -/
theorem names_filter_custom (r : ActionRequest) :
    ((r.customButtons.flatMap buttonsOf).filter (·.custom)).map (·.name) =
      r.ownNames.filter namesNoVerb := by
  rw [ActionRequest.ownNames, List.filter_map]
  refine congrArg _ (List.filter_congr fun b hb => ?_)
  obtain ⟨spec, -, hspec⟩ := List.mem_flatMap.1 hb
  rcases custom_cases_of_mem_buttonsOf hspec with ⟨hcustom, hmem⟩ | ⟨hcustom, hnone⟩
  · simp [namesNoVerb, hcustom, canonicalVerb?_of_mem_defaultVerbs hmem]
  · simp [namesNoVerb, hcustom, hnone]

theorem keys_customs_gathered (r : ActionRequest) :
    r.gathered.customs.keys = (r.ownNames.filter namesNoVerb).foldl addNew [] := by
  rw [ActionRequest.gathered, keys_foldl_add, names_filter_custom]
  rfl

/-- A name that the owner's buttons bear is that of an action, or stands for none. -/
theorem mem_defaultVerbs_or_of_mem_ownNames {r : ActionRequest} {name : String}
    (h : name ∈ r.ownNames) :
    name ∈ ActionConfig.defaultVerbs ∨ canonicalVerb? name = none := by
  obtain ⟨b, hb, rfl⟩ := List.mem_map.1 h
  obtain ⟨spec, -, hspec⟩ := List.mem_flatMap.1 hb
  exact (custom_cases_of_mem_buttonsOf hspec).imp And.right And.right

/-- The gathered actions are those enabled and those that a button of the owner names. -/
theorem mem_verbs_gathered_iff {r : ActionRequest} {verb : String} : verb ∈ r.gathered.verbs ↔
    verb ∈ ActionConfig.defaultVerbs ∧ (r.Enables verb ∨ verb ∈ r.ownNames) := by
  rw [ActionRequest.gathered, mem_verbs_foldl_add_iff, mem_verbsOf_iff, and_or_left]
  refine or_congr ?_ ?_
  · refine ⟨?_, And.right⟩
    rintro ⟨name, hname, hverb⟩
    exact ⟨mem_defaultVerbs_of_canonicalVerb? hverb, name, hname, hverb⟩
  · rw [ActionRequest.ownNames, List.mem_map]
    constructor
    · rintro ⟨b, hb, hcustom, rfl⟩
      obtain ⟨spec, -, hspec⟩ := List.mem_flatMap.1 hb
      have hmem := mt (custom_iff_of_mem_buttonsOf hspec).2 (Bool.eq_false_iff.1 hcustom)
      exact ⟨not_not.1 hmem, b, hb, rfl⟩
    · rintro ⟨hmem, b, hb, rfl⟩
      obtain ⟨spec, -, hspec⟩ := List.mem_flatMap.1 hb
      refine ⟨b, hb, Bool.eq_false_iff.2 fun hcustom => ?_, rfl⟩
      exact (custom_iff_of_mem_buttonsOf hspec).1 hcustom hmem

end Gathering

section Names

variable (r : ActionRequest)

/-- The names that the checked roles add to those of the owner. -/
def ActionRequest.checkedNames (r : ActionRequest) : List String :=
  match r.checkedRoute? with
  | none => []
  | some route => roleNames route r.roles

theorem removed_eq_takesAway {verb : String} (h : verb ∈ ActionConfig.defaultVerbs) :
    verb ∈ r.removed ↔ r.TakesAway verb := by
  rw [ActionRequest.removed, List.mem_map]
  refine exists_congr fun name => and_congr_right fun _ => ?_
  cases hname : canonicalVerb? name with
  | some verb' => simp
  | none =>
      -- a name that stands for no action is none of the four
      refine iff_of_false (fun heq => ?_) (Option.some_ne_none verb).symm
      obtain rfl : name = verb := heq
      rw [canonicalVerb?_of_mem_defaultVerbs h] at hname
      cases hname

/-- The actions that are offered, by what the owner and the roles of the caller say of them. -/
theorem mem_verbs_resolve_iff_enables {verb : String} : verb ∈ (resolve r).verbs ↔
    (verb ∈ ActionConfig.defaultVerbs ∧ (r.Enables verb ∨ verb ∈ r.ownNames)) ∧
      ¬ r.TakesAway verb ∧ (r.Covered → r.Grants verb) := by
  rw [mem_verbs_resolve_iff, mem_verbs_gathered_iff, and_assoc]
  refine and_congr_right fun hverb => ?_
  rw [removed_eq_takesAway r hverb.1]

/-- The offered actions stand in their fixed order, each once. -/
theorem verbs_resolve_sublist : (resolve r).verbs.Sublist ActionConfig.defaultVerbs := by
  obtain ⟨verbs, hnodup, hsort⟩ : ∃ verbs : List String, verbs.Nodup ∧
      (resolve r).verbs = verbs.mergeSort fun a b => verbRank a ≤ verbRank b := by
    have hgathered : r.gathered.verbs.Nodup := (listed_gathered r).nodup
    unfold resolve
    cases r.checkedRoute? with
    | none => exact ⟨_, hgathered.filter _, rfl⟩
    | some route => exact ⟨_, (hgathered.filter _).filter _, rfl⟩
  have hmem : ∀ verb ∈ verbs, verb ∈ ActionConfig.defaultVerbs := fun verb hverb =>
    ((mem_verbs_resolve_iff_enables r).1 (hsort ▸ List.mem_mergeSort.2 hverb)).1.1
  -- sorting by rank gives the fixed order with the other actions left out
  have hfilter : (resolve r).verbs =
      ActionConfig.defaultVerbs.filter fun verb => decide (verb ∈ verbs) := by
    have hfixed : ActionConfig.defaultVerbs.Pairwise fun a b => verbRank a ≤ verbRank b := by decide
    have hranks : ∀ a ∈ ActionConfig.defaultVerbs, ∀ b ∈ ActionConfig.defaultVerbs,
        verbRank a ≤ verbRank b → verbRank b ≤ verbRank a → a = b := by decide
    have hperm : verbs.Perm (ActionConfig.defaultVerbs.filter fun verb => decide (verb ∈ verbs)) :=
      (List.perm_ext_iff_of_nodup hnodup ((by decide : ActionConfig.defaultVerbs.Nodup).filter _)).2
        fun verb => by simpa using hmem verb
    rw [hsort]
    refine List.Perm.eq_of_pairwise (fun a b ha hb => ?_) ?_ (hfixed.filter _)
      ((List.mergeSort_perm _ _).trans hperm)
    · exact hranks a (hmem a (List.mem_mergeSort.1 ha)) b (List.mem_filter.1 hb).1
    · refine (List.pairwise_mergeSort (fun a b c => ?_) (fun a b => ?_) verbs).imp of_decide_eq_true
      · simpa using Nat.le_trans
      · simpa using Nat.le_total _ _
  rw [hfilter]
  exact List.filter_sublist

theorem custom_resolve : (resolve r).custom = otherNames (r.ownNames ++ r.checkedNames) := by
  rw [otherNames, ← foldl_addNew, List.filter_append, List.foldl_append, ← keys_customs_gathered]
  unfold resolve ActionRequest.checkedNames
  cases r.checkedRoute? with
  | none => rfl
  | some route => exact keys_addRoleButtons _ _

theorem names_resolve : (resolve r).names = (resolve r).verbs ++ (resolve r).custom := by
  obtain ⟨customs, hnames, hbuttons, hcustom⟩ : ∃ customs : Entries ActionButton,
      customs.values.map (·.name) = customs.keys ∧
        (resolve r).buttons = (resolve r).verbs.map r.styled ++ customs.values ∧
          (resolve r).custom = customs.keys := by
    have hgathered := (listed_gathered r).names
    unfold resolve
    cases r.checkedRoute? with
    | none => exact ⟨_, hgathered, rfl, rfl⟩
    | some route => exact ⟨_, names_addRoleButtons hgathered _, rfl, rfl⟩
  have hverbs : ((resolve r).verbs.map r.styled).map (·.name) = (resolve r).verbs := by
    rw [List.map_map]
    exact (List.map_congr_left fun verb _ => name_styled r verb).trans (List.map_id _)
  rw [ActionChoice.names, hbuttons, List.map_append, hverbs, hnames, hcustom]

/-- No two buttons of a table share a name. -/
theorem nodup_names_resolve : (resolve r).names.Nodup := by
  rw [names_resolve, custom_resolve, List.nodup_append]
  refine ⟨(verbs_resolve_sublist r).nodup (by decide), nodup_otherNames _, ?_⟩
  rintro verb hverb _ hother rfl
  have hmem := (verbs_resolve_sublist r).subset hverb
  rw [mem_otherNames_iff, canonicalVerb?_of_mem_defaultVerbs hmem] at hother
  cases hother.2

end Names

section Privileges

/-- Whether the buttons of a table are those that the roles of a caller leave on a route: first the
actions that the owner offers and a role of the route grants, then the owner's other names, and
behind them those of the roles. -/
structure ActionRequest.GrantedButtons (r : ActionRequest) (route : String) (verbs : List String) :
    Prop where
  names : (resolve r).names = verbs ++ otherNames (r.ownNames ++ roleNames route r.roles)
  fixedOrder : verbs.Sublist ActionConfig.defaultVerbs
  mem_iff : ∀ verb, verb ∈ verbs ↔
    (verb ∈ ActionConfig.defaultVerbs ∧ (r.Enables verb ∨ verb ∈ r.ownNames)) ∧
      (∃ role ∈ r.roles, routeBase role = routeBase route ∧
        canonicalVerb? (routeSuffix role) = some verb) ∧ ¬ r.TakesAway verb
  nodup : (resolve r).names.Nodup

variable {r : ActionRequest} {route : String}

theorem checkedNames_of_checkedRoute? (h : r.checkedRoute? = some route) :
    r.checkedNames = roleNames route r.roles := by
  rw [ActionRequest.checkedNames, h]

theorem grants_iff_of_routeName (h : r.routeName = some route) {verb : String} :
    r.Grants verb ↔ ∃ role ∈ r.roles, routeBase role = routeBase route ∧
      canonicalVerb? (routeSuffix role) = some verb := by
  simp [ActionRequest.Grants, h]

/-- Where the roles of a caller cover the current route, the buttons are exactly the granted ones.
A route without a name is none that roles could cover: the buttons are those for no roles. -/
theorem buttons_under_privileges (hroute : r.routeName = some route) (hmem : route ∈ r.roles)
    (hgroup : ∀ group, r.roleGroup = some group → 1 < group) :
    (route ≠ "" → ∃ verbs, r.GrantedButtons route verbs) ∧
      (route = "" → (resolve r).buttons = (resolve (r.forRoles [])).buttons) := by
  refine ⟨fun hnamed => ?_, fun hunnamed => ?_⟩
  · have hcovered : r.Covered := ⟨hgroup, route, hroute, hnamed, hmem⟩
    have hchecked : r.checkedRoute? = some route :=
      (checkedRoute?_eq_some_iff r).2 ⟨hgroup, hroute, hnamed, hmem⟩
    refine ⟨(resolve r).verbs, ?_, verbs_resolve_sublist r, fun verb => ?_, nodup_names_resolve r⟩
    · rw [names_resolve, custom_resolve, checkedNames_of_checkedRoute? hchecked]
    · rw [mem_verbs_resolve_iff_enables, ← grants_iff_of_routeName hroute]
      simp only [hcovered, true_implies, and_comm]
  · have hnone : r.checkedRoute? = none := by simp [ActionRequest.checkedRoute?, hroute, hunnamed]
    have hnone' : (r.forRoles []).checkedRoute? = none := by
      simp [ActionRequest.checkedRoute?, ActionRequest.forRoles, hroute, hunnamed]
    unfold resolve
    rw [hnone, hnone']
    rfl

/-- The orders for a caller who may see, change and approve them, with a button of the owner for
their change and another one for their export. -/
def approvedOrders : ActionRequest where
  roles := ["orders.index", "orders.modify", "orders.approve", "users.delete"]
  baseVerbs := none
  removedVerbs := ["destroy"]
  customButtons := [.described "Update|info|pen", .described "export"]
  routeName := some "orders.index"
  roleGroup := none

theorem buttons_under_privileges_orders_index :
    ("orders.index" ∈ approvedOrders.roles ∧ approvedOrders.roleGroup = none) ∧
      ∃ verbs, approvedOrders.GrantedButtons "orders.index" verbs :=
  ⟨by decide, (buttons_under_privileges (r := approvedOrders) rfl (by decide) nofun).1 (by decide)⟩

/-- A caller with the empty role on the route without a name. -/
def unnamedOrders : ActionRequest where
  roles := [""]
  baseVerbs := none
  removedVerbs := []
  customButtons := []
  routeName := some ""
  roleGroup := some 2

/-- The empty role grants nothing, and still every action is offered on the route without a name. -/
theorem not_grantedButtons_unnamed :
    "" ∈ unnamedOrders.roles ∧ ¬ ∃ verbs, unnamedOrders.GrantedButtons "" verbs := by
  refine ⟨by decide, fun ⟨verbs, hgranted⟩ => ?_⟩
  have hview : "view" ∈ (resolve unnamedOrders).verbs := by
    refine (mem_verbs_resolve_iff_enables _).2 ⟨⟨by decide, Or.inl ⟨"view", by decide, by decide⟩⟩,
      nofun, fun hcovered => ?_⟩
    obtain ⟨-, route, hroute, hnamed, -⟩ := hcovered
    exact absurd (Option.some.inj hroute).symm hnamed
  have hname : "view" ∈ verbs ++ otherNames (unnamedOrders.ownNames ++
      roleNames "" unnamedOrders.roles) := by
    rw [← hgranted.names, names_resolve]
    exact List.mem_append_left _ hview
  rcases List.mem_append.1 hname with hverb | hother
  · obtain ⟨role, hrole, -, hgrants⟩ := ((hgranted.mem_iff "view").1 hverb).2.1
    obtain rfl := List.mem_singleton.1 hrole
    exact absurd hgrants (by decide)
  · exact absurd (mem_otherNames_iff.1 hother).2 (by decide)

end Privileges

section Removals

variable (r : ActionRequest)

/-- Without roles the buttons are those of the offered actions that are not taken away, and those of
the owner's other names. -/
theorem mem_names_resolve_forRoles_nil_iff {name : String} :
    name ∈ (resolve (r.forRoles [])).names ↔
      ((name ∈ ActionConfig.defaultVerbs ∧ (r.Enables name ∨ name ∈ r.ownNames)) ∧
        ¬ r.TakesAway name) ∨ (name ∈ r.ownNames ∧ canonicalVerb? name = none) := by
  have huncovered : ¬ (r.forRoles []).Covered := fun ⟨_, _, _, _, hmem⟩ => nomatch hmem
  have hnames : (r.forRoles []).checkedNames = [] := by
    rw [covered_iff_checkedRoute?, not_exists] at huncovered
    rw [ActionRequest.checkedNames, Option.eq_none_iff_forall_ne_some.2 huncovered]
  rw [names_resolve, custom_resolve, hnames, List.append_nil, List.mem_append,
    mem_otherNames_iff, mem_verbs_resolve_iff_enables]
  refine or_congr_left (and_congr_right fun _ => ?_)
  exact and_iff_left fun hcovered => absurd hcovered huncovered

theorem mem_defaultVerbs_of_takesAway {verb : String} (h : r.TakesAway verb) :
    verb ∈ ActionConfig.defaultVerbs := by
  obtain ⟨name, -, hverb⟩ := h
  exact mem_defaultVerbs_of_canonicalVerb? hverb

/-- Without roles the names of the buttons are those of the enabled actions, less those taken away,
and all names of the owner's buttons, exactly if the owner takes away none of these names. -/
theorem names_without_roles_iff :
    (∀ name, name ∈ (resolve (r.forRoles [])).names ↔
      (r.Enables name ∧ ¬ r.TakesAway name) ∨ name ∈ r.ownNames) ↔
        ∀ name ∈ r.ownNames, ¬ r.TakesAway name := by
  refine ⟨fun hnames name hown htaken => ?_, fun hkept name => ?_⟩
  · have hmem := mem_defaultVerbs_of_takesAway r htaken
    rcases (mem_names_resolve_forRoles_nil_iff r).1 ((hnames name).2 (Or.inr hown)) with
      ⟨-, hnot⟩ | ⟨-, hnone⟩
    · exact hnot htaken
    · rw [canonicalVerb?_of_mem_defaultVerbs hmem] at hnone
      cases hnone
  · rw [mem_names_resolve_forRoles_nil_iff]
    constructor
    · rintro (⟨⟨-, henables | hown⟩, hnot⟩ | ⟨hown, -⟩)
      · exact Or.inl ⟨henables, hnot⟩
      · exact Or.inr hown
      · exact Or.inr hown
    · rintro (⟨⟨enabled, henabled, hverb⟩, hnot⟩ | hown)
      · exact Or.inl ⟨⟨mem_defaultVerbs_of_canonicalVerb? hverb, Or.inl ⟨_, henabled, hverb⟩⟩, hnot⟩
      · refine (mem_defaultVerbs_or_of_mem_ownNames hown).imp (fun hmem => ?_) fun hnone => ?_
        · exact ⟨⟨hmem, Or.inr hown⟩, hkept name hown⟩
        · exact ⟨hown, hnone⟩

/-- The orders with a button of the owner for their deletion, which the owner takes away. -/
def undeletableOrders : ActionRequest where
  roles := []
  baseVerbs := none
  removedVerbs := ["destroy"]
  customButtons := [.described "delete|warning|trash"]
  routeName := none
  roleGroup := none

/-- The owner's button for the deletion is lost with the action that is taken away. -/
theorem not_names_without_roles_undeletable :
    ¬ ∀ name, name ∈ (resolve (undeletableOrders.forRoles [])).names ↔
      (undeletableOrders.Enables name ∧ ¬ undeletableOrders.TakesAway name) ∨
        name ∈ undeletableOrders.ownNames := by
  intro hnames
  have hown : "delete" ∈ undeletableOrders.ownNames := by decide
  have htaken : undeletableOrders.TakesAway "delete" := ⟨"destroy", by decide, by decide⟩
  rcases (mem_names_resolve_forRoles_nil_iff _).1 ((hnames "delete").2 (Or.inr hown)) with
    ⟨-, hnot⟩ | ⟨-, hnone⟩
  · exact hnot htaken
  · exact absurd hnone (by decide)

end Removals

end AdminGrid.Action

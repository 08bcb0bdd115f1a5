import AdminGrid.Action.BasePath
import AdminGrid.Action.Verb

/-!
# The buttons of a table

A table offers the actions that its owner enables and the buttons that the owner adds.  Where a
caller's roles apply and cover the current route, only the actions granted by a role of the same
route remain, and roles that name no action add buttons of their own.
-/

namespace AdminGrid.Action

/-- What the buttons of a table depend on. -/
structure ActionRequest where
  roles : List String
  /-- The enabled actions, or none for the four default ones. -/
  baseVerbs : Option (List String)
  removedVerbs : List String
  customButtons : List ButtonSpec
  routeName : Option String
  roleGroup : Option Int

/-- The buttons of a table, with what led to them. -/
structure ActionChoice where
  buttons : List ActionButton
  verbs : List String
  custom : List String
  privilegesApplied : Bool

/-- A list with an element at its end, unless it is there already. -/
def addNew (xs : List String) (x : String) : List String :=
  if xs.contains x then xs else xs ++ [x]

/-- The actions that a list of names stands for, each once, in the order of their first name. -/
def verbsOf (names : List String) : List String :=
  (names.filterMap canonicalVerb?).foldl addNew []

/-- What has been gathered from the owner's buttons: the actions, the styles set for them, and the
buttons of other names. -/
structure Gathered where
  verbs : List String
  styles : Entries ActionButton
  customs : Entries ActionButton

/-- Gathers one button. -/
def Gathered.add (g : Gathered) (b : ActionButton) : Gathered :=
  if b.custom then { g with customs := g.customs.putNew b.name b }
  else { g with styles := g.styles.put b.name b, verbs := addNew g.verbs b.name }

/-- The roles of a caller that belong to a route. -/
def rolesOf (route : String) (roles : List String) : List String :=
  roles.filter fun role => routeBase role == routeBase route

/-- The buttons of other names, those of roles that name no action added. -/
def addRoleButtons (customs : Entries ActionButton) (roles : List String) : Entries ActionButton :=
  roles.foldl (fun acc role =>
    let suffix := routeSuffix role
    if (canonicalVerb? suffix).isSome then acc
    else acc.putNew suffix ⟨suffix, "default", "link", true⟩) customs

/-- The place of an action among the buttons of a row. -/
def verbRank (verb : String) : Nat := ActionConfig.defaultVerbs.findIdx (· == verb)

/-- Whether the roles of a caller restrict the buttons. -/
def ActionRequest.privilegesApply (r : ActionRequest) : Bool :=
  !r.roles.isEmpty && (match r.roleGroup with
    | none => true
    | some group => 1 < group)

/-- The route that the roles of a caller are checked against, if they are. -/
def ActionRequest.checkedRoute? (r : ActionRequest) : Option String :=
  match r.routeName with
  | none => none
  | some route =>
      if r.privilegesApply && route != "" && r.roles.contains route then some route else none

/-- The buttons of a table. -/
def resolve (r : ActionRequest) : ActionChoice :=
  let start : Gathered := ⟨verbsOf (r.baseVerbs.getD ActionConfig.defaultVerbs), [], []⟩
  let gathered := (r.customButtons.flatMap buttonsOf).foldl Gathered.add start
  let (verbs, customs) := match r.checkedRoute? with
    | none => (gathered.verbs, gathered.customs)
    | some route =>
        let roles := rolesOf route r.roles
        let granted := roles.filterMap fun role => canonicalVerb? (routeSuffix role)
        (gathered.verbs.filter granted.contains, addRoleButtons gathered.customs roles)
  let removed := r.removedVerbs.map fun name => (canonicalVerb? name).getD name
  let verbs := (verbs.filter fun verb => !removed.contains verb).mergeSort fun a b =>
    verbRank a ≤ verbRank b
  { buttons := verbs.map (fun verb => (gathered.styles.get? verb).getD (defaultButton verb)) ++
      customs.values
    verbs := verbs
    custom := customs.keys
    privilegesApplied := r.privilegesApply }

/-- What led to the buttons, as the entries of a report. -/
def ActionChoice.report (c : ActionChoice) : List (String × Value) :=
  [("verbs", .ofTexts c.verbs), ("custom", .ofTexts c.custom),
    ("privileges_applied", .bool c.privilegesApplied)]

end AdminGrid.Action

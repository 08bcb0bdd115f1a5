import AdminGrid.Action.Resolve
import AdminGrid.Cell.Image
import AdminGrid.Request.Context
import AdminGrid.Store.Table

/-!
# What an answer is made from

An answer is made from a database, the files that its image cells point to, and a request.  A
request without a descriptor, or without the name of its table, has no answer.
-/

namespace AdminGrid

/-- The database and the files that an answer is made from, with the relations that were found in
the database. -/
structure Source where
  database : Store.Database
  assets : Cell.Assets
  catalog : List RelationSpec

namespace Request

/-- What the buttons of a request depend on. -/
def Context.buttonRequest (c : Context) (d : TableDescriptor) : Action.ActionRequest where
  roles := c.roles
  baseVerbs := some d.actions.enabledVerbs
  removedVerbs := d.actions.removedVerbs
  customButtons := d.actions.customButtons
  routeName := c.route.routeName
  roleGroup := c.roleGroup

/-- The descriptor of a request that names its table. -/
def Context.describedTable (c : Context) : Attempt TableDescriptor :=
  match c.descriptor, c.tableName with
  | some d, some name =>
      if name = "" then .error (.configuration .noDescriptor) else .ok d
  | _, _ => .error (.configuration .noDescriptor)

end Request

end AdminGrid

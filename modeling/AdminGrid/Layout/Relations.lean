import AdminGrid.Descriptor.Column

/-!
# Relation columns

Where the alias of a relation is requested, the display field of the relation takes its place.  An
alias that the table does not know stands at its index among the requested fields; an alias that is
a column of the table stands at the index of that column.
-/

namespace AdminGrid.Layout

/-- A relation that is shown: its display field and the columns that it joins. -/
structure ShownRelation where
  displayField : String
  foreignKey : Entries String

/-- The relations that are shown, by alias, and all the columns that they join. -/
structure RelationMeta where
  relations : Entries ShownRelation
  foreignKeys : Entries String

/-- No relations. -/
def RelationMeta.none : RelationMeta := ⟨[], []⟩

/-- The columns of a table with its labels and relations. -/
structure Columns where
  fields : List String
  labels : Entries String
  relations : RelationMeta

/-- A list with an element at an index, or at its end when it is shorter. -/
def insertAt {α : Type} (xs : List α) (i : Nat) (x : α) : List α :=
  xs.take i ++ x :: xs.drop i

/-- The relations by alias, the last one of an alias. -/
def byAlias (relations : List RelationSpec) : Entries RelationSpec :=
  Entries.ofList (relations.map fun r => (r.aliasField, r))

/-- The indexes of the requested aliases that are no fields, with the aliases. -/
def unknownPlaces (aliases : Entries RelationSpec) (fields requested : List String) :
    List (Nat × String) :=
  (requested.zipIdx.filter fun (name, _) => aliases.has name && !fields.contains name).map
    fun (name, i) => (i, name)

/-- The indexes of the fields that are requested aliases, with the aliases. -/
def knownPlaces (aliases : Entries RelationSpec) (fields requested : List String) :
    List (Nat × String) :=
  (fields.zipIdx.filter fun (name, _) => aliases.has name && requested.contains name).map
    fun (name, i) => (i, name)

/-- The places of all requested aliases in ascending order; an index that both kinds claim goes to
the alias that is no field. -/
def aliasPlaces (aliases : Entries RelationSpec) (fields requested : List String) :
    List (Nat × String) :=
  let unknown := unknownPlaces aliases fields requested
  let known := (knownPlaces aliases fields requested).filter fun (i, _) =>
    !unknown.any fun (j, _) => j == i
  (unknown ++ known).mergeSort fun a b => a.1 ≤ b.1

/-- Puts the display field of an alias at an index, unless it is shown already. -/
def showRelation (aliases : Entries RelationSpec) (c : Columns) (place : Nat × String) : Columns :=
  match aliases.get? place.2 with
  | Option.none => c
  | some r =>
      if c.fields.contains r.displayField then c
      else
        { fields := insertAt c.fields place.1 r.displayField
          labels := c.labels.put r.displayField r.label
          relations :=
            { relations := c.relations.relations.put place.2 ⟨r.displayField, r.foreignKey⟩
              foreignKeys := c.relations.foreignKeys.merge r.foreignKey } }

/-- The columns with every requested alias replaced by the display field of its relation. -/
def applyRelations (c : Columns) (requested : List String) (relations : List RelationSpec) :
    Columns :=
  let aliases := byAlias relations
  if aliases.isEmpty then c
  else
    let kept := c.fields.filter fun name => !(aliases.has name && requested.contains name)
    (aliasPlaces aliases c.fields requested).foldl (showRelation aliases) { c with fields := kept }

/-- A shown relation as a document. -/
def ShownRelation.toValue (r : ShownRelation) : Value :=
  .map [("display_field", .text r.displayField), ("foreign_key", .ofTextMap r.foreignKey)]

/-- The shown relations as a document. -/
def RelationMeta.toValue (m : RelationMeta) : Value :=
  .map [("relations", .map (m.relations.map fun (name, r) => (name, r.toValue))),
    ("foreign_keys", .ofTextMap m.foreignKeys)]

/-- The relations of two lists by alias, those of the first list winning. -/
def mergeRelations (declared discovered : List RelationSpec) : List RelationSpec :=
  ((byAlias discovered).merge (byAlias declared)).values

/-! ## Foreign keys

The foreign key of a relation pairs two columns.  One of them belongs to the base table, or to none
by name; the other one names the table that is joined. -/

/-- A name cut at its last point; a name without one belongs to no table. -/
def cutName (name : String) : String × String := (Text.cutLast? '.' name).getD ("", name)

/-- The columns that a foreign key joins. -/
structure JoinedColumns where
  baseColumn : String
  table : String
  column : String
  deriving DecidableEq

/-- The columns that a pair of a foreign key joins, whichever way round it is written. -/
def joinedPair? (base : String) (pair : String × String) : Option JoinedColumns :=
  let (leftTable, leftColumn) := cutName pair.1
  let (rightTable, rightColumn) := cutName pair.2
  if (rightTable = "" || rightTable = base) && leftTable != "" then
    some ⟨rightColumn, leftTable, leftColumn⟩
  else if (leftTable = "" || leftTable = base) && rightTable != "" then
    some ⟨leftColumn, rightTable, rightColumn⟩
  else none

/-- The columns that the first usable pair of a foreign key joins. -/
def joinedColumns? (base : String) (foreignKey : Entries String) : Option JoinedColumns :=
  foreignKey.findSome? (joinedPair? base)

end AdminGrid.Layout

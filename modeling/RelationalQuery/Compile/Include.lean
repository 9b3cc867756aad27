import RelationalQuery.Compile.Filter
import RelationalQuery.Query.Basic
import RelationalQuery.Sql.Select

/-!
# Joined relations

A selection may ask for related rows, and for rows related to those, to any depth. `forest` finds
the relations that it asks for, and `number` gives each of them an alias: `t1`, `t2` and so on, the
relations of one row before those of the rows related to it. The table of the query itself is `t0`.

A relation over a join table takes a second alias for that table, with the same number: `j2` for
`t2`.
-/

namespace RelationalQuery.Compile

open Sql (Column Join)

/-- The alias of a table occurrence by its number. -/
def tableAlias (n : Nat) : String := s!"t{n}"

/-- The alias of the join table between two table occurrences, by the number of the second. -/
def junctionAlias (n : Nat) : String := s!"j{n}"

/-- The alias of the table of the query. -/
def baseAlias : String := tableAlias 0

/-- A relation that is asked for, with those that are asked for of its rows. -/
inductive IncludeTree
  | node (name : String) (relation : Relation) (filter : Option Filter)
    (columns : Option (List String)) (children : List IncludeTree)
  deriving Repr

namespace IncludeTree

/-- The relations that are asked for of the related rows. -/
def children : IncludeTree → List IncludeTree
  | node _ _ _ _ children => children

mutual

/-- The number of relations in a tree. -/
def size : IncludeTree → Nat
  | node _ _ _ _ children => sizes children + 1

/-- The number of relations in a list of trees. -/
def sizes : List IncludeTree → Nat
  | [] => 0
  | tree :: rest => size tree + sizes rest

end

theorem sizes_append (a b : List IncludeTree) : sizes (a ++ b) = sizes a + sizes b := by
  induction a with
  | nil => simp [sizes]
  | cons tree rest ih => simp [sizes, ih, Nat.add_assoc]

theorem size_eq (tree : IncludeTree) : tree.size = sizes tree.children + 1 := by
  cases tree; simp [size, children]

end IncludeTree

/-- The columns that are selected of a related row: those of the fields that are asked for, or else
the id; without restriction all that are known. -/
def selectedColumns (s : Schema) (model : String) (selection : Selection) : Option (List String) :=
  if selection.scalars then
    match s.model? model with
    | some m => if m.fields.isEmpty then none else some m.columns
    | none => none
  else
    let fields := selection.flagged.filter fun field => (s.relation? model field).isNone
    some (if fields.isEmpty then [s.idColumn model] else fields.map (s.columnOf model))

mutual

/-- The relations of a model that a selection asks for. -/
def forest (s : Schema) (model : String) : Selection → List IncludeTree
  | ⟨_, _, fields⟩ => forestOfFields s model fields

/-- The relations among selected fields. -/
def forestOfFields (s : Schema) (model : String) : List (String × SelectedField) → List IncludeTree
  | [] => []
  | (name, field) :: rest =>
    match s.relation? model name with
    | none => forestOfFields s model rest
    | some relation => treeOfField s name relation field ++ forestOfFields s model rest

/-- The tree of a relation, if its field is selected. -/
def treeOfField (s : Schema) (name : String) (relation : Relation) :
    SelectedField → List IncludeTree
  | .flag false => []
  | .flag true => [.node name relation none (selectedColumns s relation.target {}) []]
  | .nested arguments selection =>
    [.node name relation arguments.filter (selectedColumns s relation.target selection)
      (forest s relation.target selection)]

end

/-- A relation that is joined in. -/
structure PlannedJoin where
  /-- The number of its alias. -/
  number : Nat
  /-- The rows that it is joined to. -/
  parent : Occurrence
  /-- The related rows. -/
  row : Occurrence
  relation : Relation
  filter : Option Filter
  inclusion : Inclusion
  deriving Repr

namespace PlannedJoin

/-- The join of a tree's root under a number. -/
def ofTree (c : Context) (number : Nat) (parent : Occurrence) : IncludeTree → PlannedJoin
  | .node name relation filter columns _ =>
    let aliasName := tableAlias number
    { number, parent, relation, filter
      row := Occurrence.aliased c relation.target aliasName
      inclusion :=
        { relation := name, aliasName, parent := parent.name, isList := relation.cardinality.isList
          columns } }

/-- The names that the join introduces. -/
def names (p : PlannedJoin) : List String :=
  if p.relation.isManyToMany then [junctionAlias p.number, p.row.name] else [p.row.name]

end PlannedJoin

/-- Numbers the relations of a queue of trees from `next` on, each tree with the rows that it is
joined to. The relations of a tree's root join the queue at its end. -/
def number (c : Context) (next : Nat) : List (Occurrence × IncludeTree) → List PlannedJoin
  | [] => []
  | (parent, tree) :: queue =>
    let join := PlannedJoin.ofTree c next parent tree
    join :: number c (next + 1) (queue ++ tree.children.map fun child => (join.row, child))
  termination_by queue => IncludeTree.sizes (queue.map Prod.snd)
  decreasing_by
    simp [IncludeTree.sizes, IncludeTree.sizes_append, IncludeTree.size_eq, Function.comp_def]
    omega

/-- The joins that a selection on the rows of `base` asks for, in the order of their numbers. -/
def planJoins (c : Context) (base : Occurrence) (selection : Selection) :
    Except CompileError (List PlannedJoin) := do
  let joins := number c 1 ((forest c.schema base.model selection).map fun tree => (base, tree))
  joins.forM fun join => c.checkModel join.relation.target
  return joins

/-- What a join selects. -/
def joinedItems (join : PlannedJoin) : List Sql.Item :=
  match join.inclusion.columns with
  | some columns =>
    columns.map fun column =>
      .aliased (join.row.outer column) (Inclusion.aliasOf join.row.name column)
  | none => [.everythingOf join.row.name]

/-- The steps of a join: to the target itself, or to the join table and on to the target. -/
def joinSteps (c : Context) (join : PlannedJoin) :
    Except CompileError (List (Sql.Table × Column × Column)) :=
  match c.schema.link join.parent.model join.relation with
  | .junction none _ _ _ _ =>
    .error (.noJoinTable join.relation.name (some join.parent.model))
  | .junction (some table) ownId ownColumn targetColumn targetId =>
    let aliasName := junctionAlias join.number
    .ok [(⟨table, some aliasName⟩, ⟨some aliasName, ownColumn⟩, join.parent.outer ownId),
      (join.row.table, join.row.outer targetId, ⟨some aliasName, targetColumn⟩)]
  | .direct own target => .ok [(join.row.table, join.row.own target, join.parent.outer own)]

/-- The join itself, where the given names are visible. -/
def renderJoin (c : Context) (visible : List String) (join : PlannedJoin) :
    Except CompileError Join := do
  let steps ← joinSteps c join
  let conditions ← optionalClause c join.row visible join.filter
  return { steps, conditions }

end RelationalQuery.Compile

import Mathlib.Data.List.Shortlex
import RelationalQuery.Proofs.Compile.Joins
import RelationalQuery.Proofs.Compile.Selected

/-!
# Relations are joined breadth first

A selection is a tree, and a node of it is known by its path: the index of the field in the selection
of the queried rows, that of the field in the selection of those related rows, and so on. `nodeAt?`
says which relation a node asks for, if it asks for one. `breadthFirst_number` says that there is one
join for each node that does, numbered by depth and on one depth in the order of the selection.

## Shape of the proof

Joins do not say which nodes they stand for. `visited` goes through the same queue with the paths
beside the relations, and `number_map_entry` says that numbering is that traversal. What the queue
keeps is `InOrder`: its paths are sorted, and what is still to come below any of them stands behind
all of them.
-/

namespace RelationalQuery

/-- What a selected field asks of related rows: a filter on them, and a selection of them. -/
def SelectedField.related? : SelectedField → Option (Option Filter × Selection)
  | .flag false => none
  | .flag true => some (none, {})
  | .nested arguments selection => some (arguments.filter, selection)

namespace Compile

variable {s : Schema} {c : Context} {base : Occurrence} {model : String} {selection : Selection}

/-! ## Nodes of a selection -/

/-- A relation that a node of a selection asks for, with what it asks of the related rows. -/
structure Asked where
  name : String
  relation : Relation
  filter : Option Filter
  below : Selection

namespace Asked

/-- The tree that is asked for. -/
def tree (s : Schema) (asked : Asked) : IncludeTree :=
  .node asked.name asked.relation asked.filter
    (selectedColumns s asked.relation.target asked.below)
    (forest s asked.relation.target asked.below)

/-- The join of a relation under a number. -/
def join (c : Context) (n : Nat) (parent : Occurrence) (asked : Asked) : PlannedJoin where
  number := n
  parent
  row := .aliased c asked.relation.target (tableAlias n)
  relation := asked.relation
  filter := asked.filter
  inclusion :=
    { relation := asked.name, aliasName := tableAlias n, parent := parent.name
      isList := asked.relation.cardinality.isList
      columns := selectedColumns c.schema asked.relation.target asked.below }

end Asked

/-- The relation that a field of a model asks for, if it is selected and a relation. -/
def asked? (s : Schema) (model : String) (entry : String × SelectedField) : Option Asked :=
  (s.relation? model entry.1).bind fun relation =>
    entry.2.related?.map fun related => ⟨entry.1, relation, related.1, related.2⟩

/-- The relation that the field at an index of a selection asks for. -/
def child? (s : Schema) (model : String) (selection : Selection) (i : Nat) : Option Asked :=
  selection.fields[i]?.bind (asked? s model)

/-- The relation that is asked for at a path below another one. -/
def Asked.at? (s : Schema) : Asked → List Nat → Option Asked
  | asked, [] => some asked
  | asked, i :: path =>
    (child? s asked.relation.target asked.below i).bind fun child => child.at? s path

/-- The relation that the node at a path of a selection asks for, if all nodes on the way ask for
relations as well. -/
def nodeAt? (s : Schema) (model : String) (selection : Selection) : List Nat → Option Asked
  | [] => none
  | i :: path => (child? s model selection i).bind fun child => child.at? s path

theorem treeOfField_eq (name : String) (relation : Relation) (field : SelectedField) :
    treeOfField s name relation field =
      (field.related?.map fun related =>
        Asked.tree s ⟨name, relation, related.1, related.2⟩).toList := by
  cases field with
  | flag on =>
    cases on with
    | false => rw [treeOfField]; rfl
    | true =>
      rw [treeOfField, SelectedField.related?, Option.map_some, Asked.tree, forest, forestOfFields]
      rfl
  | nested arguments selection => rw [treeOfField]; rfl

/-- The trees that a selection asks for are those of its fields. -/
theorem forest_eq_filterMap (s : Schema) (model : String) (selection : Selection) :
    forest s model selection =
      selection.fields.filterMap fun entry => (asked? s model entry).map (Asked.tree s) := by
  rw [forest_eq, List.filterMap_eq_flatMap_toList]
  congr 1
  funext entry
  rw [asked?]
  cases s.relation? model entry.1 with
  | none => rfl
  | some relation =>
    rw [Option.elim_some, treeOfField_eq, Option.bind_some, Option.map_map]
    rfl

/-! ## The queue -/

/-- A relation that waits in the queue: the path of its node, and the rows that it is joined to. -/
structure Pending where
  path : List Nat
  parent : Occurrence
  asked : Asked

/-- The relations that a selection on some rows asks for, where the selection stands at a path. -/
def pendings (s : Schema) (parent : Occurrence) (path : List Nat) (selection : Selection) :
    List Pending :=
  (List.range selection.fields.length).filterMap fun i =>
    (child? s parent.model selection i).map fun asked => ⟨path ++ [i], parent, asked⟩

namespace Pending

/-- The relation as it waits to be numbered. -/
def entry (c : Context) (p : Pending) : Occurrence × IncludeTree :=
  (p.parent, p.asked.tree c.schema)

/-- The join that the relation becomes. -/
def join (c : Context) (n : Nat) (p : Pending) : PlannedJoin := p.asked.join c n p.parent

/-- The relations that are asked for of the related rows. -/
def below (c : Context) (n : Nat) (p : Pending) : List Pending :=
  pendings c.schema (p.join c n).row p.path p.asked.below

end Pending

/-- Taking the elements of a list by their indices takes the whole list. -/
theorem filterMap_range_getElem? {α β : Type} (f : α → Option β) (as : List α) :
    ((List.range as.length).filterMap fun i => as[i]?.bind f) = as.filterMap f := by
  induction as with
  | nil => rfl
  | cons a as ih =>
    rw [List.length_cons, List.range_succ_eq_map, List.filterMap_cons, List.filterMap_map,
      List.filterMap_cons, ← ih]
    rfl

theorem map_tree_pendings (parent : Occurrence) (path : List Nat) (selection : Selection) :
    ((pendings s parent path selection).map fun p => p.asked.tree s) =
      forest s parent.model selection := by
  rw [forest_eq_filterMap, ← filterMap_range_getElem?, pendings, List.map_filterMap]
  congr 1
  funext i
  rw [child?, Option.map_map]
  cases selection.fields[i]? <;> rfl

/-- The relations that a selection asks for wait for numbers as its trees do. -/
theorem map_entry_pendings (parent : Occurrence) (path : List Nat) (selection : Selection) :
    (pendings c.schema parent path selection).map (Pending.entry c) =
      (forest c.schema parent.model selection).map fun tree => (parent, tree) := by
  rw [← map_tree_pendings parent path, List.map_map]
  refine List.map_congr_left fun p hp => ?_
  obtain ⟨i, -, hi⟩ := List.mem_filterMap.mp hp
  obtain ⟨asked, -, rfl⟩ := Option.map_eq_some_iff.mp hi
  rfl

theorem mem_pendings_iff {parent : Occurrence} {path : List Nat} {p : Pending} :
    p ∈ pendings s parent path selection ↔
      ∃ i asked, child? s parent.model selection i = some asked ∧
        p = ⟨path ++ [i], parent, asked⟩ := by
  rw [pendings, List.mem_filterMap]
  constructor
  · rintro ⟨i, -, hi⟩
    obtain ⟨asked, hasked, rfl⟩ := Option.map_eq_some_iff.mp hi
    exact ⟨i, asked, hasked, rfl⟩
  · rintro ⟨i, asked, hasked, rfl⟩
    refine ⟨i, List.mem_range.mpr ?_, Option.map_eq_some_iff.mpr ⟨asked, hasked, rfl⟩⟩
    obtain ⟨entry, hentry, -⟩ := Option.bind_eq_some_iff.mp hasked
    exact (List.getElem?_eq_some_iff.mp hentry).1

/-- The relations of a queue in the order in which they are numbered from `next` on, with those below
them. -/
def visited (c : Context) (next : Nat) : List Pending → List Pending
  | [] => []
  | first :: queue => first :: visited c (next + 1) (queue ++ first.below c next)
  termination_by queue => IncludeTree.sizes (queue.map fun p => p.asked.tree c.schema)
  decreasing_by
    rw [List.map_append, Pending.below, map_tree_pendings, IncludeTree.sizes_append, List.map_cons,
      IncludeTree.sizes, IncludeTree.size_eq]
    show _ + IncludeTree.sizes (first.asked.tree c.schema).children < _
    omega

/-- The queue is numbered as it is visited. -/
theorem number_map_entry (next : Nat) (queue : List Pending) :
    number c next (queue.map (Pending.entry c)) =
      (visited c next queue).mapIdx fun i p => p.join c (next + i) := by
  induction next, queue using visited.induct c with
  | case1 next => rw [visited, List.map_nil, number, List.mapIdx_nil]
  | case2 next first queue ih =>
    rw [List.map_append, Pending.below, map_entry_pendings] at ih
    rw [visited, List.map_cons, List.mapIdx_cons, Pending.entry, number]
    refine congrArg _ (ih.trans ?_)
    congr 1
    funext i p
    rw [Nat.add_right_comm, Nat.add_assoc]

/-! ## Order -/

/-- Paths of different nodes on the way to longer ones are ordered as these are. -/
theorem shortlex_snoc {a b : List Nat} (h : List.Shortlex (· < ·) a b) (i j : Nat) :
    List.Shortlex (· < ·) (a ++ [i]) (b ++ [j]) := by
  rcases List.shortlex_def.mp h with hlength | ⟨hlength, hlex⟩
  · exact .of_length_lt (by simpa using hlength)
  · refine .of_lex (by simpa using hlength) ?_
    clear h
    induction hlex with
    | nil => simp at hlength
    | cons _ ih => exact .cons (ih (by simpa using hlength))
    | rel h => exact .rel h

/-- Whether the paths in a queue are sorted, and those right below them stand behind all of them. -/
structure InOrder (queue : List Pending) : Prop where
  sorted : queue.Pairwise fun a b => List.Shortlex (· < ·) a.path b.path
  band : ∀ a ∈ queue, ∀ b ∈ queue, ∀ i, List.Shortlex (· < ·) a.path (b.path ++ [i])

theorem sorted_pendings (parent : Occurrence) (path : List Nat) (selection : Selection) :
    (pendings s parent path selection).Pairwise
      fun a b => List.Shortlex (· < ·) a.path b.path := by
  rw [pendings, List.pairwise_filterMap]
  refine List.Pairwise.imp ?_ List.pairwise_lt_range
  intro i j hij a ha b hb
  obtain ⟨x, -, rfl⟩ := Option.map_eq_some_iff.mp ha
  obtain ⟨y, -, rfl⟩ := Option.map_eq_some_iff.mp hb
  exact ((List.shortlex_singleton_iff i j).mpr hij).append_left path

theorem inOrder_pendings (parent : Occurrence) (path : List Nat) (selection : Selection) :
    InOrder (pendings s parent path selection) where
  sorted := sorted_pendings parent path selection
  band := by
    intro a ha b hb i
    obtain ⟨j, x, -, rfl⟩ := mem_pendings_iff.mp ha
    obtain ⟨k, y, -, rfl⟩ := mem_pendings_iff.mp hb
    exact .of_length_lt (by simp)

/-- A step of the traversal leaves the queue in order. -/
theorem InOrder.step {next : Nat} {first : Pending} {queue : List Pending}
    (h : InOrder (first :: queue)) : InOrder (queue ++ first.below c next) := by
  obtain ⟨hfirst, hqueue⟩ := List.pairwise_cons.mp h.sorted
  have hband {a : Pending} (ha : a ∈ queue) (i : Nat) :
      List.Shortlex (· < ·) a.path (first.path ++ [i]) :=
    h.band a (List.mem_cons_of_mem _ ha) first List.mem_cons_self i
  constructor
  · refine List.pairwise_append.mpr ⟨hqueue, sorted_pendings _ _ _, fun a ha b hb => ?_⟩
    obtain ⟨i, x, -, rfl⟩ := mem_pendings_iff.mp hb
    exact hband ha i
  · intro a ha b hb i
    rcases List.mem_append.mp ha with ha | ha
    · rcases List.mem_append.mp hb with hb | hb
      · exact h.band a (List.mem_cons_of_mem _ ha) b (List.mem_cons_of_mem _ hb) i
      · obtain ⟨j, y, -, rfl⟩ := mem_pendings_iff.mp hb
        exact (hband ha j).append_right [i]
    · obtain ⟨j, x, -, rfl⟩ := mem_pendings_iff.mp ha
      rcases List.mem_append.mp hb with hb | hb
      · exact shortlex_snoc (hfirst b hb) j i
      · obtain ⟨k, y, -, rfl⟩ := mem_pendings_iff.mp hb
        exact .of_length_lt (by simp)

/-- The nodes that are visited are those at or below the nodes in the queue. -/
theorem exists_mem_visited_iff (next : Nat) (queue : List Pending) {path : List Nat}
    {asked : Asked} :
    (∃ p ∈ visited c next queue, p.path = path ∧ p.asked = asked) ↔
      ∃ p ∈ queue, ∃ rest, path = p.path ++ rest ∧ p.asked.at? c.schema rest = some asked := by
  induction next, queue using visited.induct c with
  | case1 next =>
    rw [visited]
    simp
  | case2 next first queue ih =>
    rw [visited]
    constructor
    · rintro ⟨p, hp, rfl, rfl⟩
      rcases List.mem_cons.mp hp with rfl | hp
      · exact ⟨p, List.mem_cons_self, [], (List.append_nil _).symm, rfl⟩
      · obtain ⟨q, hq, rest, hpath, hat⟩ := ih.mp ⟨p, hp, rfl, rfl⟩
        rcases List.mem_append.mp hq with hq | hq
        · exact ⟨q, List.mem_cons_of_mem _ hq, rest, hpath, hat⟩
        · obtain ⟨i, child, hchild, rfl⟩ := mem_pendings_iff.mp hq
          refine ⟨first, List.mem_cons_self, i :: rest, ?_, ?_⟩
          · rw [hpath, List.append_assoc, List.singleton_append]
          · exact Option.bind_eq_some_iff.mpr ⟨child, hchild, hat⟩
    · rintro ⟨p, hp, rest, rfl, hat⟩
      have hlater (h : ∃ q ∈ queue ++ first.below c next, ∃ r, p.path ++ rest = q.path ++ r ∧
          q.asked.at? c.schema r = some asked) :
          ∃ q ∈ first :: visited c (next + 1) (queue ++ first.below c next),
            q.path = p.path ++ rest ∧ q.asked = asked := by
        obtain ⟨q, hq, hsame⟩ := ih.mpr h
        exact ⟨q, List.mem_cons_of_mem _ hq, hsame⟩
      rcases List.mem_cons.mp hp with rfl | hp
      · cases rest with
        | nil => exact ⟨p, List.mem_cons_self, (List.append_nil _).symm, Option.some.inj hat⟩
        | cons i rest =>
          obtain ⟨child, hchild, hat⟩ := Option.bind_eq_some_iff.mp hat
          refine hlater ⟨⟨p.path ++ [i], (p.join c next).row, child⟩, ?_, rest, ?_, hat⟩
          · exact List.mem_append_right _ (mem_pendings_iff.mpr ⟨i, child, hchild, rfl⟩)
          · rw [List.append_assoc, List.singleton_append]
      · exact hlater ⟨p, List.mem_append_left _ hp, rest, rfl, hat⟩

/-- A queue in order is visited in order. -/
theorem sorted_visited (next : Nat) (queue : List Pending) (h : InOrder queue) :
    (visited c next queue).Pairwise fun a b => List.Shortlex (· < ·) a.path b.path := by
  induction next, queue using visited.induct c with
  | case1 next =>
    rw [visited]
    exact List.Pairwise.nil
  | case2 next first queue ih =>
    rw [visited]
    refine List.pairwise_cons.mpr ⟨fun p hp => ?_, ih h.step⟩
    -- what is visited later stands in the rest of the queue, or below it or the first
    obtain ⟨q, hq, rest, hpath, -⟩ := (exists_mem_visited_iff _ _).mp ⟨p, hp, rfl, rfl⟩
    rw [hpath]
    refine List.Shortlex.append_right rest ?_
    rcases List.mem_append.mp hq with hq | hq
    · exact (List.pairwise_cons.mp h.sorted).1 q hq
    · obtain ⟨i, child, -, rfl⟩ := mem_pendings_iff.mp hq
      exact .of_length_lt (by simp)

/-- What is visited was in the queue from the beginning, or came in below what was visited before. -/
theorem parent_of_visited (next : Nat) (queue : List Pending) {i : Nat} {p : Pending}
    (h : (visited c next queue)[i]? = some p) :
    p ∈ queue ∨ ∃ k j above, k < i ∧ (visited c next queue)[k]? = some above ∧
      p.path = above.path ++ [j] ∧ p.parent = (above.join c (next + k)).row := by
  induction next, queue using visited.induct c generalizing i with
  | case1 next =>
    rw [visited] at h
    cases h
  | case2 next first queue ih =>
    rw [visited] at h ⊢
    cases i with
    | zero =>
      obtain rfl := Option.some.inj h
      exact .inl List.mem_cons_self
    | succ i =>
      rcases ih h with hp | ⟨k, j, above, hk, habove, hpath, hparent⟩
      · rcases List.mem_append.mp hp with hp | hp
        · exact .inl (List.mem_cons_of_mem _ hp)
        · obtain ⟨j, child, -, rfl⟩ := mem_pendings_iff.mp hp
          exact .inr ⟨0, j, first, Nat.succ_pos i, rfl, rfl, rfl⟩
      · refine .inr ⟨k + 1, j, above, Nat.succ_lt_succ hk, habove, hpath, ?_⟩
        rw [hparent, Nat.add_right_comm, Nat.add_assoc]

/-! ## Joins -/

/-- Whether some rows are those right above a node, for the join at an index: the queried ones, or
those of an earlier join whose node is right above. -/
inductive IsAbove (base : Occurrence) (joins : List PlannedJoin) (paths : List (List Nat)) (i : Nat) :
    List Nat → Occurrence → Prop
  | queried (j : Nat) : IsAbove base joins paths i [j] base
  | joined {k : Nat} {path : List Nat} {join : PlannedJoin} (earlier : k < i)
    (node : paths[k]? = some path) (row : joins[k]? = some join) (j : Nat) :
    IsAbove base joins paths i (path ++ [j]) join.row

/-- Whether joins are those that a selection on some rows asks for, with the paths of their nodes. -/
structure BreadthFirst (c : Context) (base : Occurrence) (selection : Selection)
    (joins : List PlannedJoin) (paths : List (List Nat)) : Prop where
  /-- There is one join for each path. -/
  length : joins.length = paths.length
  /-- The paths are those of the nodes that ask for relations. -/
  nodes : ∀ path, path ∈ paths ↔ (nodeAt? c.schema base.model selection path).isSome
  /-- They are sorted by their length, and by their indices if they have the same length. No path is
  there twice. -/
  sorted : paths.Pairwise (List.Shortlex (· < ·))
  /-- Each join is that of its node, to the rows right above, under the next number. -/
  joined : ∀ i path, paths[i]? = some path → ∃ asked parent,
    nodeAt? c.schema base.model selection path = some asked ∧
      joins[i]? = some (asked.join c (i + 1) parent) ∧ IsAbove base joins paths i path parent

namespace BreadthFirst

variable {joins : List PlannedJoin} {paths : List (List Nat)}

/-- Joins of nodes further down come later. -/
theorem depth (h : BreadthFirst c base selection joins paths) :
    paths.Pairwise fun a b => a.length ≤ b.length := by
  refine h.sorted.imp fun hab => ?_
  rcases List.shortlex_def.mp hab with hlength | ⟨hlength, -⟩
  · exact hlength.le
  · exact hlength.le

/-- Joins of one selection come in the order of its fields. -/
theorem siblings (h : BreadthFirst c base selection joins paths) :
    paths.Pairwise fun a b => ∀ path i j, a = path ++ [i] → b = path ++ [j] → i < j := by
  refine h.sorted.imp fun hab => ?_
  rintro path i j rfl rfl
  rw [List.shortlex_iff_lex (by simp)] at hab
  induction path with
  | nil => simpa using hab
  | cons k path ih => exact ih (List.lex_cons_iff.mp hab)

/-- Every join is that of a node. -/
theorem exists_of_getElem? (h : BreadthFirst c base selection joins paths) {i : Nat}
    {join : PlannedJoin} (hjoin : joins[i]? = some join) :
    ∃ path asked parent, paths[i]? = some path ∧
      nodeAt? c.schema base.model selection path = some asked ∧
      join = asked.join c (i + 1) parent ∧ IsAbove base joins paths i path parent := by
  obtain ⟨hi, -⟩ := List.getElem?_eq_some_iff.mp hjoin
  obtain ⟨path, hpath⟩ : ∃ path, paths[i]? = some path :=
    ⟨_, List.getElem?_eq_getElem (h.length ▸ hi)⟩
  obtain ⟨asked, parent, hasked, hsame, habove⟩ := h.joined i path hpath
  exact ⟨path, asked, parent, hpath, hasked, Option.some.inj (hjoin.symm.trans hsame), habove⟩

/-- The aliases are numbered from one on. -/
theorem aliasName (h : BreadthFirst c base selection joins paths) {i : Nat} {join : PlannedJoin}
    (hjoin : joins[i]? = some join) : join.inclusion.aliasName = tableAlias (i + 1) := by
  obtain ⟨path, asked, parent, -, -, rfl, -⟩ := h.exists_of_getElem? hjoin
  rfl

/-- No alias is taken twice, nor is that of the queried table. -/
theorem nodup_aliases (h : BreadthFirst c base selection joins paths) :
    (baseAlias :: joins.map fun join => join.inclusion.aliasName).Nodup := by
  have haliases : (baseAlias :: joins.map fun join => join.inclusion.aliasName) =
      (List.range (joins.length + 1)).map tableAlias := by
    rw [List.range_succ_eq_map, List.map_cons, List.map_map]
    refine congrArg _ (List.ext_getElem? fun i => ?_)
    rw [List.getElem?_map, List.getElem?_map]
    cases hjoin : joins[i]? with
    | none => rw [List.getElem?_eq_none (by simpa using hjoin)]; rfl
    | some join =>
      obtain ⟨hi, -⟩ := List.getElem?_eq_some_iff.mp hjoin
      rw [Option.map_some, h.aliasName hjoin, List.getElem?_range hi]
      rfl
  rw [haliases, List.Nodup, List.pairwise_map]
  exact List.nodup_range.imp fun hne hsame => hne (tableAlias_injective hsame)

/-- Every join is to the queried table, or to that of an earlier join. -/
theorem parent (h : BreadthFirst c base selection joins paths) {i : Nat} {join : PlannedJoin}
    (hjoin : joins[i]? = some join) :
    join.inclusion.parent = base.name ∨ ∃ k above, k < i ∧ joins[k]? = some above ∧
      join.inclusion.parent = above.inclusion.aliasName := by
  obtain ⟨path, asked, parent, -, -, rfl, habove⟩ := h.exists_of_getElem? hjoin
  cases habove with
  | queried j => exact .inl rfl
  | @joined k path above earlier node row j =>
    obtain ⟨-, asked, parent, -, -, rfl, -⟩ := h.exists_of_getElem? row
    exact .inr ⟨k, _, earlier, row, rfl⟩

end BreadthFirst

/-- The joins of a selection are numbered breadth first. -/
theorem breadthFirst_number (c : Context) (base : Occurrence) (selection : Selection) :
    ∃ paths, BreadthFirst c base selection
      (number c 1 ((forest c.schema base.model selection).map fun tree => (base, tree))) paths := by
  rw [← map_entry_pendings base [], number_map_entry]
  refine ⟨(visited c 1 (pendings c.schema base [] selection)).map Pending.path, ?_, ?_, ?_, ?_⟩
  · rw [List.length_mapIdx, List.length_map]
  · intro path
    rw [List.mem_map, Option.isSome_iff_exists]
    constructor
    · rintro ⟨p, hp, rfl⟩
      obtain ⟨q, hq, rest, hpath, hat⟩ := (exists_mem_visited_iff _ _).mp ⟨p, hp, rfl, rfl⟩
      obtain ⟨i, child, hchild, rfl⟩ := mem_pendings_iff.mp hq
      rw [hpath]
      exact ⟨p.asked, Option.bind_eq_some_iff.mpr ⟨child, hchild, hat⟩⟩
    · rintro ⟨asked, hasked⟩
      cases path with
      | nil => cases hasked
      | cons i rest =>
        obtain ⟨child, hchild, hat⟩ := Option.bind_eq_some_iff.mp hasked
        have hwaits : ⟨[i], base, child⟩ ∈ pendings c.schema base [] selection :=
          mem_pendings_iff.mpr ⟨i, child, hchild, rfl⟩
        obtain ⟨p, hp, hpath, -⟩ :=
          (exists_mem_visited_iff 1 _).mpr ⟨_, hwaits, rest, rfl, hat⟩
        exact ⟨p, hp, hpath⟩
  · rw [List.pairwise_map]
    exact sorted_visited 1 _ (inOrder_pendings base [] selection)
  · intro i path hpath
    rw [List.getElem?_map, Option.map_eq_some_iff] at hpath
    obtain ⟨p, hp, rfl⟩ := hpath
    obtain ⟨q, hq, rest, hsame, hat⟩ :=
      (exists_mem_visited_iff _ _).mp ⟨p, List.mem_of_getElem? hp, rfl, rfl⟩
    obtain ⟨first, child, hchild, rfl⟩ := mem_pendings_iff.mp hq
    refine ⟨p.asked, p.parent, ?_, ?_, ?_⟩
    · rw [hsame]
      exact Option.bind_eq_some_iff.mpr ⟨child, hchild, hat⟩
    · rw [List.getElem?_mapIdx, hp, Option.map_some, Nat.add_comm]
      rfl
    · rcases parent_of_visited 1 _ hp with hp | ⟨k, j, above, hk, habove, hpath, hparent⟩
      · obtain ⟨j, child, -, rfl⟩ := mem_pendings_iff.mp hp
        exact .queried j
      · rw [hpath, hparent]
        refine .joined hk ?_ ?_ j
        · rw [List.getElem?_map, habove, Option.map_some]
        · rw [List.getElem?_mapIdx, habove, Option.map_some]

end Compile

end RelationalQuery

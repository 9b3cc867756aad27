import RelationalQuery.Proofs.Compile.BreadthFirst
import RelationalQuery.Proofs.Execute.Identity

/-!
# Columns find their way back

What a read selects stands in the answer in the same order: the columns of the queried table, those
of each joined table under the alias of the table, and the computed fields. Records are made of the
answer by the names alone. `slots_of_planFind` says that every table gets its own columns back, in
their order and at their places, however many tables are joined, as long as no other column is named
like one of theirs.

The keys of joined columns are those of their fields, and computed fields keep their names. A column
of the queried table that has the name of a computed field is taken for one: it keeps its name too.
-/

namespace RelationalQuery

open Compile Sql

/-! ## Names of an answer -/

/-- The names under which an item is answered, where the database names what is selected without a
name of its own. -/
def Sql.Item.outputs (answer : Item → List String) : Item → List String
  | .column selected => [selected.name]
  | .aliased _ aliasName => [aliasName]
  | .aggregate _ aliasName => [aliasName]
  | .filteredCount _ aliasName => [aliasName]
  | .scalar _ aliasName => [aliasName]
  | item => answer item

/-- The names under which a read is answered. -/
def Compile.Read.outputs (answer : Item → List String) (r : Read) : List String :=
  r.select.items.flatMap (Item.outputs answer)

namespace Execute

/-- The names of the columns of the queried table in the answer to a read that finds rows. -/
def ownNames (answer : Item → List String) (c : Context) (q : Query) : List String :=
  (baseItems c (findBase c q) q).flatMap (Item.outputs answer)

variable {answer : Item → List String} {c : Context} {q : Query} {r : Read} {s : Statement}
  {h : Heading} {first rest : List Inclusion} {i : Inclusion}

/-- The items of a joined table with known columns are answered under the alias of the table. -/
theorem outputs_joinedItems {join : PlannedJoin} (hname : join.row.name = join.inclusion.aliasName)
    (hknown : join.inclusion.columns.isSome) :
    (joinedItems join).flatMap (Item.outputs answer) =
      join.inclusion.columnNames.map join.inclusion.columnAlias := by
  obtain ⟨columns, hcolumns⟩ := Option.isSome_iff_exists.mp hknown
  rw [joinedItems, Inclusion.columnNames, hcolumns, Option.getD_some, List.flatMap_map, hname]
  exact List.map_eq_flatMap.symm

/-- A read that finds rows is answered with the columns of the queried table, those of the joined
tables, and the computed fields. -/
theorem names_of_planFind (hplan : planFind c q = .ok r)
    (hknown : ∀ i ∈ r.inclusions, i.columns.isSome) :
    r.outputs answer =
      Heading.names ⟨ownNames answer c q, r.computed⟩ r.inclusions := by
  obtain ⟨joins, computed, joined, parts, hitems, hcomputed, hinclusions⟩ := exists_of_planFind hplan
  have htraced := traced_of_planJoins parts.planned
  have hjoined : (joins.flatMap joinedItems).flatMap (Item.outputs answer) =
      r.inclusions.flatMap fun i => i.columnNames.map i.columnAlias := by
    rw [hinclusions, List.flatMap_assoc, List.flatMap_map]
    refine List.flatMap_congr fun join hjoin => ?_
    refine outputs_joinedItems ?_ (hknown _ (hinclusions ▸ List.mem_map_of_mem hjoin))
    rw [(htraced join hjoin).row, (htraced join hjoin).aliasName]
  have hfields : computed.flatMap (Item.outputs answer) = r.computed := by
    have houtputs : computed.map (Item.outputs answer) =
        q.arguments.computed.map fun field => [field.1] := by
      refine map_eq_map_of_mapM (fun field item hfield => ?_) parts.fields
      obtain ⟨query, rfl⟩ := exists_scalar_of_planComputed hfield
      rfl
    rw [List.flatMap_def, houtputs, hcomputed, ← List.flatMap_def, ← List.map_eq_flatMap]
    rfl
  rw [Read.outputs, hitems, findItems, List.flatMap_append, List.flatMap_append, hjoined, hfields]
  rfl

/-! ## Slots in a row -/

/-- The slots of columns that stand one after the other from a place on. -/
def slotsFrom (start : Nat) (key : String → String) (names : List String) : List Slot :=
  (names.zipIdx start).map fun entry => ⟨entry.2, key entry.1⟩

/-- Columns that all have keys fill the slots from their place on, under whatever names they stand in
the answer. -/
theorem filterMap_zipIdx_map (given : String → String) {key? : String → Option String}
    {key : String → String} {names : List String}
    (hkey : ∀ name ∈ names, key? (given name) = some (key name)) (start : Nat) :
    (((names.map given).zipIdx start).filterMap fun entry =>
      (key? entry.1).map fun key => ⟨entry.2, key⟩) = slotsFrom start key names := by
  rw [List.zipIdx_map, List.filterMap_map, slotsFrom, ← List.filterMap_eq_map']
  refine List.filterMap_congr fun entry hentry => ?_
  have hname := hkey entry.1 (List.fst_mem_of_mem_zipIdx hentry)
  exact congrArg (Option.map fun key => (⟨entry.2, key⟩ : Slot)) hname

/-- Columns that all have keys fill the slots from their place on. -/
theorem filterMap_zipIdx_eq_slotsFrom {key? : String → Option String} {key : String → String}
    {names : List String} (hkey : ∀ name ∈ names, key? name = some (key name)) (start : Nat) :
    ((names.zipIdx start).filterMap fun entry => (key? entry.1).map fun key => ⟨entry.2, key⟩) =
      slotsFrom start key names := by
  have hplain := filterMap_zipIdx_map id hkey start
  rwa [List.map_id] at hplain

/-- Columns without keys fill no slots. -/
theorem filterMap_zipIdx_eq_nil {key? : String → Option String} {names : List String}
    (hkey : ∀ name ∈ names, key? name = none) (start : Nat) :
    ((names.zipIdx start).filterMap fun entry =>
      (key? entry.1).map fun key => (⟨entry.2, key⟩ : Slot)) = [] := by
  refine List.filterMap_eq_nil_iff.mpr fun entry hentry => ?_
  rw [hkey entry.1 (List.fst_mem_of_mem_zipIdx hentry), Option.map_none]

theorem length_columnAliases (inclusions : List Inclusion) :
    (inclusions.flatMap fun i => i.columnNames.map i.columnAlias).length =
      (inclusions.flatMap Inclusion.columnNames).length := by
  simp only [List.length_flatMap, List.length_map]

/-- The columns of the queried table have the first slots, and the computed fields the last. -/
theorem baseSlots_of_told (ht : Told s.inclusions h) :
    baseSlots s (h.names s.inclusions) = slotsFrom 0 (baseKey s.computed) h.before ++
      slotsFrom (h.before.length + (s.inclusions.flatMap Inclusion.columnNames).length)
        (baseKey s.computed) h.after := by
  have hown {name : String} (hname : name ∈ h.own) := ht.ownKey?_own hname
  rw [baseSlots_eq, slotsWhere, Heading.names, List.zipIdx_append, List.zipIdx_append,
    List.filterMap_append, List.filterMap_append,
    filterMap_zipIdx_eq_slotsFrom fun name hname => hown (List.mem_append_left _ hname),
    filterMap_zipIdx_eq_slotsFrom fun name hname => hown (List.mem_append_right _ hname),
    filterMap_zipIdx_eq_nil ?_, List.append_nil, List.length_append, length_columnAliases,
    Nat.zero_add]
  intro name hname
  obtain ⟨i, hi, hname⟩ := List.mem_flatMap.mp hname
  obtain ⟨column, hcolumn, rfl⟩ := List.mem_map.mp hname
  exact ht.ownKey?_joined hi hcolumn

/-- The columns of a joined table have the slots behind the queried table and the joined tables before
it. -/
theorem joinedSlots_of_told (ht : Told s.inclusions h) (hnodup : (aliases s.inclusions).Nodup)
    (hs : s.inclusions = first ++ i :: rest) :
    joinedSlots s (h.names s.inclusions) i.aliasName =
      slotsFrom (h.before.length + (first.flatMap Inclusion.columnNames).length) fieldName
        i.columnNames := by
  have hi : i ∈ s.inclusions := hs ▸ List.mem_append_right _ List.mem_cons_self
  have hown {name : String} (hname : name ∈ h.own) : joinedKey? s i.aliasName name = none :=
    ht.joinedKey?_own hname
  have hjoined : ∀ column ∈ i.columnNames,
      joinedKey? s i.aliasName (i.columnAlias column) = some (fieldName column) := by
    intro column hcolumn
    rw [ht.joinedKey?_joined hi hcolumn, if_pos rfl]
  have hother {others : List Inclusion} (hsub : others ⊆ s.inclusions) (hnot : i ∉ others) :
      ∀ name ∈ others.flatMap fun j => j.columnNames.map j.columnAlias,
        joinedKey? s i.aliasName name = none := by
    intro name hname
    obtain ⟨j, hj, hname⟩ := List.mem_flatMap.mp hname
    obtain ⟨column, hcolumn, rfl⟩ := List.mem_map.mp hname
    exact ht.joinedKey?_other hnodup hi (hsub hj) (ne_of_mem_of_not_mem hj hnot) hcolumn
  have hapart : i ∉ first ++ rest := by
    have hinclusions : (first ++ i :: rest).Nodup := hs ▸ hnodup.of_map _
    exact (List.nodup_cons.mp (List.nodup_middle.mp hinclusions)).1
  rw [List.mem_append, not_or] at hapart
  have hfirst := hother (hs ▸ List.subset_append_left _ _) hapart.1
  have hrest := hother (hs ▸ fun j hj => List.mem_append_right _ (List.mem_cons_of_mem _ hj)) hapart.2
  rw [joinedSlots_eq, slotsWhere, Heading.names, hs, List.flatMap_append, List.flatMap_cons,
    List.zipIdx_append, List.zipIdx_append, List.zipIdx_append, List.zipIdx_append,
    List.filterMap_append, List.filterMap_append, List.filterMap_append, List.filterMap_append,
    filterMap_zipIdx_eq_nil fun name hname => hown (List.mem_append_left _ hname),
    filterMap_zipIdx_eq_nil fun name hname => hown (List.mem_append_right _ hname),
    filterMap_zipIdx_eq_nil hfirst, filterMap_zipIdx_eq_nil hrest, filterMap_zipIdx_map _ hjoined,
    List.nil_append, List.nil_append, List.append_nil, List.append_nil, length_columnAliases,
    Nat.zero_add]

/-! ## Slots of a read -/

theorem map_index_slotsFrom (start : Nat) (key : String → String) (names : List String) :
    (slotsFrom start key names).map (·.index) = List.range' start names.length := by
  rw [slotsFrom, List.map_map]
  exact List.zipIdx_map_snd start names

/-- Slots at the same places are the same if their keys are. -/
theorem slotsFrom_inj {start : Nat} {key key' : String → String} {names : List String} :
    slotsFrom start key names = slotsFrom start key' names ↔
      ∀ name ∈ names, key name = key' name := by
  rw [slotsFrom, slotsFrom, List.map_inj_left]
  constructor
  · intro h name hname
    obtain ⟨k, hk⟩ := List.getElem?_of_mem hname
    have hentry : (name, start + k) ∈ names.zipIdx start :=
      List.mk_add_mem_zipIdx_iff_getElem?.mpr hk
    exact congrArg Slot.key (h _ hentry)
  · intro h entry hentry
    rw [h entry.1 (List.fst_mem_of_mem_zipIdx hentry)]

/-- The columns in the answer to a read that finds rows are told to belong to their tables, unless one
of the queried table is named like a column of a joined table. -/
theorem told_of_planFind (hplan : planFind c q = .ok r)
    (apart : ∀ name ∈ ownNames answer c q ++ r.computed, ∀ i ∈ r.inclusions,
      ¬ (i.aliasName ++ "__").toList <+: name.toList) :
    Told r.inclusions ⟨ownNames answer c q, r.computed⟩ ∧ (aliases r.inclusions).Nodup := by
  obtain ⟨joins, computed, joined, parts, -, -, hinclusions⟩ := exists_of_planFind hplan
  have hnumbered : ∀ i ∈ r.inclusions, ∃ n, i.aliasName = tableAlias n := by
    intro i hi
    rw [hinclusions] at hi
    obtain ⟨join, hjoin, rfl⟩ := List.mem_map.mp hi
    exact ⟨_, (traced_of_planJoins parts.planned join hjoin).aliasName⟩
  have hnodup : (aliases r.inclusions).Nodup := by
    obtain rfl := eq_number_of_planJoins parts.planned
    obtain ⟨paths, hbreadth⟩ :=
      breadthFirst_number c (findBase c q) (q.selection.getD {})
    rw [aliases, hinclusions, List.map_map]
    exact (List.nodup_cons.mp hbreadth.nodup_aliases).2
  refine ⟨told_of_numbered hnumbered hnodup fun name hname i hi => ?_, hnodup⟩
  rw [Option.eq_none_iff_forall_ne_some]
  intro column hcolumn
  refine apart name hname i hi ?_
  rw [← columnOf?_eq_some_iff.mp hcolumn, Inclusion.aliasOf]
  exact ⟨column.toList, String.toList_append.symm⟩

/-- A read that finds rows gives its tables their own columns back, unless a column or a computed field
of the queried table is named like a column of a joined table. The columns of a joined table have the
slots behind the queried table and the tables before it, under the names of their fields. Those of
the queried table have the first slots, and the computed fields the last. They have the keys that
they should have if and only if no column is named like a computed field, or has that name as the key
anyway. -/
theorem slots_of_planFind (hplan : planFind c q = .ok r)
    (known : ∀ i ∈ r.inclusions, i.columns.isSome)
    (apart : ∀ name ∈ ownNames answer c q ++ r.computed, ∀ i ∈ r.inclusions,
      ¬ (i.aliasName ++ "__").toList <+: name.toList) (d : Dialect) :
    (∀ first i rest, r.inclusions = first ++ i :: rest →
      joinedSlots (r.statement d) (r.outputs answer) i.aliasName =
        slotsFrom
          ((ownNames answer c q).length + (first.flatMap Inclusion.columnNames).length) fieldName
          i.columnNames) ∧
    (baseSlots (r.statement d) (r.outputs answer)).map (·.index) =
      List.range (ownNames answer c q).length ++
        List.range' ((ownNames answer c q).length +
          (r.inclusions.flatMap Inclusion.columnNames).length) r.computed.length ∧
    (baseSlots (r.statement d) (r.outputs answer) =
        slotsFrom 0 fieldName (ownNames answer c q) ++
          slotsFrom ((ownNames answer c q).length +
            (r.inclusions.flatMap Inclusion.columnNames).length) id r.computed ↔
      ∀ name ∈ ownNames answer c q, name ∈ r.computed → fieldName name = name) := by
  obtain ⟨htold, hnodup⟩ := told_of_planFind hplan apart
  have hbase : baseSlots (r.statement d) (r.outputs answer) =
      slotsFrom 0 (baseKey r.computed) (ownNames answer c q) ++
        slotsFrom ((ownNames answer c q).length +
          (r.inclusions.flatMap Inclusion.columnNames).length) id r.computed := by
    have hcomputed (start : Nat) :
        slotsFrom start (baseKey r.computed) r.computed = slotsFrom start id r.computed :=
      slotsFrom_inj.mpr fun name hname => if_pos (List.contains_iff_mem.mpr hname)
    rw [names_of_planFind hplan known, ← hcomputed]
    exact baseSlots_of_told (s := r.statement d) htold
  refine ⟨fun first i rest hs => ?_, ?_, ?_⟩
  · rw [names_of_planFind hplan known]
    exact joinedSlots_of_told (s := r.statement d) htold hnodup hs
  · rw [hbase, List.map_append, map_index_slotsFrom, map_index_slotsFrom, List.range_eq_range']
  · rw [hbase, List.append_left_inj, slotsFrom_inj]
    refine forall₂_congr fun name _ => ?_
    rw [baseKey]
    by_cases hname : name ∈ r.computed
    · simp only [List.contains_iff_mem.mpr hname, if_true, hname, true_imp_iff, eq_comm]
    · simp [hname]

/-- Users with an id and a column that looks like one of a tenth join, in front of their posts. -/
theorem slots_findUsers :
    planFind blog (findUsers {}) = .ok (usersRead [.everythingOf "t0"]) ∧
      joinedSlots ((usersRead [.everythingOf "t0"]).statement .postgres)
          ["id", "t10__name", "t1__id", "t1__owner_id"] "t1" = [⟨2, "id"⟩, ⟨3, "ownerId"⟩] ∧
      baseSlots ((usersRead [.everythingOf "t0"]).statement .postgres)
          ["id", "t10__name", "t1__id", "t1__owner_id"] = [⟨0, "id"⟩, ⟨1, "t10Name"⟩] := by
  have hplan : planFind blog (findUsers {}) = .ok (usersRead [.everythingOf "t0"]) := by
    with_unfolding_all rfl
  have hown : ownNames (fun _ => ["id", "t10__name"]) blog (findUsers {}) =
      ["id", "t10__name"] := by with_unfolding_all rfl
  have houtputs : (usersRead [.everythingOf "t0"]).outputs (fun _ => ["id", "t10__name"]) =
      ["id", "t10__name", "t1__id", "t1__owner_id"] := rfl
  have hknown : ∀ i ∈ (usersRead [.everythingOf "t0"]).inclusions, i.columns.isSome := by decide
  have hapart : ∀ name ∈ ownNames (fun _ => ["id", "t10__name"]) blog (findUsers {}) ++
      (usersRead [.everythingOf "t0"]).computed,
      ∀ i ∈ (usersRead [.everythingOf "t0"]).inclusions,
        ¬ (i.aliasName ++ "__").toList <+: name.toList := by
    rw [hown]
    decide
  obtain ⟨hjoined, -, hbase⟩ := slots_of_planFind hplan hknown hapart .postgres
  rw [hown, houtputs] at hbase
  have hposts := hjoined [] postsJoin.inclusion [] rfl
  rw [hown, houtputs] at hposts
  refine ⟨hplan, hposts.trans (by with_unfolding_all rfl),
    (hbase.mpr ?_).trans (by with_unfolding_all rfl)⟩
  intro name _ hname
  cases hname

/-- Users with the number of their posts in a column, and posts. -/
def tallies : Context where
  schema := ⟨[
    ("User",
      { name := "User", table := "users"
        fields := [("id", ⟨"id", "id", .int, true⟩),
          ("postCount", ⟨"postCount", "post_count", .int, false⟩)]
        relations := [("posts", postsRelation)] }),
    ("Post",
      { name := "Post", table := "posts"
        fields := [("id", ⟨"id", "id", .int, true⟩),
          ("ownerId", ⟨"ownerId", "owner_id", .int, false⟩)] })]⟩

/-- Finds users with their posts, and counts all posts under the name of the column. -/
def findTallies : Query :=
  findUsers { computed := [("post_count", { op := .count, table := "posts" })] }

/-- The read of users, their posts and the number of all posts. -/
def talliesRead : Read where
  select :=
    { items := (usersRead [.everythingOf "t0"]).select.items ++
        [.scalar ⟨.rows, "posts", [], [], false⟩ "post_count"]
      base := .table ⟨"users", some "t0"⟩
      joins := (usersRead []).select.joins }
  computed := ["post_count"]
  inclusions := [postsJoin.inclusion]

/-- A column of the queried table that has the name of a computed field is taken for one: it keeps its
name, and its value is lost. -/
theorem baseSlots_findTallies :
    planFind tallies findTallies = .ok talliesRead ∧
      ownNames (fun _ => ["id", "post_count"]) tallies findTallies = ["id", "post_count"] ∧
      talliesRead.outputs (fun _ => ["id", "post_count"]) =
        ["id", "post_count", "t1__id", "t1__owner_id", "post_count"] ∧
      (∀ i ∈ talliesRead.inclusions, i.columns.isSome) ∧
      (∀ name ∈ ["id", "post_count"] ++ talliesRead.computed, ∀ i ∈ talliesRead.inclusions,
        ¬ (i.aliasName ++ "__").toList <+: name.toList) ∧
      baseSlots (talliesRead.statement .postgres)
          ["id", "post_count", "t1__id", "t1__owner_id", "post_count"] ≠
        slotsFrom 0 fieldName ["id", "post_count"] ++ slotsFrom 4 id talliesRead.computed ∧
      records (talliesRead.statement .postgres)
          ⟨["id", "post_count", "t1__id", "t1__owner_id", "post_count"], [],
            [[.int 1, .int 9, .int 7, .int 1, .int 2]], none⟩ =
        [[("id", .int 1), ("post_count", .int 2),
          ("posts", .list [.object [("id", .int 7), ("ownerId", .int 1)]])]] := by
  refine ⟨by with_unfolding_all rfl, by with_unfolding_all rfl, rfl, by decide, by decide, ?_,
    by with_unfolding_all rfl⟩
  have hslots : baseSlots (talliesRead.statement .postgres)
      ["id", "post_count", "t1__id", "t1__owner_id", "post_count"] =
        [⟨0, "id"⟩, ⟨1, "post_count"⟩, ⟨4, "post_count"⟩] := by with_unfolding_all rfl
  have hclaimed : slotsFrom 0 fieldName ["id", "post_count"] ++
      slotsFrom 4 id talliesRead.computed =
        [⟨0, "id"⟩, ⟨1, "postCount"⟩, ⟨4, "post_count"⟩] := by with_unfolding_all rfl
  rw [hslots, hclaimed]
  decide

end Execute

end RelationalQuery

import RelationalQuery.Proofs.Compile.Selected
import RelationalQuery.Proofs.Execute.Grouping

/-!
# Rows and their ids

Folding takes rows for the same row of a table if they agree in its selected columns, and for no row
if these are all null. `keepsApart_iff` says when that respects the ids of rows: if and only if the id
is among the columns. `keepsApart_of_planFind` says of which tables of a compiled read this is true:
of those whose id the query asks for.

A query that names columns without the id has its rows merged where they agree in these: see
`records_namesakes`.
-/

namespace RelationalQuery.Execute

open Compile Sql

/-! ## Ids among the columns -/

/-- Whether folding by some columns respects the ids of rows: the rows of a group have the id of its
first row, whose cells become the record; no row is left out of the groups; and a row with an id is
not taken for a missing one. -/
structure KeepsApart (slots : List Slot) (idOf : Row → Value) : Prop where
  merged : ∀ rows, ∀ group ∈ groupRows slots rows, ∃ first others, group.rows = first :: others ∧
    group.cells = cells slots first ∧ ∀ row ∈ others, Value.same (idOf first) (idOf row) = true
  grouped : ∀ rows, ((groupRows slots rows).flatMap (·.rows)).Perm rows
  present : ∀ rows, ∀ row ∈ rows, (idOf row).isNull = false → row ∈ presentRows slots rows

/-- The cell of a row at a place. -/
def cellAt (k : Nat) (row : Row) : Value := row[k]?.getD .null

variable {slots : List Slot} {slot : Slot} {k : Nat} {a b : Row}

/-- Rows that agree in some columns agree in each of them. -/
theorem same_cellAt_of_sameCells (h : sameCells (cells slots a) (cells slots b) = true)
    (hslot : slot ∈ slots) : Value.same (cellAt slot.index a) (cellAt slot.index b) = true := by
  induction slots with
  | nil => exact absurd hslot List.not_mem_nil
  | cons first rest ih =>
    rw [sameCells, cells, cells, List.map_cons, List.map_cons, Value.sameItems,
      Bool.and_eq_true] at h
    obtain rfl | hslot := List.mem_cons.1 hslot
    · exact h.1
    · exact ih h.2 hslot

/-- A place that is none of the columns' does not count in a row that has nothing else. -/
theorem cells_eq_null (h : ∀ slot ∈ slots, slot.index ≠ k) (value : Value) :
    ∀ cell ∈ cells slots (List.replicate k .null ++ [value]), cell = .null := by
  intro cell hcell
  obtain ⟨slot, hslot, rfl⟩ := List.mem_map.1 hcell
  have hne := h slot hslot
  rw [List.getElem?_append, List.length_replicate]
  split
  · next hlt => rw [List.getElem?_replicate_of_lt hlt, Option.getD_some]
  · next hge =>
    have hout : [value].length ≤ slot.index - k := by
      rw [List.length_singleton]
      omega
    rw [List.getElem?_eq_none hout, Option.getD_none]

/-- Folding by some columns respects ids if and only if the id is one of the columns. -/
theorem keepsApart_iff : KeepsApart slots (cellAt k) ↔ ∃ slot ∈ slots, slot.index = k := by
  constructor
  · intro h
    by_contra hnone
    have hother : ∀ slot ∈ slots, slot.index ≠ k := fun slot hslot heq => hnone ⟨slot, hslot, heq⟩
    -- a row that has an id and nothing else is taken for a missing one
    have hid : cellAt k (List.replicate k .null ++ [.bool true]) = .bool true := by
      rw [cellAt, List.getElem?_append_right (by simp), List.length_replicate, Nat.sub_self,
        List.getElem?_cons_zero, Option.getD_some]
    have hpresent := h.present [List.replicate k .null ++ [.bool true]] _ List.mem_cons_self
      (by rw [hid]; rfl)
    obtain ⟨cell, hcell, hsome⟩ := List.any_eq_true.1 (List.mem_filter.1 hpresent).2
    rw [cells_eq_null hother _ cell hcell] at hsome
    cases hsome
  · rintro ⟨slot, hslot, rfl⟩
    refine ⟨?_, perm_flatMap_groupRows slots, ?_⟩
    · intro rows group hgroup
      obtain ⟨first, others, hrows, hcells, hothers⟩ := agrees_of_mem_groupRows slots rows group hgroup
      rw [hcells] at hothers
      exact ⟨first, others, hrows, hcells,
        fun row hrow => same_cellAt_of_sameCells (hothers row hrow) hslot⟩
    · intro rows row hrow hid
      refine List.mem_filter.2 ⟨hrow, List.any_eq_true.2 ⟨_, List.mem_map_of_mem hslot, ?_⟩⟩
      rw [Bool.not_eq_true']
      exact hid

/-! ## Names of joined columns -/

/-- The columns of tables with different numbers have different names. -/
theorem aliasOf_tableAlias_inj {m n : Nat} {first second : String}
    (h : Inclusion.aliasOf (tableAlias m) first = Inclusion.aliasOf (tableAlias n) second) :
    m = n ∧ first = second := by
  have hchars : ∀ (n : Nat) (column : String), (Inclusion.aliasOf (tableAlias n) column).toList =
      't' :: ((toString n).toList ++ ('_' :: '_' :: column.toList)) := by
    intro n column
    rw [Inclusion.aliasOf, show tableAlias n = "t" ++ toString n from rfl]
    simp only [String.toList_append, List.append_assoc]
    rfl
  have htail := List.cons_inj_right _ |>.1 ((hchars m first).symm.trans
    ((congrArg String.toList h).trans (hchars n second)))
  have hread : ∀ (n : Nat) (column : String),
      leadingNumber ((toString n).toList ++ ('_' :: '_' :: column.toList)) = n :=
    fun n column => leadingNumber_toString n rfl
  obtain rfl : m = n := by rw [← hread m first, htail, hread]
  refine ⟨rfl, ?_⟩
  rw [← String.toList_inj]
  simpa using htail

variable {inclusions : List Inclusion} {i : Inclusion}

/-- No table with a numbered alias claims the columns of another one. -/
theorem aliasName_eq_of_columnOf? {j : Inclusion} {column other : String}
    (hnumbered : ∀ i ∈ inclusions, ∃ n, i.aliasName = tableAlias n) (hi : i ∈ inclusions)
    (hj : j ∈ inclusions) (h : columnOf? j.aliasName (i.columnAlias column) = some other) :
    j.aliasName = i.aliasName ∧ other = column := by
  obtain ⟨m, hm⟩ := hnumbered i hi
  obtain ⟨n, hn⟩ := hnumbered j hj
  have hnames := columnOf?_eq_some_iff.1 h
  rw [hn, Inclusion.columnAlias, hm] at hnames
  obtain ⟨rfl, rfl⟩ := aliasOf_tableAlias_inj hnames
  exact ⟨hn.trans hm.symm, rfl⟩

/-- Columns of tables with numbered aliases are told to belong to these tables. -/
theorem owner?_of_numbered (hnumbered : ∀ i ∈ inclusions, ∃ n, i.aliasName = tableAlias n)
    (hi : i ∈ inclusions) (column : String) :
    owner? inclusions (i.columnAlias column) = some (i.aliasName, column) :=
  owner?_columnAlias hi fun _ hj _ hother => aliasName_eq_of_columnOf? hnumbered hi hj hother

/-- With numbered aliases, columns are told apart unless a column of the queried table is named like
one of a joined table. -/
theorem told_of_numbered {h : Heading}
    (hnumbered : ∀ i ∈ inclusions, ∃ n, i.aliasName = tableAlias n)
    (hnodup : (aliases inclusions).Nodup)
    (hown : ∀ name ∈ h.own, ∀ i ∈ inclusions, columnOf? i.aliasName name = none) :
    Told inclusions h where
  own := hown
  joined := by
    intro i hi j hj hne column _
    rw [Option.eq_none_iff_forall_ne_some]
    intro other hother
    have halias := (aliasName_eq_of_columnOf? hnumbered hi hj hother).1
    exact hne (List.inj_on_of_nodup_map hnodup hj hi halias)

/-! ## Columns of an answer -/

/-- Whether an answer has the columns that an item selects, where tables have certain columns. -/
def Answers (columnsOf : String → List String) (names : List String) : Item → Prop
  | .column column => column.name ∈ names
  | .aliased _ aliasName => aliasName ∈ names
  | .everythingOf table => columnsOf table ⊆ names
  | _ => True

variable {s : Statement} {names : List String} {name : String}

/-- A name stands at its index. -/
theorem mem_zipIdx_idxOf (h : name ∈ names) : (name, names.idxOf name) ∈ names.zipIdx :=
  List.mem_zipIdx_iff_getElem?.2 (List.getElem?_idxOf h)

/-- Folding the queried table respects ids if the id is among its columns. -/
theorem keepsApart_baseSlots (hname : name ∈ names) (howner : owner? s.inclusions name = none) :
    KeepsApart (baseSlots s names) (cellAt (names.idxOf name)) := by
  rw [keepsApart_iff, baseSlots_eq]
  refine ⟨⟨names.idxOf name, baseKey s.computed name⟩, ?_, rfl⟩
  refine List.mem_filterMap.2 ⟨_, mem_zipIdx_idxOf hname, ?_⟩
  rw [ownKey?, howner]
  rfl

/-- Folding a joined table respects ids if the id is among its columns. -/
theorem keepsApart_joinedSlots {aliasName column : String} (hname : name ∈ names)
    (howner : owner? s.inclusions name = some (aliasName, column)) :
    KeepsApart (joinedSlots s names aliasName) (cellAt (names.idxOf name)) := by
  rw [keepsApart_iff, joinedSlots_eq]
  refine ⟨⟨names.idxOf name, fieldName column⟩, ?_, rfl⟩
  refine List.mem_filterMap.2 ⟨_, mem_zipIdx_idxOf hname, ?_⟩
  rw [joinedKey?, howner, Option.bind_some, if_pos rfl, Option.map_some]

variable {c : Context} {q : Query} {r : Read} {columnsOf : String → List String}

/-- A selected column of the queried table is in the answer. -/
theorem mem_names_of_selectsOwn {column : String} (h : SelectsOwn r column)
    (hcolumn : column ∈ columnsOf baseAlias)
    (hnames : ∀ item ∈ r.select.items, Answers columnsOf names item) : column ∈ names := by
  obtain h | h := h
  · exact hnames _ h hcolumn
  · exact hnames _ h

/-- A selected column of a joined table is in the answer. -/
theorem mem_names_of_hasColumn {join : PlannedJoin} {column : String}
    (h : HasColumn join.inclusion.columns column)
    (hnames : ∀ item ∈ joinedItems join, Answers columnsOf names item) :
    Inclusion.aliasOf join.row.name column ∈ names := by
  obtain ⟨known, hknown, hcolumn⟩ := h
  rw [joinedItems, hknown] at hnames
  exact hnames _ (List.mem_map_of_mem hcolumn)

/-- In a read with inclusions the id of a table occurrence is among the columns by which its rows are
told apart if and only if the query asks for it, for the queried table and for every joined one. And
where it is, folding respects it. -/
theorem keepsApart_of_planFind (hids : c.schema.DeclaresIds) (h : planFind c q = .ok r)
    (hinclusions : r.inclusions ≠ []) (d : Dialect)
    (hnames : ∀ item ∈ r.select.items, Answers columnsOf names item) :
    ((SelectsOwn r (c.schema.idColumn q.model) ↔ AsksForOwnId c.schema q) ∧
      (AsksForOwnId c.schema q → c.schema.idColumn q.model ∈ columnsOf baseAlias →
        owner? r.inclusions (c.schema.idColumn q.model) = none →
        KeepsApart (baseSlots (r.statement d) names)
          (cellAt (names.idxOf (c.schema.idColumn q.model))))) ∧
    ∃ joins, planJoins c (findBase c q) (q.selection.getD {}) = .ok joins ∧
      r.inclusions = joins.map (·.inclusion) ∧
      ∀ join ∈ joins, ∃ below,
        Reached c.schema q.model (q.selection.getD {}) join.row.model below ∧
        (HasColumn join.inclusion.columns (c.schema.idColumn join.row.model) ↔
          AsksForId c.schema join.row.model below) ∧
        (AsksForId c.schema join.row.model below →
          KeepsApart (joinedSlots (r.statement d) names join.inclusion.aliasName)
            (cellAt (names.idxOf
              (join.inclusion.columnAlias (c.schema.idColumn join.row.model))))) := by
  obtain ⟨joins, computed, joined, parts, hitems, -, hjoins⟩ := exists_of_planFind h
  refine ⟨⟨selectsOwn_idColumn_iff h hinclusions, ?_⟩, joins, parts.planned, hjoins, ?_⟩
  · intro hasks hcolumn howner
    have hselects := (selectsOwn_idColumn_iff h hinclusions).2 hasks
    exact keepsApart_baseSlots (mem_names_of_selectsOwn hselects hcolumn hnames) howner
  · intro join hjoin
    have htraced := traced_of_planJoins parts.planned
    rw [model_findBase] at htraced
    obtain ⟨below, hreached, hcolumns⟩ := (htraced join hjoin).columns
    have hiff : HasColumn join.inclusion.columns (c.schema.idColumn join.row.model) ↔
        AsksForId c.schema join.row.model below := by
      rw [hcolumns]
      exact hasId_selectedColumns_iff hids
    refine ⟨below, hreached, hiff, ?_⟩
    intro hasks
    have hitem : ∀ item ∈ joinedItems join, Answers columnsOf names item := by
      intro item hitem
      refine hnames item ?_
      rw [hitems, findItems]
      refine List.mem_append_left _ (List.mem_append_right _ ?_)
      exact List.mem_flatMap.2 ⟨join, hjoin, hitem⟩
    have hname := mem_names_of_hasColumn (hiff.2 hasks) hitem
    rw [(htraced join hjoin).row, ← (htraced join hjoin).aliasName] at hname
    refine keepsApart_joinedSlots hname (owner?_of_numbered ?_ ?_ _)
    · intro i hi
      obtain ⟨other, hother, rfl⟩ := List.mem_map.1 ((congrArg (i ∈ ·) hjoins).mp hi)
      exact ⟨_, (htraced other hother).aliasName⟩
    · exact (congrArg (join.inclusion ∈ ·) hjoins).mpr (List.mem_map_of_mem hjoin)

/-! ## Users of one name -/

/-- The relation of users to their posts. -/
def postsRelation : Relation where
  name := "posts"
  cardinality := .oneToMany
  target := "Post"
  foreignKey := "ownerId"

/-- Users and posts. -/
def blog : Context where
  schema := ⟨[
    ("User",
      { name := "User", table := "users"
        fields := [("id", ⟨"id", "id", .int, true⟩), ("name", ⟨"name", "name", .string, false⟩)]
        relations := [("posts", postsRelation)] }),
    ("Post",
      { name := "Post", table := "posts"
        fields := [("id", ⟨"id", "id", .int, true⟩),
          ("ownerId", ⟨"ownerId", "owner_id", .int, false⟩)] })]⟩

/-- Finds users with their posts. -/
def findUsers (arguments : Arguments) : Query where
  model := "User"
  action := .findMany
  arguments
  selection := some { fields := [("posts", .flag true)] }

/-- The join of the posts. -/
def postsJoin : PlannedJoin where
  number := 1
  parent := ⟨"User", ⟨"users", some "t0"⟩⟩
  row := ⟨"Post", ⟨"posts", some "t1"⟩⟩
  relation := postsRelation
  filter := none
  inclusion := ⟨"posts", "t1", "t0", true, some ["id", "owner_id"]⟩

/-- The read that selects some items of users, and their posts. -/
def usersRead (items : List Item) : Read where
  select :=
    { items := items ++ [.aliased ⟨some "t1", "id"⟩ "t1__id",
        .aliased ⟨some "t1", "owner_id"⟩ "t1__owner_id"]
      base := .table ⟨"users", some "t0"⟩
      joins := [⟨[(⟨"posts", some "t1"⟩, ⟨some "t1", "owner_id"⟩, ⟨some "t0", "id"⟩)], []⟩] }
  inclusions := [postsJoin.inclusion]

/-- Users with all columns are told apart by their ids, and so are their posts. -/
theorem keepsApart_findUsers :
    blog.schema.DeclaresIds ∧
      planFind blog (findUsers {}) = .ok (usersRead [.everythingOf "t0"]) ∧
      KeepsApart (baseSlots ((usersRead [.everythingOf "t0"]).statement .postgres)
        ["id", "name", "t1__id", "t1__owner_id"]) (cellAt 0) ∧
      KeepsApart (joinedSlots ((usersRead [.everythingOf "t0"]).statement .postgres)
        ["id", "name", "t1__id", "t1__owner_id"] "t1") (cellAt 2) := by
  have hids : blog.schema.DeclaresIds := by decide
  have hplan : planFind blog (findUsers {}) = .ok (usersRead [.everythingOf "t0"]) := by
    with_unfolding_all rfl
  have hnames : ∀ item ∈ (usersRead [.everythingOf "t0"]).select.items,
      Answers (fun _ => ["id", "name"]) ["id", "name", "t1__id", "t1__owner_id"] item := by
    simp [usersRead, Answers]
  obtain ⟨⟨-, hown⟩, joins, hplanned, -, hjoined⟩ :=
    keepsApart_of_planFind hids hplan (List.cons_ne_nil _ _) .postgres hnames
  have hjoins : planJoins blog (findBase blog (findUsers {})) ((findUsers {}).selection.getD {}) =
      .ok [postsJoin] := by with_unfolding_all rfl
  obtain rfl := Except.ok.inj (hjoins.symm.trans hplanned)
  refine ⟨hids, hplan, hown ?_ (by decide) (by decide), ?_⟩
  · intro fields hfields
    cases hfields
  · obtain ⟨below, -, hiff, hkeeps⟩ := hjoined postsJoin List.mem_cons_self
    exact hkeeps (hiff.1 ⟨_, rfl, by decide⟩)

/-- Two users of one name are folded into one record if only their names are asked for: the posts of
both, which have different owners, end in it. -/
theorem records_namesakes :
    blog.schema.DeclaresIds ∧
      planFind blog (findUsers { selectFields := ["name"] }) =
        .ok (usersRead [.column ⟨some "t0", "name"⟩]) ∧
      ¬ SelectsOwn (usersRead [.column ⟨some "t0", "name"⟩]) (blog.schema.idColumn "User") ∧
      records ((usersRead [.column ⟨some "t0", "name"⟩]).statement .postgres)
          ⟨["name", "t1__id", "t1__owner_id"], [],
            [[.text "Ann", .int 7, .int 1], [.text "Ann", .int 8, .int 2]], none⟩ =
        [[("name", .text "Ann"),
          ("posts", .list [.object [("id", .int 7), ("ownerId", .int 1)],
            .object [("id", .int 8), ("ownerId", .int 2)]])]] := by
  refine ⟨by decide, by with_unfolding_all rfl, ?_, by with_unfolding_all rfl⟩
  have hid : blog.schema.idColumn "User" = "id" := rfl
  rw [hid, SelectsOwn, usersRead]
  simp

end RelationalQuery.Execute

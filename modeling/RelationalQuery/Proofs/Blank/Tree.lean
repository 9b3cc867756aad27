import RelationalQuery.Proofs.Blank.Statement
import RelationalQuery.Sql.Select
import RelationalQuery.Sql.Write

/-!
# Blank trees

The trees of statements with blank values. A tree is written as text and placeholders around its
values, so that the fragment of a blank tree is the blank fragment of the tree.
-/

namespace RelationalQuery.Sql

open Fragment

variable {d : Dialect}

/-! ## Parts without values -/

@[simp] theorem Table.blank_fragment (t : Table) : Fragment.blank t.fragment = t.fragment := by
  rw [Table.fragment]
  cases t.aliasName <;> rfl

@[simp] theorem Column.blank_fragment (c : Column) : Fragment.blank c.fragment = c.fragment := by
  rw [Column.fragment]
  cases c.table <;> rfl

@[simp] theorem Column.blank_equation (left right : Column) :
    Fragment.blank (Column.equation left right) = Column.equation left right := by
  rw [Column.equation, blank_append, blank_append, blank_ofText, left.blank_fragment,
    right.blank_fragment]

@[simp] theorem Source.blank_fragment (s : Source) : Fragment.blank s.fragment = s.fragment := by
  cases s with
  | single table => exact table.blank_fragment
  | linked junction target left right => simp [Source.fragment]

@[simp] theorem OrderKey.blank_fragment (key : OrderKey) :
    Fragment.blank (key.fragment d) = key.fragment d := by
  rw [OrderKey.fragment, blank_append, blank_append, blank_ofText, Column.blank_fragment]
  cases key.nulls with
  | none => rfl
  | some place =>
    dsimp only
    split <;> rfl

@[simp] theorem blank_orderFragment (keys : List OrderKey) :
    Fragment.blank (orderFragment d keys) = orderFragment d keys := by
  have hkeys : (keys.map (·.fragment d)).map Fragment.blank = keys.map (·.fragment d) := by
    rw [List.map_map]
    exact List.map_congr_left fun key _ => key.blank_fragment
  rw [orderFragment]
  split
  · rfl
  · rw [blank_append, blank_ofText, blank_join, hkeys]

@[simp] theorem blank_limitFragment (take skip : Option Int64) :
    Fragment.blank (limitFragment d take skip) = limitFragment d take skip := by
  cases take <;> cases skip <;> rfl

@[simp] theorem Projection.blank_fragment (p : Projection) :
    Fragment.blank p.fragment = p.fragment := by
  cases p with
  | rows => rfl
  | column c => exact c.blank_fragment
  | apply function c => rw [Projection.fragment, blank_wrap, c.blank_fragment]

@[simp] theorem blank_namesFragment (names : List String) :
    Fragment.blank (namesFragment names) = namesFragment names := by
  rw [namesFragment, blank_join, List.map_map]
  rfl

/-! ## Conditions -/

mutual

/-- The condition with blank values. -/
def Condition.blank : Condition → Condition
  | .isNull column negated => .isNull column negated
  | .compare column op value => .compare column op value.blank
  | .member column negated values => .member column negated (values.map Value.blank)
  | .junction all clauses => .junction all (Clause.blankAll clauses)
  | .negation clause => .negation (Clause.blank clause)
  | .subquery negated source left right conditions =>
    .subquery negated source left right (Clause.blank conditions)

/-- The clause with blank values. -/
def Clause.blank : List Condition → List Condition
  | [] => []
  | condition :: rest => condition.blank :: Clause.blank rest

/-- The clauses with blank values. -/
def Clause.blankAll : List (List Condition) → List (List Condition)
  | [] => []
  | clause :: rest => Clause.blank clause :: Clause.blankAll rest

end

@[simp] theorem Clause.blank_append (a b : Clause) :
    Clause.blank (a ++ b) = Clause.blank a ++ Clause.blank b := by
  induction a with
  | nil => rfl
  | cons condition rest ih => exact congrArg (condition.blank :: ·) ih

@[simp] theorem Clause.isEmpty_blank (clause : Clause) :
    List.isEmpty (Clause.blank clause) = List.isEmpty clause := by
  cases clause <;> rfl

/-- Conditions that hold together, with blank values. -/
theorem blank_conjunction (fs : List Fragment) :
    Fragment.blank (conjunction fs) = conjunction (fs.map Fragment.blank) := by
  cases fs with
  | nil => rfl
  | cons first rest => exact blank_join " AND " (first :: rest)

mutual

/-- A blank condition is written as the condition, with blank values. -/
theorem Condition.fragment_blank (group : ParamGroup) : ∀ condition : Condition,
    condition.blank.fragment d group = (condition.fragment d group).blank
  | .isNull column negated => by
    rw [Condition.blank, Condition.fragment, Fragment.blank_append, Column.blank_fragment,
      blank_ofText]
  | .compare column op value => by
    rw [Condition.blank, Condition.fragment, Condition.fragment, Fragment.blank_append,
      Fragment.blank_append, Column.blank_fragment, blank_ofText, blank_ofParam]
  | .member column negated values => by
    cases values with
    | nil => rfl
    | cons value values => simp [Condition.blank, Condition.fragment, Function.comp_def]
  | .junction all clauses => by
    cases clauses with
    | nil => rfl
    | cons clause clauses =>
      have hclauses : Condition.clauseFragments d group
          (Clause.blank clause :: Clause.blankAll clauses) =
          (Condition.clauseFragments d group (clause :: clauses)).map Fragment.blank :=
        Condition.clauseFragments_blank group (clause :: clauses)
      rw [Condition.blank, Clause.blankAll, Condition.fragment, Condition.fragment, blank_wrap,
        blank_join, hclauses]
      · exact List.cons_ne_nil _ _
      · exact List.cons_ne_nil _ _
  | .negation clause => by
    rw [Condition.blank, Condition.fragment, Condition.fragment, blank_wrap, blank_conjunction,
      Condition.fragments_blank group clause]
  | .subquery negated source left right conditions => by
    rw [Condition.blank, Condition.fragment, Condition.fragment, blank_wrap,
      Fragment.blank_append, Fragment.blank_append, Source.blank_fragment, blank_ofText, blank_join,
      List.map_cons, Column.blank_equation, Condition.fragments_blank group conditions]

/-- Blank conditions are written as the conditions, with blank values. -/
theorem Condition.fragments_blank (group : ParamGroup) : ∀ clause : List Condition,
    Condition.fragments d group (Clause.blank clause) =
      (Condition.fragments d group clause).map Fragment.blank
  | [] => rfl
  | condition :: rest => by
    rw [Clause.blank, Condition.fragments, Condition.fragments, List.map_cons,
      Condition.fragment_blank group condition, Condition.fragments_blank group rest]

/-- Blank clauses are written as the clauses, with blank values. -/
theorem Condition.clauseFragments_blank (group : ParamGroup) : ∀ clauses : List (List Condition),
    Condition.clauseFragments d group (Clause.blankAll clauses) =
      (Condition.clauseFragments d group clauses).map Fragment.blank
  | [] => rfl
  | clause :: rest => by
    rw [Clause.blankAll, Condition.clauseFragments, Condition.clauseFragments, List.map_cons,
      blank_wrap, blank_conjunction, Condition.fragments_blank group clause,
      Condition.clauseFragments_blank group rest]

end

theorem Clause.whereFragment_blank (clause : Clause) :
    Clause.whereFragment d (Clause.blank clause) = Fragment.blank (clause.whereFragment d) := by
  rw [Clause.whereFragment, Clause.whereFragment, Clause.isEmpty_blank]
  split
  · rfl
  · rw [Clause.fragment, Clause.fragment, Fragment.blank_append, blank_ofText, blank_conjunction,
      Condition.fragments_blank]

/-! ## Reads -/

/-- The condition of a scalar subquery with a blank value. -/
def Match.blank : Match → Match
  | outer column other => outer column other
  | value column v => value column v.blank
  | null column => null column

/-- The scalar subquery with blank values. -/
def ScalarQuery.blank (q : ScalarQuery) : ScalarQuery :=
  { q with conditions := q.conditions.map Match.blank }

/-- The item with blank values. -/
def Item.blank : Item → Item
  | filteredCount clause aliasName => filteredCount (Clause.blank clause) aliasName
  | scalar query aliasName => scalar query.blank aliasName
  | item => item

/-- The page with blank values. -/
def Page.blank (p : Page) : Page := { p with clause := Clause.blank p.clause }

/-- The rows that a read starts from, with blank values. -/
def Base.blank : Base → Base
  | table t => table t
  | page p aliasName => page p.blank aliasName

/-- The join with blank values. -/
def Join.blank (j : Join) : Join := { j with conditions := Clause.blank j.conditions }

/-- The read with blank values. -/
def Select.blank (s : Select) : Select :=
  { s with
    items := s.items.map Item.blank
    base := s.base.blank
    joins := s.joins.map Join.blank
    clause := Clause.blank s.clause }

/-- Reads look the same if their parts with values do. -/
theorem Select.blank_congr {s s' : Select} (hitems : s.items.map Item.blank = s'.items.map Item.blank)
    (hbase : s.base.blank = s'.base.blank)
    (hjoins : s.joins.map Join.blank = s'.joins.map Join.blank)
    (hclause : Clause.blank s.clause = Clause.blank s'.clause) (hgroups : s.groupBy = s'.groupBy)
    (horder : s.orderBy = s'.orderBy) (htake : s.take = s'.take) (hskip : s.skip = s'.skip) :
    s.blank = s'.blank := by
  rw [Select.blank, Select.blank, hitems, hbase, hjoins, hclause, hgroups, horder, htake, hskip]

theorem Match.fragment_blank (m : Match) : m.blank.fragment = Fragment.blank m.fragment := by
  cases m <;> simp [Match.blank, Match.fragment]

theorem ScalarQuery.fragment_blank (q : ScalarQuery) :
    q.blank.fragment d = Fragment.blank (q.fragment d) := by
  have hconditions : (q.conditions.map Match.blank).map Match.fragment =
      (q.conditions.map Match.fragment).map Fragment.blank := by
    rw [List.map_map, List.map_map]
    exact List.map_congr_left fun m _ => m.fragment_blank
  have hlimit (short : Bool) : Fragment.blank (if short then ofText " LIMIT 1" else []) =
      if short then ofText " LIMIT 1" else [] := by
    cases short <;> rfl
  rw [ScalarQuery.blank, ScalarQuery.fragment, ScalarQuery.fragment, hconditions, blank_wrap,
    blank_append, blank_append, blank_append, blank_append, blank_append, blank_ofText,
    blank_ofName, blank_orderFragment, Projection.blank_fragment, hlimit, List.isEmpty_map]
  split
  · rfl
  · rw [blank_append, blank_ofText, blank_join]

theorem Item.fragment_blank (item : Item) :
    item.blank.fragment d = Fragment.blank (item.fragment d) := by
  cases item with
  | filteredCount clause aliasName =>
    simp [Item.blank, Item.fragment, Clause.fragment, blank_conjunction, Condition.fragments_blank]
  | scalar query aliasName => simp [Item.blank, Item.fragment, query.fragment_blank]
  | _ => simp [Item.blank, Item.fragment]

theorem Page.fragment_blank (p : Page) : p.blank.fragment d = Fragment.blank (p.fragment d) := by
  simp [Page.blank, Page.fragment, Clause.whereFragment_blank]

theorem Base.fragment_blank (b : Base) : b.blank.fragment d = Fragment.blank (b.fragment d) := by
  cases b with
  | table t => exact t.blank_fragment.symm
  | page p aliasName => simp [Base.blank, Base.fragment, p.fragment_blank]

theorem Join.blank_stepFragment (step : Table × Column × Column) :
    Fragment.blank (Join.stepFragment step) = Join.stepFragment step := by
  simp [Join.stepFragment]

theorem Join.fragment_blank (j : Join) : j.blank.fragment d = Fragment.blank (j.fragment d) := by
  have hsteps : (j.steps.map Join.stepFragment).map Fragment.blank =
      j.steps.map Join.stepFragment := by
    rw [List.map_map]
    exact List.map_congr_left fun step _ => Join.blank_stepFragment step
  rw [Join.blank, Join.fragment, Join.fragment, blank_join, List.map_cons, blank_join, hsteps,
    Condition.fragments_blank]

/-- A blank read is written as the read, with blank values. -/
theorem Select.fragment_blank (s : Select) :
    s.blank.fragment d = Fragment.blank (s.fragment d) := by
  have hitems : (s.items.map Item.blank).map (·.fragment d) =
      (s.items.map (·.fragment d)).map Fragment.blank := by
    rw [List.map_map, List.map_map]
    exact List.map_congr_left fun item _ => item.fragment_blank
  have hjoins (joins : List Join) :
      (joins.map Join.blank).flatMap (fun join => ofText " " ++ join.fragment d) =
        Fragment.blank (joins.flatMap fun join => ofText " " ++ join.fragment d) := by
    induction joins with
    | nil => rfl
    | cons join rest ih =>
      rw [List.map_cons, List.flatMap_cons, List.flatMap_cons, blank_append, blank_append,
        blank_ofText, join.fragment_blank, ih]
  have hgroups : Fragment.blank (if s.groupBy.isEmpty then [] else
      ofText " GROUP BY " ++ Fragment.join ", " (s.groupBy.map Column.fragment)) =
        if s.groupBy.isEmpty then [] else
          ofText " GROUP BY " ++ Fragment.join ", " (s.groupBy.map Column.fragment) := by
    split
    · rfl
    · simp [Function.comp_def]
  rw [Select.blank, Select.fragment, Select.fragment, hitems, hjoins, Clause.whereFragment_blank,
    Base.fragment_blank]
  simp only [blank_append, blank_ofText, blank_join, hgroups, blank_orderFragment,
    blank_limitFragment]

/-! ## Writes -/

/-- Assignments of blank values. -/
def Assignments.blank (assignments : Assignments) : Assignments :=
  Dict.mapValues Value.blank assignments

/-- The reference with a blank value. -/
def Reference.blank : Reference → Reference
  | value v => value v.blank
  | lookup idColumn table column v => lookup idColumn table column v.blank

/-- The write with blank values. -/
def Write.blank : Write → Write
  | insert table row => insert table row.blank
  | insertRows table columns rows => insertRows table columns (rows.map (List.map Value.blank))
  | upsert table row conflict changes => upsert table row.blank conflict changes.blank
  | update table assignments clause returned =>
    update table assignments.blank (Clause.blank clause) returned
  | delete table clause => delete table (Clause.blank clause)
  | connect table ownColumn targetColumn own target =>
    connect table ownColumn targetColumn own.blank target.blank
  | disconnect table ownColumn targetColumn own target =>
    disconnect table ownColumn targetColumn own.blank target.blank

theorem tupleFragment_blank (values : List Value) :
    tupleFragment (values.map Value.blank) = Fragment.blank (tupleFragment values) := by
  simp [tupleFragment, Function.comp_def]

theorem insertFragment_blank (opening table : String) (row : Assignments) :
    insertFragment d opening table row.blank =
      Fragment.blank (insertFragment d opening table row) := by
  have hnames : row.blank.map Prod.fst = row.map Prod.fst := Dict.keys_mapValues Value.blank row
  have hvalues : row.blank.map Prod.snd = (row.map Prod.snd).map Value.blank := by
    rw [Assignments.blank, Dict.mapValues, List.map_map, List.map_map]
    rfl
  have hempty : row.blank.isEmpty = row.isEmpty := Dict.isEmpty_mapValues Value.blank row
  rw [insertFragment, insertFragment, hnames, hvalues, hempty, tupleFragment_blank]
  split <;> simp

theorem assignmentsFragment_blank (assignments : Assignments) :
    assignmentsFragment assignments.blank = Fragment.blank (assignmentsFragment assignments) := by
  rw [assignmentsFragment, assignmentsFragment, Assignments.blank, Dict.mapValues, blank_join,
    List.map_map, List.map_map]
  refine congrArg (Fragment.join ", ") (List.map_congr_left fun assignment _ => ?_)
  rfl

theorem Reference.fragment_blank (group : ParamGroup) (r : Reference) :
    r.blank.fragment group = Fragment.blank (r.fragment group) := by
  cases r <;> simp [Reference.blank, Reference.fragment]

theorem Write.upsertFragment_blank (table : String) (row : Assignments) (conflict : List String)
    (changes : Assignments) :
    Write.upsertFragment d table row.blank conflict changes.blank =
      Fragment.blank (Write.upsertFragment d table row conflict changes) := by
  have hempty : changes.blank.isEmpty = changes.isEmpty :=
    Dict.isEmpty_mapValues Value.blank changes
  cases d <;> simp only [Write.upsertFragment, hempty] <;> split <;>
    simp [insertFragment_blank, assignmentsFragment_blank]

@[simp] theorem Write.returnsRows_blank (w : Write) : w.blank.returnsRows d = w.returnsRows d := by
  cases w <;> rfl

theorem Write.body_blank (w : Write) : w.blank.body d = Fragment.blank (w.body d) := by
  cases w with
  | insert table row => exact insertFragment_blank "INSERT INTO" table row
  | insertRows table columns rows =>
    simp [Write.blank, Write.body, Function.comp_def, tupleFragment_blank]
  | upsert table row conflict changes => exact Write.upsertFragment_blank table row conflict changes
  | update table assignments clause returned =>
    simp [Write.blank, Write.body, assignmentsFragment_blank, Clause.whereFragment_blank]
  | delete table clause => simp [Write.blank, Write.body, Clause.whereFragment_blank]
  | connect table ownColumn targetColumn own target =>
    simp only [Write.blank, Write.body, blank_append, blank_wrap, blank_ofText, blank_ofName,
      blank_ofParam, blank_namesFragment, Reference.fragment_blank]
    cases d <;> rfl
  | disconnect table ownColumn targetColumn own target =>
    simp [Write.blank, Write.body, Reference.fragment_blank]

/-- A blank write is written as the write, with blank values. -/
theorem Write.fragment_blank (w : Write) : w.blank.fragment d = Fragment.blank (w.fragment d) := by
  rw [Write.fragment, Write.fragment, w.returnsRows_blank, w.body_blank, blank_append]
  split <;> rfl

theorem Write.statement_blank (d : Dialect) (w : Write) :
    w.blank.statement d = (w.statement d).blank := by
  rw [Write.statement, Write.statement, w.returnsRows_blank, w.fragment_blank,
    Statement.ofFragment_blank]

end RelationalQuery.Sql

import RelationalQuery.Proofs.Compile.Accepted
import RelationalQuery.Proofs.Compile.BreadthFirst
import RelationalQuery.Proofs.Compile.Capture

/-!
# Joins refer to what is declared

The tables of a read are declared one after the other: first the queried one, then those of every
join, step by step. `joins_of_lenient` says that the joins of a query are planned breadth first,
and that the condition of each of them refers to its own tables and to that of the rows which it is
joined to, all of which are declared by then.

## Shape of the conditions

A join has one equation for each of its tables, and the conditions of a filter on its rows. What
stands in subqueries of these is left out here: `Guarded` says which columns are found there.
-/

namespace RelationalQuery

open Sql

/-! ## Columns of conditions -/

namespace Sql

namespace Condition

mutual

/-- Whether all columns of a condition outside of its subqueries have a property. -/
def ColumnsAre (p : Column → Prop) : Condition → Prop
  | isNull column _ => p column
  | compare column _ _ => p column
  | member column _ _ => p column
  | junction _ clauses => ClausesColumnsAre p clauses
  | negation clause => AllColumnsAre p clause
  | subquery _ _ _ _ _ => True

/-- `ColumnsAre` for conditions. -/
def AllColumnsAre (p : Column → Prop) : List Condition → Prop
  | [] => True
  | condition :: rest => condition.ColumnsAre p ∧ AllColumnsAre p rest

/-- `ColumnsAre` for clauses. -/
def ClausesColumnsAre (p : Column → Prop) : List (List Condition) → Prop
  | [] => True
  | clause :: rest => AllColumnsAre p clause ∧ ClausesColumnsAre p rest

end

theorem allColumnsAre_append {p : Column → Prop} {a b : Clause} (ha : AllColumnsAre p a)
    (hb : AllColumnsAre p b) : AllColumnsAre p (a ++ b) := by
  induction a with
  | nil => exact hb
  | cons condition a ih => exact ⟨ha.1, ih ha.2⟩

end Condition

/-- Whether a column is named with the table that it belongs to, and the table is among some. -/
def Column.IsOf (names : List String) (column : Column) : Prop :=
  ∃ name ∈ names, column.table = some name

/-- The names that the tables of a join are declared under. -/
def Join.names (join : Join) : List String := join.steps.map fun step => step.1.reference

/-- Whether a join refers to none but some tables, and to each of these only where it is declared,
be it by what stands before the join or by the join itself. -/
structure Join.RefersTo (join : Join) (tables declared : List String) : Prop where
  steps : ∀ (i : Nat) (step : Table × Column × Column), join.steps[i]? = some step →
    ∀ column ∈ [step.2.1, step.2.2],
      column.IsOf tables ∧ column.IsOf (declared ++ join.names.take (i + 1))
  conditions : Condition.AllColumnsAre
    (fun column => column.IsOf tables ∧ column.IsOf (declared ++ join.names)) join.conditions

end Sql

namespace Compile

variable {c : Context} {q : Query} {column : Column} {field : String} {p : Column → Prop}

/-! ## Conditions on the rows of a join -/

theorem allColumnsAre_of_forall {clause : Clause}
    (h : ∀ condition ∈ clause, condition.ColumnsAre p) : Condition.AllColumnsAre p clause := by
  induction clause with
  | nil => trivial
  | cons condition clause ih =>
    rw [List.forall_mem_cons] at h
    exact ⟨h.1, ih h.2⟩

/-- Comparisons are on their own column. -/
theorem Comparative.columnsAre {condition : Condition} (hcolumn : p column)
    (h : Comparative column condition) : condition.ColumnsAre p := by
  induction h with
  | single compared => cases compared <;> exact hcolumn
  | negation parts ih => exact allColumnsAre_of_forall ih

theorem columnsAre_combined {clauses : List Clause} (h : Condition.ClausesColumnsAre p clauses)
    (connective : Connective) : Condition.AllColumnsAre p (combined connective clauses) := by
  cases connective with
  | all => exact ⟨h, trivial⟩
  | any => exact ⟨h, trivial⟩
  | not =>
    induction clauses with
    | nil => trivial
    | cons clause clauses ih => exact ⟨h.1, ih h.2⟩

mutual

/-- The conditions of a filter are on columns of its own row, but for those in subqueries. -/
theorem columnsAre_conditions (scope : Scope) (hrow : ∀ key, p (scope.row.field c key)) :
    (filter : List (String × Criterion)) → {clause : Clause} → {used after : List String} →
    conditions c scope filter used = .ok (clause, after) → Condition.AllColumnsAre p clause
  | [], clause, used, after, h => by
    obtain ⟨rfl, -⟩ := conditions_nil_eq_ok h
    trivial
  | (key, criterion) :: rest, clause, used, after, h => by
    obtain ⟨here, others, between, hhere, hothers, rfl⟩ := conditions_cons_eq_ok h
    exact Condition.allColumnsAre_append
      (columnsAre_criterionConditions scope hrow key criterion hhere)
      (columnsAre_conditions scope hrow rest hothers)

/-- The conditions of one entry of a filter are on columns of its own row. -/
theorem columnsAre_criterionConditions (scope : Scope) (hrow : ∀ key, p (scope.row.field c key))
    (key : String) : (criterion : Criterion) → {clause : Clause} → {used after : List String} →
    criterionConditions c scope key criterion used = .ok (clause, after) →
    Condition.AllColumnsAre p clause
  | .literal value, clause, used, after, h => by
    obtain ⟨-, rfl, -⟩ := literal_eq_ok h
    exact ⟨(comparative_equals _ value).columnsAre (hrow key), trivial⟩
  | .comparison operators, clause, used, after, h => by
    obtain ⟨-, hcomparisons, -⟩ := comparison_eq_ok h
    exact allColumnsAre_of_forall fun condition hcondition =>
      (comparative_comparisons hcomparisons condition hcondition).columnsAre (hrow key)
  | .logical connective operands, clause, used, after, h => by
    obtain ⟨-, parts, hparts, rfl⟩ := logical_eq_ok h
    exact columnsAre_combined (columnsAre_clauses scope hrow operands hparts) connective
  | .related quantifier nested, clause, used, after, h => by
    obtain ⟨relation, entry, between, inner, -, -, -, -, rfl⟩ := related_eq_ok h
    cases quantifier <;> exact ⟨trivial, trivial⟩

/-- The clauses of filters are on columns of their own row. -/
theorem columnsAre_clauses (scope : Scope) (hrow : ∀ key, p (scope.row.field c key)) :
    (filters : List (List (String × Criterion))) → {parts : List Clause} →
    {used after : List String} → clauses c scope filters used = .ok (parts, after) →
    Condition.ClausesColumnsAre p parts
  | [], parts, used, after, h => by
    obtain ⟨rfl, -⟩ := clauses_nil_eq_ok h
    trivial
  | filter :: rest, parts, used, after, h => by
    obtain ⟨clause, others, between, hclause, hothers, rfl⟩ := clauses_cons_eq_ok h
    exact ⟨columnsAre_conditions scope hrow filter hclause,
      columnsAre_clauses scope hrow rest hothers⟩

end

/-- A clause that may be missing is on columns of its own row. -/
theorem columnsAre_optionalClause {row : Occurrence} {visible : List String}
    {filter : Option Filter} {clause : Clause} (hrow : ∀ key, p (row.field c key))
    (h : optionalClause c row visible filter = .ok clause) : Condition.AllColumnsAre p clause := by
  cases filter with
  | none =>
    obtain rfl := Except.ok.inj h
    trivial
  | some given =>
    obtain ⟨⟨planned, after⟩, hconditions, rfl⟩ := map_eq_ok_iff.mp h
    exact columnsAre_conditions ⟨row, visible, false⟩ hrow given hconditions

/-! ## Joins -/

section Rendered

variable {visible declared : List String} {join : PlannedJoin} {rendered : Join}

/-- The names that a join may refer to: those of its own tables, and that of the rows which it is
joined to. -/
def PlannedJoin.reach (join : PlannedJoin) : List String :=
  [join.row.name, junctionAlias join.number, join.parent.name]

/-- A column that is named with a table belongs to it. -/
theorem isOf_and_isOf {name : String} {names : List String} (htable : column.table = some name)
    (hname : name ∈ names) (hdeclared : name ∈ declared) :
    column.IsOf names ∧ column.IsOf declared :=
  ⟨⟨name, hname, htable⟩, name, hdeclared, htable⟩

/-- The equations of a join are between its own tables and that of the rows which it is joined to. -/
theorem isOf_steps_renderJoin (hrow : join.row.table.aliasName = some join.row.name)
    (hparent : join.parent.name ∈ declared) (h : renderJoin c visible join = .ok rendered) {i : Nat}
    {step : Table × Column × Column} (hstep : rendered.steps[i]? = some step) :
    ∀ column ∈ [step.2.1, step.2.2],
      column.IsOf join.reach ∧ column.IsOf (declared ++ join.names.take (i + 1)) := by
  have hown : join.row.name ∈ join.reach := List.mem_cons_self
  have hlinked : junctionAlias join.number ∈ join.reach :=
    List.mem_cons_of_mem _ List.mem_cons_self
  have houter : join.parent.name ∈ join.reach :=
    List.mem_cons_of_mem _ (List.mem_cons_of_mem _ List.mem_cons_self)
  have hdeclared (names : List String) : join.parent.name ∈ declared ++ names :=
    List.mem_append_left _ hparent
  rw [PlannedJoin.names]
  simp only [List.forall_mem_cons]
  rcases steps_of_joinSteps (joinSteps_of_renderJoin h) with
    ⟨own, target, link, hsteps⟩ | ⟨table, ownId, ownColumn, targetColumn, targetId, link, hsteps⟩
  · rw [isManyToMany_of_direct link]
    rw [hsteps] at hstep
    rcases i with _ | i
    · obtain rfl := Option.some.inj hstep
      have hhere : join.row.name ∈ declared ++ [join.row.name] :=
        List.mem_append_right _ List.mem_cons_self
      exact ⟨isOf_and_isOf hrow hown hhere, isOf_and_isOf rfl houter (hdeclared _),
        List.forall_mem_nil _⟩
    · cases hstep
  · rw [(joinTable_of_junction link).1]
    rw [hsteps] at hstep
    -- the join table is declared first, and tied to the rows that are there already
    have hfirst (n : Nat) : junctionAlias join.number ∈
        declared ++ [junctionAlias join.number, join.row.name].take (n + 1) :=
      List.mem_append_right _ List.mem_cons_self
    rcases i with _ | _ | i
    · obtain rfl := Option.some.inj hstep
      exact ⟨isOf_and_isOf rfl hlinked (hfirst 0), isOf_and_isOf rfl houter (hdeclared _),
        List.forall_mem_nil _⟩
    · obtain rfl := Option.some.inj hstep
      have hsecond : join.row.name ∈
          declared ++ [junctionAlias join.number, join.row.name].take 2 :=
        List.mem_append_right _ (List.mem_cons_of_mem _ List.mem_cons_self)
      exact ⟨isOf_and_isOf rfl hown hsecond, isOf_and_isOf rfl hlinked (hfirst 1),
        List.forall_mem_nil _⟩
    · cases hstep

/-- A join refers to its own tables and to that of the rows which it is joined to, and its tables are
declared where it does. -/
theorem refersTo_renderJoin (hrow : join.row.table.aliasName = some join.row.name)
    (hparent : join.parent.name ∈ declared) (h : renderJoin c visible join = .ok rendered) :
    rendered.RefersTo join.reach declared := by
  have hnames : rendered.names = join.names := names_renderJoin h
  constructor
  · intro i step hstep
    rw [hnames]
    exact isOf_steps_renderJoin hrow hparent h hstep
  · rw [hnames]
    rw [renderJoin, bind_eq_ok_iff] at h
    obtain ⟨steps, -, h⟩ := h
    rw [bind_eq_ok_iff] at h
    obtain ⟨conditions, hconditions, h⟩ := h
    obtain rfl := Except.ok.inj h
    refine columnsAre_optionalClause (fun key => isOf_and_isOf hrow List.mem_cons_self ?_)
      hconditions
    exact List.mem_append_right _ (name_mem_names join)

end Rendered

/-- The joins of a read are planned as if the queried table went by its alias in any case: where it
does not, there are none. -/
theorem planJoins_findBase (c : Context) (q : Query) :
    planJoins c (findBase c q) (q.selection.getD {}) =
      planJoins c (.aliased c q.model baseAlias) (q.selection.getD {}) := by
  rcases findBase_cases c q with hbase | ⟨-, hforest⟩
  · rw [hbase]
  · have haliased : forest c.schema (Occurrence.aliased c q.model baseAlias).model
        (q.selection.getD {}) = [] := hforest
    rw [planJoins, planJoins, model_findBase, hforest, haliased]
    rfl

/-- Whether joins are named by number, all differently, and joined to rows that are there. -/
structure AreNamed (joins : List PlannedJoin) : Prop where
  aliasName : ∀ (i : Nat) (join : PlannedJoin), joins[i]? = some join →
    join.inclusion.aliasName = tableAlias (i + 1)
  distinct : (baseAlias :: joins.map fun join => join.inclusion.aliasName).Nodup
  parent : ∀ (i : Nat) (join : PlannedJoin), joins[i]? = some join →
    join.inclusion.parent = baseAlias ∨ ∃ k above, k < i ∧ joins[k]? = some above ∧
      join.inclusion.parent = above.inclusion.aliasName

/-- Whether the joins of a read are the planned ones, and each refers to its own tables and to that
of the rows which it is joined to, where these are declared. -/
structure InScope (joins : List PlannedJoin) (select : Select) : Prop where
  length : select.joins.length = joins.length
  base : joins ≠ [] → select.base.reference = baseAlias
  refers : ∀ (i : Nat) (rendered : Join), select.joins[i]? = some rendered →
    ∃ join, joins[i]? = some join ∧ rendered.target = join.inclusion.aliasName ∧
      rendered.RefersTo
        [join.inclusion.aliasName, junctionAlias (i + 1), join.inclusion.parent]
        (select.base.reference :: (select.joins.take i).flatMap Join.names)

/-- The joins of a read are in scope. -/
theorem inScope_of_parts {joins : List PlannedJoin} {computed : List Item} {joined : List Join}
    {paths : List (List Nat)} {select : Select} (parts : FindParts c q joins computed joined)
    (hbreadth : BreadthFirst c (.aliased c q.model baseAlias) (q.selection.getD {}) joins paths)
    (hjoins : select.joins = joined) (hbase : select.base.reference = (findBase c q).name) :
    InScope joins select := by
  have hreference (hsome : joins ≠ []) : select.base.reference = baseAlias := by
    rw [hbase, findBase_of_joins hsome parts.planned]
    rfl
  refine ⟨?_, hreference, fun i rendered hrendered => ?_⟩
  · rw [hjoins, length_of_mapM parts.rendered]
  · rw [hjoins] at hrendered
    obtain ⟨join, hjoin, hrender⟩ := exists_getElem?_of_mapM parts.rendered hrendered
    obtain ⟨path, asked, parent, -, -, rfl, habove⟩ := hbreadth.exists_of_getElem? hjoin
    refine ⟨_, hjoin, target_renderJoin hrender, refersTo_renderJoin rfl ?_ hrender⟩
    cases habove with
    | queried j =>
      rw [hreference (List.ne_nil_of_mem (List.mem_of_getElem? hjoin))]
      exact List.mem_cons_self
    | @joined k path above earlier node row j =>
      -- the rows above are those of an earlier join, which has declared its tables
      obtain ⟨first, hfirst, hrenderFirst⟩ := getElem?_ok_of_mapM parts.rendered row
      have hmem : first ∈ joined.take i :=
        List.mem_of_getElem? ((List.getElem?_take_of_lt earlier).trans hfirst)
      rw [hjoins]
      refine List.mem_cons_of_mem _ (List.mem_flatMap.mpr ⟨first, hmem, ?_⟩)
      rw [Join.names, names_renderJoin hrenderFirst]
      exact name_mem_names above

/-- Where models need not be registered, a query has one join for each node of its selection that asks
for a relation, breadth first, under aliases of their own. The conditions of each refer to its own
tables and to that of the rows which it is joined to, all of which are declared by then. -/
theorem joins_of_lenient (lenient : c.strict = false) (q : Query) :
    ∃ joins paths,
      planJoins c (.aliased c q.model baseAlias) (q.selection.getD {}) = .ok joins ∧
      BreadthFirst c (.aliased c q.model baseAlias) (q.selection.getD {}) joins paths ∧
      (paths.Pairwise fun a b => a.length ≤ b.length) ∧
      (paths.Pairwise fun a b => ∀ path i j, a = path ++ [i] → b = path ++ [j] → i < j) ∧
      AreNamed joins ∧
      ∀ r, planFind c q = .ok r →
        r.inclusions = joins.map (fun join => join.inclusion) ∧ InScope joins r.select := by
  obtain ⟨paths, hbreadth⟩ :=
    breadthFirst_number c (.aliased c q.model baseAlias) (q.selection.getD {})
  refine ⟨_, paths, ?_, hbreadth, hbreadth.depth, hbreadth.siblings,
    ⟨fun i join => hbreadth.aliasName, hbreadth.nodup_aliases, fun i join => hbreadth.parent⟩,
    fun r h => ?_⟩
  · rw [planJoins, forM_eq_ok fun join _ => checkModel_of_lenient lenient _]
    rfl
  · have hplanned {joins : List PlannedJoin}
        (h : planJoins c (findBase c q) (q.selection.getD {}) = .ok joins) :
        number c 1 ((forest c.schema (Occurrence.aliased c q.model baseAlias).model
          (q.selection.getD {})).map fun tree => (.aliased c q.model baseAlias, tree)) = joins := by
      rw [planJoins_findBase] at h
      exact (eq_number_of_planJoins h).symm
    cases found_of_planFind h with
    | paged parts page_planned =>
      obtain rfl := hplanned parts.planned
      exact ⟨rfl, inScope_of_parts parts hbreadth rfl rfl⟩
    | direct parts clause_planned =>
      obtain rfl := hplanned parts.planned
      exact ⟨rfl, inScope_of_parts parts hbreadth rfl rfl⟩

/-- Authors, who edit each other, with their posts and what belongs to these. Comments are on posts or
on other comments. -/
def magazine : Context where
  schema := ⟨[
    ("Author",
      { name := "Author", table := "authors"
        relations := [
          ("posts", { name := "posts", cardinality := .oneToMany, target := "Post"
                      foreignKey := "authorId" }),
          ("editor", { name := "editor", cardinality := .manyToOne, target := "Author"
                       foreignKey := "editorId" })] }),
    ("Post",
      { name := "Post", table := "posts"
        relations := [
          ("tags", { name := "tags", cardinality := .manyToMany, target := "Tag"
                     joinTable := some "_PostToTag" }),
          ("comments", { name := "comments", cardinality := .oneToMany, target := "Comment"
                         foreignKey := "postId" })] }),
    ("Comment",
      { name := "Comment", table := "comments"
        relations := [
          ("replies", { name := "replies", cardinality := .oneToMany, target := "Comment"
                        foreignKey := "commentId" })] })]⟩

/-- Finds authors with their editors, their posts, and the tags and approved comments of these with
replies. -/
def findAuthors : Query where
  model := "Author"
  action := .findMany
  selection := some { fields := [
    ("posts", .nested {} { fields := [
      ("tags", .flag true),
      ("comments", .nested { filter := some [("approved", .literal (.bool true))] }
        { fields := [("replies", .flag true)] })] }),
    ("editor", .flag true)] }

/-- The editor is joined before what belongs to the posts, and the replies come last. -/
theorem joins_of_findAuthors :
    magazine.strict = false ∧ ∃ joins paths r,
      planFind magazine findAuthors = .ok r ∧
      BreadthFirst magazine (.aliased magazine "Author" baseAlias)
        (findAuthors.selection.getD {}) joins paths ∧ AreNamed joins ∧ InScope joins r.select ∧
      (joins.map fun join => (join.inclusion.relation, join.inclusion.aliasName,
          join.inclusion.parent)) =
        [("posts", "t1", "t0"), ("editor", "t2", "t0"), ("tags", "t3", "t1"),
          ("comments", "t4", "t1"), ("replies", "t5", "t4")] := by
  have hlenient : magazine.strict = false := rfl
  obtain ⟨joins, paths, -, hbreadth, -, -, hnamed, hreads⟩ := joins_of_lenient hlenient findAuthors
  have hfound : (fun r : Read => r.inclusions.map fun inclusion =>
      (inclusion.relation, inclusion.aliasName, inclusion.parent)) <$>
        planFind magazine findAuthors =
      .ok [("posts", "t1", "t0"), ("editor", "t2", "t0"), ("tags", "t3", "t1"),
        ("comments", "t4", "t1"), ("replies", "t5", "t4")] := by with_unfolding_all rfl
  obtain ⟨r, hr, hnames⟩ := map_eq_ok_iff.mp hfound
  obtain ⟨hinclusions, hscope⟩ := hreads r hr
  rw [hinclusions, List.map_map] at hnames
  exact ⟨hlenient, joins, paths, r, hr, hbreadth, hnamed, hscope, hnames⟩

end Compile

end RelationalQuery

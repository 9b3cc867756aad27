import RelationalQuery.Proofs.Compile.Vetted
import RelationalQuery.Proofs.Sql.Embedding

/-!
# Pages

Where rows are cut off, counts and aggregates are taken over a page, and so are reads that join lists.
The page is the one that the plain read returns: `Query.page` is that read, and its statement stands in
the others, in parentheses and with the numbers and values of its placeholders.

* `plan_page` — the plan of `Query.page` is its page.
* `Compiler.Pages` — what is said of counts, aggregates and reads, and `pages`, which proves it.
-/

namespace RelationalQuery

open Sql Fragment

/-- The plain read of the rows of a query: with its filter, its ordering and its limits, and nothing
else. -/
def Query.page (q : Query) : Query :=
  { model := q.model, action := .findMany
    arguments :=
      { filter := q.arguments.filter, orderBy := q.arguments.orderBy, take := Compile.findTake q
        skip := q.arguments.skip } }

namespace Compile

variable {c : Context} {filtered : Bool} {q : Query}

/-! ## The plain read -/

/-- Whether a query cuts off rows. -/
def cutsOff (q : Query) : Bool := (findTake q).isSome || q.arguments.skip.isSome

theorem findBase_page (c : Context) (q : Query) : findBase c q.page = .plain c q.model := by
  have hforest : forest c.schema q.page.model (q.page.selection.getD {}) = [] := by
    rw [Query.page, Option.getD_none, forest, forestOfFields]
  rw [findBase, hforest]
  rfl

/-- Nothing is joined to the rows of a plain read. -/
theorem planJoins_page (c : Context) (q : Query) :
    planJoins c (findBase c q.page) (q.page.selection.getD {}) = .ok [] := by
  have hforest (base : Occurrence) :
      forest c.schema base.model (q.page.selection.getD {}) = [] := by
    rw [Query.page, Option.getD_none, forest, forestOfFields]
  rw [planJoins, hforest, List.map_nil, number]
  rfl

/-- A plain read is the read of its page. -/
theorem planFind_page (c : Context) (q : Query) : planFind c q.page =
    (fun page => { select := page.select }) <$> planPage c q.model q.arguments (findTake q) := by
  have hdirect : pagesFirst q.page [] = false := Bool.and_false _
  rw [planFind_eq, planJoins_page]
  show (if pagesFirst q.page [] = true then _ else _) = _
  rw [if_neg (Bool.not_eq_true _ ▸ hdirect), findBase_page, planPage, map_bind]
  rfl

/-- The plan of a plain read is its page, if the model is accepted. -/
theorem plan_page (c : Context) (filtered : Bool) (q : Query) : plan c filtered q.page = (do
    c.checkModel q.model
    (fun page => .read { select := page.select }) <$>
      planPage c q.model q.arguments (findTake q)) := by
  have hfind : plan c filtered q.page = (do
      c.checkModel q.model
      .read <$> planFind c q.page) := rfl
  rw [hfind, planFind_page, Functor.map_map]

/-! ## Reads over the page -/

/-- Counts and aggregates of what is cut off take their rows from the page. -/
theorem planSource_eq (haction : q.action.isSingleRead = false) (hcuts : cutsOff q) :
    planSource c q = (fun page => (.page page pageAlias, [])) <$>
      planPage c q.model q.arguments (findTake q) := by
  have htake : findTake q = q.arguments.take := if_neg (Bool.not_eq_true _ ▸ haction)
  have hpaginated : isPaginated q.arguments := by
    rw [isPaginated, ← htake]
    exact hcuts
  rw [planSource, if_pos hpaginated, htake]
  rfl

/-- The read that counts the rows of a page. -/
def countOver (page : Page) : Read :=
  { select := { items := [.count], base := .page page pageAlias } }

/-- A count of what is cut off counts the rows of the page. -/
theorem plan_count (haction : q.action = .count) (hcuts : cutsOff q) : plan c filtered q = (do
    c.checkModel q.model
    (fun page => .read (countOver page)) <$> planPage c q.model q.arguments (findTake q)) := by
  have hcount : plan c filtered q = (do
      c.checkModel q.model
      .read <$> planCount c q) := by
    rw [plan, haction]
    rfl
  rw [hcount, planCount, planSource_eq (by rw [haction]; rfl) hcuts]
  simp only [map_eq_pure_bind, bind_assoc, pure_bind]
  rfl

/-- An aggregate of what is cut off is taken over the page. -/
theorem over_of_planAggregate (haction : q.action = .aggregate) (hcuts : cutsOff q) {r : Read}
    (h : planAggregate c filtered q = .ok r) : ∃ page,
    planPage c q.model q.arguments (findTake q) = .ok page ∧ r.select.Over page pageAlias ∧
      r.select.joins = [] ∧ r.select.orderBy = [] := by
  obtain ⟨items, source, -, hsource, rfl⟩ := aggregates_of_planAggregate h
  rw [planSource_eq (by rw [haction]; rfl) hcuts] at hsource
  obtain ⟨page, hpage, rfl⟩ := map_eq_ok_iff.mp hsource
  exact ⟨page, hpage, ⟨rfl, rfl, rfl, rfl, rfl⟩, rfl, rfl⟩

/-- A read that joins lists to what is cut off joins them to the rows of the page. -/
theorem over_of_planFind (hcuts : cutsOff q) {name : String} {relation : Relation}
    {filter : Option Filter} {columns : Option (List String)} {children : List IncludeTree}
    (hasked : Within (forest c.schema q.model (q.selection.getD {}))
      (.node name relation filter columns children))
    (hlist : relation.cardinality.isList) {r : Read} (h : planFind c q = .ok r) : ∃ page,
    planPage c q.model q.arguments (findTake q) = .ok page ∧ r.select.Over page baseAlias := by
  have hjoined {joins : List PlannedJoin}
      (hplanned : planJoins c (findBase c q) (q.selection.getD {}) = .ok joins) :
      findBase c q = .aliased c q.model baseAlias ∧ pagesFirst q joins := by
    obtain ⟨n, parent, hmem, -⟩ :=
      joined_of_within hplanned ((model_findBase c q).symm ▸ hasked)
    refine ⟨findBase_of_joins (List.ne_nil_of_mem hmem) hplanned, ?_⟩
    rw [pagesFirst, Bool.and_eq_true]
    exact ⟨hcuts, List.any_eq_true.mpr ⟨_, hmem, hlist⟩⟩
  rw [planFind_eq, bind_eq_ok_iff] at h
  obtain ⟨joins, hplanned, h⟩ := h
  obtain ⟨hbase, hpages⟩ := hjoined hplanned
  rw [bind_eq_ok_iff] at h
  obtain ⟨computed, -, h⟩ := h
  rw [if_pos hpages, bind_eq_ok_iff] at h
  obtain ⟨page, hpage, h⟩ := h
  rw [bind_eq_ok_iff] at h
  obtain ⟨joined, -, h⟩ := h
  obtain rfl := Except.ok.inj h
  refine ⟨page, hpage, ?_, rfl, rfl, rfl, rfl⟩
  rw [hbase]
  rfl

end Compile

/-! ## Statements -/

open Compile

namespace Compiler

variable {k : Compiler} {q : Query} {aliasName : String} {page : Page}

/-- Whether a statement takes its rows from the plain read of a query: behind its `FROM` stands the
statement of that one, in parentheses and under an alias. -/
structure OverPage (k : Compiler) (q : Query) (aliasName : String) (s : Statement) (r : Read) :
    Prop where
  planned : plan k.context (k.dialect.has .filteredAggregates) q = .ok (.read r)
  statement : s = r.statement k.dialect
  page : ∃ page, r.select.Over page aliasName
  embeds : ∃ p, k.statement q.page = .ok p ∧
    s.Embeds k.dialect p ("SELECT " ++ r.select.itemsText k.dialect ++ " FROM (")
      (") AS " ++ k.dialect.quote aliasName ++ r.select.restText k.dialect)
  /-- Behind the page no rows are cut off. -/
  unlimited : HasTokens (fun token => token ≠ "LIMIT".toList ∧ token ≠ "OFFSET".toList)
    (outsideOf k.dialect.quoteChar false (r.select.restText k.dialect).toList)

/-- The statement of a plain read is that of its page. -/
theorem statement_page (hmodel : k.context.checkModel q.model = .ok ())
    (hpage : planPage k.context q.model q.arguments (findTake q) = .ok page) :
    k.statement q.page = .ok (Read.statement k.dialect { select := page.select }) := by
  rw [Compiler.statement, plan_page, hmodel, hpage]
  rfl

/-- The plan of a read over the page takes its rows from the plain read. -/
theorem overPage_of_plan {r : Read}
    (hplan : plan k.context (k.dialect.has .filteredAggregates) q = .ok (.read r))
    (hpage : planPage k.context q.model q.arguments (findTake q) = .ok page)
    (hover : r.select.Over page aliasName) :
    k.OverPage q aliasName (r.statement k.dialect) r := by
  have hwritten : Written k.dialect false (r.select.fragment k.dialect) :=
    written_of_planned (planned_of_plan hplan)
  exact
    { planned := hplan
      statement := rfl
      page := ⟨page, hover⟩
      embeds := ⟨_, statement_page (checkModel_of_plan hplan) hpage,
        hover.embeds hwritten rfl rfl⟩
      unlimited := hover.hasTokens_restText hwritten }

/-- A read over the page with neither joins nor an ordering ends behind the alias of the page. -/
theorem restText_eq_empty {r : Read} (hover : r.select.Over page aliasName)
    (hjoins : r.select.joins = []) (horder : r.select.orderBy = []) (d : Dialect) :
    r.select.restText d = "" := by
  have hrest : r.select.rest d = [] := by
    simp [Select.rest, hjoins, horder, hover.clause, hover.groupBy, hover.take, hover.skip,
      Clause.whereFragment, orderFragment, limitFragment]
  rw [Select.restText, hrest]
  rfl

/-- The text and the arguments of a count over the page. -/
theorem statement_countOver (page : Page) (d : Dialect) :
    (countOver page).statement d =
      { sql := "SELECT COUNT(*) FROM (" ++ (Read.statement d { select := page.select }).sql ++
          ") AS " ++ d.quote "sub"
        args := (Read.statement d { select := page.select }).args, returnsRows := true } := by
  have hfragment : (countOver page).select.fragment d =
      [.text "SELECT ", .text "COUNT(*)", .text " FROM ", .text "("] ++ page.fragment d ++
        [.text ")", .text " AS ", .name "sub"] := by
    simp [countOver, pageAlias, Select.fragment, Item.fragment, Fragment.join, Base.fragment,
      Clause.whereFragment, orderFragment, limitFragment, wrap, ofText, ofName]
  have hparams : ((countOver page).select.fragment d).params = (page.fragment d).params := by
    simp [hfragment, Fragment.params]
  have hopening : "SELECT COUNT(*) FROM (" = "SELECT " ++ ("COUNT(*)" ++ (" FROM " ++ "(")) := by
    decide
  have hclosing : ") AS " = ")" ++ " AS " := by decide
  have hsql : renderFrom d (page.fragment d).params [] ((countOver page).select.fragment d) =
      "SELECT COUNT(*) FROM (" ++ renderFrom d (page.fragment d).params [] (page.fragment d) ++
        ") AS " ++ d.quote "sub" := by
    rw [hfragment, renderFrom_append, renderFrom_append, hopening, hclosing]
    simp only [renderFrom, Fragment.params, List.append_nil, String.append_assoc,
      String.append_empty]
  rw [Read.statement, Read.statement, ofFragment_eq, ofFragment_eq,
    hparams, hsql, page.params_select, page.renderFrom_select]
  rfl

/-- What is said of the statements that take their rows from the plain read of a query. -/
structure Pages (k : Compiler) (q : Query) : Prop where
  /-- A count counts the rows of the plain read, and fails where that fails. -/
  count : q.action = .count → cutsOff q → k.statement q = (fun p =>
    { sql := "SELECT COUNT(*) FROM (" ++ p.sql ++ ") AS " ++ k.dialect.quote "sub", args := p.args
      returnsRows := true }) <$> k.statement q.page
  /-- Counts and aggregates have nothing behind the plain read. -/
  aggregated : q.action = .count ∨ q.action = .aggregate → cutsOff q →
    ∀ s, k.statement q = .ok s → ∃ r, k.OverPage q "sub" s r ∧ r.select.restText k.dialect = ""
  /-- Where a list is joined at any depth, it is joined to the rows of the plain read. -/
  found : q.action.isRead → cutsOff q → ∀ name relation filter columns children,
    Within (forest k.schema q.model (q.selection.getD {}))
      (.node name relation filter columns children) →
    relation.cardinality.isList → ∀ s, k.statement q = .ok s → ∃ r, k.OverPage q "t0" s r

/-- Counts, aggregates and reads that join lists work on the rows that the plain read returns. -/
theorem pages (k : Compiler) (q : Query) : k.Pages q where
  count haction hcuts := by
    rw [Compiler.statement, Compiler.statement, plan_count haction hcuts, plan_page, map_bind,
      map_bind, map_bind]
    refine congrArg _ (funext fun _ => ?_)
    rw [Functor.map_map, Functor.map_map, Functor.map_map]
    refine congrArg (· <$> _) (funext fun page => ?_)
    exact statement_countOver page k.dialect
  aggregated haction hcuts s h := by
    obtain ⟨p, hp, rfl⟩ := map_eq_ok_iff.mp h
    rcases haction with haction | haction
    · have hplan := hp
      rw [plan_count haction hcuts, bind_eq_ok_iff] at hp
      obtain ⟨-, -, hp⟩ := hp
      obtain ⟨page, hpage, rfl⟩ := map_eq_ok_iff.mp hp
      have hover : (countOver page).select.Over page pageAlias := ⟨rfl, rfl, rfl, rfl, rfl⟩
      exact ⟨countOver page, overPage_of_plan hplan hpage hover,
        restText_eq_empty hover rfl rfl k.dialect⟩
    · obtain ⟨r, hr, rfl⟩ := aggregate_of_plan hp haction
      obtain ⟨page, hpage, hover, hjoins, horder⟩ := over_of_planAggregate haction hcuts hr
      exact ⟨r, overPage_of_plan hp hpage hover,
        restText_eq_empty hover hjoins horder k.dialect⟩
  found haction hcuts name relation filter columns children hasked hlist s h := by
    obtain ⟨p, hp, rfl⟩ := map_eq_ok_iff.mp h
    obtain ⟨r, hr, rfl⟩ := find_of_plan hp haction
    obtain ⟨page, hpage, hover⟩ := over_of_planFind hcuts hasked hlist hr
    exact ⟨r, overPage_of_plan hp hpage hover⟩

/-- The users of one name on the second page of ten. -/
example :
    ({ dialect := .postgres } : Compiler).statement
        { model := "users", action := .count
          arguments :=
            { filter := some [("name", .literal (.text "ann"))], take := some 10, skip := some 10 } } =
      .ok
        { sql := "SELECT COUNT(*) FROM (SELECT * FROM \"users\" WHERE \"name\" = $1 " ++
            "LIMIT 10 OFFSET 10) AS \"sub\""
          args := [.text "ann"], returnsRows := true } := rfl

end Compiler

end RelationalQuery

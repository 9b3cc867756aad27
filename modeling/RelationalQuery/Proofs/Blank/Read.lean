import RelationalQuery.Compile.Read
import RelationalQuery.Proofs.Blank.Filter

/-!
# Reads with blank values

The reads that a query is planned as look the same, once their values are blanked, whether the query
has its own values or blank ones.
-/

namespace RelationalQuery.Compile

open Sql (Clause Item Join Page Select)

variable {c : Context}

/-! ## Joined relations -/

mutual

/-- The tree with blank values in its filters. -/
def IncludeTree.blank : IncludeTree → IncludeTree
  | .node name relation filter columns children =>
    .node name relation (filter.map Filter.blank) columns (IncludeTree.blankAll children)

/-- The trees with blank values in their filters. -/
def IncludeTree.blankAll : List IncludeTree → List IncludeTree
  | [] => []
  | tree :: rest => tree.blank :: IncludeTree.blankAll rest

end

theorem IncludeTree.blankAll_eq_map (trees : List IncludeTree) :
    IncludeTree.blankAll trees = trees.map IncludeTree.blank := by
  induction trees with
  | nil => rfl
  | cons tree rest ih => rw [IncludeTree.blankAll, List.map_cons, ih]

theorem IncludeTree.children_blank (tree : IncludeTree) :
    tree.blank.children = tree.children.map IncludeTree.blank := by
  cases tree with
  | node name relation filter columns children => exact IncludeTree.blankAll_eq_map children

/-- The join with blank values in its filter. -/
def PlannedJoin.blank (p : PlannedJoin) : PlannedJoin :=
  { p with filter := p.filter.map Filter.blank }

/-- The selection by flags does not depend on values. -/
theorem flagged_blank (selection : Selection) : selection.blank.flagged = selection.flagged := by
  obtain ⟨scalars, composites, fields⟩ := selection
  show (Selection.blankFields fields).filterMap _ = fields.filterMap _
  induction fields with
  | nil => rfl
  | cons field rest ih =>
    obtain ⟨name, field⟩ := field
    rw [Selection.blankFields]
    cases field with
    | flag on => cases on <;> simpa [SelectedField.blank] using ih
    | nested arguments selection => simpa [SelectedField.blank] using ih

theorem selectedColumns_blank (s : Schema) (model : String) (selection : Selection) :
    selectedColumns s model selection.blank = selectedColumns s model selection := by
  rw [selectedColumns, selectedColumns, flagged_blank]
  cases selection
  rfl

mutual

/-- The same relations are asked for without values. -/
theorem forest_blank (s : Schema) (model : String) : ∀ selection : Selection,
    forest s model selection.blank = IncludeTree.blankAll (forest s model selection)
  | ⟨scalars, composites, fields⟩ => by
    rw [Selection.blank, forest, forest, forestOfFields_blank s model fields]

theorem forestOfFields_blank (s : Schema) (model : String) :
    ∀ fields : List (String × SelectedField),
      forestOfFields s model (Selection.blankFields fields) =
        IncludeTree.blankAll (forestOfFields s model fields)
  | [] => rfl
  | (name, field) :: rest => by
    rw [Selection.blankFields, forestOfFields, forestOfFields, forestOfFields_blank s model rest]
    split
    · rfl
    · next relation _ =>
      rw [treeOfField_blank s name relation field]
      simp only [IncludeTree.blankAll_eq_map, List.map_append]

theorem treeOfField_blank (s : Schema) (name : String) (relation : Relation) :
    ∀ field : SelectedField,
      treeOfField s name relation field.blank =
        IncludeTree.blankAll (treeOfField s name relation field)
  | .flag false => rfl
  | .flag true => rfl
  | .nested arguments selection => by
    rw [SelectedField.blank, treeOfField, treeOfField, forest_blank s relation.target selection,
      selectedColumns_blank]
    rfl

end

theorem ofTree_blank (number : Nat) (parent : Occurrence) (tree : IncludeTree) :
    PlannedJoin.ofTree c number parent tree.blank =
      (PlannedJoin.ofTree c number parent tree).blank := by
  cases tree
  rfl

/-- Relations are numbered the same way without values. -/
theorem number_blank (next : Nat) (queue : List (Occurrence × IncludeTree)) :
    number c next (queue.map fun entry => (entry.1, entry.2.blank)) =
      (number c next queue).map PlannedJoin.blank := by
  -- along the queue: the children of a blank tree are queued as blank trees
  induction next, queue using number.induct c with
  | case1 next => simp [number]
  | case2 next parent tree queue join ih =>
    rw [List.map_cons, number, number, List.map_cons, ← ih, ofTree_blank, tree.children_blank,
      List.map_append, List.map_map, List.map_map]
    rfl

/-- The same joins are planned without values. -/
theorem planJoins_blank (base : Occurrence) (selection : Selection) :
    planJoins c base selection.blank =
      List.map PlannedJoin.blank <$> planJoins c base selection := by
  have hqueue (trees : List IncludeTree) : (IncludeTree.blankAll trees).map (fun tree => (base, tree)) =
      (trees.map fun tree => (base, tree)).map fun entry => (entry.1, entry.2.blank) := by
    rw [IncludeTree.blankAll_eq_map, List.map_map, List.map_map]
    rfl
  have hchecked (joins : List PlannedJoin) :
      ((joins.map PlannedJoin.blank).forM fun join => c.checkModel join.relation.target) =
        joins.forM fun join => c.checkModel join.relation.target := by
    induction joins with
    | nil => rfl
    | cons join rest ih =>
      exact congrArg (fun checked => c.checkModel join.relation.target >>= fun _ => checked) ih
  rw [planJoins, planJoins, forest_blank, hqueue, number_blank, hchecked, map_bind]
  rfl

theorem blank_renderJoin (visible : List String) (join : PlannedJoin) :
    Join.blank <$> renderJoin c visible join.blank = Join.blank <$> renderJoin c visible join := by
  rw [renderJoin, renderJoin]
  refine map_bind_congr_right _ fun steps => ?_
  refine map_bind_congr (blank_optionalClause join.row visible join.filter) fun a b h => ?_
  exact congrArg (Except.ok <| Join.mk steps ·) h

/-! ## Pages -/

theorem blank_planPage (model : String) (arguments : Arguments) (take : Option Int64) :
    Page.blank <$> planPage c model arguments.blank take =
      Page.blank <$> planPage c model arguments take := by
  rw [planPage, planPage]
  refine map_bind_congr (blank_optionalClause _ _ arguments.filter) fun a b h => ?_
  exact congrArg (Except.ok <| Page.mk _ · _ _ _) h

/-- Where rows are taken from, and the conditions on them, look the same without values. -/
theorem blank_planSource (q : Query) :
    Prod.map Sql.Base.blank Clause.blank <$> planSource c q.blank =
      Prod.map Sql.Base.blank Clause.blank <$> planSource c q := by
  rw [planSource, planSource]
  show _ <$> (if isPaginated q.arguments then _ else _) = _
  split
  · refine map_bind_congr (blank_planPage q.model q.arguments q.arguments.take) fun a b h => ?_
    exact congrArg (fun page => Except.ok (Sql.Base.page page pageAlias, [])) h
  · refine map_bind_congr (blank_optionalClause _ _ q.arguments.filter) fun a b h => ?_
    exact congrArg (fun clause => Except.ok (Sql.Base.table _, clause)) h

/-! ## Computed fields -/

/-- The table of a computed field, which may be given by the name of its model. -/
def readTable (c : Context) (table : String) : String :=
  match c.schema.findByTable? table with
  | some m => m.table
  | none => table

/-- The column of a computed field's table, which a model may name otherwise. -/
def readColumn (c : Context) (table name : String) : Sql.Column :=
  ⟨none, match c.schema.findByTable? table with
    | some m => m.columnOf name
    | none => name⟩

/-- The condition on a column of a computed field's table. -/
def correlated (c : Context) (base : Occurrence) (column : String → Sql.Column)
    (entry : String × Correlation) : Sql.Match :=
  match entry.2 with
  | .field name => .outer (column entry.1) (base.outer (c.schema.columnOf base.model name))
  | .value .null => .null (column entry.1)
  | .value value => .value (column entry.1) value

theorem blank_correlated (base : Occurrence) (column : String → Sql.Column) (key : String)
    (correlation : Correlation) :
    (correlated c base column (key, correlation.blank)).blank =
      (correlated c base column (key, correlation)).blank := by
  cases correlation with
  | field name => rfl
  | value v =>
    cases v with
    | list items => exact congrArg (Sql.Match.value (column key)) (Value.blank_blank (.list items))
    | object members =>
      exact congrArg (Sql.Match.value (column key)) (Value.blank_blank (.object members))
    | _ => rfl

theorem blank_planComputed (base : Occurrence) (aliasName : String) (field : ComputedField) :
    Item.blank <$> planComputed c base aliasName field.blank =
      Item.blank <$> planComputed c base aliasName field := by
  obtain ⟨op, name, table, correlations, orderBy⟩ := field
  have hitem (column : String → Sql.Column) (projection : Sql.Projection) (table : String)
      (orderBy : List Sql.OrderKey) (firstOnly : Bool) :
      (Item.scalar ⟨projection, table, (Dict.mapValues Correlation.blank correlations).map
        (correlated c base column), orderBy, firstOnly⟩ aliasName).blank =
      (Item.scalar ⟨projection, table, correlations.map (correlated c base column), orderBy,
        firstOnly⟩ aliasName).blank := by
    refine congrArg (Item.scalar ⟨projection, table, ·, orderBy, firstOnly⟩ aliasName) ?_
    rw [Dict.mapValues, List.map_map, List.map_map, List.map_map]
    exact List.map_congr_left fun entry _ => blank_correlated base column entry.1 entry.2
  rw [planComputed, planComputed]
  refine map_bind_congr_right _ fun _ => ?_
  cases name with
  | none =>
    cases op with
    | count => exact congrArg Except.ok (hitem (readColumn c table) _ _ _ _)
    | _ => rfl
  | some name => cases op <;> exact congrArg Except.ok (hitem (readColumn c table) _ _ _ _)

/-! ## Finding rows -/

/-- The read with blank values. -/
def Read.blank (r : Read) : Read := { r with select := r.select.blank }

/-- The selection of a query that may lack one. -/
theorem selection_blank (q : Query) :
    q.blank.selection.getD {} = (q.selection.getD {}).blank := by
  rw [Query.blank]
  cases q.selection <;> rfl

theorem baseFields_blank (s : Schema) (q : Query) : baseFields s q.blank = baseFields s q := by
  obtain ⟨model, action, arguments, selection⟩ := q
  cases selection with
  | none => rfl
  | some selection =>
    have hflagged := flagged_blank selection
    obtain ⟨scalars, composites, fields⟩ := selection
    rw [baseFields, baseFields]
    dsimp only [Query.blank, Option.map_some]
    rw [hflagged]
    rfl

theorem blank_baseItems (base : Occurrence) (q : Query) :
    baseItems c base q.blank = baseItems c base q := by
  rw [baseItems, baseItems, baseFields_blank]

/-- A read that finds rows looks the same without the values of its query. -/
theorem blank_planFind (q : Query) :
    Read.blank <$> planFind c q.blank = Read.blank <$> planFind c q := by
  -- which tables are read, and under which names, does not depend on values
  have hforest : (forest c.schema q.model (q.blank.selection.getD {})).isEmpty =
      (forest c.schema q.model (q.selection.getD {})).isEmpty := by
    rw [selection_blank, forest_blank, IncludeTree.blankAll_eq_map, List.isEmpty_map]
  have hcomputed : q.blank.arguments.computed.isEmpty = q.arguments.computed.isEmpty :=
    Dict.isEmpty_mapValues _ _
  rw [planFind, planFind, show q.blank.model = q.model from rfl, hforest, hcomputed,
    selection_blank, planJoins_blank, bind_map_left]
  generalize (if !(forest c.schema q.model (q.selection.getD {})).isEmpty ||
    !q.arguments.computed.isEmpty then _ else _) = base
  refine map_bind_congr_right _ fun joins => ?_
  have hnames : (joins.map PlannedJoin.blank).flatMap PlannedJoin.names =
      joins.flatMap PlannedJoin.names := List.flatMap_map _ _ _
  have hjoined : (joins.map PlannedJoin.blank).flatMap joinedItems = joins.flatMap joinedItems :=
    List.flatMap_map _ _ _
  have hlists : (joins.map PlannedJoin.blank).any (·.inclusion.isList) =
      joins.any (·.inclusion.isList) := List.any_map
  have hinclusions : (joins.map PlannedJoin.blank).map (·.inclusion) = joins.map (·.inclusion) :=
    List.map_map
  -- the filters of joins and the computed fields are what values occur in
  have hrendered (visible : List String) :
      List.map Join.blank <$> (joins.map PlannedJoin.blank).mapM (renderJoin c visible) =
        List.map Join.blank <$> joins.mapM (renderJoin c visible) :=
    map_mapM_congr (blank_renderJoin visible) joins
  have hfields : List.map Item.blank <$> q.blank.arguments.computed.mapM (fun field =>
        planComputed c base field.1 field.2) =
      List.map Item.blank <$> q.arguments.computed.mapM fun field =>
        planComputed c base field.1 field.2 :=
    map_mapM_congr (fun field => blank_planComputed base field.1 field.2) q.arguments.computed
  have hkeys : q.blank.arguments.computed.keys = q.arguments.computed.keys :=
    Dict.keys_mapValues _ _
  rw [hnames, hjoined, hlists, hinclusions, blank_baseItems, hkeys]
  refine map_bind_congr hfields fun computed computed' h => ?_
  extract_lets items take pageFirst orderBy read items' take' pageFirst' orderBy' read'
  have hitems : items.map Item.blank = items'.map Item.blank := by
    simp only [items, items', List.map_append, h]
  have hread {s s' : Select} (hselect : s.blank = s'.blank) : (read s).blank = (read' s').blank :=
    congrArg read hselect
  show (Read.blank <$> if pageFirst then _ else _) = Read.blank <$> if pageFirst then _ else _
  split
  · refine map_bind_congr (blank_planPage q.model q.arguments take) fun page page' hpage => ?_
    refine map_bind_congr (hrendered _) fun rendered rendered' hrendered => ?_
    exact congrArg Except.ok (hread (Select.blank_congr hitems
      (congrArg (Sql.Base.page · base.name) hpage) hrendered rfl rfl rfl rfl rfl))
  · refine map_bind_congr (hrendered _) fun rendered rendered' hrendered => ?_
    refine map_bind_congr (blank_optionalClause base _ q.arguments.filter)
      fun clause clause' hclause => ?_
    exact congrArg Except.ok
      (hread (Select.blank_congr hitems rfl hrendered hclause rfl rfl rfl rfl))

/-! ## Counting and aggregating -/

/-- A read that counts rows looks the same without the values of its query. -/
theorem blank_planCount (q : Query) :
    Read.blank <$> planCount c q.blank = Read.blank <$> planCount c q := by
  rw [planCount, planCount]
  refine map_bind_congr (blank_planSource q) fun source source' h => ?_
  exact congrArg (fun r : Sql.Base × Clause =>
    Except.ok (⟨⟨[.count], r.1, [], r.2, [], [], none, none⟩, [], []⟩ : Read)) h

/-- Aggregates look the same without the values of the filters of counts. -/
theorem blank_planAggregates (filtered : Bool) (row : Occurrence) (spec : Aggregates) :
    List.map Item.blank <$> planAggregates c filtered row spec.blank =
      List.map Item.blank <$> planAggregates c filtered row spec := by
  have hcounts : List.map Item.blank <$> spec.blank.filtered.mapM (fun counted => do
        return Item.filteredCount (← clauseOf c row [row.name] counted.2) counted.1) =
      List.map Item.blank <$> spec.filtered.mapM fun counted => do
        return Item.filteredCount (← clauseOf c row [row.name] counted.2) counted.1 := by
    refine map_mapM_congr (fun counted => ?_) spec.filtered
    refine map_bind_congr (blank_clauseOf row [row.name] counted.2) fun clause clause' h => ?_
    exact congrArg (Except.ok <| Item.filteredCount · counted.1) h
  have hplain : plainAggregates c row.model spec.blank = plainAggregates c row.model spec := rfl
  rw [planAggregates, planAggregates, hplain]
  dsimp only
  split
  · refine map_bind_congr hcounts fun counts counts' h => ?_
    refine congrArg Except.ok ?_
    rw [List.map_append, List.map_append, h]
  · rfl

/-- The aggregates of a query that may lack them. -/
theorem aggregates_blank (q : Query) :
    q.blank.arguments.aggregates.getD {} = (q.arguments.aggregates.getD {}).blank := by
  rw [Query.blank, Arguments.blank]
  cases q.arguments.aggregates <;> rfl

/-- A read that aggregates rows looks the same without the values of its query. -/
theorem blank_planAggregate (filtered : Bool) (q : Query) :
    Read.blank <$> planAggregate c filtered q.blank = Read.blank <$> planAggregate c filtered q := by
  have hspec (spec : Aggregates) : spec.blank.isEmpty = spec.isEmpty := by
    rw [Aggregates.isEmpty, Aggregates.isEmpty, Aggregates.blank, Dict.isEmpty_mapValues]
  have hpaginated : isPaginated q.blank.arguments = isPaginated q.arguments := rfl
  have hmodel : q.blank.model = q.model := rfl
  rw [planAggregate, planAggregate, aggregates_blank, hpaginated, hmodel, hspec]
  refine map_bind_congr (blank_planAggregates filtered _ _) fun items items' h => ?_
  have hempty : items.isEmpty = items'.isEmpty := by
    rw [← List.isEmpty_map (f := Item.blank), h, List.isEmpty_map]
  dsimp only
  rw [hempty]
  split
  · rfl
  · refine map_bind_congr (blank_planSource q) fun source source' hsource => ?_
    obtain ⟨hbase, hclause⟩ := Prod.mk.inj hsource
    exact congrArg (fun select => Except.ok (⟨select, [], []⟩ : Read))
      (Select.blank_congr h hbase rfl hclause rfl rfl rfl rfl)

/-- A read that aggregates rows in groups looks the same without the values of its query. -/
theorem blank_planGroupBy (filtered : Bool) (q : Query) :
    Read.blank <$> planGroupBy c filtered q.blank = Read.blank <$> planGroupBy c filtered q := by
  have hmodel : q.blank.model = q.model := rfl
  have hgroups : q.blank.arguments.groupBy = q.arguments.groupBy := rfl
  rw [planGroupBy, planGroupBy, aggregates_blank, hmodel, hgroups]
  dsimp only
  split
  · rfl
  · refine map_bind_congr (blank_planAggregates filtered _ _) fun items items' h => ?_
    refine map_bind_congr (blank_optionalClause _ _ q.arguments.filter)
      fun clause clause' hclause => ?_
    refine congrArg (fun select => Except.ok (⟨select, [], []⟩ : Read))
      (Select.blank_congr ?_ rfl rfl hclause rfl rfl rfl rfl)
    rw [List.map_append, List.map_append, h]

end RelationalQuery.Compile

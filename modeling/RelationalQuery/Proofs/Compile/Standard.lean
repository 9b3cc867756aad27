import RelationalQuery.Proofs.Compile.Plan
import RelationalQuery.Proofs.Sql.Written

/-!
# The items of reads

Whatever a query asks for, its plan selects columns, aggregates by one of the known functions and,
where the dialect can, filtered counts. So every plan is written of phrases.
-/

namespace RelationalQuery.Compile

open Sql Fragment

variable {c : Context} {q : Query} {d : Dialect}

/-- The function of a computed field is an aggregate function. -/
theorem mem_aggregateFunctions {op : ComputedOp} {function : String}
    (h : op.function? = some function) : function ∈ aggregateFunctions := by
  cases op <;> simp only [ComputedOp.function?, Option.some.injEq, reduceCtorEq] at h <;>
    subst h <;> decide

/-- A computed field is selected by a standard item. -/
theorem standard_planComputed {base : Occurrence} {aliasName : String} {field : ComputedField}
    {item : Item} (h : planComputed c base aliasName field = .ok item) : item.Standard d := by
  rw [planComputed, bind_eq_ok_iff] at h
  obtain ⟨-, -, h⟩ := h
  dsimp only at h
  split at h
  · obtain rfl := Except.ok.inj h
    trivial
  · obtain rfl := Except.ok.inj h
    unfold Item.Standard
    dsimp only
    split
    · next hfunction => exact mem_aggregateFunctions hfunction
    · trivial
  · cases h

/-- The fields of the queried model are selected by standard items. -/
theorem standard_baseItems {base : Occurrence} : ∀ item ∈ baseItems c base q, item.Standard d := by
  intro item hitem
  rw [baseItems] at hitem
  split at hitem
  · obtain ⟨field, -, rfl⟩ := List.mem_map.mp hitem
    trivial
  · split at hitem
    · obtain rfl := List.mem_singleton.mp hitem
      trivial
    · obtain rfl := List.mem_singleton.mp hitem
      trivial

/-- The columns of related rows are selected by standard items. -/
theorem standard_joinedItems {join : PlannedJoin} :
    ∀ item ∈ joinedItems join, item.Standard d := by
  intro item hitem
  rw [joinedItems] at hitem
  split at hitem
  · obtain ⟨column, -, rfl⟩ := List.mem_map.mp hitem
    trivial
  · obtain rfl := List.mem_singleton.mp hitem
    trivial

/-- A read that finds rows selects standard items. -/
theorem standard_planFind {r : Read} (h : planFind c q = .ok r) :
    ∀ item ∈ r.select.items, item.Standard d := by
  have hitems {joins : List PlannedJoin} {computed : List Item} {joined : List Join}
      (parts : FindParts c q joins computed joined) :
      ∀ item ∈ findItems c q joins computed, item.Standard d := by
    intro item hitem
    rw [findItems, List.mem_append, List.mem_append, List.mem_flatMap] at hitem
    rcases hitem with (hitem | ⟨join, -, hitem⟩) | hitem
    · exact standard_baseItems item hitem
    · exact standard_joinedItems item hitem
    · obtain ⟨field, -, hfield⟩ := exists_of_mem_mapM parts.fields hitem
      exact standard_planComputed hfield
  cases found_of_planFind h with
  | paged parts page_planned => exact hitems parts
  | direct parts clause_planned => exact hitems parts

/-! ## Counting and aggregating -/

/-- A read that counts rows selects standard items. -/
theorem standard_planCount {r : Read} (h : planCount c q = .ok r) :
    ∀ item ∈ r.select.items, item.Standard d := by
  obtain ⟨source, -, rfl⟩ := exists_of_planCount h
  intro item hitem
  obtain rfl := List.mem_singleton.mp hitem
  trivial

/-- The aggregates of a function are standard items. -/
theorem standard_map_aggregateItem {model function key : String}
    (h : function ∈ aggregateFunctions) (fields : List String) :
    ∀ item ∈ fields.map (aggregateItem c model function key), item.Standard d := by
  intro item hitem
  obtain ⟨field, -, rfl⟩ := List.mem_map.mp hitem
  exact h

/-- Aggregates are standard items. -/
theorem standard_plainAggregates {model : String} {spec : Aggregates} :
    ∀ item ∈ plainAggregates c model spec, item.Standard d := by
  intro item hitem
  have hcounted (count : CountSelection) : ∀ item ∈
      (if count.all then [Item.aggregate .rows "_count"] else []) ++
        count.fields.map (aggregateItem c model "COUNT" "_count"), item.Standard d := by
    intro item hitem
    rcases List.mem_append.mp hitem with hall | hfields
    · split at hall
      · obtain rfl := List.mem_singleton.mp hall
        trivial
      · exact absurd hall List.not_mem_nil
    · exact standard_map_aggregateItem (by decide) count.fields item hfields
  unfold plainAggregates at hitem
  extract_lets counted at hitem
  rw [List.mem_append, List.mem_append, List.mem_append, List.mem_append] at hitem
  rcases hitem with (((hitem | hitem) | hitem) | hitem) | hitem
  · unfold counted at hitem
    split at hitem
    · next count _ => exact hcounted count item hitem
    · exact absurd hitem List.not_mem_nil
  · exact standard_map_aggregateItem (by decide) spec.avg item hitem
  · exact standard_map_aggregateItem (by decide) spec.sum item hitem
  · exact standard_map_aggregateItem (by decide) spec.min item hitem
  · exact standard_map_aggregateItem (by decide) spec.max item hitem

/-- All aggregates are standard items, as filtered counts are planned only where the dialect has
them. -/
theorem standard_planAggregates {row : Occurrence} {spec : Aggregates} {items : List Item}
    (h : planAggregates c (d.has .filteredAggregates) row spec = .ok items) :
    ∀ item ∈ items, item.Standard d := by
  intro item hitem
  rcases mem_planAggregates h hitem with hplain | ⟨hfiltered, counted, -, clause, -, rfl⟩
  · exact standard_plainAggregates item hplain
  · exact hfiltered

/-- A read that aggregates rows selects standard items. -/
theorem standard_planAggregate {r : Read}
    (h : planAggregate c (d.has .filteredAggregates) q = .ok r) :
    ∀ item ∈ r.select.items, item.Standard d := by
  obtain ⟨row, items, source, hitems, -, rfl⟩ := exists_of_planAggregate h
  exact standard_planAggregates hitems

/-- A read that aggregates rows in groups selects standard items. -/
theorem standard_planGroupBy {r : Read}
    (h : planGroupBy c (d.has .filteredAggregates) q = .ok r) :
    ∀ item ∈ r.select.items, item.Standard d := by
  obtain ⟨aggregates, clause, haggregates, -, rfl⟩ := exists_of_planGroupBy h
  intro item hitem
  rcases List.mem_append.mp hitem with hgroup | haggregate
  · obtain ⟨column, -, rfl⟩ := List.mem_map.mp hgroup
    trivial
  · exact standard_planAggregates haggregates item haggregate

/-! ## Plans -/

/-- The tree of a plan as it is written. -/
def Plan.fragment (d : Dialect) : Plan → Fragment
  | .read r => r.select.fragment d
  | .write w => w.fragment d

/-- Every plan is written of phrases. -/
theorem written_of_planned {p : Plan} (h : Planned c (d.has .filteredAggregates) q p) :
    Written d false (p.fragment d) := by
  cases h with
  | find h => exact Select.written_fragment (standard_planFind h)
  | count h => exact Select.written_fragment (standard_planCount h)
  | aggregate h => exact Select.written_fragment (standard_planAggregate h)
  | groupBy h => exact Select.written_fragment (standard_planGroupBy h)
  | create h => exact Write.written_fragment _
  | createMany h => exact Write.written_fragment _
  | update returned h => exact Write.written_fragment _
  | upsert h => exact Write.written_fragment _
  | delete h => exact Write.written_fragment _

end RelationalQuery.Compile

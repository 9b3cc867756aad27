import Mathlib.Data.Sym.Sym2
import Mathlib.Data.Multiset.Basic
import RelationalQuery.Proofs.Compile.Conditions
import RelationalQuery.Proofs.Compile.Where
import RelationalQuery.Proofs.Schema.Inverse

/-!
# What rows are tied by

A subquery over related rows and a join both tie rows by equations of columns. The columns are written
with the names of tables, which are found among the tables in sight. `ties` looks them up: it says
which column of which table each side of an equation is, or nothing where a name is ambiguous.

* `ties_of_criterionConditions` — the subquery of a relation filter is tied as the link of its relation
  says, if the names of its tables are different, and by nothing otherwise.
* `ties_of_join` — so is a join, whose tables always have different names.

## Shape of the scopes

A `Seat` is a table in a `FROM`, together with the model whose rows it has. Join tables have rows of no
model. Seats are listed as the headings of `Engine` are: one list for each `FROM`, from the innermost
one on.
-/

namespace RelationalQuery

open Sql

/-! ## Seats -/

/-- A column of the rows of a model, or of a join table. -/
structure Spot where
  model : Option String
  table : String
  column : String
  deriving DecidableEq, Repr

/-- A table in a `FROM`, and the model whose rows it has. -/
structure Seat where
  table : Table
  model : Option String
  deriving DecidableEq, Repr

namespace Seat

/-- The name by which the table is found. -/
def name (seat : Seat) : String := seat.table.reference

/-- A column of the table. -/
def spot (seat : Seat) (column : String) : Spot := ⟨seat.model, seat.table.name, column⟩

/-- Whether a column may be one of the table: by its qualifier, if it has one. -/
def offers (seat : Seat) (column : Column) : Bool :=
  match column.table with
  | some name => seat.name == name
  | none => true

end Seat

/-- The column that is meant where some tables are in sight. It belongs to the innermost scope that
offers it, and there to one table only. -/
def Sql.Column.spot? : List (List Seat) → Column → Option Spot
  | [], _ => none
  | scope :: outer, column =>
    match scope.filter (·.offers column) with
    | [] => spot? outer column
    | [seat] => some (seat.spot column.name)
    | _ => none

/-- The pairs of columns that are equated where some tables are in sight. The sides of an equation are
in no order, nor are the equations. -/
def ties (scopes : List (List Seat)) (equations : List (Column × Column)) :
    Option (Multiset (Sym2 Spot)) :=
  Multiset.ofList <$> equations.mapM fun columns => do
    return s(← columns.1.spot? scopes, ← columns.2.spot? scopes)

/-- The pairs of columns that rows of a model and of a target are tied by. -/
def Link.ties (s : Schema) (model target : String) : Link → Option (Multiset (Sym2 Spot))
  | direct own other =>
    some {s(⟨some model, s.tableOf model, own⟩, ⟨some target, s.tableOf target, other⟩)}
  | junction none _ _ _ _ => none
  | junction (some table) ownId ownColumn targetColumn targetId =>
    some {s(⟨none, table, ownColumn⟩, ⟨some model, s.tableOf model, ownId⟩),
      s(⟨none, table, targetColumn⟩, ⟨some target, s.tableOf target, targetId⟩)}

/-- The pairs of columns that rows of a model and of its relation's target are tied by. -/
def Schema.ties (s : Schema) (model : String) (relation : Relation) :
    Option (Multiset (Sym2 Spot)) :=
  (s.link model relation).ties s model relation.target

/-- Seen from the other side, rows are tied by the same pairs of columns. -/
theorem Link.ties_swap (s : Schema) (a b : String) (link : Link) :
    link.swap.ties s b a = link.ties s a b := by
  cases link with
  | direct own target => rw [swap, Link.ties, Link.ties, Sym2.eq_swap]
  | junction table ownId ownColumn targetColumn targetId =>
    cases table with
    | none => rfl
    | some table => rw [swap, Link.ties, Link.ties, Multiset.pair_comm]

/-! ## Columns in sight -/

section Sight

variable {scope : List Seat} {scopes : List (List Seat)}

/-- A column that is qualified by a table of the innermost scope is one of that table, if the names
there are different. -/
theorem spot?_qualified (h : (scope.map Seat.name).Nodup) {seat : Seat} (hmem : seat ∈ scope)
    (column : String) :
    Column.spot? (scope :: scopes) ⟨some seat.name, column⟩ = some (seat.spot column) := by
  have hfound : scope.filter (·.offers ⟨some seat.name, column⟩) = [seat] := filter_name_eq h hmem
  rw [Column.spot?, hfound]

/-- A scope without a table of a name is passed over by columns with that qualifier. -/
theorem spot?_skip {name : String} (h : name ∉ scope.map Seat.name) (column : String) :
    Column.spot? (scope :: scopes) ⟨some name, column⟩ =
      Column.spot? scopes ⟨some name, column⟩ := by
  have hnone : scope.filter (·.offers ⟨some name, column⟩) = [] := by
    rw [List.filter_eq_nil_iff]
    intro seat hseat hname
    exact h (beq_iff_eq.mp hname ▸ List.mem_map_of_mem hseat)
  rw [Column.spot?, hnone]

/-- A name that two tables share is ambiguous. -/
theorem spot?_ambiguous {first second : Seat} (h : first.name = second.name) (column : String) :
    Column.spot? ([first, second] :: scopes) ⟨some second.name, column⟩ = none := by
  have hboth : [first, second].filter (·.offers ⟨some second.name, column⟩) = [first, second] := by
    simp [Seat.offers, h]
  rw [Column.spot?, hboth]

/-- The ties of two equations whose columns are known. -/
theorem ties_pair {l r l' r' : Column} {x y x' y' : Spot} (hl : l.spot? scopes = some x)
    (hr : r.spot? scopes = some y) (hl' : l'.spot? scopes = some x')
    (hr' : r'.spot? scopes = some y') :
    ties scopes [(l, r), (l', r')] = some {s(x, y), s(x', y')} := by
  simp only [ties, List.mapM_cons, List.mapM_nil, hl, hr, hl', hr']
  rfl

/-- The ties of one equation whose columns are known. -/
theorem ties_singleton {l r : Column} {x y : Spot} (hl : l.spot? scopes = some x)
    (hr : r.spot? scopes = some y) : ties scopes [(l, r)] = some {s(x, y)} := by
  simp only [ties, List.mapM_cons, List.mapM_nil, hl, hr]
  rfl

end Sight

namespace Compile

/-- The seat of an occurrence. -/
def Occurrence.seat (row : Occurrence) : Seat := ⟨row.table, some row.model⟩

/-- Whether the columns of an occurrence are found where some tables are in sight. -/
structure Seated (c : Context) (scopes : List (List Seat)) (row : Occurrence) : Prop where
  table : row.table.name = c.schema.tableOf row.model
  found : ∀ column, (row.outer column).spot? scopes =
    some ⟨some row.model, c.schema.tableOf row.model, column⟩

/-- An occurrence with a seat among others of different names is found. -/
theorem seated_of_mem {c : Context} {row : Occurrence} {seats : List Seat}
    {scopes : List (List Seat)}
    (table : row.table.name = c.schema.tableOf row.model) (mem : row.seat ∈ seats)
    (nodup : (seats.map Seat.name).Nodup) : Seated c (seats :: scopes) row where
  table := table
  found column := by
    rw [← table]
    exact spot?_qualified nodup mem column

end Compile

open Compile

/-! ## Relation filters -/

/-- The seats of the tables of a subquery, whose rows are related rows of a model. -/
def Sql.Source.seats (model : String) : Source → List Seat
  | single table => [⟨table, some model⟩]
  | linked junction target _ _ => [⟨junction, none⟩, ⟨target, some model⟩]

theorem Sql.Source.map_name_seats (model : String) (source : Source) :
    (source.seats model).map Seat.name = source.names := by
  cases source <;> rfl

namespace Compile

variable {c : Context} {scope : Scope} {relation : Relation} {entry : Entry}
  {used after : List String} {scopes : List (List Seat)}

namespace Tied

/-- The rows of a relation that has a tied subquery are tied by columns. -/
theorem isSome_ties (h : Tied c scope relation entry) :
    (c.schema.ties scope.row.model relation).isSome := by
  cases h with
  | single link model table fresh => rw [Schema.ties, link]; rfl
  | linked link model table aliased junctionFresh fresh => rw [Schema.ties, link]; rfl

/-- The related row of a tied subquery has a seat there. -/
theorem seat_mem (h : Tied c scope relation entry) :
    entry.row.seat ∈ entry.source.seats relation.target ∧
      entry.row.table.name = c.schema.tableOf entry.row.model := by
  cases h with
  | single link model table fresh =>
    refine ⟨?_, table⟩
    rw [Occurrence.seat, ← model]
    exact List.mem_cons_self
  | linked link model table aliased junctionFresh fresh =>
    refine ⟨?_, table⟩
    rw [Occurrence.seat, ← model]
    exact List.mem_cons_of_mem _ List.mem_cons_self

/-- The columns of the related row are found inside, if the names there are different. -/
theorem seated (h : Tied c scope relation entry) (hnames : entry.source.names.Nodup)
    (scopes : List (List Seat)) :
    Seated c (entry.source.seats relation.target :: scopes) entry.row :=
  seated_of_mem h.seat_mem.2 h.seat_mem.1 (Source.map_name_seats _ _ ▸ hnames)

/-- The columns of the related row are those of the target. -/
theorem spot?_inside (h : Tied c scope relation entry) (hnames : entry.source.names.Nodup)
    (scopes : List (List Seat)) (column : String) :
    (entry.row.outer column).spot? (entry.source.seats relation.target :: scopes) =
      some ⟨some relation.target, c.schema.tableOf relation.target, column⟩ := by
  have hfound := (h.seated hnames scopes).found column
  rw [h.model_row] at hfound
  exact hfound

/-- From inside of a tied subquery the columns of the row outside are still found. -/
theorem spot?_outside (h : Tied c scope relation entry) (hseen : scope.row.name ∈ scope.visible)
    (hseated : Seated c scopes scope.row) (column : String) :
    (scope.row.outer column).spot? (entry.source.seats relation.target :: scopes) =
      some ⟨some scope.row.model, c.schema.tableOf scope.row.model, column⟩ := by
  have hnotMem := h.notMem_sourceNames hseen
  rw [← entry.source.map_name_seats relation.target] at hnotMem
  rw [Occurrence.outer, spot?_skip hnotMem]
  exact hseated.found column

/-- The subquery of a relation is tied to the row outside by the columns of the link, if the names of
its tables are different. -/
theorem ties_eq (h : Tied c scope relation entry) (hseen : scope.row.name ∈ scope.visible)
    (hseated : Seated c scopes scope.row) (hnames : entry.source.names.Nodup) :
    ties (entry.source.seats relation.target :: scopes)
        (entry.source.equations ++ [(entry.left, entry.right)]) =
      c.schema.ties scope.row.model relation := by
  have hinside := h.spot?_inside hnames scopes
  have houtside := h.spot?_outside hseen hseated
  cases h with
  | @single row own target link model table fresh =>
    have hleft : (row.own target).spot? ([⟨row.table, some relation.target⟩] :: scopes) =
        some ⟨some relation.target, c.schema.tableOf relation.target, target⟩ := by
      cases halias : row.table.aliasName with
      | none =>
        -- an unqualified column is one of the only table there is
        rw [Occurrence.own, halias, ← model, ← table]
        rfl
      | some aliasName =>
        rw [own_eq_outer halias]
        exact hinside target
    rw [Schema.ties, link, Link.ties, Sym2.eq_swap]
    exact ties_singleton hleft (houtside own)
  | @linked junction row ownId ownColumn targetColumn targetId link model table aliased
      junctionFresh fresh =>
    have hnodup : ([⟨junction, none⟩, ⟨row.table, some relation.target⟩].map Seat.name).Nodup :=
      hnames
    have hjunction (column : String) : Column.spot?
        ([⟨junction, none⟩, ⟨row.table, some relation.target⟩] :: scopes)
        ⟨some junction.reference, column⟩ = some ⟨none, junction.name, column⟩ :=
      spot?_qualified hnodup List.mem_cons_self column
    rw [Schema.ties, link, Link.ties, Multiset.pair_comm, Sym2.eq_swap]
    exact ties_pair (hinside targetId) (hjunction targetColumn) (hjunction ownColumn)
      (houtside ownId)

/-- A subquery in which two tables share a name is ambiguous. -/
theorem ties_eq_none (h : Tied c scope relation entry) (hnames : ¬ entry.source.names.Nodup)
    (scopes : List (List Seat)) :
    ties (entry.source.seats relation.target :: scopes)
      (entry.source.equations ++ [(entry.left, entry.right)]) = none := by
  cases h with
  | single link model table fresh => exact absurd (List.nodup_singleton _) hnames
  | @linked junction row ownId ownColumn targetColumn targetId link model table aliased
      junctionFresh fresh =>
    have hsame : Seat.name ⟨junction, none⟩ = Seat.name ⟨row.table, some relation.target⟩ := by
      simpa [Entry.linked, Source.names, Seat.name] using hnames
    have hambiguous : (row.outer targetId).spot?
        ([⟨junction, none⟩, ⟨row.table, some relation.target⟩] :: scopes) = none :=
      spot?_ambiguous hsame targetId
    show ties ([⟨junction, none⟩, ⟨row.table, some relation.target⟩] :: scopes)
      [(row.outer targetId, _), _] = none
    simp only [ties, List.mapM_cons, hambiguous]
    rfl

end Tied

/-! ## Scopes of filters -/

/-- Where filters are compiled: in a scope, with some names used up, where some tables are in sight. A
filter starts with the row of a table in a `FROM`, and goes on inside of the subqueries of relation
filters. -/
inductive Standing (c : Context) : Scope → List String → List (List Seat) → Prop
  | outermost {row : Occurrence} {seats : List Seat} {used : List String}
    (table : row.table.name = c.schema.tableOf row.model) (mem : row.seat ∈ seats)
    (distinct : (seats.map Seat.name).Nodup) (taken : seats.map Seat.name ⊆ used) :
    Standing c ⟨row, seats.map Seat.name, false⟩ used [seats]
  | inside {scope : Scope} {field : String} {relation : Relation} {entry : Entry}
    {used between later : List String} {scopes : List (List Seat)}
    (outside : Standing c scope used scopes)
    (entered : enter c scope field relation used = .ok (entry, between))
    (distinct : entry.source.names.Nodup) (taken : between ⊆ later) :
    Standing c ⟨entry.row, entry.row.name :: scope.visible, true⟩ later
      (entry.source.seats relation.target :: scopes)

/-- Wherever a filter is compiled, the columns of its row are found, and the names in sight are used
up. -/
theorem Standing.seated (h : Standing c scope used scopes) :
    Seated c scopes scope.row ∧ scope.row.name ∈ scope.visible ∧ scope.visible ⊆ used := by
  induction h with
  | outermost table mem distinct taken =>
    exact ⟨seated_of_mem table mem distinct, List.mem_map_of_mem mem, taken⟩
  | inside outside entered distinct taken ih =>
    obtain ⟨-, -, hvisible⟩ := ih
    obtain ⟨htied, hname, hkept⟩ := tied_of_enter hvisible entered
    refine ⟨htied.seated distinct _, List.mem_cons_self, ?_⟩
    exact List.cons_subset.mpr ⟨taken hname, fun _ h => taken (hkept (hvisible h))⟩

/-- A relation filter is compiled to one subquery. It is tied to the row outside by the columns of the
link if the names of its tables are different, and otherwise it is ambiguous. -/
theorem ties_of_criterionConditions {key : String} {quantifier : Quantifier} {nested : Filter}
    {clause : Clause} (hstanding : Standing c scope used scopes)
    (hrelation : c.schema.relation? scope.row.model key = some relation)
    (h : criterionConditions c scope key (.related quantifier nested) used = .ok (clause, after)) :
    (c.schema.ties scope.row.model relation).isSome ∧
      ∃ negated source left right inner, clause = [.subquery negated source left right inner] ∧
        ties (source.seats relation.target :: scopes) (source.equations ++ [(left, right)]) =
          if source.names.Nodup then c.schema.ties scope.row.model relation else none := by
  obtain ⟨hseated, hseen, hvisible⟩ := hstanding.seated
  obtain ⟨found, entry, between, inner, hquantifiable, -, henter, -, rfl⟩ := related_eq_ok h
  obtain rfl : found = relation :=
    Option.some.inj ((relation?_of_quantifiable hquantifiable).symm.trans hrelation)
  obtain ⟨htied, -, -⟩ := tied_of_enter hvisible henter
  have hties : ties (entry.source.seats found.target :: scopes)
      (entry.source.equations ++ [(entry.left, entry.right)]) =
        if entry.source.names.Nodup then c.schema.ties scope.row.model found else none := by
    split
    · next hnames => exact htied.ties_eq hseen hseated hnames
    · next hnames => exact htied.ties_eq_none hnames scopes
  refine ⟨htied.isSome_ties, ?_⟩
  cases quantifier with
  | some => exact ⟨_, _, _, _, _, rfl, hties⟩
  | none => exact ⟨_, _, _, _, _, rfl, hties⟩
  | every => exact ⟨_, _, _, _, _, rfl, hties⟩

/-! ## Joins -/

/-- The seats of the tables of a join. A table other than that of the related row is a join table. -/
def PlannedJoin.seats (c : Context) (join : PlannedJoin) : List Seat :=
  match joinSteps c join with
  | .ok steps =>
    steps.map fun step => ⟨step.1, if step.1 = join.row.table then some join.row.model else none⟩
  | .error _ => []

/-- The seats of all tables in the `FROM` of a read that finds rows. -/
def findSeats (c : Context) (q : Query) (joins : List PlannedJoin) : List Seat :=
  (findBase c q).seat :: joins.flatMap (PlannedJoin.seats c)

variable {q : Query} {visible : List String} {join : PlannedJoin} {rendered : Join}
  {joins : List PlannedJoin} {computed : List Item} {joined : List Join}

/-- The seats of a rendered join go by the names that were planned for it. -/
theorem map_name_seats (h : renderJoin c visible join = .ok rendered) :
    (join.seats c).map Seat.name = join.names := by
  rw [PlannedJoin.seats, joinSteps_of_renderJoin h, ← names_renderJoin h, List.map_map]
  rfl

/-- The names in sight of the filters of a read are those of its seats. -/
theorem map_name_findSeats (parts : FindParts c q joins computed joined) :
    (findSeats c q joins).map Seat.name = findVisible c q joins := by
  rw [findSeats, List.map_cons, List.map_flatMap]
  refine congrArg _ (List.flatMap_congr fun join hjoin => ?_)
  obtain ⟨rendered, -, hrendered⟩ := ok_of_mem_mapM parts.rendered hjoin
  exact map_name_seats hrendered

/-- The seats of a read go by different names. -/
theorem nodup_findSeats (parts : FindParts c q joins computed joined) :
    ((findSeats c q joins).map Seat.name).Nodup := by
  rw [map_name_findSeats parts]
  exact (nodup_findVisible parts.planned).1

/-- A join of a queue has the alias of its number, and is joined to a row that the queue starts with
or to the row of another join. -/
theorem joined_of_mem_number (next : Nat) (queue : List (Occurrence × IncludeTree)) :
    ∀ join ∈ number c next queue,
      join.row = .aliased c join.relation.target (tableAlias join.number) ∧
      (join.parent ∈ queue.map Prod.fst ∨ ∃ above ∈ number c next queue, above.row = join.parent) := by
  induction next, queue using number.induct c with
  | case1 next =>
    rw [number]
    exact fun join h => absurd h List.not_mem_nil
  | case2 next parent tree queue first ih =>
    rw [number]
    intro join hjoin
    rcases List.mem_cons.mp hjoin with rfl | hjoin
    · refine ⟨?_, .inl ?_⟩
      · cases tree
        rfl
      · cases tree
        exact List.mem_cons_self
    · obtain ⟨hrow, hparent⟩ := ih join hjoin
      refine ⟨hrow, ?_⟩
      rcases hparent with hqueue | ⟨above, habove, heq⟩
      · rw [List.map_append, List.mem_append, List.map_map] at hqueue
        rcases hqueue with hqueue | hbelow
        · exact .inl (List.mem_cons_of_mem _ hqueue)
        · -- below the first tree, rows are joined to its own
          obtain ⟨child, -, hchild⟩ := List.mem_map.mp hbelow
          exact .inr ⟨first, List.mem_cons_self, hchild⟩
      · exact .inr ⟨above, List.mem_cons_of_mem _ habove, heq⟩

/-- The related row of a rendered join has a seat in its read. -/
theorem seat_mem_findSeats (hjoin : join ∈ joins)
    (h : renderJoin c visible join = .ok rendered) : join.row.seat ∈ findSeats c q joins := by
  have hseats : join.row.seat ∈ join.seats c := by
    rw [PlannedJoin.seats, joinSteps_of_renderJoin h]
    rcases steps_of_joinSteps (joinSteps_of_renderJoin h) with
      ⟨own, target, -, hsteps⟩ | ⟨table, ownId, ownColumn, targetColumn, targetId, -, hsteps⟩
    · simp [hsteps, Occurrence.seat]
    · simp [hsteps, linkedSteps, Occurrence.seat]
  exact List.mem_cons_of_mem _ (List.mem_flatMap.mpr ⟨join, hjoin, hseats⟩)

/-- The row that a join of a read is joined to has a seat there, as has the related row, which goes
by the alias of the join's number. -/
theorem seated_of_mem_joins (parts : FindParts c q joins computed joined) (hjoin : join ∈ joins) :
    Seated c [findSeats c q joins] join.parent ∧ Seated c [findSeats c q joins] join.row ∧
      join.row = .aliased c join.relation.target (tableAlias join.number) := by
  have hnodup := nodup_findSeats parts
  have hnumbered : ∀ other ∈ joins,
      other.row = .aliased c other.relation.target (tableAlias other.number) ∧
      (other.parent = findBase c q ∨ ∃ above ∈ joins, above.row = other.parent) := by
    intro other hother
    have hplanned := parts.planned
    obtain rfl := eq_number_of_planJoins hplanned
    obtain ⟨heq, hparent⟩ := joined_of_mem_number _ _ other hother
    refine ⟨heq, hparent.imp_left fun hbase => ?_⟩
    rw [List.map_map] at hbase
    obtain ⟨tree, -, hbase⟩ := List.mem_map.mp hbase
    exact hbase.symm
  have hrow {other : PlannedJoin} (hother : other ∈ joins) :
      Seated c [findSeats c q joins] other.row := by
    obtain ⟨rendered, -, hrendered⟩ := ok_of_mem_mapM parts.rendered hother
    refine seated_of_mem ?_ (seat_mem_findSeats hother hrendered) hnodup
    rw [(hnumbered other hother).1]
    rfl
  obtain ⟨heq, hparent⟩ := hnumbered join hjoin
  refine ⟨?_, hrow hjoin, heq⟩
  rcases hparent with hbase | ⟨above, habove, hparent⟩
  · rw [hbase]
    have htable := table_findBase c q
    rw [← model_findBase c q] at htable
    exact seated_of_mem htable List.mem_cons_self hnodup
  · rw [← hparent]
    exact hrow habove

/-- The columns of the join table of a rendered join are found in its read. -/
theorem spot?_joinTable (parts : FindParts c q joins computed joined) (hjoin : join ∈ joins)
    {table ownId ownColumn targetColumn targetId : String}
    (h : joinSteps c join = .ok (linkedSteps join table ownId ownColumn targetColumn targetId))
    (column : String) :
    Column.spot? [findSeats c q joins] ⟨some (junctionAlias join.number), column⟩ =
      some ⟨none, table, column⟩ := by
  have hrow := (seated_of_mem_joins parts hjoin).2.2
  have hother : (⟨table, some (junctionAlias join.number)⟩ : Table) ≠ join.row.table := by
    intro heq
    rw [hrow] at heq
    exact tableAlias_ne_junctionAlias _ _ (Option.some.inj (Table.mk.inj heq).2).symm
  have hseat : (⟨⟨table, some (junctionAlias join.number)⟩, none⟩ : Seat) ∈ join.seats c := by
    rw [PlannedJoin.seats, h]
    simp [linkedSteps, hother]
  exact spot?_qualified (nodup_findSeats parts)
    (List.mem_cons_of_mem _ (List.mem_flatMap.mpr ⟨join, hjoin, hseat⟩)) column

/-- A join of a read is tied to the row that it is joined to by the columns of the link. -/
theorem ties_of_join (parts : FindParts c q joins computed joined) (hjoin : join ∈ joins)
    (h : renderJoin c visible join = .ok rendered) :
    (c.schema.ties join.parent.model join.relation).isSome ∧
      ties [findSeats c q joins] (rendered.steps.map Prod.snd) =
        c.schema.ties join.parent.model join.relation := by
  have hsteps := joinSteps_of_renderJoin h
  obtain ⟨hparent, hrow, heq⟩ := seated_of_mem_joins parts hjoin
  have htarget (column : String) : (join.row.outer column).spot? [findSeats c q joins] =
      some ⟨some join.relation.target, c.schema.tableOf join.relation.target, column⟩ := by
    have hfound := hrow.found column
    rw [show join.row.model = join.relation.target by rw [heq]; rfl] at hfound
    exact hfound
  rw [Schema.ties]
  rcases steps_of_joinSteps hsteps with
    ⟨own, target, link, heqSteps⟩ | ⟨table, ownId, ownColumn, targetColumn, targetId, link, heqSteps⟩
  · have hown : join.row.own target = join.row.outer target := by
      rw [heq]
      rfl
    rw [heqSteps, link, Link.ties, Sym2.eq_swap]
    exact ⟨rfl, ties_singleton (hown ▸ htarget target) (hparent.found own)⟩
  · rw [heqSteps] at hsteps ⊢
    have hjunction := spot?_joinTable parts hjoin hsteps
    rw [link, Link.ties, Multiset.pair_comm, Sym2.eq_swap, Multiset.pair_comm]
    exact ⟨rfl, ties_pair (hjunction ownColumn) (hparent.found ownId) (htarget targetId)
      (hjunction targetColumn)⟩

end Compile

end RelationalQuery

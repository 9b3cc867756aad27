import RelationalQuery.Proofs.Compile.Scopes

/-!
# Subqueries over related rows

A tied subquery goes through exactly the rows that are related to the row outside, and inside of it
the related row stands where its columns are found. All of this needs the names of its `FROM` to be
different, which `enter` does not see to: the name of a join table may be the alias that was drawn
for its target.
-/

namespace RelationalQuery

open Sql Compile

/-- It does not matter which of two lists is searched first. -/
theorem any_any_comm {α β : Type} (as : List α) (bs : List β) (f : α → β → Bool) :
    (as.any fun a => bs.any fun b => f a b) = bs.any fun b => as.any fun a => f a b := by
  rw [Bool.eq_iff_iff]
  simp only [List.any_eq_true]
  constructor
  · rintro ⟨a, ha, b, hb, h⟩
    exact ⟨b, hb, a, ha, h⟩
  · rintro ⟨b, hb, a, ha, h⟩
    exact ⟨a, ha, b, hb, h⟩

namespace Engine

variable {e : Engine} {s : Schema} {model : String} {relation : Relation} {row other : StoredRow}

/-! ## Related rows -/

/-- Over a direct link a row is related if the two columns are equal. -/
theorem related_of_direct {own target : String} (h : s.link model relation = .direct own target) :
    e.related s model relation row other = e.equal (other target) (row own) := by
  rw [Schema.link] at h
  by_cases hmany : relation.isManyToMany
  · rw [if_pos hmany] at h
    cases h
  · rw [if_neg hmany] at h
    unfold related
    split
    · next hcardinality => exact absurd (beq_iff_eq.mpr hcardinality) hmany
    · by_cases hkey : s.holdsForeignKey model relation
      · rw [if_pos hkey] at h
        rw [if_pos hkey]
        obtain ⟨rfl, rfl⟩ := Link.direct.inj h
        rfl
      · rw [if_neg hkey] at h
        rw [if_neg hkey]
        obtain ⟨rfl, rfl⟩ := Link.direct.inj h
        rfl

/-- Over a join table a row is related if one of its rows holds both ids. -/
theorem related_of_junction {table ownId ownColumn targetColumn targetId : String}
    (h : s.link model relation = .junction (some table) ownId ownColumn targetColumn targetId) :
    e.related s model relation row other = (e.tables table).rows.any fun link =>
      e.equal (other targetId) (link targetColumn) && e.equal (link ownColumn) (row ownId) := by
  rw [Schema.link] at h
  by_cases hmany : relation.isManyToMany
  · rw [if_pos hmany] at h
    obtain ⟨htable, rfl, rfl, rfl, rfl⟩ := Link.junction.inj h
    unfold related
    rw [beq_iff_eq.mp hmany]
    dsimp only
    rw [htable]
  · rw [if_neg hmany] at h
    split at h <;> cases h

/-- Only equal columns make an equation true. -/
theorem equated_eq_yes {scopes : List Frame} {left right : Column} {a b : Value}
    (hleft : left.value scopes = a) (hright : right.value scopes = b) :
    decide (e.equated scopes left right = .yes) = e.equal a b := by
  rw [equated, hleft, hright, equal]

end Engine

namespace Compile.Tied

variable {e : Engine} {c : Context} {scope : Scope} {relation : Relation} {entry : Entry}
  {outer : List Heading} {scopes : List (List Heading)}

/-- The rows of a tied subquery are those of the relation's target. -/
theorem model_row (h : Tied c scope relation entry) : entry.row.model = relation.target := by
  cases h with
  | single link model table fresh => exact model
  | linked link model table aliased junctionFresh fresh => exact model

/-- The related row stands in the scope of the subquery, if the names there are different. -/
theorem stands (h : Tied c scope relation entry) (hnames : entry.source.names.Nodup) :
    Stands e c.schema entry.row (e.headings entry.source) := by
  cases h with
  | single link model table fresh => exact ⟨table, List.mem_cons_self, hnames, fun _ => rfl⟩
  | linked link model table aliased junctionFresh fresh =>
    exact ⟨table, List.mem_cons_of_mem _ List.mem_cons_self, hnames, fun h => absurd h aliased⟩

/-- No name of a tied subquery is that of the row outside. -/
theorem notMem_sourceNames (h : Tied c scope relation entry)
    (hseen : scope.row.name ∈ scope.visible) : scope.row.name ∉ entry.source.names := by
  intro hmem
  cases h with
  | single link model table fresh =>
    rw [List.mem_singleton.mp hmem] at hseen
    exact fresh hseen
  | linked link model table aliased junctionFresh fresh =>
    rcases List.mem_cons.mp hmem with heq | hmem
    · rw [heq] at hseen
      exact junctionFresh hseen
    · rw [List.mem_singleton.mp hmem] at hseen
      exact fresh hseen

/-- No table of a tied subquery hides the row outside. -/
theorem notMem_names (h : Tied c scope relation entry) (hseen : scope.row.name ∈ scope.visible) :
    scope.row.name ∉ (e.headings entry.source).map Heading.name := by
  have hnames : (e.headings entry.source).map Heading.name = entry.source.names := by
    cases entry.source <;> rfl
  rw [hnames]
  exact h.notMem_sourceNames hseen

/-- All columns that tie a subquery are bound. -/
theorem isBound_equations (h : Tied c scope relation entry) (hnames : entry.source.names.Nodup)
    (hseen : scope.row.name ∈ scope.visible) (hstands : Stands e c.schema scope.row outer)
    (htie : e.HasTie c.schema scope.row.model relation) :
    (entry.source.equations ++ [(entry.left, entry.right)]).all (fun columns =>
      columns.1.isBound (e.headings entry.source :: outer :: scopes) &&
        columns.2.isBound (e.headings entry.source :: outer :: scopes)) := by
  have hinner := h.stands (e := e) hnames
  have houter {column : String} (hcolumn : e.HasColumn c.schema scope.row.model column) :
      (scope.row.outer column).isBound (e.headings entry.source :: outer :: scopes) := by
    rw [Engine.HasColumn, ← hstands.table] at hcolumn
    rw [Occurrence.outer, isBound_skip (h.notMem_names hseen)]
    exact isBound_outer hstands hcolumn
  rw [List.all_eq_true]
  intro columns hcolumns
  rw [Bool.and_eq_true]
  cases h with
  | single link model table fresh =>
    rw [Engine.HasTie, link] at htie
    obtain ⟨hown, htarget⟩ := htie
    rw [Engine.HasColumn, ← model, ← table] at htarget
    obtain rfl := List.mem_singleton.mp hcolumns
    exact ⟨isBound_own hinner htarget, houter hown⟩
  | @linked junction row _ _ _ _ link model table aliased junctionFresh fresh =>
    rw [Engine.HasTie, link] at htie
    obtain ⟨hownId, hownColumn, htargetColumn, htargetId⟩ := htie
    rw [Engine.HasColumn, ← model, ← table] at htargetId
    have hjunction : e.heading junction ∈ [e.heading junction, e.heading row.table] :=
      List.mem_cons_self
    rcases List.mem_cons.mp hcolumns with rfl | hcolumns
    · exact ⟨isBound_outer hinner htargetId,
        isBound_qualified hinner.nodup hjunction htargetColumn⟩
    · obtain rfl := List.mem_singleton.mp hcolumns
      exact ⟨isBound_qualified hinner.nodup hjunction hownColumn, houter hownId⟩

/-! ## Rows -/

/-- From inside of a tied subquery the columns of the row outside are still found. -/
theorem value_outside (h : Tied c scope relation entry) (hseen : scope.row.name ∈ scope.visible)
    {inner frame : Frame} {frames : List Frame} {cells : StoredRow}
    (hinner : inner.headings = e.headings entry.source)
    (hstands : StandsAt e c.schema scope.row frame cells) (column : String) :
    (scope.row.outer column).value (inner :: frame :: frames) = cells column := by
  rw [Occurrence.outer, value_skip (hinner ▸ h.notMem_names hseen)]
  exact value_outer hstands column

/-- A subquery goes through the rows that are related to the row outside: whatever is asked of each
frame, if it is a matter of the related row alone, some related row answers it just as well. -/
theorem any_frames (h : Tied c scope relation entry) (hnames : entry.source.names.Nodup)
    (hseen : scope.row.name ∈ scope.visible) {frame : Frame} (frames : List Frame)
    {cells : StoredRow} (hstands : StandsAt e c.schema scope.row frame cells)
    (htie : e.HasTie c.schema scope.row.model relation)
    (ask : Frame → Bool) (answer : StoredRow → Bool)
    (hanswer : ∀ inner other, StandsAt e c.schema entry.row inner other → ask inner = answer other) :
    (e.frames entry.source).any (fun inner =>
      (entry.source.equations ++ [(entry.left, entry.right)]).all (fun columns =>
        e.equated (inner :: frame :: frames) columns.1 columns.2 = .yes) && ask inner) =
      (e.relatedRows c.schema scope.row.model relation cells).any answer := by
  have hinner := h.stands (e := e) hnames
  have houtside (inner : Frame) (hheadings : inner.headings = e.headings entry.source)
      (column : String) :
      (scope.row.outer column).value (inner :: frame :: frames) = cells column :=
    h.value_outside hseen hheadings hstands column
  rw [Engine.relatedRows, List.any_filter]
  -- the way a row is tied decides which tables the subquery goes through
  cases h with
  | @single row own target link model table fresh =>
    rw [Engine.HasTie, link] at htie
    obtain ⟨-, htarget⟩ := htie
    rw [Engine.HasColumn, ← model, ← table] at htarget
    rw [← model, ← table]
    show ((e.tables row.table.name).rows.map _).any _ = _
    rw [List.any_map]
    refine congrArg (List.any _) (funext fun other => ?_)
    have hat : StandsAt e c.schema row [⟨e.heading row.table, other⟩] other :=
      ⟨hinner, List.mem_cons_self⟩
    have hleft : (row.own target).value ([⟨e.heading row.table, other⟩] :: frame :: frames) =
        other target := value_own hat htarget
    have hright := houtside [⟨e.heading row.table, other⟩] rfl own
    rw [Engine.related_of_direct link, ← Engine.equated_eq_yes hleft hright, ← hanswer _ other hat]
    show (decide _ && true && ask _) = _
    rw [Bool.and_true]
    rfl
  | @linked junction row ownId ownColumn targetColumn targetId link model table aliased
      junctionFresh fresh =>
    have hframe (tie other : StoredRow) (inner : Frame)
        (hframe : inner = [⟨e.heading junction, tie⟩, ⟨e.heading row.table, other⟩]) :
        (e.equated (inner :: frame :: frames) (row.outer targetId)
            ⟨some junction.reference, targetColumn⟩ = .yes &&
          (e.equated (inner :: frame :: frames) ⟨some junction.reference, ownColumn⟩
            (scope.row.outer ownId) = .yes && true) && ask inner) =
        (e.equal (other targetId) (tie targetColumn) && e.equal (tie ownColumn) (cells ownId) &&
          answer other) := by
      have hheadings : inner.headings = [e.heading junction, e.heading row.table] := by
        rw [hframe]
        rfl
      have hat : StandsAt e c.schema row inner other :=
        ⟨hheadings ▸ hinner, hframe ▸ List.mem_cons_of_mem _ List.mem_cons_self⟩
      have htie : (⟨e.heading junction, tie⟩ : Binding) ∈ inner := hframe ▸ List.mem_cons_self
      have htargetId : (row.outer targetId).value (inner :: frame :: frames) = other targetId :=
        value_outer hat targetId
      have hjunction (column : String) :
          Column.value (inner :: frame :: frames) ⟨some junction.reference, column⟩ = tie column :=
        value_qualified hat.stands.nodup htie column
      have hownId := houtside inner hheadings ownId
      rw [← Engine.equated_eq_yes htargetId (hjunction targetColumn),
        ← Engine.equated_eq_yes (hjunction ownColumn) hownId, ← hanswer inner other hat,
        Bool.and_true]
    -- the subquery goes through the join table first, relatedness through the related rows
    calc (e.frames (.linked junction row.table _ _)).any _
      _ = (e.tables junction.name).rows.any fun tie => (e.tables row.table.name).rows.any
            fun other => e.equal (other targetId) (tie targetColumn) &&
              e.equal (tie ownColumn) (cells ownId) && answer other := by
          rw [Engine.frames, List.any_flatMap]
          refine congrArg (List.any _) (funext fun tie => ?_)
          rw [List.any_map]
          exact congrArg (List.any _) (funext fun other => hframe tie other _ rfl)
      _ = (e.tables row.table.name).rows.any fun other => (e.tables junction.name).rows.any
            fun tie => e.equal (other targetId) (tie targetColumn) &&
              e.equal (tie ownColumn) (cells ownId) && answer other := any_any_comm _ _ _
      _ = _ := by
          rw [← model, ← table]
          refine congrArg (List.any _) (funext fun other => ?_)
          rw [Engine.related_of_junction link, List.and_any_distrib_right]

end Compile.Tied

end RelationalQuery

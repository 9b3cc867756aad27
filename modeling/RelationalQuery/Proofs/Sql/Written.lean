import RelationalQuery.Proofs.Sql.Phrase
import RelationalQuery.Sql.Select
import RelationalQuery.Sql.Write

/-!
# What statements are written of

`Written` says that a fragment has only phrases between its names and values, and that no letter or
digit of a phrase stands right behind another one. So no digit is read as part of the number of a
value, and no two phrases run together to another word.

## Shape of the lemmas

`Written` follows `++`, `wrap` and `join`: whatever starts with a joint or a name may stand anywhere,
and whatever is written may stand behind a joint. Each tree of a statement then has one lemma, which
follows the text of the tree.
-/

namespace RelationalQuery

open Sql

namespace Fragment

/-- Whether a fragment is written of phrases, names and values. `tight` says that a letter or digit
stands right before it, or a value, whose number may end with a digit. -/
def Written (d : Dialect) (tight : Bool) : Fragment → Prop
  | [] => True
  | .text words :: rest =>
    (IsPhrase d words ∨ words ∈ constants) ∧ (tight = true → startsInWord words = false) ∧
      Written d (endsInWord words) rest
  | .name _ :: rest => Written d false rest
  | .param _ _ :: rest => Written d true rest

variable {d : Dialect} {tight : Bool}

/-- What may stand behind a letter may stand anywhere. -/
theorem Written.anywhere {f : Fragment} (h : Written d true f) : Written d tight f := by
  cases f with
  | nil => trivial
  | cons piece rest =>
    cases piece with
    | text words => exact ⟨h.1, fun _ => h.2.1 rfl, h.2.2⟩
    | name identifier => exact h
    | param group value => exact h

/-- What is written may stand behind anything but a letter or digit. -/
theorem Written.apart {f : Fragment} (h : Written d tight f) : Written d false f := by
  cases tight with
  | false => exact h
  | true => exact h.anywhere

/-- What may stand behind a letter may follow any fragment. -/
theorem Written.append {f g : Fragment} (hf : Written d tight f) (hg : Written d true g) :
    Written d tight (f ++ g) := by
  induction f generalizing tight with
  | nil => exact hg.anywhere
  | cons piece rest ih =>
    cases piece with
    | text words => exact ⟨hf.1, hf.2.1, ih hf.2.2⟩
    | name identifier => exact ih hf
    | param group value => exact ih hf

/-- A phrase that starts with neither letter nor digit may stand anywhere. -/
theorem written_text {words : String} (h : IsPhrase d words) (hstart : startsInWord words = false) :
    Written d tight (ofText words) :=
  ⟨Or.inl h, fun _ => hstart, trivial⟩

/-- Joints are phrases. -/
theorem isPhrase_joint {words : String} (h : words ∈ joints) : IsPhrase d words :=
  .common (List.mem_append_left _ (List.mem_append_left _ h))

/-- Openings are phrases. -/
theorem isPhrase_opening {words : String} (h : words ∈ openings) : IsPhrase d words :=
  .common (List.mem_append_right _ h)

/-- A joint may stand anywhere. -/
theorem written_joint {words : String} (h : words ∈ joints) : Written d tight (ofText words) :=
  written_text (isPhrase_joint h) (joints_apart words h).1

/-- An ending may stand anywhere. -/
theorem written_ending {words : String} (h : words ∈ endings) : Written d tight (ofText words) :=
  written_text (.common (List.mem_append_left _ (List.mem_append_right _ h)))
    (endings_apart words h)

/-- An opening may stand where no letter or digit does. -/
theorem written_opening {words : String} (h : words ∈ openings) : Written d false (ofText words) :=
  ⟨Or.inl (isPhrase_opening h), fun h => Bool.noConfusion h, trivial⟩

theorem written_name (identifier : String) : Written d tight (ofName identifier) := trivial

theorem written_param (group : ParamGroup) (value : Value) :
    Written d tight (ofParam group value) := trivial

/-- Whatever is written may stand behind a joint. -/
theorem Written.after {words : String} {f : Fragment} (h : words ∈ joints)
    (hf : Written d false f) : Written d tight (ofText words ++ f) :=
  ⟨Or.inl (isPhrase_joint h), fun _ => (joints_apart words h).1, by rwa [(joints_apart words h).2]⟩

/-- Whatever is written may stand behind an opening that does not end with a letter. -/
theorem Written.afterOpening {words : String} {f : Fragment} (h : words ∈ openings)
    (hend : endsInWord words = false) (hf : Written d false f) :
    Written d false (ofText words ++ f) :=
  ⟨Or.inl (isPhrase_opening h), fun h => Bool.noConfusion h, by rwa [hend]⟩

/-- A fragment between two joints. -/
theorem Written.wrap {opening closing : String} {inner : Fragment} (hopening : opening ∈ joints)
    (hinner : Written d false inner) (hclosing : closing ∈ joints) :
    Written d tight (wrap opening inner closing) :=
  (hinner.append (written_joint hclosing)).after hopening

/-- A fragment between a phrase that does not end with a letter and a joint. -/
theorem Written.wrapOpening {opening closing : String} {inner : Fragment}
    (hopening : IsPhrase d opening) (hend : endsInWord opening = false)
    (hinner : Written d false inner) (hclosing : closing ∈ joints) :
    Written d false (Fragment.wrap opening inner closing) := by
  refine ⟨Or.inl hopening, fun h => Bool.noConfusion h, ?_⟩
  rw [hend]
  exact hinner.append (written_joint hclosing)

/-- A fragment with others behind it, each after a joint. -/
theorem written_join_cons {separator : String} {first : Fragment} {rest : List Fragment}
    (hseparator : separator ∈ joints) (hfirst : Written d tight first)
    (hrest : ∀ f ∈ rest, Written d false f) :
    Written d tight (join separator (first :: rest)) := by
  induction rest generalizing tight first with
  | nil => exact hfirst
  | cons next rest ih =>
    have hnext : Written d false (join separator (next :: rest)) :=
      ih (hrest next List.mem_cons_self) fun f hf => hrest f (List.mem_cons_of_mem next hf)
    exact hfirst.append (hnext.after hseparator)

/-- Fragments with a joint between them. -/
theorem written_join {separator : String} {fs : List Fragment} (hseparator : separator ∈ joints)
    (h : ∀ f ∈ fs, Written d tight f) : Written d tight (join separator fs) := by
  cases fs with
  | nil => trivial
  | cons first rest =>
    exact written_join_cons hseparator (h first List.mem_cons_self)
      fun f hf => (h f (List.mem_cons_of_mem first hf)).apart

end Fragment

namespace Sql

open Fragment

variable {d : Dialect} {tight : Bool}

/-! ## Conditions -/

theorem Table.written_fragment (t : Table) : Written d tight t.fragment := by
  rw [Table.fragment]
  refine (written_name t.name).append ?_
  cases t.aliasName with
  | none => trivial
  | some aliasName => exact (written_joint (by decide)).append (written_name aliasName)

theorem Column.written_fragment (c : Column) : Written d tight c.fragment := by
  rw [Column.fragment]
  cases c.table with
  | none => exact written_name c.name
  | some table =>
    exact ((written_name table).append (written_joint (by decide))).append (written_name c.name)

theorem Column.written_equation (left right : Column) :
    Written d tight (Column.equation left right) :=
  (left.written_fragment.append (written_joint (by decide))).append right.written_fragment

theorem Source.written_fragment (s : Source) : Written d tight s.fragment := by
  cases s with
  | single table => exact table.written_fragment
  | linked junction target left right =>
    exact (((junction.written_fragment.append (written_joint (by decide))).append
      target.written_fragment).append (written_joint (by decide))).append
        (Column.written_equation left right)

/-- The word of a comparison with a blank on both sides. -/
theorem Comparator.written_sql (op : Comparator) : Written d tight (ofText s!" {op.sql d} ") := by
  cases op with
  | like insensitive =>
    by_cases h : insensitive && d.has .insensitiveSearch
    · rw [Comparator.sql, if_pos h]
      rw [Bool.and_eq_true] at h
      exact written_text (.feature .insensitiveSearch h.2 (by decide)) (by decide)
    · rw [Comparator.sql, if_neg h]
      exact written_joint (by decide)
  | _ => exact written_joint (by rw [Comparator.sql]; decide)

theorem written_constant (holds : Bool) : Written d false (constant holds) :=
  ⟨Or.inr (by cases holds <;> decide), fun h => Bool.noConfusion h, trivial⟩

/-- Conditions that hold together. -/
theorem written_conjunction {fs : List Fragment} (h : ∀ f ∈ fs, Written d false f) :
    Written d false (conjunction fs) := by
  cases fs with
  | nil => exact written_constant true
  | cons first rest =>
    exact written_join_cons (by decide) (h first List.mem_cons_self)
      fun f hf => h f (List.mem_cons_of_mem first hf)

mutual

theorem Condition.written_fragment (group : ParamGroup) :
    (condition : Condition) → Written d false (condition.fragment d group)
  | .isNull column negated => by
    rw [Condition.fragment]
    exact column.written_fragment.append (written_ending (by cases negated <;> decide))
  | .compare column op value => by
    rw [Condition.fragment]
    exact (column.written_fragment.append op.written_sql).append
      (written_param group value)
  | .member column negated values => by
    cases values with
    | nil => exact written_constant negated
    | cons value values =>
      rw [Condition.fragment]
      · refine ((column.written_fragment.append
          (written_joint (by cases negated <;> decide))).append ?_).append
            (written_joint (by decide))
        refine written_join (by decide) fun f hf => ?_
        obtain ⟨v, -, rfl⟩ := List.mem_map.mp hf
        exact written_param group v
      · exact List.cons_ne_nil value values
  | .junction all clauses => by
    cases clauses with
    | nil => exact written_constant all
    | cons clause clauses =>
      rw [Condition.fragment]
      · refine Written.wrap (by decide) ?_ (by decide)
        refine written_join (by cases all <;> decide) ?_
        exact Condition.written_clauseFragments group (clause :: clauses)
      · exact List.cons_ne_nil clause clauses
  | .negation clause => by
    rw [Condition.fragment]
    exact Written.wrapOpening (isPhrase_opening (by decide)) (by decide)
      (written_conjunction (Condition.written_fragments group clause)) (by decide)
  | .subquery negated source left right conditions => by
    rw [Condition.fragment]
    -- the conditions stand behind `AND`, so a constant among them follows no value
    refine Written.wrapOpening (isPhrase_opening (by cases negated <;> decide))
      (by cases negated <;> decide) ?_ (by decide)
    refine (source.written_fragment.append (written_joint (by decide))).append ?_
    exact written_join_cons (by decide) (Column.written_equation left right)
      (Condition.written_fragments group conditions)

theorem Condition.written_fragments (group : ParamGroup) :
    (conditions : List Condition) → ∀ f ∈ Condition.fragments d group conditions, Written d false f
  | [], f, hf => absurd hf (by rw [Condition.fragments]; exact List.not_mem_nil)
  | condition :: rest, f, hf => by
    rw [Condition.fragments, List.mem_cons] at hf
    rcases hf with rfl | hf
    · exact Condition.written_fragment group condition
    · exact Condition.written_fragments group rest f hf

theorem Condition.written_clauseFragments (group : ParamGroup) :
    (clauses : List (List Condition)) →
      ∀ f ∈ Condition.clauseFragments d group clauses, Written d false f
  | [], f, hf => absurd hf (by rw [Condition.clauseFragments]; exact List.not_mem_nil)
  | clause :: rest, f, hf => by
    rw [Condition.clauseFragments, List.mem_cons] at hf
    rcases hf with rfl | hf
    · exact Written.wrap (by decide)
        (written_conjunction (Condition.written_fragments group clause)) (by decide)
    · exact Condition.written_clauseFragments group rest f hf

end

theorem Clause.written_fragment (group : ParamGroup) (clause : Clause) :
    Written d false (clause.fragment d group) :=
  written_conjunction (Condition.written_fragments group clause)

theorem Clause.written_whereFragment (clause : Clause) :
    Written d tight (clause.whereFragment d) := by
  rw [Clause.whereFragment]
  split
  · trivial
  · exact (clause.written_fragment .condition).after (by decide)

/-! ## Reads -/

/-- Whether a projection applies an aggregate function, if it applies one. -/
def Projection.Standard : Projection → Prop
  | .apply function _ => function ∈ aggregateFunctions
  | _ => True

/-- Whether an item applies aggregate functions only, and counts with a filter only where the
dialect can. -/
def Item.Standard (d : Dialect) : Item → Prop
  | .aggregate projection _ => projection.Standard
  | .filteredCount _ _ => d.has .filteredAggregates
  | .scalar query _ => query.projection.Standard
  | _ => True

theorem OrderKey.written_fragment (key : OrderKey) : Written d tight (key.fragment d) := by
  rw [OrderKey.fragment]
  refine (key.column.written_fragment.append
    (written_ending (by cases key.direction <;> decide))).append ?_
  cases key.nulls with
  | none => trivial
  | some place =>
    by_cases h : d.has .nullsPlace
    · simp only [h, if_true]
      exact written_text (.feature .nullsPlace h (by cases place <;> decide))
        (by cases place <;> decide)
    · simp only [h]
      trivial

theorem written_orderFragment (keys : List OrderKey) :
    Written d tight (orderFragment d keys) := by
  rw [orderFragment]
  split
  · trivial
  · refine (written_joint (by decide)).append (written_join (by decide) ?_)
    intro f hf
    obtain ⟨key, -, rfl⟩ := List.mem_map.mp hf
    exact key.written_fragment

theorem written_limitFragment (take skip : Option Int64) :
    Written d tight (limitFragment d take skip) := by
  have hpage (limit offset : String) :
      startsInWord (" LIMIT " ++ limit ++ " OFFSET " ++ offset) = false := by
    rw [String.append_assoc, String.append_assoc]
    exact startsInWord_append (by decide)
  cases take with
  | some take =>
    cases skip with
    | some skip => exact written_text (.page take skip) (hpage _ _)
    | none => exact written_text (.limit take) (startsInWord_append (by decide))
  | none =>
    cases skip with
    | none => trivial
    | some skip =>
      rw [limitFragment]
      cases h : d.unlimited with
      | some limit => exact written_text (.unlimited h skip) (hpage _ _)
      | none => exact written_text (.offset skip) (startsInWord_append (by decide))

theorem Projection.written_fragment {p : Projection} (h : p.Standard) :
    Written d false p.fragment := by
  cases p with
  | rows => exact written_opening (by decide)
  | column c => exact c.written_fragment
  | apply function c =>
    -- a function and its parenthesis are written as one phrase
    have hopening : ∀ function ∈ aggregateFunctions,
        function ++ "(" ∈ openings ∧ endsInWord (function ++ "(") = false := by decide
    exact Written.wrapOpening (isPhrase_opening (hopening function h).1) (hopening function h).2
      c.written_fragment (by decide)

theorem Match.written_fragment (m : Match) : Written d tight m.fragment := by
  cases m with
  | outer c other => exact Column.written_equation c other
  | value c v =>
    exact (c.written_fragment.append (written_joint (by decide))).append (written_param _ v)
  | null c => exact c.written_fragment.append (written_ending (by decide))

theorem ScalarQuery.written_fragment {q : ScalarQuery} (h : q.projection.Standard) :
    Written d tight (q.fragment d) := by
  have hconditions : Written d true (if q.conditions.isEmpty then [] else
      ofText " WHERE " ++ Fragment.join " AND " (q.conditions.map Match.fragment)) := by
    split
    · trivial
    · refine (written_joint (by decide)).append (written_join (by decide) ?_)
      intro f hf
      obtain ⟨m, -, rfl⟩ := List.mem_map.mp hf
      exact m.written_fragment
  have hlimit : Written d true (if q.firstOnly then ofText " LIMIT 1" else []) := by
    split
    · exact written_ending (by decide)
    · trivial
  refine Written.wrap (by decide) ?_ (by decide)
  exact (((((Projection.written_fragment h).append (written_joint (by decide))).append
    (written_name q.table)).append hconditions).append (written_orderFragment q.orderBy)).append
      hlimit

theorem Item.written_fragment {item : Item} (h : item.Standard d) :
    Written d false (item.fragment d) := by
  have halias (aliasName : String) : Written d true (ofName aliasName) := written_name aliasName
  cases item with
  | everything => exact written_joint (by decide)
  | everythingOf table => exact (written_name table).append (written_joint (by decide))
  | column c => exact c.written_fragment
  | aliased c aliasName =>
    exact (c.written_fragment.append (written_joint (by decide))).append (halias aliasName)
  | count => exact written_opening (by decide)
  | aggregate projection aliasName =>
    exact ((Projection.written_fragment h).append (written_joint (by decide))).append
      (halias aliasName)
  | filteredCount clause aliasName =>
    have hcount : Written d false
        (wrap "COUNT(*) FILTER (WHERE " (clause.fragment d .filter) ")") :=
      Written.wrapOpening (.feature .filteredAggregates h (by decide)) (by decide)
        (clause.written_fragment .filter) (by decide)
    exact (hcount.append (written_joint (by decide))).append (halias aliasName)
  | scalar query aliasName =>
    exact ((ScalarQuery.written_fragment h).append (written_joint (by decide))).append
      (halias aliasName)

theorem Page.written_fragment (p : Page) : Written d false (p.fragment d) :=
  ((((written_opening (by decide)).append p.table.written_fragment).append
    p.clause.written_whereFragment).append (written_orderFragment p.orderBy)).append
      (written_limitFragment p.take p.skip)

theorem Base.written_fragment (b : Base) : Written d tight (b.fragment d) := by
  cases b with
  | table t => exact t.written_fragment
  | page p aliasName =>
    have hpage : Written d tight (wrap "(" (p.fragment d) ")") :=
      Written.wrap (by decide) p.written_fragment (by decide)
    exact (hpage.append (written_joint (by decide))).append (written_name aliasName)

theorem Join.written_fragment (j : Join) : Written d false (j.fragment d) := by
  refine written_join_cons (by decide) ?_ (Condition.written_fragments .join j.conditions)
  refine written_join (by decide) fun f hf => ?_
  obtain ⟨step, -, rfl⟩ := List.mem_map.mp hf
  exact (((written_opening (by decide)).append step.1.written_fragment).append
    (written_joint (by decide))).append (Column.written_equation step.2.1 step.2.2)

/-- Joins, each after a blank. -/
theorem written_joins (joins : List Join) :
    Written d tight (joins.flatMap fun join => ofText " " ++ join.fragment d) := by
  induction joins generalizing tight with
  | nil => trivial
  | cons join joins ih =>
    rw [List.flatMap_cons]
    exact (join.written_fragment.after (by decide)).append ih

/-- A read whose items are standard is written of phrases. -/
theorem Select.written_fragment {s : Select} (h : ∀ item ∈ s.items, item.Standard d) :
    Written d false (s.fragment d) := by
  have hitems : Written d false (Fragment.join ", " (s.items.map (·.fragment d))) := by
    refine written_join (by decide) fun f hf => ?_
    obtain ⟨item, hitem, rfl⟩ := List.mem_map.mp hf
    exact Item.written_fragment (h item hitem)
  have hgroups : Written d true (if s.groupBy.isEmpty then [] else
      ofText " GROUP BY " ++ Fragment.join ", " (s.groupBy.map Column.fragment)) := by
    split
    · trivial
    · refine (written_joint (by decide)).append (written_join (by decide) ?_)
      intro f hf
      obtain ⟨column, -, rfl⟩ := List.mem_map.mp hf
      exact column.written_fragment
  exact (((((((hitems.afterOpening (by decide) (by decide)).append (written_joint (by decide))).append
    s.base.written_fragment).append (written_joins s.joins)).append
      s.clause.written_whereFragment).append hgroups).append
        (written_orderFragment s.orderBy)).append (written_limitFragment s.take s.skip)

/-! ## Writes -/

theorem written_namesFragment (names : List String) :
    Written d tight (namesFragment names) := by
  refine written_join (by decide) fun f hf => ?_
  obtain ⟨identifier, -, rfl⟩ := List.mem_map.mp hf
  exact written_name identifier

theorem written_tupleFragment (values : List Value) :
    Written d tight (tupleFragment values) := by
  refine Written.wrap (by decide) ?_ (by decide)
  refine written_join (by decide) fun f hf => ?_
  obtain ⟨value, -, rfl⟩ := List.mem_map.mp hf
  exact written_param .data value

theorem written_insertFragment {opening : String} (h : opening ++ " " ∈ openings)
    (table : String) (row : Assignments) :
    Written d false (insertFragment d opening table row) := by
  have hdefaults : Written d false (ofText d.defaultValues) := by
    cases d with
    | mysql => exact written_joint (by decide)
    | _ => exact written_opening (by decide)
  have hrow : Written d false (if row.isEmpty then ofText d.defaultValues else
      wrap "(" (namesFragment (row.map Prod.fst)) ") VALUES " ++
        tupleFragment (row.map Prod.snd)) := by
    split
    · exact hdefaults
    · exact (Written.wrap (by decide) (written_namesFragment _) (by decide)).append
        (written_tupleFragment _)
  -- the defaults start with a letter, but behind a blank
  rw [insertFragment, List.append_assoc _ (ofText " ")]
  exact ((written_opening h).append (written_name table)).append (hrow.after (by decide))

theorem written_assignmentsFragment (assignments : Assignments) :
    Written d tight (assignmentsFragment assignments) := by
  refine written_join (by decide) fun f hf => ?_
  obtain ⟨assignment, -, rfl⟩ := List.mem_map.mp hf
  exact ((written_name assignment.1).append (written_joint (by decide))).append
    (written_param .data assignment.2)

theorem Reference.written_fragment (group : ParamGroup) (r : Reference) :
    Written d tight (r.fragment group) := by
  cases r with
  | value v => exact written_param group v
  | lookup idColumn table column v =>
    refine Written.wrap (by decide) ?_ (by decide)
    exact ((((((written_opening (by decide)).append (written_name idColumn)).append
      (written_joint (by decide))).append (written_name table)).append
        (written_joint (by decide))).append (written_name column)).append
          (written_joint (by decide)) |>.append (written_param group v)

/-- The words that open an insert, with the blank behind them. -/
theorem insertIgnore_mem (d : Dialect) : d.insertIgnore ++ " " ∈ openings := by
  cases d <;> decide

theorem Write.written_upsertFragment (table : String) (row : Assignments) (conflict : List String)
    (changes : Assignments) :
    Written d false (Write.upsertFragment d table row conflict changes) := by
  have hinsert : Written d false (insertFragment d "INSERT INTO" table row) :=
    written_insertFragment (by decide) table row
  have hchanges : Written d false (if changes.isEmpty then ofText "NOTHING"
      else ofText "UPDATE SET " ++ assignmentsFragment changes) := by
    split
    · exact written_opening (by decide)
    · exact (written_opening (by decide)).append (written_assignmentsFragment changes)
  by_cases hd : d = .mysql
  · subst hd
    rw [Write.upsertFragment]
    split
    · exact written_insertFragment (insertIgnore_mem .mysql) table row
    · exact (hinsert.append (written_joint (by decide))).append
        (written_assignmentsFragment changes)
  · rw [Write.upsertFragment]
    · -- what is done instead starts with a letter, but behind a blank
      rw [List.append_assoc]
      refine hinsert.append (Written.after (by decide) ?_)
      show Written d false ((namesFragment conflict ++ ofText ") DO ") ++ _)
      rw [List.append_assoc]
      exact (written_namesFragment conflict).append (hchanges.after (by decide))
    · exact hd

/-- The words behind a pair that may stand in its table already. -/
theorem written_ignoreConflict : Written d tight (match d.ignoreConflict with
    | some words => ofText (" " ++ words)
    | none => []) := by
  have hphrase : " ON CONFLICT DO NOTHING" ∈ endings := by decide
  cases d with
  | mysql => trivial
  | sqlite => trivial
  | _ => exact written_ending hphrase

theorem Write.written_body (w : Write) : Written d false (w.body d) := by
  cases w with
  | insert table row => exact written_insertFragment (by decide) table row
  | insertRows table columns rows =>
    have hcolumns : Written d true (wrap " (" (namesFragment columns) ") VALUES ") :=
      Written.wrap (by decide) (written_namesFragment columns) (by decide)
    refine (((written_opening (by decide)).append (written_name table)).append hcolumns).append ?_
    refine written_join (by decide) fun f hf => ?_
    obtain ⟨row, -, rfl⟩ := List.mem_map.mp hf
    exact written_tupleFragment row
  | upsert table row conflict changes =>
    exact Write.written_upsertFragment table row conflict changes
  | update table assignments clause returned =>
    exact ((((written_opening (by decide)).append (written_name table)).append
      (written_joint (by decide))).append (written_assignmentsFragment assignments)).append
        clause.written_whereFragment
  | delete table clause =>
    exact ((written_opening (by decide)).append (written_name table)).append
      clause.written_whereFragment
  | connect table ownColumn targetColumn own target =>
    have hopening : Written d false (ofText (d.insertIgnore ++ " ")) :=
      written_opening (insertIgnore_mem d)
    have hcolumns : Written d true
        (wrap " (" (namesFragment [ownColumn, targetColumn]) ") VALUES (") :=
      Written.wrap (by decide) (written_namesFragment _) (by decide)
    exact ((((((hopening.append (written_name table)).append hcolumns).append
      (written_param .data own)).append (written_joint (by decide))).append
        (target.written_fragment .data)).append (written_joint (by decide))).append
          written_ignoreConflict
  | disconnect table ownColumn targetColumn own target =>
    exact (((((((((written_opening (by decide)).append (written_name table)).append
      (written_joint (by decide))).append (written_name ownColumn)).append
        (written_joint (by decide))).append (written_param .condition own)).append
          (written_joint (by decide))).append (written_name targetColumn)).append
            (written_joint (by decide))).append (target.written_fragment .condition)

/-- A write is written of phrases. -/
theorem Write.written_fragment (w : Write) : Written d false (w.fragment d) := by
  refine w.written_body.append ?_
  -- rows are only asked for where the dialect can return them
  split
  · next h =>
    have hreturning : d.has .returning := by
      cases w with
      | insert => exact h
      | insertRows => exact h
      | upsert => exact h
      | update table assignments clause returned =>
        rw [Write.returnsRows, Bool.and_eq_true] at h
        exact h.2
      | delete => exact absurd h Bool.false_ne_true
      | connect => exact absurd h Bool.false_ne_true
      | disconnect => exact absurd h Bool.false_ne_true
    exact written_text (.feature .returning hreturning (by decide)) (by decide)
  · trivial

end Sql

end RelationalQuery

import RelationalQuery.Proofs.Sql.Quoting
import RelationalQuery.Proofs.Sql.Unlimited

/-!
# Statements inside of statements

A read that takes its rows from a page has the statement of the page in parentheses behind its `FROM`,
character by character: the numbers of its placeholders are the same there, and they bind the same
values.

## Shape of the proof

The values of a page are conditions, which are bound before the values of all that stands around the
page: filtered counts, computed fields and joined rows. So where placeholders are numbered, those of
the page have the first numbers (`number_condition`). Where they are not, a value is bound by its
place, and the values in front of the page are those of the text in front of it.
-/

namespace RelationalQuery

open Sql

/-- Whether a statement has another one in it: the text of that one as it is, between a front and a
back. The arguments of the inner statement are bound to its placeholders: they come first where
placeholders are numbered, and otherwise stand behind one argument for every placeholder of the
front. -/
structure Statement.Embeds (d : Dialect) (outer inner : Statement) (front back : String) : Prop where
  text : outer.sql = front ++ inner.sql ++ back
  /-- The text of the inner statement stands outside of quotes. -/
  closed : openAfter isQuote none front.toList = none
  numbered : d.isNumbered → inner.args <+: outer.args
  unnumbered : d.isNumbered = false → ∃ before after, outer.args = before ++ inner.args ++ after ∧
    countPlaceholders none front.toList = before.length

namespace Fragment

variable {d : Dialect}

/-! ## Values by groups -/

/-- Whether all values of a fragment are bound after those of conditions. -/
def BindsLater (f : Fragment) : Prop := ∀ entry ∈ f.params, ParamGroup.condition.rank < entry.1.rank

/-- Whether all values of a fragment are those of conditions. -/
def BindsConditions (f : Fragment) : Prop := ∀ entry ∈ f.params, entry.1 = .condition

theorem bindsLater_append {f g : Fragment} : BindsLater (f ++ g) ↔ BindsLater f ∧ BindsLater g := by
  simp only [BindsLater, params_append, List.forall_mem_append]

theorem bindsLater_of_params_eq_nil {f : Fragment} (h : f.params = []) : BindsLater f := by
  rw [BindsLater, h]
  exact fun _ hmem => absurd hmem List.not_mem_nil

/-- The front of what is written is written. -/
theorem Written.left {tight : Bool} {f g : Fragment} (h : Written d tight (f ++ g)) :
    Written d tight f := by
  induction f generalizing tight with
  | nil => trivial
  | cons piece rest ih =>
    cases piece with
    | text words => exact ⟨h.1, h.2.1, ih h.2.2⟩
    | name identifier => exact ih h
    | param group value => exact ih h

/-- The back of what is written is written, behind something. -/
theorem Written.right {tight : Bool} {f g : Fragment} (h : Written d tight (f ++ g)) :
    ∃ tight, Written d tight g := by
  induction f generalizing tight with
  | nil => exact ⟨tight, h⟩
  | cons piece rest ih =>
    cases piece with
    | text words => exact ih h.2.2
    | name identifier => exact ih h
    | param group value => exact ih h

theorem renderFrom_ofText (words : String) (params before : List (ParamGroup × Value)) :
    renderFrom d params before (ofText words) = words := String.append_empty

theorem renderFrom_ofName (identifier : String) (params before : List (ParamGroup × Value)) :
    renderFrom d params before (ofName identifier) = d.quote identifier := String.append_empty

section Middle

variable {front middle back : Fragment}

/-- Conditions between values that are bound later have the numbers that they have by themselves. -/
theorem number_condition (hfront : BindsLater front) (hmiddle : BindsConditions middle)
    (hback : BindsLater back) (before : List (ParamGroup × Value)) :
    number true (front ++ middle ++ back).params (front.params ++ before) .condition =
      number true middle.params before .condition := by
  have hbelow {f : Fragment} (h : ∀ entry ∈ f.params, ¬ entry.1.rank < ParamGroup.condition.rank) :
      f.params.countP (fun entry => decide (entry.1.rank < ParamGroup.condition.rank)) = 0 :=
    List.countP_eq_zero.mpr fun entry hmem => by simpa using h entry hmem
  have hsame : front.params.countP (fun entry => decide (entry.1 = .condition)) = 0 := by
    refine List.countP_eq_zero.mpr fun entry hmem => ?_
    intro heq
    have hlater := hfront entry hmem
    rw [of_decide_eq_true heq] at hlater
    exact Nat.lt_irrefl _ hlater
  rw [number_eq, number_eq, below, below, params_append, params_append, List.countP_append,
    List.countP_append, List.countP_append, hsame,
    hbelow fun entry hmem => Nat.not_lt.mpr (Nat.le_of_lt (hfront entry hmem)),
    hbelow fun entry hmem => Nat.not_lt.mpr (Nat.le_of_lt (hback entry hmem)),
    hbelow fun entry hmem => by rw [hmiddle entry hmem]; exact Nat.lt_irrefl _]
  omega

/-- Conditions between values that are bound later are rendered as by themselves. -/
theorem renderFrom_middle (hfront : BindsLater front) (hmiddle : BindsConditions middle)
    (hback : BindsLater back) {f : Fragment} (hf : BindsConditions f)
    (before : List (ParamGroup × Value)) :
    renderFrom d (front ++ middle ++ back).params (front.params ++ before) f =
      renderFrom d middle.params before f := by
  induction f generalizing before with
  | nil => rfl
  | cons piece rest ih =>
    cases piece with
    | text words => rw [renderFrom, renderFrom, ih hf]
    | name identifier => rw [renderFrom, renderFrom, ih hf]
    | param group value =>
      obtain ⟨hgroup, hrest⟩ := List.forall_mem_cons.mp hf
      obtain rfl : group = .condition := hgroup
      have hplaceholder : d.placeholder (number d.isNumbered (front ++ middle ++ back).params
            (front.params ++ before) .condition) =
          d.placeholder (number d.isNumbered middle.params before .condition) := by
        cases hd : d.isNumbered with
        | true => rw [number_condition hfront hmiddle hback]
        | false =>
          -- a placeholder without a number is the same everywhere
          rw [Dialect.placeholder, Dialect.placeholder, hd]
          rfl
      rw [renderFrom, renderFrom, hplaceholder, List.append_assoc front.params, ih hrest]

/-- Conditions come first among numbered arguments, if all others are bound later. -/
theorem prefix_arguments (hfront : BindsLater front) (hmiddle : BindsConditions middle)
    (hback : BindsLater back) :
    arguments true middle.params <+: arguments true (front ++ middle ++ back).params := by
  have hnone {f : Fragment} {group : ParamGroup} (h : ∀ entry ∈ f.params, entry.1 ≠ group) :
      f.params.filter (fun entry => decide (entry.1 = group)) = [] :=
    List.filter_eq_nil_iff.mpr fun entry hmem => by simpa using h entry hmem
  have hlater {f : Fragment} (h : BindsLater f) (group : ParamGroup)
      (hgroup : group.rank ≤ ParamGroup.condition.rank) :
      f.params.filter (fun entry => decide (entry.1 = group)) = [] :=
    hnone fun entry hmem heq => Nat.not_lt.mpr hgroup (heq ▸ h entry hmem)
  have hothers (group : ParamGroup) (hgroup : group ≠ .condition) :
      middle.params.filter (fun entry => decide (entry.1 = group)) = [] :=
    hnone fun entry hmem heq => hgroup (heq.symm.trans (hmiddle entry hmem))
  rw [arguments, arguments, if_pos rfl, if_pos rfl]
  simp only [ParamGroup.ordered, List.flatMap_cons, List.flatMap_nil, params_append,
    List.filter_append, List.map_append, hothers .data (by decide), hothers .filter (by decide),
    hothers .computed (by decide), hothers .join (by decide), hlater hfront .data (by decide),
    hlater hfront .condition (by decide), hlater hback .data (by decide),
    hlater hback .condition (by decide), List.map_nil, List.nil_append, List.append_nil]
  exact List.prefix_append _ _

end Middle

end Fragment

namespace Sql

open Fragment

variable {d : Dialect}

/-! ## Pages -/

/-- The values of a page are those of its conditions. -/
theorem Page.bindsConditions (p : Page) : BindsConditions (p.fragment d) := by
  have hclause : ∀ entry ∈ (p.clause.whereFragment d).params, entry.1 = .condition := by
    rw [Clause.whereFragment]
    split
    · exact fun _ hmem => absurd hmem List.not_mem_nil
    · rw [params_append]
      exact p.clause.keeps_fragment.group_eq
  intro entry hmem
  simp only [Page.fragment, params_append, params_ofText, Table.params_fragment,
    params_orderFragment, params_limitFragment, List.nil_append, List.append_nil] at hmem
  exact hclause entry hmem

/-- The statement of a page is written in parts, but to the same text. -/
theorem Page.renderFrom_select (p : Page) (params before : List (ParamGroup × Value)) :
    renderFrom d params before (p.select.fragment d) =
      renderFrom d params before (p.fragment d) := by
  have hselect : p.select.fragment d = .text "SELECT " :: .text "*" :: .text " FROM " ::
      (p.table.fragment ++ p.clause.whereFragment d ++ orderFragment d p.orderBy ++
        limitFragment d p.take p.skip) := by
    simp [Select.fragment, Page.select, Fragment.join, Item.fragment, Base.fragment, ofText]
  have hpage : p.fragment d = .text "SELECT * FROM " ::
      (p.table.fragment ++ p.clause.whereFragment d ++ orderFragment d p.orderBy ++
        limitFragment d p.take p.skip) := by
    simp [Page.fragment, ofText]
  have hwords : "SELECT * FROM " = "SELECT " ++ ("*" ++ " FROM ") := by decide
  rw [hselect, hpage, renderFrom, renderFrom, renderFrom, renderFrom, hwords, String.append_assoc,
    String.append_assoc]

theorem Page.params_select (p : Page) : (p.select.fragment d).params = (p.fragment d).params := by
  simp [Select.fragment, Page.select, Page.fragment, Fragment.join, Item.fragment, Base.fragment]

/-! ## Reads over pages -/

/-- What a read has in front of where it takes its rows from. -/
def Select.front (d : Dialect) (s : Select) : Fragment :=
  ofText "SELECT " ++ Fragment.join ", " (s.items.map (·.fragment d)) ++ ofText " FROM "

/-- What a read has behind where it takes its rows from. -/
def Select.rest (d : Dialect) (s : Select) : Fragment :=
  s.joins.flatMap (fun join => ofText " " ++ join.fragment d) ++ s.clause.whereFragment d ++
    (if s.groupBy.isEmpty then [] else
      ofText " GROUP BY " ++ Fragment.join ", " (s.groupBy.map Column.fragment)) ++
    orderFragment d s.orderBy ++ limitFragment d s.take s.skip

theorem Select.fragment_eq (s : Select) :
    s.fragment d = s.front d ++ s.base.fragment d ++ s.rest d := by
  simp [Select.fragment, Select.front, Select.rest]

/-- The text of what is selected. -/
def Select.itemsText (d : Dialect) (s : Select) : String :=
  renderFrom d (s.fragment d).params [] (Fragment.join ", " (s.items.map (·.fragment d)))

/-- The text behind where a read takes its rows from. -/
def Select.restText (d : Dialect) (s : Select) : String :=
  renderFrom d (s.fragment d).params ((s.front d).params ++ (s.base.fragment d).params) (s.rest d)

/-- The values of what is selected are bound after those of conditions. -/
theorem Item.bindsLater (item : Item) : BindsLater (item.fragment d) := by
  cases item with
  | filteredCount clause aliasName =>
    intro entry hmem
    simp only [Item.fragment, params_append, params_wrap, params_ofText, params_ofName,
      List.append_nil] at hmem
    rw [clause.keeps_fragment.group_eq entry hmem]
    decide
  | scalar query aliasName =>
    have hmatch (m : Match) : ∀ entry ∈ m.fragment.params, entry.1 = .computed := by
      cases m <;> simp [Match.fragment]
    intro entry hmem
    have hcomputed : entry.1 = .computed := by
      simp only [Item.fragment, ScalarQuery.fragment, params_append, params_wrap, params_ofText,
        params_ofName, Projection.params_fragment, params_orderFragment, List.append_nil,
        List.nil_append, List.mem_append] at hmem
      rcases hmem with hmem | hmem
      · split at hmem
        · exact absurd hmem List.not_mem_nil
        · rw [params_append, params_ofText, List.nil_append, params_join, List.flatMap_map,
            List.mem_flatMap] at hmem
          obtain ⟨m, -, hmem⟩ := hmem
          exact hmatch m entry hmem
      · split at hmem <;> exact absurd hmem List.not_mem_nil
    rw [hcomputed]
    decide
  | everything => exact bindsLater_of_params_eq_nil rfl
  | everythingOf table => exact bindsLater_of_params_eq_nil rfl
  | column c => exact bindsLater_of_params_eq_nil c.params_fragment
  | aliased c aliasName => exact bindsLater_of_params_eq_nil (by simp [Item.fragment])
  | count => exact bindsLater_of_params_eq_nil rfl
  | aggregate projection aliasName =>
    exact bindsLater_of_params_eq_nil (by simp [Item.fragment])

theorem Select.bindsLater_front (s : Select) : BindsLater (s.front d) := by
  intro entry hmem
  simp only [Select.front, params_append, params_ofText, params_join, List.flatMap_map,
    List.nil_append, List.append_nil, List.mem_flatMap] at hmem
  obtain ⟨item, -, hmem⟩ := hmem
  exact item.bindsLater entry hmem

/-- Whether a read takes its rows from a page and keeps all of them: it joins and sorts, but neither
filters the rows again nor groups them nor cuts any off. -/
structure Select.Over (s : Select) (page : Page) (aliasName : String) : Prop where
  base : s.base = .page page aliasName
  clause : s.clause = []
  groupBy : s.groupBy = []
  take : s.take = none
  skip : s.skip = none

namespace Select.Over

variable {s : Select} {page : Page} {aliasName : String}

/-- A read over a page, in parts: what stands in front of the page, the page, and what stands behind
it. -/
theorem fragment_eq (h : s.Over page aliasName) :
    s.fragment d = (s.front d ++ ofText "(") ++ page.fragment d ++
      (ofText ")" ++ ofText " AS " ++ ofName aliasName ++ s.rest d) := by
  simp [Select.fragment_eq, h.base, Base.fragment, Fragment.wrap, ofText]

/-- Behind a page stand joins and an ordering. -/
theorem keeps_rest (h : s.Over page aliasName) : Keeps .join (s.rest d) := by
  have hrest : s.rest d = s.joins.flatMap (fun join => ofText " " ++ join.fragment d) ++
      orderFragment d s.orderBy := by
    simp [Select.rest, h.clause, h.groupBy, h.take, h.skip, Clause.whereFragment, limitFragment]
  rw [hrest]
  exact (keeps_joins s.joins).append (keeps_orderFragment s.orderBy)

/-- A read over a page has the statement of the page in it, in parentheses and under its alias. -/
theorem embeds (h : s.Over page aliasName) (hwritten : Written d false (s.fragment d))
    {outer inner : Statement}
    (houter : (outer.sql, outer.args) = render d (s.fragment d))
    (hinner : (inner.sql, inner.args) = render d (page.select.fragment d)) :
    outer.Embeds d inner ("SELECT " ++ s.itemsText d ++ " FROM (")
      (") AS " ++ d.quote aliasName ++ s.restText d) := by
  rw [render_eq] at houter hinner
  obtain ⟨hsql, hargs⟩ := Prod.mk.inj houter
  obtain ⟨hinnerSql, hinnerArgs⟩ := Prod.mk.inj hinner
  have hparts := h.fragment_eq (d := d)
  have hfront : BindsLater (s.front d ++ ofText "(") :=
    bindsLater_append.mpr ⟨s.bindsLater_front, bindsLater_of_params_eq_nil rfl⟩
  have hback : BindsLater (ofText ")" ++ ofText " AS " ++ ofName aliasName ++ s.rest d) := by
    refine bindsLater_append.mpr ⟨bindsLater_of_params_eq_nil rfl, fun entry hmem => ?_⟩
    rw [h.keeps_rest.group_eq entry hmem]
    decide
  have hwrittenFront : Written d false (s.front d ++ ofText "(") := by
    rw [hparts, List.append_assoc] at hwritten
    exact hwritten.left
  have hopening : " FROM (" = " FROM " ++ "(" := by decide
  have hclosing : ") AS " = ")" ++ " AS " := by decide
  have hfrontText : renderFrom d (s.fragment d).params [] (s.front d ++ ofText "(") =
      "SELECT " ++ s.itemsText d ++ " FROM (" := by
    rw [hopening]
    simp [Select.front, Select.itemsText, renderFrom_append, renderFrom_ofText, String.append_assoc]
  have hpageText : renderFrom d (s.fragment d).params (s.front d ++ ofText "(").params
      (page.fragment d) = inner.sql := by
    have hpage : BindsConditions (page.fragment d) := page.bindsConditions
    have hmiddle := renderFrom_middle (d := d) hfront hpage hback hpage []
    rw [List.append_nil] at hmiddle
    rw [hinnerSql, page.params_select, page.renderFrom_select, hparts, hmiddle]
  have hbackText : renderFrom d (s.fragment d).params
      ((s.front d ++ ofText "(").params ++ (page.fragment d).params)
      (ofText ")" ++ ofText " AS " ++ ofName aliasName ++ s.rest d) =
      ") AS " ++ d.quote aliasName ++ s.restText d := by
    have hbaseParams : (s.base.fragment d).params = (page.fragment d).params := by
      simp [h.base, Base.fragment]
    rw [hclosing, Select.restText, hbaseParams]
    simp only [renderFrom_append, renderFrom_ofText, renderFrom_ofName, params_append,
      params_ofText, params_ofName, List.append_nil, String.append_assoc]
  refine ⟨?_, ?_, fun hd => ?_, fun hd => ?_⟩
  · rw [hsql, ← hfrontText, ← hpageText, ← hbackText]
    conv_lhs => rw [hparts]
    rw [renderFrom_append, renderFrom_append, List.nil_append, List.nil_append,
      params_append _ (page.fragment d), ← hparts]
  · rw [← hfrontText]
    exact openAfter_renderFrom (fun _ => id) (isQuote_quoteChar d) hwrittenFront _ _
  · rw [hargs, hinnerArgs, page.params_select, hparts, hd]
    exact prefix_arguments hfront page.bindsConditions hback
  · refine ⟨(s.front d ++ ofText "(").params.map Prod.snd, (s.rest d).params.map Prod.snd, ?_, ?_⟩
    · rw [hargs, hinnerArgs, page.params_select, hparts, hd, arguments, arguments, params_append,
        params_append, List.map_append, List.map_append]
      rfl
    · rw [← hfrontText, countPlaceholders_eq, placeholders_renderFrom hwrittenFront,
        List.length_map, length_numbersFrom, List.length_map]

/-- Behind a page nothing limits the rows that a read joins to it. -/
theorem hasTokens_restText (h : s.Over page aliasName) (hwritten : Written d false (s.fragment d)) :
    HasTokens (fun token => token ≠ "LIMIT".toList ∧ token ≠ "OFFSET".toList)
      (outsideOf d.quoteChar false (s.restText d).toList) := by
  rw [Select.fragment_eq] at hwritten
  obtain ⟨tight, hwritten⟩ := hwritten.right
  refine hasTokens_outsideFrom ?_ (fun n => ?_) hwritten (fun words hmem => ?_) _ _
  · cases d <;> decide
  · rw [toList_placeholder]
    split
    · simp
    · decide
  · have hunlimited := List.all_eq_true.mp (h.keeps_rest.isUnlimited hmem)
    intro token htoken
    simpa using hunlimited token htoken

end Select.Over

end Sql

end RelationalQuery

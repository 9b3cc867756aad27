import RelationalQuery.Compile.Filter
import RelationalQuery.Proofs.Meaning.Evaluation

/-!
# What filters mean

The truth value of a filter for a row, as its author reads it and without any SQL text in between:
entries hold together, connectives combine filters, and quantifiers speak about the rows that are
related to the row.

## Shape of the quantifiers

A nested filter may be unknown for a related row. `some` and `none` ask whether there is a related
row for which it is true, `every` whether there is none for which it is false. A quantifier is
therefore never unknown itself.
-/

namespace RelationalQuery.Engine

variable (e : Engine) (s : Schema)

/-! ## Comparisons -/

/-- The word of a text search. Dialects that have no word for a search without regard to case search
as they always do. -/
def searchWord (insensitive : Bool) : String :=
  if insensitive && e.dialect.has .insensitiveSearch then "ILIKE" else "LIKE"

/-- The truth value of one comparison. A null operand of an equality asks whether the value is null,
and a membership takes a single operand as a list of one. -/
def operatorTruth (value : Value) : Comparison → Value → Truth
  | .equals, .null => .ofBool value.isNull
  | .equals, operand => e.compared "=" value operand
  | .not, .null => .ofBool !value.isNull
  | .not, operand => e.compared "<>" value operand
  | .isIn, operand => e.among value (Compile.members operand)
  | .notIn, operand => (e.among value (Compile.members operand)).not
  | .lt, operand => e.compared "<" value operand
  | .lte, operand => e.compared "<=" value operand
  | .gt, operand => e.compared ">" value operand
  | .gte, operand => e.compared ">=" value operand
  | .search place insensitive, operand =>
    e.compared (e.searchWord insensitive) value (.text (place.pattern operand.display))

mutual

/-- The truth value of the comparison under a key. Comparisons under `not` are negated together. -/
def comparisonTruth (value : Value) (key : String) : Value → Truth
  | .object nested =>
    match Comparison.ofKey? key with
    | none => .unknown
    | some .not => (Truth.all (comparisonTruths value nested)).not
    | some op => operatorTruth e value op (.object nested)
  | operand =>
    match Comparison.ofKey? key with
    | none => .unknown
    | some op => operatorTruth e value op operand

/-- The truth values of comparisons. -/
def comparisonTruths (value : Value) : List (String × Value) → List Truth
  | [] => []
  | (key, operand) :: rest => comparisonTruth value key operand :: comparisonTruths value rest

end

/-! ## Related rows -/

/-- Whether two values are equal. -/
def equal (a b : Value) : Bool := e.compared "=" a b = .yes

/-- Whether a row of a model is related to a row of the relation's target: by a row of the join table
that holds both ids, or by the foreign key of the side that has it. -/
def related (model : String) (relation : Relation) (row other : StoredRow) : Bool :=
  match relation.cardinality with
  | .manyToMany =>
    match relation.joinTable with
    | none => false
    | some table =>
      (e.tables table).rows.any fun link =>
        e.equal (other (s.idColumn relation.target)) (link (relation.targetJoinColumn model)) &&
          e.equal (link (relation.ownJoinColumn model)) (row (s.idColumn model))
  | _ =>
    if s.holdsForeignKey model relation then
      e.equal (other (s.columnOf relation.target relation.references))
        (row (s.columnOf model relation.foreignKey))
    else
      e.equal (other (s.columnOf relation.target relation.foreignKey))
        (row (s.columnOf model relation.references))

/-- The rows that are related to a row of a model. -/
def relatedRows (model : String) (relation : Relation) (row : StoredRow) : List StoredRow :=
  (e.tables (s.tableOf relation.target)).rows.filter (e.related s model relation row)

/-- What a quantifier says of the truth values for all related rows. -/
def quantifiedTruth : Quantifier → List Truth → Truth
  | .some, truths => .ofBool (truths.any (· = .yes))
  | .none, truths => .ofBool !truths.any (· = .yes)
  | .every, truths => .ofBool !truths.any (· = .no)

/-! ## Filters -/

/-- What a connective says of the truth values of its filters. -/
def combinedTruth : Connective → List Truth → Truth
  | .all, truths => .all truths
  | .any, truths => .any truths
  | .not, truths => .all (truths.map Truth.not)

mutual

/-- The truth value of a filter for a row of a model. -/
def filterTruth (model : String) (row : StoredRow) : List (String × Criterion) → Truth
  | [] => .yes
  | (key, criterion) :: rest =>
    (criterionTruth model row key criterion).and (filterTruth model row rest)

/-- The truth value of one entry of a filter. -/
def criterionTruth (model : String) (row : StoredRow) (key : String) : Criterion → Truth
  | .literal value => e.operatorTruth (row (s.columnOf model key)) .equals value
  | .comparison operators => .all (e.comparisonTruths (row (s.columnOf model key)) operators)
  | .logical connective operands => combinedTruth connective (filterTruths model row operands)
  | .related quantifier nested =>
    match s.relation? model key with
    | none => .unknown
    | some relation =>
      quantifiedTruth quantifier
        ((e.relatedRows s model relation row).map fun other =>
          filterTruth relation.target other nested)

/-- The truth values of several filters. -/
def filterTruths (model : String) (row : StoredRow) : List (List (String × Criterion)) → List Truth
  | [] => []
  | filter :: rest => filterTruth model row filter :: filterTruths model row rest

end

/-- The truth value of a filter that may be missing. -/
def optionalTruth (model : String) (row : StoredRow) : Option Filter → Truth
  | some filter => e.filterTruth s model row filter
  | none => .yes

/-! ## Columns -/

/-- Whether the table of a model has a column. -/
def HasColumn (model column : String) : Prop := column ∈ (e.tables (s.tableOf model)).columns

instance (model column : String) : Decidable (e.HasColumn s model column) :=
  inferInstanceAs (Decidable (_ ∈ _))

/-- Whether there are all columns by which rows of a model are tied to those of a relation. -/
def HasTie (model : String) (relation : Relation) : Prop :=
  match s.link model relation with
  | .direct own target => e.HasColumn s model own ∧ e.HasColumn s relation.target target
  | .junction none _ _ _ _ => True
  | .junction (some table) ownId ownColumn targetColumn targetId =>
    e.HasColumn s model ownId ∧ ownColumn ∈ (e.tables table).columns ∧
      targetColumn ∈ (e.tables table).columns ∧ e.HasColumn s relation.target targetId

mutual

/-- Whether there are all columns that a filter and its relations name. -/
def Provides (model : String) : List (String × Criterion) → Prop
  | [] => True
  | (key, criterion) :: rest => ProvidesCriterion model key criterion ∧ Provides model rest

/-- Whether there are all columns that one entry of a filter names. -/
def ProvidesCriterion (model key : String) : Criterion → Prop
  | .literal _ => e.HasColumn s model (s.columnOf model key)
  | .comparison _ => e.HasColumn s model (s.columnOf model key)
  | .logical _ operands => ProvidesAll model operands
  | .related _ nested =>
    ∀ relation, s.relation? model key = some relation →
      e.HasTie s model relation ∧ Provides relation.target nested

/-- Whether there are all columns that several filters name. -/
def ProvidesAll (model : String) : List (List (String × Criterion)) → Prop
  | [] => True
  | filter :: rest => Provides model filter ∧ ProvidesAll model rest

end

end RelationalQuery.Engine

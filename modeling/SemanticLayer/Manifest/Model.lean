import SemanticLayer.Number.Binary64
import SemanticLayer.Vocabulary.Kinds
import SemanticLayer.Vocabulary.Time

/-!
# Semantic models

A semantic model is a table with entities that it is joined on, dimensions that it is grouped by
and measures that are aggregated. Elements are looked up by name, and the first one of a name
counts.
-/

namespace SemanticLayer

/-! ### Origin -/

/-- The lines of a file that an object was read from. -/
structure FileSlice where
  filename  : String
  content   : String
  startLine : UInt64
  endLine   : UInt64
  deriving DecidableEq

/-- Where an object was defined. -/
structure Metadata where
  repoFilePath : String
  fileSlice    : FileSlice
  deriving DecidableEq

/-- The table that a semantic model stands for. -/
structure NodeRelation where
  aliasName    : String
  schemaName   : String
  database     : Option String
  relationName : Option String
  deriving DecidableEq

/-! ### Elements -/

/-- A key that semantic models are joined on. -/
structure Entity where
  name        : String
  kind        : EntityKind
  description : Option String
  role        : Option String
  expr        : Option String
  label       : Option String
  deriving DecidableEq

/-- The part that a dimension plays in the window in which a row is valid. -/
structure ValidityParams where
  isStart : Bool
  isEnd   : Bool
  deriving DecidableEq

/-- What a time dimension is told besides its name. -/
structure DimensionParams where
  granularity : Option Granularity
  isPrimary   : Bool
  validity    : Option ValidityParams
  deriving DecidableEq

/-- A property that rows are grouped by. -/
structure Dimension where
  name        : String
  kind        : DimensionKind
  description : Option String
  isPartition : Bool
  params      : Option DimensionParams
  expr        : Option String
  label       : Option String
  deriving DecidableEq

namespace Dimension

/-- The granularity that the dimension declares. -/
def granularity (d : Dimension) : Option Granularity := d.params.bind (·.granularity)

/-- The part that the dimension plays in a validity window. -/
def validity (d : Dimension) : Option ValidityParams := d.params.bind (·.validity)

end Dimension

/-- The parameters of a percentile. -/
structure AggregationParams where
  percentile     : Option Binary64
  useDiscrete    : Bool
  useApproximate : Bool
  deriving DecidableEq

/-- No parameters of a percentile. -/
def AggregationParams.empty : AggregationParams := ⟨none, false, false⟩

/-- A time dimension along which an aggregation must not be summed up. -/
structure NonAdditiveDimension where
  name            : String
  windowChoice    : Aggregation
  windowGroupings : List String
  deriving DecidableEq

/-- A column that is aggregated. -/
structure Measure where
  name             : String
  agg              : Aggregation
  description      : Option String
  createMetric     : Bool
  expr             : Option String
  aggParams        : Option AggregationParams
  nonAdditive      : Option NonAdditiveDimension
  aggTimeDimension : Option String
  label            : Option String
  deriving DecidableEq

/-- The kinds of elements that are aggregated from the rows of a semantic model. -/
inductive AdditiveKind where
  | measure | metric
  deriving DecidableEq, Repr

/-- The name of the kind at the start of a sentence. -/
def AdditiveKind.title : AdditiveKind → String
  | .measure => "Measure"
  | .metric  => "Metric"

/-- The name of the kind inside a sentence. -/
def AdditiveKind.name : AdditiveKind → String
  | .measure => "measure"
  | .metric  => "metric"

/-- What is aggregated from the rows of a semantic model: a measure, or a simple metric with
aggregation parameters of its own. -/
structure AdditiveElement where
  kind             : AdditiveKind
  name             : String
  agg              : Aggregation
  aggParams        : Option AggregationParams
  nonAdditive      : Option NonAdditiveDimension
  aggTimeDimension : Option String
  deriving DecidableEq

/-- A measure as an additive element. -/
def Measure.additive (m : Measure) : AdditiveElement :=
  ⟨.measure, m.name, m.agg, m.aggParams, m.nonAdditive, m.aggTimeDimension⟩

/-! ### Models -/

/-- What the measures of a semantic model have in common. -/
structure ModelDefaults where
  aggTimeDimension : Option String
  deriving DecidableEq

/-- A semantic model. -/
structure SemanticModel where
  name          : String
  description   : Option String
  label         : Option String
  nodeRelation  : NodeRelation
  defaults      : Option ModelDefaults
  primaryEntity : Option String
  entities      : List Entity
  dimensions    : List Dimension
  measures      : List Measure
  metadata      : Option Metadata
  deriving DecidableEq

namespace SemanticModel

/-- The first entity of that name. -/
def entity? (m : SemanticModel) (name : String) : Option Entity :=
  m.entities.find? (·.name == name)

/-- The first dimension of that name. -/
def dimension? (m : SemanticModel) (name : String) : Option Dimension :=
  m.dimensions.find? (·.name == name)

/-- The first measure of that name. -/
def measure? (m : SemanticModel) (name : String) : Option Measure :=
  m.measures.find? (·.name == name)

/-- The elements with their kinds: entities, then dimensions, then measures. -/
def elements (m : SemanticModel) : List (String × ElementKind) :=
  m.entities.map (fun e => (e.name, .entity)) ++ m.dimensions.map (fun d => (d.name, .dimension)) ++
    m.measures.map (fun e => (e.name, .measure))

/-- The first entity of that kind. -/
def entityOfKind? (m : SemanticModel) (kind : EntityKind) : Option Entity :=
  m.entities.find? (·.kind == kind)

/-- The primary entity: the one that is declared, else the first one of primary kind, else the
first one of natural kind. -/
def primaryEntityName? (m : SemanticModel) : Option String :=
  m.primaryEntity.or
    (((m.entityOfKind? .primary).or (m.entityOfKind? .natural)).map (·.name))

/-- The time dimensions that are declared to be primary. -/
def primaryTimeDimensions (m : SemanticModel) : List Dimension :=
  m.dimensions.filter fun d => d.kind == .time && d.params.any (·.isPrimary)

/-- The time dimension that the model's defaults name. -/
def declaredAggTimeDimension? (m : SemanticModel) : Option String :=
  m.defaults.bind (·.aggTimeDimension)

/-- The time dimension to aggregate over when an element names none: the declared one, else the
only primary one. -/
def defaultAggTimeDimension? (m : SemanticModel) : Option String :=
  m.declaredAggTimeDimension?.or
    (match m.primaryTimeDimensions with
     | [d] => some d.name
     | _   => none)

/-- The time dimension that an element of the model is aggregated over. -/
def aggTimeDimensionFor? (m : SemanticModel) (e : AdditiveElement) : Option String :=
  e.aggTimeDimension.or m.defaultAggTimeDimension?

/-- The name is that of a time dimension of the model. -/
def isTimeDimension (m : SemanticModel) (name : String) : Bool :=
  (m.dimension? name).any (·.kind == .time)

end SemanticModel

end SemanticLayer

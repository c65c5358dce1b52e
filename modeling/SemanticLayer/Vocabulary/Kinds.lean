import SemanticLayer.Vocabulary.Basic

/-!
# Kinds of things in a manifest

The closed vocabularies that say of what kind an entity, a dimension, a metric or an export is, how
a measure is aggregated, and which part of a manifest an issue points at.
-/

namespace SemanticLayer

/-! ### Aggregation -/

/-- How the rows of a measure are aggregated. -/
inductive Aggregation where
  | sum | min | max | countDistinct | sumBoolean | average | percentile | median | count
  deriving DecidableEq, Repr

/-- The written name of an aggregation. -/
def Aggregation.name : Aggregation → String
  | .sum           => "sum"
  | .min           => "min"
  | .max           => "max"
  | .countDistinct => "count_distinct"
  | .sumBoolean    => "sum_boolean"
  | .average       => "average"
  | .percentile    => "percentile"
  | .median        => "median"
  | .count         => "count"

instance : Vocabulary Aggregation where
  members := [.sum, .min, .max, .countDistinct, .sumBoolean, .average, .percentile, .median, .count]
  name := Aggregation.name
  mem_members a := by cases a <;> decide
  name_injective a b := by cases a <;> cases b <;> decide

/-- How a cumulative metric is aggregated over the periods of a coarser granularity. -/
inductive PeriodAggregation where
  | first | last | average
  deriving DecidableEq, Repr

/-- The written name of a period aggregation. -/
def PeriodAggregation.name : PeriodAggregation → String
  | .first   => "first"
  | .last    => "last"
  | .average => "average"

instance : Vocabulary PeriodAggregation where
  members := [.first, .last, .average]
  name := PeriodAggregation.name
  mem_members a := by cases a <;> decide
  name_injective a b := by cases a <;> cases b <;> decide

/-- What a conversion metric computes. -/
inductive ConversionCalculation where
  | conversions | conversionRate
  deriving DecidableEq, Repr

/-- The written name of a conversion calculation. -/
def ConversionCalculation.name : ConversionCalculation → String
  | .conversions    => "conversions"
  | .conversionRate => "conversion_rate"

instance : Vocabulary ConversionCalculation where
  members := [.conversions, .conversionRate]
  name := ConversionCalculation.name
  mem_members a := by cases a <;> decide
  name_injective a b := by cases a <;> cases b <;> decide

/-! ### Elements and metrics -/

/-- The kind of a dimension. -/
inductive DimensionKind where
  | categorical | time
  deriving DecidableEq, Repr

/-- The written name of a dimension kind. -/
def DimensionKind.name : DimensionKind → String
  | .categorical => "categorical"
  | .time        => "time"

instance : Vocabulary DimensionKind where
  members := [.categorical, .time]
  name := DimensionKind.name
  mem_members a := by cases a <;> decide
  name_injective a b := by cases a <;> cases b <;> decide

/-- The part that an entity plays in its semantic model. -/
inductive EntityKind where
  | primary | unique | natural | foreign
  deriving DecidableEq, Repr

/-- The written name of an entity kind. -/
def EntityKind.name : EntityKind → String
  | .primary => "primary"
  | .unique  => "unique"
  | .natural => "natural"
  | .foreign => "foreign"

instance : Vocabulary EntityKind where
  members := [.primary, .unique, .natural, .foreign]
  name := EntityKind.name
  mem_members a := by cases a <;> decide
  name_injective a b := by cases a <;> cases b <;> decide

/-- The kind of a metric, which decides the parameters it needs. -/
inductive MetricKind where
  | simple | ratio | cumulative | derived | conversion
  deriving DecidableEq, Repr

/-- The written name of a metric kind. -/
def MetricKind.name : MetricKind → String
  | .simple     => "simple"
  | .ratio      => "ratio"
  | .cumulative => "cumulative"
  | .derived    => "derived"
  | .conversion => "conversion"

instance : Vocabulary MetricKind where
  members := [.simple, .ratio, .cumulative, .derived, .conversion]
  name := MetricKind.name
  mem_members a := by cases a <;> decide
  name_injective a b := by cases a <;> cases b <;> decide

/-- What a saved query is exported as. -/
inductive ExportKind where
  | table | view
  deriving DecidableEq, Repr

/-- The written name of an export kind. -/
def ExportKind.name : ExportKind → String
  | .table => "table"
  | .view  => "view"

instance : Vocabulary ExportKind where
  members := [.table, .view]
  name := ExportKind.name
  mem_members a := by cases a <;> decide
  name_injective a b := by cases a <;> cases b <;> decide

/-! ### Places that an issue points at -/

/-- The kind of an element of a semantic model. -/
inductive ElementKind where
  | entity | dimension | measure
  deriving DecidableEq, Repr

/-- The written name of an element kind. -/
def ElementKind.name : ElementKind → String
  | .entity    => "entity"
  | .dimension => "dimension"
  | .measure   => "measure"

instance : Vocabulary ElementKind where
  members := [.entity, .dimension, .measure]
  name := ElementKind.name
  mem_members a := by cases a <;> decide
  name_injective a b := by cases a <;> cases b <;> decide

/-- A part of a saved query. -/
inductive QueryPart where
  | metric | groupBy | filter | orderBy | limit | exportTarget
  deriving DecidableEq, Repr

/-- The written name of a part of a saved query. -/
def QueryPart.name : QueryPart → String
  | .metric       => "metric"
  | .groupBy      => "group_by"
  | .filter       => "where"
  | .orderBy      => "order_by"
  | .limit        => "limit"
  | .exportTarget => "export"

instance : Vocabulary QueryPart where
  members := [.metric, .groupBy, .filter, .orderBy, .limit, .exportTarget]
  name := QueryPart.name
  mem_members a := by cases a <;> decide
  name_injective a b := by cases a <;> cases b <;> decide

/-- The level of an issue. -/
inductive Severity where
  | error | warning | futureError
  deriving DecidableEq, Repr

/-- The written name of a level. -/
def Severity.name : Severity → String
  | .error       => "error"
  | .warning     => "warning"
  | .futureError => "future_error"

instance : Vocabulary Severity where
  members := [.error, .warning, .futureError]
  name := Severity.name
  mem_members a := by cases a <;> decide
  name_injective a b := by cases a <;> cases b <;> decide

end SemanticLayer

import SemanticLayer.Manifest.Model

/-!
# Metrics

A metric is computed from measures or from other metrics. Which parameters it needs depends on its
kind. A metric or one of its inputs may be restricted by filters.
-/

namespace SemanticLayer

/-- Filter templates that must all hold. -/
structure FilterIntersection where
  templates : List String
  deriving DecidableEq

/-- A measure that a metric reads. -/
structure MeasureInput where
  name            : String
  filter          : Option FilterIntersection
  aliasName       : Option String
  joinToTimespine : Bool
  fillNullsWith   : Option Int64
  deriving DecidableEq

namespace MeasureInput

/-- The input that is nothing but a name. -/
def ofName (name : String) : MeasureInput := ⟨name, none, none, false, none⟩

/-- The name that the input goes by in the metric. -/
def effectiveName (i : MeasureInput) : String := i.aliasName.getD i.name

end MeasureInput

/-- A metric that another metric reads. -/
structure MetricInput where
  name          : String
  filter        : Option FilterIntersection
  aliasName     : Option String
  offsetWindow  : Option String
  offsetToGrain : Option String
  deriving DecidableEq

namespace MetricInput

/-- The input that is nothing but a name. -/
def ofName (name : String) : MetricInput := ⟨name, none, none, none, none⟩

/-- The name that the input goes by in the expression of the metric. -/
def effectiveName (i : MetricInput) : String := i.aliasName.getD i.name

end MetricInput

/-- A property that must not change from the base event to the conversion event. -/
structure ConstantProperty where
  baseProperty       : String
  conversionProperty : String
  deriving DecidableEq

/-- The parameters of a conversion metric. -/
structure ConversionParams where
  baseMeasure        : MeasureInput
  conversionMeasure  : MeasureInput
  entity             : String
  calculation        : ConversionCalculation
  window             : Option String
  constantProperties : Option (List ConstantProperty)
  deriving DecidableEq

/-- The parameters of a cumulative metric. -/
structure CumulativeParams where
  window      : Option String
  grainToDate : Option String
  periodAgg   : PeriodAggregation
  deriving DecidableEq

/-- The parameters of a simple metric that aggregates a column without a measure. -/
structure MetricAggregation where
  semanticModel    : String
  agg              : Aggregation
  aggParams        : Option AggregationParams
  aggTimeDimension : Option String
  nonAdditive      : Option NonAdditiveDimension
  deriving DecidableEq

/-- The parameters of a metric. -/
structure MetricParams where
  measure     : Option MeasureInput
  numerator   : Option MetricInput
  denominator : Option MetricInput
  expr        : Option String
  window      : Option String
  grainToDate : Option String
  metrics     : Option (List MetricInput)
  conversion  : Option ConversionParams
  cumulative  : Option CumulativeParams
  aggregation : Option MetricAggregation
  deriving DecidableEq

/-- No parameters. -/
def MetricParams.empty : MetricParams :=
  ⟨none, none, none, none, none, none, none, none, none, none⟩

/-- A metric. -/
structure Metric where
  name        : String
  kind        : MetricKind
  params      : MetricParams
  filter      : Option FilterIntersection
  description : Option String
  label       : Option String
  metadata    : Option Metadata
  deriving DecidableEq

namespace Metric

/-- The measures that the metric reads: its own one, then those of a conversion. -/
def inputMeasures (m : Metric) : List MeasureInput :=
  m.params.measure.toList ++
    (m.params.conversion.toList.flatMap fun c => [c.baseMeasure, c.conversionMeasure])

/-- The metrics that a derived metric reads. -/
def derivedInputs (m : Metric) : List MetricInput := m.params.metrics.getD []

/-- The metrics that the metric reads: numerator, denominator and derived inputs. -/
def inputMetrics (m : Metric) : List MetricInput :=
  m.params.numerator.toList ++ m.params.denominator.toList ++ m.derivedInputs

/-- The aggregation of a simple metric that aggregates a semantic model directly. -/
def simpleAggregation? (m : Metric) : Option MetricAggregation :=
  match m.kind with
  | .simple => m.params.aggregation
  | _       => none

/-- A metric with an aggregation as an additive element. -/
def additive (m : Metric) (a : MetricAggregation) : AdditiveElement :=
  ⟨.metric, m.name, a.agg, a.aggParams, a.nonAdditive, a.aggTimeDimension⟩

end Metric

end SemanticLayer

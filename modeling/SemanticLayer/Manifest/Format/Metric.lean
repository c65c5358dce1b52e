import SemanticLayer.Manifest.Format.Model

/-!
# The written form of metrics

An input of a metric is read from a bare name or from an object, and written as an object.
-/

namespace SemanticLayer

namespace MeasureInput

def read : Reader MeasureInput :=
  .firstOf "MetricInputMeasureRepr" [
    .map ofName .text,
    .objectOnly "struct variant" (.mk
      <$> Fields.required "name" .text
      <*> Fields.optional "filter" FilterIntersection.read
      <*> Fields.optional "alias" .text
      <*> Fields.filled "join_to_timespine" false .bool
      <*> Fields.optional "fill_nulls_with" .int64)]

def toDocument (i : MeasureInput) : Document :=
  .ofPresent [
    ("name", some (.string i.name)),
    ("filter", i.filter.map (·.toDocument)),
    ("alias", i.aliasName.map .string),
    ("join_to_timespine", some (.bool i.joinToTimespine)),
    ("fill_nulls_with", i.fillNullsWith.map .ofInt64)]

end MeasureInput

namespace MetricInput

def read : Reader MetricInput :=
  .firstOf "MetricInputRepr" [
    .map ofName .text,
    .objectOnly "struct variant" (.mk
      <$> Fields.required "name" .text
      <*> Fields.optional "filter" FilterIntersection.read
      <*> Fields.optional "alias" .text
      <*> Fields.optional "offset_window" .text
      <*> Fields.optional "offset_to_grain" .text)]

def toDocument (i : MetricInput) : Document :=
  .ofPresent [
    ("name", some (.string i.name)),
    ("filter", i.filter.map (·.toDocument)),
    ("alias", i.aliasName.map .string),
    ("offset_window", i.offsetWindow.map .string),
    ("offset_to_grain", i.offsetToGrain.map .string)]

end MetricInput

namespace ConstantProperty

def read : Reader ConstantProperty :=
  .record "ConstantPropertyInput" (.mk
    <$> Fields.required "base_property" .text
    <*> Fields.required "conversion_property" .text)

def toDocument (p : ConstantProperty) : Document :=
  .ofPresent [
    ("base_property", some (.string p.baseProperty)),
    ("conversion_property", some (.string p.conversionProperty))]

end ConstantProperty

namespace ConversionParams

def read : Reader ConversionParams :=
  .record "ConversionTypeParams" (.mk
    <$> Fields.required "base_measure" MeasureInput.read
    <*> Fields.required "conversion_measure" MeasureInput.read
    <*> Fields.required "entity" .text
    <*> Fields.filled "calculation" .conversionRate (.word ConversionCalculation)
    <*> Fields.optional "window" .text
    <*> Fields.optional "constant_properties" (.list ConstantProperty.read))

def toDocument (p : ConversionParams) : Document :=
  .ofPresent [
    ("base_measure", some p.baseMeasure.toDocument),
    ("conversion_measure", some p.conversionMeasure.toDocument),
    ("entity", some (.string p.entity)),
    ("calculation", some (.ofWord p.calculation)),
    ("window", p.window.map .string),
    ("constant_properties", p.constantProperties.map fun ps => .list (ps.map (·.toDocument)))]

end ConversionParams

namespace CumulativeParams

def read : Reader CumulativeParams :=
  .record "CumulativeTypeParams" (.mk
    <$> Fields.optional "window" .text
    <*> Fields.optional "grain_to_date" .text
    <*> Fields.filled "period_agg" .first (.word PeriodAggregation))

def toDocument (p : CumulativeParams) : Document :=
  .ofPresent [
    ("window", p.window.map .string),
    ("grain_to_date", p.grainToDate.map .string),
    ("period_agg", some (.ofWord p.periodAgg))]

end CumulativeParams

namespace MetricAggregation

def read : Reader MetricAggregation :=
  .record "MetricAggregationParams" (.mk
    <$> Fields.required "semantic_model" .text
    <*> Fields.required "agg" (.word Aggregation)
    <*> Fields.optional "agg_params" AggregationParams.read
    <*> Fields.optional "agg_time_dimension" .text
    <*> Fields.optional "non_additive_dimension" NonAdditiveDimension.read)

def toDocument (a : MetricAggregation) : Document :=
  .ofPresent [
    ("semantic_model", some (.string a.semanticModel)),
    ("agg", some (.ofWord a.agg)),
    ("agg_params", a.aggParams.map (·.toDocument)),
    ("agg_time_dimension", a.aggTimeDimension.map .string),
    ("non_additive_dimension", a.nonAdditive.map (·.toDocument))]

end MetricAggregation

namespace MetricParams

def read : Reader MetricParams :=
  .record "MetricTypeParams" (.mk
    <$> Fields.optional "measure" MeasureInput.read
    <*> Fields.optional "numerator" MetricInput.read
    <*> Fields.optional "denominator" MetricInput.read
    <*> Fields.optional "expr" .text
    <*> Fields.optional "window" .text
    <*> Fields.optional "grain_to_date" .text
    <*> Fields.optional "metrics" (.list MetricInput.read)
    <*> Fields.optional "conversion_type_params" ConversionParams.read
    <*> Fields.optional "cumulative_type_params" CumulativeParams.read
    <*> Fields.optional "metric_aggregation_params" MetricAggregation.read)

def toDocument (p : MetricParams) : Document :=
  .ofPresent [
    ("measure", p.measure.map (·.toDocument)),
    ("numerator", p.numerator.map (·.toDocument)),
    ("denominator", p.denominator.map (·.toDocument)),
    ("expr", p.expr.map .string),
    ("window", p.window.map .string),
    ("grain_to_date", p.grainToDate.map .string),
    ("metrics", p.metrics.map fun ms => .list (ms.map (·.toDocument))),
    ("conversion_type_params", p.conversion.map (·.toDocument)),
    ("cumulative_type_params", p.cumulative.map (·.toDocument)),
    ("metric_aggregation_params", p.aggregation.map (·.toDocument))]

end MetricParams

namespace Metric

def read : Reader Metric :=
  .record "Metric" (.mk
    <$> Fields.required "name" .text
    <*> Fields.required "type" (.word MetricKind)
    <*> Fields.filled "type_params" .empty MetricParams.read
    <*> Fields.optional "filter" FilterIntersection.read
    <*> Fields.optional "description" .text
    <*> Fields.optional "label" .text
    <*> Fields.optional "metadata" Metadata.read)

def toDocument (m : Metric) : Document :=
  .ofPresent [
    ("name", some (.string m.name)),
    ("type", some (.ofWord m.kind)),
    ("type_params", some m.params.toDocument),
    ("filter", m.filter.map (·.toDocument)),
    ("description", m.description.map .string),
    ("label", m.label.map .string),
    ("metadata", m.metadata.map (·.toDocument))]

end Metric

end SemanticLayer

import SemanticLayer.Manifest.Format.Basic

/-!
# The written form of semantic models

Each part of a semantic model is read from a record and written as an object. Values that are not
set are left out of the object.
-/

namespace SemanticLayer

namespace Entity

def read : Reader Entity :=
  .record "Entity" (.mk
    <$> Fields.required "name" .text
    <*> Fields.required "type" (.word EntityKind)
    <*> Fields.optional "description" .text
    <*> Fields.optional "role" .text
    <*> Fields.optional "expr" .text
    <*> Fields.optional "label" .text)

def toDocument (e : Entity) : Document :=
  .ofPresent [
    ("name", some (.string e.name)),
    ("type", some (.ofWord e.kind)),
    ("description", e.description.map .string),
    ("role", e.role.map .string),
    ("expr", e.expr.map .string),
    ("label", e.label.map .string)]

end Entity

namespace ValidityParams

def read : Reader ValidityParams :=
  .record "DimensionValidityParams" (.mk
    <$> Fields.filled "is_start" false .bool
    <*> Fields.filled "is_end" false .bool)

def toDocument (p : ValidityParams) : Document :=
  .ofPresent [("is_start", some (.bool p.isStart)), ("is_end", some (.bool p.isEnd))]

end ValidityParams

namespace DimensionParams

def read : Reader DimensionParams :=
  .record "DimensionTypeParams" (.mk
    <$> Fields.optional "time_granularity" (.word Granularity)
    <*> Fields.filled "is_primary" false .bool
    <*> Fields.optional "validity_params" ValidityParams.read)

def toDocument (p : DimensionParams) : Document :=
  .ofPresent [
    ("time_granularity", p.granularity.map .ofWord),
    ("is_primary", some (.bool p.isPrimary)),
    ("validity_params", p.validity.map (·.toDocument))]

end DimensionParams

namespace Dimension

def read : Reader Dimension :=
  .record "Dimension" (.mk
    <$> Fields.required "name" .text
    <*> Fields.required "type" (.word DimensionKind)
    <*> Fields.optional "description" .text
    <*> Fields.filled "is_partition" false .bool
    <*> Fields.optional "type_params" DimensionParams.read
    <*> Fields.optional "expr" .text
    <*> Fields.optional "label" .text)

def toDocument (d : Dimension) : Document :=
  .ofPresent [
    ("name", some (.string d.name)),
    ("type", some (.ofWord d.kind)),
    ("description", d.description.map .string),
    ("is_partition", some (.bool d.isPartition)),
    ("type_params", d.params.map (·.toDocument)),
    ("expr", d.expr.map .string),
    ("label", d.label.map .string)]

end Dimension

namespace AggregationParams

def read : Reader AggregationParams :=
  .record "MeasureAggregationParameters" (.mk
    <$> Fields.optional "percentile" .number
    <*> Fields.filled "use_discrete_percentile" false .bool
    <*> Fields.filled "use_approximate_percentile" false .bool)

def toDocument (p : AggregationParams) : Document :=
  .ofPresent [
    ("percentile", p.percentile.map .float),
    ("use_discrete_percentile", some (.bool p.useDiscrete)),
    ("use_approximate_percentile", some (.bool p.useApproximate))]

end AggregationParams

namespace NonAdditiveDimension

def read : Reader NonAdditiveDimension :=
  .record "NonAdditiveDimensionParameters" (.mk
    <$> Fields.required "name" .text
    <*> Fields.filled "window_choice" .min (.word Aggregation)
    <*> Fields.filled "window_groupings" [] (.list .text))

def toDocument (n : NonAdditiveDimension) : Document :=
  .ofPresent [
    ("name", some (.string n.name)),
    ("window_choice", some (.ofWord n.windowChoice)),
    ("window_groupings", some (.ofTexts n.windowGroupings))]

end NonAdditiveDimension

namespace Measure

def read : Reader Measure :=
  .record "Measure" (.mk
    <$> Fields.required "name" .text
    <*> Fields.required "agg" (.word Aggregation)
    <*> Fields.optional "description" .text
    <*> Fields.filled "create_metric" false .bool
    <*> Fields.optional "expr" .text
    <*> Fields.optional "agg_params" AggregationParams.read
    <*> Fields.optional "non_additive_dimension" NonAdditiveDimension.read
    <*> Fields.optional "agg_time_dimension" .text
    <*> Fields.optional "label" .text)

def toDocument (m : Measure) : Document :=
  .ofPresent [
    ("name", some (.string m.name)),
    ("agg", some (.ofWord m.agg)),
    ("description", m.description.map .string),
    ("create_metric", some (.bool m.createMetric)),
    ("expr", m.expr.map .string),
    ("agg_params", m.aggParams.map (·.toDocument)),
    ("non_additive_dimension", m.nonAdditive.map (·.toDocument)),
    ("agg_time_dimension", m.aggTimeDimension.map .string),
    ("label", m.label.map .string)]

end Measure

namespace ModelDefaults

def read : Reader ModelDefaults :=
  .record "SemanticModelDefaults" (.mk <$> Fields.optional "agg_time_dimension" .text)

def toDocument (d : ModelDefaults) : Document :=
  .ofPresent [("agg_time_dimension", d.aggTimeDimension.map .string)]

end ModelDefaults

namespace SemanticModel

def read : Reader SemanticModel :=
  .record "SemanticModel" (.mk
    <$> Fields.required "name" .text
    <*> Fields.optional "description" .text
    <*> Fields.optional "label" .text
    <*> Fields.required "node_relation" NodeRelation.read
    <*> Fields.optional "defaults" ModelDefaults.read
    <*> Fields.optional "primary_entity" .text
    <*> Fields.filled "entities" [] (.list Entity.read)
    <*> Fields.filled "dimensions" [] (.list Dimension.read)
    <*> Fields.filled "measures" [] (.list Measure.read)
    <*> Fields.optional "metadata" Metadata.read)

def toDocument (m : SemanticModel) : Document :=
  .ofPresent [
    ("name", some (.string m.name)),
    ("description", m.description.map .string),
    ("label", m.label.map .string),
    ("node_relation", some m.nodeRelation.toDocument),
    ("defaults", m.defaults.map (·.toDocument)),
    ("primary_entity", m.primaryEntity.map .string),
    ("entities", some (.list (m.entities.map (·.toDocument)))),
    ("dimensions", some (.list (m.dimensions.map (·.toDocument)))),
    ("measures", some (.list (m.measures.map (·.toDocument)))),
    ("metadata", m.metadata.map (·.toDocument))]

end SemanticModel

end SemanticLayer

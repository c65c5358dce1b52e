import SemanticLayer.Manifest.Basic
import SemanticLayer.Manifest.Format.Metric

/-!
# The written form of manifests

A manifest is written as one object. Lists that are left out are empty, and a version that is left
out is the current one.
-/

namespace SemanticLayer

namespace QueryParams

def read : Reader QueryParams :=
  .record "SavedQueryQueryParams" (.mk
    <$> Fields.filled "metrics" [] (.list .text)
    <*> Fields.filled "group_by" [] (.list .text)
    <*> Fields.optional "where" FilterIntersection.read
    <*> Fields.filled "order_by" [] (.list .text)
    <*> Fields.optional "limit" .int64)

def toDocument (p : QueryParams) : Document :=
  .ofPresent [
    ("metrics", some (.ofTexts p.metrics)),
    ("group_by", some (.ofTexts p.groupBy)),
    ("where", p.filter.map (·.toDocument)),
    ("order_by", some (.ofTexts p.orderBy)),
    ("limit", p.limit.map .ofInt64)]

end QueryParams

namespace ExportConfig

def read : Reader ExportConfig :=
  .record "ExportConfig" (.mk
    <$> Fields.required "export_as" (.word ExportKind)
    <*> Fields.optional "schema_name" .text
    <*> Fields.optional "alias" .text)

def toDocument (c : ExportConfig) : Document :=
  .ofPresent [
    ("export_as", some (.ofWord c.exportAs)),
    ("schema_name", c.schemaName.map .string),
    ("alias", c.aliasName.map .string)]

end ExportConfig

namespace Export

def read : Reader Export :=
  .record "Export" (.mk
    <$> Fields.required "name" .text
    <*> Fields.required "config" ExportConfig.read)

def toDocument (e : Export) : Document :=
  .ofPresent [("name", some (.string e.name)), ("config", some e.config.toDocument)]

end Export

namespace SavedQuery

def read : Reader SavedQuery :=
  .record "SavedQuery" (.mk
    <$> Fields.required "name" .text
    <*> Fields.filled "query_params" .empty QueryParams.read
    <*> Fields.optional "description" .text
    <*> Fields.optional "label" .text
    <*> Fields.filled "exports" [] (.list Export.read)
    <*> Fields.optional "metadata" Metadata.read)

def toDocument (q : SavedQuery) : Document :=
  .ofPresent [
    ("name", some (.string q.name)),
    ("query_params", some q.params.toDocument),
    ("description", q.description.map .string),
    ("label", q.label.map .string),
    ("exports", some (.list (q.exports.map (·.toDocument)))),
    ("metadata", q.metadata.map (·.toDocument))]

end SavedQuery

namespace PrimaryColumn

def read : Reader PrimaryColumn :=
  .record "TimeSpinePrimaryColumn" (.mk
    <$> Fields.required "name" .text
    <*> Fields.required "time_granularity" (.word Granularity))

def toDocument (c : PrimaryColumn) : Document :=
  .ofPresent [
    ("name", some (.string c.name)),
    ("time_granularity", some (.ofWord c.granularity))]

end PrimaryColumn

namespace CustomGranularity

def read : Reader CustomGranularity :=
  .record "CustomGranularity" (.mk
    <$> Fields.required "name" .text
    <*> Fields.optional "column_name" .text)

def toDocument (g : CustomGranularity) : Document :=
  .ofPresent [("name", some (.string g.name)), ("column_name", g.columnName.map .string)]

end CustomGranularity

namespace TimeSpine

def read : Reader TimeSpine :=
  .record "TimeSpine" (.mk
    <$> Fields.optional "node_relation" NodeRelation.read
    <*> Fields.optional "primary_column" PrimaryColumn.read
    <*> Fields.filled "custom_granularities" [] (.list CustomGranularity.read))

def toDocument (s : TimeSpine) : Document :=
  .ofPresent [
    ("node_relation", s.nodeRelation.map (·.toDocument)),
    ("primary_column", s.primaryColumn.map (·.toDocument)),
    ("custom_granularities", some (.list (s.customGranularities.map (·.toDocument))))]

end TimeSpine

namespace ProjectConfiguration

def read : Reader ProjectConfiguration :=
  .record "ProjectConfiguration" (.mk <$> Fields.filled "time_spines" [] (.list TimeSpine.read))

def toDocument (c : ProjectConfiguration) : Document :=
  .ofPresent [("time_spines", some (.list (c.timeSpines.map (·.toDocument))))]

end ProjectConfiguration

namespace Manifest

def read : Reader Manifest :=
  .record "SemanticManifest" (.mk
    <$> Fields.filled "semantic_models" [] (.list SemanticModel.read)
    <*> Fields.filled "metrics" [] (.list Metric.read)
    <*> Fields.filled "saved_queries" [] (.list SavedQuery.read)
    <*> Fields.filled "project_configuration" ⟨[]⟩ ProjectConfiguration.read
    <*> Fields.filled "interfaces_version" defaultVersion .text)

def toDocument (m : Manifest) : Document :=
  .ofPresent [
    ("semantic_models", some (.list (m.semanticModels.map (·.toDocument)))),
    ("metrics", some (.list (m.metrics.map (·.toDocument)))),
    ("saved_queries", some (.list (m.savedQueries.map (·.toDocument)))),
    ("project_configuration", some m.configuration.toDocument),
    ("interfaces_version", some (.string m.interfacesVersion))]

end Manifest

end SemanticLayer

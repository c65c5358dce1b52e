import SemanticLayer.Manifest.Metric

/-!
# Saved queries

A saved query asks for metrics, grouped, filtered and ordered, and names the places its result is
exported to.
-/

namespace SemanticLayer

/-- What a saved query asks for. -/
structure QueryParams where
  metrics : List String
  groupBy : List String
  filter  : Option FilterIntersection
  orderBy : List String
  limit   : Option Int64
  deriving DecidableEq

/-- A query that asks for nothing. -/
def QueryParams.empty : QueryParams := ⟨[], [], none, [], none⟩

/-- How a result is exported. -/
structure ExportConfig where
  exportAs   : ExportKind
  schemaName : Option String
  aliasName  : Option String
  deriving DecidableEq

/-- A place that a result is exported to. -/
structure Export where
  name   : String
  config : ExportConfig
  deriving DecidableEq

/-- A saved query. -/
structure SavedQuery where
  name        : String
  params      : QueryParams
  description : Option String
  label       : Option String
  exports     : List Export
  metadata    : Option Metadata
  deriving DecidableEq

end SemanticLayer

import SemanticLayer.Manifest.SavedQuery
import SemanticLayer.Text.Lower

/-!
# Manifests

A manifest holds the semantic models, metrics and saved queries of a project, and the time spines
with the custom granularities they declare. Objects are looked up by name, and the first one of a
name counts.
-/

namespace SemanticLayer

/-- The column that a time spine starts from. -/
structure PrimaryColumn where
  name        : String
  granularity : Granularity
  deriving DecidableEq

/-- A granularity that a project declares. -/
structure CustomGranularity where
  name       : String
  columnName : Option String
  deriving DecidableEq

/-- A table of points in time. -/
structure TimeSpine where
  nodeRelation        : Option NodeRelation
  primaryColumn       : Option PrimaryColumn
  customGranularities : List CustomGranularity
  deriving DecidableEq

/-- The settings of a project. -/
structure ProjectConfiguration where
  timeSpines : List TimeSpine
  deriving DecidableEq

/-- A manifest. -/
structure Manifest where
  semanticModels    : List SemanticModel
  metrics           : List Metric
  savedQueries      : List SavedQuery
  configuration     : ProjectConfiguration
  interfacesVersion : String
  deriving DecidableEq

namespace Manifest

/-- The version that a manifest without one belongs to. -/
def defaultVersion : String := "0.1.0"

/-- The custom granularities of all time spines. -/
def customGranularities (m : Manifest) : List CustomGranularity :=
  m.configuration.timeSpines.flatMap (·.customGranularities)

/-- The names of the custom granularities, in lower case. -/
def customGranularityNames (m : Manifest) : List String :=
  m.customGranularities.map (Text.lower ·.name)

/-- The first semantic model of that name. -/
def semanticModel? (m : Manifest) (name : String) : Option SemanticModel :=
  m.semanticModels.find? (·.name == name)

/-- The first metric of that name. -/
def metric? (m : Manifest) (name : String) : Option Metric := m.metrics.find? (·.name == name)

/-- The first semantic model that defines a measure of that name, with the measure. -/
def measure? (m : Manifest) (name : String) : Option (SemanticModel × Measure) :=
  m.semanticModels.findSome? fun model => (model.measure? name).map (model, ·)

end Manifest

end SemanticLayer

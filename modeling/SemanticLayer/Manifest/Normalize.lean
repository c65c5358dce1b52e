import SemanticLayer.Manifest.Basic
import SemanticLayer.Text.Blank

/-!
# Normal manifests

A manifest as it is written may leave things out. Its normal form has names in lower case, only
the aggregations that are computed directly, the time dimension of every measure, and a metric for
every measure that asks for one.
-/

namespace SemanticLayer

/-- Why a manifest has no normal form: a measure counts without saying what. -/
inductive NormalizeError where
  | countWithoutExpr (measure : String)
  deriving DecidableEq, Repr

/-- The wording of the error. -/
def NormalizeError.message : NormalizeError → String
  | .countWithoutExpr measure =>
    s!"Measure {measure} uses a COUNT aggregation, which requires an expr to be provided. " ++
      "Provide 'expr: 1' if a count of all rows is desired."

/-! ### Aggregations -/

namespace Measure

/-- The expression of a count: one for every row, or one for every row where `expr` is set. -/
def countedExpr (expr : String) : String :=
  if Text.trim expr == "1" then expr else s!"CASE WHEN {expr} IS NOT NULL THEN 1 ELSE 0 END"

/-- The parameters of a median among those of a percentile. -/
def medianParams (p : AggregationParams) : AggregationParams :=
  { p with percentile := some .half, useDiscrete := false }

/-- The measure with an aggregation that is computed directly: counts are sums, and a median is a
percentile. -/
def directAggregation (m : Measure) : Except NormalizeError Measure :=
  match m.agg with
  | .count =>
    match m.expr with
    | none      => .error (.countWithoutExpr m.name)
    | some expr => .ok { m with agg := .sum, expr := some (countedExpr expr) }
  | .sumBoolean =>
    let expr := m.expr.getD m.name
    .ok { m with agg := .sum, expr := some s!"CASE WHEN {expr} THEN 1 ELSE 0 END" }
  | .median =>
    .ok { m with
      agg := .percentile, aggParams := some (medianParams (m.aggParams.getD .empty)) }
  | _ => .ok m

/-- The measures with aggregations that are computed directly. -/
def directAggregations : List Measure → Except NormalizeError (List Measure)
  | []      => .ok []
  | m :: ms =>
    match directAggregation m with
    | .error e => .error e
    | .ok m'   =>
      match directAggregations ms with
      | .error e => .error e
      | .ok ms'  => .ok (m' :: ms')

/-- The measure aggregated over `time` unless it names a time dimension itself. -/
def fillAggTimeDimension (time : Option String) (m : Measure) : Measure :=
  { m with aggTimeDimension := m.aggTimeDimension.or time }

end Measure

/-! ### Models -/

namespace SemanticModel

/-- The model with its name and those of its elements in lower case. -/
def lowerNames (m : SemanticModel) : SemanticModel :=
  { m with
    name       := Text.lower m.name
    entities   := m.entities.map fun e => { e with name := Text.lower e.name }
    dimensions := m.dimensions.map fun d => { d with name := Text.lower d.name }
    measures   := m.measures.map fun e => { e with name := Text.lower e.name } }

/-- The model whose measures all name a time dimension if the model has a default one. -/
def fillAggTimeDimensions (m : SemanticModel) : SemanticModel :=
  { m with measures := m.measures.map (·.fillAggTimeDimension m.defaultAggTimeDimension?) }

/-- The normal form of a model. -/
def normalize (m : SemanticModel) : Except NormalizeError SemanticModel :=
  match Measure.directAggregations m.lowerNames.measures with
  | .error e      => .error e
  | .ok measures  => .ok { m.lowerNames with measures }.fillAggTimeDimensions

/-- The normal forms of models. -/
def normalizeAll : List SemanticModel → Except NormalizeError (List SemanticModel)
  | []      => .ok []
  | m :: ms =>
    match m.normalize with
    | .error e => .error e
    | .ok m'   =>
      match normalizeAll ms with
      | .error e => .error e
      | .ok ms'  => .ok (m' :: ms')

end SemanticModel

/-! ### Manifests -/

namespace Metric

/-- The metric with its name in lower case. -/
def lowerName (m : Metric) : Metric := { m with name := Text.lower m.name }

/-- The metric that stands for a measure of a semantic model. -/
def ofMeasure (model : SemanticModel) (measure : Measure) : Metric :=
  { name        := measure.name
    kind        := .simple
    params      := { MetricParams.empty with measure := some (.ofName measure.name) }
    filter      := none
    description := measure.description
    label       := measure.label
    metadata    := model.metadata }

end Metric

/-- The saved query with its name in lower case. -/
def SavedQuery.lowerName (q : SavedQuery) : SavedQuery := { q with name := Text.lower q.name }

namespace Manifest

/-- The metrics for the measures that ask for one and whose names are not taken. -/
def measureMetrics (models : List SemanticModel) (metrics : List Metric) : List Metric :=
  models.flatMap fun model =>
    (model.measures.filter fun m => m.createMetric && !(metrics.map (·.name)).contains m.name).map
      (Metric.ofMeasure model)

/-- The normal form of a manifest. -/
def normalize (m : Manifest) : Except NormalizeError Manifest :=
  match SemanticModel.normalizeAll m.semanticModels with
  | .error e    => .error e
  | .ok models  =>
    let metrics := m.metrics.map (·.lowerName)
    .ok { m with
      semanticModels := models
      metrics        := metrics ++ measureMetrics models metrics
      savedQueries   := m.savedQueries.map (·.lowerName) }

end Manifest

end SemanticLayer

import SemanticLayer.Text.Word
import SemanticLayer.Validation.Rules.Names
import SemanticLayer.Window

/-!
# Rules about metrics

A metric has the parameters that its kind needs, what it reads exists, and the names that its
inputs go by are valid and tell them apart.
-/

namespace SemanticLayer.Rules

/-! ### Parameters -/

/-- The parameters that a metric of its kind lacks. -/
def lackingParams (m : Metric) : List String :=
  let p := m.params
  let need (present : Bool) (field : String) : List String := if present then [] else [field]
  match m.kind with
  | .simple     =>
    need (p.measure.isSome || p.aggregation.isSome)
      "measure` or `type_params.metric_aggregation_params"
  | .ratio      => need p.numerator.isSome "numerator" ++ need p.denominator.isSome "denominator"
  | .cumulative => need p.measure.isSome "measure"
  | .derived    => []
  | .conversion => need p.conversion.isSome "conversion_type_params"

/-- The parameters that belong to metrics of one kind: whether they are set, their name and the
kind. -/
def ownedParams (p : MetricParams) : List (Bool × String × MetricKind) := [
  (p.numerator.isSome, "numerator", .ratio),
  (p.denominator.isSome, "denominator", .ratio),
  (p.metrics.isSome, "metrics", .derived),
  (p.conversion.isSome, "conversion_type_params", .conversion),
  (p.cumulative.isSome, "cumulative_type_params", .cumulative),
  (p.aggregation.isSome, "metric_aggregation_params", .simple)]

/-- The issues with the parameters of a metric. -/
def metricParamIssues (m : Manifest) (metric : Metric) : List Issue :=
  let context := Context.ofMetric metric
  ((lackingParams metric).map fun field =>
    .error context
      s!"{metric.kind.name} metric `{metric.name}` must set `type_params.{field}`.") ++
  ((ownedParams metric.params).flatMap fun (present, field, owner) =>
    if present && metric.kind != owner then
      [.error context
        (s!"Metric `{metric.name}` is of type {metric.kind.name} and can't set " ++
          s!"`type_params.{field}`; it is only used by {owner.name} metrics.")]
    else []) ++
  (if metric.kind == .simple && metric.params.measure.isSome &&
      metric.params.aggregation.isSome then
    [.error context
      (s!"Simple metric `{metric.name}` sets both `type_params.measure` and " ++
        "`type_params.metric_aggregation_params`. Set one or the other.")]
  else []) ++
  match metric.params.aggregation with
  | none   => []
  | some a =>
    if (m.semanticModel? a.semanticModel).isSome then [] else
      [.error context
        (s!"Metric `{metric.name}` aggregates semantic model `{a.semanticModel}`, which is not " ++
          "defined in the model.")]

/-- A metric sets the parameters that its kind needs and none that belong to another kind. -/
def metricParams (m : Manifest) : List Issue := m.metrics.flatMap (metricParamIssues m)

/-! ### Measure inputs -/

/-- The measures that metrics read exist. -/
def metricMeasures (m : Manifest) : List Issue :=
  m.metrics.flatMap fun metric => metric.inputMeasures.flatMap fun input =>
    if (m.measure? input.name).isSome then [] else
      [.error (Context.ofMetric metric)
        (s!"Measure {input.name} referenced in metric {metric.name} is not defined in the " ++
          "model!")]

/-- The measure inputs that have an alias: the metric, the input and the alias. -/
def aliasedInputs (m : Manifest) : List (Metric × MeasureInput × String) :=
  m.metrics.flatMap fun metric => metric.inputMeasures.filterMap fun input =>
    input.aliasName.map (metric, input, ·)

/-- The alias of a measure input is a valid name, is not the name of another measure, and stands
for one measure wherever it is used. -/
def measureAliases (m : Manifest) : List Issue :=
  (withEarlier (fun (_, _, name) => name) (aliasedInputs m)).flatMap
    fun ((metric, input, name), earlier) =>
      let context := Context.ofMetric metric
      nameIssues context name ++
      (match m.measure? name with
       | none            => []
       | some (model, _) =>
         if name = input.name then [] else
           [.error context
             (s!"Alias `{name}` for measure `{input.name}` in metric `{metric.name}` conflicts " ++
               s!"with measure `{name}` defined in semantic model `{model.name}`.")]) ++
      match earlier with
      | []                 => []
      | (_, target, _) :: _ =>
        if target.name = input.name then [] else
          [.error context
            (s!"Measure alias `{name}` is used for different measures ({target.name}, " ++
              s!"{input.name}) in metric `{metric.name}`.")]

/-! ### Cumulative metrics -/

/-- The window of a cumulative metric, wherever it is set. -/
def cumulativeWindow? (p : MetricParams) : Option String :=
  (p.cumulative.bind (·.window)).or p.window

/-- The granularity that a cumulative metric starts over at, wherever it is set. -/
def cumulativeGrain? (p : MetricParams) : Option String :=
  (p.cumulative.bind (·.grainToDate)).or p.grainToDate

/-- The issue with a text that should be a window. -/
def windowIssues (context : Context) (custom : List String) (window : Option String) : List Issue :=
  match window with
  | none   => []
  | some w =>
    match Window.parse custom w with
    | .ok _        => []
    | .error fault => [.error context (fault.message w)]

/-- The issues with the window and the granularity of a cumulative metric. -/
def cumulativeIssues (custom : List String) (metric : Metric) : List Issue :=
  let context := Context.ofMetric metric
  let p := metric.params
  (if p.window.isSome || p.grainToDate.isSome then
    [.futureError context
      ("Cumulative fields `type_params.window` and `type_params.grain_to_date` have been moved " ++
        "and will soon be removed. Please nest those values under " ++
        "`type_params.cumulative_type_params.window` and " ++
        "`type_params.cumulative_type_params.grain_to_date`.")]
  else []) ++
  (if (cumulativeWindow? p).isSome && (cumulativeGrain? p).isSome then
    [.error context
      ("Both window and grain_to_date set for cumulative metric. Please set one or the other")]
  else []) ++
  windowIssues context custom (cumulativeWindow? p) ++
  match cumulativeGrain? p with
  | none   => []
  | some g =>
    if isKnownGranularity custom g then [] else
      [.error context
        (s!"Invalid time granularity `{g}` for grain_to_date in cumulative metric " ++
          s!"`{metric.name}`. Valid granularity options: " ++ granularityOptions custom)]

/-- A cumulative metric has a window or a granularity to start over at, not both, in the place
where they belong. -/
def cumulativeMetrics (m : Manifest) : List Issue :=
  (m.metrics.filter (·.kind == .cumulative)).flatMap (cumulativeIssues m.customGranularityNames)

/-! ### Derived metrics -/

/-- The name is one of the words of the expression. -/
def mentions (expr name : String) : Bool := (Text.wordsOf expr).contains name

/-- The issues with one input of a derived metric. The aliases of the inputs before it and the names
of all inputs are taken. -/
def derivedInputIssues (m : Manifest) (metric : Metric) (input : MetricInput)
    (taken : List String) : List Issue :=
  let context := Context.ofMetric metric
  let custom := m.customGranularityNames
  (if (m.metric? input.name).isSome then [] else
    [.error context
      (s!"For metric: {metric.name}, input metric: '{input.name}' does not exist as a " ++
        "configured metric in the model.")]) ++
  (match input.aliasName with
   | none       => []
   | some name  =>
     nameIssues context name ++
       if taken.contains name then
         [.error context
           (s!"Alias '{name}' for input metric: '{input.name}' is already being used. Please " ++
             "choose another alias.")]
       else []) ++
  (if input.offsetWindow.isSome && input.offsetToGrain.isSome then
    [.error context
      (s!"Both offset_window and offset_to_grain set for derived metric '{metric.name}' on " ++
        s!"input metric '{input.name}'. Please set one or the other.")]
  else []) ++
  (match input.offsetWindow with
   | none   => []
   | some w =>
     match Window.parse custom w with
     | .ok _        => []
     | .error fault =>
       [.error context
         (s!"Invalid offset_window for input metric '{input.name}' on derived metric " ++
           s!"'{metric.name}': " ++ fault.message w)]) ++
  match input.offsetToGrain with
  | none   => []
  | some g =>
    if isKnownGranularity custom g then [] else
      [.error context
        (s!"Invalid time granularity '{g}' in offset_to_grain for input metric '{input.name}' " ++
          s!"on derived metric '{metric.name}'. Valid granularity options: " ++
          granularityOptions custom)]

/-- The issues with the inputs of a derived metric. -/
def derivedInputsIssues (m : Manifest) (metric : Metric) :
    List String → List MetricInput → List Issue
  | _,     []              => []
  | taken, input :: inputs =>
    derivedInputIssues m metric input taken ++
      derivedInputsIssues m metric (taken ++ input.aliasName.toList) inputs

/-- The issues with the expression of a derived metric. -/
def derivedExprIssues (metric : Metric) : List Issue :=
  let context := Context.ofMetric metric
  match metric.params.expr with
  | none      =>
    [.warning context
      (s!"No `expr` set for derived metric `{metric.name}`. Derived metrics should combine " ++
        "their input metrics with an expr.")]
  | some expr =>
    metric.derivedInputs.flatMap fun input =>
      if mentions expr input.effectiveName then [] else
        [.error context
          (s!"Input metric '{input.effectiveName}' is not used in `expr`: '{expr}' for derived " ++
            s!"metric '{metric.name}'.")]

/-- The issues with a derived metric. -/
def derivedIssues (m : Manifest) (metric : Metric) : List Issue :=
  (if metric.derivedInputs.isEmpty then
    [.error (Context.ofMetric metric)
      (s!"No input metrics found for derived metric `{metric.name}`. Please add metrics to " ++
        "`type_params.metrics`.")]
  else []) ++
  derivedInputsIssues m metric (metric.derivedInputs.map (·.name)) metric.derivedInputs ++
  derivedExprIssues metric

/-- A derived metric reads metrics that exist under names that tell them apart, uses each of them,
and moves each of them in time in at most one way. -/
def derivedMetrics (m : Manifest) : List Issue :=
  (m.metrics.filter (·.kind == .derived)).flatMap (derivedIssues m)

/-! ### Conversion metrics -/

/-- The measure counts rows. -/
def countsRows (measure : Measure) : Bool :=
  match measure.agg with
  | .count | .countDistinct => true
  | .sum                    => (measure.expr.map Text.trim) == some "1"
  | _                       => false

/-- The issue with a measure of a conversion that does not count rows. -/
def countingIssues (m : Manifest) (context : Context) (input : MeasureInput) : List Issue :=
  match m.measure? input.name with
  | none              => []
  | some (_, measure) =>
    if countsRows measure then [] else
      [.error context
        (s!"For conversion metrics, the measure must be COUNT/SUM(1)/COUNT_DISTINCT. Measure: " ++
          s!"{measure.name} is agg type: {measure.agg.name}")]

/-- The issue with a model that does not have the entity that a conversion is joined on. -/
def joinIssues (context : Context) (entity side : String) (model : Option SemanticModel) :
    List Issue :=
  match model with
  | none       => []
  | some model =>
    if (model.entity? entity).isSome then [] else
      [.error context s!"Entity: {entity} not found in {side} semantic model: {model.name}."]

/-- The issue with a model that does not have a property. -/
def propertyIssues (context : Context) (property : String) (model : Option SemanticModel) :
    List Issue :=
  match model with
  | none       => []
  | some model =>
    if (model.entity? property).isSome || (model.dimension? property).isSome then [] else
      [.error context
        (s!"The provided constant property: {property}, cannot be found in semantic model " ++
          model.name)]

/-- The issues with a conversion. -/
def conversionIssues (m : Manifest) (metric : Metric) (p : ConversionParams) : List Issue :=
  let context := Context.ofMetric metric
  let base := (m.measure? p.baseMeasure.name).map Prod.fst
  let conversion := (m.measure? p.conversionMeasure.name).map Prod.fst
  windowIssues context m.customGranularityNames p.window ++
  (if p.conversionMeasure.filter.isSome then
    [.warning context
      (s!"Measure input {p.conversionMeasure.name} has a filter. For conversion metrics, " ++
        "filtering on a conversion input measure is not fully supported.")]
  else []) ++
  countingIssues m context p.baseMeasure ++
  countingIssues m context p.conversionMeasure ++
  joinIssues context p.entity "base" base ++
  joinIssues context p.entity "conversion" conversion ++
  (p.constantProperties.getD []).flatMap fun property =>
    propertyIssues context property.baseProperty base ++
      propertyIssues context property.conversionProperty conversion

/-- A conversion metric counts rows, and its two models have the entity that they are joined on and
the properties that must not change. -/
def conversionMetrics (m : Manifest) : List Issue :=
  (m.metrics.filter (·.kind == .conversion)).flatMap fun metric =>
    match metric.params.conversion with
    | none   => []
    | some p => conversionIssues m metric p

end SemanticLayer.Rules

import SemanticLayer.Number.Layout
import SemanticLayer.Text.Word
import SemanticLayer.Validation.Issue

/-!
# Rules about aggregations

Counts say what they count, percentiles have a percentile, and an aggregation that must not be
summed up over time says so in a way that its model supports.
-/

namespace SemanticLayer.Rules

/-- What is aggregated in a manifest: the model, the element and the context of issues about it. -/
def additiveElements (m : Manifest) : List (SemanticModel × AdditiveElement × Context) :=
  (m.semanticModels.flatMap fun model => model.measures.map fun e =>
    (model, e.additive, .ofElement model e.name .measure)) ++
  (m.metrics.filterMap fun metric => do
    let a ← metric.simpleAggregation?
    let model ← m.semanticModel? a.semanticModel
    some (model, metric.additive a, .ofMetric metric))

/-! ### Counts -/

/-- A letter without its case. The long s is an s. -/
def foldCase (c : Char) : Char := if c == 'ſ' then 's' else c.toLower

/-- The word `distinct`, in any case, stands in the expression. -/
def mentionsDistinct (expr : String) : Bool :=
  (Text.wordsOf expr).any fun w => w.toList.map foldCase == "distinct".toList

/-- Counts say what they count, and do not hide that they count distinct values. -/
def countExpressions (m : Manifest) : List Issue :=
  m.semanticModels.flatMap fun model =>
    (model.measures.filter (·.agg == .count)).flatMap fun measure =>
      let context := Context.ofElement model measure.name .measure
      match measure.expr with
      | none      =>
        [.error context
          (s!"Measure '{measure.name}' uses a COUNT aggregation, which requires an expr to be " ++
            "provided. Provide 'expr: 1' if a count of all rows is desired.")]
      | some expr =>
        if mentionsDistinct expr then
          [.error context
            (s!"In semantic model `{model.name}`, measure `{measure.name}` uses a COUNT " ++
              s!"aggregation with a DISTINCT expr: `{expr}`. Use a COUNT_DISTINCT aggregation " ++
              "instead.")]
        else []

/-! ### Percentiles -/

/-- The issues with the percentile of an element that is a percentile. -/
def percentileIssues (context : Context) (e : AdditiveElement) : List Issue :=
  (match e.aggParams.bind (·.percentile) with
   | none   =>
     [.error context
       (s!"Percentile aggregation parameters for the {e.kind.name} {e.name} must contain " ++
         "percentile.")]
   | some p =>
     if p.atMostZero || p.atLeastOne then
       [.error context
         (s!"Percentile aggregation parameter for the {e.kind.name} {e.name} is " ++
           p.toPlainText ++ ", but must be between 0 and 1 (non-inclusive). For example, to " ++
           "indicate the 65th percentile, input 0.65.")]
     else []) ++
  (if e.aggParams.any fun p => p.useDiscrete && p.useApproximate then
    [.error context
      (s!"Percentile aggregation parameters for the {e.kind.name} {e.name} set both " ++
        "use_discrete_percentile and use_approximate_percentile. Only one can be used.")]
  else [])

/-- A percentile lies strictly between 0 and 1 and is computed in at most one special way; other
aggregations have no parameters of a percentile. -/
def percentiles (m : Manifest) : List Issue :=
  (additiveElements m).flatMap fun (_, e, context) =>
    if e.agg == .percentile then percentileIssues context e
    else if e.aggParams.any fun p =>
        p.percentile.isSome || p.useDiscrete || p.useApproximate then
      [.error context
        (s!"{e.kind.title} {e.name} with agg type {e.agg.name} cannot be used with percentile, " ++
          "use_discrete_percentile, or use_approximate_percentile agg params.")]
    else []

/-! ### Non-additive dimensions -/

/-- The issues with the dimension that a non-additive dimension names. -/
def nonAdditiveDimensionIssues (context : Context) (model : SemanticModel) (e : AdditiveElement)
    (n : NonAdditiveDimension) (aggTime : String) : List Issue :=
  let start := s!"{e.kind.title} '{e.name}' has a non_additive_dimension with name '{n.name}' that "
  match model.dimension? n.name with
  | none   =>
    [.error context
      (start ++ s!"is not defined as a dimension in semantic model '{model.name}'.")]
  | some d =>
    if d.kind != .time then
      [.error context
        (start ++ "is defined as a categorical dimension which is not supported.")]
    else
      match (model.dimension? aggTime).bind (·.granularity), d.granularity with
      | some known, some given =>
        if known = given then [] else
          [.error context
            (start ++ s!"has a base time granularity ({given.name}) that is not equal to the " ++
              s!"{e.kind.name} agg_time_dimension '{aggTime}' with a base granularity of " ++
              s!"({known.name}).")]
      | _, _ => []

/-- The issues with a non-additive dimension. -/
def nonAdditiveIssues (context : Context) (model : SemanticModel) (e : AdditiveElement)
    (n : NonAdditiveDimension) (aggTime : String) : List Issue :=
  let start := s!"{e.kind.title} '{e.name}' has a non_additive_dimension with an invalid "
  let missing := n.windowGroupings.filter fun g => (model.entity? g).isNone
  nonAdditiveDimensionIssues context model e n aggTime ++
  (if n.windowChoice == .min || n.windowChoice == .max then [] else
    [.error context
      (start ++ s!"'window_choice' of '{n.windowChoice.name}'. Only choices supported are 'min' " ++
        "or 'max'.")]) ++
  (if missing.isEmpty then [] else
    [.error context
      (start ++ "'window_groupings'. These entities [" ++ ", ".intercalate missing ++
        s!"] do not exist in the semantic model '{model.name}'.")])

/-- A non-additive dimension is a time dimension of the element's model with the granularity of the
time it is aggregated over, the least or greatest value is chosen, and it is grouped by entities of
the model. -/
def nonAdditiveDimensions (m : Manifest) : List Issue :=
  (additiveElements m).flatMap fun (model, e, context) =>
    match e.nonAdditive, model.aggTimeDimensionFor? e with
    | some n, some aggTime => nonAdditiveIssues context model e n aggTime
    | _, _                 => []

end SemanticLayer.Rules

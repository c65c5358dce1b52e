import SemanticLayer.Validation.Issue

/-!
# Rules about time dimensions

Time dimensions have a granularity, the window in which the rows of a model are valid has a start
and an end, and what is aggregated has a time dimension to be aggregated over.
-/

namespace SemanticLayer.Rules

/-- Time dimensions declare a granularity, at most one of them is primary, and a model whose
measures rely on a default one has one. -/
def timeDimensions (m : Manifest) : List Issue :=
  m.semanticModels.flatMap fun model =>
    let primaries := model.primaryTimeDimensions
    ((model.dimensions.filter fun d => d.kind == .time && d.granularity.isNone).map fun d =>
      .error (Context.ofElement model d.name .dimension)
        (s!"In semantic model `{model.name}`, time dimension `{d.name}` must set " ++
          "`type_params.time_granularity`.")) ++
    (if primaries.length ≤ 1 then [] else primaries.map fun d =>
      .error (Context.ofElement model d.name .dimension)
        (s!"In semantic model {model.name}, Primary time dimension with name: {d.name} is one " ++
          "of many defined as primary.")) ++
    (if (model.measures.any (·.aggTimeDimension.isNone)) &&
        model.declaredAggTimeDimension?.isNone && primaries.isEmpty then
      [.error (Context.ofModel model)
        (s!"No primary time dimension in semantic model with name ({model.name}). Please add " ++
          "one")]
    else [])

/-! ### Validity windows -/

/-- The issues with one dimension of a validity window. -/
def validityDimensionIssues (model : SemanticModel) (d : Dimension) (v : ValidityParams) :
    List Issue :=
  let context := Context.ofModel model
  (if d.kind == .time then [] else
    [.error context
      (s!"Semantic model `{model.name}` sets validity_params on dimension `{d.name}`, which is " ++
        "not a time dimension.")]) ++
  (if v.isStart && v.isEnd then
    [.error context
      (s!"Semantic model `{model.name}` has validity param dimension `{d.name}` marked as both " ++
        "start and end. A validity window needs separate start and end dimensions.")]
  else [])

/-- The issues with a model that has the dimensions `window` of a validity window. -/
def validityWindowIssues (model : SemanticModel) (window : List (Dimension × ValidityParams)) :
    List Issue :=
  let context := Context.ofModel model
  let starts := (window.filter (·.2.isStart)).map (·.1.name)
  let ends := (window.filter (·.2.isEnd)).map (·.1.name)
  let naturals := (model.entities.filter (·.kind == .natural)).length
  let keyed := (model.entities.filter fun e => e.kind == .primary || e.kind == .unique).map (·.name)
  (window.flatMap fun (d, v) => validityDimensionIssues model d v) ++
  (if window.length = 2 ∧ starts.length = 1 ∧ ends.length = 1 then [] else
    [.error context
      (s!"Semantic model `{model.name}` has {window.length} dimensions with validity_params, " ++
        "with start dimensions [" ++ ", ".intercalate starts ++ "] and end dimensions [" ++
        ", ".intercalate ends ++ "]. There must be exactly one start and one end dimension.")]) ++
  (if naturals = 1 then [] else
    [.error context
      (s!"Semantic model `{model.name}` has validity param dimensions defined, so it must have " ++
        s!"exactly one natural entity, but found {naturals}.")]) ++
  (if keyed.isEmpty then [] else
    [.error context
      (s!"Semantic model `{model.name}` has validity param dimensions defined and also has " ++
        "primary or unique entities (" ++ ", ".intercalate keyed ++ "). A model with a validity " ++
        "window must be keyed by its natural entity.")]) ++
  (if model.measures.isEmpty then [] else
    [.error context
      (s!"Semantic model `{model.name}` has validity param dimensions defined and also has " ++
        "measures (" ++ ", ".intercalate (model.measures.map (·.name)) ++
        "). Measures are not supported on models with a validity window.")])

/-- A model with a validity window has one start and one end of it, is keyed by a natural entity
and has no measures. -/
def validityWindows (m : Manifest) : List Issue :=
  m.semanticModels.flatMap fun model =>
    match model.dimensions.filterMap fun d => d.validity.map (d, ·) with
    | []     => []
    | window => validityWindowIssues model window

/-! ### Time dimensions of aggregations -/

/-- The issue with an element whose time dimension is none of the model. -/
def aggTimeDimensionIssues (context : Context) (model : SemanticModel) (e : AdditiveElement) :
    List Issue :=
  match model.aggTimeDimensionFor? e with
  | none      => []
  | some name =>
    if model.isTimeDimension name then [] else
      [.error context
        (s!"In semantic model '{model.name}', {e.kind.name} '{e.name}' has the aggregation time " ++
          s!"dimension set to '{name}', which is not a valid time dimension in the semantic " ++
          "model")]

/-- What is aggregated is aggregated over a time dimension of its model. -/
def aggTimeDimensions (m : Manifest) : List Issue :=
  (m.semanticModels.flatMap fun model =>
    (match model.declaredAggTimeDimension? with
     | none      => []
     | some name =>
       if model.isTimeDimension name then [] else
         [.error (Context.ofModel model)
           (s!"In semantic model '{model.name}', the default agg_time_dimension is set to " ++
             s!"'{name}', which is not a valid time dimension in the semantic model")]) ++
    model.measures.flatMap fun e =>
      aggTimeDimensionIssues (.ofElement model e.name .measure) model e.additive) ++
  (m.metrics.flatMap fun metric =>
    match metric.simpleAggregation? with
    | none   => []
    | some a =>
      match m.semanticModel? a.semanticModel with
      | none       => []
      | some model => aggTimeDimensionIssues (.ofMetric metric) model (metric.additive a))

end SemanticLayer.Rules

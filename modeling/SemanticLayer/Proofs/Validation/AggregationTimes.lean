import SemanticLayer.Proofs.Manifest.Lookups
import SemanticLayer.Proofs.Validation.Valid

/-!
# Times of aggregations

An element is aggregated over the time dimension it names, or else over the default one of its
model: the declared one, or the only primary one. In a valid manifest every measure is aggregated
over a time dimension of its model. A metric that aggregates a model directly is as well, unless
neither it nor its model says over which: no rule asks for a default time dimension on behalf of a
metric.
-/

namespace SemanticLayer

open Issues Rules

/-! ### Time dimensions of a model -/

namespace SemanticModel

variable {model : SemanticModel} {e : AdditiveElement}

/-- The element is aggregated over a time dimension of the model. -/
def AggregatesOverTime (model : SemanticModel) (e : AdditiveElement) : Prop :=
  ∃ d ∈ model.dimensions, d.kind = .time ∧ model.aggTimeDimensionFor? e = some d.name

/-- The model declares a default time dimension or has a primary one. -/
def OffersTime (model : SemanticModel) : Prop :=
  model.declaredAggTimeDimension?.isSome ∨ model.primaryTimeDimensions ≠ []

/-- A primary time dimension is a default unless there are several. -/
lemma isSome_defaultAggTimeDimension?_iff (h : model.primaryTimeDimensions.length ≤ 1) :
    model.defaultAggTimeDimension?.isSome ↔ model.OffersTime := by
  rw [defaultAggTimeDimension?, OffersTime, Option.isSome_or, Bool.or_eq_true]
  refine or_congr_right ?_
  cases hprimaries : model.primaryTimeDimensions with
  | nil => simp
  | cons d ds =>
    obtain rfl : ds = [] := List.eq_nil_of_length_eq_zero (by simpa [hprimaries] using h)
    simp

lemma isSome_aggTimeDimensionFor?_iff (h : model.primaryTimeDimensions.length ≤ 1) :
    (model.aggTimeDimensionFor? e).isSome ↔ e.aggTimeDimension.isSome ∨ model.OffersTime := by
  rw [aggTimeDimensionFor?, Option.isSome_or, Bool.or_eq_true,
    isSome_defaultAggTimeDimension?_iff h]

/-- Where only time dimensions are named, an element is aggregated over one if it is aggregated over
anything. -/
lemma aggregatesOverTime_iff
    (h : ∀ name ∈ model.aggTimeDimensionFor? e, model.isTimeDimension name) :
    model.AggregatesOverTime e ↔ (model.aggTimeDimensionFor? e).isSome := by
  constructor
  · rintro ⟨d, -, -, hd⟩
    rw [hd]
    rfl
  · intro hsome
    obtain ⟨name, hname⟩ := Option.isSome_iff_exists.1 hsome
    obtain ⟨d, hd, hkind, rfl⟩ := exists_of_isTimeDimension (h name hname)
    exact ⟨d, hd, hkind, hname⟩

end SemanticModel

/-! ### What the rules ask for -/

namespace Manifest

variable {m : Manifest}

lemma primaryTimeDimensions_of_isClear (h : IsClear (timeDimensions m)) {model : SemanticModel}
    (hmodel : model ∈ m.semanticModels) : model.primaryTimeDimensions.length ≤ 1 := by
  rw [timeDimensions, isClear_flatMap] at h
  have hclear := h model hmodel
  rw [isClear_append, isClear_append, isClear_ite] at hclear
  by_contra hmany
  have hnone : model.primaryTimeDimensions = [] := isClear_map_error.1 (hclear.1.2.2 hmany)
  exact hmany (by simp [hnone])

/-- A measure names a time dimension, or its model has a default one. -/
lemma offersTime_of_isClear (h : IsClear (timeDimensions m)) {model : SemanticModel}
    (hmodel : model ∈ m.semanticModels) {e : Measure} (he : e ∈ model.measures) :
    e.aggTimeDimension.isSome ∨ model.OffersTime := by
  rw [timeDimensions, isClear_flatMap] at h
  have hclear := (isClear_append.1 (h model hmodel)).2
  simp only [isClear_ite, isClear_error, imp_false, Bool.and_eq_true, List.any_eq_true, not_and,
    isClear_nil, implies_true, and_true] at hclear
  by_contra hnone
  simp only [SemanticModel.OffersTime, not_or] at hnone
  obtain ⟨hown, hdeclared, hprimaries⟩ := hnone
  exact hclear ⟨⟨e, he, by simpa using hown⟩, by simpa using hdeclared⟩ (by simpa using hprimaries)

lemma isClear_aggTimeDimensionIssues {context : Context} {model : SemanticModel}
    {e : AdditiveElement} : IsClear (aggTimeDimensionIssues context model e) ↔
      ∀ name ∈ model.aggTimeDimensionFor? e, model.isTimeDimension name := by
  unfold aggTimeDimensionIssues
  cases model.aggTimeDimensionFor? e <;> simp

/-- What measures and metrics are aggregated over are time dimensions. -/
lemma isTimeDimension_of_isClear (h : IsClear (aggTimeDimensions m)) :
    (∀ model ∈ m.semanticModels, ∀ e ∈ model.measures,
      ∀ name ∈ model.aggTimeDimensionFor? e.additive, model.isTimeDimension name) ∧
    ∀ metric ∈ m.metrics, ∀ a ∈ metric.simpleAggregation?,
      ∀ model ∈ m.semanticModel? a.semanticModel,
        ∀ name ∈ model.aggTimeDimensionFor? (metric.additive a), model.isTimeDimension name := by
  rw [aggTimeDimensions, isClear_append, isClear_flatMap, isClear_flatMap] at h
  refine ⟨fun model hmodel e he => ?_, fun metric hmetric a ha model hmodel => ?_⟩
  · have hclear := (isClear_append.1 (h.1 model hmodel)).2
    exact isClear_aggTimeDimensionIssues.1 (isClear_flatMap.1 hclear e he)
  · have hclear := h.2 metric hmetric
    simp only [Option.mem_def] at ha hmodel
    simp only [ha, hmodel] at hclear
    exact isClear_aggTimeDimensionIssues.1 hclear

/-- The model that a metric aggregates is there. -/
lemma exists_semanticModel?_of_isClear (h : IsClear (metricParams m)) {metric : Metric}
    (hmetric : metric ∈ m.metrics) {a : MetricAggregation} (ha : a ∈ metric.simpleAggregation?) :
    ∃ model, m.semanticModel? a.semanticModel = some model := by
  have hparams : metric.params.aggregation = some a := by
    unfold Metric.simpleAggregation? at ha
    split at ha
    · exact ha
    · simp at ha
  rw [metricParams, isClear_flatMap] at h
  have hclear := h metric hmetric
  rw [metricParamIssues, isClear_append, hparams] at hclear
  simpa [Option.isSome_iff_exists] using hclear.2

/-! ### Valid manifests -/

/-- In a valid manifest every measure is aggregated over a time dimension of its model. A metric
that aggregates a model directly is so just when it names a dimension or the model has a default
one. -/
theorem aggregatesOverTime_of_valid (h : hasBlocking m.validate = false) :
    (∀ model ∈ m.semanticModels, ∀ e ∈ model.measures, model.AggregatesOverTime e.additive) ∧
    ∀ metric ∈ m.metrics, ∀ a ∈ metric.simpleAggregation?,
      ∃ model ∈ m.semanticModel? a.semanticModel,
        (model.AggregatesOverTime (metric.additive a) ↔
          a.aggTimeDimension.isSome ∨ model.OffersTime) := by
  have hvalid := hasBlocking_validate_eq_false_iff.1 h
  obtain ⟨hmeasures, hmetrics⟩ := isTimeDimension_of_isClear hvalid.aggTimeDimensions
  constructor
  · intro model hmodel e he
    rw [SemanticModel.aggregatesOverTime_iff (hmeasures model hmodel e he),
      SemanticModel.isSome_aggTimeDimensionFor?_iff
        (primaryTimeDimensions_of_isClear hvalid.timeDimensions hmodel)]
    exact offersTime_of_isClear hvalid.timeDimensions hmodel he
  · intro metric hmetric a ha
    obtain ⟨model, hmodel⟩ := exists_semanticModel?_of_isClear hvalid.metricParams hmetric ha
    refine ⟨model, hmodel, ?_⟩
    rw [SemanticModel.aggregatesOverTime_iff (hmetrics metric hmetric a ha model hmodel)]
    exact SemanticModel.isSome_aggTimeDimensionFor?_iff
      (primaryTimeDimensions_of_isClear hvalid.timeDimensions (List.mem_of_find?_eq_some hmodel))

/-- Visits, which no default time dimension is set for, with a metric that aggregates them over
`time`. -/
def visitsOver (time : Option String) : Manifest where
  semanticModels := [{
    name          := "visits"
    description   := none
    label         := none
    nodeRelation  := ⟨"visits", "main", none, none⟩
    defaults      := none
    primaryEntity := none
    entities      := [⟨"visit", .primary, none, none, none, none⟩]
    dimensions    := [⟨"ds", .time, none, false, some ⟨some .day, false, none⟩, none, none⟩]
    measures      := [⟨"seen", .sum, none, true, some "1", none, none, some "ds", none⟩]
    metadata      := none }]
  metrics := [⟨"entered", .simple, { MetricParams.empty with
    aggregation := some ⟨"visits", .sum, none, time, none⟩ }, none, none, none, none⟩]
  savedQueries      := []
  configuration     := ⟨[]⟩
  interfacesVersion := defaultVersion

/-- A metric that names the time dimension of its model is aggregated over it. -/
theorem aggregatesOverTime_visitsOver :
    hasBlocking (visitsOver (some "ds")).validate = false ∧
    (∀ model ∈ (visitsOver (some "ds")).semanticModels, ∀ e ∈ model.measures,
      model.AggregatesOverTime e.additive) ∧
    ∀ metric ∈ (visitsOver (some "ds")).metrics, ∀ a ∈ metric.simpleAggregation?,
      ∃ model ∈ (visitsOver (some "ds")).semanticModel? a.semanticModel,
        model.AggregatesOverTime (metric.additive a) := by
  have h : hasBlocking (visitsOver (some "ds")).validate = false := by decide +kernel
  obtain ⟨hmeasures, hmetrics⟩ := aggregatesOverTime_of_valid h
  refine ⟨h, hmeasures, fun metric hmetric a ha => ?_⟩
  obtain ⟨model, hmodel, hiff⟩ := hmetrics metric hmetric a ha
  refine ⟨model, hmodel, hiff.2 (.inl ?_)⟩
  obtain rfl := List.mem_singleton.1 hmetric
  obtain rfl := Option.some.inj ha
  rfl

/-- A valid manifest whose metric is aggregated over nothing. -/
theorem aggTimeDimensionFor?_visitsOver_none :
    hasBlocking (visitsOver none).validate = false ∧
    ∃ metric ∈ (visitsOver none).metrics, ∃ a ∈ metric.simpleAggregation?,
      ∃ model ∈ (visitsOver none).semanticModel? a.semanticModel,
        model.aggTimeDimensionFor? (metric.additive a) = none := by
  refine ⟨by decide +kernel, _, List.mem_singleton.2 rfl, _, rfl, _, rfl, rfl⟩

end Manifest

end SemanticLayer

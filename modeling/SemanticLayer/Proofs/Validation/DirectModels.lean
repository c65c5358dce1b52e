import SemanticLayer.Proofs.Manifest.DirectForm
import SemanticLayer.Proofs.Validation.Valid

/-!
# Semantic models of direct forms

What the rules about semantic models find in a manifest with valid names, they find in its direct
form: no rule looks at an aggregation that is rewritten, or it asks less of the direct one.
-/

namespace SemanticLayer.Rules

open Issues

variable {m : Manifest}

/-! ### Rules about models -/

/-- What is found model by model stays if it stays for each model. -/
lemma flatMap_directForm {α : Type} {f : SemanticModel → List α}
    (h : ∀ model, f model.directForm = f model) (models : List SemanticModel) :
    (models.map (·.directForm)).flatMap f = models.flatMap f := by
  simp only [List.flatMap_map, h]

lemma distinctModels_directForm :
    distinctModels m.directForm = (distinctModels m).map (·.directForm) :=
  firstByKey_map SemanticModel.directForm m.semanticModels

lemma consistentElements_directForm : consistentElements m.directForm = consistentElements m := by
  have hall : ((distinctModels m).map (·.directForm)).flatMap (·.elements) =
      (distinctModels m).flatMap (·.elements) :=
    flatMap_directForm (fun _ => SemanticModel.elements_directForm) _
  rw [consistentElements, distinctModels_directForm, hall]
  refine flatMap_directForm (fun model => ?_) _
  rw [SemanticModel.elements_directForm]
  rfl

lemma consistentDimensions_directForm :
    consistentDimensions m.directForm = consistentDimensions m := by
  have hall : ((distinctModels m).map (·.directForm)).flatMap
      (fun model => model.dimensions.map (model, ·)) =
      ((distinctModels m).flatMap fun model => model.dimensions.map (model, ·)).map
        fun p => (p.1.directForm, p.2) := by
    simp [List.flatMap_map, List.map_flatMap, Function.comp_def]
  rw [consistentDimensions, distinctModels_directForm, hall, withEarlier_map, List.flatMap_map]
  refine List.flatMap_congr fun p _ => ?_
  obtain ⟨⟨model, d⟩, earlier⟩ := p
  cases earlier <;> rfl

lemma primaryEntities_directForm : primaryEntities m.directForm = primaryEntities m :=
  flatMap_directForm (fun _ => rfl) _

lemma uniqueDimensionAddresses_directForm :
    uniqueDimensionAddresses m.directForm = uniqueDimensionAddresses m := by
  have hall : addressedDimensions m.directForm =
      (addressedDimensions m).map fun p => (p.1, p.2.1.directForm, p.2.2) := by
    rw [addressedDimensions, distinctModels_directForm, List.flatMap_map, addressedDimensions,
      List.map_flatMap]
    refine List.flatMap_congr fun model _ => ?_
    rw [SemanticModel.primaryEntityName?_directForm]
    cases model.primaryEntityName? with
    | none => rfl
    | some primary => simp [Function.comp_def]
  rw [uniqueDimensionAddresses, hall, withEarlier_map, List.flatMap_map]
  refine List.flatMap_congr fun p _ => ?_
  obtain ⟨⟨primary, model, d⟩, earlier⟩ := p
  cases earlier <;> rfl

lemma validityWindows_directForm : validityWindows m.directForm = validityWindows m := by
  refine flatMap_directForm (fun model => ?_) _
  have hnames : model.directForm.measures.map (·.name) = model.measures.map (·.name) := by
    simp [Function.comp_def]
  have hempty : model.directForm.measures.isEmpty = model.measures.isEmpty := by simp
  have hissues : validityWindowIssues model.directForm = validityWindowIssues model := by
    funext window
    rw [validityWindowIssues, hnames, hempty]
    rfl
  rw [hissues, SemanticModel.dimensions_directForm]

lemma noReservedKeywords_directForm :
    noReservedKeywords m.directForm = noReservedKeywords m := by
  refine flatMap_directForm (fun model => ?_) _
  have hcandidates : keywordCandidates model.directForm = keywordCandidates model := by
    simp [keywordCandidates, Function.comp_def]
  rw [hcandidates]
  rfl

lemma uniqueModelLabels_directForm : uniqueModelLabels m.directForm = uniqueModelLabels m := by
  have hlabelled (model : SemanticModel) :
      labelledElements model.directForm = labelledElements model := by
    simp [labelledElements, List.filterMap_map]
  rw [uniqueModelLabels, distinctModels_directForm, withEarlier_map, List.flatMap_map]
  refine List.flatMap_congr fun p _ => ?_
  obtain ⟨model, earlier⟩ := p
  have helements : elementLabelIssues model.directForm = elementLabelIssues model := by
    rw [elementLabelIssues, hlabelled]
    rfl
  have hmodels : modelLabelIssues model.directForm (earlier.map (·.directForm)) =
      modelLabelIssues model earlier := by
    unfold modelLabelIssues
    rw [SemanticModel.label_directForm]
    cases model.label <;> cases earlier <;> rfl
  exact congrArg₂ (· ++ ·) hmodels helements

lemma isClear_uniqueMeasures : IsClear (uniqueMeasures m) ↔
    (((distinctModels m).flatMap (·.measures)).map (·.name)).Nodup := by
  have hnames : ((distinctModels m).flatMap (·.measures)).map (·.name) =
      ((distinctModels m).flatMap fun model => model.measures.map (model, ·)).map (·.2.name) := by
    simp [List.map_flatMap, Function.comp_def]
  rw [hnames, ← forall_withEarlier_iff, uniqueMeasures, isClear_flatMap]
  refine forall₂_congr fun p _ => ?_
  obtain ⟨⟨model, e⟩, earlier⟩ := p
  cases earlier <;> simp

lemma uniqueMeasures_directForm (h : IsClear (uniqueMeasures m)) :
    IsClear (uniqueMeasures m.directForm) := by
  rw [isClear_uniqueMeasures] at h ⊢
  simpa [distinctModels_directForm, List.flatMap_map, List.map_flatMap, Function.comp_def] using h

lemma timeDimensions_directForm (h : IsClear (timeDimensions m)) :
    IsClear (timeDimensions m.directForm) := by
  rw [timeDimensions, isClear_flatMap] at h ⊢
  intro model' hmodel'
  obtain ⟨model, hmodel, rfl⟩ := List.mem_map.1 hmodel'
  have hclear := h model hmodel
  rw [isClear_append, isClear_ite] at hclear ⊢
  refine ⟨hclear.1, fun huntimed => hclear.2.1 ?_, by simp⟩
  -- a measure that is given a time dimension had none before
  simp only [Bool.and_eq_true, List.any_eq_true] at huntimed ⊢
  obtain ⟨⟨⟨e', he', hnone⟩, hdeclared⟩, hprimaries⟩ := huntimed
  obtain ⟨e, he, rfl⟩ := List.mem_map.1 he'
  refine ⟨⟨⟨e, he, ?_⟩, hdeclared⟩, hprimaries⟩
  simpa using And.left (by simpa using hnone)

lemma nonEmpty_directForm (h : IsClear (nonEmpty m)) : IsClear (nonEmpty m.directForm) := by
  have hcreate :
      m.directForm.semanticModels.any (fun model => model.measures.any (·.createMetric)) =
        m.semanticModels.any fun model => model.measures.any (·.createMetric) := by
    simp [Function.comp_def]
  rw [nonEmpty, isClear_append, isClear_ite, isClear_ite] at h ⊢
  refine ⟨⟨fun hempty => h.1.1 (by simpa using hempty), by simp⟩, fun hempty => h.2.1 ?_, by simp⟩
  rw [hcreate, Bool.and_eq_true] at hempty
  rw [Bool.and_eq_true]
  refine ⟨?_, hempty.2⟩
  have hmetrics := hempty.1
  rw [Manifest.metrics_directForm, List.isEmpty_iff, List.append_eq_nil_iff] at hmetrics
  rw [hmetrics.1]
  rfl

/-! ### Rules about aggregations -/

lemma forall_mem_additiveElements {p : SemanticModel × AdditiveElement × Context → Prop} :
    (∀ a ∈ additiveElements m, p a) ↔
      (∀ model ∈ m.semanticModels, ∀ e ∈ model.measures,
        p (model, e.additive, .ofElement model e.name .measure)) ∧
      ∀ metric ∈ m.metrics, ∀ a ∈ metric.simpleAggregation?,
        ∀ model ∈ m.semanticModel? a.semanticModel,
          p (model, metric.additive a, .ofMetric metric) := by
  rw [additiveElements, List.forall_mem_append]
  refine and_congr ?_ ?_
  · simp only [List.mem_flatMap, List.mem_map]
    constructor
    · intro h model hmodel e he
      exact h _ ⟨model, hmodel, e, he, rfl⟩
    · rintro h _ ⟨model, hmodel, e, he, rfl⟩
      exact h model hmodel e he
  · simp only [List.mem_filterMap, Option.bind_eq_bind, Option.bind_eq_some_iff]
    constructor
    · intro h metric hmetric a ha model hmodel
      exact h _ ⟨metric, hmetric, a, ha, model, hmodel, rfl⟩
    · rintro h _ ⟨metric, hmetric, a, ha, model, hmodel, ⟨⟩⟩
      exact h metric hmetric a ha model hmodel

/-- The metrics that are added have no aggregation, so what is found metric by metric stays where
metrics of measures add nothing. -/
lemma flatMap_metrics_directForm {α : Type} {f : Metric → List α}
    (h : ∀ model e, f (.ofMeasure model e) = []) :
    m.directForm.metrics.flatMap f = m.metrics.flatMap f := by
  have hnone : (Manifest.measureMetrics m.semanticModels m.metrics).flatMap f = [] := by
    rw [List.flatMap_eq_nil_iff]
    intro metric hmetric
    obtain ⟨model, -, e, -, -, -, rfl⟩ := Manifest.mem_measureMetrics.1 hmetric
    exact h model e
  rw [Manifest.metrics_directForm, List.flatMap_append, hnone, List.append_nil]

/-- What every aggregation of a manifest has, every one of its direct form has, if measures keep
it. -/
lemma forall_mem_additiveElements_directForm
    {p q : SemanticModel × AdditiveElement × Context → Prop}
    (hmeasure : ∀ model ∈ m.semanticModels, ∀ e ∈ model.measures,
      p (model, e.additive, .ofElement model e.name .measure) →
      q (model.directForm, (e.directForm model.defaultAggTimeDimension?).additive,
        .ofElement model e.name .measure))
    (hmetric : ∀ model e context, p (model, e, context) → q (model.directForm, e, context))
    (h : ∀ a ∈ additiveElements m, p a) : ∀ a ∈ additiveElements m.directForm, q a := by
  rw [forall_mem_additiveElements] at h ⊢
  constructor
  · intro model' hmodel' e' he'
    obtain ⟨model, hmodel, rfl⟩ := List.mem_map.1 hmodel'
    obtain ⟨e, he, rfl⟩ := List.mem_map.1 he'
    rw [Measure.name_directForm]
    exact hmeasure model hmodel e he (h.1 model hmodel e he)
  · intro metric hmetric' a ha model' hmodel'
    rw [Manifest.semanticModel?_directForm, Option.mem_def, Option.map_eq_some_iff] at hmodel'
    obtain ⟨model, hmodel, rfl⟩ := hmodel'
    obtain hmetric' | hmetric' := List.mem_append.1 hmetric'
    · exact hmetric model _ _ (h.2 metric hmetric' a ha model hmodel)
    · obtain ⟨_, -, e, -, -, -, rfl⟩ := Manifest.mem_measureMetrics.1 hmetric'
      simp [Metric.ofMeasure, Metric.simpleAggregation?, MetricParams.empty] at ha

lemma nonAdditiveDimensions_directForm (h : IsClear (nonAdditiveDimensions m)) :
    IsClear (nonAdditiveDimensions m.directForm) := by
  rw [nonAdditiveDimensions, isClear_flatMap] at h ⊢
  refine forall_mem_additiveElements_directForm ?_ (fun model e context hclear => hclear) h
  intro model _ e _ hclear
  have hissues (context : Context) (n : NonAdditiveDimension) (aggTime : String) :
      nonAdditiveIssues context model.directForm
        (e.directForm model.defaultAggTimeDimension?).additive n aggTime =
      nonAdditiveIssues context model e.additive n aggTime := by
    rw [Measure.additive_directForm]
    rfl
  have hnon : (e.directForm model.defaultAggTimeDimension?).additive.nonAdditive =
      e.additive.nonAdditive := by
    rw [Measure.additive_directForm]
  simpa only [hnon, hissues, SemanticModel.aggTimeDimensionFor?_directForm,
    SemanticModel.aggTimeDimensionFor?_additive_directForm] using hclear

lemma aggTimeDimensionIssues_directForm (context : Context) (model : SemanticModel) (e : Measure) :
    aggTimeDimensionIssues context model.directForm
      (e.directForm model.defaultAggTimeDimension?).additive =
      aggTimeDimensionIssues context model e.additive := by
  rw [aggTimeDimensionIssues, SemanticModel.aggTimeDimensionFor?_directForm,
    SemanticModel.aggTimeDimensionFor?_additive_directForm, Measure.additive_directForm]
  rfl

lemma aggTimeDimensions_directForm : aggTimeDimensions m.directForm = aggTimeDimensions m := by
  refine congrArg₂ (· ++ ·) (flatMap_directForm (fun model => ?_) _) ?_
  · rw [SemanticModel.measures_directForm, List.flatMap_map]
    simp only [aggTimeDimensionIssues_directForm, Measure.name_directForm]
    rfl
  · rw [flatMap_metrics_directForm fun _ _ => rfl]
    refine List.flatMap_congr fun metric _ => ?_
    cases metric.simpleAggregation? with
    | none   => rfl
    | some a =>
      simp only [Manifest.semanticModel?_directForm]
      cases m.semanticModel? a.semanticModel <;> rfl

/-- A percentile has its parameters, and nothing else has parameters of a percentile. -/
structure HasFittingPercentile (e : AdditiveElement) : Prop where
  given   : e.agg = .percentile → ∃ params ∈ e.aggParams,
    (∃ p ∈ params.percentile, p.atMostZero = false ∧ p.atLeastOne = false) ∧
      ¬(params.useDiscrete ∧ params.useApproximate)
  withheld : e.agg ≠ .percentile → ∀ params ∈ e.aggParams, params = .empty

lemma isClear_percentileIssues {context : Context} {e : AdditiveElement} :
    IsClear (percentileIssues context e) ↔ ∃ params ∈ e.aggParams,
      (∃ p ∈ params.percentile, p.atMostZero = false ∧ p.atLeastOne = false) ∧
        ¬(params.useDiscrete ∧ params.useApproximate) := by
  rw [percentileIssues, isClear_append]
  cases e.aggParams with
  | none => simp
  | some params =>
    cases hp : params.percentile with
    | none => simp [hp]
    | some p => simp [hp]

lemma isClear_percentiles :
    IsClear (percentiles m) ↔ ∀ a ∈ additiveElements m, HasFittingPercentile a.2.1 := by
  rw [percentiles, isClear_flatMap]
  refine forall₂_congr fun a _ => ?_
  obtain ⟨model, e, context⟩ := a
  by_cases hagg : e.agg = .percentile
  · simp only [hagg, beq_self_eq_true, if_true, isClear_percentileIssues]
    exact ⟨fun h => ⟨fun _ => h, fun hne => absurd hagg hne⟩, fun h => h.given hagg⟩
  · have hempty : (e.aggParams.any fun p =>
        p.percentile.isSome || p.useDiscrete || p.useApproximate) = false ↔
        ∀ params ∈ e.aggParams, params = .empty := by
      cases e.aggParams with
      | none => simp
      | some params =>
        obtain ⟨p, discrete, approximate⟩ := params
        simp [AggregationParams.empty, and_assoc]
    simp only [beq_iff_eq, hagg, if_false, isClear_ite, isClear_error, imp_false, isClear_nil,
      implies_true, and_true, Bool.not_eq_true, hempty]
    exact ⟨fun h => ⟨fun heq => absurd heq hagg, fun _ => h⟩, fun h => h.withheld hagg⟩

/-- The half that a median stands for lies strictly between 0 and 1. -/
lemma between_half : Binary64.half.atMostZero = false ∧ Binary64.half.atLeastOne = false := by
  decide +kernel

lemma percentiles_directForm (hcounts : ∀ model ∈ m.semanticModels, ∀ e ∈ model.measures,
    e.agg = .count → e.expr ≠ none) (h : IsClear (percentiles m)) :
    IsClear (percentiles m.directForm) := by
  rw [isClear_percentiles] at h ⊢
  refine forall_mem_additiveElements_directForm ?_ (fun model e context hfits => hfits) h
  intro model hmodel e he hfits
  simp only [Measure.additive_directForm]
  by_cases hdirect : e.IsDirect
  · rw [Measure.direct_of_isDirect hdirect]
    exact ⟨hfits.given, hfits.withheld⟩
  · have hagg : e.agg ≠ .percentile := fun hagg => hdirect (by simp [Measure.IsDirect, hagg])
    have hempty : ∀ params ∈ e.aggParams, params = .empty := hfits.withheld hagg
    cases hkind : e.agg with
    | count =>
      obtain ⟨expr, hexpr⟩ := Option.ne_none_iff_exists'.1 (hcounts model hmodel e he hkind)
      rw [Measure.direct_of_count hkind hexpr]
      exact ⟨fun hsum => absurd hsum (by simp), fun _ => hempty⟩
    | sumBoolean =>
      rw [Measure.direct_of_sumBoolean hkind]
      exact ⟨fun hsum => absurd hsum (by simp), fun _ => hempty⟩
    | median =>
      rw [Measure.direct_of_median hkind]
      have hparams : e.aggParams.getD .empty = .empty := by
        cases hparams : e.aggParams with
        | none => rfl
        | some params => exact hempty params hparams
      rw [hparams]
      refine ⟨fun _ => ⟨_, rfl, ⟨_, rfl, between_half⟩, ?_⟩, fun hne => absurd rfl hne⟩
      simp [Measure.medianParams]
    | _ => exact absurd (by simp [Measure.IsDirect, hkind]) hdirect

/-- Valid counts say what they count. -/
lemma expr_ne_none_of_count (h : IsClear (countExpressions m)) : ∀ model ∈ m.semanticModels,
    ∀ e ∈ model.measures, e.agg = .count → e.expr ≠ none := by
  intro model hmodel e he hagg hexpr
  rw [countExpressions, isClear_flatMap] at h
  have hmeasures := h model hmodel
  rw [isClear_flatMap] at hmeasures
  have hclear := hmeasures e (List.mem_filter.2 ⟨he, by simp [hagg]⟩)
  simp [hexpr] at hclear

lemma countExpressions_directForm (hcounts : ∀ model ∈ m.semanticModels, ∀ e ∈ model.measures,
    e.agg = .count → e.expr ≠ none) : countExpressions m.directForm = [] := by
  rw [countExpressions, List.flatMap_eq_nil_iff]
  intro model' hmodel'
  obtain ⟨model, hmodel, rfl⟩ := List.mem_map.1 hmodel'
  have hnone : model.directForm.measures.filter (·.agg == .count) = [] := by
    rw [List.filter_eq_nil_iff]
    intro e' he'
    obtain ⟨e, he, rfl⟩ := List.mem_map.1 he'
    have hdirect := Measure.isDirect_of_directAggregation
      (Measure.directAggregation_eq_ok (hcounts model hmodel e he))
    simpa using hdirect.1
  rw [hnone]
  rfl

/-! ### Names -/

lemma distinctModels_eq_self (h : m.HasValidNames) : distinctModels m = m.semanticModels :=
  firstByKey_eq_self h.modelsDistinct

/-- The metrics that are added have names of their own. -/
lemma nodup_metricNames_directForm (hnames : m.HasValidNames) (h : IsClear (uniqueMeasures m)) :
    (m.directForm.metrics.map (·.name)).Nodup := by
  rw [isClear_uniqueMeasures, distinctModels_eq_self hnames, List.map_flatMap,
    List.nodup_flatMap] at h
  rw [Manifest.metrics_directForm, List.map_append, List.nodup_append]
  refine ⟨hnames.metricsDistinct, ?_, ?_⟩
  · have hsublist (model : SemanticModel) :
        (((model.measures.filter fun e => e.createMetric &&
          !(m.metrics.map (·.name)).contains e.name).map (Metric.ofMeasure model)).map
            (·.name)).Sublist (model.measures.map (·.name)) := by
      rw [List.map_map]
      exact List.filter_sublist.map _
    rw [Manifest.measureMetrics, List.map_flatMap, List.nodup_flatMap]
    refine ⟨fun model hmodel => (h.1 model hmodel).sublist (hsublist model), h.2.imp ?_⟩
    intro model model' hdisjoint name hname hname'
    exact hdisjoint ((hsublist model).subset hname) ((hsublist model').subset hname')
  · rintro name hname _ hname' rfl
    obtain ⟨metric, hmetric, rfl⟩ := List.mem_map.1 hname'
    obtain ⟨model, -, e, -, -, hnew, rfl⟩ := Manifest.mem_measureMetrics.1 hmetric
    exact hnew hname

lemma hasValidNames_directForm (h : m.HasValidNames) (hmeasures : IsClear (uniqueMeasures m)) :
    m.directForm.HasValidNames := by
  constructor
  · rw [Manifest.semanticModels_directForm, List.forall_mem_map]
    exact h.models
  · simpa [Function.comp_def] using h.modelsDistinct
  · rw [Manifest.semanticModels_directForm, List.forall_mem_map]
    intro model hmodel
    have hmodel := h.elements model hmodel
    refine ⟨?_, ?_, hmodel.primaryEntity⟩
    · rw [SemanticModel.elements_directForm]
      exact hmodel.elements
    · rw [SemanticModel.elements_directForm]
      exact hmodel.elementsDistinct
  · rw [Manifest.metrics_directForm, List.forall_mem_append]
    refine ⟨h.metrics, fun metric hmetric => ?_⟩
    obtain ⟨model, hmodel, e, he, -, -, rfl⟩ := Manifest.mem_measureMetrics.1 hmetric
    exact (h.elements model hmodel).elements _ (SemanticModel.mem_elements_of_measure he)
  · exact nodup_metricNames_directForm h hmeasures
  · exact h.queries
  · exact h.queriesDistinct
  · exact h.granularities

end SemanticLayer.Rules

import SemanticLayer.Proofs.Manifest.Lookups
import SemanticLayer.Proofs.Validation.DirectModels

/-!
# Metrics and saved queries of direct forms

The metrics that a direct form adds are simple ones without filters, so the rules about metrics
have nothing to say about them but for their labels. What metrics and saved queries read is still
there.
-/

namespace SemanticLayer.Rules

open Issues

variable {m : Manifest}

/-! ### Rules about metrics -/

/-- Only metrics that were there before are of another kind than simple. -/
lemma filter_kind_directForm {kind : MetricKind} (h : kind ≠ .simple) :
    m.directForm.metrics.filter (·.kind == kind) = m.metrics.filter (·.kind == kind) := by
  have hnone :
      (Manifest.measureMetrics m.semanticModels m.metrics).filter (·.kind == kind) = [] := by
    rw [List.filter_eq_nil_iff]
    intro metric hmetric
    obtain ⟨model, -, e, -, -, -, rfl⟩ := Manifest.mem_measureMetrics.1 hmetric
    simpa [Metric.ofMeasure] using h.symm
  rw [Manifest.metrics_directForm, List.filter_append, hnone, List.append_nil]

lemma cumulativeMetrics_directForm : cumulativeMetrics m.directForm = cumulativeMetrics m := by
  rw [cumulativeMetrics, filter_kind_directForm (by decide)]
  rfl

lemma metricParams_directForm (h : IsClear (metricParams m)) :
    IsClear (metricParams m.directForm) := by
  have hissues : metricParamIssues m.directForm = metricParamIssues m := by
    funext metric
    unfold metricParamIssues
    cases metric.params.aggregation with
    | none   => rfl
    | some a =>
      simp only [Manifest.semanticModel?_directForm, Option.isSome_map]
  have hnone (model : SemanticModel) (e : Measure) :
      metricParamIssues m (.ofMeasure model e) = [] := rfl
  rw [metricParams, hissues, flatMap_metrics_directForm hnone]
  exact h

lemma metricMeasures_directForm (h : IsClear (metricMeasures m)) :
    IsClear (metricMeasures m.directForm) := by
  have hsome (name : String) :
      (m.directForm.measure? name).isSome = (m.measure? name).isSome := by simp
  simp only [metricMeasures, isClear_flatMap, isClear_unless_iff, hsome] at h ⊢
  rw [Manifest.metrics_directForm, List.forall_mem_append]
  refine ⟨h, fun metric hmetric => ?_⟩
  obtain ⟨model, hmodel, e, he, -, -, rfl⟩ := Manifest.mem_measureMetrics.1 hmetric
  have hinputs : (Metric.ofMeasure model e).inputMeasures = [.ofName e.name] := rfl
  rw [hinputs, List.forall_mem_singleton, Manifest.isSome_measure?_iff]
  exact List.mem_flatMap.2 ⟨model, hmodel, List.mem_map_of_mem he⟩

lemma measureAliases_directForm : measureAliases m.directForm = measureAliases m := by
  have hinputs : aliasedInputs m.directForm = aliasedInputs m :=
    flatMap_metrics_directForm fun _ _ => rfl
  rw [measureAliases, hinputs]
  refine List.flatMap_congr fun p _ => ?_
  obtain ⟨⟨metric, input, name⟩, earlier⟩ := p
  simp only [Manifest.measure?_directForm]
  cases m.measure? name <;> rfl

lemma parseableFilters_directForm : parseableFilters m.directForm = parseableFilters m :=
  flatMap_metrics_directForm fun _ _ => rfl

lemma isClear_unless_metric {name : String} {issues : List Issue}
    (h : IsClear (if (m.metric? name).isSome then [] else issues)) :
    IsClear (if (m.directForm.metric? name).isSome then [] else issues) := by
  by_cases hsome : (m.metric? name).isSome
  · rw [if_pos (Manifest.isSome_metric?_directForm hsome)]
    exact isClear_nil
  · rw [if_neg hsome] at h
    rw [isClear_ite]
    exact ⟨fun _ => isClear_nil, fun _ => h⟩

lemma derivedInputIssues_directForm {metric : Metric} {input : MetricInput} {taken : List String}
    (h : IsClear (derivedInputIssues m metric input taken)) :
    IsClear (derivedInputIssues m.directForm metric input taken) := by
  unfold derivedInputIssues at h ⊢
  simp only [isClear_append] at h ⊢
  exact ⟨⟨⟨⟨isClear_unless_metric h.1.1.1.1, h.1.1.1.2⟩, h.1.1.2⟩, h.1.2⟩, h.2⟩

lemma derivedInputsIssues_directForm {metric : Metric} {taken : List String}
    {inputs : List MetricInput} (h : IsClear (derivedInputsIssues m metric taken inputs)) :
    IsClear (derivedInputsIssues m.directForm metric taken inputs) := by
  induction inputs generalizing taken with
  | nil => exact isClear_nil
  | cons input inputs ih =>
    unfold derivedInputsIssues at h ⊢
    rw [isClear_append] at h ⊢
    exact ⟨derivedInputIssues_directForm h.1, ih h.2⟩

lemma derivedMetrics_directForm (h : IsClear (derivedMetrics m)) :
    IsClear (derivedMetrics m.directForm) := by
  rw [derivedMetrics, isClear_flatMap] at h ⊢
  rw [filter_kind_directForm (by decide)]
  intro metric hmetric
  have hclear := h metric hmetric
  unfold derivedIssues at hclear ⊢
  rw [isClear_append, isClear_append] at hclear ⊢
  exact ⟨⟨hclear.1.1, derivedInputsIssues_directForm hclear.1.2⟩, hclear.2⟩

/-! ### Conversion metrics -/

lemma countsRows_directForm {e : Measure} (time : Option String) (h : countsRows e)
    (hcount : e.agg = .count → e.expr.map Text.trim = some "1") :
    countsRows (e.directForm time) := by
  have hagg : e.agg = .count ∨ e.IsDirect := by
    unfold countsRows at h
    cases hagg : e.agg with
    | count => exact .inl rfl
    | countDistinct => exact .inr (by simp [Measure.IsDirect, hagg])
    | sum => exact .inr (by simp [Measure.IsDirect, hagg])
    | _ => simp [hagg] at h
  obtain hagg | hdirect := hagg
  · obtain ⟨expr, hexpr, htrim⟩ := Option.map_eq_some_iff.1 (hcount hagg)
    have hkeep : Measure.countedExpr expr = expr := by
      rw [Measure.countedExpr, if_pos (by simpa using htrim)]
    rw [countsRows, Measure.agg_directForm, Measure.expr_directForm,
      Measure.direct_of_count hagg hexpr]
    simp [hkeep, htrim]
  · rw [countsRows, Measure.agg_directForm, Measure.expr_directForm,
      Measure.direct_of_isDirect hdirect]
    exact h

lemma countingIssues_directForm {context : Context} {input : MeasureInput}
    (hcount : ∀ found ∈ m.measure? input.name,
      found.2.agg = .count → found.2.expr.map Text.trim = some "1")
    (h : IsClear (countingIssues m context input)) :
    IsClear (countingIssues m.directForm context input) := by
  unfold countingIssues at h ⊢
  rw [Manifest.measure?_directForm]
  cases hfound : m.measure? input.name with
  | none => exact isClear_nil
  | some found =>
    obtain ⟨model, e⟩ := found
    simp only [hfound] at h
    have hrows : countsRows e := isClear_unless_iff.1 h
    exact isClear_unless_iff.2
      (countsRows_directForm model.defaultAggTimeDimension? hrows (hcount (model, e) hfound))

lemma joinIssues_directForm (context : Context) (entity side : String)
    (model : Option SemanticModel) :
    joinIssues context entity side (model.map (·.directForm)) =
      joinIssues context entity side model := by
  cases model <;> rfl

lemma propertyIssues_directForm (context : Context) (property : String)
    (model : Option SemanticModel) :
    propertyIssues context property (model.map (·.directForm)) =
      propertyIssues context property model := by
  cases model <;> rfl

lemma conversionMetrics_directForm (hrows : m.ConvertsRows) (h : IsClear (conversionMetrics m)) :
    IsClear (conversionMetrics m.directForm) := by
  rw [conversionMetrics, isClear_flatMap] at h ⊢
  rw [filter_kind_directForm (by decide)]
  intro metric hmetric
  have hclear := h metric hmetric
  rw [List.mem_filter, beq_iff_eq] at hmetric
  cases hp : metric.params.conversion with
  | none => exact isClear_nil
  | some p =>
    have hinputs := hrows metric hmetric.1 hmetric.2 p hp
    simp only [hp] at hclear ⊢
    have hmodel (name : String) : (m.directForm.measure? name).map Prod.fst =
        ((m.measure? name).map Prod.fst).map (·.directForm) := by
      simp [Function.comp_def]
    unfold conversionIssues at hclear ⊢
    simp only [isClear_append, hmodel, joinIssues_directForm, propertyIssues_directForm,
      Manifest.customGranularityNames_directForm] at hclear ⊢
    obtain ⟨⟨⟨⟨⟨hwindow, hbase⟩, hconversion⟩, hjoin⟩, hjoin'⟩, hproperties⟩ := hclear
    exact ⟨⟨⟨⟨⟨hwindow, countingIssues_directForm (hinputs _ (by simp)) hbase⟩,
      countingIssues_directForm (hinputs _ (by simp)) hconversion⟩, hjoin⟩, hjoin'⟩, hproperties⟩

/-! ### Saved queries -/

lemma ofManifest_directForm : KnownElements.ofManifest m.directForm = .ofManifest m := by
  have hentities : m.directForm.semanticModels.flatMap (fun model => model.entities.map (·.name)) =
      m.semanticModels.flatMap fun model => model.entities.map (·.name) :=
    flatMap_directForm (fun _ => rfl) _
  have hdimensions :
      m.directForm.semanticModels.flatMap (fun model => model.dimensions.map (·.name)) =
        m.semanticModels.flatMap fun model => model.dimensions.map (·.name) :=
    flatMap_directForm (fun _ => rfl) _
  have htimes : m.directForm.semanticModels.flatMap
      (fun model => (model.dimensions.filter (·.kind == .time)).map (·.name)) =
      m.semanticModels.flatMap fun model =>
        (model.dimensions.filter (·.kind == .time)).map (·.name) :=
    flatMap_directForm (fun _ => rfl) _
  rw [KnownElements.ofManifest, hentities, hdimensions, htimes, KnownElements.ofManifest]

lemma queryTemplateIssues_directForm {known : KnownElements} {custom : List String} {q : SavedQuery}
    {template : String} (h : IsClear (queryTemplateIssues m known custom q template)) :
    IsClear (queryTemplateIssues m.directForm known custom q template) := by
  unfold queryTemplateIssues at h ⊢
  cases hcalls : Filter.parseTemplate custom template with
  | error e => simpa [hcalls] using h
  | ok calls =>
    simp only [hcalls, isClear_append, isClear_flatMap] at h ⊢
    exact ⟨h.1, fun call hcall => isClear_unless_metric (h.2 call hcall)⟩

lemma savedQueries_directForm (h : IsClear (Rules.savedQueries m)) :
    IsClear (Rules.savedQueries m.directForm) := by
  rw [Rules.savedQueries, isClear_flatMap] at h ⊢
  intro q hq
  have hclear := h q hq
  unfold savedQueryIssues at hclear ⊢
  simp only [isClear_append, ofManifest_directForm, Manifest.customGranularityNames_directForm]
    at hclear ⊢
  obtain ⟨⟨⟨⟨⟨hmetrics, hgroupBy⟩, htemplates⟩, horder⟩, hlimit⟩, hexports⟩ := hclear
  refine ⟨⟨⟨⟨⟨?_, hgroupBy⟩, ?_⟩, horder⟩, hlimit⟩, hexports⟩
  · rw [queryMetricIssues, isClear_flatMap] at hmetrics ⊢
    exact fun metric hmetric => isClear_unless_metric (hmetrics metric hmetric)
  · rw [isClear_flatMap] at htemplates ⊢
    exact fun template htemplate => queryTemplateIssues_directForm (htemplates template htemplate)

/-! ### Labels -/

lemma isClear_uniqueMetricLabels_iff : IsClear (uniqueMetricLabels m) ↔
    ((firstByKey Metric.name m.metrics).filterMap (·.label)).Nodup := by
  rw [uniqueMetricLabels, ← forall_withEarlier_some_iff, isClear_flatMap]
  refine forall₂_congr fun p _ => ?_
  obtain ⟨metric, earlier⟩ := p
  cases hlabel : metric.label with
  | none       => simp [hlabel]
  | some label => cases earlier <;> simp [hlabel]

lemma isClear_uniqueMetricLabels (h : (m.metrics.map (·.name)).Nodup) :
    IsClear (uniqueMetricLabels m) ↔ (m.metrics.filterMap (·.label)).Nodup := by
  rw [isClear_uniqueMetricLabels_iff, firstByKey_eq_self h]

end SemanticLayer.Rules

import SemanticLayer.Proofs.Manifest.NormalForm

/-!
# Direct forms

Where names are in lower case, the normal form of a manifest changes nothing but measures, one at a
time, and adds metrics behind those that are there. Everything that is looked up by name is found
in the direct form where it was found before.
-/

namespace SemanticLayer

/-! ### Measures -/

namespace Measure

variable {m : Measure}

/-- The measure with a direct aggregation, if it has one. -/
def direct (m : Measure) : Measure := m.directAggregation.toOption.getD m

/-- The measure with a direct aggregation, over `time` unless it names a time dimension itself. -/
def directForm (time : Option String) (m : Measure) : Measure :=
  m.direct.fillAggTimeDimension time

/-- Counts without an expression are all that has no direct aggregation. -/
lemma directAggregation_eq_ok (h : m.agg = .count → m.expr ≠ none) :
    m.directAggregation = .ok m.direct := by
  have hsome : ∃ m', m.directAggregation = .ok m' := by
    unfold directAggregation
    split
    · next hagg =>
      cases hexpr : m.expr with
      | none      => exact absurd hexpr (h hagg)
      | some expr => exact ⟨_, rfl⟩
    · exact ⟨_, rfl⟩
    · exact ⟨_, rfl⟩
    · exact ⟨_, rfl⟩
  obtain ⟨m', hm'⟩ := hsome
  rw [direct, hm']
  rfl

lemma direct_of_isDirect (h : m.IsDirect) : m.direct = m := by
  rw [direct, directAggregation_of_isDirect h]
  rfl

lemma direct_of_count {expr : String} (hagg : m.agg = .count) (hexpr : m.expr = some expr) :
    m.direct = { m with agg := .sum, expr := some (countedExpr expr) } := by
  simp only [direct, directAggregation, hagg, hexpr]
  rfl

lemma direct_of_sumBoolean (hagg : m.agg = .sumBoolean) :
    m.direct = { m with
      agg := .sum, expr := some s!"CASE WHEN {m.expr.getD m.name} THEN 1 ELSE 0 END" } := by
  simp only [direct, directAggregation, hagg]
  rfl

lemma direct_of_median (hagg : m.agg = .median) :
    m.direct = { m with
      agg := .percentile, aggParams := some (medianParams (m.aggParams.getD .empty)) } := by
  simp only [direct, directAggregation, hagg]
  rfl

lemma frame_direct (m : Measure) :
    { m.direct with agg := m.agg, expr := m.expr, aggParams := m.aggParams } = m := by
  unfold direct
  cases h : m.directAggregation with
  | error => rfl
  | ok m' => exact frame_of_directAggregation h

variable {time : Option String}

@[simp] lemma name_directForm : (m.directForm time).name = m.name :=
  congrArg (·.name) m.frame_direct

@[simp] lemma description_directForm : (m.directForm time).description = m.description :=
  congrArg (·.description) m.frame_direct

@[simp] lemma createMetric_directForm : (m.directForm time).createMetric = m.createMetric :=
  congrArg (·.createMetric) m.frame_direct

@[simp] lemma nonAdditive_directForm : (m.directForm time).nonAdditive = m.nonAdditive :=
  congrArg (·.nonAdditive) m.frame_direct

@[simp] lemma label_directForm : (m.directForm time).label = m.label :=
  congrArg (·.label) m.frame_direct

@[simp] lemma aggTimeDimension_directForm :
    (m.directForm time).aggTimeDimension = m.aggTimeDimension.or time :=
  congrArg (·.aggTimeDimension.or time) m.frame_direct

@[simp] lemma agg_directForm : (m.directForm time).agg = m.direct.agg := rfl

@[simp] lemma expr_directForm : (m.directForm time).expr = m.direct.expr := rfl

@[simp] lemma aggParams_directForm : (m.directForm time).aggParams = m.direct.aggParams := rfl

lemma additive_directForm : (m.directForm time).additive =
    { m.additive with
      agg              := m.direct.agg
      aggParams        := m.direct.aggParams
      aggTimeDimension := m.aggTimeDimension.or time } := by
  simp [additive]

end Measure

/-! ### Models -/

namespace SemanticModel

variable {m : SemanticModel}

/-- The model with the direct forms of its measures. -/
def directForm (m : SemanticModel) : SemanticModel :=
  { m with measures := m.measures.map (·.directForm m.defaultAggTimeDimension?) }

@[simp] lemma name_directForm : m.directForm.name = m.name := rfl

@[simp] lemma label_directForm : m.directForm.label = m.label := rfl

@[simp] lemma entities_directForm : m.directForm.entities = m.entities := rfl

@[simp] lemma dimensions_directForm : m.directForm.dimensions = m.dimensions := rfl

@[simp] lemma measures_directForm :
    m.directForm.measures = m.measures.map (·.directForm m.defaultAggTimeDimension?) := rfl

@[simp] lemma metadata_directForm : m.directForm.metadata = m.metadata := rfl

@[simp] lemma measure?_directForm (name : String) :
    m.directForm.measure? name =
      (m.measure? name).map (·.directForm m.defaultAggTimeDimension?) := by
  simp only [measure?, measures_directForm, List.find?_map, Function.comp_def,
    Measure.name_directForm]

@[simp] lemma elements_directForm : m.directForm.elements = m.elements := by
  simp [elements, Function.comp_def]

@[simp] lemma primaryEntityName?_directForm :
    m.directForm.primaryEntityName? = m.primaryEntityName? := rfl

@[simp] lemma aggTimeDimensionFor?_directForm (e : AdditiveElement) :
    m.directForm.aggTimeDimensionFor? e = m.aggTimeDimensionFor? e := rfl

/-- The time dimension that a measure is given is the one it was aggregated over all along. -/
@[simp] lemma aggTimeDimensionFor?_additive_directForm (e : Measure) :
    m.aggTimeDimensionFor? (e.directForm m.defaultAggTimeDimension?).additive =
      m.aggTimeDimensionFor? e.additive := by
  simp [aggTimeDimensionFor?, Measure.additive, Option.or_assoc]

lemma mem_elements_of_entity {e : Entity} (h : e ∈ m.entities) :
    (e.name, .entity) ∈ m.elements := by
  rw [elements, List.mem_append, List.mem_append]
  exact .inl (.inl (List.mem_map_of_mem h))

lemma mem_elements_of_dimension {d : Dimension} (h : d ∈ m.dimensions) :
    (d.name, .dimension) ∈ m.elements := by
  rw [elements, List.mem_append, List.mem_append]
  exact .inl (.inr (List.mem_map_of_mem h))

lemma mem_elements_of_measure {e : Measure} (h : e ∈ m.measures) :
    (e.name, .measure) ∈ m.elements := by
  rw [elements, List.mem_append]
  exact .inr (List.mem_map_of_mem h)

lemma lowerNames_eq_self (hname : Text.IsLower m.name)
    (helements : ∀ e ∈ m.elements, Text.IsLower e.1) : m.lowerNames = m := by
  have hentities : m.entities.map (fun e => { e with name := Text.lower e.name }) = m.entities :=
    map_eq_self fun e he => by
      rw [Text.lower_eq_self (helements _ (mem_elements_of_entity he))]
  have hdimensions :
      m.dimensions.map (fun d => { d with name := Text.lower d.name }) = m.dimensions :=
    map_eq_self fun d hd => by
      rw [Text.lower_eq_self (helements _ (mem_elements_of_dimension hd))]
  have hmeasures : m.measures.map (fun e => { e with name := Text.lower e.name }) = m.measures :=
    map_eq_self fun e he => by
      rw [Text.lower_eq_self (helements _ (mem_elements_of_measure he))]
  rw [lowerNames, Text.lower_eq_self hname, hentities, hdimensions, hmeasures]

lemma normalize_eq_directForm (hname : Text.IsLower m.name)
    (helements : ∀ e ∈ m.elements, Text.IsLower e.1)
    (hcounts : ∀ e ∈ m.measures, e.agg = .count → e.expr ≠ none) :
    m.normalize = .ok m.directForm := by
  refine normalize_eq_ok_iff.2 ⟨m.measures.map (·.direct), ?_, ?_⟩
  · rw [lowerNames_eq_self hname helements, List.forall₂_map_right_iff, List.forall₂_same]
    exact fun e he => Measure.directAggregation_eq_ok (hcounts e he)
  · rw [lowerNames_eq_self hname helements]
    simp only [fillAggTimeDimensions, directForm, List.map_map]
    rfl

end SemanticModel

/-! ### Manifests -/

namespace Manifest

variable {m : Manifest}

/-- The manifest with the direct forms of its models and with metrics for the measures that ask for
one. -/
def directForm (m : Manifest) : Manifest :=
  { m with
    semanticModels := m.semanticModels.map (·.directForm)
    metrics        := m.metrics ++ measureMetrics m.semanticModels m.metrics }

@[simp] lemma semanticModels_directForm :
    m.directForm.semanticModels = m.semanticModels.map (·.directForm) := rfl

@[simp] lemma metrics_directForm :
    m.directForm.metrics = m.metrics ++ measureMetrics m.semanticModels m.metrics := rfl

@[simp] lemma customGranularityNames_directForm :
    m.directForm.customGranularityNames = m.customGranularityNames := rfl

@[simp] lemma semanticModel?_directForm (name : String) :
    m.directForm.semanticModel? name = (m.semanticModel? name).map (·.directForm) := by
  simp [semanticModel?, List.find?_map, Function.comp_def]

@[simp] lemma measure?_directForm (name : String) :
    m.directForm.measure? name =
      (m.measure? name).map fun (model, e) =>
        (model.directForm, e.directForm model.defaultAggTimeDimension?) := by
  simp only [measure?, semanticModels_directForm, List.findSome?_map]
  induction m.semanticModels with
  | nil => rfl
  | cons model models ih =>
    simp only [List.findSome?_cons, Function.comp_apply, SemanticModel.measure?_directForm]
    cases model.measure? name with
    | none => simpa using ih
    | some => rfl

/-- Metrics that were there are found as before. -/
lemma isSome_metric?_directForm {name : String} (h : (m.metric? name).isSome) :
    (m.directForm.metric? name).isSome := by
  simp only [metric?, metrics_directForm, List.find?_append, Option.isSome_or] at h ⊢
  simp [h]

/-- The metrics that are added are those of measures. -/
lemma mem_measureMetrics {models : List SemanticModel} {metrics : List Metric} {metric : Metric} :
    metric ∈ measureMetrics models metrics ↔
      ∃ model ∈ models, ∃ e ∈ model.measures, e.createMetric ∧
        e.name ∉ metrics.map (·.name) ∧ .ofMeasure model e = metric := by
  simp only [measureMetrics, List.mem_flatMap, List.mem_map, List.mem_filter, Bool.and_eq_true,
    Bool.not_eq_true', List.contains_eq_mem, decide_eq_false_iff_not, and_assoc]

/-- The metric of a measure is not affected by how the measure is aggregated. -/
lemma ofMeasure_directForm (model : SemanticModel) (e : Measure) (time : Option String) :
    Metric.ofMeasure model.directForm (e.directForm time) = .ofMeasure model e := by
  simp [Metric.ofMeasure]

lemma measureMetrics_map_directForm (models : List SemanticModel) (metrics : List Metric) :
    measureMetrics (models.map (·.directForm)) metrics = measureMetrics models metrics := by
  simp only [measureMetrics, List.flatMap_map, SemanticModel.measures_directForm, List.filter_map,
    List.map_map, Function.comp_def, Measure.createMetric_directForm, Measure.name_directForm,
    ofMeasure_directForm]

lemma normalize_eq_directForm
    (hmodels : ∀ model ∈ m.semanticModels, Text.IsLower model.name)
    (helements : ∀ model ∈ m.semanticModels, ∀ e ∈ model.elements, Text.IsLower e.1)
    (hmetrics : ∀ metric ∈ m.metrics, Text.IsLower metric.name)
    (hqueries : ∀ query ∈ m.savedQueries, Text.IsLower query.name)
    (hcounts : ∀ model ∈ m.semanticModels, ∀ e ∈ model.measures, e.agg = .count → e.expr ≠ none) :
    m.normalize = .ok m.directForm := by
  have hlower : m.metrics.map (·.lowerName) = m.metrics :=
    map_eq_self fun metric hmetric => by
      rw [Metric.lowerName, Text.lower_eq_self (hmetrics metric hmetric)]
  have hlower' : m.savedQueries.map (·.lowerName) = m.savedQueries :=
    map_eq_self fun query hquery => by
      rw [SavedQuery.lowerName, Text.lower_eq_self (hqueries query hquery)]
  refine normalize_eq_ok_iff.2 ⟨m.semanticModels.map (·.directForm), ?_, ?_⟩
  · rw [List.forall₂_map_right_iff, List.forall₂_same]
    intro model hmodel
    exact SemanticModel.normalize_eq_directForm (hmodels model hmodel) (helements model hmodel)
      (hcounts model hmodel)
  · rw [hlower, hlower', measureMetrics_map_directForm]
    rfl

/-- The labels of the metrics, followed by those of the measures that ask for a metric and have none
of their name. -/
def shownLabels (m : Manifest) : List String :=
  m.metrics.filterMap (·.label) ++ m.semanticModels.flatMap fun model =>
    (model.measures.filter fun e =>
      e.createMetric && !(m.metrics.map (·.name)).contains e.name).filterMap (·.label)

lemma filterMap_label_directForm : m.directForm.metrics.filterMap (·.label) = m.shownLabels := by
  simp only [metrics_directForm, List.filterMap_append, measureMetrics,
    List.filterMap_flatMap, List.filterMap_map]
  rfl

/-- Conversion metrics read no measure that counts the rows where an expression is set, only such
ones that count all rows or distinct values. -/
def ConvertsRows (m : Manifest) : Prop :=
  ∀ metric ∈ m.metrics, metric.kind = .conversion → ∀ p ∈ metric.params.conversion,
    ∀ input ∈ [p.baseMeasure, p.conversionMeasure], ∀ found ∈ m.measure? input.name,
      found.2.agg = .count → found.2.expr.map Text.trim = some "1"

instance : Decidable m.ConvertsRows :=
  inferInstanceAs <| Decidable <|
    ∀ metric ∈ m.metrics, metric.kind = .conversion → ∀ p ∈ metric.params.conversion,
      ∀ input ∈ [p.baseMeasure, p.conversionMeasure], ∀ found ∈ m.measure? input.name,
        found.2.agg = .count → found.2.expr.map Text.trim = some "1"

end Manifest

end SemanticLayer

import SemanticLayer.Proofs.Filter.Written
import SemanticLayer.Proofs.Manifest.Lookups
import SemanticLayer.Proofs.Validation.Valid

/-!
# References to measures and metrics

In a valid manifest the measures that metrics read are defined, and so are the metrics that derived
metrics and saved queries name. Two metrics must be given for a ratio, but no rule looks them up.
-/

namespace SemanticLayer

open Issues Rules

/-! ### Parameters of metrics -/

/-- The metric has the parameters that its kind needs and none that belong to another kind. -/
structure Metric.HasOwnParams (metric : Metric) : Prop where
  complete : lackingParams metric = []
  own      : ∀ p ∈ ownedParams metric.params, metric.kind ≠ p.2.2 → p.1 = false

namespace Metric.HasOwnParams

variable {metric : Metric}

/-- A parameter that belongs to another kind is not set. -/
lemma eq_none {α : Type} {param : Option α} (h : metric.HasOwnParams) (field : String)
    (owner : MetricKind) (hparam : (param.isSome, field, owner) ∈ ownedParams metric.params)
    (hkind : metric.kind ≠ owner) : param = none := by
  simpa using h.own _ hparam hkind

/-- Only ratios have a numerator or a denominator. -/
lemma inputMetrics_eq_derivedInputs (h : metric.HasOwnParams) (hkind : metric.kind ≠ .ratio) :
    metric.inputMetrics = metric.derivedInputs := by
  have hnumerator : metric.params.numerator = none :=
    h.eq_none "numerator" .ratio (by simp [ownedParams]) hkind
  have hdenominator : metric.params.denominator = none :=
    h.eq_none "denominator" .ratio (by simp [ownedParams]) hkind
  simp [inputMetrics, hnumerator, hdenominator]

/-- Only derived metrics have a list of inputs. -/
lemma derivedInputs_eq_nil (h : metric.HasOwnParams) (hkind : metric.kind ≠ .derived) :
    metric.derivedInputs = [] := by
  have hmetrics : metric.params.metrics = none :=
    h.eq_none "metrics" .derived (by simp [ownedParams]) hkind
  simp [derivedInputs, hmetrics]

/-- A ratio reads its numerator and its denominator. -/
lemma exists_inputMetrics_eq_pair (h : metric.HasOwnParams) (hkind : metric.kind = .ratio) :
    ∃ numerator denominator, metric.inputMetrics = [numerator, denominator] := by
  have hderived : metric.derivedInputs = [] := h.derivedInputs_eq_nil (by simp [hkind])
  have hcomplete := h.complete
  simp only [lackingParams, hkind, List.append_eq_nil_iff, ite_eq_left_iff, List.cons_ne_nil,
    imp_false, Bool.not_eq_true, Bool.not_eq_false] at hcomplete
  obtain ⟨numerator, hnumerator⟩ := Option.isSome_iff_exists.1 hcomplete.1
  obtain ⟨denominator, hdenominator⟩ := Option.isSome_iff_exists.1 hcomplete.2
  exact ⟨numerator, denominator, by simp [inputMetrics, hnumerator, hdenominator, hderived]⟩

end Metric.HasOwnParams

namespace Manifest

variable {m : Manifest}

lemma hasOwnParams_of_isClear (h : IsClear (metricParams m)) {metric : Metric}
    (hmetric : metric ∈ m.metrics) : metric.HasOwnParams := by
  rw [metricParams, isClear_flatMap] at h
  have hclear := h metric hmetric
  rw [metricParamIssues, isClear_append, isClear_append, isClear_append] at hclear
  obtain ⟨⟨⟨hlacking, howned⟩, -⟩, -⟩ := hclear
  refine ⟨isClear_map_error.1 hlacking, fun p hp hkind => ?_⟩
  simpa [hkind] using isClear_flatMap.1 howned p hp

/-! ### What the rules look up -/

lemma isClear_metricMeasures_iff : IsClear (metricMeasures m) ↔
    ∀ metric ∈ m.metrics, ∀ input ∈ metric.inputMeasures, input.name ∈ m.measureNames := by
  simp only [metricMeasures, isClear_flatMap, isClear_unless_iff, isSome_measure?_iff]

lemma metric_of_isClear_derivedInputsIssues {metric : Metric} {taken : List String}
    {inputs : List MetricInput} (h : IsClear (derivedInputsIssues m metric taken inputs)) :
    ∀ input ∈ inputs, input.name ∈ m.metricNames := by
  induction inputs generalizing taken with
  | nil => simp
  | cons input inputs ih =>
    -- the names that are taken grow with the aliases, but say nothing about what is looked up
    rw [derivedInputsIssues, isClear_append] at h
    obtain ⟨hfirst, hrest⟩ := h
    simp only [derivedInputIssues, isClear_append, isClear_unless_iff, isSome_metric?_iff]
      at hfirst
    exact List.forall_mem_cons.2 ⟨hfirst.1.1.1.1, ih hrest⟩

/-- Input metrics are looked up for derived metrics, and for no others. -/
lemma derivedInput_of_isClear (h : IsClear (derivedMetrics m)) {metric : Metric}
    (hmetric : metric ∈ m.metrics) (hkind : metric.kind = .derived) :
    ∀ input ∈ metric.derivedInputs, input.name ∈ m.metricNames := by
  rw [derivedMetrics, isClear_flatMap] at h
  have hclear := h metric (List.mem_filter.2 ⟨hmetric, by simp [hkind]⟩)
  rw [derivedIssues, isClear_append, isClear_append] at hclear
  exact metric_of_isClear_derivedInputsIssues hclear.1.2

/-- The templates of a query's filter can be read and call what there is. -/
lemma isClear_queryTemplateIssues_iff {known : KnownElements} {custom : List String}
    {q : SavedQuery} {template : String} :
    IsClear (queryTemplateIssues m known custom q template) ↔
      ∃ calls, Filter.parseTemplate custom template = .ok calls ∧
        known.unknownNames calls = [] ∧ ∀ call ∈ calls.metrics, call.metric ∈ m.metricNames := by
  unfold queryTemplateIssues
  cases hcalls : Filter.parseTemplate custom template with
  | error e => simp [Issue.interrupted]
  | ok calls =>
    simp only [isClear_append, isClear_map_error, isClear_flatMap, isClear_unless_iff,
      isSome_metric?_iff, Except.ok.injEq, exists_eq_left']

/-! ### Valid manifests -/

/-- What the query asks for and filters by are metrics. -/
structure ResolvesQuery (m : Manifest) (q : SavedQuery) : Prop where
  metrics : ∀ name ∈ q.params.metrics, name ∈ m.metricNames
  filters : ∀ template ∈ queryTemplates q,
    ∃ calls, Filter.parseTemplate m.customGranularityNames template = .ok calls ∧
      ∀ call ∈ calls.metrics, call.metric ∈ m.metricNames

lemma resolvesQuery_of_isClear (h : IsClear (Rules.savedQueries m)) {q : SavedQuery}
    (hq : q ∈ m.savedQueries) : m.ResolvesQuery q := by
  rw [Rules.savedQueries, isClear_flatMap] at h
  have hclear := h q hq
  simp only [savedQueryIssues, isClear_append] at hclear
  obtain ⟨⟨⟨⟨⟨hmetrics, -⟩, htemplates⟩, -⟩, -⟩, -⟩ := hclear
  simp only [queryMetricIssues, isClear_flatMap, isClear_unless_iff] at hmetrics
  refine ⟨fun name hname => isSome_metric?_iff.1 (hmetrics name hname), fun template ht => ?_⟩
  obtain ⟨calls, hcalls, -, hcalled⟩ :=
    isClear_queryTemplateIssues_iff.1 (isClear_flatMap.1 htemplates template ht)
  exact ⟨calls, hcalls, hcalled⟩

/-- In a valid manifest the measures that a metric reads are defined and, unless it is a ratio, so
are the metrics that it reads. Saved queries name metrics only. -/
theorem metricReferences_of_valid (h : hasBlocking m.validate = false) :
    (∀ metric ∈ m.metrics,
      (∀ input ∈ metric.inputMeasures, input.name ∈ m.measureNames) ∧
      (metric.kind ≠ .ratio → ∀ input ∈ metric.inputMetrics, input.name ∈ m.metricNames) ∧
      (metric.kind = .ratio →
        ∃ numerator denominator, metric.inputMetrics = [numerator, denominator])) ∧
    ∀ q ∈ m.savedQueries, m.ResolvesQuery q := by
  have hvalid := hasBlocking_validate_eq_false_iff.1 h
  refine ⟨fun metric hmetric => ?_, fun q hq => resolvesQuery_of_isClear hvalid.savedQueries hq⟩
  have hparams := hasOwnParams_of_isClear hvalid.metricParams hmetric
  refine ⟨isClear_metricMeasures_iff.1 hvalid.metricMeasures metric hmetric, fun hkind => ?_,
    hparams.exists_inputMetrics_eq_pair⟩
  rw [hparams.inputMetrics_eq_derivedInputs hkind]
  by_cases hderived : metric.kind = .derived
  · exact derivedInput_of_isClear hvalid.derivedMetrics hmetric hderived
  · simp [hparams.derivedInputs_eq_nil hderived]

/-- Visits that were seen, with a derived metric, a ratio of `numerator` to them and a saved query
that is filtered by `templates`. -/
def visitsRated (numerator : String) (templates : List String) : Manifest where
  semanticModels := [{
    name          := "visits"
    description   := none
    label         := none
    nodeRelation  := ⟨"visits", "main", none, none⟩
    defaults      := none
    primaryEntity := none
    entities      := [⟨"visit", .primary, none, none, none, none⟩]
    dimensions    := [⟨"ds", .time, none, false, some ⟨some .day, true, none⟩, none, none⟩]
    measures      := [⟨"views", .sum, none, false, some "1", none, none, none, none⟩]
    metadata      := none }]
  metrics := [
    ⟨"seen", .simple, { MetricParams.empty with measure := some (.ofName "views") },
      none, none, none, none⟩,
    ⟨"doubled", .derived, { MetricParams.empty with
      expr := some "seen * 2", metrics := some [.ofName "seen"] }, none, none, none, none⟩,
    ⟨"rate", .ratio, { MetricParams.empty with
      numerator := some (.ofName numerator), denominator := some (.ofName "seen") },
      none, none, none, none⟩]
  savedQueries := [⟨"daily", { QueryParams.empty with
    metrics := ["seen"], filter := some ⟨templates⟩ }, none, none, [], none⟩]
  configuration     := ⟨[]⟩
  interfacesVersion := defaultVersion

/-- The filter that calls the derived metric. -/
def callsDoubled : String := (Filter.WrittenCall.metric "doubled" ["visit"]).template '\''

lemma parseTemplate_callsDoubled :
    Filter.parseTemplate [] callsDoubled = .ok (.ofMetric ⟨"doubled", ["visit"]⟩) :=
  (Filter.parseTemplate_template_iff (by decide) (Filter.WrittenCall.isNamed_metric _ _)
    (Filter.WrittenCall.call_metric [] _ _) _).2 ⟨_, rfl, rfl⟩

lemma hasBlocking_visitsRated_doubled :
    hasBlocking (visitsRated "doubled" [callsDoubled]).validate = false := by
  rw [hasBlocking_validate_eq_false_iff]
  constructor
  case savedQueries =>
    refine isClear_flatMap.2 (List.forall_mem_singleton.2 ?_)
    simp only [savedQueryIssues, isClear_append]
    refine ⟨⟨⟨⟨by decide +kernel, ?_⟩, by decide +kernel⟩, by decide +kernel⟩, by decide +kernel⟩
    refine isClear_flatMap.2 (List.forall_mem_singleton.2 ?_)
    exact isClear_queryTemplateIssues_iff.2 ⟨_, parseTemplate_callsDoubled, rfl, by decide +kernel⟩
  all_goals decide +kernel

/-- A derived metric and a saved query whose metrics are there. -/
theorem metricReferences_visitsRated :
    hasBlocking (visitsRated "doubled" [callsDoubled]).validate = false ∧
    (∀ metric ∈ (visitsRated "doubled" [callsDoubled]).metrics,
      (∀ input ∈ metric.inputMeasures,
        input.name ∈ (visitsRated "doubled" [callsDoubled]).measureNames) ∧
      (metric.kind ≠ .ratio → ∀ input ∈ metric.inputMetrics,
        input.name ∈ (visitsRated "doubled" [callsDoubled]).metricNames) ∧
      (metric.kind = .ratio →
        ∃ numerator denominator, metric.inputMetrics = [numerator, denominator])) ∧
    ∀ q ∈ (visitsRated "doubled" [callsDoubled]).savedQueries,
      (visitsRated "doubled" [callsDoubled]).ResolvesQuery q :=
  ⟨hasBlocking_visitsRated_doubled, metricReferences_of_valid hasBlocking_visitsRated_doubled⟩

/-- A valid manifest with a ratio whose numerator is no metric. -/
theorem metric?_visitsRated_missing :
    hasBlocking (visitsRated "missing" []).validate = false ∧
    ∃ metric ∈ (visitsRated "missing" []).metrics, ∃ input ∈ metric.inputMetrics,
      (visitsRated "missing" []).metric? input.name = none := by
  decide +kernel

end Manifest

end SemanticLayer

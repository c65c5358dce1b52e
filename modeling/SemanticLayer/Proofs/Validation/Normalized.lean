import SemanticLayer.Proofs.Validation.DirectMetrics

/-!
# Normal forms of valid manifests

A valid manifest has a normal form. Metrics of measures take over the labels of the measures, so the
normal form may have two metrics of one label where the manifest had none, and conversion metrics
may read a count of the rows where an expression is set, which is a sum in the normal form. Nothing
else in a normal form gives a rule a reason to block it.
-/

namespace SemanticLayer

open Issues Rules

variable {m : Manifest}

/-! ### Normal forms of valid manifests -/

namespace Manifest

lemma IsValid.normalize_eq_directForm (h : m.IsValid) : m.normalize = .ok m.directForm := by
  have hnames := hasValidNames_iff.2 h.uniqueAndValidNames
  refine Manifest.normalize_eq_directForm (fun model hmodel => (hnames.models model hmodel).isLower)
    (fun model hmodel e he => ((hnames.elements model hmodel).elements e he).isLower)
    (fun metric hmetric => (hnames.metrics metric hmetric).isLower)
    (fun query hquery => (hnames.queries query hquery).isLower)
    (expr_ne_none_of_count h.countExpressions)

lemma IsValid.directForm_iff (h : m.IsValid) (hrows : m.ConvertsRows) :
    m.directForm.IsValid ↔ m.shownLabels.Nodup := by
  have hnames := hasValidNames_iff.2 h.uniqueAndValidNames
  have hcounts := expr_ne_none_of_count h.countExpressions
  have hdistinct := nodup_metricNames_directForm hnames h.uniqueMeasures
  rw [← filterMap_label_directForm, ← isClear_uniqueMetricLabels hdistinct]
  refine ⟨fun ht => ht.uniqueMetricLabels, fun hlabels => ?_⟩
  constructor
  case nonEmpty => exact nonEmpty_directForm h.nonEmpty
  case uniqueAndValidNames =>
    exact hasValidNames_iff.1 (hasValidNames_directForm hnames h.uniqueMeasures)
  case uniqueMeasures => exact uniqueMeasures_directForm h.uniqueMeasures
  case uniqueModelLabels =>
    rw [uniqueModelLabels_directForm]
    exact h.uniqueModelLabels
  case consistentElements =>
    rw [consistentElements_directForm]
    exact h.consistentElements
  case consistentDimensions =>
    rw [consistentDimensions_directForm]
    exact h.consistentDimensions
  case primaryEntities =>
    rw [primaryEntities_directForm]
    exact h.primaryEntities
  case uniqueDimensionAddresses =>
    rw [uniqueDimensionAddresses_directForm]
    exact h.uniqueDimensionAddresses
  case timeDimensions => exact timeDimensions_directForm h.timeDimensions
  case validityWindows =>
    rw [validityWindows_directForm]
    exact h.validityWindows
  case aggTimeDimensions =>
    rw [aggTimeDimensions_directForm]
    exact h.aggTimeDimensions
  case countExpressions =>
    rw [countExpressions_directForm hcounts]
    exact isClear_nil
  case percentiles => exact percentiles_directForm hcounts h.percentiles
  case nonAdditiveDimensions => exact nonAdditiveDimensions_directForm h.nonAdditiveDimensions
  case metricParams => exact metricParams_directForm h.metricParams
  case metricMeasures => exact metricMeasures_directForm h.metricMeasures
  case measureAliases =>
    rw [measureAliases_directForm]
    exact h.measureAliases
  case cumulativeMetrics =>
    rw [cumulativeMetrics_directForm]
    exact h.cumulativeMetrics
  case derivedMetrics => exact derivedMetrics_directForm h.derivedMetrics
  case conversionMetrics => exact conversionMetrics_directForm hrows h.conversionMetrics
  case uniqueMetricLabels => exact hlabels
  case noReservedKeywords =>
    rw [noReservedKeywords_directForm]
    exact h.noReservedKeywords
  case parseableFilters =>
    rw [parseableFilters_directForm]
    exact h.parseableFilters
  case savedQueries => exact Rules.savedQueries_directForm h.savedQueries

/-- A valid manifest has a normal form, and where conversion metrics count rows the normal form is
valid just when no two metrics end up with one label. -/
theorem exists_normalize_of_valid (h : hasBlocking m.validate = false) :
    ∃ t, m.normalize = .ok t ∧
      (m.ConvertsRows → (hasBlocking t.validate = false ↔ m.shownLabels.Nodup)) := by
  have hvalid := hasBlocking_validate_eq_false_iff.1 h
  refine ⟨m.directForm, hvalid.normalize_eq_directForm, fun hrows => ?_⟩
  rw [hasBlocking_validate_eq_false_iff, hvalid.directForm_iff hrows]

/-- A conversion metric with the given label over a measure that counts the rows where an expression
is set and asks for a metric. -/
def conversionOver (expr label : String) : Manifest where
  semanticModels := [{
    name          := "visits"
    description   := none
    label         := none
    nodeRelation  := ⟨"visits", "main", none, none⟩
    defaults      := none
    primaryEntity := none
    entities      := [⟨"visit", .primary, none, none, none, none⟩]
    dimensions    := [⟨"ds", .time, none, false, some ⟨some .day, true, none⟩, none, none⟩]
    measures      := [⟨"buyers", .count, none, true, some expr, none, none, none, some "Buyers"⟩]
    metadata      := none }]
  metrics := [{
    name        := "rate"
    kind        := .conversion
    params      := { MetricParams.empty with
      conversion := some
        ⟨.ofName "buyers", .ofName "buyers", "visit", .conversionRate, none, none⟩ }
    filter      := none
    description := none
    label       := some label
    metadata    := none }]
  savedQueries      := []
  configuration     := ⟨[]⟩
  interfacesVersion := defaultVersion

/-- The normal form of a valid manifest can be blocked, by a label that a measure hands to its
metric or by a conversion over a count. -/
theorem hasBlocking_normalize_conversionOver :
    (hasBlocking (conversionOver "1" "Buyers").validate = false ∧
      ∃ t, (conversionOver "1" "Buyers").normalize = .ok t ∧ hasBlocking t.validate = true) ∧
    (hasBlocking (conversionOver "buyer_id" "Rate").validate = false ∧
      ∃ t, (conversionOver "buyer_id" "Rate").normalize = .ok t ∧ hasBlocking t.validate = true) :=
  ⟨⟨by decide +kernel, (conversionOver "1" "Buyers").directForm, by decide +kernel,
    by decide +kernel⟩,
   ⟨by decide +kernel, (conversionOver "buyer_id" "Rate").directForm, by decide +kernel,
    by decide +kernel⟩⟩

/-- A conversion over all rows with a label of its own stays valid. -/
theorem exists_normalize_conversionOver :
    hasBlocking (conversionOver "1" "Rate").validate = false ∧
      ∃ t, (conversionOver "1" "Rate").normalize = .ok t ∧ hasBlocking t.validate = false := by
  have hclear : hasBlocking (conversionOver "1" "Rate").validate = false := by decide +kernel
  have hrows : (conversionOver "1" "Rate").ConvertsRows := by decide +kernel
  have hlabels : (conversionOver "1" "Rate").shownLabels.Nodup := by decide +kernel
  obtain ⟨t, ht, hvalid⟩ := exists_normalize_of_valid hclear
  exact ⟨hclear, t, ht, (hvalid hrows).2 hlabels⟩

end Manifest

end SemanticLayer

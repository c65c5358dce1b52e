import SemanticLayer.Proofs.Validation.FirstDimensions
import SemanticLayer.Proofs.Validation.SameContent

/-!
# Order of declarations

Whether a manifest is blocked does not depend on the order in which metrics, saved queries and time
spines are declared, even though which issue is found, and on which of two objects, does.
-/

namespace SemanticLayer

open Issues Rules

namespace Manifest

/-- The manifests differ in the order of their metrics, saved queries and time spines only. -/
structure Reorders (m m' : Manifest) : Prop where
  models  : m'.semanticModels = m.semanticModels
  metrics : m'.metrics.Perm m.metrics
  queries : m'.savedQueries.Perm m.savedQueries
  spines  : m'.configuration.timeSpines.Perm m.configuration.timeSpines
  version : m'.interfacesVersion = m.interfacesVersion

namespace Reorders

variable {m m' : Manifest} (h : m.Reorders m')
include h

lemma symm : m'.Reorders m :=
  ⟨h.models.symm, h.metrics.symm, h.queries.symm, h.spines.symm, h.version.symm⟩

lemma customGranularityNames_perm : m'.customGranularityNames.Perm m.customGranularityNames :=
  (h.spines.flatMap_right _).map _

lemma sameContent : m.SameContent m' where
  models        := by simp only [h.models, implies_true]
  metrics       := fun _ => h.metrics.mem_iff
  queries       := fun _ => h.queries.mem_iff
  granularities := fun _ => h.customGranularityNames_perm.mem_iff

lemma hasValidNames (hm : m.HasValidNames) : m'.HasValidNames := by
  have hmodels := h.models
  constructor
  case models => exact hmodels ▸ hm.models
  case modelsDistinct => exact hmodels ▸ hm.modelsDistinct
  case elements => exact hmodels ▸ hm.elements
  case metrics => exact fun metric hmetric => hm.metrics metric (h.metrics.mem_iff.1 hmetric)
  case metricsDistinct => exact (h.metrics.map _).nodup_iff.2 hm.metricsDistinct
  case queries => exact fun query hquery => hm.queries query (h.queries.mem_iff.1 hquery)
  case queriesDistinct => exact (h.queries.map _).nodup_iff.2 hm.queriesDistinct
  case granularities =>
    have hnames := isClear_customGranularityIssues.1 hm.granularities
    have hperm := h.customGranularityNames_perm
    refine isClear_customGranularityIssues.2 ⟨fun name hname => ?_, hperm.nodup_iff.2 hnames.2⟩
    exact hnames.1 name (hperm.mem_iff.1 hname)

/-- A manifest that nothing blocks is not blocked in another order. -/
lemma isClear_validate (hclear : IsClear m.validate) : IsClear m'.validate := by
  have hvalid : m.IsValid :=
    hasBlocking_validate_eq_false_iff.1 (hasBlocking_eq_false_iff.2 hclear)
  rw [isClear_iff_lacks] at hclear ⊢
  apply lacks_validate h.sameContent hvalid.hasDistinctNames hclear
  · rw [← isClear_iff_lacks, ← hasValidNames_iff]
    exact h.hasValidNames (hasValidNames_iff.2 hvalid.uniqueAndValidNames)
  · rw [← isClear_iff_lacks, consistentDimensions_congr h.models]
    exact hvalid.consistentDimensions

/-- The order of metrics, saved queries and time spines does not decide whether a manifest is
blocked. -/
theorem hasBlocking_validate_eq : hasBlocking m'.validate = hasBlocking m.validate := by
  rw [← Bool.not_inj_iff, Bool.eq_iff_iff, Bool.not_eq_true', Bool.not_eq_true',
    hasBlocking_eq_false_iff, hasBlocking_eq_false_iff]
  constructor
  · exact h.symm.isClear_validate
  · exact h.isClear_validate

end Reorders

/-- Views and taps of visits, both read under the name `opened`, with two time spines. -/
def visitsOpened : Manifest where
  semanticModels := [{
    name          := "visits"
    description   := none
    label         := none
    nodeRelation  := ⟨"visits", "main", none, none⟩
    defaults      := none
    primaryEntity := none
    entities      := [⟨"visit", .primary, none, none, none, none⟩]
    dimensions    := [⟨"ds", .time, none, false, some ⟨some .day, true, none⟩, none, none⟩]
    measures      := [⟨"views", .sum, none, false, some "1", none, none, none, none⟩,
      ⟨"taps", .sum, none, false, some "1", none, none, none, none⟩]
    metadata      := none }]
  metrics := ["views", "taps"].map fun measure =>
    ⟨"all_" ++ measure, .simple, { MetricParams.empty with
      measure := some { MeasureInput.ofName measure with aliasName := some "opened" } },
      none, none, none, none⟩
  savedQueries      := []
  configuration     := ⟨[⟨none, none, [⟨"martian_day", none⟩]⟩,
    ⟨none, none, [⟨"fiscal_year", none⟩]⟩]⟩
  interfacesVersion := defaultVersion

/-- The same with its metrics and time spines the other way round. -/
def visitsReopened : Manifest :=
  { visitsOpened with
    metrics := visitsOpened.metrics.reverse
    configuration := ⟨visitsOpened.configuration.timeSpines.reverse⟩ }

/-- Both orders are blocked, each by an error of its own. -/
theorem hasBlocking_validate_visitsReopened :
    visitsOpened.Reorders visitsReopened ∧ visitsReopened.validate ≠ visitsOpened.validate ∧
      hasBlocking visitsReopened.validate = hasBlocking visitsOpened.validate ∧
      hasBlocking visitsOpened.validate = true := by
  have hreorders : visitsOpened.Reorders visitsReopened :=
    ⟨rfl, List.reverse_perm _, .refl _, List.reverse_perm _, rfl⟩
  exact ⟨hreorders, by decide +kernel, hreorders.hasBlocking_validate_eq, by decide +kernel⟩

end Manifest

end SemanticLayer

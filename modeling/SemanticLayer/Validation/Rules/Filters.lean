import SemanticLayer.Filter.Template
import SemanticLayer.Validation.Issue

/-!
# Rules about filters

Every filter of a metric or of one of its inputs can be read, and the granularities it names are
known.
-/

namespace SemanticLayer.Rules

/-- The filters of a metric and of what it reads, with the activity of reading each. -/
def metricFilters (metric : Metric) : List (String × FilterIntersection) :=
  let p := metric.params
  let named (activity : String) (f : Option FilterIntersection) :
      List (String × FilterIntersection) :=
    f.toList.map (activity, ·)
  named s!"trying to parse filter of metric `{metric.name}`" metric.filter ++
  (metric.inputMeasures.flatMap fun input =>
    named s!"trying to parse filter of measure input `{input.name}` on metric `{metric.name}`"
      input.filter) ++
  named s!"trying to parse the numerator filter on metric `{metric.name}`"
    (p.numerator.bind (·.filter)) ++
  named s!"trying to parse the denominator filter on metric `{metric.name}`"
    (p.denominator.bind (·.filter)) ++
  metric.derivedInputs.flatMap fun input =>
    named s!"trying to parse filter for input metric `{input.name}` on metric `{metric.name}`"
      input.filter

/-- The templates in the filters of a metric, with the activity of reading each. -/
def metricTemplates (metric : Metric) : List (String × String) :=
  (metricFilters metric).flatMap fun (activity, f) => f.templates.map (activity, ·)

/-- The issues with a template in a filter of a metric. -/
def metricTemplateIssues (custom : List String) (metric : Metric) (activity template : String) :
    List Issue :=
  let context := Context.ofMetric metric
  match Filter.parseTemplate custom template with
  | .error e  => [(Issue.interrupted activity e.message context).withDetail template]
  | .ok calls =>
    calls.timeDimensions.flatMap fun call =>
      match call.granularity with
      | none   => []
      | some g =>
        if isKnownGranularity custom g then [] else
          [.warning context
            (s!"Filter for metric `{metric.name}` is not valid. `{g}` is not a valid " ++
              "granularity name. Valid granularity options: " ++ granularityOptions custom)]

/-- The filters of metrics can be read and name known granularities. -/
def parseableFilters (m : Manifest) : List Issue :=
  m.metrics.flatMap fun metric => (metricTemplates metric).flatMap fun (activity, template) =>
    metricTemplateIssues m.customGranularityNames metric activity template

end SemanticLayer.Rules

import SemanticLayer.Validation.Rules.Aggregations
import SemanticLayer.Validation.Rules.Elements
import SemanticLayer.Validation.Rules.Filters
import SemanticLayer.Validation.Rules.Metrics
import SemanticLayer.Validation.Rules.SavedQueries
import SemanticLayer.Validation.Rules.TimeDimensions

/-!
# Validation

A validator runs its rules one after the other over the whole manifest and collects all issues. A
rule that breaks down is itself reported as an error, and the other rules still run.
-/

namespace SemanticLayer

/-- What comes of running a rule: its issues, or a breakdown with the text that explains it. -/
inductive RuleOutcome where
  | issues (found : List Issue)
  | broken (cause : Option String)

/-- A rule with its name. -/
structure Rule where
  name  : String
  check : Manifest → RuleOutcome

namespace Rule

/-- A rule that always comes to its issues. -/
def ofIssues (name : String) (issues : Manifest → List Issue) : Rule :=
  ⟨name, fun m => .issues (issues m)⟩

/-- The first line of a text. -/
def firstLine (s : String) : String := String.ofList (s.toList.takeWhile (· != '\n'))

/-- The error that stands for a breakdown. -/
def breakdown (name : String) (cause : Option String) : Issue :=
  let cause := cause.getD "non-string panic payload"
  (Issue.interrupted s!"running validation rule `{name}`" cause none).withDetail
    (firstLine s!"rule `{name}` panicked: {cause}")

/-- The issues that running the rule leads to. -/
def run (r : Rule) (m : Manifest) : List Issue :=
  match r.check m with
  | .issues found => found
  | .broken cause => [breakdown r.name cause]

/-- The rules that a manifest is checked with, in order. -/
def defaults : List Rule := [
  ofIssues "NonEmptyRule" Rules.nonEmpty,
  ofIssues "UniqueAndValidNameRule" Rules.uniqueAndValidNames,
  ofIssues "SemanticModelMeasuresUniqueRule" Rules.uniqueMeasures,
  ofIssues "SemanticModelLabelsRule" Rules.uniqueModelLabels,
  ofIssues "ElementConsistencyRule" Rules.consistentElements,
  ofIssues "DimensionConsistencyRule" Rules.consistentDimensions,
  ofIssues "PrimaryEntityRule" Rules.primaryEntities,
  ofIssues "PrimaryEntityDimensionPairs" Rules.uniqueDimensionAddresses,
  ofIssues "SemanticModelTimeDimensionRule" Rules.timeDimensions,
  ofIssues "SemanticModelValidityWindowRule" Rules.validityWindows,
  ofIssues "AggregationTimeDimensionRule" Rules.aggTimeDimensions,
  ofIssues "CountAggregationExprRule" Rules.countExpressions,
  ofIssues "PercentileAggregationRule" Rules.percentiles,
  ofIssues "MeasuresNonAdditiveDimensionRule" Rules.nonAdditiveDimensions,
  ofIssues "MetricTypeParamsRule" Rules.metricParams,
  ofIssues "MetricMeasuresRule" Rules.metricMeasures,
  ofIssues "MeasureAliasesRule" Rules.measureAliases,
  ofIssues "CumulativeMetricRule" Rules.cumulativeMetrics,
  ofIssues "DerivedMetricRule" Rules.derivedMetrics,
  ofIssues "ConversionMetricRule" Rules.conversionMetrics,
  ofIssues "MetricLabelsRule" Rules.uniqueMetricLabels,
  ofIssues "ReservedKeywordsRule" Rules.noReservedKeywords,
  ofIssues "WhereFiltersAreParseableRule" Rules.parseableFilters,
  ofIssues "SavedQueryRule" Rules.savedQueries]

end Rule

/-- The rules of a validator, of which there is at least one. -/
structure Validator where
  rules    : List Rule
  nonempty : rules ≠ []

namespace Validator

/-- A validator with the given rules, if there are any. -/
def ofRules? (rules : List Rule) : Option Validator :=
  if h : rules ≠ [] then some ⟨rules, h⟩ else none

/-- The wording of the failure to make a validator without rules. -/
def noRulesMessage : String := "no validation rules supplied; a validator needs at least one rule"

/-- The validator with the default rules. -/
def standard : Validator := ⟨Rule.defaults, by simp [Rule.defaults]⟩

/-- The issues that all rules find, in the order of the rules. -/
def validate (v : Validator) (m : Manifest) : List Issue := v.rules.flatMap (·.run m)

/-- The issues, as a failure if one of them blocks the manifest. -/
def checkedValidate (v : Validator) (m : Manifest) : Except (List Issue) (List Issue) :=
  let issues := v.validate m
  if Issues.hasBlocking issues then .error issues else .ok issues

end Validator

/-- The issues that the default rules find in a manifest. -/
def Manifest.validate (m : Manifest) : List Issue := Validator.standard.validate m

end SemanticLayer

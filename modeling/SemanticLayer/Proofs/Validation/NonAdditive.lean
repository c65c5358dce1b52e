import SemanticLayer.Proofs.Validation.AggregationTimes
import SemanticLayer.Proofs.Validation.DirectModels

/-!
# Non-additive dimensions

A non-additive dimension names a time dimension, says whether the least or the greatest value along
it counts, and groups by entities. In a valid manifest every one of a measure fits the measure's
model. One of a metric that aggregates a model directly fits as well where the metric or the model
says what time to aggregate over; where neither does, nothing is asked of it.
-/

namespace SemanticLayer

open Issues Rules

/-! ### What a model supports -/

/-- The model has what the non-additive dimension asks for. -/
structure SemanticModel.Supports (model : SemanticModel) (n : NonAdditiveDimension) : Prop where
  dimension       : ∃ d ∈ model.dimensions, d.kind = .time ∧ d.name = n.name
  windowChoice    : n.windowChoice = .min ∨ n.windowChoice = .max
  windowGroupings : ∀ g ∈ n.windowGroupings, ∃ entity ∈ model.entities, entity.name = g

namespace Rules

variable {m : Manifest} {context : Context} {model : SemanticModel} {e : AdditiveElement}
  {n : NonAdditiveDimension} {aggTime : String}

/-- The named dimension is a time dimension, and where granularities are declared it has that of the
time that is aggregated over. -/
lemma isClear_nonAdditiveDimensionIssues :
    IsClear (nonAdditiveDimensionIssues context model e n aggTime) ↔
      model.isTimeDimension n.name ∧
        ∀ known ∈ (model.dimension? aggTime).bind (·.granularity),
          ∀ given ∈ (model.dimension? n.name).bind (·.granularity), known = given := by
  unfold nonAdditiveDimensionIssues SemanticModel.isTimeDimension
  cases model.dimension? n.name with
  | none => simp
  | some d =>
    by_cases htime : d.kind = .time
    · cases (model.dimension? aggTime).bind (·.granularity) with
      | none => simp [htime]
      | some known =>
        cases hgiven : d.granularity with
        | none => simp [htime, hgiven]
        | some given => simp [htime, hgiven]
    · simp [htime]

lemma isClear_nonAdditiveIssues :
    IsClear (nonAdditiveIssues context model e n aggTime) ↔
      IsClear (nonAdditiveDimensionIssues context model e n aggTime) ∧
        (n.windowChoice = .min ∨ n.windowChoice = .max) ∧
          ∀ g ∈ n.windowGroupings, (model.entity? g).isSome := by
  simp [nonAdditiveIssues, or_iff_not_imp_left, List.filter_eq_nil_iff, ← Option.isSome_iff_ne_none]

lemma supports_of_isClear (h : IsClear (nonAdditiveIssues context model e n aggTime)) :
    model.Supports n := by
  obtain ⟨hdimension, hchoice, hgroupings⟩ := isClear_nonAdditiveIssues.1 h
  have htime := (isClear_nonAdditiveDimensionIssues.1 hdimension).1
  refine ⟨SemanticModel.exists_of_isTimeDimension htime, hchoice, fun g hg => ?_⟩
  obtain ⟨entity, hentity⟩ := Option.isSome_iff_exists.1 (hgroupings g hg)
  exact ⟨entity, List.mem_of_find?_eq_some hentity, by simpa using List.find?_some hentity⟩

/-- What is aggregated over some time has only non-additive dimensions that its model supports. -/
lemma supports_of_mem_additiveElements (h : IsClear (nonAdditiveDimensions m))
    (ha : (model, e, context) ∈ additiveElements m) (htime : (model.aggTimeDimensionFor? e).isSome)
    (hn : n ∈ e.nonAdditive) : model.Supports n := by
  obtain ⟨aggTime, haggTime⟩ := Option.isSome_iff_exists.1 htime
  rw [nonAdditiveDimensions, isClear_flatMap] at h
  have hclear := h _ ha
  simp only [Option.mem_def.1 hn, haggTime] at hclear
  exact supports_of_isClear hclear

end Rules

/-! ### Valid manifests -/

namespace Manifest

variable {m : Manifest}

/-- In a valid manifest the model of a measure supports the measure's non-additive dimension. The
model that a metric aggregates directly does so for the metric when one of the two offers a time to
aggregate over. -/
theorem supports_of_valid (h : hasBlocking m.validate = false) :
    (∀ model ∈ m.semanticModels, ∀ e ∈ model.measures, ∀ n ∈ e.nonAdditive, model.Supports n) ∧
    ∀ metric ∈ m.metrics, ∀ a ∈ metric.simpleAggregation?,
      ∃ model ∈ m.semanticModel? a.semanticModel,
        (a.aggTimeDimension.isSome ∨ model.OffersTime) →
          ∀ n ∈ a.nonAdditive, model.Supports n := by
  have hvalid := hasBlocking_validate_eq_false_iff.1 h
  have htime {model : SemanticModel} (hmodel : model ∈ m.semanticModels) {e : AdditiveElement} :=
    SemanticModel.isSome_aggTimeDimensionFor?_iff (e := e)
      (primaryTimeDimensions_of_isClear hvalid.timeDimensions hmodel)
  have helements := forall_mem_additiveElements.1 fun a (ha : a ∈ additiveElements m) => ha
  constructor
  · intro model hmodel e he n hn
    refine supports_of_mem_additiveElements hvalid.nonAdditiveDimensions
      (helements.1 model hmodel e he) ((htime hmodel).2 ?_) hn
    exact offersTime_of_isClear hvalid.timeDimensions hmodel he
  · intro metric hmetric a ha
    obtain ⟨model, hmodel⟩ := exists_semanticModel?_of_isClear hvalid.metricParams hmetric ha
    refine ⟨model, hmodel, fun hoffers n hn => ?_⟩
    exact supports_of_mem_additiveElements hvalid.nonAdditiveDimensions
      (helements.2 metric hmetric a ha model hmodel)
      ((htime (List.mem_of_find?_eq_some hmodel)).2 hoffers) hn

/-- Accounts with the balance at the end of a time, and a metric of them that is aggregated over
`time` with the non-additive dimension `n`. -/
def accountsHeld (time : Option String) (n : NonAdditiveDimension) : Manifest where
  semanticModels := [{
    name          := "accounts"
    description   := none
    label         := none
    nodeRelation  := ⟨"accounts", "main", none, none⟩
    defaults      := none
    primaryEntity := none
    entities      := [⟨"account", .primary, none, none, none, none⟩]
    dimensions    := [⟨"ds", .time, none, false, some ⟨some .day, false, none⟩, none, none⟩]
    measures      := [⟨"balance", .sum, none, true, none, none, some ⟨"ds", .max, ["account"]⟩,
      some "ds", none⟩]
    metadata      := none }]
  metrics := [⟨"held", .simple, { MetricParams.empty with
    aggregation := some ⟨"accounts", .sum, none, time, some n⟩ }, none, none, none, none⟩]
  savedQueries      := []
  configuration     := ⟨[]⟩
  interfacesVersion := defaultVersion

/-- A measure and a metric whose non-additive dimensions fit their model. -/
theorem supports_accountsHeld :
    hasBlocking (accountsHeld (some "ds") ⟨"ds", .min, ["account"]⟩).validate = false ∧
    (∀ model ∈ (accountsHeld (some "ds") ⟨"ds", .min, ["account"]⟩).semanticModels,
      ∀ e ∈ model.measures, ∀ n ∈ e.nonAdditive, model.Supports n) ∧
    ∀ metric ∈ (accountsHeld (some "ds") ⟨"ds", .min, ["account"]⟩).metrics,
      ∀ a ∈ metric.simpleAggregation?,
        ∃ model ∈ (accountsHeld (some "ds") ⟨"ds", .min, ["account"]⟩).semanticModel?
            a.semanticModel,
          ∀ n ∈ a.nonAdditive, model.Supports n := by
  have h : hasBlocking (accountsHeld (some "ds") ⟨"ds", .min, ["account"]⟩).validate = false := by
    decide +kernel
  obtain ⟨hmeasures, hmetrics⟩ := supports_of_valid h
  refine ⟨h, hmeasures, fun metric hmetric a ha => ?_⟩
  obtain ⟨model, hmodel, hsupports⟩ := hmetrics metric hmetric a ha
  refine ⟨model, hmodel, hsupports (.inl ?_)⟩
  obtain rfl := List.mem_singleton.1 hmetric
  obtain rfl := Option.some.inj ha
  rfl

/-- A valid manifest with a metric whose non-additive dimension has nothing that is asked for: no
dimension has its name, it chooses a sum, and no entity has the name that it groups by. -/
theorem not_supports_accountsHeld :
    hasBlocking (accountsHeld none ⟨"closing", .sum, ["owner"]⟩).validate = false ∧
    ∃ metric ∈ (accountsHeld none ⟨"closing", .sum, ["owner"]⟩).metrics,
      ∃ a ∈ metric.simpleAggregation?,
        ∃ model ∈ (accountsHeld none ⟨"closing", .sum, ["owner"]⟩).semanticModel? a.semanticModel,
          ∃ n ∈ a.nonAdditive, n.name ∉ model.dimensions.map (·.name) ∧
            n.windowChoice ≠ .min ∧ n.windowChoice ≠ .max ∧
            ∃ g ∈ n.windowGroupings, g ∉ model.entities.map (·.name) := by
  refine ⟨by decide +kernel, _, List.mem_singleton.2 rfl, _, rfl, _, rfl, _, rfl, ?_⟩
  exact ⟨by decide, by decide, by decide, _, List.mem_singleton.2 rfl, by decide⟩

end Manifest

end SemanticLayer

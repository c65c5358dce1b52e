import SemanticLayer.Proofs.Filter.CustomNames
import SemanticLayer.Proofs.Validation.Addresses
import SemanticLayer.Proofs.Validation.DirectMetrics
import SemanticLayer.Proofs.Validation.FirstItems
import SemanticLayer.Proofs.Validation.Levels
import SemanticLayer.Proofs.Validation.MeasureAliases
import SemanticLayer.Proofs.Validation.UniqueNames

/-!
# Manifests of the same content

Two manifests have the same content when they hold the same objects and know the same custom
granularities, in whatever order and however often. Where names are distinct, a lookup finds the
same in both, and so most rules find nothing in one where they find nothing in the other:
`dependsOnContent`. The messages may differ, as some of them list granularities.
-/

namespace SemanticLayer

open Issues Rules

/-! ### Content -/

/-- The manifests hold the same objects and know the same custom granularities. -/
structure Manifest.SameContent (m m' : Manifest) : Prop where
  models        : ∀ model, model ∈ m'.semanticModels ↔ model ∈ m.semanticModels
  metrics       : ∀ metric, metric ∈ m'.metrics ↔ metric ∈ m.metrics
  queries       : ∀ query, query ∈ m'.savedQueries ↔ query ∈ m.savedQueries
  granularities : ∀ name, name ∈ m'.customGranularityNames ↔ name ∈ m.customGranularityNames

/-- Levels of which the rule finds no issue in a manifest with distinct names are lacking in all
manifests of the same content. -/
def Rules.DependsOnContent (rule : Manifest → List Issue) : Prop :=
  ∀ ⦃m m' : Manifest⦄, m.SameContent m' → m.HasDistinctNames →
    ∀ levels, Lacks levels (rule m) → Lacks levels (rule m')

section Lists

variable {α β : Type} {as bs : List α} {f g : α → List Issue} {levels : List Severity}

lemma isEmpty_congr_of_mem_iff (h : ∀ a, a ∈ as ↔ a ∈ bs) : as.isEmpty = bs.isEmpty := by
  rw [Bool.eq_iff_iff, List.isEmpty_iff, List.isEmpty_iff, List.eq_nil_iff_forall_not_mem,
    List.eq_nil_iff_forall_not_mem]
  simp only [h]

lemma contains_congr [BEq α] [LawfulBEq α] {a : α} (h : a ∈ as ↔ a ∈ bs) :
    as.contains a = bs.contains a := by
  rw [Bool.eq_iff_iff, List.contains_iff_mem, List.contains_iff_mem, h]

lemma mem_flatMap_congr {k : α → List β} (h : ∀ a, a ∈ as ↔ a ∈ bs) (b : β) :
    b ∈ as.flatMap k ↔ b ∈ bs.flatMap k := by
  simp only [List.mem_flatMap, h]

/-- What is found item by item is found in any list of these items. -/
lemma lacks_flatMap_of_subset (hsubset : bs ⊆ as)
    (hitem : ∀ a ∈ as, Lacks levels (f a) → Lacks levels (g a)) (h : Lacks levels (as.flatMap f)) :
    Lacks levels (bs.flatMap g) := by
  rw [lacks_flatMap] at h ⊢
  intro a ha
  exact hitem a (hsubset ha) (h a (hsubset ha))

end Lists

namespace Manifest.SameContent

variable {m m' : Manifest} (h : m.SameContent m')
include h

lemma metrics_subset : m'.metrics ⊆ m.metrics := fun metric => (h.metrics metric).1

lemma models_subset : m'.semanticModels ⊆ m.semanticModels := fun model => (h.models model).1

lemma mem_measureNames_iff (name : String) : name ∈ m'.measureNames ↔ name ∈ m.measureNames :=
  mem_flatMap_congr h.models name

lemma mem_aliasedInputs_iff (a : Metric × MeasureInput × String) :
    a ∈ aliasedInputs m' ↔ a ∈ aliasedInputs m :=
  mem_flatMap_congr h.metrics a

/-- The same names are no known elements. -/
lemma unknownNames_eq :
    (KnownElements.ofManifest m').unknownNames = (KnownElements.ofManifest m).unknownNames := by
  have hcontains {k : SemanticModel → List String} (name : String) :
      (m'.semanticModels.flatMap k).contains name =
        (m.semanticModels.flatMap k).contains name :=
    contains_congr (mem_flatMap_congr h.models name)
  funext calls
  simp only [KnownElements.unknownNames, KnownElements.ofManifest, List.contains_cons, hcontains]

/-! ### Lookups -/

variable (hm : m.HasDistinctNames)
include hm

lemma semanticModel?_eq : m'.semanticModel? = m.semanticModel? := by
  funext name
  exact find?_key_congr hm.models h.models name

lemma metric?_eq : m'.metric? = m.metric? := by
  funext name
  exact find?_key_congr hm.metrics h.metrics name

lemma measure?_eq : m'.measure? = m.measure? := by
  funext name
  rw [measure?_eq_find?, measure?_eq_find?]
  exact find?_key_congr hm.nodup_definedMeasures (mem_flatMap_congr h.models) name

/-- Without repetitions the models are the same but for their order. -/
lemma distinctModels_perm : (distinctModels m').Perm (distinctModels m) := by
  rw [hm.distinctModels_eq]
  exact firstByKey_perm hm.models h.models

lemma distinctMetrics_perm :
    (firstByKey Metric.name m'.metrics).Perm (firstByKey Metric.name m.metrics) :=
  (firstByKey_perm hm.metrics h.metrics).trans (.of_eq (firstByKey_eq_self hm.metrics).symm)

lemma mem_additiveElements_iff (a : SemanticModel × AdditiveElement × Context) :
    a ∈ additiveElements m' ↔ a ∈ additiveElements m := by
  simp only [additiveElements, List.mem_append, List.mem_flatMap, List.mem_filterMap,
    h.semanticModel?_eq hm, h.models, h.metrics]

end Manifest.SameContent

namespace Rules

variable {m m' : Manifest} {levels : List Severity}

/-! ### Kinds of rules -/

/-- A rule that raises errors only depends on content if it is clear for the same content. -/
lemma dependsOnContent_of_errors {rule : Manifest → List Issue}
    (herrors : ∀ m, Lacks [.warning, .futureError] (rule m))
    (h : ∀ ⦃m m'⦄, m.SameContent m' → m.HasDistinctNames → IsClear (rule m) → IsClear (rule m')) :
    DependsOnContent rule := by
  intro m m' hsame hm levels hlacks
  rw [lacks_iff_of_errors (herrors _)] at hlacks ⊢
  intro hlevel
  exact h hsame hm (hlacks hlevel)

lemma dependsOnContent_models (f : SemanticModel → List Issue) :
    DependsOnContent fun m => m.semanticModels.flatMap f :=
  fun _ _ hsame _ _ => lacks_flatMap_of_subset hsame.models_subset fun _ _ => id

lemma dependsOnContent_additiveElements
    (f : SemanticModel × AdditiveElement × Context → List Issue) :
    DependsOnContent fun m => (additiveElements m).flatMap f :=
  fun _ _ hsame hm _ => lacks_flatMap_of_subset
    (fun a ha => (hsame.mem_additiveElements_iff hm a).1 ha) fun _ _ => id

/-- A rule about metrics depends on content if what it finds in a metric does. -/
lemma dependsOnContent_metrics {f : Manifest → Metric → List Issue}
    (h : ∀ metric, DependsOnContent (f · metric)) :
    DependsOnContent fun m => m.metrics.flatMap (f m) :=
  fun _ _ hsame hm levels => lacks_flatMap_of_subset hsame.metrics_subset
    fun metric _ => h metric hsame hm levels

lemma dependsOnContent_metricsOfKind (kind : MetricKind) {f : Manifest → Metric → List Issue}
    (h : ∀ metric, DependsOnContent (f · metric)) :
    DependsOnContent fun m => (m.metrics.filter (·.kind == kind)).flatMap (f m) := by
  intro m m' hsame hm levels
  apply lacks_flatMap_of_subset
  · intro metric hmetric
    obtain ⟨hmetric, hkind⟩ := List.mem_filter.1 hmetric
    exact List.mem_filter.2 ⟨hsame.metrics_subset hmetric, hkind⟩
  · intro metric _
    exact h metric hsame hm levels

/-! ### Semantic models -/

lemma nonEmpty_dependsOnContent : DependsOnContent nonEmpty := by
  intro m m' hsame hm levels hlacks
  have hsameIssues : nonEmpty m' = nonEmpty m := by
    rw [nonEmpty, isEmpty_congr_of_mem_iff hsame.models, isEmpty_congr_of_mem_iff hsame.metrics,
      any_congr_of_mem_iff hsame.models, nonEmpty]
  rwa [hsameIssues]

lemma uniqueMeasures_dependsOnContent : DependsOnContent uniqueMeasures := by
  refine dependsOnContent_of_errors (fun m => ?_) fun m m' hsame hm h => ?_
  · simp [uniqueMeasures]
  · rw [isClear_uniqueMeasures] at h ⊢
    have hperm := (hsame.distinctModels_perm hm).flatMap_right fun model => model.measures
    exact (hperm.map _).nodup_iff.2 h

lemma isClear_uniqueModelLabels : IsClear (uniqueModelLabels m) ↔
    ((distinctModels m).filterMap (·.label)).Nodup ∧
      ∀ model ∈ distinctModels m, IsClear (elementLabelIssues model) := by
  rw [← forall_withEarlier_some_iff, ← forall_fst_withEarlier SemanticModel.label, ← forall₂_and,
    uniqueModelLabels, isClear_flatMap]
  refine forall₂_congr fun p _ => ?_
  obtain ⟨model, earlier⟩ := p
  rw [isClear_append]
  refine and_congr_left fun _ => ?_
  unfold modelLabelIssues
  cases hlabel : model.label with
  | none       => simp
  | some label => cases earlier <;> simp

lemma uniqueModelLabels_dependsOnContent : DependsOnContent uniqueModelLabels := by
  refine dependsOnContent_of_errors (fun m => ?_) fun m m' hsame hm h => ?_
  · simp only [uniqueModelLabels, lacks_flatMap, lacks_append]
    rintro ⟨model, earlier⟩ -
    constructor
    · unfold modelLabelIssues
      split <;> simp
    · unfold elementLabelIssues
      rw [lacks_flatMap]
      rintro ⟨⟨label, name, kind⟩, earlier⟩ -
      cases earlier <;> simp
  · rw [isClear_uniqueModelLabels] at h ⊢
    have hperm := hsame.distinctModels_perm hm
    refine ⟨(hperm.filterMap _).nodup_iff.2 h.1, fun model hmodel => ?_⟩
    exact h.2 model (hperm.mem_iff.1 hmodel)

lemma consistentElements_dependsOnContent : DependsOnContent consistentElements := by
  intro m m' hsame hm levels
  have hperm := hsame.distinctModels_perm hm
  have hkinds (e : String × ElementKind) : ((distinctModels m').flatMap (·.elements)).contains e =
      ((distinctModels m).flatMap (·.elements)).contains e :=
    contains_congr (mem_flatMap_congr (fun _ => hperm.mem_iff) e)
  simp only [consistentElements, hkinds]
  exact lacks_flatMap_of_subset hperm.subset fun _ _ => id

lemma uniqueDimensionAddresses_dependsOnContent : DependsOnContent uniqueDimensionAddresses := by
  refine dependsOnContent_of_errors (fun m => ?_) fun m m' hsame hm h => ?_
  · rw [uniqueDimensionAddresses, lacks_flatMap]
    rintro ⟨⟨primary, model, d⟩, earlier⟩ -
    cases earlier <;> simp
  · rw [Manifest.isClear_uniqueDimensionAddresses] at h ⊢
    exact ((hsame.distinctModels_perm hm).flatMap_right _).nodup_iff.2 h

lemma aggTimeDimensions_dependsOnContent : DependsOnContent aggTimeDimensions := by
  intro m m' hsame hm levels
  simp only [aggTimeDimensions, lacks_append, hsame.semanticModel?_eq hm]
  refine And.imp ?_ ?_
  · exact lacks_flatMap_of_subset hsame.models_subset fun _ _ => id
  · exact lacks_flatMap_of_subset hsame.metrics_subset fun _ _ => id

/-! ### Metrics -/

lemma metricParams_dependsOnContent : DependsOnContent metricParams := by
  apply dependsOnContent_metrics
  intro metric m m' hsame hm levels
  simp only [metricParamIssues, hsame.semanticModel?_eq hm]
  exact id

lemma metricMeasures_dependsOnContent : DependsOnContent metricMeasures := by
  apply dependsOnContent_metrics
  intro metric m m' hsame hm levels
  simp only [hsame.measure?_eq hm]
  exact id

lemma measureAliases_dependsOnContent : DependsOnContent measureAliases := by
  apply dependsOnContent_of_errors
  · intro m
    rw [measureAliases, lacks_flatMap]
    rintro ⟨⟨metric, input, name⟩, earlier⟩ -
    simp only [lacks_append, nameIssues]
    refine ⟨⟨by simp, ?_⟩, ?_⟩
    · split <;> simp
    · cases earlier <;> simp
  · intro m m' hsame hm h
    rw [Manifest.isClear_measureAliases_iff] at h ⊢
    simpa only [hsame.mem_aliasedInputs_iff, hsame.mem_measureNames_iff] using h

lemma windowIssues_congr (hsame : m.SameContent m') (context : Context) :
    windowIssues context m'.customGranularityNames =
      windowIssues context m.customGranularityNames := by
  funext window
  unfold windowIssues
  rw [Window.parse_congr hsame.granularities]

lemma cumulativeMetrics_dependsOnContent : DependsOnContent cumulativeMetrics := by
  apply dependsOnContent_metricsOfKind
  intro metric m m' hsame hm levels
  simp only [cumulativeIssues, lacks_append, windowIssues_congr hsame]
  -- the granularities to choose from are only listed in the message
  apply And.imp_right
  cases cumulativeGrain? metric.params with
  | none   => exact id
  | some g => simp [isKnownGranularity_congr hsame.granularities]

lemma derivedInputIssues_dependsOnContent (metric : Metric) (input : MetricInput)
    (taken : List String) :
    DependsOnContent fun m => derivedInputIssues m metric input taken := by
  intro m m' hsame hm levels
  simp only [derivedInputIssues, lacks_append, hsame.metric?_eq hm,
    Window.parse_congr hsame.granularities]
  apply And.imp_right
  cases input.offsetToGrain with
  | none   => exact id
  | some g => simp [isKnownGranularity_congr hsame.granularities]

lemma derivedInputsIssues_dependsOnContent (metric : Metric) (taken : List String)
    (inputs : List MetricInput) :
    DependsOnContent fun m => derivedInputsIssues m metric taken inputs := by
  intro m m' hsame hm levels
  induction inputs generalizing taken with
  | nil => exact id
  | cons input inputs ih =>
    simp only [derivedInputsIssues, lacks_append]
    exact And.imp (derivedInputIssues_dependsOnContent metric input taken hsame hm levels) (ih _)

lemma derivedMetrics_dependsOnContent : DependsOnContent derivedMetrics := by
  apply dependsOnContent_metricsOfKind
  intro metric m m' hsame hm levels
  simp only [derivedIssues, lacks_append]
  apply And.imp_left
  apply And.imp_right
  exact derivedInputsIssues_dependsOnContent metric _ _ hsame hm levels

lemma conversionMetrics_dependsOnContent : DependsOnContent conversionMetrics := by
  apply dependsOnContent_metricsOfKind
  intro metric m m' hsame hm levels
  cases metric.params.conversion with
  | none   => exact id
  | some p =>
    simp only [conversionIssues, countingIssues, hsame.measure?_eq hm, windowIssues_congr hsame]
    exact id

lemma uniqueMetricLabels_dependsOnContent : DependsOnContent uniqueMetricLabels := by
  apply dependsOnContent_of_errors
  · intro m
    rw [uniqueMetricLabels, lacks_flatMap]
    rintro ⟨metric, earlier⟩ -
    dsimp only
    split <;> simp
  · intro m m' hsame hm h
    rw [isClear_uniqueMetricLabels_iff] at h ⊢
    exact ((hsame.distinctMetrics_perm hm).filterMap _).nodup_iff.2 h

lemma parseableFilters_dependsOnContent : DependsOnContent parseableFilters := by
  apply dependsOnContent_metrics
  intro metric m m' hsame hm levels
  apply lacks_flatMap_of_subset (List.Subset.refl _)
  rintro ⟨activity, template⟩ _
  simp only [metricTemplateIssues, Filter.parseTemplate_congr hsame.granularities]
  cases Filter.parseTemplate m.customGranularityNames template with
  | error e  => exact id
  | ok calls =>
    apply lacks_flatMap_of_subset (List.Subset.refl _)
    intro call _
    cases call.granularity with
    | none   => exact id
    | some g => simp [isKnownGranularity_congr hsame.granularities]

/-! ### Saved queries -/

/-- What is found in a query depends on which names are unknown, not on how the known ones are
listed. -/
lemma savedQueryIssues_congr (hsame : m.SameContent m') (hm : m.HasDistinctNames)
    (q : SavedQuery) : savedQueryIssues m' q = savedQueryIssues m q := by
  have hgroupable :
      isGroupable (KnownElements.ofManifest m') = isGroupable (KnownElements.ofManifest m) := by
    funext calls
    rw [isGroupable, hsame.unknownNames_eq, isGroupable]
  have hcalls (item : String) :
      groupByCalls? (.ofManifest m') m'.customGranularityNames item =
        groupByCalls? (.ofManifest m) m.customGranularityNames item := by
    unfold groupByCalls?
    rw [hgroupable, Filter.parseGroupBy_congr hsame.granularities]
  have hselected (groupBy : List CallSets) (item : String) :
      ordersBySelected m'.customGranularityNames q.params.metrics groupBy item =
        ordersBySelected m.customGranularityNames q.params.metrics groupBy item := by
    unfold ordersBySelected
    rw [Filter.parseGroupBy_congr hsame.granularities]
  have hgroupBy (item : String) :
      groupByIssues (.ofManifest m') m'.customGranularityNames q item =
        groupByIssues (.ofManifest m) m.customGranularityNames q item := by
    unfold groupByIssues
    rw [hgroupable, Filter.parseGroupBy_congr hsame.granularities,
      isKnownGranularity_congr hsame.granularities]
  have htemplate (template : String) :
      queryTemplateIssues m' (.ofManifest m') m'.customGranularityNames q template =
        queryTemplateIssues m (.ofManifest m) m.customGranularityNames q template := by
    unfold queryTemplateIssues
    rw [hsame.unknownNames_eq, hsame.metric?_eq hm, Filter.parseTemplate_congr hsame.granularities]
  simp only [savedQueryIssues, queryMetricIssues, orderByIssues, hsame.metric?_eq hm,
    funext hgroupBy, funext htemplate, funext hcalls, hselected]

lemma savedQueries_dependsOnContent : DependsOnContent Rules.savedQueries := by
  intro m m' hsame hm levels
  apply lacks_flatMap_of_subset
  · intro query
    exact (hsame.queries query).1
  · intro query _
    rw [savedQueryIssues_congr hsame hm]
    exact id

/-! ### All rules -/

/-- The rules that look at repetitions or at the order of objects as well. -/
def orderedRuleNames : List String := ["UniqueAndValidNameRule", "DimensionConsistencyRule"]

lemma filter_orderedRuleNames : Rule.defaults.filter (orderedRuleNames.contains ·.name) =
    [.ofIssues "UniqueAndValidNameRule" uniqueAndValidNames,
      .ofIssues "DimensionConsistencyRule" consistentDimensions] := by
  simp [Rule.defaults, Rule.ofIssues, orderedRuleNames]

/-- All other default rules depend on content. -/
lemma dependsOnContent {rule : Rule} (hrule : rule ∈ Rule.defaults)
    (hname : rule.name ∉ orderedRuleNames) : DependsOnContent rule.run := by
  revert rule
  simp only [Rule.defaults, Rule.ofIssues, List.mem_cons, List.not_mem_nil, or_false,
    orderedRuleNames, not_or, and_imp, forall_eq_or_imp, String.reduceEq, not_false_eq_true,
    forall_const, not_true_eq_false, IsEmpty.forall_iff, forall_eq, true_and]
  exact ⟨nonEmpty_dependsOnContent, uniqueMeasures_dependsOnContent,
    uniqueModelLabels_dependsOnContent, consistentElements_dependsOnContent,
    dependsOnContent_models _, uniqueDimensionAddresses_dependsOnContent,
    dependsOnContent_models _, dependsOnContent_models _, aggTimeDimensions_dependsOnContent,
    dependsOnContent_models _, dependsOnContent_additiveElements _,
    dependsOnContent_additiveElements _, metricParams_dependsOnContent,
    metricMeasures_dependsOnContent, measureAliases_dependsOnContent,
    cumulativeMetrics_dependsOnContent, derivedMetrics_dependsOnContent,
    conversionMetrics_dependsOnContent, uniqueMetricLabels_dependsOnContent,
    dependsOnContent_models _, parseableFilters_dependsOnContent, savedQueries_dependsOnContent⟩

/-- Levels that are lacking in a manifest are lacking in those of the same content, if the two
ordered rules find no issue of these levels. -/
lemma lacks_validate (hsame : m.SameContent m') (hm : m.HasDistinctNames)
    (h : Lacks levels m.validate) (hnames : Lacks levels (uniqueAndValidNames m'))
    (hdimensions : Lacks levels (consistentDimensions m')) : Lacks levels m'.validate := by
  simp only [Manifest.validate, Validator.validate, lacks_flatMap] at h ⊢
  intro rule hrule
  by_cases hname : rule.name ∈ orderedRuleNames
  · have hordered : rule ∈ Rule.defaults.filter (orderedRuleNames.contains ·.name) :=
      List.mem_filter.2 ⟨hrule, List.contains_iff_mem.2 hname⟩
    rw [filter_orderedRuleNames, List.mem_pair] at hordered
    rcases hordered with rfl | rfl
    · exact hnames
    · exact hdimensions
  · exact dependsOnContent hrule hname hsame hm levels (h rule hrule)

/-- Where nothing is found in a manifest, only the two ordered rules can find anything in those of
the same content. -/
lemma validate_eq_append (hsame : m.SameContent m') (hm : m.HasDistinctNames)
    (h : m.validate = []) :
    m'.validate = uniqueAndValidNames m' ++ consistentDimensions m' := by
  have hnone (rule : Rule) (hrule : rule ∈ Rule.defaults) (hname : rule.name ∉ orderedRuleNames) :
      rule.run m' = [] := by
    have hrun : rule.run m = [] := List.flatMap_eq_nil_iff.1 h rule hrule
    rw [eq_nil_iff_lacks] at hrun ⊢
    exact dependsOnContent hrule hname hsame hm _ hrun
  have hordered : m'.validate =
      (Rule.defaults.filter (orderedRuleNames.contains ·.name)).flatMap (·.run m') := by
    refine (flatMap_filter fun rule hrule hname => ?_).symm
    exact hnone rule hrule (by simpa using hname)
  rw [hordered, filter_orderedRuleNames, List.flatMap_cons, List.flatMap_singleton]
  rfl

end Rules

end SemanticLayer

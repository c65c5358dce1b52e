import SemanticLayer.Proofs.Validation.Addresses
import SemanticLayer.Proofs.Validation.MetricReferences

/-!
# Group-by items

A saved query groups by elements, one for each of its items. In a valid manifest some semantic model
has an element of that kind and name. Elements are known by their names alone: through which
entities an item reaches its element, and whether the model of the element has these entities, is
not looked at.
-/

namespace SemanticLayer

open Issues Rules

/-- The granularities that calls name. -/
def CallSets.granularities (s : CallSets) : List String :=
  s.timeDimensions.filterMap (·.granularity)

lemma CallSets.forall_mem_granularities {s : CallSets} {p : String → Prop} :
    (∀ g ∈ s.granularities, p g) ↔ ∀ call ∈ s.timeDimensions, ∀ g ∈ call.granularity, p g := by
  simp only [granularities, List.mem_filterMap, forall_exists_index, and_imp]
  exact ⟨fun h call hcall g hg => h g call hcall hg, fun h g call hcall hg => h call hcall g hg⟩

namespace Manifest

variable {m : Manifest} {calls : CallSets} {q : SavedQuery} {item : String}

/-- For each call some semantic model has an element of that kind and name. Metric time belongs to
no model. -/
structure HasElements (m : Manifest) (calls : CallSets) : Prop where
  dimensions     : ∀ call ∈ calls.dimensions,
    ∃ model ∈ m.semanticModels, ∃ d ∈ model.dimensions, d.name = call.dimension
  timeDimensions : ∀ call ∈ calls.timeDimensions, call.timeDimension ≠ metricTimeName →
    ∃ model ∈ m.semanticModels, ∃ d ∈ model.dimensions, d.kind = .time ∧
      d.name = call.timeDimension
  entities       : ∀ call ∈ calls.entities,
    ∃ model ∈ m.semanticModels, ∃ e ∈ model.entities, e.name = call.entity

lemma mem_dimensions_ofManifest {name : String} :
    name ∈ (KnownElements.ofManifest m).dimensions ↔
      ∃ model ∈ m.semanticModels, ∃ d ∈ model.dimensions, d.name = name := by
  simp [KnownElements.ofManifest]

lemma mem_timeDimensions_ofManifest {name : String} :
    name ∈ (KnownElements.ofManifest m).timeDimensions ↔ (name ≠ metricTimeName →
      ∃ model ∈ m.semanticModels, ∃ d ∈ model.dimensions, d.kind = .time ∧ d.name = name) := by
  simp [KnownElements.ofManifest, and_assoc, or_iff_not_imp_left]

lemma mem_entities_ofManifest {name : String} :
    name ∈ (KnownElements.ofManifest m).entities ↔
      ∃ model ∈ m.semanticModels, ∃ e ∈ model.entities, e.name = name := by
  simp [KnownElements.ofManifest]

lemma filter_unknown_eq_nil_iff {names known : List String} :
    names.filter (!known.contains ·) = [] ↔ ∀ name ∈ names, name ∈ known := by
  simp [List.filter_eq_nil_iff]

/-- Known elements are those that some semantic model has. -/
lemma unknownNames_ofManifest_eq_nil_iff :
    (KnownElements.ofManifest m).unknownNames calls = [] ↔ m.HasElements calls := by
  rw [KnownElements.unknownNames, List.append_eq_nil_iff, List.append_eq_nil_iff,
    filter_unknown_eq_nil_iff, filter_unknown_eq_nil_iff, filter_unknown_eq_nil_iff]
  simp only [List.forall_mem_map, mem_dimensions_ofManifest, mem_timeDimensions_ofManifest,
    mem_entities_ofManifest]
  constructor
  · rintro ⟨⟨hdimensions, htimes⟩, hentities⟩
    exact ⟨hdimensions, htimes, hentities⟩
  · intro h
    exact ⟨⟨h.dimensions, h.timeDimensions⟩, h.entities⟩

/-- There is one call, not of a metric, some semantic model has the element that it calls, and its
granularity is known. -/
structure CanGroupBy (m : Manifest) (calls : CallSets) : Prop where
  single        : calls.size = 1
  noMetric      : calls.metrics = []
  elements      : m.HasElements calls
  granularities : ∀ g ∈ calls.granularities, isKnownGranularity m.customGranularityNames g

lemma canGroupBy_iff : m.CanGroupBy calls ↔ isGroupable (KnownElements.ofManifest m) calls ∧
    ∀ g ∈ calls.granularities, isKnownGranularity m.customGranularityNames g := by
  simp only [isGroupable, Bool.and_eq_true, beq_iff_eq, List.isEmpty_iff,
    unknownNames_ofManifest_eq_nil_iff]
  constructor
  · intro h
    exact ⟨⟨⟨h.single, h.noMetric⟩, h.elements⟩, h.granularities⟩
  · rintro ⟨⟨⟨hsingle, hmetric⟩, helements⟩, hgranularities⟩
    exact ⟨hsingle, hmetric, helements, hgranularities⟩

/-- A group-by item passes if it can be read and grouped by. -/
lemma isClear_groupByIssues_iff :
    IsClear (groupByIssues (KnownElements.ofManifest m) m.customGranularityNames q item) ↔
      ∃ calls, Filter.parseGroupBy m.customGranularityNames item = .ok calls ∧
        m.CanGroupBy calls := by
  unfold groupByIssues
  cases Filter.parseGroupBy m.customGranularityNames item with
  | error e => simp [Issue.interrupted]
  | ok calls =>
    simp only [Except.ok.injEq, exists_eq_left', canGroupBy_iff,
      CallSets.forall_mem_granularities]
    by_cases hgroupable : isGroupable (KnownElements.ofManifest m) calls
    · simp only [hgroupable, Bool.not_true, Bool.false_eq_true, if_false, isClear_flatMap, true_and]
      refine forall₂_congr fun call _ => ?_
      cases call.granularity <;> simp
    · simp [hgroupable]

/-- Every group-by item of a valid manifest calls a single element, which some semantic model has,
and names no granularity that is not known. -/
theorem canGroupBy_of_valid (h : hasBlocking m.validate = false) :
    ∀ q ∈ m.savedQueries, ∀ item ∈ q.params.groupBy,
      ∃ calls, Filter.parseGroupBy m.customGranularityNames item = .ok calls ∧
        m.CanGroupBy calls := by
  intro q hq item hitem
  have hclear := isClear_flatMap.1 (hasBlocking_validate_eq_false_iff.1 h).savedQueries q hq
  simp only [savedQueryIssues, isClear_append] at hclear
  obtain ⟨⟨⟨⟨⟨-, hgroupBy⟩, -⟩, -⟩, -⟩, -⟩ := hclear
  exact isClear_groupByIssues_iff.1 (isClear_flatMap.1 hgroupBy item hitem)

/-- Visits of pages, accounts, and a saved query that is grouped by `item`. -/
def visitsGrouped (item : String) : Manifest where
  semanticModels := [
    { name          := "visits"
      description   := none
      label         := none
      nodeRelation  := ⟨"visits", "main", none, none⟩
      defaults      := none
      primaryEntity := none
      entities      := [⟨"visit", .primary, none, none, none, none⟩]
      dimensions    := [⟨"ds", .time, none, false, some ⟨some .day, true, none⟩, none, none⟩,
        ⟨"page", .categorical, none, false, none, none, none⟩]
      measures      := [⟨"seen", .sum, none, true, some "1", none, none, none, none⟩]
      metadata      := none },
    { name          := "accounts"
      description   := none
      label         := none
      nodeRelation  := ⟨"accounts", "main", none, none⟩
      defaults      := none
      primaryEntity := none
      entities      := [⟨"account", .primary, none, none, none, none⟩]
      dimensions    := [⟨"ds", .time, none, false, some ⟨some .day, true, none⟩, none, none⟩]
      measures      := []
      metadata      := none }]
  metrics           := []
  savedQueries      :=
    [⟨"daily", { QueryParams.empty with groupBy := [item] }, none, none, [], none⟩]
  configuration     := ⟨[]⟩
  interfacesVersion := defaultVersion

/-- The page, reached through an entity. -/
def pageOf (entity : String) : String := "Dimension('" ++ dimensionAddress entity "page" ++ "')"

section Pages

variable {entity : String}

lemma isValidName_page : IsValidName "page" := by
  constructor <;> decide +kernel

lemma isValidName_of_mem (h : entity ∈ ["visit", "account"]) : IsValidName entity := by
  obtain rfl | rfl : entity = "visit" ∨ entity = "account" := by simpa using h
  all_goals constructor <;> decide +kernel

lemma parseGroupBy_pageOf (h : entity ∈ ["visit", "account"]) :
    Filter.parseGroupBy [] (pageOf entity) = .ok (.ofDimension ⟨[entity], "page"⟩) := by
  have htemplate : Filter.groupByTemplate (pageOf entity) =
      Filter.addressTemplate (dimensionAddress entity "page") := by
    obtain rfl | rfl : entity = "visit" ∨ entity = "account" := by simpa using h
    all_goals decide +kernel
  rw [Filter.parseGroupBy, htemplate,
    Filter.parseTemplate_addressTemplate (isValidName_of_mem h) isValidName_page]
  rfl

/-- Nothing is asked of the entity. -/
lemma canGroupBy_page (item : String) :
    (visitsGrouped item).CanGroupBy (.ofDimension ⟨[entity], "page"⟩) := by
  refine ⟨rfl, rfl, ⟨?_, ?_, ?_⟩, ?_⟩
  · simp [CallSets.ofDimension, visitsGrouped]
  · simp [CallSets.ofDimension]
  · simp [CallSets.ofDimension]
  · simp [CallSets.ofDimension, CallSets.granularities]

lemma isClear_savedQueries_visitsGrouped (h : entity ∈ ["visit", "account"]) :
    IsClear (Rules.savedQueries (visitsGrouped (pageOf entity))) := by
  refine isClear_flatMap.2 (List.forall_mem_singleton.2 ?_)
  simp only [savedQueryIssues, isClear_append]
  refine ⟨⟨⟨⟨⟨isClear_nil, ?_⟩, isClear_nil⟩, isClear_nil⟩, isClear_nil⟩, isClear_nil⟩
  refine isClear_flatMap.2 (List.forall_mem_singleton.2 ?_)
  exact isClear_groupByIssues_iff.2 ⟨_, parseGroupBy_pageOf h, canGroupBy_page _⟩

lemma hasBlocking_visitsGrouped (h : entity ∈ ["visit", "account"]) :
    hasBlocking (visitsGrouped (pageOf entity)).validate = false := by
  have hqueries := isClear_savedQueries_visitsGrouped h
  rw [hasBlocking_validate_eq_false_iff]
  obtain rfl | rfl : entity = "visit" ∨ entity = "account" := by simpa using h
  · constructor
    case savedQueries => exact hqueries
    all_goals decide +kernel
  · constructor
    case savedQueries => exact hqueries
    all_goals decide +kernel

end Pages

/-- A query that is grouped by pages of visits. -/
theorem canGroupBy_visitsGrouped_visit :
    hasBlocking (visitsGrouped (pageOf "visit")).validate = false ∧
    pageOf "visit" = "Dimension('visit__page')" ∧
    ∃ calls, Filter.parseGroupBy [] (pageOf "visit") = .ok calls ∧
      (visitsGrouped (pageOf "visit")).CanGroupBy calls := by
  have hmem : "visit" ∈ ["visit", "account"] := List.mem_cons_self
  have hvalid := hasBlocking_visitsGrouped hmem
  exact ⟨hvalid, by decide +kernel,
    canGroupBy_of_valid hvalid _ List.mem_cons_self _ List.mem_cons_self⟩

/-- A valid manifest with a query that is grouped by pages of accounts, while the semantic model of
accounts has no page. -/
theorem parseGroupBy_visitsGrouped_account :
    hasBlocking (visitsGrouped "Dimension('account__page')").validate = false ∧
    ∃ q ∈ (visitsGrouped "Dimension('account__page')").savedQueries,
      "Dimension('account__page')" ∈ q.params.groupBy ∧
      Filter.parseGroupBy (visitsGrouped "Dimension('account__page')").customGranularityNames
        "Dimension('account__page')" = .ok (.ofDimension ⟨["account"], "page"⟩) ∧
      ∀ model ∈ (visitsGrouped "Dimension('account__page')").semanticModels,
        "account" ∈ model.entities.map (·.name) ∨ model.primaryEntity = some "account" →
          "page" ∉ model.dimensions.map (·.name) := by
  have hitem : "Dimension('account__page')" = pageOf "account" := by decide +kernel
  have hmem : "account" ∈ ["visit", "account"] := by decide
  refine ⟨hitem ▸ hasBlocking_visitsGrouped hmem, _, List.mem_cons_self, List.mem_cons_self,
    hitem ▸ parseGroupBy_pageOf hmem, ?_⟩
  decide +kernel

end Manifest

end SemanticLayer

import SemanticLayer.Proofs.Filter.WellFormed
import SemanticLayer.Proofs.Validation.FilterFaults
import SemanticLayer.Proofs.Validation.GroupBy

/-!
# Granularities that calls name

A template may name any granularity, as long as it looks like one: whether there is such a
granularity is left to the rules. Where no rule finds anything, filters of metrics and group-by
items name granularities that are known. Filters of saved queries may name others, since no rule
looks at the granularities there.
-/

namespace SemanticLayer

open Issues Rules

/-! ### Granularities of calls -/

namespace DunderedName

variable {custom : List String} {g : String}

lemma namesGranularity_of_ofReversed {segments : List String}
    (h : (ofReversed custom segments).granularity = some g) : namesGranularity custom g := by
  match segments with
  | [] => simp [ofReversed] at h
  | [element] => simp [ofReversed] at h
  | last :: element :: links =>
    by_cases hlast : namesGranularity custom last
    · obtain rfl : last = g := by simpa [ofReversed, hlast] using h
      exact hlast
    · simp [ofReversed, hlast] at h

/-- A custom granularity is the lower case of all its spellings. -/
lemma lower_eq_of_eqIgnoringAsciiCase {name : String} (hname : isGranularityIdentifier name)
    (h : Text.eqIgnoringAsciiCase name g) : Text.lower g = name := by
  have hsnake {c : Char} (hc : c ∈ name.toList) : isSnakeCharacter c :=
    isSnakeCharacter_of_isGranularityIdentifier hname hc
  have hself : name.toList.map Char.toLower = name.toList :=
    map_eq_self fun c hc => toLower_of_isSnakeCharacter (hsnake hc)
  have hlowered : g.toList.map Char.toLower = name.toList := by
    rw [Text.eqIgnoringAsciiCase, beq_iff_eq, hself] at h
    exact h.symm
  have hascii : ∀ c ∈ g.toList, c.toNat < 0x80 := by
    intro c hc
    have hlower : c.toLower.toNat < 0x80 :=
      (toNat_of_isSnakeCharacter (hsnake (hlowered ▸ List.mem_map_of_mem hc))).1
    by_contra hlarge
    rw [Text.toLower_eq_self (by omega)] at hlower
    exact hlarge hlower
  rw [Text.lower_eq_map_toLower hascii, hlowered, String.ofList_toList]

/-- A granularity that is recognized behind a name is known. -/
lemma isKnownGranularity_of_namesGranularity (h : namesGranularity custom g)
    (hcustom : ∀ name ∈ custom, isGranularityIdentifier name) :
    isKnownGranularity custom (Text.lower g) := by
  simp only [isKnownGranularity, Text.lower_lower]
  rw [namesGranularity, Bool.or_eq_true] at h
  rw [Bool.or_eq_true]
  obtain hstandard | hany := h
  · obtain ⟨granularity, hgranularity⟩ := Option.isSome_iff_exists.1 hstandard
    obtain rfl := Vocabulary.name_of_ofName? hgranularity
    have hlower : Text.lower (Vocabulary.name granularity) = Vocabulary.name granularity := by
      cases granularity <;> decide +kernel
    rw [hlower]
    exact .inl hstandard
  · obtain ⟨name, hname, hspelled⟩ := List.any_eq_true.1 hany
    rw [lower_eq_of_eqIgnoringAsciiCase (hcustom name hname) hspelled]
    exact .inr (List.any_eq_true.2 ⟨name, hname, beq_self_eq_true _⟩)

end DunderedName

/-- A granularity in lower case, where a call gives it behind the name or apart from it. -/
inductive NamesGranularity (custom : List String) : String → Prop
  | suffix {g : String} (h : DunderedName.namesGranularity custom g) :
      NamesGranularity custom (Text.lower g)
  | argument {g : String} (h : Filter.isGranularityArgument g) :
      NamesGranularity custom (Text.lower g)

namespace CallSets

lemma granularities_append (a b : CallSets) :
    (a ++ b).granularities = a.granularities ++ b.granularities :=
  List.filterMap_append

end CallSets

namespace Filter

variable {custom : List String} {calls : CallSets}

lemma namesGranularity_of_timeDimensionCall {name : String} {explicit part : Option String}
    {path : List String} {call : TimeDimensionCall}
    (h : timeDimensionCall custom name explicit path part = .ok call) :
    ∀ g ∈ call.granularity, NamesGranularity custom g := by
  obtain ⟨parts, hparts, h⟩ := bind_eq_ok_iff.1 h
  obtain ⟨⟨⟩, -, h⟩ := bind_eq_ok_iff.1 h
  obtain ⟨⟨⟩, hcheck, h⟩ := bind_eq_ok_iff.1 h
  obtain ⟨part', -, h⟩ := bind_eq_ok_iff.1 h
  obtain rfl := Except.ok.inj h
  intro g hg
  obtain ⟨g, hgiven, rfl⟩ := Option.map_eq_some_iff.1 hg
  obtain hsuffix | ⟨hnone, rfl⟩ := Option.or_eq_some_iff.1 hgiven
  · unfold elementName at hparts
    split_ifs at hparts
    obtain rfl := Except.ok.inj hparts
    exact .suffix (DunderedName.namesGranularity_of_ofReversed hsuffix)
  · unfold checkGranularities at hcheck
    simp only at hcheck
    split_ifs at hcheck with hargument
    exact .argument (by simpa using hargument)

lemma namesGranularity_of_call {e : Expression} (h : e.call custom = .ok calls) :
    ∀ g ∈ calls.granularities, NamesGranularity custom g := by
  obtain ⟨name, path, c, -, rfl⟩ | ⟨name, granularity, path, part, c, hc, rfl⟩ |
    ⟨name, path, c, -, rfl⟩ | ⟨name, groupBy, c, -, rfl⟩ := exists_of_call h
  · exact List.forall_mem_nil _
  · intro g hg
    obtain ⟨call, hcall, hgranularity⟩ := List.mem_filterMap.1 hg
    obtain rfl := List.mem_singleton.1 hcall
    exact namesGranularity_of_timeDimensionCall hc g hgranularity
  · exact List.forall_mem_nil _
  · exact List.forall_mem_nil _

lemma namesGranularity_of_contentCalls {contents : List (List Char)}
    (h : contentCalls custom contents = .ok calls) :
    ∀ g ∈ calls.granularities, NamesGranularity custom g := by
  induction contents generalizing calls with
  | nil =>
    obtain rfl : CallSets.empty = calls := by simpa [contentCalls] using h
    exact List.forall_mem_nil _
  | cons content contents ih =>
    obtain ⟨first, hfirst, h⟩ := bind_eq_ok_iff.1 h
    obtain ⟨rest, hrest, h⟩ := bind_eq_ok_iff.1 h
    obtain rfl := Except.ok.inj h
    obtain ⟨ts, -, hfirst⟩ := bind_eq_ok_iff.1 hfirst
    obtain ⟨e, -, hcall⟩ := bind_eq_ok_iff.1 hfirst
    rw [CallSets.granularities_append, List.forall_mem_append]
    exact ⟨namesGranularity_of_call hcall, ih hrest⟩

lemma namesGranularity_of_parseTemplate {template : String}
    (h : parseTemplate custom template = .ok calls) :
    ∀ g ∈ calls.granularities, NamesGranularity custom g := by
  obtain ⟨contents, -, hcalls⟩ := bind_eq_ok_iff.1 (parseTemplate_eq_ok_iff.1 h)
  exact namesGranularity_of_contentCalls hcalls

end Filter

/-! ### What the rules look at -/

namespace Manifest

variable {m : Manifest}

lemma run_eq_nil_of_validate (h : m.validate = []) {r : Rule} (hr : r ∈ Rule.defaults) :
    r.run m = [] :=
  List.flatMap_eq_nil_iff.1 h r hr

lemma hasBlocking_of_validate (h : m.validate = []) : hasBlocking m.validate = false := by
  rw [h]
  rfl

/-- The calls can be read, and they name granularities that are known. -/
def KnowsGranularities (m : Manifest) (parsed : Except FilterError CallSets) : Prop :=
  ∃ calls, parsed = .ok calls ∧
    ∀ g ∈ calls.granularities, isKnownGranularity m.customGranularityNames g

lemma metricTemplateIssues_eq_nil_iff {metric : Metric} {activity template : String} :
    metricTemplateIssues m.customGranularityNames metric activity template = [] ↔
      m.KnowsGranularities (Filter.parseTemplate m.customGranularityNames template) := by
  unfold metricTemplateIssues KnowsGranularities
  cases Filter.parseTemplate m.customGranularityNames template with
  | error e => simp
  | ok calls =>
    simp only [Except.ok.injEq, exists_eq_left', List.flatMap_eq_nil_iff,
      CallSets.forall_mem_granularities]
    refine forall₂_congr fun call _ => ?_
    cases call.granularity <;> simp

/-- No template in a filter of a metric passes that names an unknown granularity. -/
lemma parseableFilters_eq_nil_iff : parseableFilters m = [] ↔
    ∀ metric ∈ m.metrics, ∀ template ∈ metric.filterTemplates,
      m.KnowsGranularities (Filter.parseTemplate m.customGranularityNames template) := by
  simp only [parseableFilters, List.flatMap_eq_nil_iff, ← map_snd_metricTemplates,
    List.forall_mem_map, metricTemplateIssues_eq_nil_iff]

/-- Where nothing is found, filters of metrics and group-by items name granularities that are known.
Filters of saved queries can be read; a granularity that is unknown there was given apart from the
name of its time dimension, and it looks like one. -/
theorem knowsGranularities_of_validate (h : m.validate = []) :
    (∀ metric ∈ m.metrics, ∀ template ∈ metric.filterTemplates,
      m.KnowsGranularities (Filter.parseTemplate m.customGranularityNames template)) ∧
    ∀ q ∈ m.savedQueries,
      (∀ item ∈ q.params.groupBy,
        m.KnowsGranularities (Filter.parseGroupBy m.customGranularityNames item)) ∧
      ∀ template ∈ queryTemplates q, ∃ calls,
        Filter.parseTemplate m.customGranularityNames template = .ok calls ∧
        ∀ g ∈ calls.granularities, isKnownGranularity m.customGranularityNames g ∨
          ∃ argument, Filter.isGranularityArgument argument ∧ g = Text.lower argument := by
  have hblocking := hasBlocking_of_validate h
  have hvalid := hasBlocking_validate_eq_false_iff.1 hblocking
  have hfilters : parseableFilters m = [] := by
    have hrule : Rule.ofIssues "WhereFiltersAreParseableRule" parseableFilters ∈ Rule.defaults := by
      simp [Rule.defaults]
    exact run_eq_nil_of_validate h hrule
  refine ⟨parseableFilters_eq_nil_iff.1 hfilters, fun q hq => ⟨fun item hitem => ?_, ?_⟩⟩
  · obtain ⟨calls, hcalls, hgroupBy⟩ := canGroupBy_of_valid hblocking q hq item hitem
    exact ⟨calls, hcalls, hgroupBy.granularities⟩
  · intro template htemplate
    obtain ⟨calls, hcalls, -⟩ :=
      (resolvesQuery_of_isClear hvalid.savedQueries hq).filters template htemplate
    have hcustom := (hasValidNames_iff.2 hvalid.uniqueAndValidNames).granularities
    refine ⟨calls, hcalls, fun g hg => ?_⟩
    cases Filter.namesGranularity_of_parseTemplate hcalls g hg with
    | suffix hsuffix =>
      refine .inl (DunderedName.isKnownGranularity_of_namesGranularity hsuffix fun name hname => ?_)
      exact isGranularityIdentifier_of_mem hcustom hname
    | argument hargument => exact .inr ⟨_, hargument, rfl⟩

/-- A filter by metric time of a granularity. -/
def timeFilter (grain : String) : String :=
  (Filter.WrittenCall.timeDimension "metric_time" (some grain) none none).template '\''

/-- Visits that were seen by week, and a saved query of them that is grouped by day and filtered by
`grain`. -/
def visitsTimed (grain : String) : Manifest where
  semanticModels := [{
    name          := "visits"
    description   := none
    label         := none
    nodeRelation  := ⟨"visits", "main", none, none⟩
    defaults      := none
    primaryEntity := none
    entities      := [⟨"visit", .primary, none, none, none, none⟩]
    dimensions    := [⟨"ds", .time, none, false, some ⟨some .day, true, none⟩, none, none⟩]
    measures      := [⟨"views", .sum, none, false, some "1", none, none, none, none⟩]
    metadata      := none }]
  metrics := [⟨"seen", .simple, { MetricParams.empty with measure := some (.ofName "views") },
    some ⟨[timeFilter "week"]⟩, none, none, none⟩]
  savedQueries := [⟨"daily", { QueryParams.empty with
    metrics := ["seen"], groupBy := [timeFilter "day"], filter := some ⟨[timeFilter grain]⟩ },
    none, none, [], none⟩]
  configuration     := ⟨[]⟩
  interfacesVersion := defaultVersion

section Grains

variable {grain : String}

lemma parseTemplate_timeFilter (h : grain ∈ ["day", "week", "fortnight"]) :
    Filter.parseTemplate [] (timeFilter grain) =
      .ok (.ofTimeDimension ⟨[], "metric_time", some grain, none⟩) := by
  have hcall : Filter.timeDimensionCall [] "metric_time" (some grain) [] none =
      .ok ⟨[], "metric_time", some grain, none⟩ := by
    obtain rfl | rfl | rfl : grain = "day" ∨ grain = "week" ∨ grain = "fortnight" := by
      simpa using h
    all_goals decide +kernel
  rw [Filter.parseTemplate_eq_ok_iff, timeFilter, Filter.WrittenCall.templateCalls_template
    (by decide) [] (Filter.WrittenCall.isNamed_timeDimension ..),
    Filter.WrittenCall.call_timeDimension]
  simp [hcall]

lemma parseGroupBy_timeFilter : Filter.parseGroupBy [] (timeFilter "day") =
    .ok (.ofTimeDimension ⟨[], "metric_time", some "day", none⟩) := by
  have htemplate : Filter.groupByTemplate (timeFilter "day") = timeFilter "day" := by
    decide +kernel
  rw [Filter.parseGroupBy, htemplate, parseTemplate_timeFilter List.mem_cons_self]

/-- Only the filter of the metric and the group-by item are checked for their granularities. -/
lemma validate_visitsTimed (h : grain ∈ ["week", "fortnight"]) :
    (visitsTimed grain).validate = [] := by
  have hfilters : parseableFilters (visitsTimed grain) = [] := by
    have hweek : isKnownGranularity [] "week" := by decide +kernel
    refine parseableFilters_eq_nil_iff.2 (List.forall_mem_singleton.2 ?_)
    refine List.forall_mem_singleton.2 ⟨_, parseTemplate_timeFilter (by simp), ?_⟩
    exact List.forall_mem_singleton.2 hweek
  have hqueries : Rules.savedQueries (visitsTimed grain) = [] := by
    refine List.flatMap_eq_nil_iff.2 (List.forall_mem_singleton.2 ?_)
    have hfilter := parseTemplate_timeFilter (List.mem_cons_of_mem "day" h)
    have hcustom : (visitsTimed grain).customGranularityNames = [] := rfl
    simp only [savedQueryIssues, hcustom, groupByIssues, queryTemplates, queryTemplateIssues,
      parseGroupBy_timeFilter, hfilter, List.flatMap_cons, List.flatMap_nil, QueryParams.empty]
    obtain rfl | rfl : grain = "week" ∨ grain = "fortnight" := by simpa using h
    all_goals decide +kernel
  refine List.flatMap_eq_nil_iff.2 ?_
  simp only [Validator.standard, Rule.defaults, List.forall_mem_cons, Rule.ofIssues, Rule.run]
  obtain rfl | rfl : grain = "week" ∨ grain = "fortnight" := by simpa using h
  all_goals
    iterate 22 refine ⟨by decide +kernel, ?_⟩
    exact ⟨hfilters, hqueries, List.forall_mem_nil _⟩

end Grains

/-- Weeks are known wherever they are named. -/
theorem knowsGranularities_visitsTimed_week :
    (visitsTimed "week").validate = [] ∧
    (visitsTimed "week").KnowsGranularities (Filter.parseTemplate [] (timeFilter "week")) ∧
    (visitsTimed "week").KnowsGranularities (Filter.parseGroupBy [] (timeFilter "day")) ∧
    ∃ calls, Filter.parseTemplate [] (timeFilter "week") = .ok calls ∧
      ∀ g ∈ calls.granularities, isKnownGranularity [] g ∨
        ∃ argument, Filter.isGranularityArgument argument ∧ g = Text.lower argument := by
  have hsilent := validate_visitsTimed (List.mem_cons_self : "week" ∈ ["week", "fortnight"])
  obtain ⟨hmetrics, hqueries⟩ := knowsGranularities_of_validate hsilent
  obtain ⟨hgroupBy, hfilters⟩ := hqueries _ List.mem_cons_self
  refine ⟨hsilent, ?_, hgroupBy _ List.mem_cons_self, hfilters _ List.mem_cons_self⟩
  exact hmetrics _ List.mem_cons_self _ List.mem_cons_self

/-- Nothing is found where the filter of a saved query names a granularity that there is not. -/
theorem not_knowsGranularities_visitsTimed_fortnight :
    (visitsTimed "fortnight").validate = [] ∧
    ∃ q ∈ (visitsTimed "fortnight").savedQueries, ∃ template ∈ queryTemplates q,
      ¬(visitsTimed "fortnight").KnowsGranularities
        (Filter.parseTemplate (visitsTimed "fortnight").customGranularityNames template) := by
  have hmem : "fortnight" ∈ ["week", "fortnight"] := by decide
  have hsilent := validate_visitsTimed hmem
  refine ⟨hsilent, _, List.mem_cons_self, _, List.mem_cons_self, ?_⟩
  rintro ⟨calls, hcalls, hknown⟩
  have hparse := parseTemplate_timeFilter (List.mem_cons_of_mem "day" hmem)
  obtain rfl := Except.ok.inj (hparse.symm.trans hcalls)
  exact absurd (hknown "fortnight" List.mem_cons_self) (by decide +kernel)

end Manifest

end SemanticLayer

import SemanticLayer.Proofs.Filter.Append
import SemanticLayer.Proofs.Name.Segments
import SemanticLayer.Proofs.Text.Lower

/-!
# Well-formed call sets

What is read from a template has one call for each marker, and every call can be looked up: its
names are not empty and hold no double underscore, whatever underscores stand in the template, and a
dimension is reached through an entity unless it is metric time.
-/

namespace SemanticLayer

/-! ### Well-formed calls -/

/-- The name of a single element: it is not empty and holds no double underscore. -/
structure IsElementName (name : String) : Prop where
  ne_empty    : name ≠ ""
  notDundered : hasDunder name.toList = false

/-- The last entity of the path has the name of an element. -/
def EndsInEntity (path : List String) : Prop := ∃ entity ∈ path.getLast?, IsElementName entity

/-- A dimension that is not metric time, reached through an entity. -/
structure DimensionCall.IsWellFormed (c : DimensionCall) : Prop where
  name          : IsElementName c.dimension
  notMetricTime : c.dimension ≠ metricTimeName
  path          : EndsInEntity c.entityPath

/-- A time dimension that is metric time or reached through an entity, with its granularity in lower
case. -/
structure TimeDimensionCall.IsWellFormed (c : TimeDimensionCall) : Prop where
  name        : IsElementName c.timeDimension
  path        : c.timeDimension = metricTimeName ∨ EndsInEntity c.entityPath
  granularity : ∀ g ∈ c.granularity, Text.lower g = g

/-- A metric with a name and something that it is grouped by. -/
structure MetricCall.IsWellFormed (c : MetricCall) : Prop where
  name    : c.metric ≠ ""
  groupBy : c.groupBy ≠ []

namespace CallSets

/-- All calls are well formed. -/
structure IsWellFormed (s : CallSets) : Prop where
  dimensions     : ∀ c ∈ s.dimensions, c.IsWellFormed
  timeDimensions : ∀ c ∈ s.timeDimensions, c.IsWellFormed
  entities       : ∀ c ∈ s.entities, IsElementName c.entity
  metrics        : ∀ c ∈ s.metrics, c.IsWellFormed

lemma isWellFormed_empty : empty.IsWellFormed := by
  constructor <;> exact List.forall_mem_nil _

lemma IsWellFormed.append {a b : CallSets} (ha : a.IsWellFormed) (hb : b.IsWellFormed) :
    (a ++ b).IsWellFormed where
  dimensions     := List.forall_mem_append.2 ⟨ha.dimensions, hb.dimensions⟩
  timeDimensions := List.forall_mem_append.2 ⟨ha.timeDimensions, hb.timeDimensions⟩
  entities       := List.forall_mem_append.2 ⟨ha.entities, hb.entities⟩
  metrics        := List.forall_mem_append.2 ⟨ha.metrics, hb.metrics⟩

section One

attribute [local simp] ofDimension ofTimeDimension ofEntity ofMetric

lemma isWellFormed_ofDimension {c : DimensionCall} (h : c.IsWellFormed) :
    (ofDimension c).IsWellFormed := by
  constructor <;> simp [h]

lemma isWellFormed_ofTimeDimension {c : TimeDimensionCall} (h : c.IsWellFormed) :
    (ofTimeDimension c).IsWellFormed := by
  constructor <;> simp [h]

lemma isWellFormed_ofEntity {c : EntityCall} (h : IsElementName c.entity) :
    (ofEntity c).IsWellFormed := by
  constructor <;> simp [h]

lemma isWellFormed_ofMetric {c : MetricCall} (h : c.IsWellFormed) :
    (ofMetric c).IsWellFormed := by
  constructor <;> simp [h]

end One

end CallSets

/-! ### Parts of a name -/

namespace DunderedName

variable {custom segments : List String} {name : String}

lemma elementName_mem_ofReversed (h : segments ≠ []) :
    (ofReversed custom segments).elementName ∈ segments := by
  fun_cases ofReversed custom segments <;> simp_all

lemma entityLinks_subset_ofReversed :
    (ofReversed custom segments).entityLinks ⊆ segments := by
  fun_cases ofReversed custom segments with
  | case1 => simp
  | case2 => simp
  | case3 last element links => simp
  | case4 last element links => simp

/-- Segments that are not empty are names of elements. -/
lemma isElementName_of_mem_segments (hempty : "" ∉ DunderedName.segments name) {s : String}
    (h : s ∈ DunderedName.segments name) : IsElementName s := by
  refine ⟨fun heq => hempty (heq ▸ h), ?_⟩
  obtain ⟨cs, hcs, rfl⟩ := List.mem_map.1 h
  rw [String.toList_ofList]
  exact hasDunder_of_mem_splitDunder hcs

end DunderedName

namespace Filter

variable {custom : List String} {name : String}

lemma isElementName_of_elementName {parts : DunderedName}
    (h : elementName custom name = .ok parts) :
    IsElementName parts.elementName ∧ ∀ link ∈ parts.entityLinks, IsElementName link := by
  unfold elementName at h
  split at h
  · contradiction
  · next hempty =>
    obtain rfl : DunderedName.parse custom name = parts := by simpa using h
    have hsegment {s : String} (hs : s ∈ (DunderedName.segments name).reverse) :
        IsElementName s :=
      DunderedName.isElementName_of_mem_segments (by simpa using hempty) (List.mem_reverse.1 hs)
    have hne : (DunderedName.segments name).reverse ≠ [] :=
      List.reverse_ne_nil_iff.2 (DunderedName.segments_ne_nil name)
    exact ⟨hsegment (DunderedName.elementName_mem_ofReversed hne),
      fun link hlink => hsegment (DunderedName.entityLinks_subset_ofReversed hlink)⟩

/-- A single link in a name is the last entity of the path. -/
lemma endsInEntity_append {links : List String} (path : List String) (hlength : links.length = 1)
    (h : ∀ link ∈ links, IsElementName link) : EndsInEntity (path ++ links) := by
  obtain ⟨link, rfl⟩ := List.length_eq_one_iff.1 hlength
  exact ⟨link, by simp, h link List.mem_cons_self⟩

/-! ### Calls of one kind -/

lemma isWellFormed_of_dimensionCall {path : List String} {call : DimensionCall}
    (h : dimensionCall custom name path = .ok call) : call.IsWellFormed := by
  obtain ⟨parts, hparts, h⟩ := bind_eq_ok_iff.1 h
  obtain ⟨hname, hlinks⟩ := isElementName_of_elementName hparts
  split_ifs at h with htime hone hgranularity
  obtain rfl := Except.ok.inj h
  exact ⟨hname, by simpa using htime, endsInEntity_append path (by simpa using hone) hlinks⟩

/-- The links fit the name: metric time has none, and any other name has one. -/
lemma entityLinks_of_checkTimeDimensionName {parts : DunderedName}
    (h : checkTimeDimensionName name parts = .ok ()) :
    (parts.elementName = metricTimeName ∧ parts.entityLinks = []) ∨
      parts.entityLinks.length = 1 := by
  unfold checkTimeDimensionName at h
  split_ifs at h with htime hdundered hone
  · exact .inl ⟨by simpa using htime, by simp_all⟩
  · exact .inr (by simpa using hone)

lemma isWellFormed_of_timeDimensionCall {granularity part : Option String} {path : List String}
    {call : TimeDimensionCall}
    (h : timeDimensionCall custom name granularity path part = .ok call) : call.IsWellFormed := by
  obtain ⟨parts, hparts, h⟩ := bind_eq_ok_iff.1 h
  obtain ⟨⟨⟩, hcheck, h⟩ := bind_eq_ok_iff.1 h
  obtain ⟨⟨⟩, -, h⟩ := bind_eq_ok_iff.1 h
  obtain ⟨part', -, h⟩ := bind_eq_ok_iff.1 h
  obtain rfl := Except.ok.inj h
  obtain ⟨hname, hlinks⟩ := isElementName_of_elementName hparts
  refine ⟨hname, ?_, ?_⟩
  · exact (entityLinks_of_checkTimeDimensionName hcheck).imp And.left fun hone =>
      endsInEntity_append path hone hlinks
  · intro g hg
    obtain ⟨g, -, rfl⟩ := Option.map_eq_some_iff.1 hg
    exact Text.lower_lower g

lemma isElementName_of_entityCall {path : List String} {call : EntityCall}
    (h : entityCall custom name path = .ok call) : IsElementName call.entity := by
  obtain ⟨parts, hparts, h⟩ := bind_eq_ok_iff.1 h
  split_ifs at h
  obtain rfl := Except.ok.inj h
  exact (isElementName_of_elementName hparts).1

lemma isWellFormed_of_metricCall {groupBy : List String} {call : MetricCall}
    (h : metricCall name groupBy = .ok call) : call.IsWellFormed := by
  unfold metricCall at h
  split_ifs at h with hname hgroupBy
  obtain rfl := Except.ok.inj h
  exact ⟨by simpa using hname, by simpa using hgroupBy⟩

/-! ### Calls of an expression -/

/-- An expression has a single call, which is made from a name that it gives. -/
lemma exists_of_call {e : Expression} {calls : CallSets} (h : e.call custom = .ok calls) :
    (∃ name path c, dimensionCall custom name path = .ok c ∧ calls = .ofDimension c) ∨
    (∃ name granularity path part c,
      timeDimensionCall custom name granularity path part = .ok c ∧ calls = .ofTimeDimension c) ∨
    (∃ name path c, entityCall custom name path = .ok c ∧ calls = .ofEntity c) ∨
    ∃ name groupBy c, metricCall name groupBy = .ok c ∧ calls = .ofMetric c := by
  unfold Expression.call at h
  cases hcallee : e.callee with
  | dimension =>
    simp only [hcallee] at h
    obtain ⟨b, -, h⟩ := bind_eq_ok_iff.1 h
    obtain ⟨name, -, h⟩ := bind_eq_ok_iff.1 h
    obtain ⟨path, -, h⟩ := bind_eq_ok_iff.1 h
    obtain ⟨⟨granularity, part⟩, -, h⟩ := bind_eq_ok_iff.1 h
    dsimp only at h
    split_ifs at h
    · obtain ⟨c, hc, rfl⟩ := map_eq_ok_iff.1 h
      exact .inr (.inl ⟨name, granularity, path, part, c, hc, rfl⟩)
    · obtain ⟨c, hc, rfl⟩ := map_eq_ok_iff.1 h
      exact .inl ⟨name, path, c, hc, rfl⟩
  | timeDimension =>
    simp only [hcallee] at h
    obtain ⟨b, -, h⟩ := bind_eq_ok_iff.1 h
    obtain ⟨name, -, h⟩ := bind_eq_ok_iff.1 h
    obtain ⟨granularity, -, h⟩ := bind_eq_ok_iff.1 h
    obtain ⟨path, -, h⟩ := bind_eq_ok_iff.1 h
    obtain ⟨_, -, h⟩ := bind_eq_ok_iff.1 h
    obtain ⟨part, -, h⟩ := bind_eq_ok_iff.1 h
    obtain ⟨_, -, h⟩ := bind_eq_ok_iff.1 h
    obtain ⟨c, hc, rfl⟩ := map_eq_ok_iff.1 h
    exact .inr (.inl ⟨name, granularity, path, part, c, hc, rfl⟩)
  | entity =>
    simp only [hcallee] at h
    obtain ⟨b, -, h⟩ := bind_eq_ok_iff.1 h
    obtain ⟨name, -, h⟩ := bind_eq_ok_iff.1 h
    obtain ⟨path, -, h⟩ := bind_eq_ok_iff.1 h
    obtain ⟨_, -, h⟩ := bind_eq_ok_iff.1 h
    obtain ⟨c, hc, rfl⟩ := map_eq_ok_iff.1 h
    exact .inr (.inr (.inl ⟨name, path, c, hc, rfl⟩))
  | metric =>
    simp only [hcallee] at h
    obtain ⟨b, -, h⟩ := bind_eq_ok_iff.1 h
    obtain ⟨name, -, h⟩ := bind_eq_ok_iff.1 h
    obtain ⟨groupBy, -, h⟩ := bind_eq_ok_iff.1 h
    obtain ⟨_, -, h⟩ := bind_eq_ok_iff.1 h
    obtain ⟨c, hc, rfl⟩ := map_eq_ok_iff.1 h
    exact .inr (.inr (.inr ⟨name, groupBy, c, hc, rfl⟩))

/-- One marker makes one call. -/
lemma isWellFormed_of_call {e : Expression} {calls : CallSets} (h : e.call custom = .ok calls) :
    calls.size = 1 ∧ calls.IsWellFormed := by
  obtain ⟨name, path, c, hc, rfl⟩ | ⟨name, granularity, path, part, c, hc, rfl⟩ |
    ⟨name, path, c, hc, rfl⟩ | ⟨name, groupBy, c, hc, rfl⟩ := exists_of_call h
  · exact ⟨rfl, CallSets.isWellFormed_ofDimension (isWellFormed_of_dimensionCall hc)⟩
  · exact ⟨rfl, CallSets.isWellFormed_ofTimeDimension (isWellFormed_of_timeDimensionCall hc)⟩
  · exact ⟨rfl, CallSets.isWellFormed_ofEntity (isElementName_of_entityCall hc)⟩
  · exact ⟨rfl, CallSets.isWellFormed_ofMetric (isWellFormed_of_metricCall hc)⟩

/-! ### Calls of a template -/

lemma isWellFormed_of_contentCall {content : List Char} {calls : CallSets}
    (h : contentCall custom content = .ok calls) : calls.size = 1 ∧ calls.IsWellFormed := by
  obtain ⟨ts, -, h⟩ := bind_eq_ok_iff.1 h
  obtain ⟨e, -, h⟩ := bind_eq_ok_iff.1 h
  exact isWellFormed_of_call h

lemma isWellFormed_of_contentCalls {contents : List (List Char)} {calls : CallSets}
    (h : contentCalls custom contents = .ok calls) :
    calls.size = contents.length ∧ calls.IsWellFormed := by
  induction contents generalizing calls with
  | nil =>
    obtain rfl : CallSets.empty = calls := by simpa [contentCalls] using h
    exact ⟨rfl, CallSets.isWellFormed_empty⟩
  | cons content contents ih =>
    obtain ⟨first, hfirst, h⟩ := bind_eq_ok_iff.1 h
    obtain ⟨rest, hrest, h⟩ := bind_eq_ok_iff.1 h
    obtain rfl := Except.ok.inj h
    obtain ⟨hsize, hwell⟩ := isWellFormed_of_contentCall hfirst
    obtain ⟨hsize', hwell'⟩ := ih hrest
    refine ⟨?_, hwell.append hwell'⟩
    rw [CallSets.size_append, hsize, hsize', List.length_cons, Nat.add_comm]

/-- What is read from a template is well formed and has one call for each of its markers. -/
theorem isWellFormed_of_parseTemplate {template : String} {calls : CallSets}
    (h : parseTemplate custom template = .ok calls) :
    (∃ contents, markers template = .ok contents ∧ calls.size = contents.length) ∧
      calls.IsWellFormed := by
  obtain ⟨contents, hmarkers, hcalls⟩ := bind_eq_ok_iff.1 (parseTemplate_eq_ok_iff.1 h)
  obtain ⟨hsize, hwell⟩ := isWellFormed_of_contentCalls hcalls
  exact ⟨⟨contents, hmarkers, hsize⟩, hwell⟩

/-- A time dimension whose name has three underscores in a row. -/
def underscoresTime : String :=
  (WrittenCall.timeDimension "a___b" (some "WEEK") none none).template '"'

/-- A metric that is grouped by an entity. -/
def groupedMetric : String := (WrittenCall.metric "m" ["g"]).template '"'

/-- The calls of the two. -/
def underscoresCalls : CallSets := ⟨[], [⟨["a"], "_b", some "week", none⟩], [], [⟨"m", ["g"]⟩]⟩

/-- The underscore that is left over belongs to the name of the time dimension. -/
theorem isWellFormed_underscoresCalls :
    parseTemplate [] (underscoresTime ++ groupedMetric) = .ok underscoresCalls ∧
    (∃ contents, markers (underscoresTime ++ groupedMetric) = .ok contents ∧ contents.length = 2) ∧
    underscoresCalls.IsWellFormed := by
  have htime : templateCalls [] underscoresTime =
      .ok (.ofTimeDimension ⟨["a"], "_b", some "week", none⟩) := by
    have hcall : timeDimensionCall [] "a___b" (some "WEEK") [] none =
        .ok ⟨["a"], "_b", some "week", none⟩ := by decide +kernel
    rw [underscoresTime, WrittenCall.templateCalls_template (by decide) []
      (WrittenCall.isNamed_timeDimension ..), WrittenCall.call_timeDimension]
    simp [hcall]
  have hmetric : templateCalls [] groupedMetric = .ok (.ofMetric ⟨"m", ["g"]⟩) := by
    rw [groupedMetric, WrittenCall.templateCalls_template (by decide) []
      (WrittenCall.isNamed_metric ..), WrittenCall.call_metric]
    rfl
  have hmeet : ¬OpensBetween underscoresTime.toList groupedMetric.toList :=
    fun hopens => absurd hopens.1 (by decide +kernel)
  have h : parseTemplate [] (underscoresTime ++ groupedMetric) = .ok underscoresCalls :=
    parseTemplate_eq_ok_iff.2 (templateCalls_append_of_ok htime hmetric hmeet)
  obtain ⟨⟨contents, hmarkers, hsize⟩, hwell⟩ := isWellFormed_of_parseTemplate h
  exact ⟨h, ⟨contents, hmarkers, hsize.symm⟩, hwell⟩

end Filter

end SemanticLayer

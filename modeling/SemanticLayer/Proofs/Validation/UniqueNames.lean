import SemanticLayer.Proofs.Manifest.Lookups
import SemanticLayer.Proofs.Validation.DirectModels

/-!
# Unique names

In a valid manifest a name belongs to one object of its kind, and an element name stands for the
same kind of element in every semantic model. So what a lookup finds is all there is under a name:
`uniqueLookups_of_valid`.
-/

namespace SemanticLayer

open Issues Rules

/-! ### Kinds of elements -/

lemma eq_of_mem_of_length_le_one {α : Type} {as : List α} (h : as.length ≤ 1) {a b : α}
    (ha : a ∈ as) (hb : b ∈ as) : a = b := by
  cases as with
  | nil => simp at ha
  | cons c cs =>
    obtain rfl : cs = [] := List.eq_nil_of_length_eq_zero (by simpa using h)
    rw [List.mem_singleton] at ha hb
    exact ha.trans hb.symm

lemma SemanticModel.nodup_elementNames (model : SemanticModel)
    (h : (model.elements.map Prod.fst).Nodup) : (model.entities.map (·.name)).Nodup ∧
      (model.dimensions.map (·.name)).Nodup ∧ (model.measures.map (·.name)).Nodup := by
  have hnames : model.elements.map Prod.fst = model.entities.map (·.name) ++
      model.dimensions.map (·.name) ++ model.measures.map (·.name) := by
    simp [elements, Function.comp_def]
  rw [hnames] at h
  have hleft := h.of_append_left
  exact ⟨hleft.of_append_left, hleft.of_append_right, h.of_append_right⟩

namespace Manifest

variable {m : Manifest}

/-- Two elements of one name are of one kind, whatever models they belong to. -/
lemma kind_eq_of_isClear (h : IsClear (consistentElements m)) {model model' : SemanticModel}
    (hmodel : model ∈ distinctModels m) (hmodel' : model' ∈ distinctModels m) {name : String}
    {kind kind' : ElementKind} (he : (name, kind) ∈ model.elements)
    (he' : (name, kind') ∈ model'.elements) : kind = kind' := by
  rw [consistentElements, isClear_flatMap] at h
  have hclear := h model hmodel
  rw [isClear_flatMap] at hclear
  have hkinds := hclear (name, kind) he
  rw [isClear_unless_iff] at hkinds
  have hused {model : SemanticModel} (hmodel : model ∈ distinctModels m) {kind : ElementKind}
      (he : (name, kind) ∈ model.elements) : kind ∈ sortedElementKinds.filter fun k =>
        ((distinctModels m).flatMap (·.elements)).contains (name, k) := by
    refine List.mem_filter.2 ⟨by cases kind <;> decide, ?_⟩
    rw [List.contains_iff_mem]
    exact List.mem_flatMap.2 ⟨model, hmodel, he⟩
  exact eq_of_mem_of_length_le_one hkinds (hused hmodel he) (hused hmodel' he')

/-! ### Distinct names -/

/-- Names belong to one object of a kind, and element names to one kind of elements. -/
structure HasDistinctNames (m : Manifest) : Prop where
  models   : (m.semanticModels.map (·.name)).Nodup
  metrics  : m.metricNames.Nodup
  queries  : (m.savedQueries.map (·.name)).Nodup
  elements : ∀ model ∈ m.semanticModels, (model.elements.map Prod.fst).Nodup
  measures : m.measureNames.Nodup
  kinds    : ∀ model ∈ m.semanticModels, ∀ model' ∈ m.semanticModels, ∀ name kind kind',
    (name, kind) ∈ model.elements → (name, kind') ∈ model'.elements → kind = kind'

lemma IsValid.hasDistinctNames (h : m.IsValid) : m.HasDistinctNames := by
  have hnames := hasValidNames_iff.2 h.uniqueAndValidNames
  have hdistinct := distinctModels_eq_self hnames
  have hmeasures := isClear_uniqueMeasures.1 h.uniqueMeasures
  constructor
  case models => exact hnames.modelsDistinct
  case metrics => exact hnames.metricsDistinct
  case queries => exact hnames.queriesDistinct
  case elements => exact fun model hmodel => (hnames.elements model hmodel).elementsDistinct
  case measures => rwa [hdistinct, List.map_flatMap] at hmeasures
  case kinds =>
    intro model hmodel model' hmodel' name kind kind'
    rw [← hdistinct] at hmodel hmodel'
    exact kind_eq_of_isClear h.consistentElements hmodel hmodel'

/-- Where names are distinct, no model is left out. -/
lemma HasDistinctNames.distinctModels_eq (h : m.HasDistinctNames) :
    distinctModels m = m.semanticModels :=
  firstByKey_eq_self h.models

lemma HasDistinctNames.nodup_definedMeasures (h : m.HasDistinctNames) :
    (m.definedMeasures.map (·.2.name)).Nodup := by
  rw [map_name_definedMeasures]
  exact h.measures

/-! ### Lookups -/

/-- What a lookup finds is the only object that has the name. -/
structure HasUniqueLookups (m : Manifest) : Prop where
  model        : ∀ name model, m.semanticModel? name = some model ↔
    model ∈ m.semanticModels ∧ model.name = name
  metric       : ∀ name metric, m.metric? name = some metric ↔
    metric ∈ m.metrics ∧ metric.name = name
  measure      : ∀ name model e, m.measure? name = some (model, e) ↔
    (model ∈ m.semanticModels ∧ e ∈ model.measures) ∧ e.name = name
  entity       : ∀ model ∈ m.semanticModels, ∀ name e, model.entity? name = some e ↔
    e ∈ model.entities ∧ e.name = name
  dimension    : ∀ model ∈ m.semanticModels, ∀ name d, model.dimension? name = some d ↔
    d ∈ model.dimensions ∧ d.name = name
  modelMeasure : ∀ model ∈ m.semanticModels, ∀ name e, model.measure? name = some e ↔
    e ∈ model.measures ∧ e.name = name

lemma HasDistinctNames.hasUniqueLookups (h : m.HasDistinctNames) : m.HasUniqueLookups := by
  constructor
  case model => exact fun name model => find?_key_eq_some_iff h.models
  case metric => exact fun name metric => find?_key_eq_some_iff h.metrics
  case measure =>
    intro name model e
    have hmem : (model, e) ∈ m.definedMeasures ↔ model ∈ m.semanticModels ∧ e ∈ model.measures := by
      simp [definedMeasures]
    rw [measure?_eq_find?, ← hmem]
    exact find?_key_eq_some_iff h.nodup_definedMeasures
  case entity =>
    intro model hmodel name e
    exact find?_key_eq_some_iff (model.nodup_elementNames (h.elements model hmodel)).1
  case dimension =>
    intro model hmodel name d
    exact find?_key_eq_some_iff (model.nodup_elementNames (h.elements model hmodel)).2.1
  case modelMeasure =>
    intro model hmodel name e
    exact find?_key_eq_some_iff (model.nodup_elementNames (h.elements model hmodel)).2.2

/-- In a valid manifest names are distinct, and a lookup finds the only object of a name. -/
theorem uniqueLookups_of_valid (h : hasBlocking m.validate = false) :
    m.HasDistinctNames ∧ m.HasUniqueLookups :=
  have hdistinct := (hasBlocking_validate_eq_false_iff.1 h).hasDistinctNames
  ⟨hdistinct, hdistinct.hasUniqueLookups⟩

/-- Visits and the users who make them: two models that share the name of an entity and that of a
dimension. -/
def visitsByUsers : Manifest where
  semanticModels := [
    { name          := "visits"
      description   := none
      label         := none
      nodeRelation  := ⟨"visits", "main", none, none⟩
      defaults      := none
      primaryEntity := none
      entities      := [⟨"visit", .primary, none, none, none, none⟩,
        ⟨"user", .foreign, none, none, none, none⟩]
      dimensions    := [⟨"ds", .time, none, false, some ⟨some .day, true, none⟩, none, none⟩]
      measures      := [⟨"seen", .sum, none, true, some "1", none, none, none, none⟩]
      metadata      := none },
    { name          := "users"
      description   := none
      label         := none
      nodeRelation  := ⟨"users", "main", none, none⟩
      defaults      := none
      primaryEntity := some "user"
      entities      := [⟨"user", .unique, none, none, none, none⟩]
      dimensions    := [⟨"ds", .time, none, false, some ⟨some .day, true, none⟩, none, none⟩]
      measures      := [⟨"joined", .sum, none, true, some "1", none, none, none, none⟩]
      metadata      := none }]
  metrics           := []
  savedQueries      := []
  configuration     := ⟨[]⟩
  interfacesVersion := defaultVersion

/-- Sharing names of entities and dimensions leaves lookups unique. -/
theorem uniqueLookups_visitsByUsers :
    hasBlocking visitsByUsers.validate = false ∧
      visitsByUsers.HasDistinctNames ∧ visitsByUsers.HasUniqueLookups :=
  have h : hasBlocking visitsByUsers.validate = false := by decide +kernel
  ⟨h, uniqueLookups_of_valid h⟩

end Manifest

end SemanticLayer

import Mathlib.Data.List.Forall2
import Mathlib.Tactic.Common
import SemanticLayer.Manifest.Normalize
import SemanticLayer.Proofs.Text.Lower

/-!
# Normal forms of manifests

What it means for a manifest to be normal is said here without normalizing anything: names are in
lower case, aggregations are computed directly, a measure names a time dimension where its model
has a default one, and a measure that asks for a metric has one. A normal form is normal, and a
normal manifest is its own normal form, so normalizing twice is normalizing once.
-/

namespace SemanticLayer

/-- A map that keeps every item keeps the list. -/
lemma map_eq_self {α : Type} {f : α → α} {as : List α} (h : ∀ a ∈ as, f a = a) : as.map f = as :=
  (List.map_congr_left h).trans (List.map_id as)

lemma exists_of_forall₂_of_mem {α β : Type} {R : α → β → Prop} {as : List α} {bs : List β}
    (h : List.Forall₂ R as bs) {b : β} (hb : b ∈ bs) : ∃ a ∈ as, R a b := by
  induction h with
  | nil => simp at hb
  | cons hab _ ih =>
    obtain rfl | hb := List.mem_cons.1 hb
    · exact ⟨_, List.mem_cons_self, hab⟩
    · obtain ⟨a, ha, hr⟩ := ih hb
      exact ⟨a, List.mem_cons_of_mem _ ha, hr⟩

/-! ### Measures -/

namespace Measure

/-- The aggregation of the measure is computed directly. -/
def IsDirect (m : Measure) : Prop := m.agg ≠ .count ∧ m.agg ≠ .sumBoolean ∧ m.agg ≠ .median

variable {m m' : Measure}

lemma directAggregation_of_isDirect (h : m.IsDirect) : m.directAggregation = .ok m := by
  obtain ⟨hcount, hbool, hmedian⟩ := h
  unfold directAggregation
  split
  · next hagg => exact absurd hagg hcount
  · next hagg => exact absurd hagg hbool
  · next hagg => exact absurd hagg hmedian
  · rfl

lemma isDirect_of_directAggregation (h : m.directAggregation = .ok m') : m'.IsDirect := by
  unfold directAggregation at h
  split at h
  · split at h
    · simp at h
    · cases h
      simp [IsDirect]
  · cases h
    simp [IsDirect]
  · cases h
    simp [IsDirect]
  · next hcount hbool hmedian =>
    cases h
    exact ⟨hcount, hbool, hmedian⟩

/-- Only the aggregation, its parameters and its expression change. -/
lemma frame_of_directAggregation (h : m.directAggregation = .ok m') :
    { m' with agg := m.agg, expr := m.expr, aggParams := m.aggParams } = m := by
  unfold directAggregation at h
  split at h
  · split at h
    · simp at h
    · cases h
      rfl
  · cases h
    rfl
  · cases h
    rfl
  · cases h
    rfl

lemma name_of_directAggregation (h : m.directAggregation = .ok m') : m'.name = m.name := by
  rw [← frame_of_directAggregation h]

lemma directAggregations_eq_ok_iff {ms ms' : List Measure} :
    directAggregations ms = .ok ms' ↔
      List.Forall₂ (fun m m' => directAggregation m = .ok m') ms ms' := by
  induction ms generalizing ms' with
  | nil => simp [directAggregations, eq_comm]
  | cons m ms ih =>
    unfold directAggregations
    constructor
    · intro h
      split at h
      · simp at h
      · next m' hm =>
        split at h
        · simp at h
        · next ms' hms =>
          cases h
          exact .cons hm (ih.1 hms)
    · rintro (_ | ⟨hm, hms⟩)
      rw [hm]
      simp [ih.2 hms]

/-- The measure has the time dimension that it would be given. -/
def IsTimed (time : Option String) (m : Measure) : Prop := m.aggTimeDimension = none → time = none

lemma isTimed_fillAggTimeDimension (time : Option String) (m : Measure) :
    (m.fillAggTimeDimension time).IsTimed time := by
  unfold IsTimed fillAggTimeDimension
  cases m.aggTimeDimension <;> simp

lemma fillAggTimeDimension_of_isTimed {time : Option String} (h : m.IsTimed time) :
    m.fillAggTimeDimension time = m := by
  obtain ⟨name, agg, description, createMetric, expr, aggParams, nonAdditive, own, label⟩ := m
  cases own with
  | none => simp [fillAggTimeDimension, h rfl]
  | some => rfl

end Measure

/-! ### Models -/

namespace SemanticModel

/-- Names are in lower case, aggregations are computed directly, and every measure names a time
dimension if the model has a default one. -/
structure IsNormal (m : SemanticModel) : Prop where
  name       : Text.IsLower m.name
  entities   : ∀ e ∈ m.entities, Text.IsLower e.name
  dimensions : ∀ d ∈ m.dimensions, Text.IsLower d.name
  measures   : ∀ e ∈ m.measures, Text.IsLower e.name
  direct     : ∀ e ∈ m.measures, e.IsDirect
  timed      : ∀ e ∈ m.measures, e.IsTimed m.defaultAggTimeDimension?

variable {m m' : SemanticModel}

lemma lowerNames_of_isNormal (h : m.IsNormal) : m.lowerNames = m := by
  have hentities : m.entities.map (fun e => { e with name := Text.lower e.name }) = m.entities :=
    map_eq_self fun e he => by rw [Text.lower_eq_self (h.entities e he)]
  have hdimensions :
      m.dimensions.map (fun d => { d with name := Text.lower d.name }) = m.dimensions :=
    map_eq_self fun d hd => by rw [Text.lower_eq_self (h.dimensions d hd)]
  have hmeasures : m.measures.map (fun e => { e with name := Text.lower e.name }) = m.measures :=
    map_eq_self fun e he => by rw [Text.lower_eq_self (h.measures e he)]
  rw [lowerNames, Text.lower_eq_self h.name, hentities, hdimensions, hmeasures]

lemma normalize_of_isNormal (h : m.IsNormal) : m.normalize = .ok m := by
  have hdirect : Measure.directAggregations m.measures = .ok m.measures :=
    Measure.directAggregations_eq_ok_iff.2 <| List.forall₂_same.2 fun e he =>
      Measure.directAggregation_of_isDirect (h.direct e he)
  have hfill : m.measures.map (·.fillAggTimeDimension m.defaultAggTimeDimension?) = m.measures :=
    map_eq_self fun e he => Measure.fillAggTimeDimension_of_isTimed (h.timed e he)
  rw [normalize, lowerNames_of_isNormal h, hdirect]
  simp only [fillAggTimeDimensions]
  exact congrArg (fun measures => Except.ok { m with measures }) hfill

/-- Where the parts of a normal form come from: the measures are those of the model in lower case,
each with a direct aggregation and a time dimension. -/
lemma normalize_eq_ok_iff : m.normalize = .ok m' ↔
    ∃ measures, List.Forall₂ (fun e e' => e.directAggregation = .ok e') m.lowerNames.measures
      measures ∧ m' = { m.lowerNames with measures }.fillAggTimeDimensions := by
  simp only [normalize, ← Measure.directAggregations_eq_ok_iff]
  cases Measure.directAggregations m.lowerNames.measures <;> simp [eq_comm]

lemma isNormal_of_normalize (h : m.normalize = .ok m') : m'.IsNormal := by
  obtain ⟨measures, hmeasures, rfl⟩ := normalize_eq_ok_iff.1 h
  have hdirect : ∀ e' ∈ measures, ∃ e ∈ m.lowerNames.measures, e.directAggregation = .ok e' :=
    fun e' he' => exists_of_forall₂_of_mem hmeasures he'
  constructor
  · exact Text.isLower_lower m.name
  · intro e he
    obtain ⟨e, -, rfl⟩ := List.mem_map.1 he
    exact Text.isLower_lower e.name
  · intro d hd
    obtain ⟨d, -, rfl⟩ := List.mem_map.1 hd
    exact Text.isLower_lower d.name
  · intro e he
    obtain ⟨e', he', rfl⟩ := List.mem_map.1 he
    obtain ⟨e, he, heq⟩ := hdirect e' he'
    obtain ⟨e, -, rfl⟩ := List.mem_map.1 he
    have hname : e'.name = Text.lower e.name := Measure.name_of_directAggregation heq
    exact hname ▸ Text.isLower_lower e.name
  · intro e he
    obtain ⟨e', he', rfl⟩ := List.mem_map.1 he
    obtain ⟨e, -, heq⟩ := hdirect e' he'
    have hdirect : e'.IsDirect := Measure.isDirect_of_directAggregation heq
    exact hdirect
  · intro e he
    obtain ⟨e', -, rfl⟩ := List.mem_map.1 he
    exact Measure.isTimed_fillAggTimeDimension _ e'

lemma normalizeAll_eq_ok_iff {ms ms' : List SemanticModel} :
    normalizeAll ms = .ok ms' ↔ List.Forall₂ (fun m m' => normalize m = .ok m') ms ms' := by
  induction ms generalizing ms' with
  | nil => simp [normalizeAll, eq_comm]
  | cons m ms ih =>
    unfold normalizeAll
    constructor
    · intro h
      split at h
      · simp at h
      · next m' hm =>
        split at h
        · simp at h
        · next ms' hms =>
          cases h
          exact .cons hm (ih.1 hms)
    · rintro (_ | ⟨hm, hms⟩)
      rw [hm]
      simp [ih.2 hms]

end SemanticModel

/-! ### Manifests -/

namespace Manifest

/-- The semantic models are normal, names are in lower case, and every measure that asks for a
metric has one of its name. -/
structure IsNormal (m : Manifest) : Prop where
  models  : ∀ model ∈ m.semanticModels, model.IsNormal
  metrics : ∀ metric ∈ m.metrics, Text.IsLower metric.name
  queries : ∀ query ∈ m.savedQueries, Text.IsLower query.name
  covered : ∀ model ∈ m.semanticModels, ∀ e ∈ model.measures, e.createMetric →
    e.name ∈ m.metrics.map (·.name)

variable {m t : Manifest}

lemma normalize_of_isNormal (h : m.IsNormal) : m.normalize = .ok m := by
  have hmodels : SemanticModel.normalizeAll m.semanticModels = .ok m.semanticModels :=
    SemanticModel.normalizeAll_eq_ok_iff.2 <| List.forall₂_same.2 fun model hmodel =>
      SemanticModel.normalize_of_isNormal (h.models model hmodel)
  have hmetrics : m.metrics.map (·.lowerName) = m.metrics :=
    map_eq_self fun metric hmetric => by
      rw [Metric.lowerName, Text.lower_eq_self (h.metrics metric hmetric)]
  have hqueries : m.savedQueries.map (·.lowerName) = m.savedQueries :=
    map_eq_self fun query hquery => by
      rw [SavedQuery.lowerName, Text.lower_eq_self (h.queries query hquery)]
  have hnone : measureMetrics m.semanticModels m.metrics = [] := by
    rw [measureMetrics, List.flatMap_eq_nil_iff]
    intro model hmodel
    rw [List.map_eq_nil_iff, List.filter_eq_nil_iff]
    intro e he hcreate
    simp only [Bool.and_eq_true, Bool.not_eq_true', List.contains_eq_mem,
      decide_eq_false_iff_not] at hcreate
    exact hcreate.2 (h.covered model hmodel e he hcreate.1)
  simp only [normalize, hmodels, hmetrics, hqueries, hnone, List.append_nil]

lemma normalize_eq_ok_iff : m.normalize = .ok t ↔
    ∃ models, List.Forall₂ (fun model model' => model.normalize = .ok model') m.semanticModels
      models ∧ t = { m with
        semanticModels := models
        metrics        := m.metrics.map (·.lowerName) ++
          measureMetrics models (m.metrics.map (·.lowerName))
        savedQueries   := m.savedQueries.map (·.lowerName) } := by
  simp only [normalize, ← SemanticModel.normalizeAll_eq_ok_iff]
  cases SemanticModel.normalizeAll m.semanticModels <;> simp [eq_comm]

lemma isNormal_of_normalize (h : m.normalize = .ok t) : t.IsNormal := by
  obtain ⟨models, hmodels, rfl⟩ := normalize_eq_ok_iff.1 h
  have hnormal : ∀ model ∈ models, model.IsNormal := by
    intro model' hmodel'
    obtain ⟨model, -, heq⟩ := exists_of_forall₂_of_mem hmodels hmodel'
    exact SemanticModel.isNormal_of_normalize heq
  constructor
  · exact hnormal
  · intro metric hmetric
    obtain hmetric | hmetric := List.mem_append.1 hmetric
    · obtain ⟨metric, -, rfl⟩ := List.mem_map.1 hmetric
      exact Text.isLower_lower metric.name
    · obtain ⟨model, hmodel, hmetric⟩ := List.mem_flatMap.1 hmetric
      obtain ⟨e, he, rfl⟩ := List.mem_map.1 hmetric
      exact (hnormal model hmodel).measures e (List.mem_of_mem_filter he)
  · intro query hquery
    obtain ⟨query, -, rfl⟩ := List.mem_map.1 hquery
    exact Text.isLower_lower query.name
  · intro model hmodel e he hcreate
    rw [List.map_append, List.mem_append]
    by_cases htaken : e.name ∈ (m.metrics.map (·.lowerName)).map (·.name)
    · exact .inl htaken
    · refine .inr (List.mem_map.2 ⟨Metric.ofMeasure model e, ?_, rfl⟩)
      refine List.mem_flatMap.2 ⟨model, hmodel, List.mem_map.2 ⟨e, ?_, rfl⟩⟩
      rw [List.mem_filter]
      simpa [he, hcreate] using htaken

/-- Normalizing a normal form changes nothing. -/
theorem normalize_idempotent (h : m.normalize = .ok t) : t.normalize = .ok t :=
  normalize_of_isNormal (isNormal_of_normalize h)

/-- A manifest with capitals in names, with each aggregation that is not computed directly, and
with a measure whose metric is there under another spelling. -/
def unsettled : Manifest where
  semanticModels := [{
    name          := "ΣΊΣΥΦΟΣ"
    description   := none
    label         := none
    nodeRelation  := ⟨"orders", "main", none, none⟩
    defaults      := none
    primaryEntity := none
    entities      := [⟨"Order", .primary, none, none, none, none⟩]
    dimensions    := [⟨"DS", .time, none, false, some ⟨some .day, true, none⟩, none, none⟩]
    measures      := [
      ⟨"İds", .count, none, true, some "id", none, none, none, some "Orders"⟩,
      ⟨"Paid", .sumBoolean, none, false, none, none, none, none, none⟩,
      ⟨"PRICE", .median, none, true, none, some ⟨none, true, false⟩, none, some "ts", none⟩]
    metadata      := none }]
  metrics           := [⟨"Price", .simple, .empty, none, none, none, none⟩]
  savedQueries      := []
  configuration     := ⟨[]⟩
  interfacesVersion := defaultVersion

/-- The normal form of `unsettled`. -/
def settled : Manifest where
  semanticModels := [{
    name          := "σίσυφος"
    description   := none
    label         := none
    nodeRelation  := ⟨"orders", "main", none, none⟩
    defaults      := none
    primaryEntity := none
    entities      := [⟨"order", .primary, none, none, none, none⟩]
    dimensions    := [⟨"ds", .time, none, false, some ⟨some .day, true, none⟩, none, none⟩]
    measures      := [
      ⟨"i\u0307ds", .sum, none, true, some "CASE WHEN id IS NOT NULL THEN 1 ELSE 0 END", none, none,
        some "ds", some "Orders"⟩,
      ⟨"paid", .sum, none, false, some "CASE WHEN paid THEN 1 ELSE 0 END", none, none, some "ds",
        none⟩,
      ⟨"price", .percentile, none, true, none, some ⟨some .half, false, false⟩, none, some "ts",
        none⟩]
    metadata      := none }]
  metrics := [
    ⟨"price", .simple, .empty, none, none, none, none⟩,
    ⟨"i\u0307ds", .simple, { MetricParams.empty with measure := some (.ofName "i\u0307ds") },
      none, none, some "Orders", none⟩]
  savedQueries      := []
  configuration     := ⟨[]⟩
  interfacesVersion := defaultVersion

theorem normalize_settled : unsettled.normalize = .ok settled ∧ settled.normalize = .ok settled :=
  have h : unsettled.normalize = .ok settled := by decide +kernel
  ⟨h, normalize_idempotent h⟩

end Manifest

end SemanticLayer

import Mathlib.Data.List.Count
import SemanticLayer.Proofs.Manifest.Lookups
import SemanticLayer.Proofs.Manifest.NormalForm

/-!
# Metrics for measures

A measure that asks for a metric gets one when the manifest is normalized, unless its name is that
of a metric already. Only the metrics that were there before count for this, and not those of other
measures: where several measures of one name ask for a metric, each of them gets one.
-/

namespace SemanticLayer

/-! ### Requested metrics -/

/-- The names of the measures of a model that ask for a metric. -/
def SemanticModel.requestedNames (m : SemanticModel) : List String :=
  (m.measures.filter (·.createMetric)).map (·.name)

/-- The names of the measures that ask for a metric, as often as they do. -/
def Manifest.requestedNames (m : Manifest) : List String :=
  m.semanticModels.flatMap (·.requestedNames)

lemma Measure.createMetric_of_directAggregation {m m' : Measure}
    (h : m.directAggregation = .ok m') : m'.createMetric = m.createMetric := by
  rw [← frame_of_directAggregation h]

namespace SemanticModel

variable {m m' : SemanticModel}

lemma map_name_filter_of_forall₂ {ms ms' : List Measure}
    (h : List.Forall₂ (fun e e' => e'.createMetric = e.createMetric ∧ e'.name = Text.lower e.name)
      ms ms') : (ms'.filter (·.createMetric)).map (·.name) =
        ((ms.filter (·.createMetric)).map (·.name)).map Text.lower := by
  induction h with
  | nil => rfl
  | @cons e e' ms ms' he _ ih =>
    obtain ⟨hcreate, hname⟩ := he
    by_cases h : e.createMetric
    · have h' : e'.createMetric := by rwa [hcreate]
      rw [List.filter_cons_of_pos h, List.filter_cons_of_pos h', List.map_cons, List.map_cons,
        List.map_cons, ih, hname]
    · have h' : ¬e'.createMetric := by rwa [hcreate]
      rw [List.filter_cons_of_neg h, List.filter_cons_of_neg h', ih]

/-- Normalizing keeps what measures ask for. -/
lemma requestedNames_normalize (h : m.normalize = .ok m') :
    m'.requestedNames = m.requestedNames.map Text.lower := by
  obtain ⟨measures, hmeasures, rfl⟩ := normalize_eq_ok_iff.1 h
  refine map_name_filter_of_forall₂ (List.forall₂_map_right_iff.2 ?_)
  refine (List.forall₂_map_left_iff.1 hmeasures).imp fun e e' he => ?_
  have hcreate := Measure.createMetric_of_directAggregation he
  have hname := Measure.name_of_directAggregation he
  exact ⟨hcreate, hname⟩

end SemanticModel

/-! ### Names of metrics -/

namespace Manifest

variable {m t : Manifest}

lemma requestedNames_normalize (h : m.normalize = .ok t) :
    t.requestedNames = m.requestedNames.map Text.lower := by
  obtain ⟨models, hmodels, rfl⟩ := normalize_eq_ok_iff.1 h
  simp only [requestedNames]
  clear h
  generalize m.semanticModels = ms at hmodels
  induction hmodels with
  | nil => rfl
  | cons hmodel _ ih =>
    rw [List.flatMap_cons, List.flatMap_cons, List.map_append, ih,
      SemanticModel.requestedNames_normalize hmodel]

lemma map_name_measureMetrics (models : List SemanticModel) (metrics : List Metric) :
    (measureMetrics models metrics).map (·.name) =
      (models.flatMap (·.requestedNames)).filter (· ∉ metrics.map (·.name)) := by
  rw [measureMetrics, List.map_flatMap, List.filter_flatMap]
  refine List.flatMap_congr fun model _ => ?_
  have hadded (e : Measure) : (e.createMetric && !(metrics.map (·.name)).contains e.name) =
      (decide (e.name ∉ metrics.map (·.name)) && e.createMetric) := by
    rw [List.contains_eq_mem, Bool.and_comm, decide_not]
  simp only [hadded]
  rw [SemanticModel.requestedNames, List.filter_map, List.filter_filter, List.map_map]
  rfl

/-- Names of metrics are in lower case, and behind them stand those that are asked for and that none
of them is. -/
lemma metricNames_normalize (h : m.normalize = .ok t) : t.metricNames =
    m.metricNames.map Text.lower ++
      t.requestedNames.filter (· ∉ m.metricNames.map Text.lower) := by
  obtain ⟨models, -, rfl⟩ := normalize_eq_ok_iff.1 h
  have hnames : (m.metrics.map (·.lowerName)).map (·.name) = m.metricNames.map Text.lower := by
    simp [metricNames, Metric.lowerName]
  rw [metricNames, List.map_append, map_name_measureMetrics, hnames]
  rfl

/-- A name that is asked for is taken, or it becomes the name of a metric as often as it is asked
for. -/
lemma count_metricNames_normalize (h : m.normalize = .ok t) (name : String) :
    t.metricNames.count name =
      if name ∈ m.metricNames.map Text.lower then (m.metricNames.map Text.lower).count name
      else t.requestedNames.count name := by
  rw [metricNames_normalize h, List.count_append]
  split
  · next htaken =>
    rw [Nat.add_eq_left, List.count_eq_zero]
    intro hname
    simpa [htaken] using List.of_mem_filter hname
  · next htaken =>
    rw [List.count_eq_zero.2 htaken, Nat.zero_add, List.count_filter (by simpa using htaken)]

/-- Where metrics have distinct names, the metrics for measures have names of their own unless
several measures of one name ask for a metric and no metric has the name. -/
theorem nodup_metricNames_normalize (h : m.normalize = .ok t)
    (hdistinct : (m.metricNames.map Text.lower).Nodup) :
    t.requestedNames = m.requestedNames.map Text.lower ∧
    (∀ name ∈ t.requestedNames, t.metricNames.count name =
      if name ∈ m.metricNames.map Text.lower then 1 else t.requestedNames.count name) ∧
    (t.metricNames.Nodup ↔ ∀ name ∈ t.requestedNames,
      name ∈ m.metricNames.map Text.lower ∨ t.requestedNames.count name = 1) := by
  have hcount (name : String) : t.metricNames.count name =
      if name ∈ m.metricNames.map Text.lower then 1 else t.requestedNames.count name := by
    rw [count_metricNames_normalize h]
    refine ite_congr rfl (fun htaken => ?_) fun _ => rfl
    exact List.count_eq_one_of_mem hdistinct htaken
  refine ⟨requestedNames_normalize h, fun name _ => hcount name, ?_⟩
  rw [List.nodup_iff_count_le_one]
  constructor
  · intro hle name hname
    refine or_iff_not_imp_left.2 fun htaken => ?_
    have hone := hle name
    rw [hcount, if_neg htaken] at hone
    exact Nat.le_antisymm hone (List.count_pos_iff.2 hname)
  · intro hone name
    rw [hcount]
    split
    · exact Nat.le_refl 1
    · next htaken =>
      by_cases hname : name ∈ t.requestedNames
      · exact Nat.le_of_eq ((hone name hname).resolve_left htaken)
      · rw [List.count_eq_zero.2 hname]
        exact Nat.zero_le _

/-- A semantic model that counts its rows and asks for a metric of the count. -/
def rowsCounted (name entity measure : String) : SemanticModel where
  name          := name
  description   := none
  label         := none
  nodeRelation  := ⟨name, "main", none, none⟩
  defaults      := none
  primaryEntity := none
  entities      := [⟨entity, .primary, none, none, none, none⟩]
  dimensions    := [⟨"ds", .time, none, false, some ⟨some .day, true, none⟩, none, none⟩]
  measures      := [⟨measure, .sum, none, true, some "1", none, none, none, none⟩]
  metadata      := none

/-- Visits and accounts, each with a measure that asks for a metric, and a metric `Seen`. -/
def visitsAndAccounts (first second : String) : Manifest where
  semanticModels := [rowsCounted "visits" "visit" first, rowsCounted "accounts" "account" second]
  metrics := [
    ⟨"Seen", .simple, { MetricParams.empty with measure := some (.ofName first) }, none, none,
      none, none⟩]
  savedQueries      := []
  configuration     := ⟨[]⟩
  interfacesVersion := defaultVersion

/-- A measure whose name is taken, under another spelling, and one whose name is not. -/
theorem nodup_metricNames_normalize_seen :
    ((visitsAndAccounts "seen" "Held").metricNames.map Text.lower).Nodup ∧
    ∃ t, (visitsAndAccounts "seen" "Held").normalize = .ok t ∧
      t.requestedNames = ["seen", "held"] ∧ t.metricNames.Nodup ∧
      t.metricNames.count "held" = 1 := by
  have hdistinct : ((visitsAndAccounts "seen" "Held").metricNames.map Text.lower).Nodup := by
    decide +kernel
  obtain ⟨t, ht⟩ : ∃ t, (visitsAndAccounts "seen" "Held").normalize = .ok t := ⟨_, rfl⟩
  obtain ⟨hrequested, hcount, hnodup⟩ := nodup_metricNames_normalize ht hdistinct
  have hnames : t.requestedNames = ["seen", "held"] := by
    rw [hrequested]
    decide +kernel
  refine ⟨hdistinct, t, ht, hnames, hnodup.2 ?_, ?_⟩
  · rw [hnames]
    decide +kernel
  · rw [hcount "held" (by simp [hnames]), hnames]
    decide +kernel

/-- Two measures whose names differ in a capital get two metrics of one name. -/
theorem not_nodup_metricNames_normalize_held :
    ((visitsAndAccounts "held" "Held").metricNames.map Text.lower).Nodup ∧
    ∃ t, (visitsAndAccounts "held" "Held").normalize = .ok t ∧
      "held" ∈ t.requestedNames ∧ t.metricNames = ["seen", "held", "held"] ∧
      ¬t.metricNames.Nodup ∧ t.metricNames.count "held" = 2 :=
  ⟨by decide +kernel, _, rfl, by decide +kernel, by decide +kernel, by decide +kernel,
    by decide +kernel⟩

end Manifest

end SemanticLayer

import SemanticLayer.Proofs.Manifest.DirectForm

/-!
# What normalizing does

A manifest has no normal form if and only if one of its measures counts without saying what, and
the first such measure is named. Otherwise every part of the manifest is still there, in its place:
names are in lower case, measures with an aggregation that is not computed directly have another
one, measures may have been given a time dimension, and metrics may have been appended. Nothing else
has changed: `Manifest.normalize_effect`.
-/

namespace SemanticLayer

/-! ### Measures -/

namespace Measure

/-- The measure counts, but has no expression for what it counts. -/
def countsNothing (m : Measure) : Bool := m.agg == .count && m.expr.isNone

/-- What becomes of a measure, in a model whose default time dimension is `time`. -/
structure TurnsInto (time : Option String) (m m' : Measure) : Prop where
  name       : m'.name = Text.lower m.name
  direct     : m'.IsDirect
  count      : m.agg = .count → m'.agg = .sum ∧ ∃ expr, m.expr = some expr ∧
    m'.expr = some (if Text.trim expr = "1" then expr else
      s!"CASE WHEN {expr} IS NOT NULL THEN 1 ELSE 0 END")
  sumBoolean : m.agg = .sumBoolean → m'.agg = .sum ∧
    m'.expr = some s!"CASE WHEN {m.expr.getD (Text.lower m.name)} THEN 1 ELSE 0 END"
  median     : m.agg = .median → m'.agg = .percentile ∧
    m'.aggParams =
      some { m.aggParams.getD .empty with percentile := some .half, useDiscrete := false }
  agg        : m.IsDirect → m'.agg = m.agg
  expr       : m.agg ≠ .count → m.agg ≠ .sumBoolean → m'.expr = m.expr
  aggParams  : m.agg ≠ .median → m'.aggParams = m.aggParams
  timed      : m'.aggTimeDimension = m.aggTimeDimension.or time
  frame      : { m' with
    name             := m.name
    agg              := m.agg
    expr             := m.expr
    aggParams        := m.aggParams
    aggTimeDimension := m.aggTimeDimension } = m

variable {m m' : Measure} {e : NormalizeError}

lemma countsNothing_iff : m.countsNothing ↔ m.agg = .count ∧ m.expr = none := by
  simp [countsNothing]

lemma directAggregation_eq_error_iff :
    m.directAggregation = .error e ↔ m.countsNothing ∧ e = .countWithoutExpr m.name := by
  rw [countsNothing_iff]
  constructor
  · intro h
    unfold directAggregation at h
    split at h
    · next hagg =>
      split at h
      · next hexpr =>
        cases h
        exact ⟨⟨hagg, hexpr⟩, rfl⟩
      · simp at h
    all_goals simp at h
  · rintro ⟨⟨hagg, hexpr⟩, rfl⟩
    simp only [directAggregation, hagg, hexpr]

lemma exists_expr_of_directAggregation (h : m.directAggregation = .ok m') (hagg : m.agg = .count) :
    ∃ expr, m.expr = some expr := by
  rw [← Option.ne_none_iff_exists']
  intro hexpr
  have herror := directAggregation_eq_error_iff.2 ⟨countsNothing_iff.2 ⟨hagg, hexpr⟩, rfl⟩
  rw [h] at herror
  simp at herror

lemma eq_direct (h : m.directAggregation = .ok m') : m' = m.direct := by
  rw [direct, h]
  rfl

lemma count_of_directAggregation (h : m.directAggregation = .ok m') (hagg : m.agg = .count) :
    m'.agg = .sum ∧ ∃ expr, m.expr = some expr ∧
      m'.expr = some (if Text.trim expr = "1" then expr else
        s!"CASE WHEN {expr} IS NOT NULL THEN 1 ELSE 0 END") := by
  obtain ⟨expr, hexpr⟩ := exists_expr_of_directAggregation h hagg
  rw [eq_direct h, direct_of_count hagg hexpr]
  refine ⟨rfl, expr, hexpr, ?_⟩
  simp only [countedExpr, beq_iff_eq]

lemma sumBoolean_of_directAggregation (h : m.directAggregation = .ok m')
    (hagg : m.agg = .sumBoolean) :
    m'.agg = .sum ∧ m'.expr = some s!"CASE WHEN {m.expr.getD m.name} THEN 1 ELSE 0 END" := by
  rw [eq_direct h, direct_of_sumBoolean hagg]
  exact ⟨rfl, rfl⟩

lemma median_of_directAggregation (h : m.directAggregation = .ok m') (hagg : m.agg = .median) :
    m'.agg = .percentile ∧ m'.aggParams =
      some { m.aggParams.getD .empty with percentile := some .half, useDiscrete := false } := by
  rw [eq_direct h, direct_of_median hagg]
  exact ⟨rfl, rfl⟩

lemma agg_of_directAggregation (h : m.directAggregation = .ok m') (hdirect : m.IsDirect) :
    m'.agg = m.agg := by
  rw [eq_direct h, direct_of_isDirect hdirect]

lemma expr_of_directAggregation (h : m.directAggregation = .ok m') (hcount : m.agg ≠ .count)
    (hbool : m.agg ≠ .sumBoolean) : m'.expr = m.expr := by
  rw [eq_direct h]
  by_cases hmedian : m.agg = .median
  · rw [direct_of_median hmedian]
  · rw [direct_of_isDirect ⟨hcount, hbool, hmedian⟩]

lemma aggParams_of_directAggregation (h : m.directAggregation = .ok m')
    (hmedian : m.agg ≠ .median) : m'.aggParams = m.aggParams := by
  rw [eq_direct h]
  by_cases hcount : m.agg = .count
  · obtain ⟨expr, hexpr⟩ := exists_expr_of_directAggregation h hcount
    rw [direct_of_count hcount hexpr]
  by_cases hbool : m.agg = .sumBoolean
  · rw [direct_of_sumBoolean hbool]
  · rw [direct_of_isDirect ⟨hcount, hbool, hmedian⟩]

/-- A measure becomes the one with its name in lower case, a direct aggregation and a time
dimension. -/
lemma turnsInto_of_directAggregation {time : Option String}
    (h : directAggregation { m with name := Text.lower m.name } = .ok m') :
    m.TurnsInto time (m'.fillAggTimeDimension time) where
  name       := (name_of_directAggregation h :)
  direct     := (isDirect_of_directAggregation h :)
  count      := (count_of_directAggregation h :)
  sumBoolean := (sumBoolean_of_directAggregation h :)
  median     := (median_of_directAggregation h :)
  agg        := (agg_of_directAggregation h :)
  expr       := (expr_of_directAggregation h :)
  aggParams  := (aggParams_of_directAggregation h :)
  timed      := congrArg (·.aggTimeDimension.or time) (frame_of_directAggregation h)
  frame      := congrArg (fun l : Measure => { l with
    name := m.name, aggTimeDimension := m.aggTimeDimension }) (frame_of_directAggregation h)

lemma directAggregations_eq_error_iff {ms : List Measure} :
    directAggregations ms = .error e ↔
      ∃ m ∈ ms.find? countsNothing, e = .countWithoutExpr m.name := by
  induction ms with
  | nil => simp [directAggregations]
  | cons m ms ih =>
    rw [directAggregations, List.find?_cons]
    -- the first measure decides unless it has a direct aggregation
    cases hm : m.directAggregation with
    | error e' =>
      obtain ⟨hnothing, rfl⟩ := directAggregation_eq_error_iff.1 hm
      simp [hnothing, eq_comm]
    | ok m' =>
      have hnothing : m.countsNothing = false := by
        rw [Bool.eq_false_iff]
        intro hnothing
        rw [directAggregation_eq_error_iff.2 ⟨hnothing, rfl⟩] at hm
        simp at hm
      simp only [hnothing, ← ih]
      cases directAggregations ms <;> simp

end Measure

/-! ### Models -/

namespace SemanticModel

/-- What becomes of a model. -/
structure TurnsInto (m m' : SemanticModel) : Prop where
  name       : m'.name = Text.lower m.name
  entities   : m'.entities = m.entities.map fun e => { e with name := Text.lower e.name }
  dimensions : m'.dimensions = m.dimensions.map fun d => { d with name := Text.lower d.name }
  measures   : List.Forall₂ (Measure.TurnsInto m'.defaultAggTimeDimension?) m.measures m'.measures
  frame      : { m' with
    name       := m.name
    entities   := m.entities
    dimensions := m.dimensions
    measures   := m.measures } = m

variable {m m' : SemanticModel} {e : NormalizeError}

lemma normalize_eq_error_iff : m.normalize = .error e ↔
    ∃ measure ∈ m.measures.find? (·.countsNothing),
      e = .countWithoutExpr (Text.lower measure.name) := by
  have hfind : m.lowerNames.measures.find? (·.countsNothing) =
      (m.measures.find? (·.countsNothing)).map fun e => { e with name := Text.lower e.name } :=
    List.find?_map
  have hmeasures : m.normalize = .error e ↔
      Measure.directAggregations m.lowerNames.measures = .error e := by
    unfold normalize
    cases Measure.directAggregations m.lowerNames.measures <;> simp
  rw [hmeasures, Measure.directAggregations_eq_error_iff, hfind]
  simp

lemma turnsInto_of_normalize (h : m.normalize = .ok m') : m.TurnsInto m' := by
  obtain ⟨measures, hmeasures, rfl⟩ := normalize_eq_ok_iff.1 h
  exact {
    name := rfl
    entities := rfl
    dimensions := rfl
    measures := by
      refine List.forall₂_map_right_iff.2 ?_
      exact (List.forall₂_map_left_iff.1 hmeasures).imp fun _ _ =>
        Measure.turnsInto_of_directAggregation
    frame := rfl
  }

lemma normalizeAll_eq_error_iff {ms : List SemanticModel} :
    normalizeAll ms = .error e ↔
      ∃ measure ∈ (ms.flatMap (·.measures)).find? (·.countsNothing),
        e = .countWithoutExpr (Text.lower measure.name) := by
  induction ms with
  | nil => simp [normalizeAll]
  | cons m ms ih =>
    rw [normalizeAll, List.flatMap_cons, List.find?_append]
    cases hm : m.normalize with
    | error e' =>
      obtain ⟨measure, hmeasure, rfl⟩ := normalize_eq_error_iff.1 hm
      simp [Option.mem_def.1 hmeasure, eq_comm]
    | ok m' =>
      have hnone : m.measures.find? (·.countsNothing) = none := by
        rw [Option.eq_none_iff_forall_not_mem]
        intro measure hmeasure
        rw [normalize_eq_error_iff.2 ⟨measure, hmeasure, rfl⟩] at hm
        simp at hm
      rw [hnone, Option.none_or, ← ih]
      cases normalizeAll ms <;> simp

end SemanticModel

/-! ### Metrics and saved queries -/

/-- What becomes of a metric: its name is in lower case. -/
structure Metric.TurnsInto (m m' : Metric) : Prop where
  name  : m'.name = Text.lower m.name
  frame : { m' with name := m.name } = m

/-- What becomes of a saved query: its name is in lower case. -/
structure SavedQuery.TurnsInto (q q' : SavedQuery) : Prop where
  name  : q'.name = Text.lower q.name
  frame : { q' with name := q.name } = q

lemma Metric.turnsInto_lowerName (m : Metric) : m.TurnsInto m.lowerName := ⟨rfl, rfl⟩

lemma SavedQuery.turnsInto_lowerName (q : SavedQuery) : q.TurnsInto q.lowerName := ⟨rfl, rfl⟩

/-- The metric stands for a measure of a model: it is a simple metric of that measure, and it shows
what the measure shows. -/
structure Metric.StandsFor (model : SemanticModel) (e : Measure) (m : Metric) : Prop where
  name        : m.name = e.name
  kind        : m.kind = .simple
  params      : m.params = { MetricParams.empty with measure := some (.ofName e.name) }
  filter      : m.filter = none
  description : m.description = e.description
  label       : m.label = e.label
  metadata    : m.metadata = model.metadata

lemma Metric.standsFor_ofMeasure (model : SemanticModel) (e : Measure) :
    (Metric.ofMeasure model e).StandsFor model e := ⟨rfl, rfl, rfl, rfl, rfl, rfl, rfl⟩

/-! ### Manifests -/

namespace Manifest

/-- What becomes of a manifest. -/
structure TurnsInto (m t : Manifest) : Prop where
  models       : List.Forall₂ SemanticModel.TurnsInto m.semanticModels t.semanticModels
  metrics      : List.Forall₂ Metric.TurnsInto m.metrics (t.metrics.take m.metrics.length)
  appended     : ∀ metric ∈ t.metrics.drop m.metrics.length,
    ∃ model ∈ t.semanticModels, ∃ e ∈ model.measures, e.createMetric ∧
      e.name ∉ m.metrics.map (Text.lower ·.name) ∧ metric.StandsFor model e
  savedQueries : List.Forall₂ SavedQuery.TurnsInto m.savedQueries t.savedQueries
  frame        : { t with
    semanticModels := m.semanticModels
    metrics        := m.metrics
    savedQueries   := m.savedQueries } = m

variable {m t : Manifest}

/-- The measures of all models in order. -/
def measures (m : Manifest) : List Measure := m.semanticModels.flatMap (·.measures)

lemma normalize_eq_error_iff {e : NormalizeError} : m.normalize = .error e ↔
    ∃ measure ∈ m.measures.find? (·.countsNothing),
      e = .countWithoutExpr (Text.lower measure.name) := by
  have hmodels : m.normalize = .error e ↔
      SemanticModel.normalizeAll m.semanticModels = .error e := by
    unfold normalize
    cases SemanticModel.normalizeAll m.semanticModels <;> simp
  rw [hmodels, SemanticModel.normalizeAll_eq_error_iff, measures]

lemma turnsInto_of_normalize (h : m.normalize = .ok t) : m.TurnsInto t := by
  obtain ⟨models, hmodels, rfl⟩ := normalize_eq_ok_iff.1 h
  exact {
    models := hmodels.imp fun _ _ => SemanticModel.turnsInto_of_normalize
    metrics := by
      rw [List.take_left' (List.length_map _), List.forall₂_map_right_iff, List.forall₂_same]
      exact fun metric _ => metric.turnsInto_lowerName
    appended := by
      intro metric hmetric
      have hmetric : metric ∈ measureMetrics models (m.metrics.map (·.lowerName)) := by
        simpa using hmetric
      obtain ⟨model, hmodel, e, he, hcreate, hnew, rfl⟩ := mem_measureMetrics.1 hmetric
      refine ⟨model, hmodel, e, he, hcreate, ?_, Metric.standsFor_ofMeasure model e⟩
      simpa [Metric.lowerName] using hnew
    savedQueries := by
      rw [List.forall₂_map_right_iff, List.forall₂_same]
      exact fun query _ => query.turnsInto_lowerName
    frame := rfl
  }

lemma exists_normalize_eq_error_iff : (∃ e, m.normalize = .error e) ↔
    ∃ model ∈ m.semanticModels, ∃ e ∈ model.measures, e.agg = .count ∧ e.expr = none := by
  have hfind : (∃ e, m.normalize = .error e) ↔ (m.measures.find? (·.countsNothing)).isSome := by
    simp only [normalize_eq_error_iff, Option.isSome_iff_exists]
    constructor
    · rintro ⟨e, measure, hmeasure, -⟩
      exact ⟨measure, hmeasure⟩
    · rintro ⟨measure, hmeasure⟩
      exact ⟨_, measure, hmeasure, rfl⟩
  rw [hfind, List.find?_isSome]
  simp only [measures, List.mem_flatMap, Measure.countsNothing_iff]
  constructor
  · rintro ⟨e, ⟨model, hmodel, he⟩, hnothing⟩
    exact ⟨model, hmodel, e, he, hnothing⟩
  · rintro ⟨model, hmodel, e, he, hnothing⟩
    exact ⟨e, ⟨model, hmodel, he⟩, hnothing⟩

/-- What normalizing does and nothing else: it fails if and only if some measure counts without an
expression, and then the message names the first such measure, in lower case. Otherwise the manifest
turns into its normal form. -/
theorem normalize_effect (m : Manifest) :
    ((∃ e, m.normalize = .error e) ↔
      ∃ model ∈ m.semanticModels, ∃ e ∈ model.measures, e.agg = .count ∧ e.expr = none) ∧
    (∀ e, m.normalize = .error e →
      ∃ measure ∈ m.measures.find? (fun e => e.agg == .count && e.expr.isNone),
        e.message = s!"Measure {Text.lower measure.name} uses a COUNT aggregation, " ++
          "which requires an expr to be provided. " ++
          "Provide 'expr: 1' if a count of all rows is desired.") ∧
    ∀ t, m.normalize = .ok t → m.TurnsInto t := by
  refine ⟨exists_normalize_eq_error_iff, ?_, fun t => turnsInto_of_normalize⟩
  intro e h
  obtain ⟨measure, hmeasure, rfl⟩ := normalize_eq_error_iff.1 h
  have htext : " uses a COUNT aggregation, which requires an expr to be provided. " =
      " uses a COUNT aggregation, " ++ "which requires an expr to be provided. " := rfl
  refine ⟨measure, hmeasure, ?_⟩
  simp only [NormalizeError.message, toString, htext, String.append_assoc]

/-- Accounts and visits, with two counts that have no expression. -/
def uncounted : Manifest where
  semanticModels := [
    { name          := "Accounts"
      description   := none
      label         := none
      nodeRelation  := ⟨"accounts", "main", none, none⟩
      defaults      := none
      primaryEntity := none
      entities      := [⟨"account", .primary, none, none, none, none⟩]
      dimensions    := [⟨"ds", .time, none, false, some ⟨some .day, true, none⟩, none, none⟩]
      measures      := [
        ⟨"Opened", .count, none, true, some "1", none, none, none, none⟩,
        ⟨"Held", .count, none, true, none, none, none, none, none⟩]
      metadata      := none },
    { name          := "visits"
      description   := none
      label         := none
      nodeRelation  := ⟨"visits", "main", none, none⟩
      defaults      := none
      primaryEntity := none
      entities      := [⟨"visit", .primary, none, none, none, none⟩]
      dimensions    := []
      measures      := [⟨"Seen", .count, none, true, none, none, none, none, none⟩]
      metadata      := none }]
  metrics           := []
  savedQueries      := []
  configuration     := ⟨[]⟩
  interfacesVersion := defaultVersion

/-- The manifest with one more metric, a rate, and with a saved query that asks for it, by names
that are given. -/
def withQuery (rate query : String) (m : Manifest) : Manifest :=
  { m with
    metrics      := {
      name        := rate
      kind        := .ratio
      params      := { MetricParams.empty with
        numerator   := some (.ofName "Paid")
        denominator := some (.ofName "Price") }
      filter      := none
      description := some "Orders that are Paid"
      label       := some "Paid Rate"
      metadata    := none } :: m.metrics
    savedQueries := [{
      name        := query
      params      := { QueryParams.empty with
        metrics := ["Paid_Rate"]
        groupBy := ["Dimension('Order__DS')"] }
      description := none
      label       := some "Weekly Rate"
      exports     := [⟨"WEEKLY", .table, some "Reports", none⟩]
      metadata    := none }] }

/-- Of two counts without an expression the first one is named, and a manifest whose counts all have
one turns into its normal form, where a metric and a saved query keep what they say and lose only
the capitals of their names. -/
theorem normalize_effect_uncounted :
    uncounted.normalize = .error (.countWithoutExpr "held") ∧
    (unsettled.withQuery "Paid_Rate" "WEEKLY").TurnsInto
      (settled.withQuery "paid_rate" "weekly") := by
  have herror : uncounted.normalize = .error (.countWithoutExpr "held") := by decide +kernel
  have hok : (unsettled.withQuery "Paid_Rate" "WEEKLY").normalize =
      .ok (settled.withQuery "paid_rate" "weekly") := by decide +kernel
  exact ⟨herror, (normalize_effect _).2.2 _ hok⟩

end Manifest

end SemanticLayer

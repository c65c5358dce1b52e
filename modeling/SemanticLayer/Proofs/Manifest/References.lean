import SemanticLayer.Proofs.Manifest.Lookups
import SemanticLayer.Proofs.Manifest.NormalForm

/-!
# References by name

Metrics and saved queries name measures and metrics of the manifest, and a semantic model and its
measures name dimensions of the model. Normalizing keeps these references as they are written, while
the names they are compared with come to be in lower case. So a reference that resolved before still
resolves just when it is written in lower case: `references_normalize`.
-/

namespace SemanticLayer

/-! ### Lists that are related item by item -/

section Forall₂

variable {α β γ : Type} {R : α → β → Prop} {as : List α} {bs : List β}

lemma exists_getElem?_of_forall₂ (h : List.Forall₂ R as bs) {i : ℕ} {a : α}
    (ha : as[i]? = some a) : ∃ b, bs[i]? = some b ∧ R a b := by
  obtain ⟨hi, rfl⟩ := List.getElem?_eq_some_iff.1 ha
  have hi' : i < bs.length := h.length_eq ▸ hi
  exact ⟨bs[i], List.getElem?_eq_getElem hi', h.get hi hi'⟩

lemma flatMap_sublist_of_forall₂ (h : List.Forall₂ R as bs) {f : α → List γ} {g : β → List γ}
    (hfg : ∀ a b, R a b → (f a).Sublist (g b)) : (as.flatMap f).Sublist (bs.flatMap g) := by
  induction h with
  | nil => exact .refl _
  | cons hab _ ih =>
    rw [List.flatMap_cons, List.flatMap_cons]
    exact (hfg _ _ hab).append ih

lemma forall₂_zipIdx (h : List.Forall₂ R as bs) (start : ℕ) :
    List.Forall₂ (fun p q => R p.1 q.1 ∧ p.2 = q.2) (as.zipIdx start) (bs.zipIdx start) := by
  induction h generalizing start with
  | nil => exact .nil
  | cons hab _ ih => exact .cons ⟨hab, rfl⟩ (ih (start + 1))

end Forall₂

/-! ### References -/

/-- A reference by name: to a measure or a metric of the manifest, or to a dimension of the semantic
model at a position. -/
inductive Reference where
  | measure   (name : String)
  | metric    (name : String)
  | dimension (model : ℕ) (name : String)
  deriving DecidableEq

namespace Reference

/-- The name that is looked up. -/
def name : Reference → String
  | .measure name     => name
  | .metric name      => name
  | .dimension _ name => name

/-- Something is found under the name. -/
def resolves (m : Manifest) : Reference → Bool
  | .measure name     => (m.measure? name).isSome
  | .metric name      => (m.metric? name).isSome
  | .dimension i name => m.semanticModels[i]?.any fun model => (model.dimension? name).isSome

/-- The names that the name is compared with. -/
def candidates (m : Manifest) : Reference → List String
  | .measure _     => m.measureNames
  | .metric _      => m.metricNames
  | .dimension i _ => m.semanticModels[i]?.toList.flatMap fun model =>
      model.dimensions.map (·.name)

lemma resolves_iff {m : Manifest} {r : Reference} : r.resolves m ↔ r.name ∈ r.candidates m := by
  cases r with
  | measure name => exact Manifest.isSome_measure?_iff
  | metric name => exact Manifest.isSome_metric?_iff
  | dimension i name =>
    simp only [resolves, candidates]
    cases m.semanticModels[i]? with
    | none => simp
    | some model => simpa [Reference.name] using SemanticModel.isSome_dimension?_iff

end Reference

/-- The dimensions that a model names for its measures to be aggregated over, and those that its
measures name. -/
def SemanticModel.timeReferences (m : SemanticModel) : List String :=
  m.declaredAggTimeDimension?.toList ++ m.measures.flatMap (·.aggTimeDimension.toList)

/-- What a metric reads. -/
def Metric.references (m : Metric) : List Reference :=
  m.inputMeasures.map (.measure ·.name) ++ m.inputMetrics.map (.metric ·.name)

/-- What a saved query asks for. -/
def SavedQuery.references (q : SavedQuery) : List Reference := q.params.metrics.map .metric

/-- The references by name in a manifest: those of models, of metrics and of saved queries. -/
def Manifest.references (m : Manifest) : List Reference :=
  (m.semanticModels.zipIdx.flatMap fun (model, i) => model.timeReferences.map (.dimension i)) ++
    m.metrics.flatMap (·.references) ++ m.savedQueries.flatMap (·.references)

/-! ### Normal forms of models -/

namespace SemanticModel

variable {m m' : SemanticModel}

lemma measureNames_normalize (h : m.normalize = .ok m') :
    m'.measures.map (·.name) = m.measures.map (Text.lower ·.name) := by
  obtain ⟨measures, hmeasures, rfl⟩ := normalize_eq_ok_iff.1 h
  have hnames : List.Forall₂ (· = ·) (m.lowerNames.measures.map (·.name))
      (measures.map (·.name)) := by
    rw [List.forall₂_map_left_iff, List.forall₂_map_right_iff]
    exact hmeasures.imp fun e e' he => (Measure.name_of_directAggregation he).symm
  rw [List.forall₂_eq_eq_eq] at hnames
  rw [fillAggTimeDimensions, List.map_map]
  exact hnames.symm.trans List.map_map

lemma dimensionNames_normalize (h : m.normalize = .ok m') :
    m'.dimensions.map (·.name) = m.dimensions.map (Text.lower ·.name) := by
  obtain ⟨measures, -, rfl⟩ := normalize_eq_ok_iff.1 h
  exact List.map_map

/-- A time dimension that is filled in is a reference more, and no reference is taken away. -/
lemma timeReferences_normalize (h : m.normalize = .ok m') :
    m.timeReferences.Sublist m'.timeReferences := by
  obtain ⟨measures, hmeasures, rfl⟩ := normalize_eq_ok_iff.1 h
  refine List.Sublist.append (.refl _) ?_
  have hlower : m.measures.flatMap (·.aggTimeDimension.toList) =
      m.lowerNames.measures.flatMap (·.aggTimeDimension.toList) := by
    simp only [lowerNames, List.flatMap_map]
  rw [hlower, fillAggTimeDimensions, List.flatMap_map]
  refine flatMap_sublist_of_forall₂ hmeasures fun e e' he => ?_
  have hkeep : e'.aggTimeDimension = e.aggTimeDimension := by
    rw [← Measure.frame_of_directAggregation he]
  rw [Measure.fillAggTimeDimension, hkeep]
  cases e.aggTimeDimension <;> simp

end SemanticModel

/-! ### Normal forms of manifests -/

namespace Manifest

variable {m t : Manifest}

/-- Normalizing keeps references as they are written. -/
lemma references_sublist_normalize (h : m.normalize = .ok t) :
    m.references.Sublist t.references := by
  obtain ⟨models, hmodels, rfl⟩ := normalize_eq_ok_iff.1 h
  refine .append (.append ?_ ?_) ?_
  · refine flatMap_sublist_of_forall₂ (forall₂_zipIdx hmodels 0) ?_
    rintro ⟨model, i⟩ ⟨model', _⟩ ⟨hmodel, rfl⟩
    exact (SemanticModel.timeReferences_normalize hmodel).map _
  · have hlower : (m.metrics.map (·.lowerName)).flatMap (·.references) =
        m.metrics.flatMap (·.references) := List.flatMap_map ..
    rw [List.flatMap_append, hlower]
    exact List.sublist_append_left _ _
  · have hlower : (m.savedQueries.map (·.lowerName)).flatMap (·.references) =
        m.savedQueries.flatMap (·.references) := List.flatMap_map ..
    rw [hlower]

/-- What a reference was compared with, it is compared with in lower case. -/
lemma lower_mem_candidates_normalize (h : m.normalize = .ok t) {r : Reference} {name : String}
    (hname : name ∈ r.candidates m) : Text.lower name ∈ r.candidates t := by
  obtain ⟨models, hmodels, rfl⟩ := normalize_eq_ok_iff.1 h
  cases r with
  | measure _ =>
    obtain ⟨model, hmodel, hname⟩ := List.mem_flatMap.1 hname
    obtain ⟨model', hmodel', hnormal⟩ := exists_of_forall₂_of_mem hmodels.flip hmodel
    refine List.mem_flatMap.2 ⟨model', hmodel', ?_⟩
    rw [SemanticModel.measureNames_normalize hnormal]
    obtain ⟨e, he, rfl⟩ := List.mem_map.1 hname
    exact List.mem_map_of_mem he
  | metric _ =>
    obtain ⟨metric, hmetric, rfl⟩ := List.mem_map.1 hname
    refine List.mem_map.2 ⟨metric.lowerName, ?_, rfl⟩
    exact List.mem_append_left _ (List.mem_map_of_mem hmetric)
  | dimension i _ =>
    obtain ⟨model, hmodel, hname⟩ := List.mem_flatMap.1 hname
    obtain ⟨model', hmodel', hnormal⟩ :=
      exists_getElem?_of_forall₂ hmodels (Option.mem_toList.1 hmodel)
    refine List.mem_flatMap.2 ⟨model', Option.mem_toList.2 hmodel', ?_⟩
    rw [SemanticModel.dimensionNames_normalize hnormal]
    obtain ⟨d, hd, rfl⟩ := List.mem_map.1 hname
    exact List.mem_map_of_mem hd

/-- What a reference is compared with in a normal form is in lower case. -/
lemma isLower_of_mem_candidates (h : t.IsNormal) {r : Reference} {name : String}
    (hname : name ∈ r.candidates t) : Text.IsLower name := by
  cases r with
  | measure _ =>
    obtain ⟨model, hmodel, hname⟩ := List.mem_flatMap.1 hname
    obtain ⟨e, he, rfl⟩ := List.mem_map.1 hname
    exact (h.models model hmodel).measures e he
  | metric _ =>
    obtain ⟨metric, hmetric, rfl⟩ := List.mem_map.1 hname
    exact h.metrics metric hmetric
  | dimension i _ =>
    obtain ⟨model, hmodel, hname⟩ := List.mem_flatMap.1 hname
    obtain ⟨d, hd, rfl⟩ := List.mem_map.1 hname
    have hmodel : model ∈ t.semanticModels := List.mem_of_getElem? (Option.mem_toList.1 hmodel)
    exact (h.models model hmodel).dimensions d hd

/-- Normalizing adds references but changes none, and one that resolves in a manifest resolves in
the normal form just when it is written in lower case. -/
theorem references_normalize (h : m.normalize = .ok t) :
    m.references.Sublist t.references ∧
      ∀ r : Reference, r.resolves m → (r.resolves t ↔ Text.lower r.name = r.name) := by
  refine ⟨references_sublist_normalize h, fun r hr => ?_⟩
  rw [Reference.resolves_iff] at hr ⊢
  constructor
  · intro hr'
    exact Text.lower_eq_self (isLower_of_mem_candidates (isNormal_of_normalize h) hr')
  · intro hlower
    rw [← hlower]
    exact lower_mem_candidates_normalize h hr

/-- Names of a measure, a metric and a dimension. -/
structure Spelling where
  measure   : String
  metric    : String
  dimension : String

/-- Visits where everything is referred to as it is spelled in `referred`, and defined as it is
spelled in `defined`. -/
def visitsSpelled (defined referred : Spelling) : Manifest where
  semanticModels := [{
    name          := "visits"
    description   := none
    label         := none
    nodeRelation  := ⟨"visits", "main", none, none⟩
    defaults      := some ⟨some referred.dimension⟩
    primaryEntity := none
    entities      := [⟨"visit", .primary, none, none, none, none⟩]
    dimensions    := [⟨defined.dimension, .time, none, false, some ⟨some .day, false, none⟩, none,
      none⟩]
    measures      := [⟨defined.measure, .sum, none, false, some "1", none, none,
      some referred.dimension, none⟩]
    metadata      := none }]
  metrics := [
    ⟨defined.metric, .simple, { MetricParams.empty with
      measure := some (.ofName referred.measure) }, none, none, none, none⟩,
    ⟨"doubled", .derived, { MetricParams.empty with
      metrics := some [.ofName referred.metric] }, none, none, none, none⟩]
  savedQueries      :=
    [⟨"daily", { QueryParams.empty with metrics := [referred.metric] }, none, none, [], none⟩]
  configuration     := ⟨[]⟩
  interfacesVersion := defaultVersion

/-- Only the metric has a capital. -/
def oneCapital : Spelling := ⟨"buyers", "Seen", "ds"⟩

/-- Everything has a capital. -/
def capitals : Spelling := ⟨"Buyers", "Seen", "DS"⟩

/-- References that resolve in lower case go on to do so, and one with a capital does not. -/
theorem references_normalize_oneCapital :
    ∃ t, (visitsSpelled oneCapital oneCapital).normalize = .ok t ∧
      (Reference.measure "buyers").resolves t ∧ (Reference.dimension 0 "ds").resolves t ∧
      ¬(Reference.metric "Seen").resolves t := by
  have h : (visitsSpelled oneCapital oneCapital).normalize =
      .ok (visitsSpelled ⟨"buyers", "seen", "ds"⟩ oneCapital) := by decide +kernel
  have hresolves := (references_normalize h).2
  refine ⟨_, h, ?_, ?_, ?_⟩
  · exact (hresolves (.measure "buyers") (by decide +kernel)).2 (by decide +kernel)
  · exact (hresolves (.dimension 0 "ds") (by decide +kernel)).2 (by decide +kernel)
  · intro hseen
    exact absurd ((hresolves (.metric "Seen") (by decide +kernel)).1 hseen) (by decide +kernel)

/-- Where everything has a capital all references resolve, and none does in the normal form, which
has the same references. -/
theorem not_resolves_normalize_capitals :
    (visitsSpelled capitals capitals).references =
      [.dimension 0 "DS", .dimension 0 "DS", .measure "Buyers", .metric "Seen", .metric "Seen"] ∧
    (∀ r ∈ (visitsSpelled capitals capitals).references,
      r.resolves (visitsSpelled capitals capitals)) ∧
    ∃ t, (visitsSpelled capitals capitals).normalize = .ok t ∧
      ∀ r ∈ (visitsSpelled capitals capitals).references, r ∈ t.references ∧ ¬r.resolves t :=
  ⟨by decide +kernel, by decide +kernel,
    visitsSpelled ⟨"buyers", "seen", "ds"⟩ capitals, by decide +kernel, by decide +kernel⟩

end Manifest

end SemanticLayer

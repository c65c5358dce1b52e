import Mathlib.Data.List.Nodup
import Mathlib.Tactic.Common
import SemanticLayer.Manifest.Basic

/-!
# Lookups by name

A lookup finds something just when an object has the name that is looked for. Where the names are
distinct, it finds the only object of that name.
-/

namespace SemanticLayer

/-! ### Keys -/

section Keys

variable {α κ : Type} [DecidableEq κ] {key : α → κ} {as : List α} {a : α} {k : κ}

lemma isSome_find?_key_iff : (as.find? (key · == k)).isSome ↔ k ∈ as.map key := by
  simp [List.find?_isSome]

/-- Where keys are distinct, the item that is found by its key is the only one that has it. -/
lemma find?_key_eq_some_iff (h : (as.map key).Nodup) :
    as.find? (key · == k) = some a ↔ a ∈ as ∧ key a = k := by
  constructor
  · intro hfind
    exact ⟨List.mem_of_find?_eq_some hfind, by simpa using List.find?_some hfind⟩
  · rintro ⟨ha, rfl⟩
    obtain ⟨b, hb⟩ : ∃ b, as.find? (key · == key a) = some b :=
      Option.isSome_iff_exists.1 (isSome_find?_key_iff.2 (List.mem_map_of_mem ha))
    have hkey : key b = key a := by simpa using List.find?_some hb
    obtain rfl := List.inj_on_of_nodup_map h (List.mem_of_find?_eq_some hb) ha hkey
    exact hb

end Keys

/-! ### Elements of a model -/

namespace SemanticModel

variable {model : SemanticModel} {name : String}

lemma isSome_dimension?_iff :
    (model.dimension? name).isSome ↔ name ∈ model.dimensions.map (·.name) :=
  isSome_find?_key_iff

lemma isSome_measure?_iff :
    (model.measure? name).isSome ↔ name ∈ model.measures.map (·.name) :=
  isSome_find?_key_iff

/-- A name that passes for that of a time dimension is the name of one. -/
lemma exists_of_isTimeDimension (h : model.isTimeDimension name) :
    ∃ d ∈ model.dimensions, d.kind = .time ∧ d.name = name := by
  obtain ⟨d, hd, hkind⟩ := Option.any_eq_true _ _ |>.1 h
  exact ⟨d, List.mem_of_find?_eq_some hd, by simpa using hkind, by simpa using List.find?_some hd⟩

end SemanticModel

/-! ### Objects of a manifest -/

namespace Manifest

variable {m : Manifest} {name : String}

/-- The names of the metrics. -/
def metricNames (m : Manifest) : List String := m.metrics.map (·.name)

/-- The measures of all semantic models, each with its model. -/
def definedMeasures (m : Manifest) : List (SemanticModel × Measure) :=
  m.semanticModels.flatMap fun model => model.measures.map (model, ·)

/-- The names of the measures of all semantic models. -/
def measureNames (m : Manifest) : List String :=
  m.semanticModels.flatMap fun model => model.measures.map (·.name)

lemma map_name_definedMeasures : m.definedMeasures.map (·.2.name) = m.measureNames := by
  simp only [definedMeasures, measureNames, List.map_flatMap, List.map_map, Function.comp_def]

lemma isSome_metric?_iff : (m.metric? name).isSome ↔ name ∈ m.metricNames :=
  isSome_find?_key_iff

/-- The first model that defines a measure of a name defines the first such measure of all. -/
lemma measure?_eq_find? : m.measure? name = m.definedMeasures.find? (·.2.name == name) := by
  simp only [measure?, SemanticModel.measure?, definedMeasures, List.find?_flatMap,
    List.find?_map, Function.comp_def]

lemma isSome_measure?_iff : (m.measure? name).isSome ↔ name ∈ m.measureNames := by
  rw [measure?_eq_find?, ← map_name_definedMeasures]
  exact isSome_find?_key_iff

end Manifest

end SemanticLayer

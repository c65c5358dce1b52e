import SemanticLayer.Proofs.Validation.FirstItems
import SemanticLayer.Proofs.Validation.MetricReferences

/-!
# Names of measure inputs

A measure input goes by its alias or, where it has none, by the name of its measure. In a valid
manifest that name tells which measure it is, across all metrics: an alias stands for one measure,
and it is not the name of another one.
-/

namespace SemanticLayer

open Issues Rules

namespace Manifest

variable {m : Manifest}

/-- The measure inputs of all metrics. -/
def measureInputs (m : Manifest) : List MeasureInput := m.metrics.flatMap (·.inputMeasures)

lemma mem_aliasedInputs_iff {metric : Metric} {input : MeasureInput} {name : String} :
    (metric, input, name) ∈ aliasedInputs m ↔
      metric ∈ m.metrics ∧ input ∈ metric.inputMeasures ∧ input.aliasName = some name := by
  simp [aliasedInputs]

/-- An alias is a valid name and no name of another measure, and inputs of one alias read the same
measure. -/
lemma isClear_measureAliases_iff : IsClear (measureAliases m) ↔
    (∀ a ∈ aliasedInputs m, IsValidName a.2.2 ∧
      (a.2.2 ∈ m.measureNames → a.2.2 = a.2.1.name)) ∧
    ∀ a ∈ aliasedInputs m, ∀ b ∈ aliasedInputs m, a.2.2 = b.2.2 → a.2.1.name = b.2.1.name := by
  rw [← forall_withEarlier_eq_iff (f := fun a : Metric × MeasureInput × String => a.2.1.name),
    ← forall_fst_withEarlier (fun a : Metric × MeasureInput × String => a.2.2), ← forall₂_and,
    measureAliases, isClear_flatMap]
  refine forall₂_congr fun p _ => ?_
  obtain ⟨⟨metric, input, name⟩, earlier⟩ := p
  simp only [isClear_append, isClear_nameIssues, and_assoc]
  refine and_congr_right fun _ => and_congr ?_ ?_
  · rw [← isSome_measure?_iff]
    cases m.measure? name with
    | none       => simp
    | some found => simp
  · cases earlier with
    | nil          => simp
    | cons first _ => simp

/-- An input that goes by a name reads the measure of that name, or has the name as its alias. -/
lemma eq_or_mem_aliasedInputs {i : MeasureInput} (hi : i ∈ m.measureInputs) :
    i.effectiveName = i.name ∨ ∃ metric, (metric, i, i.effectiveName) ∈ aliasedInputs m := by
  obtain ⟨metric, hmetric, hinput⟩ := List.mem_flatMap.1 hi
  cases halias : i.aliasName with
  | none      => exact .inl (by simp [MeasureInput.effectiveName, halias])
  | some name =>
    refine .inr ⟨metric, mem_aliasedInputs_iff.2 ⟨hmetric, hinput, ?_⟩⟩
    simp [MeasureInput.effectiveName, halias]

/-- In a valid manifest measure inputs that go by one name read the same measure, and there is such
a measure. -/
theorem exists_measure_of_effectiveName (h : hasBlocking m.validate = false) {i j : MeasureInput}
    (hi : i ∈ m.measureInputs) (hj : j ∈ m.measureInputs)
    (hname : i.effectiveName = j.effectiveName) :
    i.name = j.name ∧ ∃ model e, m.measure? i.name = some (model, e) ∧
      m.measure? j.name = some (model, e) := by
  have hvalid := hasBlocking_validate_eq_false_iff.1 h
  obtain ⟨haliases, hsame⟩ := isClear_measureAliases_iff.1 hvalid.measureAliases
  have hdefined (k : MeasureInput) (hk : k ∈ m.measureInputs) : k.name ∈ m.measureNames := by
    obtain ⟨metric, hmetric, hinput⟩ := List.mem_flatMap.1 hk
    exact isClear_metricMeasures_iff.1 hvalid.metricMeasures metric hmetric k hinput
  -- an alias that is the name of a defined measure is the name of the measure that is read
  have hshadow (k : MeasureInput) (metric : Metric)
      (hk : (metric, k, k.effectiveName) ∈ aliasedInputs m)
      (hmeasure : k.effectiveName ∈ m.measureNames) : k.effectiveName = k.name :=
    (haliases _ hk).2 hmeasure
  have heq : i.name = j.name := by
    rcases eq_or_mem_aliasedInputs hi with hbare | ⟨metric, halias⟩
    · rcases eq_or_mem_aliasedInputs hj with hbare' | ⟨metric', halias'⟩
      · rw [← hbare, hname, hbare']
      · have hmeasure : j.effectiveName ∈ m.measureNames := by
          rw [← hname, hbare]
          exact hdefined i hi
        rw [← hbare, hname, hshadow j metric' halias' hmeasure]
    · rcases eq_or_mem_aliasedInputs hj with hbare' | ⟨metric', halias'⟩
      · have hmeasure : i.effectiveName ∈ m.measureNames := by
          rw [hname, hbare']
          exact hdefined j hj
        rw [← hshadow i metric halias hmeasure, hname, hbare']
      · exact hsame _ halias _ halias' hname
  obtain ⟨⟨model, e⟩, hfound⟩ :=
    Option.isSome_iff_exists.1 (isSome_measure?_iff.2 (hdefined i hi))
  exact ⟨heq, model, e, hfound, heq ▸ hfound⟩

/-- Visits that are read under one alias by a simple metric and by the base of a conversion. -/
def visitsAliased : Manifest where
  semanticModels := [{
    name          := "visits"
    description   := none
    label         := none
    nodeRelation  := ⟨"visits", "main", none, none⟩
    defaults      := none
    primaryEntity := none
    entities      := [⟨"visit", .primary, none, none, none, none⟩]
    dimensions    := [⟨"ds", .time, none, false, some ⟨some .day, true, none⟩, none, none⟩]
    measures      := [⟨"views", .sum, none, false, some "1", none, none, none, none⟩]
    metadata      := none }]
  metrics := [
    ⟨"seen", .simple, { MetricParams.empty with
      measure := some { MeasureInput.ofName "views" with aliasName := some "opened" } },
      none, none, none, none⟩,
    ⟨"rate", .conversion, { MetricParams.empty with
      conversion := some
        ⟨{ MeasureInput.ofName "views" with aliasName := some "opened", joinToTimespine := true },
          .ofName "views", "visit", .conversionRate, none, none⟩ }, none, none, none, none⟩]
  savedQueries      := []
  configuration     := ⟨[]⟩
  interfacesVersion := defaultVersion

/-- Two different inputs under one alias read the same measure. -/
theorem exists_measure_visitsAliased :
    hasBlocking visitsAliased.validate = false ∧
    ∃ i ∈ visitsAliased.measureInputs, ∃ j ∈ visitsAliased.measureInputs, i ≠ j ∧
      i.effectiveName = j.effectiveName ∧ i.name = j.name ∧
      ∃ model e, visitsAliased.measure? i.name = some (model, e) ∧
        visitsAliased.measure? j.name = some (model, e) := by
  have hvalid : hasBlocking visitsAliased.validate = false := by decide +kernel
  let i : MeasureInput := { MeasureInput.ofName "views" with aliasName := some "opened" }
  let j : MeasureInput := { i with joinToTimespine := true }
  have hi : i ∈ visitsAliased.measureInputs := by decide +kernel
  have hj : j ∈ visitsAliased.measureInputs := by decide +kernel
  have hname : i.effectiveName = j.effectiveName := rfl
  exact ⟨hvalid, i, hi, j, hj, by decide, hname, exists_measure_of_effectiveName hvalid hi hj hname⟩

end Manifest

end SemanticLayer

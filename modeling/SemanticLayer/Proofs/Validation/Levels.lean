import SemanticLayer.Proofs.Validation.Clear

/-!
# Levels of issues

What a rule finds is looked at level by level. A manifest is not blocked where there are no errors,
and nothing is found in it where there are no issues of any level. A rule that raises errors only
finds nothing as soon as it does not block.
-/

namespace SemanticLayer.Issues

/-- None of the issues is of one of the levels. -/
def Lacks (levels : List Severity) (issues : List Issue) : Prop :=
  ∀ i ∈ issues, i.severity ∉ levels

variable {levels : List Severity} {issues issues' : List Issue} {context : Option Context}
  {message : String}

/-! ### Structural simp API -/

@[simp] lemma lacks_nil : Lacks levels [] := by simp [Lacks]

@[simp] lemma lacks_append :
    Lacks levels (issues ++ issues') ↔ Lacks levels issues ∧ Lacks levels issues' :=
  List.forall_mem_append

@[simp] lemma lacks_flatMap {α : Type} {as : List α} {f : α → List Issue} :
    Lacks levels (as.flatMap f) ↔ ∀ a ∈ as, Lacks levels (f a) := by
  constructor
  · intro h a ha i hi
    exact h i (List.mem_flatMap.2 ⟨a, ha, hi⟩)
  · intro h i hi
    obtain ⟨a, ha, hi⟩ := List.mem_flatMap.1 hi
    exact h a ha i hi

@[simp] lemma lacks_ite {p : Prop} [Decidable p] :
    Lacks levels (if p then issues else issues') ↔
      (p → Lacks levels issues) ∧ (¬p → Lacks levels issues') := by
  by_cases hp : p <;> simp [hp]

@[simp] lemma lacks_singleton {i : Issue} : Lacks levels [i] ↔ i.severity ∉ levels := by
  simp [Lacks]

@[simp] lemma severity_error : (Issue.error context message).severity = .error := rfl

@[simp] lemma severity_warning : (Issue.warning context message).severity = .warning := rfl

@[simp] lemma severity_futureError :
    (Issue.futureError context message).severity = .futureError := rfl

@[simp] lemma severity_interrupted {activity cause : String} :
    (Issue.interrupted activity cause context).severity = .error := rfl

@[simp] lemma severity_withDetail {detail : String} {i : Issue} :
    (i.withDetail detail).severity = i.severity := rfl

/-- Errors that are made one for each item lack errors only if there is no item. -/
@[simp] lemma lacks_map_error {α : Type} {as : List α} {context : α → Option Context}
    {message : α → String} :
    Lacks levels (as.map fun a => .error (context a) (message a)) ↔
      (.error ∈ levels → as = []) := by
  cases as with
  | nil       => simp
  | cons a as =>
    simp only [Lacks, List.map_cons, List.forall_mem_cons, List.forall_mem_map, severity_error,
      List.cons_ne_nil, imp_false]
    exact ⟨fun h => h.1, fun h => ⟨h, fun _ _ => h⟩⟩

/-! ### Blocking and silence -/

lemma isClear_iff_lacks : IsClear issues ↔ Lacks [.error] issues := by
  simp [IsClear, Lacks, Issue.isBlocking]

lemma eq_nil_iff_lacks : issues = [] ↔ Lacks [.error, .warning, .futureError] issues := by
  refine ⟨fun h => by simp [h], fun h => List.eq_nil_iff_forall_not_mem.2 fun i hi => ?_⟩
  refine h i hi ?_
  cases i.severity <;> simp

/-- Where there are errors only, none of them means that there is nothing. -/
lemma lacks_iff_of_errors (h : Lacks [.warning, .futureError] issues) :
    Lacks levels issues ↔ (.error ∈ levels → IsClear issues) := by
  have herror (i : Issue) (hi : i ∈ issues) : i.severity = .error := by
    have := h i hi
    revert this
    cases i.severity <;> simp
  constructor
  · intro hlacks herrors i hi
    exact absurd (herror i hi ▸ herrors) (hlacks i hi)
  · intro hclear i hi hlevel
    rw [herror i hi] at hlevel
    simpa [Issue.isBlocking, herror i hi] using hclear hlevel i hi

end SemanticLayer.Issues

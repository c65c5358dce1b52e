import SemanticLayer.Proofs.Text.Word
import SemanticLayer.Proofs.Validation.MetricReferences

/-!
# Names of derived inputs

An input of a derived metric goes by its alias or, where it has none, by the name of its metric. An
alias tells its input from all others, since the names of all inputs and the aliases in front of it
are taken. Inputs without an alias are not compared with each other, so two of them may read the
same metric under its name. The expression has to have each of these names as a whole word.
-/

namespace SemanticLayer

open Issues Rules

namespace MetricInput

/-- Without an alias, an input goes by the name of its metric. -/
lemma effectiveName_of_none {i : MetricInput} (h : i.aliasName = none) :
    i.effectiveName = i.name := by
  rw [effectiveName, h, Option.getD_none]

/-- Where an alias tells its input from all others, the names that inputs go by are distinct if
those without an alias read distinct metrics. -/
lemma nodup_effectiveNames_iff {inputs : List MetricInput}
    (h : inputs.Pairwise fun i j => i.effectiveName = j.effectiveName →
      i.aliasName = none ∧ j.aliasName = none) :
    (inputs.map (·.effectiveName)).Nodup ↔
      ((inputs.filter (·.aliasName.isNone)).map (·.name)).Nodup := by
  simp only [List.Nodup, List.pairwise_map, List.pairwise_filter, Option.isNone_iff_eq_none]
  constructor
  · intro hdistinct
    refine hdistinct.imp fun hne hi hj => ?_
    rwa [effectiveName_of_none hi, effectiveName_of_none hj] at hne
  · intro hdistinct
    refine h.imp₂ (fun i j hbare hne heq => ?_) hdistinct
    obtain ⟨hi, hj⟩ := hbare heq
    rw [effectiveName_of_none hi, effectiveName_of_none hj] at heq
    exact hne hi hj heq

end MetricInput

namespace Rules

/-! ### Names in expressions -/

lemma mentions_iff_hasWord {expr name : String} :
    mentions expr name = true ↔ Text.HasWord expr name := by
  rw [mentions, List.contains_iff_mem, Text.mem_wordsOf_iff]

/-- A name of word characters is found in an expression exactly where the expression has it with no
word character right in front of it or right behind it. Any other name is found in none. -/
theorem mentions_iff_standsApart (expr name : String) :
    (name ≠ "" → (∀ c ∈ name.toList, Text.isWord c) →
      (mentions expr name = true ↔ Text.StandsApart Text.isWord name.toList expr.toList)) ∧
    (name = "" ∨ (∃ c ∈ name.toList, Text.isWord c = false) → mentions expr name = false) := by
  constructor
  · intro hne hcharacters
    rw [mentions_iff_hasWord]
    exact ⟨fun hword => hword.apart, fun hapart => ⟨hne, hcharacters, hapart⟩⟩
  · intro hother
    by_contra hword
    rw [Bool.not_eq_false, mentions_iff_hasWord] at hword
    rcases hother with hempty | ⟨c, hc, hgap⟩
    · exact hword.nonempty hempty
    · exact Bool.false_ne_true (hgap.symm.trans (hword.characters c hc))

/-- A name that is the start of a longer word is found where it stands alone behind that. What lies
across two words is not found, and neither is the empty name. -/
theorem mentions_iff_standsApart_later :
    mentions "größer / größe" "größe" = true ∧ mentions "größer / größe" "r / g" = false ∧
    mentions "größer / größe" "" = false := by
  have hcharacters : ∀ c ∈ "größe".toList, Text.isWord c := List.all_eq_true.1 (by decide)
  have hblank : Text.isWord ' ' = false := by decide
  have hapart : Text.StandsApart Text.isWord "größe".toList "größer / größe".toList := by
    refine ⟨"größer / ".toList, [], rfl, ?_, by simp⟩
    rintro c ⟨⟩
    exact hblank
  refine ⟨((mentions_iff_standsApart _ _).1 (by decide) hcharacters).2 hapart, ?_, ?_⟩
  · exact (mentions_iff_standsApart _ _).2 (.inr ⟨' ', by decide, hblank⟩)
  · exact (mentions_iff_standsApart _ _).2 (.inl rfl)

example : mentions "seen / seen_v2" "seen_v" = false := by decide

end Rules

/-- The expression names every input of the metric if there is no issue with it. -/
lemma hasWord_of_isClear {metric : Metric} (h : IsClear (derivedExprIssues metric)) {expr : String}
    (hexpr : metric.params.expr = some expr) {input : MetricInput}
    (hinput : input ∈ metric.derivedInputs) : Text.HasWord expr input.effectiveName := by
  rw [derivedExprIssues, hexpr] at h
  have hmentions := isClear_unless_iff.1 (isClear_flatMap.1 h input hinput)
  exact mentions_iff_hasWord.1 hmentions

namespace Manifest

variable {m : Manifest} {metric : Metric}

/-- Aliases are distinct, and none of them is taken. -/
lemma aliases_of_isClear {taken : List String} {inputs : List MetricInput}
    (h : IsClear (derivedInputsIssues m metric taken inputs)) :
    (inputs.filterMap (·.aliasName)).Nodup ∧ ∀ i ∈ inputs, ∀ a ∈ i.aliasName, a ∉ taken := by
  induction inputs generalizing taken with
  | nil => simp
  | cons input inputs ih =>
    rw [derivedInputsIssues, isClear_append] at h
    obtain ⟨hfirst, hrest⟩ := h
    -- behind the input its alias is taken as well
    obtain ⟨hnodup, htaken⟩ := ih hrest
    simp only [derivedInputIssues, isClear_append] at hfirst
    have halias := hfirst.1.1.1.2
    cases hname : input.aliasName with
    | none =>
      simp only [hname, Option.toList_none, List.append_nil] at htaken
      rw [List.filterMap_cons_none hname, List.forall_mem_cons]
      exact ⟨hnodup, by simp [hname], htaken⟩
    | some name =>
      simp only [hname, isClear_append, isClear_ite, isClear_error, List.contains_iff_mem] at halias
      simp only [hname, Option.toList_some, List.mem_append, List.mem_singleton, not_or] at htaken
      rw [List.filterMap_cons_some hname, List.nodup_cons, List.forall_mem_cons]
      refine ⟨⟨fun hmem => ?_, hnodup⟩, ?_, fun i hi a ha => (htaken i hi a ha).1⟩
      · obtain ⟨i, hi, hname'⟩ := List.mem_filterMap.1 hmem
        exact (htaken i hi name hname').2 rfl
      · intro a ha
        obtain rfl : name = a := Option.some.inj (hname.symm.trans ha)
        exact halias.2.1

lemma isClear_derivedIssues (h : IsClear (derivedMetrics m)) (hmetric : metric ∈ m.metrics)
    (hkind : metric.kind = .derived) : IsClear (derivedIssues m metric) := by
  rw [derivedMetrics, isClear_flatMap] at h
  exact h metric (List.mem_filter.2 ⟨hmetric, by simp [hkind]⟩)

/-- Two inputs go by one name only if neither has an alias. -/
lemma pairwise_derivedInputs (h : IsClear (derivedIssues m metric)) :
    metric.derivedInputs.Pairwise fun i j => i.effectiveName = j.effectiveName →
      i.aliasName = none ∧ j.aliasName = none := by
  rw [derivedIssues, isClear_append, isClear_append] at h
  obtain ⟨hnodup, htaken⟩ := aliases_of_isClear h.1.2
  rw [List.Nodup, List.pairwise_filterMap] at hnodup
  have hname (i : MetricInput) (hi : i ∈ metric.derivedInputs) :
      i.name ∈ metric.derivedInputs.map (·.name) := List.mem_map_of_mem hi
  refine hnodup.imp_of_mem fun {i j} hi hj hdistinct heq => ?_
  simp only [MetricInput.effectiveName] at heq
  cases ha : i.aliasName with
  | none =>
    cases hb : j.aliasName with
    | none => exact ⟨rfl, rfl⟩
    | some b =>
      obtain rfl : i.name = b := by simpa [ha, hb] using heq
      exact absurd (hname i hi) (htaken j hj _ hb)
  | some a =>
    cases hb : j.aliasName with
    | none =>
      obtain rfl : a = j.name := by simpa [ha, hb] using heq
      exact absurd (hname j hj) (htaken i hi _ ha)
    | some b => exact absurd (by simpa [ha, hb] using heq) (hdistinct a ha b hb)

/-- A derived metric that no issue blocks reads metrics that exist, and its expression has the name
that each of them goes by as a word. Two of its inputs go by one name only if they read the same
metric and neither has an alias. -/
theorem derivedInputs_told_apart (h : IsClear (derivedMetrics m)) (hmetric : metric ∈ m.metrics)
    (hkind : metric.kind = .derived) :
    (∀ input ∈ metric.derivedInputs, (m.metric? input.name).isSome) ∧
    (metric.derivedInputs.Pairwise fun i j => i.effectiveName = j.effectiveName →
      i.aliasName = none ∧ j.aliasName = none ∧ i.name = j.name) ∧
    ((metric.derivedInputs.map (·.effectiveName)).Nodup ↔
      ((metric.derivedInputs.filter (·.aliasName.isNone)).map (·.name)).Nodup) ∧
    ∀ expr ∈ metric.params.expr, ∀ input ∈ metric.derivedInputs,
      Text.HasWord expr input.effectiveName := by
  have hclear := isClear_derivedIssues h hmetric hkind
  have hpairwise := pairwise_derivedInputs hclear
  refine ⟨fun input hinput => ?_, hpairwise.imp fun {i j} hbare heq => ?_,
    MetricInput.nodup_effectiveNames_iff hpairwise, fun expr hexpr input hinput => ?_⟩
  · exact isSome_metric?_iff.2 (derivedInput_of_isClear h hmetric hkind input hinput)
  · obtain ⟨hi, hj⟩ := hbare heq
    rw [MetricInput.effectiveName_of_none hi, MetricInput.effectiveName_of_none hj] at heq
    exact ⟨hi, hj, heq⟩
  · rw [derivedIssues, isClear_append] at hclear
    exact hasWord_of_isClear hclear.2 hexpr hinput

/-- The visits of now and of a week before, which go by `earlier` if they are given an alias. -/
def visitsCompared (earlier : Option String) : Metric :=
  ⟨"gain", .derived, { MetricParams.empty with
    expr    := some ("seen-" ++ earlier.getD "seen")
    metrics := some [.ofName "seen", { MetricInput.ofName "seen" with
      aliasName := earlier, offsetWindow := some "1 week" }] }, none, none, none, none⟩

/-- Visits that were seen and how they compare with those of a week before. -/
def visitsGained (earlier : Option String) : Manifest :=
  { visitsRated "seen" [] with
    metrics := visitsCompared earlier :: (visitsRated "seen" []).metrics }

/-- An alias tells the visits of a week before from those of now. -/
theorem derivedInputs_told_apart_visitsGained :
    IsClear (derivedMetrics (visitsGained (some "before"))) ∧
    visitsCompared (some "before") ∈ (visitsGained (some "before")).metrics ∧
    ((visitsCompared (some "before")).derivedInputs.map (·.effectiveName)).Nodup ∧
    Text.HasWord "seen-before" "before" := by
  have hclear : IsClear (derivedMetrics (visitsGained (some "before"))) := by decide +kernel
  have hmetric : visitsCompared (some "before") ∈ (visitsGained (some "before")).metrics :=
    List.mem_cons_self
  obtain ⟨-, -, hnodup, hwords⟩ := derivedInputs_told_apart hclear hmetric rfl
  exact ⟨hclear, hmetric, hnodup.2 (by decide),
    hwords "seen-before" rfl _ (List.mem_cons_of_mem _ List.mem_cons_self)⟩

/-- Without an alias both go by one name, and nothing is found. -/
theorem not_nodup_visitsGained :
    IsClear (derivedMetrics (visitsGained none)) ∧
    visitsCompared none ∈ (visitsGained none).metrics ∧ (visitsCompared none).kind = .derived ∧
    ¬((visitsCompared none).derivedInputs.map (·.effectiveName)).Nodup := by
  decide +kernel

end Manifest

end SemanticLayer

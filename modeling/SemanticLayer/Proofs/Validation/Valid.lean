import SemanticLayer.Proofs.Text.Lower
import SemanticLayer.Proofs.Validation.Clear

/-!
# Valid manifests

A manifest is valid when no default rule finds an issue that blocks it. Its names are then in lower
case, and the objects of a kind have names that are pairwise distinct.
-/

namespace SemanticLayer

open Issues Rules

/-! ### All rules -/

/-- No default rule finds an issue that blocks the manifest. -/
structure Manifest.IsValid (m : Manifest) : Prop where
  nonEmpty                 : IsClear (nonEmpty m)
  uniqueAndValidNames      : IsClear (uniqueAndValidNames m)
  uniqueMeasures           : IsClear (uniqueMeasures m)
  uniqueModelLabels        : IsClear (uniqueModelLabels m)
  consistentElements       : IsClear (consistentElements m)
  consistentDimensions     : IsClear (consistentDimensions m)
  primaryEntities          : IsClear (primaryEntities m)
  uniqueDimensionAddresses : IsClear (uniqueDimensionAddresses m)
  timeDimensions           : IsClear (timeDimensions m)
  validityWindows          : IsClear (validityWindows m)
  aggTimeDimensions        : IsClear (aggTimeDimensions m)
  countExpressions         : IsClear (countExpressions m)
  percentiles              : IsClear (percentiles m)
  nonAdditiveDimensions    : IsClear (nonAdditiveDimensions m)
  metricParams             : IsClear (metricParams m)
  metricMeasures           : IsClear (metricMeasures m)
  measureAliases           : IsClear (measureAliases m)
  cumulativeMetrics        : IsClear (cumulativeMetrics m)
  derivedMetrics           : IsClear (derivedMetrics m)
  conversionMetrics        : IsClear (conversionMetrics m)
  uniqueMetricLabels       : IsClear (uniqueMetricLabels m)
  noReservedKeywords       : IsClear (noReservedKeywords m)
  parseableFilters         : IsClear (parseableFilters m)
  savedQueries             : IsClear (Rules.savedQueries m)

lemma Manifest.hasBlocking_validate_eq_false_iff {m : Manifest} :
    hasBlocking m.validate = false ↔ m.IsValid := by
  rw [hasBlocking_eq_false_iff, Manifest.validate, Validator.validate, isClear_flatMap]
  simp only [Validator.standard, Rule.defaults, List.forall_mem_cons, Rule.ofIssues, Rule.run,
    List.not_mem_nil, false_implies, implies_true, and_true]
  constructor
  · rintro ⟨h₁, h₂, h₃, h₄, h₅, h₆, h₇, h₈, h₉, h₁₀, h₁₁, h₁₂, h₁₃, h₁₄, h₁₅, h₁₆, h₁₇, h₁₈, h₁₉,
      h₂₀, h₂₁, h₂₂, h₂₃, h₂₄⟩
    exact ⟨h₁, h₂, h₃, h₄, h₅, h₆, h₇, h₈, h₉, h₁₀, h₁₁, h₁₂, h₁₃, h₁₄, h₁₅, h₁₆, h₁₇, h₁₈, h₁₉,
      h₂₀, h₂₁, h₂₂, h₂₃, h₂₄⟩
  · intro h
    exact ⟨h.1, h.2, h.3, h.4, h.5, h.6, h.7, h.8, h.9, h.10, h.11, h.12, h.13, h.14, h.15, h.16,
      h.17, h.18, h.19, h.20, h.21, h.22, h.23, h.24⟩

/-! ### Names -/

/-- The characters of names are ASCII and no capitals. -/
lemma toNat_of_isSnakeCharacter {c : Char} (h : isSnakeCharacter c) :
    c.toNat < 0x80 ∧ ¬(0x41 ≤ c.toNat ∧ c.toNat ≤ 0x5A) := by
  simp only [isSnakeCharacter, isLowerLetter, Char.isDigit, Bool.or_eq_true, Bool.and_eq_true,
    decide_eq_true_eq, beq_iff_eq, ge_iff_le, Char.le_def, UInt32.le_iff_toNat_le] at h
  change c.val.toNat < 0x80 ∧ ¬(0x41 ≤ c.val.toNat ∧ c.val.toNat ≤ 0x5A)
  obtain (⟨hlow, hhigh⟩ | ⟨hlow, hhigh⟩) | rfl := h
  · change 97 ≤ c.val.toNat at hlow
    change c.val.toNat ≤ 122 at hhigh
    omega
  · change 48 ≤ c.val.toNat at hlow
    change c.val.toNat ≤ 57 at hhigh
    omega
  · decide

lemma toLower_of_isSnakeCharacter {c : Char} (h : isSnakeCharacter c) : c.toLower = c :=
  Text.toLower_eq_self (toNat_of_isSnakeCharacter h).2

lemma isLowerChar_of_isSnakeCharacter {c : Char} (h : isSnakeCharacter c) :
    Text.IsLowerChar c := by
  unfold Text.IsLowerChar Text.lowerChar
  rw [if_pos (toNat_of_isSnakeCharacter h).1, toLower_of_isSnakeCharacter h]

/-- What names of a manifest look like. -/
structure IsValidName (name : String) : Prop where
  snakeCase      : isSnakeCase name.toList
  notDundered    : hasDunder name.toList = false
  notGranularity : Vocabulary.ofName? (α := Granularity) (Text.lower name) = none
  notReserved    : Text.lower name ∉ engineNames

lemma nameFaults_eq_nil_iff {name : String} : nameFaults name = [] ↔ IsValidName name := by
  simp only [nameFaults, List.append_eq_nil_iff, ite_eq_right_iff, List.cons_ne_nil, imp_false,
    Bool.or_eq_true, Bool.not_eq_true', not_or, Bool.not_eq_false, Bool.not_eq_true,
    Option.isSome_eq_false_iff, Option.isNone_iff_eq_none, List.contains_eq_mem,
    decide_eq_true_eq]
  constructor
  · rintro ⟨⟨⟨hsnake, hdunder⟩, hgranularity⟩, hreserved⟩
    exact ⟨hsnake, hdunder, hgranularity, hreserved⟩
  · intro h
    exact ⟨⟨⟨h.snakeCase, h.notDundered⟩, h.notGranularity⟩, h.notReserved⟩

instance (name : String) : Decidable (IsValidName name) :=
  decidable_of_iff _ nameFaults_eq_nil_iff

lemma isClear_nameIssues {context : Option Context} {name : String} :
    IsClear (nameIssues context name) ↔ IsValidName name := by
  rw [nameIssues, isClear_map_error, nameFaults_eq_nil_iff]

/-- A valid name can be that of a custom granularity. -/
lemma IsValidName.isGranularityIdentifier {name : String} (h : IsValidName name) :
    isGranularityIdentifier name := by
  have hsnake := h.snakeCase
  unfold SemanticLayer.isGranularityIdentifier
  cases hchars : name.toList with
  | nil => simp [hchars, isSnakeCase] at hsnake
  | cons c cs =>
    simp only [hchars, isSnakeCase, Bool.and_eq_true] at hsnake
    simp [hsnake.1]

lemma isSnakeCharacter_of_isGranularityIdentifier {name : String}
    (h : isGranularityIdentifier name) {c : Char} (hc : c ∈ name.toList) : isSnakeCharacter c := by
  unfold isGranularityIdentifier at h
  cases hchars : name.toList with
  | nil => simp [hchars] at hc
  | cons d ds =>
    simp only [hchars, Bool.and_eq_true, List.all_eq_true] at h
    rw [hchars, List.mem_cons] at hc
    obtain rfl | hc := hc
    · simp [isSnakeCharacter, h.1]
    · exact h.2 c hc

lemma IsValidName.isSnakeCharacter {name : String} (h : IsValidName name) {c : Char}
    (hc : c ∈ name.toList) : isSnakeCharacter c :=
  isSnakeCharacter_of_isGranularityIdentifier h.isGranularityIdentifier hc

lemma IsValidName.isLower {name : String} (h : IsValidName name) : Text.IsLower name :=
  fun _ hc => isLowerChar_of_isSnakeCharacter (h.isSnakeCharacter hc)

lemma isClear_objectNameIssues {α : Type} {kind : String} {context : α → Context}
    {name : α → String} {as : List α} :
    (∀ a ∈ withEarlier name as,
      IsClear (objectNameIssues kind (context a.1) (name a.1) (!a.2.isEmpty))) ↔
      (∀ a ∈ as, IsValidName (name a)) ∧ (as.map name).Nodup := by
  rw [← forall_withEarlier_iff, ← forall_fst_withEarlier name, ← forall₂_and]
  refine forall₂_congr fun a _ => ?_
  rw [objectNameIssues, isClear_append, isClear_nameIssues]
  cases a.2 <;> simp

/-- The names of the elements of a model are valid and distinct, and so is that of the primary
entity it declares. -/
structure SemanticModel.HasValidNames (m : SemanticModel) : Prop where
  elements         : ∀ e ∈ m.elements, IsValidName e.1
  elementsDistinct : (m.elements.map Prod.fst).Nodup
  primaryEntity    : ∀ name ∈ m.primaryEntity, IsValidName name

lemma isClear_elementNameIssues {m : SemanticModel} :
    IsClear (elementNameIssues m) ↔
      (∀ e ∈ m.elements, IsValidName e.1) ∧ (m.elements.map Prod.fst).Nodup := by
  rw [← forall_withEarlier_iff, ← forall_fst_withEarlier Prod.fst, ← forall₂_and,
    elementNameIssues, isClear_flatMap]
  refine forall₂_congr fun a _ => ?_
  obtain ⟨⟨name, kind⟩, earlier⟩ := a
  rw [isClear_append, isClear_nameIssues]
  cases earlier <;> simp

lemma SemanticModel.hasValidNames_iff {m : SemanticModel} :
    m.HasValidNames ↔ IsClear (elementNameIssues m) ∧ IsClear (primaryEntityNameIssues m) := by
  have hprimary : IsClear (primaryEntityNameIssues m) ↔
      ∀ name ∈ m.primaryEntity, IsValidName name := by
    simp [primaryEntityNameIssues, isClear_nameIssues]
  rw [isClear_elementNameIssues, hprimary]
  constructor
  · intro h
    exact ⟨⟨h.elements, h.elementsDistinct⟩, h.primaryEntity⟩
  · rintro ⟨⟨helements, hdistinct⟩, hentity⟩
    exact ⟨helements, hdistinct, hentity⟩

/-- Custom granularities have names of their own, regardless of case, and none of standard ones. -/
lemma isClear_customGranularityIssues {m : Manifest} : IsClear (customGranularityIssues m) ↔
    (∀ name ∈ m.customGranularityNames, isGranularityIdentifier name ∧
      Vocabulary.ofName? (α := Granularity) name = none) ∧ m.customGranularityNames.Nodup := by
  have hforall {p : String → Prop} : (∀ name ∈ m.customGranularityNames, p name) ↔
      ∀ g ∈ m.customGranularities, p (Text.lower g.name) := List.forall_mem_map
  rw [hforall, Manifest.customGranularityNames, ← forall_withEarlier_iff,
    ← forall_fst_withEarlier fun g : CustomGranularity => Text.lower g.name, ← forall₂_and,
    customGranularityIssues, isClear_flatMap]
  refine forall₂_congr fun p _ => ?_
  obtain ⟨g, earlier⟩ := p
  simp only [isClear_append, isClear_unless_iff, Option.isNone_iff_eq_none, List.isEmpty_iff]

/-- Names are valid, and those of the objects of a kind are distinct. -/
structure Manifest.HasValidNames (m : Manifest) : Prop where
  models          : ∀ model ∈ m.semanticModels, IsValidName model.name
  modelsDistinct  : (m.semanticModels.map (·.name)).Nodup
  elements        : ∀ model ∈ m.semanticModels, model.HasValidNames
  metrics         : ∀ metric ∈ m.metrics, IsValidName metric.name
  metricsDistinct : (m.metrics.map (·.name)).Nodup
  queries         : ∀ query ∈ m.savedQueries, IsValidName query.name
  queriesDistinct : (m.savedQueries.map (·.name)).Nodup
  granularities   : IsClear (customGranularityIssues m)

lemma Manifest.hasValidNames_iff {m : Manifest} :
    m.HasValidNames ↔ IsClear (uniqueAndValidNames m) := by
  have hmodels : (∀ a ∈ withEarlier SemanticModel.name m.semanticModels,
      IsClear (elementNameIssues a.1) ∧ IsClear (primaryEntityNameIssues a.1)) ↔
      ∀ model ∈ m.semanticModels, model.HasValidNames := by
    simp only [← SemanticModel.hasValidNames_iff]
    exact forall_fst_withEarlier _
  simp only [uniqueAndValidNames, isClear_append, isClear_flatMap, and_assoc]
  rw [forall₂_and, hmodels, isClear_objectNameIssues, isClear_objectNameIssues,
    isClear_objectNameIssues]
  constructor
  · intro h
    exact ⟨⟨⟨h.models, h.modelsDistinct⟩, h.elements⟩, ⟨h.metrics, h.metricsDistinct⟩,
      ⟨h.queries, h.queriesDistinct⟩, h.granularities⟩
  · rintro ⟨⟨⟨hmodels, hmodels'⟩, helements⟩, ⟨hmetrics, hmetrics'⟩, ⟨hqueries, hqueries'⟩,
      hcustom⟩
    exact ⟨hmodels, hmodels', helements, hmetrics, hmetrics', hqueries, hqueries', hcustom⟩

end SemanticLayer

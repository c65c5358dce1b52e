import SemanticLayer.Load
import SemanticLayer.Proofs.Manifest.DirectForm
import SemanticLayer.Proofs.Manifest.RoundTrip
import SemanticLayer.Proofs.Validation.Clear

/-!
# Counts that are loaded

The rule about counts looks at the aggregations of a manifest, but loading checks the normal form,
where every count has become a sum. So loading refuses a manifest for a count without an expression,
which has no normal form, and for what the other rules find, but for no count of distinct values:
`exists_load_eq_error_iff`.
-/

namespace SemanticLayer

open Issues Rules

/-! ### Which manifests have a normal form -/

lemma exists_forall₂_iff {α β : Type} {R : α → β → Prop} {as : List α} :
    (∃ bs, List.Forall₂ R as bs) ↔ ∀ a ∈ as, ∃ b, R a b := by
  constructor
  · rintro ⟨bs, h⟩ a ha
    obtain ⟨b, -, hb⟩ := exists_of_forall₂_of_mem h.flip ha
    exact ⟨b, hb⟩
  · intro h
    induction as with
    | nil => exact ⟨[], .nil⟩
    | cons a as ih =>
      obtain ⟨⟨b, hb⟩, has⟩ := List.forall_mem_cons.1 h
      obtain ⟨bs, hbs⟩ := ih has
      exact ⟨b :: bs, .cons hb hbs⟩

namespace Measure

/-- If the measure counts, it has an expression for what it counts. -/
def CountHasExpr (m : Measure) : Prop := m.agg = .count → m.expr ≠ none

variable {m : Measure}

lemma exists_directAggregation_iff :
    (∃ m', m.directAggregation = .ok m') ↔ m.CountHasExpr := by
  constructor
  · rintro ⟨m', h⟩ hagg hexpr
    simp [directAggregation, hagg, hexpr] at h
  · intro h
    exact ⟨_, directAggregation_eq_ok h⟩

end Measure

lemma SemanticModel.exists_normalize_iff {model : SemanticModel} :
    (∃ model', model.normalize = .ok model') ↔ ∀ e ∈ model.measures, e.CountHasExpr := by
  have hlower : (∀ e ∈ model.lowerNames.measures, e.CountHasExpr) ↔
      ∀ e ∈ model.measures, e.CountHasExpr := List.forall_mem_map
  simp only [normalize_eq_ok_iff]
  rw [← hlower]
  simp only [← Measure.exists_directAggregation_iff, ← exists_forall₂_iff]
  constructor
  · rintro ⟨model', measures, hmeasures, -⟩
    exact ⟨measures, hmeasures⟩
  · rintro ⟨measures, hmeasures⟩
    exact ⟨_, measures, hmeasures, rfl⟩

namespace Manifest

variable {m t : Manifest}

/-- All counts have an expression. -/
def CountsHaveExpr (m : Manifest) : Prop :=
  ∀ model ∈ m.semanticModels, ∀ e ∈ model.measures, e.CountHasExpr

lemma exists_normalize_iff : (∃ t, m.normalize = .ok t) ↔ m.CountsHaveExpr := by
  unfold CountsHaveExpr
  simp only [normalize_eq_ok_iff, ← SemanticModel.exists_normalize_iff, ← exists_forall₂_iff]
  constructor
  · rintro ⟨t, models, hmodels, -⟩
    exact ⟨models, hmodels⟩
  · rintro ⟨models, hmodels⟩
    exact ⟨_, models, hmodels, rfl⟩

/-! ### The rule about counts -/

/-- There are no counts in a normal form. -/
lemma countExpressions_of_isNormal (h : t.IsNormal) : countExpressions t = [] := by
  rw [countExpressions, List.flatMap_eq_nil_iff]
  intro model hmodel
  have hnone : model.measures.filter (·.agg == .count) = [] := by
    rw [List.filter_eq_nil_iff]
    intro e he hcount
    exact ((h.models model hmodel).direct e he).1 (by simpa using hcount)
  rw [hnone, List.flatMap_nil]

/-- The rule about counts. -/
def countRule : Rule := .ofIssues "CountAggregationExprRule" countExpressions

/-- The default rules without the one about counts. -/
def rulesBesideCounts : List Rule := Rule.defaults.filter (·.name != countRule.name)

/-- The names of the default rules are distinct, so a rule is known by its name. -/
lemma eq_countRule {r : Rule} (hr : r ∈ Rule.defaults) (hname : r.name = countRule.name) :
    r = countRule := by
  have hmem : countRule ∈ Rule.defaults := by simp [countRule, Rule.defaults]
  have hnames : (Rule.defaults.map (·.name)).Nodup := by decide +kernel
  exact List.inj_on_of_nodup_map hnames hr hmem hname

/-- The rule about counts makes no difference to a normal form. -/
lemma validate_of_isNormal (h : t.IsNormal) :
    t.validate = rulesBesideCounts.flatMap (·.run t) := by
  refine (flatMap_filter fun r hr hname => ?_).symm
  obtain rfl := eq_countRule hr (by simpa using hname)
  exact countExpressions_of_isNormal h

/-! ### Loading -/

/-- A manifest that can be read is refused for a count without an expression, or for what a rule
other than the one about counts finds in its normal form, and for nothing else: what a count names
is no reason, even if it hides that distinct values are counted. -/
theorem exists_load_eq_error_iff {text : String} {wording : String → Option String}
    (h : parse text wording = .ok m) :
    (∃ errors, load text wording = .error errors) ↔
      ¬m.CountsHaveExpr ∨
      ∃ t, m.normalize = .ok t ∧ hasBlocking (rulesBesideCounts.flatMap (·.run t)) = true := by
  rw [load, h, loadParsed, ← exists_normalize_iff]
  cases ht : m.normalize with
  | error e => simp
  | ok t =>
    have hissues : Validator.standard.validate t = rulesBesideCounts.flatMap (·.run t) :=
      validate_of_isNormal (isNormal_of_normalize ht)
    simp only [Except.ok.injEq, exists_eq_left', Validator.checkedValidate, hissues]
    cases hblocked : hasBlocking (rulesBesideCounts.flatMap (·.run t)) <;> simp

/-- A count over visits. -/
def counting (expr : Option String) : Manifest where
  semanticModels := [{
    name          := "visits"
    description   := none
    label         := none
    nodeRelation  := ⟨"visits", "main", none, none⟩
    defaults      := none
    primaryEntity := none
    entities      := [⟨"visit", .primary, none, none, none, none⟩]
    dimensions    := [⟨"ds", .time, none, false, some ⟨some .day, true, none⟩, none, none⟩]
    measures      := [⟨"buyers", .count, none, true, expr, none, none, none, none⟩]
    metadata      := none }]
  metrics           := []
  savedQueries      := []
  configuration     := ⟨[]⟩
  interfacesVersion := defaultVersion

lemma parse_counting (expr : Option String) :
    parse (counting expr).serialize = .ok (counting expr) := by
  rw [parse_serialize_eq_ofDocument, ofDocument_toDocument]

/-- A count without an expression is refused. -/
theorem load_counting_none :
    parse (counting none).serialize = .ok (counting none) ∧
      ∃ errors, load (counting none).serialize = .error errors := by
  have hparse := parse_counting none
  refine ⟨hparse, (exists_load_eq_error_iff hparse).2 (.inl fun hexpr => ?_)⟩
  exact hexpr _ List.mem_cons_self _ List.mem_cons_self rfl rfl

/-- A count of distinct values is loaded, although the rule about counts refuses the manifest. -/
theorem load_counting_distinct :
    ∃ text m, parse text = .ok m ∧ hasBlocking (countExpressions m) = true ∧
      ∃ loaded, load text = .ok loaded ∧
        loaded.manifest.semanticModels.flatMap (·.measures.map fun e => (e.agg, e.expr)) =
          [(.sum, some "CASE WHEN DISTINCT buyer_id IS NOT NULL THEN 1 ELSE 0 END")] := by
  have hnormal : (counting (some "DISTINCT buyer_id")).normalize =
      .ok (counting (some "DISTINCT buyer_id")).directForm := by decide +kernel
  have hclear : Validator.standard.checkedValidate
      (counting (some "DISTINCT buyer_id")).directForm = .ok [] := by decide +kernel
  refine ⟨_, _, parse_counting (some "DISTINCT buyer_id"), by decide +kernel,
    ⟨(counting (some "DISTINCT buyer_id")).directForm, []⟩, ?_, by decide +kernel⟩
  rw [load, parse_counting, loadParsed]
  simp only [hnormal, hclear]

end Manifest

end SemanticLayer

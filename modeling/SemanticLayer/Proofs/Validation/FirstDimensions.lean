import SemanticLayer.Proofs.Validation.FirstItems
import SemanticLayer.Proofs.Validation.UniqueNames

/-!
# Dimensions of one name

A dimension is compared with the first one of its name in all semantic models. Where nothing is
found, dimensions of one name are of one kind and partitioning. Their granularities may still
differ, if the first one has none: with another model in front they are found to be in conflict.
What the comparison with the first one decides is said by `consistentDimensions_eq_nil_iff_agree`.
-/

namespace SemanticLayer

open Issues Rules

/-! ### Agreement -/

/-- The dimensions are of one kind and partitioning, and of one granularity if both have one. -/
@[mk_iff]
structure Dimension.Agrees (d d' : Dimension) : Prop where
  kind        : d.kind = d'.kind
  isPartition : d.isPartition = d'.isPartition
  granularity : ∀ g ∈ d.granularity, ∀ g' ∈ d'.granularity, g = g'

lemma Dimension.Agrees.refl (d : Dimension) : d.Agrees d := by
  refine ⟨rfl, rfl, fun g hg g' hg' => ?_⟩
  rw [Option.mem_def] at hg hg'
  exact Option.some.inj (hg.symm.trans hg')

lemma dimensionConflicts_eq_nil_iff {model firstModel : SemanticModel} {d first : Dimension} :
    dimensionConflicts model d firstModel first = [] ↔ first.Agrees d := by
  simp only [dimensionConflicts, List.append_eq_nil_iff, ite_eq_left_iff, List.cons_ne_nil,
    imp_false, not_not, Dimension.agrees_iff, and_assoc]
  refine and_congr_right fun _ => and_congr_right fun _ => ?_
  cases first.granularity <;> cases d.granularity <;> simp

namespace Manifest

variable {m : Manifest}

/-- The dimensions of all semantic models. -/
def dimensions (m : Manifest) : List Dimension := m.semanticModels.flatMap (·.dimensions)

/-- The dimensions that are compared, each with its model. -/
def comparedDimensions (m : Manifest) : List (SemanticModel × Dimension) :=
  (distinctModels m).flatMap fun model => model.dimensions.map (model, ·)

/-- Dimensions of one name that both have a granularity have the same one. -/
def GranularitiesAgree (m : Manifest) : Prop :=
  ∀ d ∈ m.dimensions, ∀ d' ∈ m.dimensions, d.name = d'.name →
    ∀ g ∈ d.granularity, ∀ g' ∈ d'.granularity, g = g'

/-- Dimensions of one name agree. -/
def DimensionsAgree (m : Manifest) : Prop :=
  ∀ d ∈ m.dimensions, ∀ d' ∈ m.dimensions, d.name = d'.name → d.Agrees d'

/-- The first dimension of a name has a granularity if any dimension of the name has one. -/
def FirstGranularityLeads (m : Manifest) : Prop :=
  ∀ d ∈ m.dimensions, ∀ first ∈ m.dimensions.find? (·.name = d.name),
    d.granularity.isSome → first.granularity.isSome

lemma consistentDimensions_congr {m m' : Manifest} (h : m'.semanticModels = m.semanticModels) :
    consistentDimensions m' = consistentDimensions m := by
  unfold consistentDimensions distinctModels
  rw [h]

lemma mem_comparedDimensions_iff {p : SemanticModel × Dimension} :
    p ∈ m.comparedDimensions ↔ p.1 ∈ distinctModels m ∧ p.2 ∈ p.1.dimensions := by
  obtain ⟨model, d⟩ := p
  simp [comparedDimensions]

lemma mem_dimensions_of_compared {p : SemanticModel × Dimension} (h : p ∈ m.comparedDimensions) :
    p.2 ∈ m.dimensions := by
  obtain ⟨hmodel, hd⟩ := mem_comparedDimensions_iff.1 h
  exact List.mem_flatMap.2 ⟨p.1, (firstByKey_sublist _ _).subset hmodel, hd⟩

/-- Where models have names of their own, the dimensions of all models are compared. -/
lemma map_snd_comparedDimensions (hmodels : (m.semanticModels.map (·.name)).Nodup) :
    m.comparedDimensions.map Prod.snd = m.dimensions := by
  rw [comparedDimensions, distinctModels, firstByKey_eq_self hmodels, List.map_flatMap]
  simp only [List.map_map, Function.comp_def, List.map_id', dimensions]

lemma exists_mem_comparedDimensions (hmodels : (m.semanticModels.map (·.name)).Nodup)
    {d : Dimension} (hd : d ∈ m.dimensions) : ∃ model, (model, d) ∈ m.comparedDimensions := by
  rw [← map_snd_comparedDimensions hmodels] at hd
  obtain ⟨⟨model, d⟩, hp, rfl⟩ := List.mem_map.1 hd
  exact ⟨model, hp⟩

/-- Nothing is found where every dimension agrees with the first one of its name. -/
lemma consistentDimensions_eq_nil_iff : consistentDimensions m = [] ↔
    ∀ p ∈ m.comparedDimensions,
      ∀ first ∈ m.comparedDimensions.find? (·.2.name = p.2.name), first.2.Agrees p.2 := by
  rw [← forall_withEarlier_head?_iff (fun p : SemanticModel × Dimension => p.2.name)
    (p := fun first p => first.2.Agrees p.2) fun p => .refl p.2, consistentDimensions,
    List.flatMap_eq_nil_iff]
  refine forall₂_congr fun p _ => ?_
  obtain ⟨⟨model, d⟩, earlier⟩ := p
  cases earlier with
  | nil             => simp
  | cons first rest =>
    obtain ⟨firstModel, first⟩ := first
    simp [dimensionConflicts_eq_nil_iff]

lemma consistentDimensions_eq_nil_of_agrees (h : m.DimensionsAgree) :
    consistentDimensions m = [] := by
  rw [consistentDimensions_eq_nil_iff]
  intro p hp first hfirst
  have hmem : first ∈ m.comparedDimensions := List.mem_of_find?_eq_some hfirst
  have hname : first.2.name = p.2.name := by simpa using List.find?_some hfirst
  exact h _ (mem_dimensions_of_compared hmem) _ (mem_dimensions_of_compared hp) hname

/-- Where models have names of their own, it is the first dimension of its name in all models that
every dimension agrees with. -/
lemma consistentDimensions_eq_nil_iff_first (hmodels : (m.semanticModels.map (·.name)).Nodup) :
    consistentDimensions m = [] ↔ ∀ d ∈ m.dimensions,
      ∀ first ∈ m.dimensions.find? (·.name = d.name), first.Agrees d := by
  rw [consistentDimensions_eq_nil_iff, ← map_snd_comparedDimensions hmodels, List.forall_mem_map]
  refine forall₂_congr fun p _ => ?_
  rw [List.find?_map]
  constructor
  · intro h first hfirst
    obtain ⟨q, hq, rfl⟩ := Option.map_eq_some_iff.1 hfirst
    exact h q hq
  · intro h q hq
    exact h q.2 (Option.mem_map_of_mem Prod.snd hq)

/-- Dimensions of one name agree with the first one, and so with each other but for their
granularities. -/
lemma kind_eq_of_consistentDimensions (hmodels : (m.semanticModels.map (·.name)).Nodup)
    (h : consistentDimensions m = []) {d d' : Dimension} (hd : d ∈ m.dimensions)
    (hd' : d' ∈ m.dimensions) (hname : d.name = d'.name) :
    d.kind = d'.kind ∧ d.isPartition = d'.isPartition := by
  obtain ⟨first, -, -, hfirst⟩ := exists_find?_key (·.name) hd
  rw [consistentDimensions_eq_nil_iff_first hmodels] at h
  have hagrees := h d hd first hfirst
  have hagrees' := h d' hd' first (hname ▸ hfirst)
  exact ⟨hagrees.kind.symm.trans hagrees'.kind, hagrees.isPartition.symm.trans hagrees'.isPartition⟩

lemma agrees_of_granularitiesAgree (hmodels : (m.semanticModels.map (·.name)).Nodup)
    (h : consistentDimensions m = []) (hgranularities : m.GranularitiesAgree) :
    m.DimensionsAgree := by
  intro d hd d' hd' hname
  obtain ⟨hkind, hpartition⟩ := kind_eq_of_consistentDimensions hmodels h hd hd' hname
  exact ⟨hkind, hpartition, hgranularities d hd d' hd' hname⟩

/-- If the first dimension of each name has a granularity when others have one, all of them are
compared with it. -/
lemma granularitiesAgree_of_leads (hmodels : (m.semanticModels.map (·.name)).Nodup)
    (h : consistentDimensions m = []) (hleads : m.FirstGranularityLeads) :
    m.GranularitiesAgree := by
  intro d hd d' hd' hname g hg g' hg'
  obtain ⟨first, -, -, hfirst⟩ := exists_find?_key (·.name) hd
  obtain ⟨known, hknown⟩ := Option.isSome_iff_exists.1
    (hleads d hd first hfirst (Option.isSome_iff_exists.2 ⟨g, hg⟩))
  rw [consistentDimensions_eq_nil_iff_first hmodels] at h
  have hagrees := (h d hd first hfirst).granularity known hknown g hg
  have hagrees' := (h d' hd' first (hname ▸ hfirst)).granularity known hknown g' hg'
  exact hagrees.symm.trans hagrees'

/-- With a model in front, dimensions are compared with those of this model. -/
lemma agrees_of_consistentDimensions_cons {models : List SemanticModel} {model : SemanticModel}
    (hmodels : m.semanticModels = model :: models) (hnames : (model.dimensions.map (·.name)).Nodup)
    (h : consistentDimensions m = []) {d : Dimension} (hd : d ∈ model.dimensions)
    {p : SemanticModel × Dimension} (hp : p ∈ m.comparedDimensions) (hname : d.name = p.2.name) :
    d.Agrees p.2 := by
  rw [consistentDimensions_eq_nil_iff] at h
  obtain ⟨rest, hrest⟩ : ∃ rest, distinctModels m = model :: rest := by
    rw [distinctModels, hmodels]
    exact exists_firstByKey_cons model models
  have hfind : model.dimensions.find? (·.name == d.name) = some d :=
    (find?_key_eq_some_iff hnames).2 ⟨hd, rfl⟩
  refine h p hp (model, d) ?_
  rw [comparedDimensions, hrest, List.flatMap_cons, List.find?_append, List.find?_map, ← hname]
  simp only [Function.comp_def, ← beq_eq_decide, hfind]
  rfl

/-! ### What is decided -/

/-- Where models have names of their own, nothing is found just when dimensions of one name are of
one kind and partitioning and the first one has no other granularity than the others. So nothing is
found where all of them agree; the converse takes that those agree on their granularities that both
have one and neither is the first, and nothing more if the first one has a granularity itself. -/
theorem consistentDimensions_eq_nil_iff_agree (hmodels : (m.semanticModels.map (·.name)).Nodup) :
    (consistentDimensions m = [] ↔
      ∀ d ∈ m.dimensions, ∀ d' ∈ m.dimensions, d.name = d'.name →
        d.kind = d'.kind ∧ d.isPartition = d'.isPartition ∧
        (m.dimensions.find? (·.name = d.name) = some d →
          ∀ g ∈ d.granularity, ∀ g' ∈ d'.granularity, g = g')) ∧
    (m.DimensionsAgree ↔ consistentDimensions m = [] ∧ m.GranularitiesAgree) ∧
    (m.FirstGranularityLeads → (consistentDimensions m = [] ↔ m.DimensionsAgree)) := by
  refine ⟨⟨fun h d hd d' hd' hname => ?_, fun h => ?_⟩, ⟨fun h => ?_, fun h => ?_⟩,
    fun hleads => ⟨fun h => ?_, consistentDimensions_eq_nil_of_agrees⟩⟩
  · obtain ⟨hkind, hpartition⟩ := kind_eq_of_consistentDimensions hmodels h hd hd' hname
    refine ⟨hkind, hpartition, fun hfirst => ?_⟩
    rw [consistentDimensions_eq_nil_iff_first hmodels] at h
    exact (h d' hd' d (hname ▸ hfirst)).granularity
  · rw [consistentDimensions_eq_nil_iff_first hmodels]
    intro d hd first hfirst
    have hname : first.name = d.name := by simpa using List.find?_some hfirst
    obtain ⟨hkind, hpartition, hgranularity⟩ :=
      h first (List.mem_of_find?_eq_some hfirst) d hd hname
    exact ⟨hkind, hpartition, hgranularity (hname ▸ hfirst)⟩
  · exact ⟨consistentDimensions_eq_nil_of_agrees h,
      fun d hd d' hd' hname => (h d hd d' hd' hname).granularity⟩
  · exact agrees_of_granularitiesAgree hmodels h.1 h.2
  · exact agrees_of_granularitiesAgree hmodels h (granularitiesAgree_of_leads hmodels h hleads)

/-- A model with a dimension `page`, which may have a granularity although it is no time. -/
def pagesOf (name entity : String) (granularity : Option Granularity) : SemanticModel where
  name          := name
  description   := none
  label         := none
  nodeRelation  := ⟨name, "main", none, none⟩
  defaults      := none
  primaryEntity := none
  entities      := [⟨entity, .primary, none, none, none, none⟩]
  dimensions    := [⟨"ds", .time, none, false, some ⟨some .day, true, none⟩, none, none⟩,
    ⟨"page", .categorical, none, false, granularity.map (⟨some ·, false, none⟩), none, none⟩]
  measures      := [⟨entity ++ "_count", .sum, none, true, some "1", none, none, none, none⟩]
  metadata      := none

/-- Pages of visits, purchases and refunds, of which the last two differ in their granularity. -/
def pagesGraded : Manifest where
  semanticModels := [pagesOf "visits" "visit" none, pagesOf "purchases" "purchase" (some .day),
    pagesOf "refunds" "refund" (some .month)]
  metrics           := []
  savedQueries      := []
  configuration     := ⟨[]⟩
  interfacesVersion := defaultVersion

/-- Pages of purchases, whose granularity comes first, and of visits. -/
def pagesLed : Manifest :=
  { pagesGraded with
    semanticModels := [pagesOf "purchases" "purchase" (some .day), pagesOf "visits" "visit" none] }

/-- All dimensions agree if those of one name are compared with one that has a granularity. -/
theorem dimensionsAgree_pagesLed :
    (pagesLed.semanticModels.map (·.name)).Nodup ∧ pagesLed.FirstGranularityLeads ∧
    consistentDimensions pagesLed = [] ∧ pagesLed.DimensionsAgree := by
  have hmodels : (pagesLed.semanticModels.map (·.name)).Nodup := by decide +kernel
  have hleads : pagesLed.FirstGranularityLeads := by
    unfold FirstGranularityLeads
    decide +kernel
  have hnone : consistentDimensions pagesLed = [] := by decide +kernel
  exact ⟨hmodels, hleads, hnone,
    ((consistentDimensions_eq_nil_iff_agree hmodels).2.2 hleads).1 hnone⟩

/-- Purchases and refunds are in conflict, but the pages of both are compared with those of visits
only. -/
theorem not_dimensionsAgree_pagesGraded :
    (pagesGraded.semanticModels.map (·.name)).Nodup ∧
    consistentDimensions pagesGraded = [] ∧ ¬pagesGraded.DimensionsAgree := by
  refine ⟨by decide +kernel, by decide +kernel, fun h => ?_⟩
  have hday : ⟨"page", .categorical, none, false, some ⟨some .day, false, none⟩, none, none⟩ ∈
      pagesGraded.dimensions := by decide +kernel
  have hmonth : ⟨"page", .categorical, none, false, some ⟨some .month, false, none⟩, none, none⟩ ∈
      pagesGraded.dimensions := by decide +kernel
  exact absurd ((h _ hday _ hmonth rfl).granularity .day rfl .month rfl) (by decide)

end Manifest

end SemanticLayer

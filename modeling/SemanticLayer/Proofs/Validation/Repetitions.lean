import SemanticLayer.Proofs.Validation.FirstDimensions
import SemanticLayer.Proofs.Validation.SameContent

/-!
# Repeated objects

Where copies of objects are put into a manifest in which nothing was found, each copy is reported by
one error about its name. Other rules find nothing new, but for conflicts between dimensions that
only a copy in front of other models brings to light.
-/

namespace SemanticLayer

open Issues Rules

/-! ### Copies -/

/-- The list `bs` is `as` with `copies` of some of its items put in at any positions. -/
structure Inserts {α : Type} (as copies bs : List α) : Prop where
  kept   : as.Sublist bs
  perm   : bs.Perm (as ++ copies)
  copied : copies ⊆ as

/-- The error about an object whose name an earlier object of its kind has. -/
def nameTaken (kind : String) (context : Context) (name : String) : Issue :=
  .error context s!"Can't use name `{name}` for a {kind} when it was already used for a {kind}"

namespace Inserts

variable {α κ : Type} [DecidableEq κ] {key : α → κ} {as copies bs : List α}

lemma refl (as : List α) : Inserts as [] as where
  kept   := .refl as
  perm   := by rw [List.append_nil]
  copied := List.nil_subset as

lemma cons {a : α} (ha : a ∈ as) : Inserts as [a] (a :: as) where
  kept   := List.sublist_cons_self a as
  perm   := List.perm_append_singleton a as |>.symm
  copied := by simpa using ha

lemma mem_iff (h : Inserts as copies bs) (a : α) : a ∈ bs ↔ a ∈ as := by
  rw [h.perm.mem_iff, List.mem_append]
  exact or_iff_left_of_imp fun ha => h.copied ha

/-- Where no copies are put in, the list stays. -/
lemma eq_of_nil (h : Inserts as [] bs) : bs = as := by
  have hlength := h.perm.length_eq
  rw [List.append_nil] at hlength
  exact (h.kept.eq_of_length hlength.symm).symm

/-- What is found at later items of a key alone is found once for each copy. -/
lemma flatMap_withEarlier_perm (h : Inserts as copies bs) (hkeys : (as.map key).Nodup)
    {f : α × List α → List Issue} {taken : α → Issue}
    (hf : ∀ a ∈ as, ∀ earlier, f (a, earlier) = if earlier.isEmpty then [] else [taken a]) :
    ((withEarlier key bs).flatMap f).Perm (copies.map taken) := by
  have hitem (p : α × List α) (hp : p ∈ withEarlier key bs) :
      f p = if p.2.isEmpty then [] else [taken p.1] := by
    have hmem : p.1 ∈ bs := by
      rw [← map_fst_withEarlier key bs]
      exact List.mem_map_of_mem hp
    exact hf p.1 ((h.mem_iff p.1).1 hmem) p.2
  have hlater : (withEarlier key bs).flatMap f = (laterByKey key bs).map taken := by
    calc (withEarlier key bs).flatMap f
        = ((withEarlier key bs).filter (!·.2.isEmpty)).flatMap f := by
          refine (flatMap_filter fun p hp hfirst => ?_).symm
          rw [hitem p hp, if_pos (by simpa using hfirst)]
      _ = ((withEarlier key bs).filter (!·.2.isEmpty)).flatMap fun p => [taken p.1] := by
          refine List.flatMap_congr fun p hp => ?_
          rw [List.mem_filter] at hp
          rw [hitem p hp.1, if_neg (by simpa using hp.2)]
      _ = (laterByKey key bs).map taken := by
          rw [laterByKey, List.map_map, List.map_eq_flatMap]
          rfl
  rw [hlater]
  exact (laterByKey_perm hkeys h.copied h.perm).map taken

end Inserts

/-- Copies of semantic models, metrics and saved queries. -/
structure Copies where
  models  : List SemanticModel
  metrics : List Metric
  queries : List SavedQuery

/-- One error for each copy. -/
def Copies.issues (copies : Copies) : List Issue :=
  copies.models.map (fun model => nameTaken "semantic model" (.ofModel model) model.name) ++
  copies.metrics.map (fun metric => nameTaken "metric" (.ofMetric metric) metric.name) ++
  copies.queries.map (fun query => nameTaken "saved query" (.ofQuery query) query.name)

lemma Copies.length_issues (copies : Copies) : copies.issues.length =
    copies.models.length + copies.metrics.length + copies.queries.length := by
  simp [Copies.issues, Nat.add_assoc]

namespace Manifest

/-- The manifest `m'` is `m` with `copies` of some of its objects put in at any positions. -/
structure Repeats (m : Manifest) (copies : Copies) (m' : Manifest) : Prop where
  models        : Inserts m.semanticModels copies.models m'.semanticModels
  metrics       : Inserts m.metrics copies.metrics m'.metrics
  queries       : Inserts m.savedQueries copies.queries m'.savedQueries
  configuration : m'.configuration = m.configuration
  version       : m'.interfacesVersion = m.interfacesVersion

variable {m m' : Manifest} {copies : Copies}

/-! ### Names -/

lemma objectNameIssues_eq {kind name : String} {context : Context} {taken : Bool}
    (h : nameIssues context name = []) :
    objectNameIssues kind context name taken =
      if taken then [nameTaken kind context name] else [] := by
  rw [objectNameIssues, h]
  rfl

namespace Repeats

variable (h : m.Repeats copies m')
include h

lemma sameContent : m.SameContent m' where
  models        := h.models.mem_iff
  metrics       := h.metrics.mem_iff
  queries       := h.queries.mem_iff
  granularities := by
    intro name
    rw [customGranularityNames, customGranularities, h.configuration]
    rfl

/-- The rule about names reports each copy once. -/
lemma uniqueAndValidNames_perm (hm : m.HasDistinctNames) (hnames : uniqueAndValidNames m = []) :
    (uniqueAndValidNames m').Perm copies.issues := by
  simp only [uniqueAndValidNames, List.append_eq_nil_iff, List.flatMap_eq_nil_iff,
    objectNameIssues] at hnames
  obtain ⟨⟨⟨hmodels, hmetrics⟩, hqueries⟩, hgranularities⟩ := hnames
  have hmodel : ∀ model ∈ m.semanticModels, nameIssues (Context.ofModel model) model.name = [] ∧
      elementNameIssues model = [] ∧ primaryEntityNameIssues model = [] :=
    (forall_fst_withEarlier SemanticModel.name).1 fun p hp =>
      ⟨(hmodels p hp).1.1.1, (hmodels p hp).1.2, (hmodels p hp).2⟩
  have hmetric : ∀ metric ∈ m.metrics, nameIssues (Context.ofMetric metric) metric.name = [] :=
    (forall_fst_withEarlier Metric.name).1 fun p hp => (hmetrics p hp).1
  have hquery : ∀ query ∈ m.savedQueries, nameIssues (Context.ofQuery query) query.name = [] :=
    (forall_fst_withEarlier SavedQuery.name).1 fun p hp => (hqueries p hp).1
  have hcustom : customGranularityIssues m' = [] := by
    rw [customGranularityIssues, customGranularities, h.configuration]
    exact hgranularities
  rw [uniqueAndValidNames, hcustom, List.append_nil, Copies.issues]
  refine List.Perm.append (List.Perm.append ?_ ?_) ?_
  · apply h.models.flatMap_withEarlier_perm hm.models
    intro model hmem earlier
    obtain ⟨hname, helements, hprimary⟩ := hmodel model hmem
    simp only [objectNameIssues_eq hname, helements, hprimary, List.append_nil]
    cases earlier <;> rfl
  · apply h.metrics.flatMap_withEarlier_perm hm.metrics
    intro metric hmem earlier
    simp only [objectNameIssues_eq (hmetric metric hmem)]
    cases earlier <;> rfl
  · apply h.queries.flatMap_withEarlier_perm hm.queries
    intro query hmem earlier
    simp only [objectNameIssues_eq (hquery query hmem)]
    cases earlier <;> rfl

lemma mem_dimensions_iff (d : Dimension) : d ∈ m'.dimensions ↔ d ∈ m.dimensions :=
  mem_flatMap_congr h.models.mem_iff d

/-- The only other rule that can find anything is the one about dimensions. -/
lemma validate_perm_iff (hm : m.HasDistinctNames) (hvalidate : m.validate = [])
    (hnames : uniqueAndValidNames m = []) :
    m'.validate.Perm copies.issues ↔ consistentDimensions m' = [] := by
  have hperm := h.uniqueAndValidNames_perm hm hnames
  rw [validate_eq_append h.sameContent hm hvalidate]
  constructor
  · intro hall
    have hlength := (hall.trans hperm.symm).length_eq
    rw [List.length_append] at hlength
    exact List.eq_nil_of_length_eq_zero (by omega)
  · intro hnone
    rw [hnone, List.append_nil]
    exact hperm

lemma semanticModels_eq (hmodels : copies.models = []) : m'.semanticModels = m.semanticModels :=
  (hmodels ▸ h.models).eq_of_nil

end Repeats

/-- The copy of a model in front of all others. -/
lemma repeats_cons {model : SemanticModel} (hmodel : model ∈ m.semanticModels) :
    m.Repeats ⟨[model], [], []⟩ { m with semanticModels := model :: m.semanticModels } where
  models        := .cons hmodel
  metrics       := .refl _
  queries       := .refl _
  configuration := rfl
  version       := rfl

/-! ### Dimensions -/

/-- No copies bring a conflict between dimensions to light just when granularities agree. -/
lemma forall_consistentDimensions_iff (hm : m.HasDistinctNames) (h : consistentDimensions m = []) :
    (∀ copies m', m.Repeats copies m' → consistentDimensions m' = []) ↔ m.GranularitiesAgree := by
  constructor
  · intro hcopies d hd d' hd' hname
    obtain ⟨model, hmodel, hdmodel⟩ := List.mem_flatMap.1 hd
    obtain ⟨model', hcompared⟩ := exists_mem_comparedDimensions hm.models hd'
    -- a copy of the model in front of all others makes its dimensions the first ones
    have hrepeats := repeats_cons hmodel
    have hdistinct := hrepeats.sameContent.distinctModels_perm hm
    have hnames := (model.nodup_elementNames (hm.elements model hmodel)).2.1
    have hagrees : d.Agrees d' := agrees_of_consistentDimensions_cons rfl hnames
      (hcopies _ _ hrepeats) hdmodel ((hdistinct.flatMap_right _).mem_iff.2 hcompared) hname
    exact hagrees.granularity
  · intro hagree copies m' hrepeats
    have hagrees := agrees_of_granularitiesAgree hm.models h hagree
    apply consistentDimensions_eq_nil_of_agrees
    intro d hd d' hd'
    rw [hrepeats.mem_dimensions_iff] at hd hd'
    exact hagrees d hd d' hd'

/-! ### Issues about copies -/

/-- Where nothing was found, each copy is reported by one error about its name, and nothing else is
found but conflicts between dimensions. There are none where only metrics and saved queries are
copied; for copies of models there are none, whatever the copies, just when dimensions of one name
agree on their granularities. -/
theorem repetitions_reported (h : m.validate = []) :
    (∀ copies m', m.Repeats copies m' → (uniqueAndValidNames m').Perm copies.issues ∧
      m'.validate = uniqueAndValidNames m' ++ consistentDimensions m') ∧
    (∀ copies m', m.Repeats copies m' → copies.models = [] → m'.validate.Perm copies.issues) ∧
    ((∀ copies m', m.Repeats copies m' → m'.validate.Perm copies.issues) ↔
      m.GranularitiesAgree) := by
  have hvalid : m.IsValid := by
    rw [← hasBlocking_validate_eq_false_iff, h]
    rfl
  have hm := hvalid.hasDistinctNames
  have hnil (name : String) (rule : Manifest → List Issue)
      (hrule : .ofIssues name rule ∈ Rule.defaults) : rule m = [] :=
    List.flatMap_eq_nil_iff.1 h (.ofIssues name rule) hrule
  have hnames : uniqueAndValidNames m = [] :=
    hnil "UniqueAndValidNameRule" _ (by simp [Rule.defaults])
  have hdimensions : consistentDimensions m = [] :=
    hnil "DimensionConsistencyRule" _ (by simp [Rule.defaults])
  refine ⟨?_, ?_, ?_⟩
  · intro copies m' hrepeats
    exact ⟨hrepeats.uniqueAndValidNames_perm hm hnames,
      validate_eq_append hrepeats.sameContent hm h⟩
  · intro copies m' hrepeats hmodels
    rw [hrepeats.validate_perm_iff hm h hnames,
      consistentDimensions_congr (hrepeats.semanticModels_eq hmodels)]
    exact hdimensions
  · rw [← forall_consistentDimensions_iff hm hdimensions]
    exact forall₃_congr fun copies m' hrepeats => hrepeats.validate_perm_iff hm h hnames

/-- Pages of visits, purchases and refunds, with a copy of the purchases in front. -/
def pagesRegraded : Manifest :=
  { pagesGraded with
    semanticModels := pagesOf "purchases" "purchase" (some .day) :: pagesGraded.semanticModels }

/-- One copy leads to two errors: purchases and refunds were in conflict all along. -/
theorem length_validate_pagesRegraded :
    pagesGraded.validate = [] ∧
    pagesGraded.Repeats ⟨[pagesOf "purchases" "purchase" (some .day)], [], []⟩ pagesRegraded ∧
    pagesRegraded.validate.length = 2 ∧ (consistentDimensions pagesRegraded).length = 1 := by
  have hrepeats : pagesGraded.Repeats ⟨[pagesOf "purchases" "purchase" (some .day)], [], []⟩
      pagesRegraded := repeats_cons (by simp [pagesGraded])
  exact ⟨by decide +kernel, hrepeats, by decide +kernel, by decide +kernel⟩

/-- Visits and users twice. -/
def visitsByUsersTwice : Manifest :=
  { visitsByUsers with
    semanticModels := visitsByUsers.semanticModels ++ visitsByUsers.semanticModels }

/-- Where granularities agree, two copies are two errors and no more. -/
theorem repetitions_reported_visitsByUsers :
    visitsByUsers.validate = [] ∧ visitsByUsers.GranularitiesAgree ∧
    visitsByUsers.Repeats ⟨visitsByUsers.semanticModels, [], []⟩ visitsByUsersTwice ∧
    visitsByUsersTwice.validate.Perm (Copies.issues ⟨visitsByUsers.semanticModels, [], []⟩) ∧
    visitsByUsersTwice.validate.length = 2 := by
  have hvalidate : visitsByUsers.validate = [] := by decide +kernel
  have hagree : visitsByUsers.GranularitiesAgree := by
    simp [GranularitiesAgree, visitsByUsers, dimensions, Dimension.granularity]
  have hrepeats :
      visitsByUsers.Repeats ⟨visitsByUsers.semanticModels, [], []⟩ visitsByUsersTwice :=
    ⟨⟨List.sublist_append_left _ _, .refl _, List.Subset.refl _⟩, .refl _, .refl _, rfl, rfl⟩
  have hperm := (repetitions_reported hvalidate).2.2.2 hagree _ _ hrepeats
  exact ⟨hvalidate, hagree, hrepeats, hperm, hperm.length_eq.trans (Copies.length_issues _)⟩

end Manifest

end SemanticLayer

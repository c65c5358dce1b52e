import Mathlib.Data.List.Nodup
import Mathlib.Tactic.Common
import SemanticLayer.Validation.Validator

/-!
# Manifests that no rule blocks

Whether a rule blocks a manifest does not depend on the wording of its issues. What a rule asks for
is found by going through its issues piece by piece, and the rules that look at earlier items of
the same key ask for keys that are pairwise distinct.
-/

namespace SemanticLayer

/-! ### Clear issues -/

namespace Issues

/-- None of the issues blocks. -/
def IsClear (issues : List Issue) : Prop := ∀ i ∈ issues, i.isBlocking = false

instance : DecidablePred IsClear := fun issues =>
  inferInstanceAs (Decidable (∀ i ∈ issues, i.isBlocking = false))

variable {issues issues' : List Issue} {context : Option Context} {message : String}

lemma hasBlocking_eq_false_iff : hasBlocking issues = false ↔ IsClear issues := by
  simp [hasBlocking, IsClear]

@[simp] lemma isClear_nil : IsClear [] := by simp [IsClear]

@[simp] lemma isClear_append : IsClear (issues ++ issues') ↔ IsClear issues ∧ IsClear issues' :=
  List.forall_mem_append

@[simp] lemma isClear_flatMap {α : Type} {as : List α} {f : α → List Issue} :
    IsClear (as.flatMap f) ↔ ∀ a ∈ as, IsClear (f a) := by
  constructor
  · intro h a ha i hi
    exact h i (List.mem_flatMap.2 ⟨a, ha, hi⟩)
  · intro h i hi
    obtain ⟨a, ha, hi⟩ := List.mem_flatMap.1 hi
    exact h a ha i hi

@[simp] lemma isClear_ite {p : Prop} [Decidable p] :
    IsClear (if p then issues else issues') ↔
      (p → IsClear issues) ∧ (¬p → IsClear issues') := by
  by_cases hp : p <;> simp [hp]

@[simp] lemma isClear_error : IsClear [.error context message] ↔ False := by
  simp [IsClear, Issue.error, Issue.isBlocking]

/-- Where an error is raised unless `p`, the issues are clear just when `p` holds. -/
lemma isClear_unless_iff {p : Prop} [Decidable p] :
    IsClear (if p then [] else [.error context message]) ↔ p := by
  by_cases hp : p <;> simp [hp]

/-- Errors that are made one for each item are clear only if there is no item. -/
@[simp] lemma isClear_map_error {α : Type} {as : List α} {context : α → Option Context}
    {message : α → String} :
    IsClear (as.map fun a => .error (context a) (message a)) ↔ as = [] := by
  cases as <;> simp [IsClear, Issue.error, Issue.isBlocking]

end Issues

/-- Items that have no part in the result may be left out. -/
lemma flatMap_filter {α β : Type} {p : α → Bool} {f : α → List β} {as : List α}
    (h : ∀ a ∈ as, p a = false → f a = []) : (as.filter p).flatMap f = as.flatMap f := by
  induction as with
  | nil => rfl
  | cons a as ih =>
    obtain ⟨ha, has⟩ := List.forall_mem_cons.1 h
    cases hp : p a with
    | false =>
      rw [List.filter_cons_of_neg (by simp [hp]), ih has, List.flatMap_cons, ha hp,
        List.nil_append]
    | true =>
      rw [List.filter_cons_of_pos hp, List.flatMap_cons, List.flatMap_cons, ih has]

/-! ### Earlier items -/

section Earlier

variable {α β κ : Type} [DecidableEq κ] {key : α → κ}

lemma withEarlierFrom_map (f : β → α) (before bs : List β) :
    withEarlierFrom key (before.map f) (bs.map f) =
      (withEarlierFrom (fun b => key (f b)) before bs).map fun p => (f p.1, p.2.map f) := by
  induction bs generalizing before with
  | nil => rfl
  | cons b bs ih =>
    have := ih (before ++ [b])
    rw [List.map_append] at this
    simp [withEarlierFrom, List.filter_map, Function.comp_def, ← this]

lemma withEarlier_map (f : β → α) (bs : List β) :
    withEarlier key (bs.map f) =
      (withEarlier (fun b => key (f b)) bs).map fun p => (f p.1, p.2.map f) :=
  withEarlierFrom_map f [] bs

lemma firstByKey_map (f : β → α) (bs : List β) :
    firstByKey key (bs.map f) = (firstByKey (fun b => key (f b)) bs).map f := by
  rw [firstByKey, withEarlier_map, List.filterMap_map, firstByKey, List.map_filterMap]
  refine List.filterMap_congr fun p _ => ?_
  obtain ⟨b, earlier⟩ := p
  cases earlier <;> rfl

lemma map_fst_withEarlierFrom (key : α → κ) (before as : List α) :
    (withEarlierFrom key before as).map Prod.fst = as := by
  induction as generalizing before with
  | nil => rfl
  | cons a as ih => simp [withEarlierFrom, ih]

@[simp] lemma map_fst_withEarlier (key : α → κ) (as : List α) :
    (withEarlier key as).map Prod.fst = as := map_fst_withEarlierFrom key [] as

lemma forall_fst_withEarlier (key : α → κ) {p : α → Prop} {as : List α} :
    (∀ a ∈ withEarlier key as, p a.1) ↔ ∀ a ∈ as, p a := by
  conv_rhs => rw [← map_fst_withEarlier key as]
  exact List.forall_mem_map.symm

/-- No item has an earlier one of its key, among those with a key of interest, just when their keys
are distinct. -/
lemma forall_withEarlierFrom_iff (key : α → κ) (p : κ → Prop) (before as : List α) :
    (∀ a ∈ withEarlierFrom key before as, p (key a.1) → a.2 = []) ↔
      as.Pairwise (fun a b => p (key b) → key a ≠ key b) ∧
        ∀ b ∈ before, ∀ a ∈ as, p (key a) → key b ≠ key a := by
  induction as generalizing before with
  | nil => simp [withEarlierFrom]
  | cons a as ih =>
    simp only [withEarlierFrom, List.forall_mem_cons, ih, List.pairwise_cons, List.mem_append,
      List.mem_singleton, List.filter_eq_nil_iff, decide_eq_true_eq]
    constructor
    · rintro ⟨hfirst, hrest, hbefore⟩
      refine ⟨⟨fun b hb => hbefore a (.inr rfl) b hb, hrest⟩, fun b hb => ?_⟩
      exact ⟨fun hp => hfirst hp b hb, hbefore b (.inl hb)⟩
    · rintro ⟨⟨hfirst, hrest⟩, hbefore⟩
      refine ⟨fun hp b hb => (hbefore b hb).1 hp, hrest, ?_⟩
      rintro b (hb | rfl)
      · exact (hbefore b hb).2
      · exact hfirst

lemma forall_withEarlier_iff {as : List α} :
    (∀ a ∈ withEarlier key as, a.2 = []) ↔ (as.map key).Nodup := by
  have h := forall_withEarlierFrom_iff key (fun _ => True) [] as
  simp only [forall_const, List.not_mem_nil, false_implies, implies_true, and_true] at h
  rw [withEarlier, h, List.Nodup, List.pairwise_map]

/-- Where only some items have a key, those keys are distinct. -/
lemma forall_withEarlier_some_iff {key : α → Option κ} {as : List α} :
    (∀ a ∈ withEarlier key as, (key a.1).isSome → a.2 = []) ↔ (as.filterMap key).Nodup := by
  have h := forall_withEarlierFrom_iff key (fun k => k.isSome) [] as
  simp only [List.not_mem_nil, false_implies, implies_true, and_true] at h
  rw [withEarlier, h, List.Nodup, List.pairwise_filterMap]
  refine List.Pairwise.iff fun a b => ?_
  constructor
  · rintro hab k hk k' hk' rfl
    exact hab (by rw [hk']; rfl) (hk.trans hk'.symm)
  · intro hab hsome hkey
    obtain ⟨k, hk⟩ := Option.isSome_iff_exists.1 hsome
    exact hab k (hkey.trans hk) k hk rfl

lemma firstByKey_eq_self {as : List α} (h : (as.map key).Nodup) : firstByKey key as = as := by
  have hnone := forall_withEarlier_iff.2 h
  calc firstByKey key as
      = (withEarlier key as).filterMap fun p => some p.1 := by
        refine List.filterMap_congr fun p hp => ?_
        simp [hnone p hp]
    _ = as := by rw [List.filterMap_eq_map', map_fst_withEarlier]

end Earlier

end SemanticLayer

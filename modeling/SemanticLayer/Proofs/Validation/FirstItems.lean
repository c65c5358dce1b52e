import Mathlib.Data.List.Perm.Basic
import SemanticLayer.Proofs.Manifest.Lookups
import SemanticLayer.Proofs.Validation.Clear

/-!
# First items of a key

What is compared with the first item of its key is compared with what a lookup of the key finds.
Leaving out the items that have an earlier one of their key leaves one item for each key: where only
copies share a key, the same items in whatever order the copies stand.
-/

namespace SemanticLayer

variable {α β κ : Type} [DecidableEq κ] {key : α → κ} {as bs : List α}

/-! ### Comparisons with the first item -/

/-- Items are compared with the first one of their key just when they are compared with the one that
is found by their key, if no item differs from itself. -/
lemma forall_withEarlierFrom_head?_iff {p : α → α → Prop} (hrefl : ∀ a, p a a)
    (before as : List α) :
    (∀ a ∈ withEarlierFrom key before as, ∀ first ∈ a.2.head?, p first a.1) ↔
      ∀ a ∈ as, ∀ first ∈ (before ++ as).find? (key · = key a), p first a := by
  induction as generalizing before with
  | nil => simp [withEarlierFrom]
  | cons a as ih =>
    rw [withEarlierFrom, List.forall_mem_cons, List.forall_mem_cons, ih, List.append_assoc,
      List.singleton_append]
    refine and_congr ?_ Iff.rfl
    rw [List.head?_filter, List.find?_append, List.find?_cons_of_pos (by simp)]
    cases before.find? (key · = key a) with
    | none       => simp [hrefl a]
    | some first => simp

lemma forall_withEarlier_head?_iff (key : α → κ) {p : α → α → Prop} (hrefl : ∀ a, p a a) :
    (∀ a ∈ withEarlier key as, ∀ first ∈ a.2.head?, p first a.1) ↔
      ∀ a ∈ as, ∀ first ∈ as.find? (key · = key a), p first a :=
  forall_withEarlierFrom_head?_iff hrefl [] as

lemma exists_find?_key (key : α → κ) {a : α} (ha : a ∈ as) :
    ∃ first ∈ as, key first = key a ∧ as.find? (key · = key a) = some first := by
  have hsome : (as.find? (key · = key a)).isSome := by
    rw [List.find?_isSome]
    exact ⟨a, ha, by simp⟩
  obtain ⟨first, hfirst⟩ := Option.isSome_iff_exists.1 hsome
  exact ⟨first, List.mem_of_find?_eq_some hfirst, by simpa using List.find?_some hfirst, hfirst⟩

/-- Where every item agrees with the first one of its key, all items of one key agree. -/
lemma forall_withEarlier_eq_iff {f : α → β} :
    (∀ a ∈ withEarlier key as, ∀ first ∈ a.2.head?, f first = f a.1) ↔
      ∀ a ∈ as, ∀ b ∈ as, key a = key b → f a = f b := by
  rw [forall_withEarlier_head?_iff key (p := fun first a => f first = f a) fun _ => rfl]
  constructor
  · intro h a ha b hb hkey
    obtain ⟨first, -, -, hfirst⟩ := exists_find?_key key ha
    have hfirst' : as.find? (key · = key b) = some first := by rw [← hkey, hfirst]
    exact (h a ha first hfirst).symm.trans (h b hb first hfirst')
  · intro h a ha first hfirst
    exact h first (List.mem_of_find?_eq_some hfirst) a ha (by simpa using List.find?_some hfirst)

/-! ### One item for each key -/

/-- The items that have an earlier one of the same key. -/
def laterByKey (key : α → κ) (items : List α) : List α :=
  ((withEarlier key items).filter (!·.2.isEmpty)).map Prod.fst

lemma firstByKey_eq_map_filter (key : α → κ) (as : List α) :
    firstByKey key as = ((withEarlier key as).filter (·.2.isEmpty)).map Prod.fst := by
  rw [firstByKey, ← List.filterMap_eq_map, ← List.filterMap_eq_filter, List.filterMap_filterMap]
  refine List.filterMap_congr fun p _ => ?_
  cases hempty : p.2.isEmpty <;> simp [hempty, Option.guard]

lemma exists_firstByKey_cons (a : α) (as : List α) :
    ∃ rest, firstByKey key (a :: as) = a :: rest :=
  ⟨_, rfl⟩

lemma firstByKey_sublist (key : α → κ) (as : List α) : (firstByKey key as).Sublist as := by
  rw [firstByKey_eq_map_filter]
  conv_rhs => rw [← map_fst_withEarlier key as]
  exact List.filter_sublist.map Prod.fst

lemma firstByKey_append_laterByKey_perm (key : α → κ) (as : List α) :
    (firstByKey key as ++ laterByKey key as).Perm as := by
  rw [firstByKey_eq_map_filter, laterByKey, ← List.map_append]
  conv_rhs => rw [← map_fst_withEarlier key as]
  exact (List.filter_append_perm _ _).map Prod.fst

/-- An item without an earlier one of its key has a key that no item in front of it has. -/
lemma pairwise_withEarlierFrom (before as : List α) :
    (withEarlierFrom key before as).Pairwise (fun p q => q.2 = [] → key p.1 ≠ key q.1) ∧
      ∀ q ∈ withEarlierFrom key before as, q.2 = [] → ∀ b ∈ before, key b ≠ key q.1 := by
  induction as generalizing before with
  | nil => simp [withEarlierFrom]
  | cons a as ih =>
    obtain ⟨hpairwise, hbefore⟩ := ih (before ++ [a])
    rw [withEarlierFrom, List.pairwise_cons, List.forall_mem_cons]
    refine ⟨⟨fun q hq hfirst => ?_, hpairwise⟩, fun hfirst b hb => ?_, fun q hq hfirst b hb => ?_⟩
    · exact hbefore q hq hfirst a (by simp)
    · simpa using List.filter_eq_nil_iff.1 hfirst b hb
    · exact hbefore q hq hfirst b (List.mem_append_left _ hb)

lemma nodup_map_firstByKey (key : α → κ) (as : List α) : ((firstByKey key as).map key).Nodup := by
  rw [firstByKey_eq_map_filter, List.map_map, List.Nodup, List.pairwise_map, List.pairwise_filter]
  refine (pairwise_withEarlierFrom [] as).1.imp fun h _ hfirst => ?_
  exact h (by simpa using hfirst)

/-- The item that is found by its key has no earlier one. -/
lemma mem_withEarlierFrom_of_find? {before : List α} {first : α}
    (hbefore : ∀ b ∈ before, key b ≠ key first)
    (h : as.find? (key · = key first) = some first) :
    (first, []) ∈ withEarlierFrom key before as := by
  induction as generalizing before with
  | nil => simp at h
  | cons a as ih =>
    rw [withEarlierFrom, List.mem_cons]
    by_cases hkey : key a = key first
    · left
      obtain rfl : a = first := by simpa [hkey] using h
      simpa [eq_comm (a := ([] : List α)), List.filter_eq_nil_iff] using hbefore
    · right
      rw [List.find?_cons_of_neg (by simpa using hkey)] at h
      refine ih (fun b hb => ?_) h
      rcases List.mem_append.1 hb with hb | hb
      · exact hbefore b hb
      · rw [List.mem_singleton.1 hb]
        exact hkey

lemma mem_firstByKey_of_find? {first : α} (h : as.find? (key · = key first) = some first) :
    first ∈ firstByKey key as := by
  rw [firstByKey_eq_map_filter, List.mem_map]
  refine ⟨(first, []), List.mem_filter.2 ⟨?_, rfl⟩, rfl⟩
  exact mem_withEarlierFrom_of_find? (by simp) h

/-- Where only copies share a key, leaving out later items leaves each item once. -/
lemma firstByKey_perm (h : (as.map key).Nodup) (hsame : ∀ a, a ∈ bs ↔ a ∈ as) :
    (firstByKey key bs).Perm as := by
  refine (List.perm_ext_iff_of_nodup (nodup_map_firstByKey key bs).of_map h.of_map).2 fun a => ?_
  constructor
  · intro ha
    exact (hsame a).1 ((firstByKey_sublist key bs).subset ha)
  · intro ha
    obtain ⟨first, hfirst, hkey, hfind⟩ := exists_find?_key key ((hsame a).2 ha)
    obtain rfl : first = a := List.inj_on_of_nodup_map h ((hsame first).1 hfirst) ha hkey
    exact mem_firstByKey_of_find? hfind

/-- Where copies are put in among items of different keys, the later items are the copies. -/
lemma laterByKey_perm {copies : List α} (h : (as.map key).Nodup) (hcopies : copies ⊆ as)
    (hperm : bs.Perm (as ++ copies)) : (laterByKey key bs).Perm copies := by
  have hsame : ∀ a, a ∈ bs ↔ a ∈ as := fun a => by
    rw [hperm.mem_iff, List.mem_append]
    exact or_iff_left_of_imp fun ha => hcopies ha
  rw [← List.perm_append_left_iff as]
  have hfirst : (as ++ laterByKey key bs).Perm (firstByKey key bs ++ laterByKey key bs) :=
    (firstByKey_perm h hsame).symm.append_right _
  exact (hfirst.trans (firstByKey_append_laterByKey_perm key bs)).trans hperm

/-! ### Lookups -/

/-- Where only copies share a key, a lookup finds the same in every order of the items. -/
lemma find?_key_congr (h : (as.map key).Nodup) (hsame : ∀ a, a ∈ bs ↔ a ∈ as) (k : κ) :
    bs.find? (key · == k) = as.find? (key · == k) := by
  cases hfind : bs.find? (key · == k) with
  | some a =>
    have hkey : key a = k := by simpa using List.find?_some hfind
    exact ((find?_key_eq_some_iff h).2
      ⟨(hsame a).1 (List.mem_of_find?_eq_some hfind), hkey⟩).symm
  | none =>
    refine (List.find?_eq_none.2 fun a ha => ?_).symm
    exact List.find?_eq_none.1 hfind a ((hsame a).2 ha)

end SemanticLayer

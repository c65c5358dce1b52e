import Mathlib.Tactic.Common
import SemanticLayer.Name.Check

/-!
# Segments of dundered names

Segments that hold no double underscore, and end with no underscore that could be taken for the
first half of one, come back from the name that they are joined to.
-/

namespace SemanticLayer

lemma toList_dunder : dunder.toList = ['_', '_'] := rfl

/-- The text comes back from between double underscores. -/
structure IsSegment (s : String) : Prop where
  notDundered : hasDunder s.toList = false
  notOpen     : s.toList.getLast? ≠ some '_'

namespace DunderedName

/-! ### Splitting -/

/-- A text that starts with no double underscore splits behind its first character. -/
lemma splitDunder_cons {c : Char} {cs : List Char} (h : c = '_' → cs.head? ≠ some '_') :
    splitDunder (c :: cs) = consFirst c (splitDunder cs) := by
  rw [splitDunder]
  rintro ds rfl rfl
  exact h rfl rfl

lemma hasDunder_cons_iff {c : Char} {cs : List Char} :
    hasDunder (c :: cs) = false ↔ (c = '_' → cs.head? ≠ some '_') ∧ hasDunder cs = false := by
  by_cases h : c = '_' ∧ cs.head? = some '_'
  · obtain ⟨rfl, hhead⟩ := h
    obtain ⟨ds, rfl⟩ := List.head?_eq_some_iff.1 hhead
    simp [hasDunder]
  · have hopen : c = '_' → cs.head? ≠ some '_' := fun hc hhead => h ⟨hc, hhead⟩
    rw [hasDunder]
    · exact ⟨fun h => ⟨hopen, h⟩, And.right⟩
    · rintro ds rfl rfl
      exact hopen rfl rfl

lemma splitDunder_eq_singleton {cs : List Char} (h : hasDunder cs = false) :
    splitDunder cs = [cs] := by
  induction cs with
  | nil => rfl
  | cons c cs ih =>
    obtain ⟨hhead, hrest⟩ := hasDunder_cons_iff.1 h
    rw [splitDunder_cons hhead, ih hrest, consFirst]

/-- A segment ends at the first double underscore behind it. -/
lemma splitDunder_append {cs : List Char} (h : hasDunder cs = false)
    (hlast : cs.getLast? ≠ some '_') (ds : List Char) :
    splitDunder (cs ++ '_' :: '_' :: ds) = cs :: splitDunder ds := by
  induction cs with
  | nil => rfl
  | cons c cs ih =>
    obtain ⟨hhead, hrest⟩ := hasDunder_cons_iff.1 h
    cases cs with
    | nil =>
      have hc : c ≠ '_' := by simpa using hlast
      rw [List.singleton_append, splitDunder_cons fun h => absurd h hc]
      rfl
    | cons d cs =>
      have hhead' : c = '_' → (d :: cs ++ '_' :: '_' :: ds).head? ≠ some '_' := hhead
      rw [List.cons_append, splitDunder_cons hhead', ih hrest (by simpa using hlast), consFirst]

/-- There is a first segment, and the text starts with it. -/
lemma exists_splitDunder_eq_cons (cs : List Char) :
    ∃ s ss, splitDunder cs = s :: ss ∧ s <+: cs := by
  fun_induction splitDunder cs with
  | case1 => exact ⟨[], [], rfl, List.prefix_rfl⟩
  | case2 cs => exact ⟨[], splitDunder cs, rfl, List.nil_prefix⟩
  | case3 c cs _ ih =>
    obtain ⟨s, ss, heq, hs⟩ := ih
    exact ⟨c :: s, ss, by rw [heq, consFirst], (List.prefix_cons_inj c).2 hs⟩

lemma segments_ne_nil (name : String) : segments name ≠ [] := by
  obtain ⟨s, ss, heq, -⟩ := exists_splitDunder_eq_cons name.toList
  simp [segments, heq]

/-- No segment holds a double underscore. -/
lemma hasDunder_of_mem_splitDunder {cs s : List Char} (h : s ∈ splitDunder cs) :
    hasDunder s = false := by
  fun_induction splitDunder cs generalizing s with
  | case1 =>
    obtain rfl := List.mem_singleton.1 h
    rfl
  | case2 cs ih =>
    obtain rfl | h := List.mem_cons.1 h
    · rfl
    · exact ih h
  | case3 c cs hopen ih =>
    obtain ⟨first, ss, heq, hfirst⟩ := exists_splitDunder_eq_cons cs
    rw [heq] at h ih
    obtain rfl | h := List.mem_cons.1 h
    · -- an underscore in front of the first segment would stand in front of another one in the text
      refine hasDunder_cons_iff.2 ⟨fun hc hhead => ?_, ih List.mem_cons_self⟩
      obtain ⟨s, rfl⟩ := List.head?_eq_some_iff.1 hhead
      obtain ⟨rest, rfl⟩ := hfirst
      exact hopen _ hc rfl
    · exact ih (List.mem_cons_of_mem _ h)

/-- A double underscore makes a second segment. -/
lemma exists_splitDunder_eq_cons_cons {cs : List Char} (h : hasDunder cs) :
    ∃ s s' ss, splitDunder cs = s :: s' :: ss := by
  fun_induction splitDunder cs with
  | case1 => simp [hasDunder] at h
  | case2 cs =>
    obtain ⟨s, ss, heq, -⟩ := exists_splitDunder_eq_cons cs
    exact ⟨[], s, ss, by rw [heq]⟩
  | case3 c cs hopen ih =>
    rw [hasDunder] at h
    · obtain ⟨s, s', ss, heq⟩ := ih h
      exact ⟨c :: s, s', ss, by rw [heq, consFirst]⟩
    · exact hopen

/-! ### Joining -/

/-- A segment in front of a name is its first one. -/
lemma segments_append {s : String} (h : IsSegment s) (rest : String) :
    segments (s ++ dunder ++ rest) = s :: segments rest := by
  have hsplit := splitDunder_append h.notDundered h.notOpen rest.toList
  simp [segments, toList_dunder, hsplit]

/-- Segments come back from the name they are joined to. -/
lemma segments_join {ss : List String} (hne : ss ≠ []) (h : ∀ s ∈ ss, IsSegment s) :
    segments (join ss) = ss := by
  induction ss with
  | nil => exact absurd rfl hne
  | cons s ss ih =>
    obtain ⟨hs, hss⟩ := List.forall_mem_cons.1 h
    cases ss with
    | nil => simp [join, segments, splitDunder_eq_singleton hs.notDundered]
    | cons s' ss =>
      have hjoin : join (s :: s' :: ss) = s ++ dunder ++ join (s' :: ss) := by
        simp [join, String.intercalate_cons_cons]
      rw [hjoin, segments_append hs, ih (List.cons_ne_nil s' ss) hss]

end DunderedName

end SemanticLayer

import SemanticLayer.Proofs.Text.Lower
import SemanticLayer.Proofs.Text.Word
import SemanticLayer.Text.Blank

/-!
# Words between white space

The words of a text are told from the white space between them, which there must be, and around
them, which there may be. A word stays one in lower case, since no capital turns into white space.
-/

namespace SemanticLayer.Text

/-! ### Texts with words -/

/-- Characters of a word: there are some, and no white space is among them. -/
structure IsSolid (cs : List Char) : Prop where
  ne_nil : cs ≠ []
  solid  : ∀ c ∈ cs, isBlank c = false

/-- The text consists of the words, in order, with white space between any two of them and perhaps
around them. -/
inductive IsSpaced : List (List Char) → List Char → Prop
  | nil {gap : List Char} (hgap : ∀ c ∈ gap, isBlank c) : IsSpaced [] gap
  | cons {gap word rest : List Char} {words : List (List Char)} (hgap : ∀ c ∈ gap, isBlank c)
      (hword : IsSolid word) (hapart : ∀ c ∈ rest.head?, isBlank c) (hrest : IsSpaced words rest) :
      IsSpaced (word :: words) (gap ++ (word ++ rest))

variable {cs gap word rest : List Char} {words : List (List Char)}

lemma IsSpaced.blank_cons {c : Char} (hc : isBlank c) (h : IsSpaced words cs) :
    IsSpaced words (c :: cs) := by
  cases h with
  | nil hgap => exact .nil (List.forall_mem_cons.2 ⟨hc, hgap⟩)
  | cons hgap hword hapart hrest =>
    exact .cons (List.forall_mem_cons.2 ⟨hc, hgap⟩) hword hapart hrest

/-- A word may stand at the beginning of the text. -/
lemma IsSpaced.solid_append (h : IsSpaced words rest) (hword : IsSolid word)
    (hapart : ∀ c ∈ rest.head?, isBlank c) : IsSpaced (word :: words) (word ++ rest) := by
  rw [← List.nil_append (word ++ rest)]
  exact .cons (by simp) hword hapart h

lemma IsSpaced.isSolid (h : IsSpaced words cs) : ∀ word ∈ words, IsSolid word := by
  induction h with
  | nil => simp
  | cons _ hword _ _ ih => exact List.forall_mem_cons.2 ⟨hword, ih⟩

/-- The class of the characters of words. -/
abbrev isInk (c : Char) : Bool := !isBlank c

lemma runs_append_of_blank (hgap : ∀ c ∈ gap, isBlank c) :
    runs isInk (gap ++ cs) = runs isInk cs := by
  induction gap with
  | nil => rfl
  | cons c gap ih =>
    obtain ⟨hc, hgap⟩ := List.forall_mem_cons.1 hgap
    rw [List.cons_append, runs_cons_of_neg (by simp [hc]), ih hgap]

lemma runs_append_of_solid (hword : IsSolid word) (hapart : ∀ c ∈ rest.head?, isBlank c) :
    runs isInk (word ++ rest) = word :: runs isInk rest := by
  obtain ⟨c, cs, rfl⟩ := List.exists_cons_of_ne_nil hword.ne_nil
  obtain ⟨hc, hcs⟩ := List.forall_mem_cons.1 hword.solid
  have hink : ∀ d ∈ cs, isInk d := fun d hd => by simp [hcs d hd]
  have hstop : rest.takeWhile isInk = [] ∧ rest.dropWhile isInk = rest := by
    cases rest with
    | nil => simp
    | cons d rest => simp [hapart d rfl]
  rw [List.cons_append, runs_cons_of_pos (by simp [hc]), List.takeWhile_append_of_pos hink,
    List.dropWhile_append_of_pos hink, hstop.1, hstop.2, List.append_nil]

/-- Words come back from a text that consists of them. -/
lemma IsSpaced.runs_eq (h : IsSpaced words cs) : runs isInk cs = words := by
  induction h with
  | @nil gap hgap =>
    rw [← List.append_nil gap, runs_append_of_blank hgap]
    rfl
  | cons hgap hword hapart _ ih =>
    rw [runs_append_of_blank hgap, runs_append_of_solid hword hapart, ih]

/-- Every text consists of its runs. -/
lemma isSpaced_runs (cs : List Char) : IsSpaced (runs isInk cs) cs := by
  induction cs using runs_induction isInk with
  | nil => exact .nil (by simp)
  | skip c cs hc ih =>
    rw [runs_cons_of_neg hc]
    exact ih.blank_cons (by simpa using hc)
  | run c cs hc ih =>
    have hsolid : IsSolid (c :: cs.takeWhile isInk) := by
      refine ⟨by simp, List.forall_mem_cons.2 ⟨by simpa using hc, fun d hd => ?_⟩⟩
      simpa using List.mem_takeWhile_imp hd
    have hapart : ∀ d ∈ (cs.dropWhile isInk).head?, isBlank d := by
      intro d hd
      simpa using of_mem_head?_dropWhile d hd
    rw [runs_cons_of_pos hc]
    simpa using ih.solid_append hsolid hapart

/-- A text has those words that it consists of. -/
theorem words_eq_iff {s : String} {words : List String} :
    Text.words s = words ↔ IsSpaced (words.map String.toList) s.toList := by
  have hmap (parts : List (List Char)) : (parts.map String.ofList).map String.toList = parts := by
    simp [Function.comp_def]
  constructor
  · rintro rfl
    rw [Text.words, hmap]
    exact isSpaced_runs _
  · intro h
    rw [Text.words, h.runs_eq]
    simp [Function.comp_def]

/-! ### Lower case -/

/-- The code points of white space. -/
def blankCodes : List Nat :=
  List.range' 0x09 5 ++ [0x20, 0x85, 0xA0, 0x1680] ++ List.range' 0x2000 11 ++
    [0x2028, 0x2029, 0x202F, 0x205F, 0x3000]

lemma isBlank_iff_mem_blankCodes {c : Char} : isBlank c ↔ c.toNat ∈ blankCodes := by
  simp only [isBlank, blankCodes, Bool.or_eq_true, Bool.and_eq_true, decide_eq_true_eq, beq_iff_eq,
    List.mem_append, List.mem_range'_1, List.mem_cons, List.not_mem_nil, or_false]
  omega

/-- No run of capitals turns one into white space. -/
lemma misses_blankCodes : ∀ r ∈ lowerRuns, ∀ n ∈ blankCodes, r.misses n := by
  have hall : lowerRuns.all fun r => blankCodes.all r.misses := by decide +kernel
  simpa [List.all_eq_true] using hall

lemma isBlank_toLower {c : Char} (h : isBlank c = false) (hascii : c.toNat < 0x80) :
    isBlank c.toLower = false := by
  obtain ⟨n, hn, rfl⟩ : ∃ n, n < 0x80 ∧ c = Char.ofNat n := ⟨c.toNat, hascii, by simp⟩
  have hall : ∀ n < 0x80, isBlank (Char.ofNat n) = false →
      isBlank (Char.ofNat n).toLower = false := by decide +kernel
  exact hall n hn h

lemma isBlank_ofNat_image {r : CaseRun} {n : Nat} (hr : r ∈ lowerRuns) (hn : r.covers n) :
    isBlank (Char.ofNat (r.image n)) = false := by
  by_cases hvalid : (r.image n).isValidChar
  · by_contra hblank
    rw [Bool.not_eq_false, isBlank_iff_mem_blankCodes, toNat_ofNat hvalid] at hblank
    exact CaseRun.image_ne_of_misses (misses_blankCodes r hr _ hblank) hn rfl
  · -- no character has such a code point, and the null character stands in for it
    rw [Char.ofNat, dif_neg hvalid]
    decide

lemma isBlank_of_mem_lowerChar {c d : Char} (hc : isBlank c = false) (h : d ∈ lowerChar c) :
    isBlank d = false := by
  unfold lowerChar at h
  split at h
  · next hascii =>
    rw [List.mem_singleton] at h
    exact h ▸ isBlank_toLower hc hascii
  · split at h
    · obtain rfl | rfl : d = 'i' ∨ d = '\u0307' := by simpa using h
      · decide
      · decide
    · cases hfind : lowerRuns.find? (·.covers c.toNat) with
      | none =>
        rw [hfind, List.mem_singleton] at h
        exact h ▸ hc
      | some r =>
        rw [hfind, List.mem_singleton] at h
        rw [h]
        exact isBlank_ofNat_image (List.mem_of_find?_eq_some hfind)
          (by simpa using List.find?_some hfind)

lemma isBlank_of_mem_lowerFrom (before : List Char) (hcs : ∀ c ∈ cs, isBlank c = false) :
    ∀ d ∈ lowerFrom before cs, isBlank d = false := by
  induction cs generalizing before with
  | nil => simp [lowerFrom]
  | cons c cs ih =>
    obtain ⟨hc, hcs⟩ := List.forall_mem_cons.1 hcs
    unfold lowerFrom
    refine List.forall_mem_append.2 ⟨fun d hd => ?_, ih _ hcs⟩
    split at hd
    · obtain rfl | rfl : d = 'ς' ∨ d = 'σ' := by
        split at hd
        · exact .inl (by simpa using hd)
        · exact .inr (by simpa using hd)
      · decide
      · decide
    · exact isBlank_of_mem_lowerChar hc hd

end SemanticLayer.Text

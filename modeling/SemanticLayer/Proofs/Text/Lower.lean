import Mathlib.Tactic.Common
import SemanticLayer.Text.Lower

/-!
# Lower case is stable

A text in lower case is its own lower case. The capitals are given by runs of code points, so what
has to be checked is that no run takes a code point into another run, `lowerRuns_clear`. What comes
out of a capital sigma or a dotted capital I is lower case as well, and no surroundings matter
where no capital sigma is left.
-/

namespace SemanticLayer.Text

/-! ### Runs of capitals -/

namespace CaseRun

/-- The code point that the run takes `n` to. -/
def image (r : CaseRun) (n : Nat) : Nat := (n + r.shift).toNat

/-- The run ends below the code point `n` or starts above it. -/
def misses (r : CaseRun) (n : Nat) : Bool :=
  Nat.blt (r.image r.last) n || Nat.blt n (r.image r.first)

/-- No lower case of a code point of `r` belongs to `s`: the two lie apart, or `s` takes every
second code point and the lower cases lie in between. -/
def clears (r s : CaseRun) : Bool :=
  Nat.blt (r.image r.last) s.first || Nat.blt s.last (r.image r.first) ||
    ((r.stride == 2 || r.first == r.last) && s.stride == 2 && (r.image r.first + s.first) % 2 == 1)

/-- What the run takes its code points to are code points in lower case. -/
def staysLower (r : CaseRun) : Bool :=
  decide (0 ≤ r.first + r.shift) && (List.range' 0x41 26).all r.misses && r.misses 0x130 &&
    lowerRuns.all r.clears

variable {r s : CaseRun} {n : Nat}

lemma first_le_of_covers (h : r.covers n) : r.first ≤ n ∧ n ≤ r.last := by
  simp only [covers, Bool.and_eq_true, decide_eq_true_eq] at h
  exact h.1

lemma image_ne_of_misses {k : Nat} (h : r.misses k) (hn : r.covers n) : r.image n ≠ k := by
  have := first_le_of_covers hn
  simp only [misses, image, Bool.or_eq_true, Nat.blt_eq] at h ⊢
  omega

lemma not_covers_image_of_clears (hlow : 0 ≤ r.first + r.shift) (h : r.clears s)
    (hn : r.covers n) : s.covers (r.image n) = false := by
  have hbounds := first_le_of_covers hn
  by_contra hs
  rw [Bool.not_eq_false] at hs
  have hbounds' := first_le_of_covers hs
  simp only [clears, image, Bool.or_eq_true, Bool.and_eq_true, Nat.blt_eq, beq_iff_eq] at h
  simp only [covers, image, Bool.and_eq_true, beq_iff_eq] at hn hs hbounds'
  obtain (h | h) | ⟨⟨hr, hstride⟩, hodd⟩ := h
  · omega
  · omega
  · rw [hstride] at hs
    obtain hr | hr := hr
    · rw [hr] at hn
      omega
    · omega

end CaseRun

lemma staysLower_of_mem_lowerRuns : ∀ r ∈ lowerRuns, r.staysLower := by
  rw [← List.all_eq_true]
  decide +kernel

/-! ### Characters -/

/-- The character is its own lower case. -/
def IsLowerChar (c : Char) : Prop := lowerChar c = [c]

instance (c : Char) : Decidable (IsLowerChar c) := inferInstanceAs (Decidable (lowerChar c = [c]))

lemma toLower_eq_self {c : Char} (h : ¬(0x41 ≤ c.toNat ∧ c.toNat ≤ 0x5A)) : c.toLower = c := by
  unfold Char.toLower
  split
  · next hc =>
    exact absurd ⟨UInt32.le_iff_toNat_le.1 hc.1, UInt32.le_iff_toNat_le.1 hc.2⟩ h
  · rfl

/-- A code point that belongs to no run stands for a character in lower case, the capitals that
have no run of their own apart. -/
lemma isLowerChar_of_not_covers {c : Char} (hascii : ¬(0x41 ≤ c.toNat ∧ c.toNat ≤ 0x5A))
    (hdotted : c.toNat ≠ 0x130) (hruns : ∀ r ∈ lowerRuns, r.covers c.toNat = false) :
    IsLowerChar c := by
  unfold IsLowerChar lowerChar
  split
  · rw [toLower_eq_self hascii]
  · have hfind : lowerRuns.find? (·.covers c.toNat) = none := by
      simpa [List.find?_eq_none] using hruns
    simp [hdotted, hfind]

lemma isLowerChar_toLower (c : Char) (h : c.toNat < 0x80) : IsLowerChar c.toLower := by
  obtain ⟨n, hn, rfl⟩ : ∃ n, n < 0x80 ∧ c = Char.ofNat n := ⟨c.toNat, h, by simp⟩
  have : ∀ n < 0x80, IsLowerChar (Char.ofNat n).toLower := by decide +kernel
  exact this n hn

lemma toNat_ofNat {n : Nat} (h : n.isValidChar) : (Char.ofNat n).toNat = n := by
  rw [Char.ofNat, dif_pos h]
  exact UInt32.toNat_ofNatLT

/-- What a run takes one of its code points to is a character in lower case. -/
lemma isLowerChar_ofNat_image {r : CaseRun} {n : Nat} (hr : r ∈ lowerRuns) (hn : r.covers n) :
    IsLowerChar (Char.ofNat (r.image n)) := by
  have hstays := staysLower_of_mem_lowerRuns r hr
  simp only [CaseRun.staysLower, Bool.and_eq_true, decide_eq_true_eq, List.all_eq_true] at hstays
  obtain ⟨⟨⟨hlow, hascii⟩, hdotted⟩, hruns⟩ := hstays
  by_cases hvalid : (r.image n).isValidChar
  · have hcode := toNat_ofNat hvalid
    refine isLowerChar_of_not_covers ?_ ?_ fun s hs => ?_
    · rw [hcode]
      intro hcapital
      exact CaseRun.image_ne_of_misses (hascii _ (by rw [List.mem_range'_1]; omega)) hn rfl
    · rw [hcode]
      exact CaseRun.image_ne_of_misses hdotted hn
    · rw [hcode]
      exact CaseRun.not_covers_image_of_clears hlow (hruns s hs) hn
  · -- no character has such a code point, and the null character stands in for it
    rw [Char.ofNat, dif_neg hvalid]
    decide

/-- The lower case of a character is in lower case. -/
lemma isLowerChar_of_mem_lowerChar {c d : Char} (h : d ∈ lowerChar c) : IsLowerChar d := by
  unfold lowerChar at h
  split at h
  · next hascii =>
    rw [List.mem_singleton] at h
    exact h ▸ isLowerChar_toLower c hascii
  · split at h
    · have : d = 'i' ∨ d = '\u0307' := by simpa using h
      obtain rfl | rfl := this <;> decide +kernel
    · cases hfind : lowerRuns.find? (·.covers c.toNat) with
      | some r =>
        rw [hfind] at h
        rw [List.mem_singleton] at h
        rw [h]
        exact isLowerChar_ofNat_image (List.mem_of_find?_eq_some hfind)
          (by simpa using List.find?_some hfind)
      | none =>
        rw [hfind] at h
        rw [List.mem_singleton] at h
        subst h
        unfold IsLowerChar lowerChar
        simp [*]

/-! ### Texts -/

/-- Every character of the text is its own lower case. -/
def IsLower (s : String) : Prop := ∀ c ∈ s.toList, IsLowerChar c

lemma isLowerChar_of_mem_lowerFrom {before cs : List Char} {d : Char}
    (h : d ∈ lowerFrom before cs) : IsLowerChar d := by
  induction cs generalizing before with
  | nil => simp [lowerFrom] at h
  | cons c cs ih =>
    unfold lowerFrom at h
    rw [List.mem_append] at h
    obtain h | h := h
    · split at h
      · have : d = 'ς' ∨ d = 'σ' := by
          split at h
          · exact .inl (by simpa using h)
          · exact .inr (by simpa using h)
        obtain rfl | rfl := this <;> decide +kernel
      · exact isLowerChar_of_mem_lowerChar h
    · exact ih h

lemma lowerFrom_eq_self {cs : List Char} (h : ∀ c ∈ cs, IsLowerChar c) (before : List Char) :
    lowerFrom before cs = cs := by
  induction cs generalizing before with
  | nil => rfl
  | cons c cs ih =>
    have hc : IsLowerChar c := h c (by simp)
    have hsigma : (c == 'Σ') = false := by
      rw [beq_eq_false_iff_ne]
      rintro rfl
      exact absurd hc (by decide +kernel)
    unfold lowerFrom
    rw [ih (fun d hd => h d (by simp [hd])), hsigma]
    exact congrArg (· ++ cs) hc

lemma isLower_lower (s : String) : IsLower (lower s) := by
  intro c hc
  rw [lower, String.toList_ofList] at hc
  exact isLowerChar_of_mem_lowerFrom hc

lemma lower_eq_self {s : String} (h : IsLower s) : lower s = s := by
  rw [lower, lowerFrom_eq_self h, String.ofList_toList]

lemma lowerFrom_eq_map_toLower {cs : List Char} (h : ∀ c ∈ cs, c.toNat < 0x80)
    (before : List Char) : lowerFrom before cs = cs.map Char.toLower := by
  induction cs generalizing before with
  | nil => rfl
  | cons c cs ih =>
    obtain ⟨hc, hcs⟩ := List.forall_mem_cons.1 h
    have hsigma : (c == 'Σ') = false := by
      rw [beq_eq_false_iff_ne]
      rintro rfl
      exact absurd hc (by decide)
    have hchar : lowerChar c = [c.toLower] := if_pos hc
    unfold lowerFrom
    rw [ih hcs, hsigma]
    exact congrArg (· ++ cs.map Char.toLower) hchar

/-- ASCII characters are lowered one by one. -/
lemma lower_eq_map_toLower {s : String} (h : ∀ c ∈ s.toList, c.toNat < 0x80) :
    lower s = String.ofList (s.toList.map Char.toLower) := by
  rw [lower, lowerFrom_eq_map_toLower h]

/-- The lower case of a text is its own lower case. -/
lemma lower_lower (s : String) : lower (lower s) = lower s := lower_eq_self (isLower_lower s)

end SemanticLayer.Text

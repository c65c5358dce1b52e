import Mathlib.Tactic.Common
import SemanticLayer.Text.Blank
import SemanticLayer.Text.Digits

/-!
# Decimal digits

Digits below ten are read as the number they write, and nothing else is read in base ten.
-/

namespace SemanticLayer.Text

lemma digitValue?_of_isDigit {c : Char} (h : c.isDigit) : digitValue? c = some (c.toNat - 48) :=
  if_pos h

lemma toNat_of_isDigit {c : Char} (h : c.isDigit) : 48 ≤ c.toNat ∧ c.toNat ≤ 57 := by
  simp only [Char.isDigit, Bool.and_eq_true, decide_eq_true_eq, ge_iff_le,
    UInt32.le_iff_toNat_le] at h
  exact h

lemma digitsFrom?_of_isDigit {cs : List Char} (h : ∀ c ∈ cs, c.isDigit) (n : ℕ) :
    digitsFrom? 10 n cs = some (Nat.ofDigitChars 10 cs n) := by
  induction cs generalizing n with
  | nil => simp [digitsFrom?]
  | cons c cs ih =>
    obtain ⟨hc, hcs⟩ := List.forall_mem_cons.1 h
    have hlt : c.toNat - 48 < 10 := by
      have := toNat_of_isDigit hc
      omega
    simp only [digitsFrom?, digitValue?_of_isDigit hc, if_pos hlt, ih hcs, Nat.ofDigitChars_cons]
    rfl

lemma digits?_of_isDigit {cs : List Char} (hne : cs ≠ []) (h : ∀ c ∈ cs, c.isDigit) :
    digits? 10 cs = some (Nat.ofDigitChars 10 cs 0) := by
  rw [digits?, if_neg (by simpa using hne), digitsFrom?_of_isDigit h]

/-- The digits behind the first ten are letters. -/
lemma le_of_digitValue? {c : Char} {d : ℕ} (hc : ¬c.isDigit) (h : digitValue? c = some d) :
    10 ≤ d := by
  unfold digitValue? at h
  rw [if_neg hc] at h
  simp only [Bool.and_eq_true, decide_eq_true_eq, Char.le_def, UInt32.le_iff_toNat_le] at h
  split_ifs at h with hlower hupper
  · have hle : 97 ≤ c.toNat := hlower.1
    obtain rfl := Option.some.inj h
    omega
  · have hle : 65 ≤ c.toNat := hupper.1
    obtain rfl := Option.some.inj h
    omega

lemma digitsFrom?_eq_none {cs : List Char} {c : Char} (hmem : c ∈ cs) (hc : ¬c.isDigit) (n : ℕ) :
    digitsFrom? 10 n cs = none := by
  induction cs generalizing n with
  | nil => exact absurd hmem List.not_mem_nil
  | cons b cs ih =>
    unfold digitsFrom?
    cases hb : digitValue? b with
    | none => rfl
    | some d =>
      dsimp only
      obtain rfl | hmem := List.mem_cons.1 hmem
      · rw [if_neg (Nat.not_lt.2 (le_of_digitValue? hc hb))]
      · split_ifs
        · exact ih hmem _
        · rfl

/-- Base ten reads decimal digits and nothing else. -/
lemma digits?_eq_some_iff {cs : List Char} {n : ℕ} : digits? 10 cs = some n ↔
    cs ≠ [] ∧ (∀ c ∈ cs, c.isDigit) ∧ Nat.ofDigitChars 10 cs 0 = n := by
  constructor
  · intro h
    have hne : cs ≠ [] := by
      rintro rfl
      simp [digits?] at h
    have hdigits : ∀ c ∈ cs, c.isDigit := by
      intro c hc
      by_contra hdigit
      rw [digits?, if_neg (by simpa using hne), digitsFrom?_eq_none hc hdigit] at h
      cases h
    rw [digits?_of_isDigit hne hdigits] at h
    exact ⟨hne, hdigits, Option.some.inj h⟩
  · rintro ⟨hne, hdigits, rfl⟩
    exact digits?_of_isDigit hne hdigits

lemma isDigit_of_mem_toDigits {n : ℕ} : ∀ c ∈ Nat.toDigits 10 n, c.isDigit :=
  fun _ => Nat.isDigit_of_mem_toDigits (by decide) (by decide)

lemma isBlank_of_isDigit {c : Char} (h : c.isDigit) : isBlank c = false := by
  have := toNat_of_isDigit h
  simp only [isBlank, Bool.or_eq_false_iff, Bool.and_eq_false_iff, decide_eq_false_iff_not,
    beq_eq_false_iff_ne, ne_eq]
  omega

end SemanticLayer.Text

import Mathlib.Data.List.Infix
import SemanticLayer.Manifest.Parse

/-!
# Phrases in messages

Where a phrase is found in a text that is put together. It does not reach over a character that it
has not, and it is found in the quotation of a text when it is found in the text, as long as none of
its characters is escaped.
-/

namespace SemanticLayer.Text

variable {phrase cs ds : List Char} {c x : Char}

lemma occursIn_iff : occursIn phrase cs ↔ phrase <:+: cs := by
  induction cs with
  | nil => simp [occursIn]
  | cons c cs ih => simp [occursIn, List.infix_cons_iff, ih]

/-! ### Texts put together -/

lemma prefix_append_cons_iff (cs : List Char) (hc : c ∉ phrase) :
    phrase <+: cs ++ c :: ds ↔ phrase <+: cs := by
  induction cs generalizing phrase with
  | nil =>
    cases phrase with
    | nil => simp
    | cons x phrase =>
      have hx : x ≠ c := fun heq => hc (heq ▸ List.mem_cons_self)
      simp [List.cons_prefix_cons, hx]
  | cons d cs ih =>
    cases phrase with
    | nil => simp
    | cons x phrase =>
      rw [List.cons_append, List.cons_prefix_cons, List.cons_prefix_cons,
        ih fun hmem => hc (List.mem_cons_of_mem x hmem)]

/-- A phrase does not reach over a character that it has not. -/
lemma infix_append_cons_iff (hc : c ∉ phrase) :
    phrase <:+: cs ++ c :: ds ↔ phrase <:+: cs ∨ phrase <:+: ds := by
  induction cs with
  | nil =>
    rw [List.nil_append, List.infix_cons_iff, List.infix_nil, ← List.prefix_nil]
    exact or_congr_left (prefix_append_cons_iff [] hc)
  | cons d cs ih =>
    rw [List.cons_append, List.infix_cons_iff, List.infix_cons_iff, ih, or_assoc]
    exact or_congr_left (prefix_append_cons_iff (d :: cs) hc)

/-- A phrase starts behind characters that it does not start with. -/
lemma infix_append_iff_of_notMem (hx : x ∉ cs) :
    x :: phrase <:+: cs ++ ds ↔ x :: phrase <:+: ds := by
  induction cs with
  | nil => rfl
  | cons c cs ih =>
    obtain ⟨hne, hcs⟩ := not_or.1 (List.mem_cons.not.1 hx)
    rw [List.cons_append, List.infix_cons_iff, List.cons_prefix_cons, ih hcs]
    simp [hne]

/-! ### Quotations -/

/-- A character that stands for itself in the quotation of a message. -/
def IsShown (c : Char) : Prop := escapeForMessage c = [c]

instance (c : Char) : Decidable (IsShown c) :=
  inferInstanceAs (Decidable (escapeForMessage c = [c]))

lemma hexDigit_ne {n : Nat} (h : n < 16) : hexDigit n ≠ 'u' := by
  have hall : ∀ n < 16, hexDigit n ≠ 'u' := by decide
  exact hall n h

lemma notMem_hex (n : Nat) : 'u' ∉ hex n := by
  fun_induction hex n with
  | case1 n h => simpa using (hexDigit_ne h).symm
  | case2 n h ih => simpa [ih] using (hexDigit_ne (Nat.mod_lt n (by decide))).symm

/-- An escape starts with a backslash, and no phrase that starts with `un` starts in it. -/
lemma escapeForMessage_of_not_isShown (hc : ¬IsShown c) :
    (escapeForMessage c).head? = some '\\' ∧ ∀ phrase ds : List Char,
      'u' :: 'n' :: phrase <:+: escapeForMessage c ++ ds ↔ 'u' :: 'n' :: phrase <:+: ds := by
  revert hc
  unfold IsShown escapeForMessage
  split
  case h_7 =>
    split_ifs
    · exact fun hc => absurd rfl hc
    · refine fun _ => ⟨rfl, fun phrase ds => ?_⟩
      have hhex : 'u' ∉ hex c.toNat ++ ['\x7d'] := by simp [notMem_hex]
      have hassoc : ['\\', 'u', '\x7b'] ++ hex c.toNat ++ ['\x7d'] ++ ds =
          '\\' :: 'u' :: '\x7b' :: (hex c.toNat ++ ['\x7d'] ++ ds) := by simp
      rw [hassoc]
      simp only [List.infix_cons_iff, List.cons_prefix_cons, infix_append_iff_of_notMem hhex]
      simp
  all_goals exact fun _ => ⟨rfl, fun _ _ => infix_append_iff_of_notMem (by decide)⟩

lemma prefix_flatMap_iff (cs : List Char) (h : ∀ c ∈ phrase, IsShown c) :
    phrase <+: cs.flatMap escapeForMessage ↔ phrase <+: cs := by
  induction cs generalizing phrase with
  | nil => simp
  | cons c cs ih =>
    cases phrase with
    | nil => simp
    | cons x phrase =>
      obtain ⟨hx, hphrase⟩ := List.forall_mem_cons.1 h
      by_cases hc : IsShown c
      · rw [List.flatMap_cons, hc, List.singleton_append, List.cons_prefix_cons,
          List.cons_prefix_cons, ih hphrase]
      · obtain ⟨escape, hescape⟩ :=
          List.head?_eq_some_iff.1 (escapeForMessage_of_not_isShown hc).1
        rw [List.flatMap_cons, hescape, List.cons_append, List.cons_prefix_cons,
          List.cons_prefix_cons]
        refine iff_of_false ?_ ?_
        · rintro ⟨rfl, -⟩
          exact absurd hx (by decide)
        · rintro ⟨rfl, -⟩
          exact hc hx

/-- A phrase that starts with `un` is found in a quotation where it is found in the text. -/
lemma infix_flatMap_iff (h : ∀ c ∈ 'u' :: 'n' :: phrase, IsShown c) :
    'u' :: 'n' :: phrase <:+: cs.flatMap escapeForMessage ↔ 'u' :: 'n' :: phrase <:+: cs := by
  induction cs with
  | nil => rfl
  | cons c cs ih =>
    by_cases hc : IsShown c
    · have hprefix := prefix_flatMap_iff (c :: cs) h
      rw [List.flatMap_cons, hc, List.singleton_append] at hprefix ⊢
      rw [List.infix_cons_iff, List.infix_cons_iff, hprefix, ih]
    · have hne : 'u' ≠ c := by
        rintro rfl
        exact hc (h 'u' List.mem_cons_self)
      rw [List.flatMap_cons, (escapeForMessage_of_not_isShown hc).2, ih, List.infix_cons_iff,
        List.cons_prefix_cons]
      simp [hne]

/-! ### What is said to be unknown -/

/-- The text says of a variant or of a field that it is unknown. -/
def SaysUnknown (cs : List Char) : Prop :=
  "unknown variant".toList <:+: cs ∨ "unknown field".toList <:+: cs

instance (cs : List Char) : Decidable (SaysUnknown cs) :=
  inferInstanceAs (Decidable ("unknown variant".toList <:+: cs ∨ "unknown field".toList <:+: cs))

/-- The text has no `k`, which both phrases have. -/
def IsQuiet (s : String) : Prop := 'k' ∉ s.toList

instance (s : String) : Decidable (IsQuiet s) := inferInstanceAs (Decidable ('k' ∉ s.toList))

lemma IsQuiet.append {s t : String} (hs : IsQuiet s) (ht : IsQuiet t) : IsQuiet (s ++ t) := by
  unfold IsQuiet
  rw [String.toList_append, List.mem_append]
  exact not_or.2 ⟨hs, ht⟩

lemma IsQuiet.not_saysUnknown {s : String} (h : IsQuiet s) : ¬SaysUnknown s.toList := by
  rintro (hphrase | hphrase)
  · exact h (hphrase.subset (by decide))
  · exact h (hphrase.subset (by decide))

/-- Neither phrase reaches over a quote. -/
lemma saysUnknown_append_quote_iff :
    SaysUnknown (cs ++ '"' :: ds) ↔ SaysUnknown cs ∨ SaysUnknown ds := by
  have hvariant : '"' ∉ "unknown variant".toList := by decide
  have hfield : '"' ∉ "unknown field".toList := by decide
  unfold SaysUnknown
  rw [infix_append_cons_iff hvariant, infix_append_cons_iff hfield, or_or_or_comm]

lemma hasPhrase_unknown_iff {message : String} :
    hasPhrase ["unknown variant", "unknown field"] message ↔ SaysUnknown message.toList := by
  simp [hasPhrase, SaysUnknown, occursIn_iff]

/-- A quotation says what the text says. -/
lemma saysUnknown_flatMap_iff : SaysUnknown (cs.flatMap escapeForMessage) ↔ SaysUnknown cs := by
  have hall : ("unknown variant".toList ++ "unknown field".toList).all
      fun c => decide (IsShown c) := by decide
  simp only [List.all_append, Bool.and_eq_true, List.all_eq_true, decide_eq_true_eq] at hall
  exact or_congr (infix_flatMap_iff hall.1) (infix_flatMap_iff hall.2)

end SemanticLayer.Text

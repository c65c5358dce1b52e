import SemanticLayer.Proofs.Text.Digits
import SemanticLayer.Proofs.Text.Words
import SemanticLayer.Window

/-!
# What windows are read from

A window is read from two words, a count and a granularity, and from nothing else. Written out it is
read again, unless its granularity has the empty name: then `s` alone is its plural, and nothing is
left to be read when that is taken away.
-/

namespace SemanticLayer

lemma isKnownGranularity_empty_iff {custom : List String} :
    isKnownGranularity custom "" ↔ "" ∈ custom := by
  have hlower : Text.lower "" = "" := by decide
  have hstandard : Vocabulary.ofName? (α := Granularity) "" = none := by decide
  simp only [isKnownGranularity, hlower, hstandard, Option.isSome_none, Bool.false_or,
    List.any_eq_true, Text.eqIgnoringAsciiCase, beq_iff_eq, String.toList_empty, List.map_nil,
    List.map_eq_nil_iff, String.toList_eq_nil_iff, exists_eq_right]

namespace Window

/-- The window written out. -/
def text (v : Window) : String := toString v.count ++ " " ++ v.granularity

/-! ### Counts -/

/-- The word writes the number, in decimal digits that may have a plus sign in front of them. -/
def WritesCount (word : String) (n : ℕ) : Prop :=
  ∃ digits : List Char, (word.toList = digits ∨ word.toList = '+' :: digits) ∧
    digits ≠ [] ∧ (∀ c ∈ digits, c.isDigit) ∧ Nat.ofDigitChars 10 digits 0 = n ∧
      n < 0x10000000000000000

lemma readCount?_eq_some_iff {word : String} {n : ℕ} :
    readCount? word = some n ↔ WritesCount word n := by
  have hdigits (digits : List Char) :
      (Text.digits? 10 digits).filter (· < 0x10000000000000000) = some n ↔
        digits ≠ [] ∧ (∀ c ∈ digits, c.isDigit) ∧ Nat.ofDigitChars 10 digits 0 = n ∧
          n < 0x10000000000000000 := by
    rw [Option.filter_eq_some_iff, Text.digits?_eq_some_iff, decide_eq_true_iff, and_assoc,
      and_assoc]
  unfold readCount? WritesCount
  simp only [hdigits]
  split
  · rename_i cs hplus
    constructor
    · exact fun h => ⟨cs, .inr hplus, h⟩
    · rintro ⟨digits, rfl | hcons, hne, hall, hvalue⟩
      · exact absurd (hall '+' (hplus ▸ List.mem_cons_self)) (by decide)
      · obtain rfl := (List.cons.inj (hplus.symm.trans hcons)).2
        exact ⟨hne, hall, hvalue⟩
  · rename_i hplus
    constructor
    · exact fun h => ⟨word.toList, .inl rfl, h⟩
    · rintro ⟨digits, rfl | hcons, h⟩
      · exact h
      · exact absurd hcons (hplus digits)

/-- A count of 64 bits is read from its decimal digits. -/
lemma writesCount_toString {n : ℕ} (h : n < 0x10000000000000000) : WritesCount (toString n) n :=
  ⟨Nat.toDigits 10 n, .inl Nat.toList_repr, Nat.toDigits_ne_nil, Text.isDigit_of_mem_toDigits,
    Nat.ofDigitChars_ten_toDigits, h⟩

/-! ### Granularities -/

/-- The known granularity `g` is what the word in lower case says, or, where that is not known, the
word is its plural. -/
def NamesSingular (custom : List String) (lowered g : String) : Prop :=
  isKnownGranularity custom g ∧
    (lowered = g ∨ ¬isKnownGranularity custom lowered ∧ lowered = g ++ "s")

lemma singular_append (s : String) : singular (s ++ "s") = s := by
  simp [singular]

/-- What has no `s` at its end is left as it is. -/
lemma eq_append_or_singular_eq (s : String) : s = singular s ++ "s" ∨ singular s = s := by
  unfold singular
  split
  · rename_i cs hreverse
    left
    rw [← String.toList_inj, String.toList_append, String.toList_ofList]
    exact (List.reverse_eq_iff.1 hreverse).trans (by simp)
  · exact .inr rfl

variable {custom : List String}

lemma readGranularity?_eq_some_iff {word g : String} :
    readGranularity? custom word = some g ↔ NamesSingular custom (Text.lower word) g := by
  unfold readGranularity? NamesSingular
  dsimp only
  split_ifs with hknown hsingular
  · rw [Option.some.injEq]
    constructor
    · rintro rfl
      exact ⟨hknown, .inl rfl⟩
    · rintro ⟨-, heq | ⟨hnot, -⟩⟩
      · exact heq
      · exact absurd hknown hnot
  · rw [Option.some.injEq]
    constructor
    · rintro rfl
      refine ⟨hsingular, .inr ⟨hknown, ?_⟩⟩
      exact (eq_append_or_singular_eq _).resolve_right fun heq => hknown (heq ▸ hsingular)
    · rintro ⟨hg, heq | ⟨-, heq⟩⟩
      · exact absurd (heq ▸ hg) hknown
      · rw [heq, singular_append]
  · refine iff_of_false (by simp) ?_
    rintro ⟨hg, heq | ⟨-, heq⟩⟩
    · exact hknown (heq ▸ hg)
    · rw [heq, singular_append] at hsingular
      exact hsingular hg

/-- The characters of a granularity that is read are characters of the word in lower case. -/
lemma NamesSingular.mem_lower {lowered g : String} (h : NamesSingular custom lowered g) :
    ∀ c ∈ g.toList, c ∈ lowered.toList := by
  intro c hc
  obtain ⟨-, rfl | ⟨-, rfl⟩⟩ := h
  · exact hc
  · simp [hc]

/-- A granularity that is read is read from its own name too. -/
lemma NamesSingular.lower_self {word g : String} (h : NamesSingular custom (Text.lower word) g) :
    NamesSingular custom (Text.lower g) g := by
  have hlower : Text.lower g = g :=
    Text.lower_eq_self fun c hc => Text.isLower_lower word c (h.mem_lower c hc)
  exact ⟨h.1, .inl hlower⟩

/-! ### Windows -/

lemma parse_eq_ok_iff_read {w : String} {v : Window} : parse custom w = .ok v ↔
    ∃ count word, Text.words w = [count, word] ∧ readCount? count = some v.count ∧
      readGranularity? custom word = some v.granularity := by
  unfold parse
  split
  · rename_i count word hwords
    rw [hwords]
    constructor
    · intro h
      split at h
      · cases h
      · rename_i g hg
        split at h
        · cases h
        · rename_i n hn
          obtain rfl := Except.ok.inj h
          exact ⟨count, word, rfl, hn, hg⟩
    · rintro ⟨count', word', heq, hn, hg⟩
      obtain ⟨rfl, rfl⟩ : count = count' ∧ word = word' := by simpa using heq
      simp only [hn, hg]
  · rename_i hwords
    refine iff_of_false (by simp) ?_
    rintro ⟨count, word, heq, -⟩
    exact hwords count word heq

/-- A window is read from a count and a granularity with white space between them. -/
lemma parse_eq_ok_iff_spaced {w : String} {v : Window} : parse custom w = .ok v ↔
    ∃ count word : String, Text.IsSpaced [count.toList, word.toList] w.toList ∧
      WritesCount count v.count ∧ NamesSingular custom (Text.lower word) v.granularity := by
  simp only [parse_eq_ok_iff_read, Text.words_eq_iff, readCount?_eq_some_iff,
    readGranularity?_eq_some_iff]
  rfl

/-- What is written out starts with the count. -/
lemma isSpaced_text {v : Window} {words : List (List Char)}
    (h : Text.IsSpaced words (' ' :: v.granularity.toList)) :
    Text.IsSpaced ((toString v.count).toList :: words) v.text.toList := by
  have hcount : (toString v.count).toList = Nat.toDigits 10 v.count := Nat.toList_repr
  have hsolid : Text.IsSolid (toString v.count).toList := by
    rw [hcount]
    exact ⟨Nat.toDigits_ne_nil, fun c hc =>
      Text.isBlank_of_isDigit (Text.isDigit_of_mem_toDigits c hc)⟩
  have htext : v.text.toList = (toString v.count).toList ++ ' ' :: v.granularity.toList := by
    simp [text]
  rw [htext]
  refine h.solid_append hsolid fun c hc => ?_
  obtain rfl : ' ' = c := Option.some.inj hc
  decide

/-- A window that is read is read again when it is written out, just when its granularity has a
name. -/
lemma parse_text_iff {v : Window} {word : String}
    (hsolid : ∀ c ∈ word.toList, Text.isBlank c = false) (hcount : v.count < 0x10000000000000000)
    (hnames : NamesSingular custom (Text.lower word) v.granularity) :
    parse custom v.text = .ok v ↔ v.granularity ≠ "" := by
  constructor
  · intro hparse hempty
    obtain ⟨count, word, hspaced, -⟩ := parse_eq_ok_iff_spaced.1 hparse
    have hone : Text.IsSpaced [(toString v.count).toList] v.text.toList := by
      refine isSpaced_text (.nil ?_)
      rw [hempty, String.toList_empty]
      exact List.forall_mem_singleton.2 (by decide)
    simpa using hspaced.runs_eq.symm.trans hone.runs_eq
  · intro hne
    refine parse_eq_ok_iff_spaced.2 ⟨toString v.count, v.granularity, isSpaced_text ?_,
      writesCount_toString hcount, hnames.lower_self⟩
    have hgranularity : Text.IsSolid v.granularity.toList := by
      refine ⟨by simpa using hne, fun c hc => ?_⟩
      refine Text.isBlank_of_mem_lowerFrom [] hsolid c ?_
      simpa [Text.lower] using hnames.mem_lower c hc
    have hlast : Text.IsSpaced [] [] := .nil (by simp)
    have hspaced := hlast.solid_append hgranularity (by simp)
    rw [List.append_nil] at hspaced
    exact hspaced.blank_cons (by decide)

/-- A window is read from two words and nothing else: a count of 64 bits, and a granularity that is
known as it stands in lower case or else as a plural. Its granularity is known, and unless that has
the empty name, which a project must declare, the window is read again when it is written out. -/
theorem parse_eq_ok_iff (custom : List String) (w : String) (v : Window) :
    (parse custom w = .ok v ↔
      ∃ count word : String, Text.IsSpaced [count.toList, word.toList] w.toList ∧
        WritesCount count v.count ∧ NamesSingular custom (Text.lower word) v.granularity) ∧
    (parse custom w = .ok v →
      isKnownGranularity custom v.granularity ∧
      (parse custom v.text = .ok v ↔ v.granularity ≠ "") ∧
      (v.granularity = "" → "" ∈ custom)) := by
  refine ⟨parse_eq_ok_iff_spaced, fun hparse => ?_⟩
  obtain ⟨count, word, hspaced, ⟨digits, -, -, -, -, hcount⟩, hnames⟩ :=
    parse_eq_ok_iff_spaced.1 hparse
  refine ⟨hnames.1, parse_text_iff (hspaced.isSolid word.toList (by simp)).solid hcount hnames, ?_⟩
  intro hempty
  rw [← isKnownGranularity_empty_iff, ← hempty]
  exact hnames.1

/-- The plural of a custom granularity in any case, between several kinds of white space. -/
theorem parse_eq_ok_iff_martianWeek :
    parse ["Martian_Week"] " +028\tMARTIAN_WEEKS\n" = .ok ⟨28, "martian_week"⟩ ∧
    parse ["Martian_Week"] "28 martian_week" = .ok ⟨28, "martian_week"⟩ := by
  have hparse : parse ["Martian_Week"] " +028\tMARTIAN_WEEKS\n" = .ok ⟨28, "martian_week"⟩ := by
    decide +kernel
  obtain ⟨-, htext, -⟩ := (parse_eq_ok_iff _ _ _).2 hparse
  exact ⟨hparse, htext.2 (by decide)⟩

/-- The plural of the empty name is `s`, and the window is not read again without it. -/
theorem parse_text_empty :
    parse [""] "5 s" = .ok ⟨5, ""⟩ ∧ (⟨5, ""⟩ : Window).text = "5 " ∧
    parse [""] "5 " = .error .notTwoWords := by
  decide +kernel

end Window

end SemanticLayer

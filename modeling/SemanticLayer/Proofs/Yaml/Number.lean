import SemanticLayer.Number.Layout
import SemanticLayer.Proofs.Number.Shortest
import SemanticLayer.Proofs.Text.Digits
import SemanticLayer.Proofs.Text.Lower
import SemanticLayer.Yaml.Scalar

/-!
# Written numbers are read back

The text of an integer is read as the integer. The text of a binary64 number always has a point or
an exponent, so it is not taken for an integer, and the decimal it writes has the value of the
shortest decimal of the number.
-/

namespace SemanticLayer

namespace Yaml

/-! ### Characters of numbers -/

/-- A character that the text of a number is made of. -/
def isNumberCharacter (c : Char) : Bool :=
  c.isDigit || c == '.' || c == 'e' || c == '+' || c == '-'

lemma isNumberCharacter_of_isDigit {c : Char} (h : c.isDigit) : isNumberCharacter c := by
  simp [isNumberCharacter, h]

lemma splitBase_of_isNumberCharacter {cs : List Char} (h : ∀ c ∈ cs, isNumberCharacter c) :
    splitBase cs = (10, cs) := by
  unfold splitBase
  split
  all_goals first
    | rfl
    | exact absurd (h _ (List.mem_cons_of_mem _ List.mem_cons_self)) (by decide)

lemma filter_of_isNumberCharacter {cs : List Char} (h : ∀ c ∈ cs, isNumberCharacter c) :
    cs.filter (· != '_') = cs := by
  refine List.filter_eq_self.2 fun c hc => ?_
  rw [bne_iff_ne]
  rintro rfl
  exact absurd (h _ hc) (by decide)

/-! ### Signs -/

/-- A minus sign in front of a number below zero. -/
def signed (negative : Bool) (cs : List Char) : List Char := if negative then '-' :: cs else cs

lemma splitSign_signed {negative : Bool} {c : Char} {cs : List Char} (h : c.isDigit) :
    splitSign (signed negative (c :: cs)) = (negative, c :: cs) := by
  cases negative with
  | true => rfl
  | false =>
    unfold splitSign signed
    split
    · simp_all
    · simp_all
    · rfl

/-! ### Integers -/

/-- What is read behind the sign of a number starts with a digit. -/
lemma exists_cons_of_isDigit {cs : List Char} (hne : cs ≠ []) (h : ∀ c ∈ cs, c.isDigit) :
    ∃ d ds, cs = d :: ds ∧ d.isDigit := by
  obtain ⟨d, ds, rfl⟩ := List.exists_cons_of_ne_nil hne
  exact ⟨d, ds, rfl, h d List.mem_cons_self⟩

lemma toList_toString_int (n : ℤ) :
    (toString n).toList = signed (n < 0) (Nat.toDigits 10 n.natAbs) := by
  rw [Int.toString_eq_repr, Int.repr_eq_if]
  by_cases h : 0 ≤ n
  · rw [if_pos h, Nat.toList_repr, show n.toNat = n.natAbs by omega]
    simp [signed, not_lt.2 h]
  · rw [if_neg h, String.toList_append, Nat.toList_repr, show (-n).toNat = n.natAbs by omega]
    simp [signed, not_le.1 h]

/-- An integer of up to 64 bits is read back. -/
theorem integer?_toString {n : ℤ} (hlow : -0x8000000000000000 ≤ n)
    (hhigh : n < 0x10000000000000000) : integer? (toString n).toList = some n := by
  obtain ⟨d, ds, hcons, hd⟩ :=
    exists_cons_of_isDigit Nat.toDigits_ne_nil (Text.isDigit_of_mem_toDigits (n := n.natAbs))
  have hnumber : ∀ c ∈ Nat.toDigits 10 n.natAbs, isNumberCharacter c :=
    fun c hc => isNumberCharacter_of_isDigit (Text.isDigit_of_mem_toDigits c hc)
  have hsign : splitSign (toString n).toList = (decide (n < 0), Nat.toDigits 10 n.natAbs) := by
    rw [toList_toString_int, hcons, splitSign_signed hd]
  have hvalue : (if decide (n < 0) = true then -(n.natAbs : ℤ) else n.natAbs) = n := by
    split_ifs with h <;> simp only [decide_eq_true_eq] at h <;> omega
  simp only [integer?, hsign, splitBase_of_isNumberCharacter hnumber,
    filter_of_isNumberCharacter hnumber,
    Text.digits?_of_isDigit Nat.toDigits_ne_nil Text.isDigit_of_mem_toDigits,
    Nat.ofDigitChars_ten_toDigits, hvalue, hlow, hhigh, and_self, if_true]

/-- What has a character that is no digit is no integer. -/
lemma integer?_eq_none {negative : Bool} {d c : Char} {ds : List Char} (hd : d.isDigit)
    (hnumber : ∀ c ∈ d :: ds, isNumberCharacter c) (hc : c ∈ d :: ds) (hne : ¬c.isDigit) :
    integer? (signed negative (d :: ds)) = none := by
  simp only [integer?, splitSign_signed hd, splitBase_of_isNumberCharacter hnumber,
    filter_of_isNumberCharacter hnumber, Text.digits?]
  rw [if_neg (by simp), Text.digitsFrom?_eq_none hc hne]

/-! ### Decimals -/

lemma takeWhile_isDigit {cs : List Char} (rest : List Char) (h : ∀ c ∈ cs, c.isDigit)
    (hrest : rest.head?.all fun c => !c.isDigit) :
    (cs ++ rest).takeWhile Char.isDigit = cs ∧ (cs ++ rest).dropWhile Char.isDigit = rest := by
  rw [List.takeWhile_append_of_pos h, List.dropWhile_append_of_pos h]
  cases rest with
  | nil => simp
  | cons c rest =>
    simp only [List.head?_cons, Option.all_some, Bool.not_eq_true'] at hrest
    simp [hrest]

/-- Digits with a point among them, and what follows them. -/
lemma decimal?_point {whole fraction rest : List Char} {e : ℤ} (hne : whole ≠ [])
    (hwhole : ∀ c ∈ whole, c.isDigit) (hfraction : ∀ c ∈ fraction, c.isDigit)
    (hrest : rest.head?.all fun c => !c.isDigit) (he : exponent? rest = some e) :
    decimal? (whole ++ '.' :: (fraction ++ rest)) =
      some (Nat.ofDigitChars 10 (whole ++ fraction) 0, e - fraction.length) := by
  obtain ⟨htake, hdrop⟩ :=
    takeWhile_isDigit ('.' :: (fraction ++ rest)) hwhole (by simp)
  obtain ⟨htake', hdrop'⟩ := takeWhile_isDigit rest hfraction hrest
  have hdigits : ∀ c ∈ whole ++ fraction, c.isDigit :=
    List.forall_mem_append.2 ⟨hwhole, hfraction⟩
  simp only [decimal?, htake, hdrop, htake', hdrop', he,
    Text.digits?_of_isDigit (List.append_ne_nil_of_left_ne_nil hne _) hdigits]

/-- Digits without a point, and the exponent that follows them. -/
lemma decimal?_exponent {whole rest : List Char} {e : ℤ} (hne : whole ≠ [])
    (hwhole : ∀ c ∈ whole, c.isDigit) (he : exponent? ('e' :: rest) = some e) :
    decimal? (whole ++ 'e' :: rest) = some (Nat.ofDigitChars 10 whole 0, e) := by
  obtain ⟨htake, hdrop⟩ := takeWhile_isDigit ('e' :: rest) hwhole (by simp)
  simp [decimal?, htake, hdrop, he, Text.digits?_of_isDigit hne hwhole]

/-- The exponent of a number's text. -/
def exponentText (power : ℤ) : List Char :=
  'e' :: (if power < 0 then '-' else '+') :: Nat.toDigits 10 power.natAbs

lemma exponent?_exponentText (power : ℤ) : exponent? (exponentText power) = some power := by
  have hdigits : Text.digits? 10 (Nat.toDigits 10 power.natAbs) = some power.natAbs := by
    rw [Text.digits?_of_isDigit Nat.toDigits_ne_nil Text.isDigit_of_mem_toDigits,
      Nat.ofDigitChars_ten_toDigits]
  unfold exponentText
  split_ifs with h
  · simp [exponent?, splitSign, hdigits, abs_of_neg h]
  · simp [exponent?, splitSign, hdigits, abs_of_nonneg (not_lt.1 h)]

/-! ### Layouts of a number -/

/-- Characters that are read as a decimal of the given value, and not as an integer. -/
structure Writes (cs : List Char) (v : ℚ) : Prop where
  digit   : ∃ d ds, cs = d :: ds ∧ d.isDigit
  number  : ∀ c ∈ cs, isNumberCharacter c
  real    : ∃ c ∈ cs, ¬c.isDigit
  decimal : ∃ (digits : ℕ) (exponent : ℤ),
    decimal? cs = some (digits, exponent) ∧ (digits : ℚ) * 10 ^ exponent = v

/-- Digits with a point among them write the integer of all the digits, with its point moved. -/
lemma writes_of_point {whole fraction rest : List Char} {e : ℤ} (hne : whole ≠ [])
    (hwhole : ∀ c ∈ whole, c.isDigit) (hfraction : ∀ c ∈ fraction, c.isDigit)
    (hrest : rest.head?.all fun c => !c.isDigit) (he : exponent? rest = some e)
    (hnumber : ∀ c ∈ rest, isNumberCharacter c) :
    Writes (whole ++ '.' :: (fraction ++ rest))
      (Nat.ofDigitChars 10 (whole ++ fraction) 0 * 10 ^ (e - fraction.length)) where
  digit := by
    obtain ⟨d, ds, rfl, hd⟩ := exists_cons_of_isDigit hne hwhole
    exact ⟨d, _, rfl, hd⟩
  number := by
    intro c hc
    simp only [List.mem_append, List.mem_cons] at hc
    obtain hc | rfl | hc | hc := hc
    · exact isNumberCharacter_of_isDigit (hwhole c hc)
    · decide
    · exact isNumberCharacter_of_isDigit (hfraction c hc)
    · exact hnumber c hc
  real := ⟨'.', by simp, by decide⟩
  decimal := ⟨_, _, decimal?_point hne hwhole hfraction hrest he, rfl⟩

lemma isNumberCharacter_of_mem_exponentText {power : ℤ} :
    ∀ c ∈ exponentText power, isNumberCharacter c := by
  intro c hc
  simp only [exponentText, List.mem_cons] at hc
  obtain rfl | rfl | hc := hc
  · decide
  · split_ifs <;> decide
  · exact isNumberCharacter_of_isDigit (Text.isDigit_of_mem_toDigits c hc)

lemma writes_of_exponent {whole : List Char} (power : ℤ) (hne : whole ≠ [])
    (hwhole : ∀ c ∈ whole, c.isDigit) :
    Writes (whole ++ exponentText power) (Nat.ofDigitChars 10 whole 0 * 10 ^ power) where
  digit := by
    obtain ⟨d, ds, rfl, hd⟩ := exists_cons_of_isDigit hne hwhole
    exact ⟨d, _, rfl, hd⟩
  number := List.forall_mem_append.2
    ⟨fun c hc => isNumberCharacter_of_isDigit (hwhole c hc), isNumberCharacter_of_mem_exponentText⟩
  real := ⟨'e', by simp [exponentText], by decide⟩
  decimal := ⟨_, _, decimal?_exponent hne hwhole (exponent?_exponentText power), rfl⟩

variable {x : Binary64}

lemma toList_signText_append (s : String) :
    (x.signText ++ s).toList = signed x.negative s.toList := by
  unfold Binary64.signText signed
  split_ifs <;> simp

/-- The digits of the shortest decimal. -/
abbrev digitsOf (x : Binary64) : List Char := Nat.toDigits 10 x.shortest.digits

lemma digitsAndPoint_shortest :
    Binary64.digitsAndPoint x.shortest =
      (digitsOf x, (digitsOf x).length + x.shortest.exponent) := by
  simp [Binary64.digitsAndPoint]

/-- The digits behind the first one, with the point in front of them. -/
def fractionText : List Char → List Char
  | []      => []
  | d :: ds => '.' :: d :: ds

lemma toList_scientific {d : Char} {ds : List Char} (hcons : digitsOf x = d :: ds) :
    x.scientific.toList = signed x.negative
      (d :: (fractionText ds ++ exponentText (ds.length + x.shortest.exponent))) := by
  have hpower : ((d :: ds).length : ℤ) + x.shortest.exponent - 1 =
      ds.length + x.shortest.exponent := by
    simp only [List.length_cons, Nat.cast_add, Nat.cast_one]
    ring
  simp only [Binary64.scientific, digitsAndPoint_shortest, hcons, hpower, String.append_assoc,
    toList_signText_append]
  cases ds <;> simp [fractionText, exponentText] <;> split_ifs <;> simp

lemma exists_writes_scientific :
    ∃ cs, x.scientific.toList = signed x.negative cs ∧ Writes cs x.shortest.value := by
  obtain ⟨d, ds, hcons, hd⟩ :=
    exists_cons_of_isDigit Nat.toDigits_ne_nil
      (Text.isDigit_of_mem_toDigits (n := x.shortest.digits))
  have hdigits : ∀ c ∈ d :: ds, c.isDigit := hcons ▸ Text.isDigit_of_mem_toDigits
  have hnumber : Nat.ofDigitChars 10 (d :: ds) 0 = x.shortest.digits := by
    rw [← hcons, Nat.ofDigitChars_ten_toDigits]
  refine ⟨_, toList_scientific hcons, ?_⟩
  cases ds with
  | nil =>
    have hwrites := writes_of_exponent x.shortest.exponent (by simp) hdigits
    rw [hnumber] at hwrites
    simpa [fractionText, Binary64.Decimal.value] using hwrites
  | cons d' ds =>
    have hwhole : ∀ c ∈ [d], c.isDigit := List.forall_mem_singleton.2 hd
    have hwrites := writes_of_point (by simp) hwhole (List.forall_mem_cons.1 hdigits).2
      (by simp [exponentText]) (exponent?_exponentText ((d' :: ds).length + x.shortest.exponent))
      isNumberCharacter_of_mem_exponentText
    rw [show [d] ++ d' :: ds = d :: d' :: ds from rfl, hnumber, add_sub_cancel_left] at hwrites
    exact hwrites

lemma isDigit_of_mem_zeros {n : ℕ} : ∀ c ∈ List.replicate n '0', c.isDigit := by
  intro c hc
  rw [List.eq_of_mem_replicate hc]
  decide

/-- Digits with a point among them, and nothing behind them, write any decimal with those digits
that has its point at the same place. -/
lemma writes_of_digits {whole fraction : List Char} {v : ℚ} (hne : whole ≠ [])
    (hdigits : ∀ c ∈ whole ++ fraction, c.isDigit)
    (hv : (Nat.ofDigitChars 10 (whole ++ fraction) 0 : ℚ) * 10 ^ (-fraction.length : ℤ) = v) :
    Writes (whole ++ '.' :: fraction) v := by
  obtain ⟨hwhole, hfraction⟩ := List.forall_mem_append.1 hdigits
  have hwrites := writes_of_point hne hwhole hfraction (by simp)
    (show exponent? [] = some 0 from rfl) (by simp)
  rw [List.append_nil, zero_sub] at hwrites
  rwa [← hv]

section Positional

variable {ds : List Char} (hds : ∀ d ∈ ds, d.isDigit)

include hds

/-- All digits behind the point, with zeros in front of them. -/
lemma writes_zeros_digits (n : ℕ) {e : ℤ} (he : -e = n + ds.length) :
    Writes (['0'] ++ '.' :: (List.replicate n '0' ++ ds))
      (Nat.ofDigitChars 10 ds 0 * 10 ^ e) := by
  have hzeros : ['0'] ++ (List.replicate n '0' ++ ds) = List.replicate (1 + n) '0' ++ ds := by
    rw [List.replicate_add, List.append_assoc, List.replicate_one]
  refine writes_of_digits (by simp) ?_ ?_
  · rw [hzeros]
    exact List.forall_mem_append.2 ⟨isDigit_of_mem_zeros, hds⟩
  · have hscale : -((List.replicate n '0' ++ ds).length : ℤ) = e := by
      rw [List.length_append, List.length_replicate]
      omega
    rw [hscale, hzeros, Nat.ofDigitChars_append, Nat.ofDigitChars_replicate_zero, mul_zero]

/-- The point behind the first `k` digits. -/
lemma writes_take_drop {k : ℕ} (hk : ds.take k ≠ []) {e : ℤ} (he : -e = (ds.length - k : ℕ)) :
    Writes (ds.take k ++ '.' :: ds.drop k) (Nat.ofDigitChars 10 ds 0 * 10 ^ e) := by
  refine writes_of_digits hk ?_ ?_
  · rwa [List.take_append_drop]
  · have hscale : -((ds.drop k).length : ℤ) = e := by
      rw [List.length_drop]
      omega
    rw [List.take_append_drop, hscale]

/-- All digits in front of the point, with zeros behind them. -/
lemma writes_digits_zeros (hne : ds ≠ []) (n : ℕ) :
    Writes (ds ++ List.replicate n '0' ++ '.' :: ['0'])
      (Nat.ofDigitChars 10 ds 0 * 10 ^ (n : ℤ)) := by
  have hzeros : ds ++ List.replicate n '0' ++ ['0'] = ds ++ List.replicate (n + 1) '0' := by
    rw [List.replicate_add, List.append_assoc, List.replicate_one]
  refine writes_of_digits (by simp [hne]) ?_ ?_
  · rw [hzeros]
    exact List.forall_mem_append.2 ⟨hds, isDigit_of_mem_zeros⟩
  · rw [hzeros, Nat.ofDigitChars_append, Nat.ofDigitChars_replicate_zero]
    push_cast
    rw [List.length_singleton, pow_succ, Nat.cast_one, zpow_neg_one, zpow_natCast]
    field_simp

end Positional

lemma exists_writes_positional :
    ∃ cs, (x.positional ".0").toList = signed x.negative cs ∧ Writes cs x.shortest.value := by
  have hdigits : ∀ c ∈ digitsOf x, c.isDigit := Text.isDigit_of_mem_toDigits
  have hne : digitsOf x ≠ [] := Nat.toDigits_ne_nil
  have hlength := List.length_pos_iff.2 hne
  have hvalue : x.shortest.value =
      Nat.ofDigitChars 10 (digitsOf x) 0 * 10 ^ x.shortest.exponent := by
    rw [Nat.ofDigitChars_ten_toDigits]
    rfl
  set point : ℤ := (digitsOf x).length + x.shortest.exponent with hpoint
  simp only [Binary64.positional, digitsAndPoint_shortest, ← hpoint, String.append_assoc, hvalue]
  split_ifs with hsmall hzero hamong
  · have hexponent : x.shortest.exponent = 0 := by rw [Binary64.shortest, if_pos hzero]
    omega
  · refine ⟨_, ?_, writes_zeros_digits hdigits (-point).toNat (by omega)⟩
    rw [toList_signText_append]
    simp [Binary64.zeros]
  · have htake : (digitsOf x).take point.toNat ≠ [] := by
      rw [ne_eq, List.take_eq_nil_iff, not_or]
      exact ⟨by omega, hne⟩
    refine ⟨_, ?_, writes_take_drop hdigits htake (by omega)⟩
    rw [toList_signText_append]
    simp
  · obtain ⟨k, hk⟩ := Int.eq_ofNat_of_zero_le (show 0 ≤ x.shortest.exponent by omega)
    have hzeros : point.toNat - (digitsOf x).length = k := by omega
    rw [hk, hzeros]
    refine ⟨_, ?_, writes_digits_zeros hdigits hne k⟩
    rw [toList_signText_append]
    simp [Binary64.zeros]

/-- The text of a number writes its shortest decimal. -/
lemma exists_writes (x : Binary64) :
    ∃ cs, x.toDocumentText.toList = signed x.negative cs ∧ Writes cs x.shortest.value := by
  unfold Binary64.toDocumentText
  rw [digitsAndPoint_shortest]
  dsimp only
  split_ifs
  · exact exists_writes_positional
  · exact exists_writes_scientific

/-! ### Reading a number -/

/-- The words that a plain scalar is compared with. -/
def scalarWords : List String := nullWords ++ trueWords ++ falseWords ++ nonFiniteWords

lemma isNumberCharacter_of_mem_signed {negative : Bool} {cs : List Char}
    (h : ∀ c ∈ cs, isNumberCharacter c) : ∀ c ∈ signed negative cs, isNumberCharacter c := by
  unfold signed
  split_ifs
  · exact List.forall_mem_cons.2 ⟨by decide, h⟩
  · exact h

/-- No word starts like a number. -/
lemma scalarWords_heads :
    scalarWords.all fun w =>
      (w.toList.map Char.toLower).head?.all fun c => !c.isDigit && c != '-' := by
  decide +kernel

lemma toLower_of_isDigit {c : Char} (h : c.isDigit) : c.toLower = c := by
  have := Text.toNat_of_isDigit h
  exact Text.toLower_eq_self (by omega)

lemma isWordOf_signed {words : List String} (hwords : words ⊆ scalarWords) (negative : Bool)
    {d : Char} (ds : List Char) (hd : d.isDigit) :
    isWordOf words (String.ofList (signed negative (d :: ds))) = false := by
  rw [isWordOf, List.any_eq_false]
  intro w hw hsame
  have hword := List.all_eq_true.1 scalarWords_heads w (hwords hw)
  rw [Text.eqIgnoringAsciiCase, beq_iff_eq, String.toList_ofList] at hsame
  rw [← hsame] at hword
  cases negative with
  | true  => simp [signed] at hword
  | false => simp [signed, toLower_of_isDigit hd, hd] at hword

lemma isBlank_of_isNumberCharacter {c : Char} (h : isNumberCharacter c) :
    Text.isBlank c = false := by
  simp only [isNumberCharacter, Bool.or_eq_true, beq_iff_eq] at h
  obtain (((h | rfl) | rfl) | rfl) | rfl := h
  · exact Text.isBlank_of_isDigit h
  all_goals decide

lemma trim_of_isNumberCharacter {cs : List Char} (h : ∀ c ∈ cs, isNumberCharacter c) :
    Text.trim (String.ofList cs) = String.ofList cs := by
  have hkeep {ds : List Char} (hds : ∀ c ∈ ds, isNumberCharacter c) :
      ds.dropWhile Text.isBlank = ds := by
    cases ds with
    | nil => rfl
    | cons d ds =>
      rw [List.dropWhile_cons_of_neg]
      simp [isBlank_of_isNumberCharacter (hds d List.mem_cons_self)]
  rw [Text.trim, String.toList_ofList, Text.trimStart, hkeep h, Text.trimEnd,
    hkeep (fun c hc => h c (List.mem_reverse.1 hc)), List.reverse_reverse]

/-- A plain scalar that is made of a sign and number characters is read as a number. -/
lemma plainValue_signed {negative : Bool} {d : Char} {ds : List Char} (hd : d.isDigit)
    (h : ∀ c ∈ d :: ds, isNumberCharacter c) :
    plainValue (String.ofList (signed negative (d :: ds))) =
      match integer? (signed negative (d :: ds)) with
      | some n => .int n
      | none   =>
        (real? (signed negative (d :: ds))).getD
          (.string (String.ofList (signed negative (d :: ds)))) := by
  have hword (words : List String) (hwords : words ⊆ scalarWords) :
      isWordOf words (String.ofList (signed negative (d :: ds))) = false :=
    isWordOf_signed hwords negative ds hd
  simp only [plainValue, trim_of_isNumberCharacter (isNumberCharacter_of_mem_signed h),
    String.toList_ofList]
  rw [hword nullWords (by decide), hword trueWords (by decide), hword falseWords (by decide)]
  rfl

/-- An integer of up to 64 bits is read back. -/
theorem plainValue_toString {n : ℤ} (hlow : -0x8000000000000000 ≤ n)
    (hhigh : n < 0x10000000000000000) : plainValue (toString n) = .int n := by
  obtain ⟨d, ds, hcons, hd⟩ :=
    exists_cons_of_isDigit Nat.toDigits_ne_nil (Text.isDigit_of_mem_toDigits (n := n.natAbs))
  have hnumber : ∀ c ∈ d :: ds, isNumberCharacter c :=
    fun c hc => isNumberCharacter_of_isDigit (Text.isDigit_of_mem_toDigits c (hcons ▸ hc))
  have hread := integer?_toString hlow hhigh
  rw [toList_toString_int, hcons] at hread
  rw [← String.ofList_toList (s := toString n), toList_toString_int, hcons,
    plainValue_signed hd hnumber, hread]

lemma real?_signed {negative : Bool} {d : Char} {ds : List Char} (hd : d.isDigit) :
    real? (signed negative (d :: ds)) =
      (decimal? (d :: ds)).map fun (digits, exponent) =>
        match Binary64.ofDecimal? negative digits exponent with
        | some x => .float x
        | none   => .null := by
  have hword : isWordOf nonFiniteWords (String.ofList (d :: ds)) = false :=
    isWordOf_signed (by decide) false ds hd
  simp only [real?, splitSign_signed hd, hword]
  rfl

lemma eq_zero_of_mantissa_eq_zero (h : x.mantissa = 0) : x = .zero x.negative := by
  obtain ⟨negative, mantissa, exponent, canonical⟩ := x
  obtain rfl : mantissa = 0 := h
  obtain rfl : exponent = -1074 := canonical.2.2.2.resolve_left (by decide)
  rfl

/-- A decimal of the value of the shortest one is read as the number. -/
lemma ofDecimal?_of_value {digits : ℕ} {exponent : ℤ}
    (h : (digits : ℚ) * 10 ^ exponent = x.shortest.value) :
    Binary64.ofDecimal? x.negative digits exponent = some x := by
  obtain hm | hm := Nat.eq_zero_or_pos x.mantissa
  · have hshortest : x.shortest = ⟨0, 0⟩ := by rw [Binary64.shortest, if_pos hm]
    have hdigits : digits = 0 := by
      have hpow : (10 : ℚ) ^ exponent ≠ 0 := by positivity
      rw [hshortest] at h
      simpa [Binary64.Decimal.value, hpow] using h
    rw [hdigits, Binary64.ofDecimal?, if_pos rfl, ← eq_zero_of_mantissa_eq_zero hm]
  · exact Binary64.ofDecimal?_of_contains hm (h ▸ Binary64.contains_shortest hm)

/-- A binary64 number is read back. -/
theorem plainValue_toDocumentText (x : Binary64) : plainValue x.toDocumentText = .float x := by
  obtain ⟨cs, htext, ⟨d, ds, rfl, hd⟩, hnumber, ⟨c, hc, hreal⟩, hdecimal⟩ := exists_writes x
  obtain ⟨digits, exponent, hdecimal, hvalue⟩ := hdecimal
  rw [← String.ofList_toList (s := x.toDocumentText), htext, plainValue_signed hd hnumber,
    integer?_eq_none hd hnumber hc hreal, real?_signed hd, hdecimal, Option.map_some]
  simp only [ofDecimal?_of_value hvalue, Option.getD_some]

end Yaml

end SemanticLayer

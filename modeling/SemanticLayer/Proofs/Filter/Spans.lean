import SemanticLayer.Filter.Span
import SemanticLayer.Proofs.Filter.Marked

/-!
# Places of markers are places of characters

Every byte of a character that is not ASCII lies above the ASCII bytes, so a scanner over bytes that
looks for ASCII characters never stops within a longer one, not even behind a backslash that hides
only its first byte. The scanner over bytes finds the markers that the scanner over characters
finds, and it cuts the template where characters end.
-/

namespace SemanticLayer.Filter

/-! ### Bytes of characters -/

section Bytes

variable {c a : Char} {before cs : List Char} {b : UInt8}

/-- The byte of an ASCII character is the character, and no other byte is one. -/
lemma utf8EncodeChar_cases (c : Char) :
    (c.toNat < 0x80 ∧ String.utf8EncodeChar c = [c.toUInt8]) ∨
      (0x80 ≤ c.toNat ∧ ∀ b ∈ String.utf8EncodeChar c, 0x80 ≤ b.toNat) := by
  by_cases hc : c.toNat < 0x80
  · refine .inl ⟨hc, String.utf8EncodeChar_eq_singleton (Char.utf8Size_eq_one_iff.2 ?_)⟩
    exact UInt32.le_iff_toNat_le.2 (Nat.le_of_lt_succ hc)
  · refine .inr ⟨by omega, fun b hb => ?_⟩
    have hone : ¬c.val.toNat ≤ 127 := fun h => hc (Nat.lt_succ_of_le h)
    unfold String.utf8EncodeChar at hb
    simp only [hone, if_false] at hb
    split_ifs at hb
    all_goals
      simp only [List.mem_cons, List.not_mem_nil, or_false] at hb
      rcases hb with rfl | rfl | rfl | rfl
      all_goals
        rw [UInt8.toNat_ofNat']
        omega

/-- The first byte of a character. -/
def leadByte (c : Char) : UInt8 := (String.utf8EncodeChar c).head String.utf8EncodeChar_ne_nil

/-- The bytes of a character behind its first one. -/
def tailBytes (c : Char) : List UInt8 := (String.utf8EncodeChar c).tail

lemma utf8EncodeChar_eq (c : Char) : String.utf8EncodeChar c = leadByte c :: tailBytes c :=
  (List.cons_head_tail _).symm

lemma le_of_mem_tailBytes (h : b ∈ tailBytes c) : 0x80 ≤ b.toNat := by
  obtain ⟨-, hc⟩ | ⟨-, hc⟩ := utf8EncodeChar_cases c
  · simp [tailBytes, hc] at h
  · exact hc b (List.mem_of_mem_tail h)

lemma leadByte_eq_iff (ha : a.toNat < 0x80) : leadByte c = a.toUInt8 ↔ c = a := by
  have hascii {d : Char} (hd : d.toNat < 0x80) : d.toUInt8.toNat = d.toNat := by
    change d.val.toNat % 256 = d.val.toNat
    exact Nat.mod_eq_of_lt (Nat.lt_trans hd (by decide))
  obtain ⟨hc, heq⟩ | ⟨hc, hle⟩ := utf8EncodeChar_cases c
  · have hlead : leadByte c = c.toUInt8 := by simp [leadByte, heq]
    rw [hlead, ← UInt8.toNat_inj, hascii hc, hascii ha]
    exact Char.toNat_inj
  · have hlead := hle (leadByte c) (List.head_mem _)
    refine iff_of_false (fun h => ?_) (fun h => ?_)
    · rw [h, hascii ha] at hlead
      omega
    · rw [h] at hc
      omega

lemma toList_utf8Encode (cs : List Char) :
    cs.utf8Encode.data.toList = cs.flatMap String.utf8EncodeChar := by
  rw [List.utf8Encode, List.data_toByteArray]

lemma length_flatMap_utf8EncodeChar (cs : List Char) :
    (cs.flatMap String.utf8EncodeChar).length = byteLength cs := by
  induction cs with
  | nil => rfl
  | cons c cs ih => simp [byteLength, ih]

lemma size_utf8Encode (cs : List Char) : cs.utf8Encode.size = byteLength cs := by
  rw [List.utf8Encode, List.size_toByteArray, length_flatMap_utf8EncodeChar]

/-- Behind some characters stand the bytes of the next one. -/
lemma getElem?_utf8Encode (before : List Char) (c : Char) (cs : List Char) {k : ℕ}
    (hk : k < c.utf8Size) :
    (before ++ c :: cs).utf8Encode[byteLength before + k]? = (String.utf8EncodeChar c)[k]? := by
  have hget (i : ℕ) : (before ++ c :: cs).utf8Encode[i]? =
      ((before ++ c :: cs).flatMap String.utf8EncodeChar)[i]? := by
    rw [← toList_utf8Encode, Array.getElem?_toList]
    rfl
  rw [hget, List.flatMap_append, List.flatMap_cons, ← length_flatMap_utf8EncodeChar,
    List.getElem?_append_right (Nat.le_add_right _ _), Nat.add_sub_cancel_left,
    List.getElem?_append_left (by simpa using hk)]

lemma getElem?_leadByte (before : List Char) (c : Char) (cs : List Char) :
    (before ++ c :: cs).utf8Encode[byteLength before]? = some (leadByte c) := by
  have h := getElem?_utf8Encode before c cs c.utf8Size_pos
  rw [utf8EncodeChar_eq] at h
  exact h

/-- An ASCII byte behind some characters is the next character. -/
lemma getElem?_eq_toUInt8_iff (before cs : List Char) (ha : a.toNat < 0x80) :
    (before ++ cs).utf8Encode[byteLength before]? = some a.toUInt8 ↔ cs.head? = some a := by
  cases cs with
  | nil =>
    rw [List.append_nil, getElem?_neg _ _ (by simp [size_utf8Encode])]
    simp
  | cons c cs =>
    rw [getElem?_leadByte, Option.some_inj, leadByte_eq_iff ha, List.head?_cons, Option.some_inj]

/-- No byte of a character behind its first one is ASCII. -/
lemma exists_tailByte {i : ℕ} (hlow : byteLength before < i)
    (hhigh : i < byteLength (before ++ [c])) :
    ∃ b, (before ++ c :: cs).utf8Encode[i]? = some b ∧ 0x80 ≤ b.toNat := by
  obtain ⟨k, rfl⟩ := Nat.exists_eq_add_of_lt hlow
  have hk : k + 1 < c.utf8Size := by
    simp only [byteLength_append, byteLength] at hhigh
    omega
  have hlength : (String.utf8EncodeChar c).length = (tailBytes c).length + 1 := by
    rw [utf8EncodeChar_eq, List.length_cons]
  rw [String.length_utf8EncodeChar] at hlength
  have hget := getElem?_utf8Encode before c cs hk
  rw [utf8EncodeChar_eq, List.getElem?_cons_succ, List.getElem?_eq_getElem (by omega)] at hget
  exact ⟨_, hget, le_of_mem_tailBytes (List.getElem_mem _)⟩

end Bytes

/-! ### The end of a marker -/

section Closing

variable {bytes : ByteArray} {quote : Option UInt8} {q b : UInt8} {i j : ℕ}

lemma closingPlace?_end (h : bytes.size ≤ j) : closingPlace? bytes quote j = none := by
  rw [closingPlace?, dif_neg (Nat.not_lt.2 h)]

lemma closingPlace?_inside (h : bytes[j]? = some b) : closingPlace? bytes (some q) j =
    if b = '\\'.toUInt8 then closingPlace? bytes (some q) (j + 2)
    else closingPlace? bytes (if b = q then none else some q) (j + 1) := by
  obtain ⟨hj, rfl⟩ := getElem?_eq_some_iff.1 h
  rw [closingPlace?, dif_pos hj]
  simp only [beq_iff_eq]

lemma closingPlace?_outside (h : bytes[j]? = some b) : closingPlace? bytes none j =
    if b = '\''.toUInt8 ∨ b = '"'.toUInt8 then closingPlace? bytes (some b) (j + 1)
    else if b = '}'.toUInt8 ∧ bytes[j + 1]? = some '}'.toUInt8 then some j
    else closingPlace? bytes none (j + 1) := by
  obtain ⟨hj, rfl⟩ := getElem?_eq_some_iff.1 h
  rw [closingPlace?, dif_pos hj]
  simp only [Bool.or_eq_true, Bool.and_eq_true, beq_iff_eq]

/-- What each step keeps is the same at both ends of a run. -/
lemma eq_of_forall_succ {α : Type} {f : ℕ → α} (hij : i ≤ j)
    (h : ∀ k, i ≤ k → k < j → f k = f (k + 1)) : f i = f j := by
  induction hij using Nat.decreasingInduction with
  | self => rfl
  | of_succ i hij ih => rw [h i le_rfl hij, ih fun k hk => h k (Nat.le_of_succ_le hk)]

/-- The scanner passes bytes that are not ASCII. -/
lemma closingPlace?_skip (hquote : ∀ q ∈ quote, q.toNat < 0x80) (hij : i ≤ j)
    (h : ∀ k, i ≤ k → k < j → ∃ b, bytes[k]? = some b ∧ 0x80 ≤ b.toNat) :
    closingPlace? bytes quote i = closingPlace? bytes quote j := by
  refine eq_of_forall_succ hij fun k hlow hhigh => ?_
  obtain ⟨b, hb, hle⟩ := h k hlow hhigh
  have hne {a : UInt8} (ha : a.toNat < 0x80) : b ≠ a := by
    rintro rfl
    omega
  cases quote with
  | none =>
    rw [closingPlace?_outside hb, if_neg (not_or.2 ⟨hne (by decide), hne (by decide)⟩),
      if_neg fun h => hne (by decide) h.1]
  | some q =>
    rw [closingPlace?_inside hb, if_neg (hne (by decide)), if_neg (hne (hquote q rfl))]

variable {c q : Char} {before cs : List Char}

lemma toNat_of_isQuote (h : isQuote c) : c.toNat < 0x80 := by
  simp only [isQuote, Bool.or_eq_true, beq_iff_eq] at h
  obtain rfl | rfl := h <;> decide

lemma toNat_toUInt8_of_isQuote (h : isQuote c) : c.toUInt8.toNat < 0x80 := by
  simp only [isQuote, Bool.or_eq_true, beq_iff_eq] at h
  obtain rfl | rfl := h <;> decide

lemma byteLength_concat (before : List Char) (c : Char) :
    byteLength (before ++ [c]) = byteLength before + c.utf8Size := by
  rw [byteLength_append]
  rfl

/-- Behind the first byte of a character the scanner goes on to the next character. -/
lemma closingPlace?_tailBytes (before : List Char) (c : Char) (cs : List Char)
    (hquote : ∀ q ∈ quote, q.toNat < 0x80) :
    closingPlace? (before ++ c :: cs).utf8Encode quote (byteLength before + 1) =
      closingPlace? (before ++ c :: cs).utf8Encode quote (byteLength (before ++ [c])) := by
  have := c.utf8Size_pos
  refine closingPlace?_skip hquote (by rw [byteLength_concat]; omega) fun k hlow hhigh => ?_
  exact exists_tailByte (Nat.lt_of_succ_le hlow) hhigh

lemma leadByte_isQuote_iff :
    leadByte c = '\''.toUInt8 ∨ leadByte c = '"'.toUInt8 ↔ isQuote c := by
  rw [leadByte_eq_iff (by decide), leadByte_eq_iff (by decide)]
  simp [isQuote]

/-- Outside quotes the scanner goes on by characters, unless the marker closes. -/
lemma closingPlace?_none_utf8Encode (h : c = '}' → cs.head? ≠ some '}') :
    closingPlace? (before ++ c :: cs).utf8Encode none (byteLength before) =
      closingPlace? (before ++ c :: cs).utf8Encode
        ((if isQuote c then some c else none).map Char.toUInt8) (byteLength (before ++ [c])) := by
  rw [closingPlace?_outside (getElem?_leadByte before c cs)]
  by_cases hquote : isQuote c
  · have hlead : leadByte c = c.toUInt8 := (leadByte_eq_iff (toNat_of_isQuote hquote)).2 rfl
    rw [if_pos (leadByte_isQuote_iff.2 hquote), if_pos hquote, hlead, closingPlace?_tailBytes]
    · rfl
    · simpa using toNat_toUInt8_of_isQuote hquote
  · have hopen : ¬(leadByte c = '}'.toUInt8 ∧
        (before ++ c :: cs).utf8Encode[byteLength before + 1]? = some '}'.toUInt8) := by
      rintro ⟨hc, hnext⟩
      obtain rfl := (leadByte_eq_iff (by decide)).1 hc
      refine h rfl ((getElem?_eq_toUInt8_iff (before ++ ['}']) cs (by decide)).1 ?_)
      rw [byteLength_concat, List.append_assoc]
      exact hnext
    rw [if_neg (mt leadByte_isQuote_iff.1 hquote), if_neg hopen, if_neg hquote,
      closingPlace?_tailBytes before c cs (by simp)]
    rfl

/-- Between quotes the scanner goes on by characters. -/
lemma closingPlace?_some_utf8Encode (hq : isQuote q) (hc : c ≠ '\\') :
    closingPlace? (before ++ c :: cs).utf8Encode (some q.toUInt8) (byteLength before) =
      closingPlace? (before ++ c :: cs).utf8Encode
        ((if c == q then none else some q).map Char.toUInt8) (byteLength (before ++ [c])) := by
  have hbackslash : leadByte c ≠ '\\'.toUInt8 := mt (leadByte_eq_iff (by decide)).1 hc
  have hlead : leadByte c = q.toUInt8 ↔ c = q := leadByte_eq_iff (toNat_of_isQuote hq)
  rw [closingPlace?_inside (getElem?_leadByte before c cs), if_neg hbackslash]
  by_cases hcq : c = q
  · rw [if_pos (hlead.2 hcq), closingPlace?_tailBytes before c cs (by simp)]
    simp [hcq]
  · rw [if_neg (mt hlead.1 hcq),
      closingPlace?_tailBytes before c cs (by simpa using toNat_toUInt8_of_isQuote hq)]
    simp [hcq]

/-- A backslash between quotes hides a character, and not only its first byte. -/
lemma closingPlace?_backslash_utf8Encode (hq : isQuote q) :
    closingPlace? (before ++ '\\' :: c :: cs).utf8Encode (some q.toUInt8) (byteLength before) =
      closingPlace? (before ++ '\\' :: c :: cs).utf8Encode (some q.toUInt8)
        (byteLength (before ++ ['\\', c])) := by
  have hascii : ∀ r ∈ some q.toUInt8, r.toNat < 0x80 := by
    simpa using toNat_toUInt8_of_isQuote hq
  have htail := closingPlace?_tailBytes (before ++ ['\\']) c cs hascii
  rw [List.append_assoc, List.append_assoc, byteLength_concat] at htail
  rw [closingPlace?_inside (getElem?_leadByte before '\\' (c :: cs)),
    if_pos ((leadByte_eq_iff (by decide)).2 rfl)]
  exact htail

lemma map_place_onBefore (before ds : List Char) (parts : Option (List Char × List Char)) :
    ((parts.map (onBefore ds)).map fun p => byteLength (before ++ p.1)) =
      parts.map fun p => byteLength (before ++ ds ++ p.1) := by
  rw [Option.map_map]
  congr 1
  funext p
  simp [onBefore]

/-- Both scanners find the end of a marker at the same place. -/
lemma closingPlace?_utf8Encode (before cs : List Char) {quote : Option Char}
    (hquote : ∀ q ∈ quote, isQuote q) :
    closingPlace? (before ++ cs).utf8Encode (quote.map Char.toUInt8) (byteLength before) =
      (closeMarker? quote cs).map fun p => byteLength (before ++ p.1) := by
  fun_induction closeMarker? quote cs generalizing before with
  | case1 quote =>
    rw [List.append_nil, closingPlace?_end (size_utf8Encode before).le]
    rfl
  | case2 cs =>
    have hnext := (getElem?_eq_toUInt8_iff (before ++ ['}']) ('}' :: cs) (by decide)).2 rfl
    rw [byteLength_concat, List.append_assoc] at hnext
    rw [Option.map_none, closingPlace?_outside (getElem?_leadByte before '}' ('}' :: cs)),
      if_neg (mt leadByte_isQuote_iff.1 (by decide)),
      if_pos ⟨(leadByte_eq_iff (by decide)).2 rfl, hnext⟩]
    simp
  | case3 c cs hopen ih =>
    have hnext : c = '}' → cs.head? ≠ some '}' := fun hc hcs => by
      obtain ⟨after, rfl⟩ := List.head?_eq_some_iff.1 hcs
      exact hopen after hc rfl
    have hquote' : ∀ q ∈ (if isQuote c then some c else none), isQuote q := by
      by_cases h : isQuote c <;> simp [h]
    rw [map_place_onBefore, ← ih _ hquote', Option.map_none, closingPlace?_none_utf8Encode hnext]
    simp
  | case4 q c cs ih =>
    rw [map_place_onBefore, ← ih _ hquote, Option.map_some,
      closingPlace?_backslash_utf8Encode (hquote q rfl)]
    simp
  | case5 q c cs hescape ih =>
    by_cases hc : c = '\\'
    · -- with nothing behind the backslash the scanner leaves the text
      obtain rfl : cs = [] := by
        cases cs with
        | nil => rfl
        | cons d cs => exact absurd rfl (hescape d cs hc)
      subst hc
      rw [Option.map_some, closingPlace?_inside (getElem?_leadByte before '\\' []),
        if_pos ((leadByte_eq_iff (by decide)).2 rfl), closingPlace?_end]
      · simp [closeMarker?]
      · rw [size_utf8Encode, byteLength_concat]
        exact Nat.add_le_add_left (by decide) _
    · have hquote' : ∀ r ∈ (if c == q then none else some q), isQuote r := by
        by_cases h : c = q <;> simp [h, hquote q rfl]
      rw [map_place_onBefore, ← ih _ hquote', Option.map_some,
        closingPlace?_some_utf8Encode (hquote q rfl) hc]
      simp

end Closing

/-! ### All markers -/

/-- The span is where the content stands in the text. -/
def Span.Holds (whole : List Char) (span : Span) (content : List Char) : Prop :=
  ∃ before rest, whole = before ++ content ++ rest ∧
    span = ⟨byteLength before, byteLength (before ++ content)⟩

/-- The scanners fail alike, or the spans that one finds hold the contents that the other finds. The
spans that are found before a failure hold contents as well. -/
inductive Agree (whole : List Char) :
    List Span × Option FilterFault → Except FilterFault (List (List Char)) → Prop
  | ok {ss : List Span} {contents : List (List Char)}
      (h : List.Forall₂ (Span.Holds whole) ss contents) : Agree whole (ss, none) (.ok contents)
  | error {ss : List Span} (fault : FilterFault)
      (h : ∀ span ∈ ss, ∃ content, span.Holds whole content) :
      Agree whole (ss, some fault) (.error fault)

section Spans

variable {bytes : ByteArray} {i j stop : ℕ} {c : Char} {before cs : List Char}

lemma spansFrom_succ
    (h : ¬(bytes[i]? = some '\x7b'.toUInt8 ∧ bytes[i + 1]? = some '\x7b'.toUInt8)) :
    spansFrom bytes i = spansFrom bytes (i + 1) := by
  rw [spansFrom]
  split_ifs with hi hopen
  · exact absurd (by simpa using hopen) h
  · rfl
  · rw [spansFrom, if_neg (by omega)]

lemma spansFrom_unclosed (h : bytes[i]? = some '\x7b'.toUInt8)
    (h' : bytes[i + 1]? = some '\x7b'.toUInt8) (hclose : closingPlace? bytes none (i + 2) = none) :
    spansFrom bytes i = ([], some (.unclosedMarker i)) := by
  have hi : i + 1 < bytes.size := (getElem?_eq_some_iff.1 h').1
  rw [spansFrom, if_pos hi, if_pos (by simp [h, h'])]
  split
  · rfl
  · simp_all

lemma spansFrom_closed (h : bytes[i]? = some '\x7b'.toUInt8)
    (h' : bytes[i + 1]? = some '\x7b'.toUInt8)
    (hclose : closingPlace? bytes none (i + 2) = some stop) :
    spansFrom bytes i = (spansFrom bytes (stop + 2)).map (⟨i + 2, stop⟩ :: ·) id := by
  have hi : i + 1 < bytes.size := (getElem?_eq_some_iff.1 h').1
  rw [spansFrom, if_pos hi, if_pos (by simp [h, h'])]
  split
  · simp_all
  · simp_all

/-- The scanner passes bytes that are not ASCII. -/
lemma spansFrom_skip (hij : i ≤ j)
    (h : ∀ k, i ≤ k → k < j → ∃ b, bytes[k]? = some b ∧ 0x80 ≤ b.toNat) :
    spansFrom bytes i = spansFrom bytes j := by
  refine eq_of_forall_succ hij fun k hlow hhigh => spansFrom_succ ?_
  obtain ⟨b, hb, hle⟩ := h k hlow hhigh
  rintro ⟨hopen, -⟩
  obtain rfl := Option.some.inj (hb.symm.trans hopen)
  exact absurd hle (by decide)

/-- Where no marker opens, the scanner goes on to the next character. -/
lemma spansFrom_cons (h : ¬opening <+: c :: cs) :
    spansFrom (before ++ c :: cs).utf8Encode (byteLength before) =
      spansFrom (before ++ c :: cs).utf8Encode (byteLength (before ++ [c])) := by
  rw [spansFrom_succ]
  · refine spansFrom_skip ?_ fun k hlow hhigh => exists_tailByte (Nat.lt_of_succ_le hlow) hhigh
    have := c.utf8Size_pos
    rw [byteLength_concat]
    omega
  · rintro ⟨hc, hnext⟩
    obtain rfl : c = '\x7b' := by
      simpa using (getElem?_eq_toUInt8_iff before (c :: cs) (by decide)).1 hc
    have hcs : cs.head? = some '\x7b' := by
      refine (getElem?_eq_toUInt8_iff (before ++ ['\x7b']) cs (by decide)).1 ?_
      rw [byteLength_concat, List.append_assoc]
      exact hnext
    obtain ⟨ds, rfl⟩ := List.head?_eq_some_iff.1 hcs
    exact h ⟨ds, rfl⟩

/-- The bytes of the braces that open a marker, and where the scanner goes on behind them. -/
lemma getElem?_opening (before cs : List Char) :
    (before ++ (opening ++ cs)).utf8Encode[byteLength before]? = some '\x7b'.toUInt8 ∧
      (before ++ (opening ++ cs)).utf8Encode[byteLength before + 1]? = some '\x7b'.toUInt8 ∧
      closingPlace? (before ++ (opening ++ cs)).utf8Encode none (byteLength before + 2) =
        (closeMarker? none cs).map fun p => byteLength (before ++ opening ++ p.1) := by
  have hfirst := (getElem?_eq_toUInt8_iff before (opening ++ cs) (by decide)).2 rfl
  have hsecond :=
    (getElem?_eq_toUInt8_iff (before ++ ['\x7b']) ('\x7b' :: cs) (by decide)).2 rfl
  have hquote : ∀ q ∈ (none : Option Char), isQuote q := by simp
  have hclose := closingPlace?_utf8Encode (before ++ opening) cs hquote
  rw [byteLength_append, List.append_assoc] at hsecond hclose
  exact ⟨hfirst, hsecond, hclose⟩

lemma spansFrom_opening_none (h : closeMarker? none cs = none) :
    spansFrom (before ++ (opening ++ cs)).utf8Encode (byteLength before) =
      ([], some (.unclosedMarker (byteLength before))) := by
  obtain ⟨hfirst, hsecond, hclose⟩ := getElem?_opening before cs
  rw [spansFrom_unclosed hfirst hsecond]
  rw [hclose, h, Option.map_none]

lemma spansFrom_opening_some {content rest : List Char}
    (h : closeMarker? none cs = some (content, rest)) :
    spansFrom (before ++ (opening ++ cs)).utf8Encode (byteLength before) =
      (spansFrom (before ++ (opening ++ cs)).utf8Encode
        (byteLength (before ++ opening ++ content ++ closing))).map
          (⟨byteLength (before ++ opening),
            byteLength (before ++ opening ++ content)⟩ :: ·) id := by
  obtain ⟨hfirst, hsecond, hclose⟩ := getElem?_opening before cs
  rw [spansFrom_closed hfirst hsecond (hclose.trans (by rw [h, Option.map_some])),
    byteLength_append _ closing, byteLength_append before opening]
  rfl

lemma Agree.cons {whole content : List Char} {span : Span}
    {xs : List Span × Option FilterFault} {ys : Except FilterFault (List (List Char))}
    (hspan : span.Holds whole content) (h : Agree whole xs ys) :
    Agree whole (xs.map (span :: ·) id) (ys.map (content :: ·)) := by
  cases h with
  | ok h => exact .ok (.cons hspan h)
  | error fault h => exact .error fault (List.forall_mem_cons.2 ⟨⟨content, hspan⟩, h⟩)

/-- Both scanners find the same markers. -/
lemma agree_spansFrom (before : List Char) {whole cs : List Char} (hwhole : whole = before ++ cs) :
    Agree whole (spansFrom whole.utf8Encode (byteLength before)) (markersFrom whole cs) := by
  fun_induction markersFrom whole cs generalizing before with
  | case1 =>
    rw [List.append_nil] at hwhole
    rw [spansFrom, if_neg]
    · exact .ok .nil
    · rw [hwhole, size_utf8Encode]
      omega
  | case2 cs hnone =>
    change whole = before ++ (opening ++ cs) at hwhole
    have hplace : placeOf whole ('\x7b' :: '\x7b' :: cs) = byteLength before := by
      rw [hwhole, placeOf, byteLength_append]
      exact Nat.add_sub_cancel _ _
    rw [hplace]
    subst hwhole
    rw [spansFrom_opening_none hnone]
    exact .error _ (List.forall_mem_nil _)
  | case3 cs content rest hsome _ ih =>
    change whole = before ++ (opening ++ cs) at hwhole
    have hcs := eq_of_closeMarker? hsome
    have hwhole' : whole = before ++ opening ++ content ++ closing ++ rest := by
      simp [hwhole, hcs, closing]
    have hspan : Span.Holds whole
        ⟨byteLength (before ++ opening), byteLength (before ++ opening ++ content)⟩ content :=
      ⟨before ++ opening, closing ++ rest, by simp [hwhole'], rfl⟩
    have hrest := Agree.cons hspan (ih _ hwhole')
    rw [hwhole, ← spansFrom_opening_some hsome, ← hwhole] at hrest
    exact hrest
  | case4 c cs hopen ih =>
    have hrest := ih (before ++ [c]) (by simp [hwhole])
    rw [hwhole, ← spansFrom_cons, ← hwhole] at hrest
    · exact hrest
    · rintro ⟨ds, heq⟩
      obtain ⟨hc, hcs⟩ : '\x7b' = c ∧ '\x7b' :: ds = cs := by simpa [opening] using heq
      exact hopen ds hc.symm hcs.symm

end Spans

/-! ### Slices of a template -/

/-- The span can be cut out of the template, as it starts and stops between two characters, and the
content is what it cuts out. -/
structure Span.IsSlice (template : String) (span : Span) (content : List Char) : Prop where
  start_le_stop : span.start ≤ span.stop
  start_isValid : String.Pos.Raw.IsValid template ⟨span.start⟩
  stop_isValid  : String.Pos.Raw.IsValid template ⟨span.stop⟩
  bytes_eq      : template.toUTF8.extract span.start span.stop = content.utf8Encode

namespace Span

variable {template : String} {span : Span} {content content' : List Char}

/-- A template may be cut behind any of its first characters. -/
lemma isValid_byteLength {before : List Char} (rest : List Char)
    (h : template.toList = before ++ rest) :
    String.Pos.Raw.IsValid template ⟨byteLength before⟩ := by
  refine String.Pos.Raw.isValid_iff_exists_append.2 ⟨.ofList before, .ofList rest, ?_, ?_⟩
  · rw [← String.ofList_append, ← h, String.ofList_toList]
  · rw [← size_utf8Encode, ← String.toByteArray_ofList]
    rfl

lemma IsSlice.of_holds (h : span.Holds template.toList content) :
    span.IsSlice template content := by
  obtain ⟨before, rest, hwhole, rfl⟩ := h
  have hbytes : template.toUTF8 = before.utf8Encode ++ content.utf8Encode ++ rest.utf8Encode := by
    rw [String.toUTF8_eq_toByteArray, ← String.utf8Encode_toList, hwhole, List.utf8Encode_append,
      List.utf8Encode_append]
  refine ⟨?_, isValid_byteLength (content ++ rest) ?_, isValid_byteLength rest hwhole, ?_⟩
  · rw [byteLength_append]
    exact Nat.le_add_right _ _
  · rw [hwhole, List.append_assoc]
  · rw [hbytes, byteLength_append, ← size_utf8Encode, ← size_utf8Encode, ← ByteArray.size_append,
      ByteArray.extract_append_size_left]
    exact ByteArray.extract_append_eq_right rfl ByteArray.size_append

/-- A span cuts out one content. -/
lemma IsSlice.unique (h : span.IsSlice template content) (h' : span.IsSlice template content') :
    content = content' := by
  have hbytes := h.bytes_eq.symm.trans h'.bytes_eq
  rw [← String.toByteArray_ofList, ← String.toByteArray_ofList, String.toByteArray_inj] at hbytes
  exact String.ofList_injective hbytes

lemma forall₂_isSlice_unique {ss : List Span} {contents contents' : List (List Char)}
    (h : List.Forall₂ (Span.IsSlice template) ss contents)
    (h' : List.Forall₂ (Span.IsSlice template) ss contents') : contents = contents' := by
  induction h generalizing contents' with
  | nil => cases h'; rfl
  | cons hspan _ ih =>
    cases h' with
    | cons hspan' hrest' => rw [hspan.unique hspan', ih hrest']

end Span

variable {template : String} {contents : List (List Char)}

lemma agree_spans (template : String) :
    Agree template.toList (spansFrom template.toUTF8 0) (markers template) := by
  have hagree := agree_spansFrom [] (List.nil_append template.toList).symm
  rwa [String.utf8Encode_toList, ← String.toUTF8_eq_toByteArray] at hagree

/-- The spans are where the scanner over characters finds the markers. -/
lemma exists_spans_iff : (∃ ss, spans template = .ok ss ∧
    List.Forall₂ (Span.IsSlice template) ss contents) ↔ markers template = .ok contents := by
  have hagree := agree_spans template
  unfold spans cuts
  generalize spansFrom template.toUTF8 0 = xs at hagree ⊢
  generalize markers template = ys at hagree ⊢
  cases hagree with
  | error fault => simp
  | @ok ss contents' h =>
    have hslices := h.imp fun _ _ => Span.IsSlice.of_holds
    constructor
    · rintro ⟨ss', heq, hslices'⟩
      obtain rfl : ss = ss' := by simpa using heq
      rw [Span.forall₂_isSlice_unique hslices hslices']
    · intro heq
      obtain rfl : contents' = contents := by simpa using heq
      exact ⟨ss, rfl, hslices⟩

lemma exists_holds_of_forall₂ {whole : List Char} {ss : List Span}
    (h : List.Forall₂ (Span.Holds whole) ss contents) :
    ∀ span ∈ ss, ∃ content, span.Holds whole content := by
  induction h with
  | nil => exact List.forall_mem_nil _
  | cons hspan _ ih => exact List.forall_mem_cons.2 ⟨⟨_, hspan⟩, ih⟩

/-- Whatever is cut out of a template can be cut out, also where a marker does not close. -/
lemma exists_isSlice_of_mem_cuts {span : Span} (h : span ∈ cuts template) :
    ∃ content, span.IsSlice template content := by
  have hagree := agree_spans template
  unfold cuts at h
  generalize spansFrom template.toUTF8 0 = xs at hagree h
  generalize markers template = ys at hagree
  have hholds : ∃ content, span.Holds template.toList content := by
    cases hagree with
    | ok hcontents => exact exists_holds_of_forall₂ hcontents span h
    | error fault hcuts => exact hcuts span h
  exact hholds.imp fun _ => .of_holds

/-- Quotes are closed at the end of every content. -/
lemma Marked.isContentFrom_of_mem {cs content : List Char} (h : Marked contents cs)
    (hmem : content ∈ contents) : IsContentFrom .outside content := by
  induction h with
  | text => simp at hmem
  | marker _ hcontent _ ih =>
    obtain rfl | hmem := List.mem_cons.1 hmem
    · exact hcontent
    · exact ih hmem

/-- The scanners find markers in exactly the marked templates, and they find all of them. What is
cut out starts and stops between characters, whether or not all markers close, and no quoted text in
the content of a marker is left open. -/
theorem markers_exact (template : String) (contents : List (List Char)) :
    (markers template = .ok contents ↔ Marked contents template.toList) ∧
    ((∃ ss, spans template = .ok ss ∧ List.Forall₂ (Span.IsSlice template) ss contents) ↔
      Marked contents template.toList) ∧
    (∀ span ∈ cuts template, ∃ content, span.IsSlice template content) ∧
    (Marked contents template.toList →
      ∀ content ∈ contents, ∀ place, tokens content ≠ .error (.unterminatedText place)) := by
  refine ⟨markersFrom_eq_ok_iff, exists_spans_iff.trans markersFrom_eq_ok_iff, ?_, ?_⟩
  · intro span hspan
    exact exists_isSlice_of_mem_cuts hspan
  · intro h content hmem place
    exact tokensFrom_ne_unterminatedText (h.isContentFrom_of_mem hmem).outside place

/-- Three braces in a row at both ends, and two of them in quotes behind an escaped `é`. -/
example : markers "\x7b\x7b\x7b '\\é\x7d\x7d' \x7d\x7d\x7d" =
    .ok ["\x7b '\\é\x7d\x7d' ".toList] := by
  decide +kernel

end SemanticLayer.Filter

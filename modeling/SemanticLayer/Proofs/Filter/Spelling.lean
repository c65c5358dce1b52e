import Mathlib.Tactic.Common
import SemanticLayer.Filter.Template

/-!
# Spelled tokens

A text is quoted with a backslash in front of every backslash and of every mark that would end the
quotes. However it is written, the scanner that looks for the end of a marker and the reader that
takes a marker's content apart agree on where a quoted text ends: spelled tokens are read back as
they are, and no part of them closes a marker.
-/

namespace SemanticLayer.Filter

variable {quote : Char}

/-! ### Quoted texts -/

/-- A character between the quotes `quote`. -/
def escaped (quote c : Char) : List Char := if c == '\\' || c == quote then ['\\', c] else [c]

/-- Characters between the quotes `quote`, with the quotes. -/
def quoted (quote : Char) (cs : List Char) : List Char :=
  quote :: (cs.flatMap (escaped quote) ++ [quote])

lemma ne_backslash_of_isQuote (h : isQuote quote) : quote ≠ '\\' := by
  rintro rfl
  exact absurd h (by decide)

/-- A mark neither separates tokens nor is one. -/
lemma unblank_of_isQuote {c : Char} (h : isQuote c) :
    Text.isBlank c = false ∧ Token.ofMark? c = none := by
  simp only [isQuote, Bool.or_eq_true, beq_iff_eq] at h
  obtain rfl | rfl := h <;> decide

@[simp] lemma onBefore_nil : onBefore [] = id := rfl

@[simp] lemma onBefore_comp (cs ds : List Char) :
    onBefore cs ∘ onBefore ds = onBefore (cs ++ ds) := by
  funext parts
  simp [onBefore]

/-- The reader of quoted texts takes exactly the backslashes away that were put in. -/
lemma readQuoted?_escaped (h : isQuote quote) (cs rest : List Char) :
    readQuoted? quote (cs.flatMap (escaped quote) ++ quote :: rest) = some (cs, rest) := by
  have hquote := ne_backslash_of_isQuote h
  induction cs with
  | nil => simp [readQuoted?, hquote]
  | cons c cs ih =>
    by_cases hc : (c == '\\' || c == quote) = true
    · have : escaped quote c = ['\\', c] := if_pos hc
      simp [this, readQuoted?, ih, onBefore]
    · have : escaped quote c = [c] := if_neg hc
      simp only [Bool.or_eq_true, beq_iff_eq, not_or] at hc
      simp [this, readQuoted?, ih, onBefore, hc.1, hc.2]

/-- The scanner for the end of a marker leaves a quoted text behind the mark that ends it. -/
lemma closeMarker?_escaped (h : isQuote quote) (cs rest : List Char) :
    closeMarker? (some quote) (cs.flatMap (escaped quote) ++ quote :: rest) =
      (closeMarker? none rest).map (onBefore (cs.flatMap (escaped quote) ++ [quote])) := by
  have hquote := ne_backslash_of_isQuote h
  induction cs with
  | nil => simp [closeMarker?, hquote]
  | cons c cs ih =>
    by_cases hc : (c == '\\' || c == quote) = true
    · have : escaped quote c = ['\\', c] := if_pos hc
      simp [this, closeMarker?, ih]
    · have : escaped quote c = [c] := if_neg hc
      simp only [Bool.or_eq_true, beq_iff_eq, not_or] at hc
      simp [this, closeMarker?, ih, hc.1, hc.2]

lemma closeMarker?_quoted (h : isQuote quote) (cs rest : List Char) :
    closeMarker? none (quoted quote cs ++ rest) =
      (closeMarker? none rest).map (onBefore (quoted quote cs)) := by
  have hbrace : quote ≠ '}' := by
    rintro rfl
    exact absurd h (by decide)
  simp [quoted, closeMarker?, hbrace, h, closeMarker?_escaped h]

/-! ### Names -/

/-- The characters are a name. -/
def isName : List Char → Bool
  | []      => false
  | c :: cs => isNameStart c && cs.all isNameCharacter

lemma isNameCharacter_of_isNameStart {c : Char} (h : isNameStart c) : isNameCharacter c := by
  simp only [isNameStart, isNameCharacter, Char.isAlphanum, Bool.or_eq_true] at h ⊢
  exact h.imp_left .inl

/-- Name characters are ASCII. -/
lemma toNat_lt_of_isNameCharacter {c : Char} (h : isNameCharacter c) : c.toNat < 128 := by
  change ((decide ('A'.val ≤ c.val ∧ c.val ≤ 'Z'.val) ||
    (decide ('a'.val ≤ c.val) && decide (c.val ≤ 'z'.val))) ||
    (decide ('0'.val ≤ c.val) && decide (c.val ≤ '9'.val))) || c == '_' at h
  simp only [Bool.or_eq_true, Bool.and_eq_true, decide_eq_true_eq, UInt32.le_iff_toNat_le,
    beq_iff_eq] at h
  rcases h with ((h | h) | h) | rfl
  · exact Nat.lt_of_le_of_lt h.2 (by decide)
  · exact Nat.lt_of_le_of_lt h.2 (by decide)
  · exact Nat.lt_of_le_of_lt h.2 (by decide)
  · decide

/-- None of the name characters has a meaning of its own between names. -/
lemma plain_of_isNameCharacter {c : Char} (h : isNameCharacter c) :
    Text.isBlank c = false ∧ Token.ofMark? c = none ∧ isQuote c = false ∧ c ≠ '}' := by
  have hall : ∀ n < 128, isNameCharacter (Char.ofNat n) → Text.isBlank (Char.ofNat n) = false ∧
      Token.ofMark? (Char.ofNat n) = none ∧ isQuote (Char.ofNat n) = false ∧
      Char.ofNat n ≠ '}' := by
    decide +kernel
  have := hall c.toNat (toNat_lt_of_isNameCharacter h)
  rw [Char.ofNat_toNat] at this
  exact this h

lemma all_isNameCharacter_of_isName {cs : List Char} (h : isName cs) :
    cs.all isNameCharacter := by
  cases cs with
  | nil => rfl
  | cons c cs =>
    simp only [isName, Bool.and_eq_true] at h
    simp [isNameCharacter_of_isNameStart h.1, h.2]

lemma closeMarker?_nameCharacters {cs : List Char} (h : cs.all isNameCharacter) (rest : List Char) :
    closeMarker? none (cs ++ rest) = (closeMarker? none rest).map (onBefore cs) := by
  induction cs with
  | nil => simp
  | cons c cs ih =>
    simp only [List.all_cons, Bool.and_eq_true] at h
    obtain ⟨-, -, hquote, hbrace⟩ := plain_of_isNameCharacter h.1
    simp [closeMarker?, hquote, hbrace, ih h.2]

/-! ### Tokens -/

/-- A token as it is written. A comma has a space behind it. -/
def Token.spelling (quote : Char) : Token → List Char
  | .name s       => s.toList
  | .text s       => quoted quote s.toList
  | .leftParen    => ['(']
  | .rightParen   => [')']
  | .leftBracket  => ['[']
  | .rightBracket => [']']
  | .comma        => [',', ' ']
  | .equals       => ['=']
  | .dot          => ['.']

/-- Tokens as they are written one behind the other. -/
def spelled (quote : Char) (ts : List Token) : List Char := ts.flatMap (Token.spelling quote)

/-- The first token is a name. -/
def startsWithName : List Token → Bool
  | .name _ :: _ => true
  | _            => false

/-- The tokens can be told apart when they are written one behind the other: names have the form
of names, and no two of them meet. -/
def IsSpellable : List Token → Prop
  | []      => True
  | t :: ts => (∀ s, t = .name s → isName s.toList ∧ startsWithName ts = false) ∧ IsSpellable ts

lemma closeMarker?_spelled (hq : isQuote quote) {ts : List Token} (h : IsSpellable ts)
    (rest : List Char) :
    closeMarker? none (spelled quote ts ++ rest) =
      (closeMarker? none rest).map (onBefore (spelled quote ts)) := by
  induction ts with
  | nil => simp [spelled]
  | cons t ts ih =>
    have htoken (rest : List Char) : closeMarker? none (t.spelling quote ++ rest) =
        (closeMarker? none rest).map (onBefore (t.spelling quote)) := by
      cases t with
      | name s =>
        obtain ⟨hname, -⟩ := h.1 s rfl
        exact closeMarker?_nameCharacters (all_isNameCharacter_of_isName hname) rest
      | text s => exact closeMarker?_quoted hq s.toList rest
      | _ => simp [Token.spelling, closeMarker?, isQuote]
    have hcons : spelled quote (t :: ts) = t.spelling quote ++ spelled quote ts := rfl
    rw [hcons, List.append_assoc, htoken, ih h.2, Option.map_map, onBefore_comp]

/-- What stands behind a name does not go on with a name character. -/
lemma dropWhile_spelled (hq : isQuote quote) {ts : List Token} (h : startsWithName ts = false) :
    (spelled quote ts ++ [' ']).dropWhile isNameCharacter = spelled quote ts ++ [' '] := by
  have hquote : isNameCharacter quote = false := by
    by_contra hname
    rw [Bool.not_eq_false] at hname
    simp [(plain_of_isNameCharacter hname).2.2.1] at hq
  match ts with
  | []      => rfl
  | t :: ts =>
    cases t with
    | name s => simp [startsWithName] at h
    | text s => simp [spelled, Token.spelling, quoted, hquote]
    | _ =>
      refine List.dropWhile_cons_of_neg ?_
      decide

lemma tokensFrom_text {whole cs text rest : List Char} (hq : isQuote quote)
    (h : readQuoted? quote cs = some (text, rest)) :
    tokensFrom whole (quote :: cs) =
      (tokensFrom whole rest).map (.text (String.ofList text) :: ·) := by
  obtain ⟨hblank, hmark⟩ := unblank_of_isQuote hq
  rw [tokensFrom]
  simp only [hblank, hmark, hq, if_true, Bool.false_eq_true, if_false]
  split
  · next hnone => simp [h] at hnone
  · next text' rest' hsome =>
    obtain ⟨rfl, rfl⟩ : text = text' ∧ rest = rest' := by simpa [h] using hsome
    rfl

lemma tokensFrom_quoted (hq : isQuote quote) (whole : List Char) (s : String) (rest : List Char) :
    tokensFrom whole (quoted quote s.toList ++ rest) =
      (tokensFrom whole rest).map (.text s :: ·) := by
  rw [quoted, List.cons_append, List.append_assoc, List.singleton_append,
    tokensFrom_text hq (readQuoted?_escaped hq s.toList rest), String.ofList_toList]

lemma tokensFrom_name (whole : List Char) {s : String} (hs : isName s.toList) {rest : List Char}
    (hrest : rest.dropWhile isNameCharacter = rest) :
    tokensFrom whole (s.toList ++ rest) = (tokensFrom whole rest).map (.name s :: ·) := by
  cases hchars : s.toList with
  | nil => simp [hchars, isName] at hs
  | cons c cs =>
    simp only [hchars, isName, Bool.and_eq_true] at hs
    obtain ⟨hblank, hmark, hquote, -⟩ :=
      plain_of_isNameCharacter (isNameCharacter_of_isNameStart hs.1)
    have hall : ∀ d ∈ cs, isNameCharacter d = true := by simpa using hs.2
    have hdrop : (cs ++ rest).dropWhile isNameCharacter = rest := by
      rw [List.dropWhile_append_of_pos hall, hrest]
    have htake : (cs ++ rest).takeWhile isNameCharacter = cs := by
      have := List.takeWhile_append_dropWhile (p := isNameCharacter) (l := cs ++ rest)
      rw [hdrop] at this
      exact List.append_cancel_right this
    rw [List.cons_append, tokensFrom]
    simp only [hblank, hmark, hquote, hs.1, hdrop, htake, if_true, Bool.false_eq_true, if_false]
    rw [← hchars, String.ofList_toList]

/-- Spelled tokens are read back as they are. -/
lemma tokensFrom_spelled (hq : isQuote quote) (whole : List Char) {ts : List Token}
    (h : IsSpellable ts) : tokensFrom whole (spelled quote ts ++ [' ']) = .ok ts := by
  induction ts with
  | nil => simp [spelled, tokensFrom, Text.isBlank]
  | cons t ts ih =>
    have hcons : spelled quote (t :: ts) = t.spelling quote ++ spelled quote ts := rfl
    have hfirst : tokensFrom whole (t.spelling quote ++ (spelled quote ts ++ [' '])) =
        (tokensFrom whole (spelled quote ts ++ [' '])).map (t :: ·) := by
      cases t with
      | name s =>
        obtain ⟨hname, hnext⟩ := h.1 s rfl
        exact tokensFrom_name whole hname (dropWhile_spelled hq hnext)
      | text s => exact tokensFrom_quoted hq whole s _
      | _ =>
        simp [Token.spelling, tokensFrom, Text.isBlank, Token.ofMark?]
    rw [hcons, List.append_assoc, hfirst, ih h.2]
    rfl

/-! ### Markers -/

/-- A marker around characters. -/
def marked (cs : List Char) : List Char := '\x7b' :: '\x7b' :: ' ' :: (cs ++ [' ', '}', '}'])

/-- A marker around spelled tokens is the only one and holds nothing else. -/
lemma markers_marked (hq : isQuote quote) {ts : List Token} (h : IsSpellable ts) :
    markers (String.ofList (marked (spelled quote ts))) =
      .ok [' ' :: (spelled quote ts ++ [' '])] := by
  have hclose : closeMarker? none (' ' :: (spelled quote ts ++ [' ', '}', '}'])) =
      some (' ' :: (spelled quote ts ++ [' ']), []) := by
    simp [closeMarker?, isQuote, closeMarker?_spelled hq h, onBefore]
  rw [markers, String.toList_ofList, marked, markersFrom]
  split
  · next hnone => simp [hclose] at hnone
  · next content rest hsome =>
    obtain ⟨rfl, rfl⟩ : ' ' :: (spelled quote ts ++ [' ']) = content ∧ [] = rest := by
      simpa [hclose] using hsome
    simp [markersFrom, Except.map]

lemma contentCalls_singleton (custom : List String) (content : List Char) :
    contentCalls custom [content] = contentCall custom content := by
  rw [contentCalls]
  cases contentCall custom content with
  | error => rfl
  | ok calls => exact congrArg Except.ok (CallSets.append_empty calls)

/-- The template that is a marker around spelled tokens has the calls of their expression. -/
lemma templateCalls_marked (hq : isQuote quote) (custom : List String) {ts : List Token}
    (h : IsSpellable ts) :
    templateCalls custom (String.ofList (marked (spelled quote ts))) =
      (readExpression ts).bind (·.call custom) := by
  have htokens : tokens (' ' :: (spelled quote ts ++ [' '])) = .ok ts := by
    rw [tokens, tokensFrom]
    exact tokensFrom_spelled hq _ h
  rw [templateCalls, markers_marked hq h]
  change contentCalls custom [' ' :: (spelled quote ts ++ [' '])] = _
  rw [contentCalls_singleton, contentCall, htokens]
  rfl

end SemanticLayer.Filter

import Mathlib.Data.List.TakeWhile
import SemanticLayer.Proofs.Filter.Append

/-!
# Marked texts

Where the markers of a text stand, said without a scanner: a text goes on up to the first two
opening braces, and the marker that starts there goes on up to the first two closing braces outside
quotes. The scanner finds the markers of exactly the texts that can be taken apart like this, and no
marker that it finds ends within a quoted text.
-/

namespace SemanticLayer.Filter

/-! ### Quotes -/

/-- Where a reader stands: outside quotes, between the quotes `q`, or behind a backslash between
them. -/
inductive QuoteState where
  | outside
  | inside  (q : Char)
  | escaped (q : Char)
  deriving DecidableEq

namespace QuoteState

/-- The state behind one more character. -/
def next : QuoteState → Char → QuoteState
  | outside,   c => if isQuote c then inside c else outside
  | inside q,  c => if c == '\\' then escaped q else if c == q then outside else inside q
  | escaped q, _ => inside q

/-- The state behind more characters. -/
def after (s : QuoteState) (cs : List Char) : QuoteState := cs.foldl next s

/-- The state of a scanner between the quotes `quote`, if there are any. -/
def ofQuote : Option Char → QuoteState
  | none   => outside
  | some q => inside q

variable {s : QuoteState} {c q : Char} {cs ds : List Char}

@[simp] lemma after_nil : s.after [] = s := rfl

@[simp] lemma after_cons : s.after (c :: cs) = (s.next c).after cs := rfl

@[simp] lemma after_append : s.after (cs ++ ds) = (s.after cs).after ds := List.foldl_append

lemma next_ofQuote_none (c : Char) :
    (ofQuote none).next c = ofQuote (if isQuote c then some c else none) := by
  by_cases h : isQuote c <;> simp [ofQuote, next, h]

lemma next_ofQuote_some (h : c ≠ '\\') :
    (ofQuote (some q)).next c = ofQuote (if c == q then none else some q) := by
  by_cases hq : c = q
  · subst hq
    simp [ofQuote, next, h]
  · simp [ofQuote, next, h, hq]

lemma after_outside_cons (h : isQuote c = false) :
    outside.after (c :: cs) = outside.after cs := by
  simp [next, h]

lemma after_outside_quote (h : isQuote c) : outside.after (c :: cs) = (inside c).after cs := by
  simp [next, h]

/-- Nothing but a quotation mark leads from outside quotes into them. -/
lemma after_outside_append (h : ∀ c ∈ cs, isQuote c = false) :
    outside.after (cs ++ ds) = outside.after ds := by
  induction cs with
  | nil => rfl
  | cons c cs ih =>
    obtain ⟨hc, hcs⟩ := List.forall_mem_cons.1 h
    rw [List.cons_append, after_outside_cons hc, ih hcs]

end QuoteState

/-! ### Contents of markers -/

/-- The braces that open a marker. -/
def opening : List Char := ['\x7b', '\x7b']

/-- The braces that close a marker. -/
def closing : List Char := ['}', '}']

/-- Read from the state `s` on, the closing braces behind the text are the first ones that stand
outside quotes. -/
structure IsContentFrom (s : QuoteState) (content : List Char) : Prop where
  outside : s.after content = .outside
  first   : ∀ before rest, content ++ closing = before ++ closing ++ rest →
    s.after before = .outside → before = content

section Content

variable {s : QuoteState} {c : Char} {content rest : List Char}

lemma isContentFrom_nil : IsContentFrom s [] ↔ s = .outside := by
  constructor
  · intro h
    exact h.outside
  · intro hs
    refine ⟨hs, fun before rest h _ => ?_⟩
    have hlength := congrArg List.length h
    simp only [List.nil_append, List.length_append] at hlength
    exact List.length_eq_zero_iff.1 (by omega)

lemma isContentFrom_cons : IsContentFrom s (c :: content) ↔
    ¬(s = .outside ∧ closing <+: c :: content ++ closing) ∧ IsContentFrom (s.next c) content := by
  constructor
  · intro h
    refine ⟨?_, h.outside, fun before rest heq hbefore => ?_⟩
    · rintro ⟨hs, rest, heq⟩
      exact List.cons_ne_nil _ _ (h.first [] rest heq.symm hs).symm
    · have heq' : c :: content ++ closing = c :: before ++ closing ++ rest := congrArg (c :: ·) heq
      exact (List.cons.inj (h.first (c :: before) rest heq' hbefore)).2
  · rintro ⟨hopen, h⟩
    refine ⟨h.outside, fun before rest heq hbefore => ?_⟩
    cases before with
    | nil => exact absurd ⟨hbefore, rest, heq.symm⟩ hopen
    | cons d before =>
      obtain ⟨rfl, heq'⟩ := List.cons.inj heq
      rw [h.first before rest heq' hbefore]

/-- Where no marker closes, the scanner goes one character further. -/
lemma map_onBefore_eq_some_iff_isContentFrom {parts : Option (List Char × List Char)}
    {cs : List Char} (hopen : s = .outside → ¬closing <+: c :: cs)
    (hparts : ∀ inner, parts = some (inner, rest) ↔
      cs = inner ++ closing ++ rest ∧ IsContentFrom (s.next c) inner) :
    parts.map (onBefore [c]) = some (content, rest) ↔
      c :: cs = content ++ closing ++ rest ∧ IsContentFrom s content := by
  rw [map_onBefore_eq_some_iff]
  constructor
  · rintro ⟨inner, hinner, rfl⟩
    obtain ⟨rfl, hcontent⟩ := (hparts inner).1 hinner
    refine ⟨rfl, isContentFrom_cons.2 ⟨fun h => hopen h.1 ?_, hcontent⟩⟩
    exact h.2.trans (List.prefix_append (c :: inner ++ closing) rest)
  · rintro ⟨heq, h⟩
    cases content with
    | nil => exact absurd ⟨rest, heq.symm⟩ (hopen (isContentFrom_nil.1 h))
    | cons d inner =>
      obtain ⟨rfl, heq'⟩ := List.cons.inj heq
      exact ⟨inner, (hparts inner).2 ⟨heq', (isContentFrom_cons.1 h).2⟩, rfl⟩

/-- The scanner stops at the first closing braces outside quotes, and it finds them if they are
there. -/
lemma closeMarker?_eq_some_iff {quote : Option Char} {cs : List Char} :
    closeMarker? quote cs = some (content, rest) ↔
      cs = content ++ closing ++ rest ∧ IsContentFrom (.ofQuote quote) content := by
  fun_induction closeMarker? quote cs generalizing content with
  | case1 quote => simp [closing]
  | case2 cs =>
    constructor
    · intro h
      obtain ⟨rfl, rfl⟩ : [] = content ∧ cs = rest := by simpa using h
      exact ⟨rfl, isContentFrom_nil.2 rfl⟩
    · rintro ⟨heq, h⟩
      cases content with
      | nil => simpa [closing] using heq
      | cons c content =>
        have hclosing : closing <+: c :: content ++ closing := by
          refine List.prefix_of_prefix_length_le ⟨cs, heq⟩ (List.prefix_append _ rest) ?_
          simp [closing]
        exact absurd ⟨rfl, hclosing⟩ (isContentFrom_cons.1 h).1
  | case3 c cs hopen ih =>
    refine map_onBefore_eq_some_iff_isContentFrom (fun _ hclosing => ?_) fun inner => ?_
    · obtain ⟨after, heq⟩ := hclosing
      obtain ⟨hc, hcs⟩ : '}' = c ∧ '}' :: after = cs := by simpa [closing] using heq
      exact hopen after hc.symm hcs.symm
    · rw [ih, QuoteState.next_ofQuote_none]
  | case4 q c cs ih =>
    have hcomp : onBefore ['\\', c] = onBefore ['\\'] ∘ onBefore [c] := by simp
    rw [hcomp, ← Option.map_map]
    -- the backslash hides the character behind it
    refine map_onBefore_eq_some_iff_isContentFrom (by simp [QuoteState.ofQuote]) fun inner => ?_
    exact map_onBefore_eq_some_iff_isContentFrom (by simp [QuoteState.ofQuote, QuoteState.next])
      fun inner => ih
  | case5 q c cs hescape ih =>
    by_cases hc : c = '\\'
    · have hcs : cs = [] := by
        cases cs with
        | nil => rfl
        | cons d cs => exact absurd rfl (hescape d cs hc)
      subst hcs
      refine iff_of_false (by simp [closeMarker?]) ?_
      rintro ⟨heq, -⟩
      have hlength := congrArg List.length heq
      simp [closing] at hlength
      omega
    · refine map_onBefore_eq_some_iff_isContentFrom (by simp [QuoteState.ofQuote]) fun inner => ?_
      rw [ih, QuoteState.next_ofQuote_some hc]

lemma closeMarker?_none_eq_some_iff {cs : List Char} :
    closeMarker? none cs = some (content, rest) ↔
      cs = content ++ closing ++ rest ∧ IsContentFrom .outside content :=
  closeMarker?_eq_some_iff

end Content

/-! ### Markers of a text -/

/-- The text has markers with these contents, in order. In front of a marker and behind the last one
stands text in which no marker opens. -/
inductive Marked : List (List Char) → List Char → Prop
  | text {cs : List Char} (h : ¬opening <:+: cs) : Marked [] cs
  | marker {text content rest : List Char} {contents : List (List Char)}
      (htext : ¬opening <:+: text ++ ['\x7b']) (hcontent : IsContentFrom .outside content)
      (hrest : Marked contents rest) :
      Marked (content :: contents) (text ++ opening ++ content ++ closing ++ rest)

namespace Marked

variable {whole cs : List Char} {contents : List (List Char)}

/-- Where a text starts with opening braces, its first marker starts there. -/
lemma opening_iff : Marked contents (opening ++ cs) ↔ ∃ content contents' rest,
    contents = content :: contents' ∧ cs = content ++ closing ++ rest ∧
      IsContentFrom .outside content ∧ Marked contents' rest := by
  constructor
  · intro h
    generalize hwhole : opening ++ cs = whole at h
    cases h with
    | text h => exact absurd ⟨[], cs, hwhole⟩ h
    | @marker text content rest contents htext hcontent hrest =>
      -- text in front of the marker would hold opening braces or make some with the marker
      obtain rfl : text = [] := by
        cases text with
        | nil => rfl
        | cons c text =>
          refine absurd (List.IsPrefix.isInfix ?_) htext
          refine List.prefix_of_prefix_length_le ⟨cs, hwhole⟩ ?_ (by simp [opening])
          exact ⟨'\x7b' :: (content ++ closing ++ rest), by simp [opening]⟩
      refine ⟨content, contents, rest, rfl, ?_, hcontent, hrest⟩
      simpa using hwhole
  · rintro ⟨content, contents', rest, rfl, rfl, hcontent, hrest⟩
    simpa using @Marked.marker [] content rest contents' (by decide) hcontent hrest

/-- A character that no marker opens with may be left out. -/
lemma cons_iff {c : Char} (hopen : ¬opening <+: c :: cs) :
    Marked contents (c :: cs) ↔ Marked contents cs := by
  constructor
  · intro h
    generalize hwhole : c :: cs = whole at h
    cases h with
    | text h =>
      subst hwhole
      exact .text fun hin => h (hin.trans (List.suffix_cons c cs).isInfix)
    | @marker text content rest contents htext hcontent hrest =>
      cases text with
      | nil => exact absurd ⟨content ++ closing ++ rest, by simpa using hwhole.symm⟩ hopen
      | cons d text =>
        obtain ⟨rfl, rfl⟩ := List.cons.inj hwhole
        refine .marker (fun hin => htext ?_) hcontent hrest
        exact hin.trans (List.suffix_cons c _).isInfix
  · intro h
    cases h with
    | text h => exact .text fun hin => (List.infix_cons_iff.1 hin).elim hopen h
    | @marker text content rest contents htext hcontent hrest =>
      refine @Marked.marker (c :: text) _ _ _ (fun hin => ?_) hcontent hrest
      refine (List.infix_cons_iff.1 hin).elim (fun hpre => hopen ?_) htext
      exact hpre.trans ⟨'\x7b' :: (content ++ closing ++ rest), by simp [opening]⟩

end Marked

/-- The scanner finds the contents of a text's markers if the text has markers. -/
lemma markersFrom_eq_ok_iff {whole cs : List Char} {contents : List (List Char)} :
    markersFrom whole cs = .ok contents ↔ Marked contents cs := by
  fun_induction markersFrom whole cs generalizing contents with
  | case1 =>
    constructor
    · intro h
      obtain rfl : [] = contents := by simpa using h
      exact .text (by decide)
    · intro h
      generalize hwhole : ([] : List Char) = whole at h
      cases h with
      | text => rfl
      | marker => simp [opening] at hwhole
  | case2 cs hnone =>
    refine iff_of_false (by simp) fun h => ?_
    obtain ⟨content, contents', rest, -, hcs, hcontent, -⟩ := Marked.opening_iff.1 h
    simp [closeMarker?_none_eq_some_iff.2 ⟨hcs, hcontent⟩] at hnone
  | case3 cs content rest hsome _ ih =>
    change (content :: ·) <$> markersFrom whole rest = .ok contents ↔
      Marked contents (opening ++ cs)
    rw [map_eq_ok_iff, Marked.opening_iff]
    constructor
    · rintro ⟨contents', hrest, rfl⟩
      obtain ⟨hcs, hcontent⟩ := closeMarker?_none_eq_some_iff.1 hsome
      exact ⟨content, contents', rest, rfl, hcs, hcontent, ih.1 hrest⟩
    · rintro ⟨content', contents', rest', rfl, hcs, hcontent, hrest⟩
      obtain ⟨rfl, rfl⟩ : content = content' ∧ rest = rest' := by
        simpa [closeMarker?_none_eq_some_iff.2 ⟨hcs, hcontent⟩, eq_comm] using hsome
      exact ⟨contents', ih.2 hrest, rfl⟩
  | case4 c cs hopen ih =>
    rw [ih, Marked.cons_iff]
    rintro ⟨after, heq⟩
    obtain ⟨hc, hcs⟩ : '\x7b' = c ∧ '\x7b' :: after = cs := by simpa [opening] using heq
    exact hopen after hc.symm hcs.symm

/-! ### Tokens of a content -/

/-- A character that the reader takes as it is, is no backslash. -/
lemma ne_backslash {c : Char} {cs : List Char} (hsingle : c = '\\' → cs = [] → False)
    (hescape : ∀ d ds, c = '\\' → cs = d :: ds → False) : c ≠ '\\' := by
  intro hc
  cases cs with
  | nil => exact hsingle hc rfl
  | cons d ds => exact hescape d ds hc rfl

/-- A quoted text ends within a content. -/
lemma exists_readQuoted?_eq_some {q : Char} (hq : isQuote q) {cs : List Char}
    (h : (QuoteState.inside q).after cs = .outside) :
    ∃ text rest, readQuoted? q cs = some (text, rest) ∧
      QuoteState.outside.after rest = .outside := by
  have hbackslash := ne_backslash_of_isQuote hq
  fun_induction readQuoted? q cs with
  | case1 => simp at h
  | case2 => simp [QuoteState.next] at h
  | case3 c cs ih =>
    obtain ⟨text, rest, hread, hrest⟩ := ih (by simpa [QuoteState.next] using h)
    exact ⟨c :: text, rest, by simp [hread, onBefore], hrest⟩
  | case4 c cs hsingle hescape hc =>
    obtain rfl : c = q := by simpa using hc
    exact ⟨[], cs, rfl, by simpa [QuoteState.next, hbackslash] using h⟩
  | case5 c cs hsingle hescape hc ih =>
    have hc' := ne_backslash hsingle hescape
    obtain ⟨text, rest, hread, hrest⟩ := ih (by simpa [QuoteState.next, hc, hc'] using h)
    exact ⟨c :: text, rest, by simp [hread, onBefore], hrest⟩

lemma after_of_readQuoted? {q : Char} (hq : isQuote q) {cs text rest : List Char}
    (h : (QuoteState.inside q).after cs = .outside) (hread : readQuoted? q cs = some (text, rest)) :
    QuoteState.outside.after rest = .outside := by
  obtain ⟨text', rest', hread', hrest⟩ := exists_readQuoted?_eq_some hq h
  obtain ⟨-, rfl⟩ : text' = text ∧ rest' = rest := by simpa [hread, eq_comm] using hread'
  exact hrest

lemma isQuote_eq_false_of_isBlank {c : Char} (h : Text.isBlank c) : isQuote c = false := by
  by_contra hquote
  simp [(unblank_of_isQuote (by simpa using hquote)).1] at h

lemma isQuote_eq_false_of_ofMark? {c : Char} {t : Token} (h : Token.ofMark? c = some t) :
    isQuote c = false := by
  by_contra hquote
  simp [(unblank_of_isQuote (by simpa using hquote)).2] at h

/-- There are no quotes in a name. -/
lemma after_dropWhile_isNameCharacter {cs : List Char} :
    QuoteState.outside.after (cs.dropWhile isNameCharacter) = QuoteState.outside.after cs := by
  conv_rhs => rw [← List.takeWhile_append_dropWhile (p := isNameCharacter) (l := cs)]
  rw [QuoteState.after_outside_append]
  exact fun d hd => (plain_of_isNameCharacter (List.mem_takeWhile_imp hd)).2.2.1

lemma map_ne_error {α β ε : Type} {f : α → β} {x : Except ε α} {e : ε} (h : x ≠ .error e) :
    x.map f ≠ .error e := by
  cases x with
  | error e' => simpa [Except.map] using h
  | ok a => simp [Except.map]

/-- Where quotes are closed at the end of a text, every quoted text in it ends. -/
lemma tokensFrom_ne_unterminatedText {whole cs : List Char}
    (h : QuoteState.outside.after cs = .outside) (place : ℕ) :
    tokensFrom whole cs ≠ .error (.unterminatedText place) := by
  fun_induction tokensFrom whole cs with
  | case1 => simp
  | case2 c cs hblank ih =>
    exact ih (by rwa [QuoteState.after_outside_cons (isQuote_eq_false_of_isBlank hblank)] at h)
  | case3 c cs hblank token hmark ih =>
    refine map_ne_error (ih ?_)
    rwa [QuoteState.after_outside_cons (isQuote_eq_false_of_ofMark? hmark)] at h
  | case4 c cs hblank hmark hquote hnone =>
    rw [QuoteState.after_outside_quote hquote] at h
    obtain ⟨text, rest, hsome, -⟩ := exists_readQuoted?_eq_some hquote h
    simp [hsome] at hnone
  | case5 c cs hblank hmark hquote text rest hsome ih =>
    rw [QuoteState.after_outside_quote hquote] at h
    exact map_ne_error (ih (after_of_readQuoted? hquote h hsome))
  | case6 c cs hblank hmark hquote hname ih =>
    refine map_ne_error (ih ?_)
    rwa [QuoteState.after_outside_cons (by simpa using hquote),
      ← after_dropWhile_isNameCharacter] at h
  | case7 => simp

end SemanticLayer.Filter

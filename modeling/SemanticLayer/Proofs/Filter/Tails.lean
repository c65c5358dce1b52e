import SemanticLayer.Proofs.Filter.BareItems
import SemanticLayer.Proofs.Filter.LastMethod

/-!
# Text behind an item

White space behind a group-by item does not count, and neither does a call of `descending`, whether
it stands behind a bare call or behind a marker. An item that is accepted with such a tail is
accepted without it for the same calls: `parseGroupBy_of_append`.
-/

namespace SemanticLayer.Filter

/-! ### Tokens and quotes -/

section Quotes

variable {whole cs : List Char} {ts : List Token}

/-- Behind a quoted text the reader stands where it stands behind what follows. -/
lemma after_inside_of_readQuoted? {q : Char} (hq : isQuote q) {text rest : List Char}
    (h : readQuoted? q cs = some (text, rest)) :
    (QuoteState.inside q).after cs = QuoteState.outside.after rest := by
  have hbackslash := ne_backslash_of_isQuote hq
  fun_induction readQuoted? q cs generalizing text with
  | case1 => simp at h
  | case2 => simp at h
  | case3 c cs ih =>
    obtain ⟨inner, hinner, rfl⟩ := map_onBefore_eq_some_iff.1 h
    simpa [QuoteState.next] using ih hinner
  | case4 c cs hsingle hescape hc =>
    obtain ⟨rfl, rfl⟩ : [] = text ∧ cs = rest := by simpa using h
    obtain rfl : c = q := by simpa using hc
    simp [QuoteState.next, hbackslash]
  | case5 c cs hsingle hescape hc ih =>
    obtain ⟨inner, hinner, rfl⟩ := map_onBefore_eq_some_iff.1 h
    have hc' := ne_backslash hsingle hescape
    simpa [QuoteState.next, hc', hc] using ih hinner

/-- Quotes are closed at the end of a text that has tokens. -/
lemma after_of_tokensFrom (h : tokensFrom whole cs = .ok ts) :
    QuoteState.outside.after cs = .outside := by
  fun_induction tokensFrom whole cs generalizing ts with
  | case1 => rfl
  | case2 c cs hblank ih =>
    rw [QuoteState.after_outside_cons (isQuote_eq_false_of_isBlank hblank), ih h]
  | case3 c cs hblank token hmark ih =>
    obtain ⟨us, hus, -⟩ := map_eq_ok_iff.1 h
    rw [QuoteState.after_outside_cons (isQuote_eq_false_of_ofMark? hmark), ih hus]
  | case4 => simp at h
  | case5 c cs hblank hmark hquote text rest hsome ih =>
    obtain ⟨us, hus, -⟩ := map_eq_ok_iff.1 h
    rw [QuoteState.after_outside_quote hquote, after_inside_of_readQuoted? hquote hsome, ih hus]
  | case6 c cs hblank hmark hquote hname ih =>
    obtain ⟨us, hus, -⟩ := map_eq_ok_iff.1 h
    rw [QuoteState.after_outside_cons (by simpa using hquote), ← after_dropWhile_isNameCharacter,
      ih hus]
  | case7 => simp at h

end Quotes

/-! ### White space -/

/-- The text is white space. -/
def IsBlankText (cs : List Char) : Prop := ∀ c ∈ cs, Text.isBlank c

/-- There are no braces and no quotation marks in the text. -/
def IsPlain (cs : List Char) : Prop := ∀ c ∈ cs, c ≠ '\x7b' ∧ c ≠ '}' ∧ isQuote c = false

section Blank

variable {cs : List Char}

lemma plain_of_isBlank {c : Char} (h : Text.isBlank c) :
    c ≠ '\x7b' ∧ c ≠ '}' ∧ isQuote c = false ∧ isNameCharacter c = false := by
  refine ⟨?_, ?_, isQuote_eq_false_of_isBlank h, ?_⟩
  · rintro rfl
    exact absurd h (by decide)
  · rintro rfl
    exact absurd h (by decide)
  · by_contra hname
    simp [(plain_of_isNameCharacter (by simpa using hname)).1] at h

lemma IsBlankText.isPlain (h : IsBlankText cs) : IsPlain cs := by
  intro c hc
  obtain ⟨hopen, hclose, hquote, -⟩ := plain_of_isBlank (h c hc)
  exact ⟨hopen, hclose, hquote⟩

lemma IsBlankText.notMem (h : IsBlankText cs) {c : Char} (hc : Text.isBlank c = false) :
    c ∉ cs := by
  intro hmem
  simp [h c hmem] at hc

/-- White space in front of a text does not count. -/
lemma tokensFrom_blankText (whole : List Char) {blanks : List Char} (h : IsBlankText blanks)
    (cs : List Char) : tokensFrom whole (blanks ++ cs) = tokensFrom whole cs := by
  induction blanks with
  | nil => rfl
  | cons b blanks ih =>
    obtain ⟨hb, hblanks⟩ := List.forall_mem_cons.1 h
    rw [List.cons_append, tokensFrom, if_pos hb, ih hblanks]

/-- No name goes on behind white space and a mark. -/
lemma IsBlankText.apart {blanks : List Char} (h : IsBlankText blanks) {c : Char}
    (hc : isNameCharacter c = false) :
    ∀ d ∈ (blanks ++ c :: cs).head?, isNameCharacter d = false := by
  cases blanks with
  | nil =>
    rintro _ ⟨⟩
    exact hc
  | cons b blanks =>
    rintro _ ⟨⟩
    exact (plain_of_isBlank (h b List.mem_cons_self)).2.2.2

lemma tokensFrom_mark {c : Char} {t : Token} (h : Token.ofMark? c = some t) (whole cs : List Char) :
    tokensFrom whole (c :: cs) = (tokensFrom whole cs).map (t :: ·) := by
  have hblank : Text.isBlank c = false := by
    unfold Token.ofMark? at h
    split at h
    all_goals first | decide | contradiction
  rw [tokensFrom, hblank]
  simp [h]

/-- A name in front of white space and a mark. -/
lemma tokensFrom_word (whole : List Char) {s : String} (hs : isName s.toList) {blanks : List Char}
    (hblanks : IsBlankText blanks) {c : Char} (hc : isNameCharacter c = false) :
    tokensFrom whole (s.toList ++ (blanks ++ c :: cs)) =
      (tokensFrom whole (c :: cs)).map (.name s :: ·) := by
  have hdrop : (blanks ++ c :: cs).dropWhile isNameCharacter = blanks ++ c :: cs := by
    simpa using (takeWhile_dropWhile_append [] (hblanks.apart hc)).2
  rw [tokensFrom_name whole hs hdrop, tokensFrom_blankText whole hblanks]

end Blank

/-! ### Tails -/

/-- The text can stand behind a call without a change of what is called: it is white space or a call
of `descending`, and no part of a name, a quoted text or a marker. -/
structure IsTail (cs : List Char) : Prop where
  plain  : IsPlain cs
  apart  : ∀ c ∈ cs.head?, isNameCharacter c = false
  tokens : ∃ ts, (∀ whole, tokensFrom whole cs = .ok ts) ∧
    (ts = [] ∨ ∃ value, DescendingTokens value ts)

section Tails

variable {cs tail : List Char} {contents : List (List Char)} {custom : List String}
  {calls : CallSets} {ts : List Token} {e : Expression}

lemma IsBlankText.isTail (h : IsBlankText cs) : IsTail cs where
  plain  := h.isPlain
  apart  := fun c hc => (plain_of_isBlank (h c (List.mem_of_head? hc))).2.2.2
  tokens := by
    refine ⟨[], fun whole => ?_, .inl rfl⟩
    have hcs := tokensFrom_blankText whole h []
    rwa [List.append_nil, tokensFrom] at hcs

lemma IsTail.after_append_iff (h : IsTail tail) :
    QuoteState.outside.after (cs ++ tail) = .outside ↔ QuoteState.outside.after cs = .outside :=
  QuoteState.after_append_eq_outside_iff fun c hc => (h.plain c hc).2.2

/-- Tokens of an expression stand for what the expression denotes. -/
lemma isCall_iff (hts : tokens cs = .ok ts) (he : Derives e ts) :
    IsCall custom cs calls ↔ e.call custom = .ok calls := by
  constructor
  · rintro ⟨ts', e', hts', he', hcall⟩
    obtain rfl : ts' = ts := Except.ok.inj (hts'.symm.trans hts)
    have hread := readExpression_of_expressionTokens he.expressionTokens
    rw [readExpression_of_expressionTokens he'.expressionTokens] at hread
    rwa [← Except.ok.inj hread]
  · exact fun hcall => ⟨ts, e, hts, he, hcall⟩

/-- The expression of a text without its tail denotes what the expression of the whole text denotes,
except that a call of `descending` in the tail may lack its truth value. -/
lemma exists_of_tokens_append (htail : IsTail tail) (hts : tokens (cs ++ tail) = .ok ts)
    (he : Derives e ts) :
    ∃ us e', tokens cs = .ok us ∧ Derives e' us ∧ e'.callee = e.callee ∧
      ∀ custom calls, e.call custom = .ok calls ↔
        e.methods.getLast? ≠ some (descending none) ∧ e'.call custom = .ok calls := by
  have hquotes := htail.after_append_iff.1 (after_of_tokensFrom hts)
  obtain ⟨us, vs, hus, hvs, rfl⟩ := (tokensFrom_append_eq_ok_iff _ cs hquotes htail.apart).1 hts
  obtain ⟨vs', hvs', hkind⟩ := htail.tokens
  obtain rfl : vs = vs' := Except.ok.inj (hvs.symm.trans (hvs' _))
  obtain rfl | ⟨value, hdescending⟩ := hkind
  · rw [List.append_nil] at he
    refine ⟨us, e, hus, he, rfl, fun custom calls => (and_iff_right_of_imp fun hcall => ?_).symm⟩
    exact getLast?_methods_of_call hcall
  · obtain ⟨callee, a, methods⟩ := e
    obtain ⟨ms, rfl, he'⟩ := he.exists_descending hdescending
    refine ⟨us, _, hus, he', rfl, fun custom calls => ?_⟩
    rw [call_descending_eq_ok_iff]
    cases value <;> simp [descending]

/-- A call with a tail is the call without it. -/
lemma IsCall.of_append (htail : IsTail tail) (h : IsCall custom (cs ++ tail) calls) :
    IsCall custom cs calls := by
  obtain ⟨ts, e, hts, he, hcalls⟩ := h
  obtain ⟨us, e', hus, he', -, hcall⟩ := exists_of_tokens_append htail hts he
  exact ⟨us, e', hus, he', ((hcall _ _).1 hcalls).2⟩

/-! ### Markers in front of a tail -/

/-- A tail cannot hold the end of a content. -/
lemma exists_of_append_eq_closing {call ignored : List Char} (htail : '}' ∉ tail)
    (h : cs ++ tail = call ++ closing ++ ignored) :
    ∃ more, cs = call ++ closing ++ more ∧ ignored = more ++ tail := by
  have h' : cs ++ tail = call ++ ['}'] ++ '}' :: ignored := by simpa [closing] using h
  obtain ⟨more, hcs, hrest⟩ := exists_of_append_eq_right htail h'
  exact ⟨more, by simpa [closing] using hcs, hrest⟩

/-- No marker reaches into text without closing braces. -/
lemma Marked.of_append (htail : '}' ∉ tail) (h : Marked contents (cs ++ tail)) :
    Marked contents cs := by
  induction contents generalizing cs with
  | nil =>
    generalize hwhole : cs ++ tail = whole at h
    cases h with
    | text h =>
      subst hwhole
      exact .text fun hin => h (hin.trans (List.prefix_append cs tail).isInfix)
  | cons content contents ih =>
    generalize hwhole : cs ++ tail = whole at h
    cases h with
    | @marker text content rest contents htext hcontent hrest =>
      obtain ⟨more, rfl, rfl⟩ := exists_of_append_eq_closing htail hwhole
      exact .marker htext hcontent (ih hrest)

/-- Where a content ends behind a tail, it also ends in front of the tail. -/
lemma IsContentFrom.of_append (htail : IsTail tail)
    (h : IsContentFrom .outside (cs ++ tail ++ [' '])) : IsContentFrom .outside (cs ++ [' ']) := by
  have hquotes := htail.after_append_iff.1 (QuoteState.after_append_blank_iff.1 h.outside)
  refine ⟨QuoteState.after_append_blank_iff.2 hquotes, fun before rest heq hbefore => ?_⟩
  have heq' : cs ++ ' ' :: closing = before ++ closing ++ rest := by simpa using heq
  obtain ⟨ignored, hcs, -⟩ | ⟨hbefore, -⟩ := append_closing_cases heq'
  · have hshort := h.first before (ignored ++ tail ++ ' ' :: closing) (by simp [hcs]) hbefore
    have hlength := congrArg List.length hshort
    simp only [hcs, List.length_append, List.length_singleton] at hlength
    omega
  · exact hbefore

end Tails

/-! ### Items -/

section Items

variable {custom : List String} {calls : CallSets} {item : String} {cs tail : List Char}

/-- An item with markers of its own stands for the calls in them. -/
lemma parseGroupBy_marked_iff (hmark : hasMarker item.toList) :
    parseGroupBy custom item = .ok calls ↔
      ∃ contents, Marked contents item.toList ∧ contentCalls custom contents = .ok calls := by
  rw [parseGroupBy, groupByTemplate, if_pos hmark, parseTemplate_eq_ok_iff, templateCalls,
    bind_eq_ok_iff]
  simp only [markers, markersFrom_eq_ok_iff]

/-- An item without markers stands for the call that is the whole item, or for the one in front of
the first closing braces. -/
lemma parseGroupBy_bare_iff (hbare : hasMarker item.toList = false) :
    parseGroupBy custom item = .ok calls ↔
      (IsContentFrom .outside (item.toList ++ [' ']) ∧ IsCall custom item.toList calls) ∨
      ∃ call ignored, item.toList = call ++ closing ++ ignored ∧ IsContentFrom .outside call ∧
        IsCall custom call calls := by
  have hblank {content : List Char} (hcontent : IsContentFrom .outside content) :
      contentCalls custom [' ' :: content] = .ok calls ↔ IsCall custom content calls := by
    rw [contentCalls_eq_ok_iff_isCall, isCall_blank_iff hcontent.outside]
  have hwhole (hcontent : IsContentFrom .outside (item.toList ++ [' '])) :
      IsCall custom (item.toList ++ [' ']) calls ↔ IsCall custom item.toList calls :=
    isCall_append_blank_iff (QuoteState.after_append_blank_iff.1 hcontent.outside)
  rw [parseGroupBy, parseTemplate_eq_ok_iff, templateCalls, bind_eq_ok_iff]
  constructor
  · rintro ⟨contents, hcontents, hcalls⟩
    obtain ⟨rfl, hcontent⟩ | ⟨call, ignored, rfl, hitem, hcall⟩ :=
      (markers_groupByTemplate_eq_ok_iff hbare).1 hcontents
    · exact .inl ⟨hcontent, (hwhole hcontent).1 ((hblank hcontent).1 hcalls)⟩
    · exact .inr ⟨call, ignored, hitem, hcall, (hblank hcall).1 hcalls⟩
  · rintro (⟨hcontent, hcalls⟩ | ⟨call, ignored, hitem, hcall, hcalls⟩)
    · have hcontents := (markers_groupByTemplate_eq_ok_iff hbare).2 (.inl ⟨rfl, hcontent⟩)
      exact ⟨_, hcontents, (hblank hcontent).2 ((hwhole hcontent).2 hcalls)⟩
    · have hcontents := (markers_groupByTemplate_eq_ok_iff hbare).2
        (.inr ⟨call, ignored, rfl, hitem, hcall⟩)
      exact ⟨_, hcontents, (hblank hcall).2 hcalls⟩

/-- A text without markers and closing braces is read whole. -/
lemma parseGroupBy_eq_ok_iff_isCall (hopen : ¬opening <:+: item.toList)
    (hclose : ¬closing <:+: item.toList) :
    parseGroupBy custom item = .ok calls ↔ IsCall custom item.toList calls := by
  rw [parseGroupBy_bare_iff (hasMarker_eq_false_iff.2 hopen)]
  constructor
  · rintro (⟨-, hcall⟩ | ⟨call, ignored, hitem, -⟩)
    · exact hcall
    · exact absurd ⟨call, ignored, hitem.symm⟩ hclose
  · intro hcall
    have hquotes : QuoteState.outside.after item.toList = .outside := by
      obtain ⟨ts, -, hts, -⟩ := hcall
      exact after_of_tokensFrom hts
    refine .inl ⟨⟨QuoteState.after_append_blank_iff.2 hquotes, fun before rest heq _ => ?_⟩, hcall⟩
    have heq' : item.toList ++ ' ' :: closing = before ++ closing ++ rest := by simpa using heq
    obtain ⟨ignored, hitem, -⟩ | ⟨hbefore, -⟩ := append_closing_cases heq'
    · exact absurd ⟨before, ignored, hitem.symm⟩ hclose
    · exact hbefore

/-- An item with a tail is the item without it. -/
theorem parseGroupBy_of_append (htail : IsTail tail) (hcalls : calls ≠ .empty)
    (h : parseGroupBy custom (String.ofList (cs ++ tail)) = .ok calls) :
    parseGroupBy custom (String.ofList cs) = .ok calls := by
  have hbrace : '}' ∉ tail := fun hmem => (htail.plain _ hmem).2.1 rfl
  cases hmark : hasMarker (cs ++ tail) with
  | true =>
    obtain ⟨contents, hmarked, hcontents⟩ :=
      (parseGroupBy_marked_iff (by rwa [String.toList_ofList])).1 h
    rw [String.toList_ofList] at hmarked
    have hfront := hmarked.of_append hbrace
    have hmark' : hasMarker cs := by
      by_contra hbare
      rw [Bool.not_eq_true, hasMarker_eq_false_iff] at hbare
      obtain rfl := hfront.eq_nil hbare
      exact hcalls (Except.ok.inj hcontents).symm
    rw [parseGroupBy_marked_iff (by rwa [String.toList_ofList]), String.toList_ofList]
    exact ⟨contents, hfront, hcontents⟩
  | false =>
    have hbare : hasMarker cs = false := by
      rw [hasMarker_eq_false_iff] at hmark ⊢
      exact fun hin => hmark (hin.trans (List.prefix_append cs tail).isInfix)
    rw [parseGroupBy_bare_iff (by rwa [String.toList_ofList]), String.toList_ofList] at h
    rw [parseGroupBy_bare_iff (by rwa [String.toList_ofList]), String.toList_ofList]
    obtain ⟨hcontent, hcall⟩ | ⟨call, ignored, hitem, hcontent, hcall⟩ := h
    · exact .inl ⟨hcontent.of_append htail, hcall.of_append htail⟩
    · obtain ⟨more, hcs, -⟩ := exists_of_append_eq_closing hbrace hitem
      exact .inr ⟨call, more, hcs, hcontent, hcall⟩

end Items

end SemanticLayer.Filter

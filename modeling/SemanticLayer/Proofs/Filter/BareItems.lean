import Mathlib.Data.List.Induction
import SemanticLayer.Proofs.Filter.Derivation
import SemanticLayer.Proofs.Filter.Spans

/-!
# Group-by items without markers

A group-by item that comes without a marker is put into one, and the template that this makes is
scanned like any other. The scanner does not know where the item ends, so two closing braces in the
item end the marker early, unless they stand between quotes. What stands behind them is then outside
the marker and is not looked at: `parseGroupBy_bare`.
-/

namespace SemanticLayer.Filter

/-! ### Quotes -/

namespace QuoteState

variable {cs : List Char} {q : Char}

/-- Only quotation marks lead into quotes. -/
lemma isQuote_of_after (h : outside.after cs = inside q ∨ outside.after cs = escaped q) :
    isQuote q := by
  induction cs using List.reverseRecOn generalizing q with
  | nil => simp at h
  | append_singleton cs c ih =>
    rw [after_append, after_cons, after_nil] at h
    cases hs : outside.after cs with
    | outside =>
      by_cases hc : isQuote c
      · have hq : c = q := by simpa [hs, next, hc] using h
        rwa [← hq]
      · simp [hs, next, hc] at h
    | inside r =>
      have hq : r = q := by
        simp only [hs, next] at h
        split_ifs at h <;> simp_all
      exact ih (.inl (hq ▸ hs))
    | escaped r =>
      have hq : r = q := by simpa [hs, next] using h
      exact ih (.inr (hq ▸ hs))

/-- A character that is no quotation mark does not end quotes. -/
lemma after_append_singleton_iff {c : Char} (hc : isQuote c = false) :
    outside.after (cs ++ [c]) = outside ↔ outside.after cs = outside := by
  rw [after_append, after_cons, after_nil]
  cases hs : outside.after cs with
  | outside => simp [next, hc]
  | inside q =>
    have hq : c ≠ q := by
      rintro rfl
      simp [isQuote_of_after (.inl hs)] at hc
    by_cases hescape : c = '\\' <;> simp [next, hq, hescape]
  | escaped q => simp [next]

/-- Text without quotation marks does not end quotes. -/
lemma after_append_eq_outside_iff {ds : List Char} (hds : ∀ d ∈ ds, isQuote d = false) :
    outside.after (cs ++ ds) = outside ↔ outside.after cs = outside := by
  induction ds generalizing cs with
  | nil => rw [List.append_nil]
  | cons d ds ih =>
    obtain ⟨hd, hds⟩ := List.forall_mem_cons.1 hds
    rw [List.append_cons, ih hds, after_append_singleton_iff hd]

/-- A blank does not end quotes. -/
lemma after_append_blank_iff :
    outside.after (cs ++ [' ']) = outside ↔ outside.after cs = outside :=
  after_append_singleton_iff (by decide)

end QuoteState

/-! ### Tokens of texts put together -/

section Tokens

variable {q : Char} {cs ds whole : List Char} {ts : List Token}

/-- Between quotes a character that is not a backslash ends the text or belongs to it. -/
lemma readQuoted?_cons {c : Char} (h : c ≠ '\\') : readQuoted? q (c :: cs) =
    if c == q then some ([], cs) else (readQuoted? q cs).map (onBefore [c]) := by
  rw [readQuoted?]
  · rintro rfl
    exact absurd rfl h
  · rintro d after rfl
    exact absurd rfl h

/-- A quoted text ends where it ends, whatever follows. -/
lemma readQuoted?_append {text rest : List Char} (h : readQuoted? q cs = some (text, rest))
    (ds : List Char) : readQuoted? q (cs ++ ds) = some (text, rest ++ ds) := by
  fun_induction readQuoted? q cs generalizing text rest with
  | case1 => simp at h
  | case2 => simp at h
  | case3 c cs ih =>
    obtain ⟨inner, hinner, rfl⟩ := map_onBefore_eq_some_iff.1 h
    rw [List.cons_append, List.cons_append, readQuoted?]
    exact map_onBefore_eq_some_iff.2 ⟨inner, ih hinner, rfl⟩
  | case4 c cs hsingle hescape hc =>
    obtain ⟨rfl, rfl⟩ : [] = text ∧ cs = rest := by simpa using h
    rw [List.cons_append, readQuoted?_cons (ne_backslash hsingle hescape), if_pos hc]
  | case5 c cs hsingle hescape hc ih =>
    obtain ⟨inner, hinner, rfl⟩ := map_onBefore_eq_some_iff.1 h
    rw [List.cons_append, readQuoted?_cons (ne_backslash hsingle hescape), if_neg hc]
    exact map_onBefore_eq_some_iff.2 ⟨inner, ih hinner, rfl⟩

lemma takeWhile_dropWhile_append {α : Type} {p : α → Bool} (as : List α) {bs : List α}
    (h : ∀ b ∈ bs.head?, p b = false) :
    (as ++ bs).takeWhile p = as.takeWhile p ∧ (as ++ bs).dropWhile p = as.dropWhile p ++ bs := by
  induction as with
  | nil =>
    cases bs with
    | nil => simp
    | cons b bs => simp [h b rfl]
  | cons a as ih =>
    by_cases ha : p a
    · simp [ha, ih]
    · simp [ha]

/-- One token more stands in front of what was read. -/
lemma map_cons_eq_ok_iff {α ε : Type} {x y z : Except ε (List α)} {a : α}
    (h : ∀ ts, x = .ok ts ↔ ∃ us vs, y = .ok us ∧ z = .ok vs ∧ ts = us ++ vs) (ts : List α) :
    x.map (a :: ·) = .ok ts ↔
      ∃ us vs, y.map (a :: ·) = .ok us ∧ z = .ok vs ∧ ts = us ++ vs := by
  have hx : x.map (a :: ·) = .ok ts ↔ ∃ ts', x = .ok ts' ∧ ts = a :: ts' := map_eq_ok_iff
  have hy (us : List α) : y.map (a :: ·) = .ok us ↔ ∃ us', y = .ok us' ∧ us = a :: us' :=
    map_eq_ok_iff
  simp only [hx, hy, h]
  constructor
  · rintro ⟨ts', ⟨us, vs, hus, hvs, rfl⟩, rfl⟩
    exact ⟨a :: us, vs, ⟨us, hus, rfl⟩, hvs, rfl⟩
  · rintro ⟨us, vs, ⟨us', hus', rfl⟩, hvs, rfl⟩
    exact ⟨us' ++ vs, ⟨us', vs, hus', hvs, rfl⟩, rfl⟩

/-- Where quotes are closed and no name goes on between two texts, the tokens of both are those of
the first and those of the second. -/
lemma tokensFrom_append_eq_ok_iff (whole whole' : List Char)
    (hcs : QuoteState.outside.after cs = .outside)
    (hds : ∀ d ∈ ds.head?, isNameCharacter d = false) :
    tokensFrom whole (cs ++ ds) = .ok ts ↔
      ∃ us vs, tokensFrom whole' cs = .ok us ∧ tokensFrom whole ds = .ok vs ∧ ts = us ++ vs := by
  fun_induction tokensFrom whole' cs generalizing ts with
  | case1 => simp
  | case2 c cs hblank ih =>
    rw [QuoteState.after_outside_cons (isQuote_eq_false_of_isBlank hblank)] at hcs
    rw [List.cons_append, tokensFrom, if_pos hblank]
    exact ih hcs
  | case3 c cs hblank token hmark ih =>
    rw [QuoteState.after_outside_cons (isQuote_eq_false_of_ofMark? hmark)] at hcs
    rw [List.cons_append, tokensFrom, if_neg hblank]
    simp only [hmark]
    exact map_cons_eq_ok_iff (fun _ => ih hcs) ts
  | case4 c cs hblank hmark hquote hnone =>
    rw [QuoteState.after_outside_quote hquote] at hcs
    obtain ⟨text, rest, hsome, -⟩ := exists_readQuoted?_eq_some hquote hcs
    simp [hsome] at hnone
  | case5 c cs hblank hmark hquote text rest hsome ih =>
    rw [QuoteState.after_outside_quote hquote] at hcs
    rw [List.cons_append, tokensFrom_text hquote (readQuoted?_append hsome ds)]
    exact map_cons_eq_ok_iff (fun _ => ih (after_of_readQuoted? hquote hcs hsome)) ts
  | case6 c cs hblank hmark hquote hname ih =>
    rw [QuoteState.after_outside_cons (by simpa using hquote),
      ← after_dropWhile_isNameCharacter] at hcs
    obtain ⟨htake, hdrop⟩ := takeWhile_dropWhile_append cs hds
    rw [List.cons_append, tokensFrom]
    simp only [hblank, hmark, hquote, hname, htake, hdrop, if_true, Bool.false_eq_true, if_false]
    exact map_cons_eq_ok_iff (fun _ => ih hcs) ts
  | case7 c cs hblank hmark hquote hname =>
    rw [List.cons_append, tokensFrom]
    simp [hblank, hmark, hquote, hname]

/-- A blank in front of a text does not count. -/
lemma tokens_blank_eq_ok_iff (hcs : QuoteState.outside.after cs = .outside) :
    tokens (' ' :: cs) = .ok ts ↔ tokens cs = .ok ts := by
  have hfirst : tokens (' ' :: cs) = tokensFrom (' ' :: cs) (cs ++ []) := by
    rw [tokens, tokensFrom, if_pos (by decide), List.append_nil]
  have hnil (whole : List Char) : tokensFrom whole [] = .ok [] := by
    rw [tokensFrom]
  rw [hfirst, tokensFrom_append_eq_ok_iff _ cs hcs (by simp), hnil, tokens]
  simp

/-- A blank behind a text does not count. -/
lemma tokens_append_blank_eq_ok_iff (hcs : QuoteState.outside.after cs = .outside) :
    tokens (cs ++ [' ']) = .ok ts ↔ tokens cs = .ok ts := by
  have hblank (whole : List Char) : tokensFrom whole [' '] = .ok [] := by
    rw [tokensFrom, if_pos (by decide), tokensFrom]
  have hend : ∀ d ∈ [' '].head?, isNameCharacter d = false := by
    rintro _ ⟨⟩
    decide
  rw [tokens, tokensFrom_append_eq_ok_iff _ cs hcs hend, hblank, tokens]
  simp

/-- There is no token for a closing brace outside quotes. -/
lemma tokens_ne_ok_of_brace (hcs : QuoteState.outside.after cs = .outside) :
    tokens (cs ++ '}' :: ds) ≠ .ok ts := by
  have hbrace (whole : List Char) : tokensFrom whole ('}' :: ds) =
      .error (.unexpectedCharacter '}' (placeOf whole ('}' :: ds))) := by
    rw [tokensFrom]
    rfl
  have hend : ∀ d ∈ ('}' :: ds).head?, isNameCharacter d = false := by
    rintro _ ⟨⟩
    decide
  intro h
  obtain ⟨us, vs, -, hvs, -⟩ := (tokensFrom_append_eq_ok_iff _ cs hcs hend).1 h
  simp [hbrace] at hvs

end Tokens

/-! ### Items in a marker -/

section Markers

variable {cs content rest call : List Char} {contents : List (List Char)} {item : String}

lemma hasMarker_eq_false_iff : hasMarker cs = false ↔ ¬opening <:+: cs := by
  fun_induction hasMarker cs with
  | case1 cs => exact iff_of_false (by simp) (not_not.2 ⟨[], cs, rfl⟩)
  | case2 c cs hopen ih =>
    rw [ih, List.infix_cons_iff, not_or]
    refine (and_iff_right ?_).symm
    rintro ⟨after, heq⟩
    obtain ⟨hc, hcs⟩ : '\x7b' = c ∧ '\x7b' :: after = cs := by simpa [opening] using heq
    exact hopen after hc.symm hcs.symm
  | case3 => exact iff_of_true rfl (by decide)

/-- The braces that close a marker open none behind a blank. -/
lemma not_opening_append (h : ¬opening <:+: cs) : ¬opening <:+: cs ++ ' ' :: closing := by
  induction cs with
  | nil => decide
  | cons c cs ih =>
    rw [List.infix_cons_iff, not_or] at h
    rw [List.cons_append, List.infix_cons_iff, not_or]
    refine ⟨fun hopen => h.1 ?_, ih h.2⟩
    cases cs with
    | nil => simp [opening, List.cons_prefix_cons] at hopen
    | cons d cs => simpa [opening, List.cons_prefix_cons] using hopen

lemma toList_groupByTemplate (hbare : hasMarker item.toList = false) :
    (groupByTemplate item).toList =
      opening ++ ' ' :: (item.toList ++ [' ']) ++ closing := by
  rw [groupByTemplate, hbare]
  simp [opening, closing]

/-- A content goes on behind a blank. -/
lemma isContentFrom_blank_iff :
    IsContentFrom .outside (' ' :: content) ↔ IsContentFrom .outside content := by
  rw [isContentFrom_cons]
  refine and_iff_right ?_
  rintro ⟨-, hclosing⟩
  simp [closing, List.cons_prefix_cons] at hclosing

/-- Closing braces in a text with a blank and closing braces behind it stand in the text, or they
are those behind the blank. -/
lemma append_closing_cases (h : cs ++ ' ' :: closing = content ++ closing ++ rest) :
    (∃ ignored, cs = content ++ closing ++ ignored ∧ rest = ignored ++ ' ' :: closing) ∨
      content = cs ++ [' '] ∧ rest = [] := by
  obtain ⟨as, hcontent, hrest⟩ | ⟨ignored, hcs, hrest⟩ := List.append_eq_append_iff.1 h
  · -- closing braces that reach behind `cs` would hold the blank, unless they start behind it
    rcases as with _ | ⟨a, _ | ⟨b, _ | ⟨c, as⟩⟩⟩
    · exact .inl ⟨[], by simpa using hcontent.symm, by simpa using hrest.symm⟩
    · obtain ⟨rfl, -⟩ : ' ' = a ∧ closing = rest := by simpa using hrest
      have hlast := congrArg List.getLast? hcontent
      simp [closing] at hlast
    · obtain ⟨rfl, rfl, -⟩ : ' ' = a ∧ '}' = b ∧ ['}'] = rest := by simpa [closing] using hrest
      exact absurd (List.append_inj' hcontent rfl).2 (by decide)
    · obtain ⟨rfl, rfl, rfl, rfl, rfl⟩ :
          ' ' = a ∧ '}' = b ∧ '}' = c ∧ as = [] ∧ rest = [] := by simpa [closing] using hrest
      have hcontent' : content ++ closing = cs ++ [' '] ++ closing := by
        simpa [closing] using hcontent
      exact .inr ⟨List.append_cancel_right hcontent', rfl⟩
  · exact .inl ⟨ignored, hcs, hrest⟩

/-- Where no marker opens there is none. -/
lemma Marked.eq_nil (h : Marked contents cs) (hnone : ¬opening <:+: cs) : contents = [] := by
  cases h with
  | text => rfl
  | @marker text content rest =>
    exact absurd ⟨text, content ++ closing ++ rest, by simp⟩ hnone

/-- The marker around an item holds the whole item, or the part in front of the first two closing
braces outside quotes. -/
lemma markers_groupByTemplate_eq_ok_iff (hbare : hasMarker item.toList = false) :
    markers (groupByTemplate item) = .ok contents ↔
      (contents = [' ' :: (item.toList ++ [' '])] ∧
        IsContentFrom .outside (item.toList ++ [' '])) ∨
      ∃ call ignored, contents = [' ' :: call] ∧ item.toList = call ++ closing ++ ignored ∧
        IsContentFrom .outside call := by
  have hnone : ¬opening <:+: item.toList ++ ' ' :: closing :=
    not_opening_append (hasMarker_eq_false_iff.1 hbare)
  rw [markers, markersFrom_eq_ok_iff, toList_groupByTemplate hbare, List.append_assoc,
    Marked.opening_iff]
  constructor
  · rintro ⟨content, contents', rest, rfl, heq, hcontent, hrest⟩
    -- the blank in front closes nothing, so the content goes on behind it
    obtain ⟨content, rfl⟩ : ∃ content', content = ' ' :: content' := by
      cases content with
      | nil => simp [closing] at heq
      | cons c content =>
        obtain ⟨rfl, -⟩ := List.cons.inj heq
        exact ⟨content, rfl⟩
    rw [isContentFrom_blank_iff] at hcontent
    have heq' : item.toList ++ ' ' :: closing = content ++ closing ++ rest := by
      simpa using heq
    obtain rfl : contents' = [] :=
      hrest.eq_nil fun hin => hnone (hin.trans ⟨content ++ closing, [], by simp [heq']⟩)
    obtain ⟨ignored, hitem, -⟩ | ⟨rfl, -⟩ := append_closing_cases heq'
    · exact .inr ⟨content, ignored, rfl, hitem, hcontent⟩
    · exact .inl ⟨rfl, hcontent⟩
  · rintro (⟨rfl, hcontent⟩ | ⟨call, ignored, rfl, hitem, hcontent⟩)
    · exact ⟨_, [], [], rfl, by simp, isContentFrom_blank_iff.2 hcontent, .text (by decide)⟩
    · refine ⟨_, [], ignored ++ ' ' :: closing, rfl, by simp [hitem],
        isContentFrom_blank_iff.2 hcontent, .text fun hin => hnone ?_⟩
      exact hin.trans ⟨call ++ closing, [], by simp [hitem]⟩

end Markers

/-! ### Calls -/

variable {custom : List String} {calls : CallSets} {cs : List Char} {item : String}

/-- The text is one call expression, and `calls` is what it stands for. -/
def IsCall (custom : List String) (cs : List Char) (calls : CallSets) : Prop :=
  ∃ ts e, tokens cs = .ok ts ∧ Derives e ts ∧ e.call custom = .ok calls

lemma contentCalls_eq_ok_iff_isCall :
    contentCalls custom [cs] = .ok calls ↔ IsCall custom cs calls := by
  simp only [contentCalls_singleton, contentCall, bind_eq_ok_iff, IsCall]
  constructor
  · rintro ⟨ts, hts, e, he, hcalls⟩
    exact ⟨ts, e, hts, derives_of_readExpression he, hcalls⟩
  · rintro ⟨ts, e, hts, he, hcalls⟩
    exact ⟨ts, hts, e, readExpression_of_expressionTokens he.expressionTokens, hcalls⟩

lemma isCall_blank_iff (hcs : QuoteState.outside.after cs = .outside) :
    IsCall custom (' ' :: cs) calls ↔ IsCall custom cs calls := by
  simp only [IsCall, tokens_blank_eq_ok_iff hcs]

lemma isCall_append_blank_iff (hcs : QuoteState.outside.after cs = .outside) :
    IsCall custom (cs ++ [' ']) calls ↔ IsCall custom cs calls := by
  simp only [IsCall, tokens_append_blank_eq_ok_iff hcs]

/-- The marker around an item without one is a marker around all of it. But the item is read whole,
as the content of that marker, only if it has no two closing braces outside quotes. Else the part in
front of the first two is read and nothing behind them: such an item is accepted for that part
alone, though it has no tokens itself. -/
theorem parseGroupBy_bare (hbare : hasMarker item.toList = false) :
    (groupByTemplate item).toList = opening ++ ' ' :: (item.toList ++ [' ']) ++ closing ∧
    (parseGroupBy custom item = .ok calls ↔
      (markers (groupByTemplate item) = .ok [' ' :: (item.toList ++ [' '])] ∧
        IsCall custom item.toList calls) ∨
      ∃ call ignored, markers (groupByTemplate item) = .ok [' ' :: call] ∧
        item.toList = call ++ closing ++ ignored ∧ IsContentFrom .outside call ∧
        IsCall custom call calls ∧ ∀ ts, tokens item.toList ≠ .ok ts) := by
  refine ⟨toList_groupByTemplate hbare, ?_⟩
  rw [parseGroupBy, parseTemplate_eq_ok_iff, templateCalls, bind_eq_ok_iff]
  constructor
  · rintro ⟨contents, hcontents, hcalls⟩
    obtain ⟨rfl, hwhole⟩ | ⟨call, ignored, rfl, hitem, hcall⟩ :=
      (markers_groupByTemplate_eq_ok_iff hbare).1 hcontents
    · -- quotes are closed at the end of the item, so the blanks around it do not count
      have hitem := QuoteState.after_append_blank_iff.1 hwhole.outside
      rw [contentCalls_eq_ok_iff_isCall, isCall_blank_iff hwhole.outside,
        isCall_append_blank_iff hitem] at hcalls
      exact .inl ⟨hcontents, hcalls⟩
    · rw [contentCalls_eq_ok_iff_isCall, isCall_blank_iff hcall.outside] at hcalls
      refine .inr ⟨call, ignored, hcontents, hitem, hcall, hcalls, fun ts => ?_⟩
      rw [hitem, List.append_assoc]
      exact tokens_ne_ok_of_brace hcall.outside
  · rintro (⟨hcontents, hcalls⟩ | ⟨call, ignored, hcontents, -, hcall, hcalls, -⟩)
    · have hmarked := markersFrom_eq_ok_iff.1 hcontents
      have hwhole := isContentFrom_blank_iff.1 (hmarked.isContentFrom_of_mem List.mem_cons_self)
      have hitem := QuoteState.after_append_blank_iff.1 hwhole.outside
      refine ⟨_, hcontents, ?_⟩
      rwa [contentCalls_eq_ok_iff_isCall, isCall_blank_iff hwhole.outside,
        isCall_append_blank_iff hitem]
    · refine ⟨_, hcontents, ?_⟩
      rwa [contentCalls_eq_ok_iff_isCall, isCall_blank_iff hcall.outside]

/-- A call with closing braces in quotes. -/
def quotedItem : String := "Metric('\x7d\x7d', ['visit'])"

/-- An item with closing braces in quotes is read whole. -/
theorem parseGroupBy_quotedItem :
    hasMarker quotedItem.toList = false ∧
      parseGroupBy [] quotedItem = .ok (.ofMetric ⟨"\x7d\x7d", ["visit"]⟩) := by
  have hbare : hasMarker quotedItem.toList = false := by decide +kernel
  have hclose : closeMarker? none (quotedItem.toList ++ [' '] ++ closing) =
      some (quotedItem.toList ++ [' '], []) := by decide +kernel
  have htokens : tokens quotedItem.toList = .ok [.name "Metric", .leftParen, .text "\x7d\x7d",
      .comma, .leftBracket, .text "visit", .rightBracket, .rightParen] := by decide +kernel
  refine ⟨hbare, (parseGroupBy_bare hbare).2.2 (.inl ⟨?_, ?_⟩)⟩
  · exact (markers_groupByTemplate_eq_ok_iff hbare).2
      (.inl ⟨rfl, (closeMarker?_none_eq_some_iff.1 hclose).2⟩)
  · exact ⟨_, ⟨.metric, ⟨[.text "\x7d\x7d", .list [.text "visit"]], []⟩, []⟩, htokens,
      derives_of_readExpression (by cbv), by decide +kernel⟩

/-- A call with closing braces and more behind it. -/
def cutItem : String := "Metric('seen', ['visit']) \x7d\x7d by day"

/-- An item is accepted though it has no tokens: what stands behind the call in it is lost. -/
theorem parseGroupBy_cutItem :
    hasMarker cutItem.toList = false ∧
      parseGroupBy [] cutItem = .ok (.ofMetric ⟨"seen", ["visit"]⟩) ∧
      markers (groupByTemplate cutItem) = .ok [" Metric('seen', ['visit']) ".toList] ∧
      tokens cutItem.toList = .error (.unexpectedCharacter '\x7d' 26) := by
  have hbare : hasMarker cutItem.toList = false := by decide +kernel
  have hclose : closeMarker? none cutItem.toList =
      some ("Metric('seen', ['visit']) ".toList, " by day".toList) := by decide +kernel
  have htokens : tokens " Metric('seen', ['visit']) ".toList = .ok [.name "Metric", .leftParen,
      .text "seen", .comma, .leftBracket, .text "visit", .rightBracket, .rightParen] := by
    decide +kernel
  have hcall : contentCalls [] [" Metric('seen', ['visit']) ".toList] =
      .ok (.ofMetric ⟨"seen", ["visit"]⟩) :=
    contentCalls_eq_ok_iff_isCall.2 ⟨_, ⟨.metric, ⟨[.text "seen", .list [.text "visit"]], []⟩, []⟩,
      htokens, derives_of_readExpression (by cbv), by decide +kernel⟩
  have hmarkers : markers (groupByTemplate cutItem) =
      .ok [" Metric('seen', ['visit']) ".toList] := by
    obtain ⟨hitem, hcontent⟩ := closeMarker?_none_eq_some_iff.1 hclose
    exact (markers_groupByTemplate_eq_ok_iff hbare).2 (.inr ⟨_, _, rfl, hitem, hcontent⟩)
  refine ⟨hbare, ?_, hmarkers, by decide +kernel⟩
  rw [parseGroupBy, parseTemplate_eq_ok_iff]
  exact bind_eq_ok_iff.2 ⟨_, hmarkers, hcall⟩

end SemanticLayer.Filter

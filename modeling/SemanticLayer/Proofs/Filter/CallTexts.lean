import SemanticLayer.Proofs.Filter.Tails

/-!
# How calls are written

A text that stands for a call starts with the name of what is called and holds an opening
parenthesis. If the call is accepted there is a quotation mark too, for every call names its element
by a text.
-/

namespace SemanticLayer.Filter

/-! ### Characters of tokens -/

/-- The token is read from a place where this character stands. -/
def Token.StartsWith (c : Char) : Token → Prop
  | .name _ => isNameStart c
  | .text _ => isQuote c
  | token   => Token.ofMark? c = some token

lemma Token.startsWith_of_ofMark? {c : Char} {token : Token} (h : Token.ofMark? c = some token) :
    token.StartsWith c := by
  cases token with
  | name s =>
    unfold Token.ofMark? at h
    split at h <;> simp at h
  | text s =>
    unfold Token.ofMark? at h
    split at h <;> simp at h
  | _ => exact h

lemma suffix_of_readQuoted? {q : Char} {cs text rest : List Char}
    (h : readQuoted? q cs = some (text, rest)) : rest <:+ cs := by
  fun_induction readQuoted? q cs generalizing text with
  | case1 => simp at h
  | case2 => simp at h
  | case3 c cs ih =>
    obtain ⟨inner, hinner, -⟩ := map_onBefore_eq_some_iff.1 h
    exact (ih hinner).trans (List.suffix_append ['\\', c] cs)
  | case4 c cs =>
    obtain ⟨-, rfl⟩ : [] = text ∧ cs = rest := by simpa using h
    exact List.suffix_cons c cs
  | case5 c cs _ _ _ ih =>
    obtain ⟨inner, hinner, -⟩ := map_onBefore_eq_some_iff.1 h
    exact (ih hinner).trans (List.suffix_cons c cs)

/-- Every token is read from a place in the text. -/
lemma exists_startsWith_of_tokensFrom {whole cs : List Char} {ts : List Token}
    (h : tokensFrom whole cs = .ok ts) {t : Token} (ht : t ∈ ts) : ∃ c ∈ cs, t.StartsWith c := by
  fun_induction tokensFrom whole cs generalizing ts with
  | case1 =>
    obtain rfl := Except.ok.inj h
    simp at ht
  | case2 c cs hblank ih =>
    obtain ⟨d, hd, hstart⟩ := ih h ht
    exact ⟨d, List.mem_cons_of_mem c hd, hstart⟩
  | case3 c cs hblank token hmark ih =>
    obtain ⟨us, hus, rfl⟩ := map_eq_ok_iff.1 h
    obtain rfl | ht := List.mem_cons.1 ht
    · exact ⟨c, List.mem_cons_self, Token.startsWith_of_ofMark? hmark⟩
    · obtain ⟨d, hd, hstart⟩ := ih hus ht
      exact ⟨d, List.mem_cons_of_mem c hd, hstart⟩
  | case4 => simp at h
  | case5 c cs hblank hmark hquote text rest hsome ih =>
    obtain ⟨us, hus, rfl⟩ := map_eq_ok_iff.1 h
    obtain rfl | ht := List.mem_cons.1 ht
    · exact ⟨c, List.mem_cons_self, hquote⟩
    · obtain ⟨d, hd, hstart⟩ := ih hus ht
      exact ⟨d, List.mem_cons_of_mem c ((suffix_of_readQuoted? hsome).mem hd), hstart⟩
  | case6 c cs hblank hmark hquote hname ih =>
    obtain ⟨us, hus, rfl⟩ := map_eq_ok_iff.1 h
    obtain rfl | ht := List.mem_cons.1 ht
    · exact ⟨c, List.mem_cons_self, hname⟩
    · obtain ⟨d, hd, hstart⟩ := ih hus ht
      exact ⟨d, List.mem_cons_of_mem c ((List.dropWhile_suffix _).mem hd), hstart⟩
  | case7 => simp at h

/-! ### Texts that name elements -/

section Names

variable {call required p s : String} {optional ps : List String} {a : Arguments}
  {values values' kvs : List (String × Literal)} {b : Bindings}

lemma eq_of_bindKeywords (h : bindKeywords call ps values kvs = .ok values') :
    values' = values ++ kvs := by
  induction kvs generalizing values with
  | nil =>
    rw [bindKeywords] at h
    simpa using (Except.ok.inj h).symm
  | cons kv kvs ih =>
    rw [bindKeywords] at h
    split_ifs at h
    rw [ih h, List.append_assoc, List.singleton_append]

/-- Only values of arguments are bound. -/
lemma mem_inOrder_of_bindArguments (h : bindArguments call required optional a = .ok b)
    {v : Literal} (hv : (p, v) ∈ b.values) : ∃ k, (k, v) ∈ a.inOrder := by
  unfold bindArguments at h
  dsimp only at h
  split_ifs at h
  split at h
  · contradiction
  · next values hvalues =>
    split_ifs at h
    obtain rfl := Except.ok.inj h
    rw [eq_of_bindKeywords hvalues, List.mem_append] at hv
    obtain hv | hv := hv
    · have hmem := (List.of_mem_zip hv).2
      exact ⟨none, List.mem_append_left _ (List.mem_map.2 ⟨v, hmem, rfl⟩)⟩
    · exact ⟨some p, List.mem_append_right _ (List.mem_map.2 ⟨(p, v), hv, rfl⟩)⟩

lemma mem_of_text (h : b.text p = .ok s) : (p, .text s) ∈ b.values := by
  unfold Bindings.text Bindings.text? at h
  split at h
  · contradiction
  · next s' htext =>
    obtain rfl := Except.ok.inj h
    split at htext
    · simp at htext
    · simp at htext
    · next s'' hlookup =>
      obtain rfl : s'' = s' := by simpa using htext
      obtain ⟨before, rest, heq, -⟩ := List.lookup_eq_some_iff.1 hlookup
      simp [heq]
    · contradiction
  · contradiction

/-- Every call names its element by a text. -/
lemma exists_text_of_call {custom : List String} {e : Expression} {calls : CallSets}
    (h : e.call custom = .ok calls) : ∃ k s, (k, .text s) ∈ e.arguments.inOrder := by
  have hname {call required : String} {optional : List String} {b : Bindings} {name : String}
      (hb : bindArguments call required optional e.arguments = .ok b)
      (hname : b.text required = .ok name) : ∃ k s, (k, .text s) ∈ e.arguments.inOrder := by
    obtain ⟨k, hk⟩ := mem_inOrder_of_bindArguments hb (mem_of_text hname)
    exact ⟨k, name, hk⟩
  unfold Expression.call at h
  split at h
  all_goals
    obtain ⟨b, hb, h⟩ := bind_eq_ok_iff.1 h
    obtain ⟨name, htext, -⟩ := bind_eq_ok_iff.1 h
    exact hname hb htext

lemma text_mem_of_listed {args : List (Option String × Literal)} {tss : List (List Token)}
    {ts : List Token} (h : List.Forall₂ DerivesArgument args tss) (hts : Listed tss ts)
    {k : Option String} (hs : (k, .text s) ∈ args) : .text s ∈ ts := by
  induction h generalizing ts with
  | nil => simp at hs
  | @cons arg us args tss hus hrest ih =>
    obtain rfl | hs := List.mem_cons.1 hs
    · have hfirst : .text s ∈ us := by
        cases hus with
        | positional h =>
          cases h
          simp
        | keyword k h =>
          cases h
          simp
      obtain ⟨-, rfl⟩ | ⟨us', -, rfl⟩ := listed_cons_iff.1 hts
      · exact hfirst
      · exact List.mem_append_left _ hfirst
    · obtain ⟨rfl, -⟩ | ⟨us', hus', rfl⟩ := listed_cons_iff.1 hts
      · cases hrest
        simp at hs
      · exact List.mem_append_right us (List.mem_cons_of_mem _ (ih hus' hs))

end Names

/-! ### Texts of calls -/

section Calls

variable {custom : List String} {cs : List Char} {calls : CallSets} {e : Expression}
  {ts : List Token}

/-- An expression has parentheses. -/
lemma Derives.leftParen_mem (h : Derives e ts) : .leftParen ∈ ts := by
  cases h with
  | mk _ ha =>
    cases ha
    simp

/-- An expression starts with the name of what it calls. -/
lemma Derives.head? (h : Derives e ts) : ts.head? = some (.name e.callee.name) := by
  cases h
  rfl

lemma leftParen_mem_of_tokens (hts : tokens cs = .ok ts) (h : Derives e ts) : '(' ∈ cs := by
  obtain ⟨c, hc, hstart⟩ := exists_startsWith_of_tokensFrom hts h.leftParen_mem
  obtain rfl : c = '(' := by
    change Token.ofMark? c = some .leftParen at hstart
    unfold Token.ofMark? at hstart
    split at hstart <;> simp_all
  exact hc

/-- An accepted call has a quoted text. -/
lemma IsCall.exists_isQuote (h : IsCall custom cs calls) : ∃ c ∈ cs, isQuote c := by
  obtain ⟨ts, e, hts, he, hcalls⟩ := h
  obtain ⟨k, s, hs⟩ := exists_text_of_call hcalls
  have hmem : .text s ∈ ts := by
    cases he with
    | mk _ ha _ =>
      cases ha with
      | mk hargs hlisted => simp [text_mem_of_listed hargs hlisted hs]
  exact exists_startsWith_of_tokensFrom hts hmem

/-- The calls of an expression are metrics just when it calls one. -/
lemma metrics_eq_nil_iff_of_call (h : e.call custom = .ok calls) :
    calls.metrics = [] ↔ e.callee ≠ .metric := by
  unfold Expression.call at h
  cases hcallee : e.callee with
  | dimension =>
    simp only [hcallee, bind_eq_ok_iff] at h
    obtain ⟨b, -, name, -, path, -, ⟨granularity, part⟩, -, h⟩ := h
    dsimp only at h
    split_ifs at h
    · obtain ⟨c, -, rfl⟩ := map_eq_ok_iff.1 h
      simp [CallSets.ofTimeDimension]
    · obtain ⟨c, -, rfl⟩ := map_eq_ok_iff.1 h
      simp [CallSets.ofDimension]
  | timeDimension =>
    simp only [hcallee, bind_eq_ok_iff] at h
    obtain ⟨b, -, name, -, granularity, -, path, -, _, -, part, -, _, -, h⟩ := h
    obtain ⟨c, -, rfl⟩ := map_eq_ok_iff.1 h
    simp [CallSets.ofTimeDimension]
  | entity =>
    simp only [hcallee, bind_eq_ok_iff] at h
    obtain ⟨b, -, name, -, path, -, _, -, h⟩ := h
    obtain ⟨c, -, rfl⟩ := map_eq_ok_iff.1 h
    simp [CallSets.ofEntity]
  | metric =>
    simp only [hcallee, bind_eq_ok_iff] at h
    obtain ⟨b, -, name, -, groupBy, -, _, -, h⟩ := h
    obtain ⟨c, -, rfl⟩ := map_eq_ok_iff.1 h
    simp [CallSets.ofMetric]

end Calls

end SemanticLayer.Filter

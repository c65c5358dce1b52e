import SemanticLayer.Proofs.Filter.CallTexts
import SemanticLayer.Proofs.Validation.Valid

/-!
# Order-by items

An order-by item may end with a call of `descending`, which is taken away before the item is looked
at. What is taken away are the tokens of that call and nothing else: no part of a marker, of a
quoted text or of a name goes with it. The patterns for items that name a metric find nothing in an
item that a query can be grouped by.
-/

namespace SemanticLayer.Rules

open SemanticLayer.Filter

variable {cs ds rest word : List Char}

/-! ### Words and white space -/

lemma dropWord?_eq_some_iff : dropWord? word cs = some rest ↔ cs = word ++ rest := by
  rw [dropWord?]
  split
  · next h =>
    obtain ⟨rest', rfl⟩ := List.isPrefixOf_iff_prefix.1 h
    simp [eq_comm]
  · next h =>
    refine iff_of_false (by simp) ?_
    rintro rfl
    exact h (List.isPrefixOf_iff_prefix.2 (List.prefix_append word rest))

lemma exists_trimStart (cs : List Char) :
    ∃ blanks, IsBlankText blanks ∧ cs = blanks ++ Text.trimStart cs :=
  ⟨cs.takeWhile Text.isBlank, fun _ hc => List.mem_takeWhile_imp hc,
    List.takeWhile_append_dropWhile.symm⟩

lemma trimStart_append {blanks : List Char} (h : IsBlankText blanks) (cs : List Char) :
    Text.trimStart (blanks ++ cs) = Text.trimStart cs :=
  List.dropWhile_append_of_pos h

/-- A word behind white space. -/
lemma exists_of_dropWord?_trimStart (h : dropWord? word (Text.trimStart cs) = some rest) :
    ∃ blanks, IsBlankText blanks ∧ cs = blanks ++ (word ++ rest) := by
  obtain ⟨blanks, hblanks, hcs⟩ := exists_trimStart cs
  rw [dropWord?_eq_some_iff.1 h] at hcs
  exact ⟨blanks, hblanks, hcs⟩

/-- The names of a truth value, or nothing. -/
inductive IsFlag : Option Bool → List Char → Prop
  | none : IsFlag none []
  | some {b : Bool} {s : String} (h : s ∈ truthNames b) : IsFlag (some b) s.toList

lemma exists_dropTruthValue (cs : List Char) :
    ∃ value flag, IsFlag value flag ∧ cs = flag ++ dropTruthValue cs := by
  rw [dropTruthValue]
  cases h : ["True", "False", "true", "false"].findSome? fun word => dropWord? word.toList cs with
  | none => exact ⟨none, [], .none, rfl⟩
  | some rest =>
    obtain ⟨word, hword, hrest⟩ := List.exists_of_findSome?_eq_some h
    obtain ⟨b, hb⟩ : ∃ b, word ∈ truthNames b := by
      simp only [List.mem_cons, List.not_mem_nil, or_false] at hword
      obtain rfl | rfl | rfl | rfl := hword
      · exact ⟨true, by decide⟩
      · exact ⟨false, by decide⟩
      · exact ⟨true, by decide⟩
      · exact ⟨false, by decide⟩
    exact ⟨some b, word.toList, .some hb, dropWord?_eq_some_iff.1 hrest⟩

/-! ### Calls of `descending` -/

/-- A call of `descending` behind its name: white space may stand between any two parts. -/
inductive IsDescendingArguments : Option Bool → List Char → Prop
  | mk {value : Option Bool} {b₁ b₂ b₃ b₄ flag : List Char} (h₁ : IsBlankText b₁)
      (h₂ : IsBlankText b₂) (hflag : IsFlag value flag) (h₃ : IsBlankText b₃)
      (h₄ : IsBlankText b₄) :
      IsDescendingArguments value (b₁ ++ '(' :: (b₂ ++ (flag ++ (b₃ ++ ')' :: b₄))))

/-- A call of `descending` in its parts. -/
lemma exists_of_isDescending (h : isDescending cs) :
    ∃ b₁ b₂ value arguments, IsBlankText b₁ ∧ IsBlankText b₂ ∧
      IsDescendingArguments value arguments ∧
      cs = b₁ ++ '.' :: (b₂ ++ ("descending".toList ++ arguments)) := by
  simp only [isDescending] at h
  split at h
  · next b₆ hrest =>
    simp only [Option.bind_eq_bind, Option.bind_eq_some_iff] at hrest
    obtain ⟨cs₁, h₁, cs₂, h₂, cs₃, h₃, h₄⟩ := hrest
    obtain ⟨b₁, hb₁, rfl⟩ := exists_of_dropWord?_trimStart h₁
    obtain ⟨b₂, hb₂, rfl⟩ := exists_of_dropWord?_trimStart h₂
    obtain ⟨b₃, hb₃, rfl⟩ := exists_of_dropWord?_trimStart h₃
    obtain ⟨b₄, hb₄, hcs₃⟩ := exists_trimStart cs₃
    obtain ⟨value, flag, hflag, hcs₄⟩ := exists_dropTruthValue (Text.trimStart cs₃)
    obtain ⟨b₅, hb₅, hcs₅⟩ := exists_of_dropWord?_trimStart h₄
    rw [hcs₅] at hcs₄
    rw [hcs₄] at hcs₃
    have hb₆ : IsBlankText b₆ := by simpa [IsBlankText] using h
    exact ⟨b₁, b₂, value, _, hb₁, hb₂, .mk hb₃ hb₄ hflag hb₅ hb₆, by rw [hcs₃]; rfl⟩
  · contradiction

/-- White space in front of a call of `descending` belongs to it. -/
lemma isDescending_append {blanks : List Char} (h : IsBlankText blanks) (cs : List Char) :
    isDescending (blanks ++ cs) = isDescending cs := by
  rw [isDescending, isDescending, trimStart_append h]

lemma isName_of_mem_truthNames {b : Bool} {s : String} (h : s ∈ truthNames b) :
    isName s.toList := by
  cases b with
  | true =>
    obtain rfl | rfl : s = "True" ∨ s = "true" := by simpa [truthNames] using h
    · decide
    · decide
  | false =>
    obtain rfl | rfl : s = "False" ∨ s = "false" := by simpa [truthNames] using h
    · decide
    · decide

section Descending

variable {value : Option Bool}

/-- White space, a character of a name or a parenthesis. -/
def IsCallCharacter (c : Char) : Prop :=
  Text.isBlank c ∨ isNameCharacter c ∨ c = '(' ∨ c = ')'

lemma plain_of_isCallCharacter {c : Char} (h : IsCallCharacter c) :
    c ≠ '\x7b' ∧ c ≠ '}' ∧ isQuote c = false ∧ c ≠ '.' := by
  obtain hblank | hname | rfl | rfl := h
  · obtain ⟨hopen, hclose, hquote, -⟩ := plain_of_isBlank hblank
    refine ⟨hopen, hclose, hquote, ?_⟩
    rintro rfl
    exact absurd hblank (by decide)
  · obtain ⟨-, -, hquote, hclose⟩ := plain_of_isNameCharacter hname
    refine ⟨?_, hclose, hquote, ?_⟩
    all_goals
      rintro rfl
      exact absurd hname (by decide)
  · decide
  · decide

lemma isCallCharacter_of_isName (h : isName cs) : ∀ c ∈ cs, IsCallCharacter c :=
  fun c hc => .inr (.inl (List.all_eq_true.1 (all_isNameCharacter_of_isName h) c hc))

lemma IsFlag.isCallCharacter (h : IsFlag value cs) : ∀ c ∈ cs, IsCallCharacter c := by
  cases h with
  | none => exact List.forall_mem_nil _
  | some h => exact isCallCharacter_of_isName (isName_of_mem_truthNames h)

lemma IsDescendingArguments.isCallCharacter (h : IsDescendingArguments value cs) :
    ∀ c ∈ cs, IsCallCharacter c := by
  cases h with
  | mk h₁ h₂ hflag h₃ h₄ =>
    simp only [List.forall_mem_append, List.forall_mem_cons]
    exact ⟨fun c hc => .inl (h₁ c hc), .inr (.inr (.inl rfl)), fun c hc => .inl (h₂ c hc),
      hflag.isCallCharacter, fun c hc => .inl (h₃ c hc), .inr (.inr (.inr rfl)),
      fun c hc => .inl (h₄ c hc)⟩

/-- The dot of a call of `descending` is the only one in it, and nothing but white space stands in
front of it. -/
lemma exists_dot_of_isDescending (h : isDescending cs) :
    ∃ blanks rest, IsBlankText blanks ∧ cs = blanks ++ '.' :: rest ∧
      ∀ c ∈ rest, IsCallCharacter c := by
  obtain ⟨b₁, b₂, value, arguments, h₁, h₂, hargs, rfl⟩ := exists_of_isDescending h
  refine ⟨b₁, _, h₁, rfl, ?_⟩
  simp only [List.forall_mem_append]
  exact ⟨fun c hc => .inl (h₂ c hc), isCallCharacter_of_isName (by decide), hargs.isCallCharacter⟩

lemma dot_notMem (h : ∀ c ∈ cs, IsCallCharacter c) : '.' ∉ cs :=
  fun hdot => (plain_of_isCallCharacter (h _ hdot)).2.2.2 rfl

lemma isPlain_of_isDescending (h : isDescending cs) : IsPlain cs := by
  obtain ⟨blanks, rest, hblanks, rfl, hrest⟩ := exists_dot_of_isDescending h
  simp only [IsPlain, List.forall_mem_append, List.forall_mem_cons]
  refine ⟨hblanks.isPlain, by decide, fun c hc => ?_⟩
  obtain ⟨hopen, hclose, hquote, -⟩ := plain_of_isCallCharacter (hrest c hc)
  exact ⟨hopen, hclose, hquote⟩

/-! ### Tokens of calls of `descending` -/

lemma IsDescendingArguments.exists_tokens (h : IsDescendingArguments value cs) :
    ∃ ts, DescendingTokens value (.dot :: .name "descending" :: ts) ∧
      ∀ whole, tokensFrom whole ("descending".toList ++ cs) =
        .ok (.name "descending" :: ts) := by
  cases h with
  | @mk b₁ b₂ b₃ b₄ flag h₁ h₂ hflag h₃ h₄ =>
    have hopen (whole rest : List Char) :
        tokensFrom whole ("descending".toList ++ (b₁ ++ '(' :: (b₂ ++ rest))) =
          (tokensFrom whole rest).map ([.name "descending", .leftParen] ++ ·) := by
      rw [tokensFrom_word whole (by decide) h₁ (by decide), tokensFrom_mark rfl,
        tokensFrom_blankText whole h₂]
      cases tokensFrom whole rest <;> rfl
    have hclose (whole : List Char) : tokensFrom whole (')' :: b₄) = .ok [.rightParen] := by
      have hend := tokensFrom_blankText whole h₄ []
      rw [List.append_nil, tokensFrom] at hend
      rw [tokensFrom_mark rfl, hend]
      rfl
    cases hflag with
    | none =>
      refine ⟨[.leftParen, .rightParen], .none, fun whole => ?_⟩
      rw [hopen, List.nil_append, tokensFrom_blankText whole h₃, hclose]
      rfl
    | @some b s hs =>
      refine ⟨[.leftParen, .name s, .rightParen], .some hs, fun whole => ?_⟩
      rw [hopen, tokensFrom_word whole (isName_of_mem_truthNames hs) h₃ (by decide), hclose]
      rfl

/-- A call of `descending` can stand behind an item. -/
lemma isTail_of_isDescending (h : isDescending cs) : IsTail cs where
  plain  := isPlain_of_isDescending h
  apart  := by
    obtain ⟨blanks, rest, hblanks, rfl, -⟩ := exists_dot_of_isDescending h
    exact hblanks.apart (by decide)
  tokens := by
    obtain ⟨b₁, b₂, value, arguments, h₁, h₂, hargs, rfl⟩ := exists_of_isDescending h
    obtain ⟨ts, hts, htokens⟩ := hargs.exists_tokens
    refine ⟨_, fun whole => ?_, .inr ⟨value, hts⟩⟩
    rw [tokensFrom_blankText whole h₁, tokensFrom_mark rfl, tokensFrom_blankText whole h₂, htokens]
    rfl

end Descending

/-! ### Taking `descending` away -/

/-- What is taken away is a call of `descending`, or nothing. -/
lemma exists_stripDescending (cs : List Char) :
    ∃ tail, cs = stripDescending cs ++ tail ∧ (tail = [] ∨ isDescending tail) := by
  induction cs with
  | nil => exact ⟨[], rfl, .inl rfl⟩
  | cons c cs ih =>
    rw [stripDescending]
    split
    · next h => exact ⟨c :: cs, rfl, .inr h⟩
    · obtain ⟨tail, hcs, htail⟩ := ih
      exact ⟨tail, by rw [List.cons_append, ← hcs], htail⟩

lemma exists_isTail_stripDescending (cs : List Char) :
    ∃ tail, IsTail tail ∧ cs = stripDescending cs ++ tail := by
  obtain ⟨tail, hcs, rfl | htail⟩ := exists_stripDescending cs
  · exact ⟨[], IsBlankText.isTail (List.forall_mem_nil _), hcs⟩
  · exact ⟨tail, isTail_of_isDescending htail, hcs⟩

lemma isInfix_stripDescending (cs : List Char) : stripDescending cs <:+: cs := by
  obtain ⟨tail, hcs, -⟩ := exists_stripDescending cs
  exact ⟨[], tail, hcs.symm⟩

/-- A call of `descending` is taken away together with what stands in front of it and belongs
to it. -/
lemma exists_stripDescending_append (hds : isDescending ds) (cs : List Char) :
    ∃ us, cs = stripDescending (cs ++ ds) ++ us ∧ isDescending (us ++ ds) := by
  induction cs with
  | nil =>
    cases ds with
    | nil => contradiction
    | cons d ds => exact ⟨[], by simp [stripDescending, hds], hds⟩
  | cons c cs ih =>
    rw [List.cons_append, stripDescending]
    split
    · next h => exact ⟨c :: cs, rfl, h⟩
    · obtain ⟨us, hcs, hus⟩ := ih
      exact ⟨us, by rw [List.cons_append, ← hcs], hus⟩

/-- Only white space goes away together with a call of `descending`. -/
lemma exists_blanks_stripDescending_append (hds : isDescending ds) (cs : List Char) :
    ∃ blanks, IsBlankText blanks ∧ cs = stripDescending (cs ++ ds) ++ blanks := by
  obtain ⟨us, hcs, hus⟩ := exists_stripDescending_append hds cs
  obtain ⟨blanks, rest, hblanks, heq, hrest⟩ := exists_dot_of_isDescending hus
  obtain ⟨blanks', rest', -, rfl, hrest'⟩ := exists_dot_of_isDescending hds
  rw [← List.append_assoc] at heq
  obtain ⟨rfl, -⟩ := append_cons_inj_of_last (dot_notMem hrest') (dot_notMem hrest) heq
  exact ⟨us, (List.forall_mem_append.1 hblanks).1, hcs⟩

/-! ### Items that name a metric -/

/-- The text starts with the name `Metric` and an opening parenthesis. -/
def StartsWithMetric (cs : List Char) : Prop :=
  ∃ b₁ b₂ rest, IsBlankText b₁ ∧ IsBlankText b₂ ∧
    cs = b₁ ++ ("Metric".toList ++ (b₂ ++ '(' :: rest))

/-- What is written with `Metric` calls a metric. -/
lemma StartsWithMetric.callee_eq (h : StartsWithMetric cs) {ts : List Token} {e : Expression}
    (hts : tokens cs = .ok ts) (he : Derives e ts) : e.callee = .metric := by
  obtain ⟨b₁, b₂, rest, h₁, h₂, rfl⟩ := h
  rw [tokens, tokensFrom_blankText _ h₁, tokensFrom_word _ (by decide) h₂ (by decide)] at hts
  obtain ⟨us, -, rfl⟩ := map_eq_ok_iff.1 hts
  have hname : "Metric" = e.callee.name := by simpa using he.head?
  cases hcallee : e.callee with
  | metric => rfl
  | _ => simp [hcallee, Callee.name] at hname

lemma StartsWithMetric.not_cons {c : Char} (hblank : Text.isBlank c = false) (hc : c ≠ 'M') :
    ¬StartsWithMetric (c :: cs) := by
  rintro ⟨b₁, b₂, rest, h₁, -, heq⟩
  cases b₁ with
  | nil => exact hc (List.cons.inj heq).1
  | cons b b₁ =>
    obtain ⟨rfl, -⟩ := List.cons.inj heq
    exact h₁.notMem hblank List.mem_cons_self

/-- Closing braces stand behind the start of a call. -/
lemma StartsWithMetric.of_append (h : StartsWithMetric (cs ++ '}' :: ds)) :
    StartsWithMetric cs := by
  obtain ⟨b₁, b₂, rest, h₁, h₂, heq⟩ := h
  have hbrace : '}' ∉ b₁ ++ ("Metric".toList ++ (b₂ ++ ['('])) := by
    simp only [List.mem_append, not_or]
    exact ⟨h₁.notMem (by decide), by decide, h₂.notMem (by decide), by decide⟩
  have heq' : b₁ ++ ("Metric".toList ++ (b₂ ++ ['('])) ++ rest = cs ++ '}' :: ds := by
    simpa using heq.symm
  obtain ⟨more, rfl, -⟩ := exists_of_append_eq_left hbrace heq'
  exact ⟨b₁, b₂, more, h₁, h₂, by simp⟩

/-- The text is a call of a metric with its quoted name and nothing else. -/
inductive IsMetricOrder (name : List Char) : List Char → Prop
  | mk {b₁ b₂ b₃ b₄ b₅ : List Char} {quote quote' : Char} (h₁ : IsBlankText b₁)
      (h₂ : IsBlankText b₂) (h₃ : IsBlankText b₃) (h₄ : IsBlankText b₄) (h₅ : IsBlankText b₅)
      (hquote : isQuote quote) (hquote' : isQuote quote') (hname : ∀ c ∈ name, isQuote c = false) :
      IsMetricOrder name (b₁ ++ ("Metric".toList ++ (b₂ ++ '(' :: (b₃ ++ quote ::
        (name ++ quote' :: (b₄ ++ ')' :: b₅))))))

lemma isMetricOrder_of_metricOrder? {name : String} (h : metricOrder? cs = some name) :
    IsMetricOrder name.toList cs := by
  simp only [metricOrder?, Option.bind_eq_bind, Option.bind_eq_some_iff] at h
  obtain ⟨cs₁, h₁, cs₂, h₂, h⟩ := h
  obtain ⟨b₁, hb₁, rfl⟩ := exists_of_dropWord?_trimStart h₁
  obtain ⟨b₂, hb₂, rfl⟩ := exists_of_dropWord?_trimStart h₂
  obtain ⟨b₃, hb₃, hcs₂⟩ := exists_trimStart cs₂
  split at h
  · contradiction
  · next quote cs₃ hquote =>
    split at h
    · contradiction
    · next quote' cs₄ hquote' =>
      obtain ⟨cs₅, h₄, hrest⟩ := Option.bind_eq_some_iff.1 h
      obtain ⟨b₄, hb₄, rfl⟩ := exists_of_dropWord?_trimStart h₄
      split_ifs at hrest with hall
      obtain rfl := Option.some.inj hrest
      simp only [Bool.and_eq_true, List.all_eq_true] at hall
      obtain ⟨⟨hopen, -⟩, hb₅⟩ := hall
      have hclose : isQuote quote' := by
        simpa [hquote'] using List.head?_dropWhile_not (fun c => !isQuote c) cs₃
      have hname : ∀ c ∈ cs₃.takeWhile (fun c => !isQuote c), isQuote c = false := by
        intro c hc
        simpa using List.mem_takeWhile_imp hc
      have hcs₃ := List.takeWhile_append_dropWhile (p := fun c => !isQuote c) (l := cs₃)
      rw [hquote'] at hcs₃
      rw [String.toList_ofList]
      generalize cs₃.takeWhile (fun c => !isQuote c) = name at hname hcs₃ ⊢
      rw [hcs₂, hquote, ← hcs₃]
      exact .mk hb₁ hb₂ hb₃ hb₄ hb₅ hopen hclose hname

lemma IsMetricOrder.startsWithMetric {name : List Char} (h : IsMetricOrder name cs) :
    StartsWithMetric cs := by
  cases h with
  | mk h₁ h₂ => exact ⟨_, _, _, h₁, h₂, rfl⟩

/-- A marker in the call of a metric stands between its quotation marks. -/
lemma IsMetricOrder.forall_mem_content {name text content rest : List Char}
    (h : IsMetricOrder name (text ++ opening ++ content ++ closing ++ rest)) :
    ∀ c ∈ content, isQuote c = false := by
  generalize hwhole : text ++ opening ++ content ++ closing ++ rest = cs at h
  cases h with
  | @mk b₁ b₂ b₃ b₄ b₅ quote quote' h₁ h₂ h₃ h₄ h₅ hquote hquote' hname =>
    have hfront : '\x7b' ∉ b₁ ++ ("Metric".toList ++ (b₂ ++ '(' :: (b₃ ++ [quote]))) := by
      simp only [List.mem_append, List.mem_cons, not_or]
      refine ⟨h₁.notMem (by decide), by decide, h₂.notMem (by decide), by decide,
        h₃.notMem (by decide), ?_, List.not_mem_nil⟩
      rintro rfl
      exact absurd hquote (by decide)
    have hback : '}' ∉ quote' :: (b₄ ++ ')' :: b₅) := by
      simp only [List.mem_append, List.mem_cons, not_or]
      refine ⟨?_, h₄.notMem (by decide), by decide, h₅.notMem (by decide)⟩
      rintro rfl
      exact absurd hquote' (by decide)
    have hopen : b₁ ++ ("Metric".toList ++ (b₂ ++ '(' :: (b₃ ++ [quote]))) ++
        (name ++ quote' :: (b₄ ++ ')' :: b₅)) =
          text ++ '\x7b' :: ('\x7b' :: content ++ closing ++ rest) := by
      simpa [opening] using hwhole.symm
    obtain ⟨before, -, hname'⟩ := exists_of_append_eq_left hfront hopen
    have hclose : name ++ quote' :: (b₄ ++ ')' :: b₅) =
        before ++ opening ++ content ++ closing ++ rest := by
      simpa [opening] using hname'
    obtain ⟨after, rfl, -⟩ := exists_of_append_eq_closing hback hclose
    intro c hc
    exact hname c (by simp [hc])

lemma mem_trim {c : Char} (hc : c ∈ cs) (hblank : Text.isBlank c = false) :
    c ∈ Text.trimEnd (Text.trimStart cs) := by
  have hdrop {as : List Char} (h : c ∈ as) : c ∈ as.dropWhile Text.isBlank := by
    rw [← List.takeWhile_append_dropWhile (p := Text.isBlank) (l := as), List.mem_append] at h
    refine h.resolve_left fun htake => ?_
    simp [List.mem_takeWhile_imp htake] at hblank
  exact List.mem_reverse.2 (hdrop (List.mem_reverse.2 (hdrop hc)))

/-- An item that is a bare name has nothing else in it. -/
lemma isSnakeCharacter_of_bareOrder? {name : String} (h : bareOrder? cs = some name) {c : Char}
    (hc : c ∈ cs) (hblank : Text.isBlank c = false) : isSnakeCharacter c := by
  unfold bareOrder? at h
  dsimp only at h
  split_ifs at h with hname
  refine isSnakeCharacter_of_isGranularityIdentifier hname ?_
  rw [String.toList_ofList]
  exact mem_trim hc hblank

/-- An item that is neither a call of a metric nor a bare name names no metric. -/
lemma orderedMetric?_eq_none (hmetric : ∀ name, ¬IsMetricOrder name cs) {c : Char} (hc : c ∈ cs)
    (hblank : Text.isBlank c = false) (hsnake : isSnakeCharacter c = false) :
    orderedMetric? cs = none := by
  rw [orderedMetric?, Option.or_eq_none_iff, Option.eq_none_iff_forall_ne_some,
    Option.eq_none_iff_forall_ne_some]
  constructor
  · exact fun name hname => hmetric _ (isMetricOrder_of_metricOrder? hname)
  · intro name hname
    simp [isSnakeCharacter_of_bareOrder? hname hc hblank] at hsnake

/-- An item with tokens that do not call a metric names none. -/
lemma orderedMetric?_eq_none_of_derives {ts : List Token} {e : Expression}
    (hts : tokens cs = .ok ts) (he : Derives e ts) (hcallee : e.callee ≠ .metric) :
    orderedMetric? cs = none := by
  refine orderedMetric?_eq_none (fun name hname => ?_) (leftParen_mem_of_tokens hts he) (by decide)
    (by decide)
  exact hcallee (hname.startsWithMetric.callee_eq hts he)

/-- An item that stands for calls, but for none of a metric, names no metric. -/
theorem orderedMetric?_eq_none_of_parseGroupBy {custom : List String} {calls : CallSets}
    (h : parseGroupBy custom (String.ofList cs) = .ok calls) (hcalls : calls ≠ .empty)
    (hmetrics : calls.metrics = []) : orderedMetric? cs = none := by
  cases hmark : hasMarker cs with
  | true =>
    rw [parseGroupBy_marked_iff (by rwa [String.toList_ofList]), String.toList_ofList] at h
    obtain ⟨contents, hmarked, hcontents⟩ := h
    cases hmarked with
    | text => exact absurd (Except.ok.inj hcontents).symm hcalls
    | @marker text content rest contents =>
      -- a marker in the call of a metric stands in its name, where no call can be
      obtain ⟨first, hfirst, -⟩ := bind_eq_ok_iff.1 hcontents
      rw [← contentCalls_singleton, contentCalls_eq_ok_iff_isCall] at hfirst
      obtain ⟨c, hc, hquote⟩ := hfirst.exists_isQuote
      refine orderedMetric?_eq_none (c := '}') (fun name hname => ?_) (by simp [closing])
        (by decide) (by decide)
      simp [hname.forall_mem_content c hc] at hquote
  | false =>
    rw [parseGroupBy_bare_iff (by rwa [String.toList_ofList]), String.toList_ofList] at h
    obtain ⟨-, ts, e, hts, he, hcall⟩ | ⟨call, ignored, rfl, -, ts, e, hts, he, hcall⟩ := h
    · exact orderedMetric?_eq_none_of_derives hts he ((metrics_eq_nil_iff_of_call hcall).1 hmetrics)
    · refine orderedMetric?_eq_none (c := '}') (fun name hname => ?_) (by simp [closing])
        (by decide) (by decide)
      have hstart : StartsWithMetric (call ++ '}' :: '}' :: ignored) := by
        simpa [closing] using hname.startsWithMetric
      exact (metrics_eq_nil_iff_of_call hcall).1 hmetrics (hstart.of_append.callee_eq hts he)

end SemanticLayer.Rules

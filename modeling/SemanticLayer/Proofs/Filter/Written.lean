import Mathlib.Tactic.Common
import SemanticLayer.Proofs.Filter.Derivation
import SemanticLayer.Proofs.Filter.Spelling

/-!
# Written calls

A call whose arguments are texts and lists of texts is written as a template. Reading the template
gives the call back, whatever the texts hold: what is called gets exactly the texts that were
written.
-/

namespace SemanticLayer.Filter

variable {quote : Char}

/-! ### Values -/

/-- A text or a list of texts. -/
inductive Value where
  | text  (s : String)
  | texts (ss : List String)

/-- A text between the quotes `quote`. -/
def quotedText (quote : Char) (s : String) : String := String.ofList (quoted quote s.toList)

namespace Value

/-- The value as a literal. -/
def literal : Value → Literal
  | .text s   => .text s
  | .texts ss => .list (ss.map .text)

/-- The value as it is written. -/
def written (quote : Char) : Value → String
  | .text s   => quotedText quote s
  | .texts ss => "[" ++ ", ".intercalate (ss.map (quotedText quote)) ++ "]"

/-- The tokens of the value. -/
def tokens : Value → List Token
  | .text s   => [.text s]
  | .texts ss =>
    .leftBracket :: ([.comma].intercalate (ss.map fun s => [.text s]) ++ [.rightBracket])

end Value

@[simp] lemma spelled_cons (t : Token) (ts : List Token) :
    spelled quote (t :: ts) = t.spelling quote ++ spelled quote ts := rfl

@[simp] lemma spelled_append (ts ts' : List Token) :
    spelled quote (ts ++ ts') = spelled quote ts ++ spelled quote ts' := List.flatMap_append

lemma spelled_intercalate (tss : List (List Token)) :
    spelled quote ([.comma].intercalate tss) =
      [',', ' '].intercalate (tss.map (spelled quote)) := by
  induction tss with
  | nil => rfl
  | cons ts tss ih =>
    cases tss with
    | nil => simp
    | cons ts' tss =>
      simp only [List.map_cons, List.intercalate_cons_cons] at ih ⊢
      rw [spelled_append, spelled_append, ih]
      rfl

@[simp] lemma toList_quotedText (s : String) :
    (quotedText quote s).toList = quoted quote s.toList := String.toList_ofList

lemma Value.spelled_tokens (v : Value) :
    spelled quote v.tokens = (v.written quote).toList := by
  cases v with
  | text s => simp [Value.tokens, Value.written, spelled, Token.spelling]
  | texts ss =>
    have hitem :
        (fun s => spelled quote [Token.text s]) = fun s => (quotedText quote s).toList := by
      funext s
      simp [spelled, Token.spelling]
    rw [Value.tokens, ← List.singleton_append, spelled_append, spelled_append,
      spelled_intercalate, List.map_map, Function.comp_def, hitem]
    simp only [Value.written, String.toList_append, String.toList_intercalate, List.map_map,
      Function.comp_def]
    rfl

/-! ### Calls -/

/-- A call with arguments by position and by keyword, and with methods of one argument. -/
structure WrittenCall where
  callee     : Callee
  positional : List Value
  keyword    : List (String × Value)
  methods    : List (String × Value)

namespace WrittenCall

/-- The call as an expression. -/
def expression (c : WrittenCall) : Expression where
  callee    := c.callee
  arguments := ⟨c.positional.map (·.literal), c.keyword.map fun (k, v) => (k, v.literal)⟩
  methods   := c.methods.map fun (m, v) => ⟨m, ⟨[v.literal], []⟩⟩

/-- The arguments as they are written. -/
def writtenArguments (quote : Char) (c : WrittenCall) : List String :=
  c.positional.map (·.written quote) ++ c.keyword.map fun (k, v) => k ++ "=" ++ v.written quote

/-- A method as it is written. -/
def writtenMethod (quote : Char) : String × Value → String
  | (m, v) => "." ++ m ++ "(" ++ v.written quote ++ ")"

/-- The call as it is written. -/
def written (quote : Char) (c : WrittenCall) : String :=
  c.callee.name ++ "(" ++ ", ".intercalate (c.writtenArguments quote) ++ ")" ++
    String.join (c.methods.map (writtenMethod quote))

/-- The call in a marker. -/
def template (quote : Char) (c : WrittenCall) : String :=
  "\x7b\x7b " ++ c.written quote ++ " \x7d\x7d"

/-- The tokens of each argument. -/
def argumentTokens (c : WrittenCall) : List (List Token) :=
  c.positional.map (·.tokens) ++ c.keyword.map fun (k, v) => .name k :: .equals :: v.tokens

/-- The tokens of a method. -/
def methodTokens : String × Value → List Token
  | (m, v) => .dot :: .name m :: .leftParen :: (v.tokens ++ [.rightParen])

/-- The tokens of the call. -/
def tokens (c : WrittenCall) : List Token :=
  .name c.callee.name :: .leftParen :: ([.comma].intercalate c.argumentTokens ++
    .rightParen :: c.methods.flatMap methodTokens)

/-- Keywords and methods have names. -/
def IsNamed (c : WrittenCall) : Prop :=
  (∀ a ∈ c.keyword, isName a.1.toList) ∧ ∀ m ∈ c.methods, isName m.1.toList

/-! ### Spelling -/

lemma spelled_methodTokens (m : String × Value) :
    spelled quote (methodTokens m) = (writtenMethod quote m).toList := by
  have hend : spelled quote [.rightParen] = [')'] := rfl
  simp [methodTokens, writtenMethod, Value.spelled_tokens, Token.spelling, hend]

lemma spelled_tokens (c : WrittenCall) : spelled quote c.tokens = (c.written quote).toList := by
  have harguments : c.argumentTokens.map (spelled quote) =
      (c.writtenArguments quote).map String.toList := by
    simp [argumentTokens, writtenArguments, Value.spelled_tokens, Token.spelling,
      Function.comp_def]
  have hmethods : spelled quote (c.methods.flatMap methodTokens) =
      (String.join (c.methods.map (writtenMethod quote))).toList := by
    induction c.methods with
    | nil => rfl
    | cons m ms ih => simp [ih, spelled_methodTokens]
  rw [tokens, spelled_cons, spelled_cons, spelled_append, spelled_intercalate, harguments,
    spelled_cons, hmethods]
  simp [written, Token.spelling]

/-! ### Names -/

lemma isSpellable_intercalate {tss : List (List Token)} {rest : List Token}
    (h : ∀ ts ∈ tss, ∀ rest, IsSpellable rest → IsSpellable (ts ++ rest))
    (hrest : IsSpellable rest) : IsSpellable ([.comma].intercalate tss ++ rest) := by
  induction tss with
  | nil => exact hrest
  | cons ts tss ih =>
    have htail := ih fun ts' hts' => h ts' (by simp [hts'])
    cases tss with
    | nil => simpa using h ts (by simp) rest hrest
    | cons ts' tss =>
      rw [List.intercalate_cons_cons, List.append_assoc, List.append_assoc]
      exact h ts (by simp) _ ⟨by simp, htail⟩

/-- A value has no names, so nothing it stands in front of is mistaken for a part of it. -/
lemma isSpellable_value (v : Value) {rest : List Token} (h : IsSpellable rest) :
    IsSpellable (v.tokens ++ rest) := by
  cases v with
  | text s => exact ⟨by simp, h⟩
  | texts ss =>
    rw [Value.tokens, List.cons_append, List.append_assoc]
    refine ⟨by simp, isSpellable_intercalate ?_ ⟨by simp, h⟩⟩
    rintro ts hts rest hrest
    obtain ⟨s, -, rfl⟩ := List.mem_map.1 hts
    exact ⟨by simp, hrest⟩

lemma isSpellable_argument {c : WrittenCall} (hc : c.IsNamed) {ts : List Token}
    (h : ts ∈ c.argumentTokens) (rest : List Token) (hrest : IsSpellable rest) :
    IsSpellable (ts ++ rest) := by
  rw [argumentTokens, List.mem_append, List.mem_map, List.mem_map] at h
  obtain ⟨v, -, rfl⟩ | ⟨⟨k, v⟩, hkv, rfl⟩ := h
  · exact isSpellable_value v hrest
  · refine ⟨?_, by simp, isSpellable_value v hrest⟩
    rintro s ⟨⟩
    exact ⟨hc.1 (k, v) hkv, rfl⟩

lemma isSpellable_methods {ms : List (String × Value)} (h : ∀ m ∈ ms, isName m.1.toList) :
    IsSpellable (ms.flatMap methodTokens) := by
  induction ms with
  | nil => trivial
  | cons m ms ih =>
    obtain ⟨m, v⟩ := m
    have hrest : IsSpellable (.rightParen :: ms.flatMap methodTokens) :=
      ⟨by simp, ih fun m hm => h m (by simp [hm])⟩
    rw [List.flatMap_cons, methodTokens]
    refine ⟨by simp, ?_, by simp, ?_⟩
    · rintro s ⟨⟩
      exact ⟨h (m, v) (by simp), rfl⟩
    · simpa using isSpellable_value v hrest

lemma isSpellable_tokens {c : WrittenCall} (hc : c.IsNamed) : IsSpellable c.tokens := by
  refine ⟨?_, by simp, ?_⟩
  · rintro s ⟨⟩
    exact ⟨by cases c.callee <;> decide, rfl⟩
  · refine isSpellable_intercalate (fun ts hts => isSpellable_argument hc hts) ?_
    exact ⟨by simp, isSpellable_methods hc.2⟩

/-! ### Derivations -/

lemma forall₂_map_map {α β γ : Type} {R : β → γ → Prop} {f : α → β} {g : α → γ} {as : List α}
    (h : ∀ a, R (f a) (g a)) : List.Forall₂ R (as.map f) (as.map g) := by
  rw [List.forall₂_map_left_iff, List.forall₂_map_right_iff, List.forall₂_same]
  exact fun a _ => h a

lemma derivesLiteral_value (v : Value) : DerivesLiteral v.literal v.tokens := by
  cases v with
  | text s => exact .text s
  | texts ss => exact .list (forall₂_map_map .text) (.between _)

lemma forall₂_argumentTokens (c : WrittenCall) :
    List.Forall₂ DerivesArgument c.expression.arguments.inOrder c.argumentTokens := by
  simp only [expression, Arguments.inOrder, List.map_map]
  apply List.rel_append
  · exact forall₂_map_map fun v => .positional (derivesLiteral_value v)
  · exact forall₂_map_map fun kv => .keyword kv.1 (derivesLiteral_value kv.2)

/-- A method has one argument, which stands in its parentheses alone. -/
lemma derivesMethod_methodTokens (m : String × Value) :
    DerivesMethod ⟨m.1, ⟨[m.2.literal], []⟩⟩ (methodTokens m) := by
  have hlisted : Listed [m.2.tokens] m.2.tokens := listed_cons_iff.2 (.inl ⟨rfl, rfl⟩)
  exact .mk m.1 (.mk (.cons (.positional (derivesLiteral_value m.2)) .nil) hlisted)

lemma derives_tokens (c : WrittenCall) : Derives c.expression c.tokens := by
  have harguments : DerivesArguments c.expression.arguments
      (.leftParen :: ([.comma].intercalate c.argumentTokens ++ [.rightParen])) :=
    .mk c.forall₂_argumentTokens (.between _)
  have hmethods : List.Forall₂ DerivesMethod c.expression.methods (c.methods.map methodTokens) :=
    forall₂_map_map derivesMethod_methodTokens
  have htokens : c.tokens = .name c.callee.name ::
      (.leftParen :: ([.comma].intercalate c.argumentTokens ++ [.rightParen]) ++
        (c.methods.map methodTokens).flatten) := by
    simp [tokens, List.flatMap_def]
  rw [htokens]
  exact .mk c.callee harguments hmethods

/-! ### Reading a written call -/

lemma template_eq (c : WrittenCall) :
    c.template quote = String.ofList (marked (spelled quote c.tokens)) := by
  rw [← String.toList_inj, String.toList_ofList, spelled_tokens]
  simp [template, marked]

/-- The template of a written call has the calls that its expression denotes. -/
theorem templateCalls_template (hq : isQuote quote) (custom : List String) {c : WrittenCall}
    (h : c.IsNamed) : templateCalls custom (c.template quote) = c.expression.call custom := by
  rw [template_eq, templateCalls_marked hq custom (isSpellable_tokens h),
    readExpression_of_expressionTokens c.derives_tokens.expressionTokens]
  rfl

/-! ### The calls of filters -/

/-- A metric by a name and the names it is grouped by. -/
def metric (name : String) (groupBy : List String) : WrittenCall :=
  ⟨.metric, [.text name], [("group_by", .texts groupBy)], []⟩

/-- The keyword argument for a text that may be missing. -/
def optional (keyword : String) (value : Option Value) : List (String × Value) :=
  (value.map (keyword, ·)).toList

/-- A dimension by a name and, if they are given, an entity path, a granularity and a date part. -/
def dimension (name : String) (path : Option (List String)) (grain part : Option String) :
    WrittenCall :=
  ⟨.dimension, [.text name], optional "entity_path" (path.map .texts),
    optional "grain" (grain.map .text) ++ optional "date_part" (part.map .text)⟩

/-- A time dimension by a name and, if they are given, a granularity, an entity path and a date
part. -/
def timeDimension (name : String) (grain : Option String) (path : Option (List String))
    (part : Option String) : WrittenCall :=
  ⟨.timeDimension, .text name :: (grain.map .text).toList,
    optional "entity_path" (path.map .texts) ++ optional "date_part_name" (part.map .text), []⟩

/-- An entity by a name and, if it is given, an entity path. -/
def entity (name : String) (path : Option (List String)) : WrittenCall :=
  ⟨.entity, [.text name], optional "entity_path" (path.map .texts), []⟩

@[simp] lemma itemTexts_texts (b : Bindings) (parameter : String) (ss : List String) :
    b.itemTexts parameter (ss.map .text) = .ok ss := by
  induction ss with
  | nil => rfl
  | cons s ss ih => simp [Bindings.itemTexts, ih]

section Meaning

-- What is bound to a parameter is computed from the keywords.
attribute [local simp] optional expression Expression.call Value.literal bindArguments bindKeywords
  List.lookup_cons List.lookup_nil Bindings.text Bindings.text? Bindings.texts Bindings.bool?
  checkDescendingOnly dimensionMethods bind Except.bind

variable (custom : List String) (name : String) (path : Option (List String))
  (grain part : Option String)

lemma call_metric (groupBy : List String) :
    (metric name groupBy).expression.call custom = .ofMetric <$> metricCall name groupBy := by
  simp [metric]

/-- A granularity or a date part makes a dimension a time dimension. -/
lemma call_dimension :
    (dimension name path grain part).expression.call custom =
      if grain.isSome || part.isSome then
        .ofTimeDimension <$> timeDimensionCall custom name grain (path.getD []) part
      else
        .ofDimension <$> dimensionCall custom name (path.getD []) := by
  cases path <;> cases grain <;> cases part <;> simp [dimension]

lemma call_timeDimension :
    (timeDimension name grain path part).expression.call custom =
      .ofTimeDimension <$> timeDimensionCall custom name grain (path.getD []) part := by
  cases grain <;> cases path <;> cases part <;> simp [timeDimension]

lemma call_entity :
    (entity name path).expression.call custom =
      .ofEntity <$> entityCall custom name (path.getD []) := by
  cases path <;> simp [entity]

end Meaning

/-! ### Names of the calls of filters -/

lemma isNamed_metric (name : String) (groupBy : List String) : (metric name groupBy).IsNamed := by
  refine ⟨?_, by simp [metric]⟩
  rintro a ha
  obtain rfl : a = ("group_by", .texts groupBy) := by simpa [metric] using ha
  exact (by decide : isName "group_by".toList)

lemma isName_optional {keyword : String} (h : isName keyword.toList) {value : Option Value}
    {a : String × Value} (ha : a ∈ optional keyword value) : isName a.1.toList := by
  obtain ⟨v, -, rfl⟩ : ∃ v, value = some v ∧ (keyword, v) = a := by simpa [optional] using ha
  exact h

lemma isNamed_dimension (name : String) (path : Option (List String)) (grain part : Option String) :
    (dimension name path grain part).IsNamed := by
  refine ⟨fun a ha => isName_optional (by decide) ha, fun m hm => ?_⟩
  obtain hm | hm := List.mem_append.1 hm
  · exact isName_optional (by decide) hm
  · exact isName_optional (by decide) hm

lemma isNamed_timeDimension (name : String) (grain : Option String) (path : Option (List String))
    (part : Option String) : (timeDimension name grain path part).IsNamed := by
  refine ⟨fun a ha => ?_, by simp [timeDimension]⟩
  obtain ha | ha := List.mem_append.1 ha
  · exact isName_optional (by decide) ha
  · exact isName_optional (by decide) ha

lemma isNamed_entity (name : String) (path : Option (List String)) : (entity name path).IsNamed :=
  ⟨fun _ ha => isName_optional (by decide) ha, by simp [entity]⟩

end WrittenCall

/-! ### Filters of one call -/

open WrittenCall

lemma parseTemplate_eq_ok_iff {custom : List String} {template : String} {calls : CallSets} :
    parseTemplate custom template = .ok calls ↔ templateCalls custom template = .ok calls := by
  rw [parseTemplate]
  cases templateCalls custom template <;> simp [Except.mapError]

/-- A filter with one written call is what the call denotes. -/
lemma parseTemplate_template_iff {α : Type} (hq : isQuote quote) {custom : List String}
    {c : WrittenCall} (h : c.IsNamed) {f : α → CallSets} {r : Except FilterFault α}
    (hcall : c.expression.call custom = f <$> r) (calls : CallSets) :
    parseTemplate custom (c.template quote) = .ok calls ↔ ∃ a, r = .ok a ∧ calls = f a := by
  rw [parseTemplate_eq_ok_iff, templateCalls_template hq custom h, hcall]
  exact map_eq_ok_iff

/-- A filter with one written call has that call and no other, whatever its texts hold. It is
refused only if the texts do not make a call of that kind, which for a metric with a name and
something to group by is never so. -/
theorem parseTemplate_template (hq : isQuote quote) (custom : List String) :
    (∀ name groupBy, name ≠ "" → groupBy ≠ [] →
      parseTemplate custom ((WrittenCall.metric name groupBy).template quote) =
        .ok (.ofMetric ⟨name, groupBy⟩)) ∧
    (∀ name path calls,
      parseTemplate custom ((WrittenCall.dimension name path none none).template quote) =
        .ok calls ↔
      ∃ call, dimensionCall custom name (path.getD []) = .ok call ∧
        calls = .ofDimension call) ∧
    (∀ name path grain part calls, grain.isSome || part.isSome →
      (parseTemplate custom ((WrittenCall.dimension name path grain part).template quote) =
        .ok calls ↔
      ∃ call, timeDimensionCall custom name grain (path.getD []) part = .ok call ∧
        calls = .ofTimeDimension call)) ∧
    (∀ name grain path part calls,
      parseTemplate custom ((WrittenCall.timeDimension name grain path part).template quote) =
        .ok calls ↔
      ∃ call, timeDimensionCall custom name grain (path.getD []) part = .ok call ∧
        calls = .ofTimeDimension call) ∧
    (∀ name path calls,
      parseTemplate custom ((WrittenCall.entity name path).template quote) = .ok calls ↔
      ∃ call, entityCall custom name (path.getD []) = .ok call ∧ calls = .ofEntity call) := by
  refine ⟨?_, ?_, ?_, ?_, ?_⟩
  · intro name groupBy hname hgroupBy
    have hcall : metricCall name groupBy = .ok ⟨name, groupBy⟩ := by
      simp [metricCall, hname, hgroupBy]
    have hread := parseTemplate_template_iff hq (isNamed_metric name groupBy)
      (call_metric custom name groupBy)
    exact (hread _).2 ⟨_, hcall, rfl⟩
  · intro name path
    exact parseTemplate_template_iff hq (isNamed_dimension name path none none)
      (call_dimension custom name path none none)
  · intro name path grain part calls h
    have hcall := call_dimension custom name path grain part
    rw [if_pos h] at hcall
    exact parseTemplate_template_iff hq (isNamed_dimension name path grain part) hcall calls
  · intro name grain path part
    exact parseTemplate_template_iff hq (isNamed_timeDimension name grain path part)
      (call_timeDimension custom name path grain part)
  · intro name path
    exact parseTemplate_template_iff hq (isNamed_entity name path) (call_entity custom name path)

/-- Marks that end a marker, quotes and backslashes come back from between the quotes. -/
theorem parseTemplate_template_marks : isQuote '\'' ∧
    parseTemplate [] ((WrittenCall.metric "\x7d\x7d'\\" ["\"é\n", "\\'"]).template '\'') =
      .ok (.ofMetric ⟨"\x7d\x7d'\\", ["\"é\n", "\\'"]⟩) :=
  ⟨by decide, (parseTemplate_template (by decide) []).1 _ _ (by decide) (by decide)⟩

example : (WrittenCall.metric "a" ["b'", "c"]).template '\'' =
    "\x7b\x7b Metric('a', group_by=['b\\'', 'c']) \x7d\x7d" := by
  decide +kernel

end SemanticLayer.Filter

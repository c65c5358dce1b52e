import Mathlib.Data.List.Nodup
import SemanticLayer.Proofs.Filter.Derivation
import SemanticLayer.Filter.Template

/-!
# Ways of passing arguments

The first parameters of what is called may get their arguments by position and the others by keyword
in any order. Whichever way the arguments are passed, the same ones are bound, so a template denotes
the same calls or has the same fault.
-/

namespace SemanticLayer.Filter

/-! ### Lookups by key -/

/-- Where no key is there twice, the order does not matter for what is found. -/
lemma lookup_eq_of_perm {α β : Type} [BEq α] [LawfulBEq α] {l l' : List (α × β)} (h : l.Perm l')
    (hkeys : (l.map Prod.fst).Nodup) (k : α) : l.lookup k = l'.lookup k := by
  induction h with
  | nil => rfl
  | cons a _ ih =>
    rw [List.lookup_cons, List.lookup_cons, ih (List.nodup_cons.1 hkeys).2]
  | swap a b l =>
    have hne : b.1 ≠ a.1 := by
      intro heq
      simp [heq] at hkeys
    rw [List.lookup_cons, List.lookup_cons, List.lookup_cons, List.lookup_cons]
    by_cases hb : k = b.1
    · subst hb
      rw [beq_eq_false_iff_ne.2 hne]
    · rw [beq_eq_false_iff_ne.2 hb]
  | trans h _ ih ih' => exact (ih hkeys).trans (ih' ((h.map Prod.fst).nodup_iff.1 hkeys))

/-! ### Passing arguments -/

/-- The parameters of what is called, in order. -/
def Callee.parameters : Callee → List String
  | .dimension     => ["name", "entity_path"]
  | .timeDimension =>
    ["time_dimension_name", "time_granularity_name", "entity_path", "descending", "date_part_name"]
  | .entity        => ["entity_name", "entity_path"]
  | .metric        => ["metric_name", "group_by"]

/-- The values of those parameters that are given one. -/
def givenValues (given : String → Option Literal) (parameters : List String) :
    List (String × Literal) :=
  parameters.filterMap fun p => (given p).map (p, ·)

/-- The arguments give every parameter the value `given`, if there is one: the first parameters by
position, without a gap, and the others by keyword in some order. -/
structure Passes (parameters : List String) (given : String → Option Literal) (a : Arguments) :
    Prop where
  positional : (parameters.take a.positional.length).map given = a.positional.map some
  keyword    : a.keyword.Perm (givenValues given (parameters.drop a.positional.length))

section Given

variable {given : String → Option Literal} {parameters : List String}

lemma givenValues_append (ps qs : List String) :
    givenValues given (ps ++ qs) = givenValues given ps ++ givenValues given qs :=
  List.filterMap_append

/-- Only parameters have values. -/
lemma map_fst_givenValues_sublist :
    ((givenValues given parameters).map Prod.fst).Sublist parameters := by
  induction parameters with
  | nil => exact .slnil
  | cons p ps ih =>
    rw [givenValues, List.filterMap_cons]
    cases given p with
    | none => exact ih.cons p
    | some v => exact ih.cons_cons p

/-- Parameters that all have values are zipped with these. -/
lemma zip_eq_givenValues {vs : List Literal} (h : parameters.map given = vs.map some) :
    parameters.zip vs = givenValues given parameters := by
  induction parameters generalizing vs with
  | nil => rfl
  | cons p ps ih =>
    cases vs with
    | nil => simp at h
    | cons v vs =>
      obtain ⟨hv, hvs⟩ : given p = some v ∧ ps.map given = vs.map some := by simpa using h
      rw [List.zip_cons_cons, ih hvs, givenValues, givenValues, List.filterMap_cons, hv]
      rfl

/-- There are no more positional arguments than parameters. -/
lemma Passes.length_positional_le {a : Arguments} (h : Passes parameters given a) :
    a.positional.length ≤ parameters.length := by
  have hlength := congrArg List.length h.positional
  simp only [List.length_map, List.length_take] at hlength
  omega

/-- The values that are passed are those that are given, in some order. -/
lemma Passes.perm {a : Arguments} (h : Passes parameters given a) :
    (parameters.zip a.positional ++ a.keyword).Perm (givenValues given parameters) := by
  have hzip : parameters.zip a.positional =
      givenValues given (parameters.take a.positional.length) := by
    rw [← zip_eq_givenValues h.positional, List.zip_eq_zip_take_min,
      Nat.min_eq_right h.length_positional_le, List.take_length]
  conv_rhs => rw [← List.take_append_drop a.positional.length parameters]
  rw [hzip, givenValues_append]
  exact h.keyword.append_left _

end Given

/-! ### Bindings -/

/-- Keywords of different parameters, none of which has a value yet, are all bound. -/
lemma bindKeywords_eq_ok {call : String} {parameters : List String}
    {values kvs : List (String × Literal)} (hkeys : ((values ++ kvs).map Prod.fst).Nodup)
    (hmem : ∀ kv ∈ kvs, kv.1 ∈ parameters) :
    bindKeywords call parameters values kvs = .ok (values ++ kvs) := by
  induction kvs generalizing values with
  | nil => rw [bindKeywords, List.append_nil]
  | cons kv kvs ih =>
    obtain ⟨k, v⟩ := kv
    obtain ⟨hk, hkvs⟩ := List.forall_mem_cons.1 hmem
    have hcons : values ++ (k, v) :: kvs = values ++ [(k, v)] ++ kvs := by simp
    have hfree : values.lookup k = none := by
      rw [List.lookup_eq_none_iff]
      rintro ⟨k', v'⟩ hk'
      rw [List.map_append, List.nodup_append] at hkeys
      simpa using (hkeys.2.2 k' (List.mem_map_of_mem hk') k (by simp)).symm
    rw [hcons] at hkeys ⊢
    simpa [bindKeywords, hk, hfree] using ih hkeys hkvs

/-- The bindings have the same value for every parameter. -/
structure Bindings.Agree (b b' : Bindings) : Prop where
  call   : b.call = b'.call
  lookup : ∀ p, b.values.lookup p = b'.values.lookup p

namespace Bindings.Agree

variable {b b' : Bindings} (h : b.Agree b')
include h

lemma text? (p : String) : b.text? p = b'.text? p := by
  rw [Bindings.text?, Bindings.text?, h.lookup, h.call]

lemma text (p : String) : b.text p = b'.text p := by
  rw [Bindings.text, Bindings.text, h.text?, h.call]

lemma itemTexts (p : String) (vs : List Literal) : b.itemTexts p vs = b'.itemTexts p vs := by
  induction vs with
  | nil => rfl
  | cons v vs ih =>
    cases v with
    | text s => rw [Bindings.itemTexts, Bindings.itemTexts, ih]
    | _ => simp only [Bindings.itemTexts, h.call]

lemma texts (p : String) : b.texts p = b'.texts p := by
  rw [Bindings.texts, Bindings.texts, h.lookup, h.call]
  simp only [h.itemTexts]

lemma bool? (p : String) : b.bool? p = b'.bool? p := by
  rw [Bindings.bool?, Bindings.bool?, h.lookup, h.call]

end Bindings.Agree

section Binding

variable {given : String → Option Literal} {call required : String} {optional : List String}
  {a a' : Arguments}

/-- Arguments that are passed in some way are bound, unless the required one is missing. -/
lemma bindArguments_eq (call : String) (hnodup : (required :: optional).Nodup)
    (h : Passes (required :: optional) given a) :
    ∃ values, (∀ p, values.lookup p = (givenValues given (required :: optional)).lookup p) ∧
      bindArguments call required optional a =
        if (values.lookup required).isNone then .error (.missingArgument call required)
        else .ok ⟨call, values⟩ := by
  have hperm := h.perm
  have hkeys := (hperm.map Prod.fst).nodup_iff.2 (hnodup.sublist map_fst_givenValues_sublist)
  refine ⟨(required :: optional).zip a.positional ++ a.keyword, lookup_eq_of_perm hperm hkeys, ?_⟩
  have hmem : ∀ kv ∈ a.keyword, kv.1 ∈ required :: optional := by
    intro kv hkv
    have hgiven := hperm.subset (List.mem_append_right _ hkv)
    exact map_fst_givenValues_sublist.subset (List.mem_map_of_mem hgiven)
  rw [bindArguments]
  simp only [bindKeywords_eq_ok hkeys hmem, Nat.not_lt.2 h.length_positional_le, if_false]

/-- What is made of bound arguments does not depend on the way they are passed. -/
lemma bindArguments_bind_congr {α : Type} (hnodup : (required :: optional).Nodup)
    (h : Passes (required :: optional) given a) (h' : Passes (required :: optional) given a')
    {f : Bindings → Except FilterFault α} (hf : ∀ b b', Bindings.Agree b b' → f b = f b') :
    bindArguments call required optional a >>= f =
      bindArguments call required optional a' >>= f := by
  obtain ⟨values, hvalues, hbind⟩ := bindArguments_eq call hnodup h
  obtain ⟨values', hvalues', hbind'⟩ := bindArguments_eq call hnodup h'
  have hlookup (p : String) : values.lookup p = values'.lookup p :=
    (hvalues p).trans (hvalues' p).symm
  rw [hbind, hbind', hlookup]
  split
  · rfl
  · exact hf _ _ ⟨rfl, hlookup⟩

end Binding

/-! ### Calls -/

/-- The text is a call that gives the parameters the values `given` in some way. -/
def IsPassed (callee : Callee) (given : String → Option Literal) (methods : List Call)
    (content : List Char) : Prop :=
  ∃ ts a, tokens content = .ok ts ∧ Derives ⟨callee, a, methods⟩ ts ∧
    Passes callee.parameters given a

/-- The texts are calls that give the same parameters the same values. -/
def PassSame (content content' : List Char) : Prop :=
  ∃ callee given methods, IsPassed callee given methods content ∧
    IsPassed callee given methods content'

/-- An expression denotes the same call, or has the same fault, whichever way its arguments are
passed. -/
lemma call_eq_of_passes (custom : List String) {callee : Callee} {given : String → Option Literal}
    {a a' : Arguments} (h : Passes callee.parameters given a)
    (h' : Passes callee.parameters given a') (methods : List Call) :
    Expression.call custom ⟨callee, a, methods⟩ = Expression.call custom ⟨callee, a', methods⟩ := by
  cases callee with
  | dimension =>
    refine bindArguments_bind_congr (by decide) h h' fun b b' hb => ?_
    rw [hb.text, hb.texts]
  | timeDimension =>
    refine bindArguments_bind_congr (by decide) h h' fun b b' hb => ?_
    rw [hb.text, hb.text? "time_granularity_name", hb.texts, hb.bool?, hb.text? "date_part_name"]
  | entity =>
    refine bindArguments_bind_congr (by decide) h h' fun b b' hb => ?_
    rw [hb.text, hb.texts]
  | metric =>
    refine bindArguments_bind_congr (by decide) h h' fun b b' hb => ?_
    rw [hb.text, hb.texts]

lemma contentCall_eq_of_passSame (custom : List String) {content content' : List Char}
    (h : PassSame content content') : contentCall custom content = contentCall custom content' := by
  obtain ⟨callee, given, methods, ⟨ts, a, hts, hderives, ha⟩, ⟨ts', a', hts', hderives', ha'⟩⟩ := h
  have hread := readExpression_of_expressionTokens hderives.expressionTokens
  have hread' := readExpression_of_expressionTokens hderives'.expressionTokens
  rw [contentCall, contentCall, hts, hts']
  change (readExpression ts >>= _) = (readExpression ts' >>= _)
  rw [hread, hread']
  exact call_eq_of_passes custom ha ha' methods

lemma contentCalls_eq_of_passSame (custom : List String) {contents contents' : List (List Char)}
    (h : List.Forall₂ PassSame contents contents') :
    contentCalls custom contents = contentCalls custom contents' := by
  induction h with
  | nil => rfl
  | cons hsame _ ih => rw [contentCalls, contentCalls, contentCall_eq_of_passSame custom hsame, ih]

/-- Templates whose markers hold the same calls, with arguments passed by position or by keyword in
one way or another, are read alike: both have the same calls, or both are refused for the same
reason. -/
theorem parseTemplate_eq_of_passSame (custom : List String) {template template' : String}
    {contents contents' : List (List Char)} (h : markers template = .ok contents)
    (h' : markers template' = .ok contents') (hsame : List.Forall₂ PassSame contents contents') :
    (parseTemplate custom template).mapError FilterError.fault =
      (parseTemplate custom template').mapError FilterError.fault := by
  have hcalls : templateCalls custom template = templateCalls custom template' := by
    rw [templateCalls, templateCalls, h, h']
    exact contentCalls_eq_of_passSame custom hsame
  rw [parseTemplate, parseTemplate, hcalls]
  cases templateCalls custom template' <;> rfl

/-- The values of a time dimension's name, its granularity and its order. -/
def weekValues (parameter : String) : Option Literal :=
  [("time_dimension_name", Literal.text "visit__ds"), ("time_granularity_name", .text "week"),
    ("descending", .bool true)].lookup parameter

/-- A call with two arguments by position. -/
def weekByPosition : String := "TimeDimension('visit__ds', 'week', descending=True)"

/-- The same call with all arguments by keyword, from last to first. -/
def weekByKeyword : String :=
  "TimeDimension(descending=true, time_granularity_name=\"week\", time_dimension_name='visit__ds',)"

/-- A call with two arguments by position, and the same call with all arguments by keyword, from
last to first. -/
theorem parseTemplate_eq_weekValues :
    markers ("\x7b\x7b" ++ weekByPosition ++ "\x7d\x7d") = .ok [weekByPosition.toList] ∧
    markers ("\x7b\x7b" ++ weekByKeyword ++ "\x7d\x7d") = .ok [weekByKeyword.toList] ∧
    IsPassed .timeDimension weekValues [] weekByPosition.toList ∧
    IsPassed .timeDimension weekValues [] weekByKeyword.toList ∧
    (parseTemplate [] ("\x7b\x7b" ++ weekByPosition ++ "\x7d\x7d")).mapError FilterError.fault =
      (parseTemplate [] ("\x7b\x7b" ++ weekByKeyword ++ "\x7d\x7d")).mapError
        FilterError.fault := by
  have hposition : markers ("\x7b\x7b" ++ weekByPosition ++ "\x7d\x7d") =
      .ok [weekByPosition.toList] := by decide +kernel
  have hkeyword : markers ("\x7b\x7b" ++ weekByKeyword ++ "\x7d\x7d") =
      .ok [weekByKeyword.toList] := by decide +kernel
  have htokens : tokens weekByPosition.toList = .ok [.name "TimeDimension", .leftParen,
      .text "visit__ds", .comma, .text "week", .comma, .name "descending", .equals,
      .name "True", .rightParen] := by decide +kernel
  have htokens' : tokens weekByKeyword.toList = .ok [.name "TimeDimension", .leftParen,
      .name "descending", .equals, .name "true", .comma, .name "time_granularity_name",
      .equals, .text "week", .comma, .name "time_dimension_name", .equals, .text "visit__ds",
      .comma, .rightParen] := by decide +kernel
  have hpassed : IsPassed .timeDimension weekValues [] weekByPosition.toList :=
    ⟨_, ⟨[.text "visit__ds", .text "week"], [("descending", .bool true)]⟩, htokens,
      derives_of_readExpression (by cbv), rfl, .refl _⟩
  have hpassed' : IsPassed .timeDimension weekValues [] weekByKeyword.toList :=
    ⟨_, ⟨[], [("descending", .bool true), ("time_granularity_name", .text "week"),
      ("time_dimension_name", .text "visit__ds")]⟩, htokens',
      derives_of_readExpression (by cbv), rfl,
        List.reverse_perm (givenValues weekValues Callee.timeDimension.parameters)⟩
  exact ⟨hposition, hkeyword, hpassed, hpassed', parseTemplate_eq_of_passSame [] hposition hkeyword
    (.cons ⟨_, _, _, hpassed, hpassed'⟩ .nil)⟩

end SemanticLayer.Filter

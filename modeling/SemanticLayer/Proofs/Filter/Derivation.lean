import Mathlib.Data.List.Forall2
import SemanticLayer.Proofs.Filter.Grammar

/-!
# Derivations of call expressions

The grammar of call expressions with its lists seen as a whole: arguments and items stand in order
with commas between them, a comma may follow the last one, and no argument without a keyword stands
behind one with a keyword. Tokens are read as an expression just when they derive from it.
-/

namespace SemanticLayer.Filter

/-! ### Lists with commas -/

/-- The tokens are those of the items in order, with commas between them. A comma may stand behind
the last one. -/
inductive Listed : List (List Token) → List Token → Prop
  | between (tss : List (List Token)) : Listed tss ([.comma].intercalate tss)
  | behind {tss : List (List Token)} (h : tss ≠ []) :
      Listed tss ([.comma].intercalate tss ++ [.comma])

lemma listed_nil_iff {us : List Token} : Listed [] us ↔ us = [] := by
  constructor
  · intro h
    cases h with
    | between => rfl
    | behind h => exact absurd rfl h
  · rintro rfl
    exact .between []

/-- Behind the first item there is nothing, or a comma and the list of the others. -/
lemma listed_cons_iff {ts us : List Token} {tss : List (List Token)} :
    Listed (ts :: tss) us ↔
      (tss = [] ∧ us = ts) ∨ ∃ us', Listed tss us' ∧ us = ts ++ .comma :: us' := by
  constructor
  · intro h
    cases tss with
    | nil =>
      cases h with
      | between => exact .inl ⟨rfl, by simp⟩
      | behind => exact .inr ⟨[], .between [], by simp⟩
    | cons ts' tss =>
      cases h with
      | between => exact .inr ⟨_, .between _, by simp [List.intercalate_cons_cons]⟩
      | behind =>
        exact .inr ⟨_, .behind (List.cons_ne_nil ts' tss), by simp [List.intercalate_cons_cons]⟩
  · rintro (⟨rfl, rfl⟩ | ⟨us', h, rfl⟩)
    · simpa using Listed.between [us]
    · cases h with
      | between =>
        cases tss with
        | nil => simpa using Listed.behind (List.cons_ne_nil ts [])
        | cons ts' tss =>
          simpa [List.intercalate_cons_cons] using Listed.between (ts :: ts' :: tss)
      | behind h =>
        obtain ⟨ts', tss, rfl⟩ := List.exists_cons_of_ne_nil h
        simpa [List.intercalate_cons_cons] using
          Listed.behind (List.cons_ne_nil ts (ts' :: tss))

/-! ### Grammar -/

/-- The tokens derive from the literal: a text, a list of literals in brackets, or the name of a
constant. -/
inductive DerivesLiteral : Literal → List Token → Prop
  | text (s : String) : DerivesLiteral (.text s) [.text s]
  | list {vs : List Literal} {tss : List (List Token)} {ts : List Token}
      (h : List.Forall₂ DerivesLiteral vs tss) (hts : Listed tss ts) :
      DerivesLiteral (.list vs) (.leftBracket :: (ts ++ [.rightBracket]))
  | yes {s : String} (h : s ∈ ["True", "true"]) : DerivesLiteral (.bool true) [.name s]
  | no {s : String} (h : s ∈ ["False", "false"]) : DerivesLiteral (.bool false) [.name s]
  | none {s : String} (h : s ∈ ["None", "none"]) : DerivesLiteral .none [.name s]

/-- The tokens derive from an argument, with its keyword if it has one. -/
inductive DerivesArgument : Option String × Literal → List Token → Prop
  | positional {v : Literal} {ts : List Token} (h : DerivesLiteral v ts) :
      DerivesArgument (none, v) ts
  | keyword (k : String) {v : Literal} {ts : List Token} (h : DerivesLiteral v ts) :
      DerivesArgument (some k, v) (.name k :: .equals :: ts)

/-- The arguments in order: those without a keyword before those with one. -/
def Arguments.inOrder (a : Arguments) : List (Option String × Literal) :=
  a.positional.map (none, ·) ++ a.keyword.map fun (k, v) => (some k, v)

/-- The tokens derive from arguments in parentheses. -/
inductive DerivesArguments : Arguments → List Token → Prop
  | mk {a : Arguments} {tss : List (List Token)} {ts : List Token}
      (h : List.Forall₂ DerivesArgument a.inOrder tss) (hts : Listed tss ts) :
      DerivesArguments a (.leftParen :: (ts ++ [.rightParen]))

/-- The tokens derive from a method call. -/
inductive DerivesMethod : Call → List Token → Prop
  | mk (m : String) {a : Arguments} {ts : List Token} (h : DerivesArguments a ts) :
      DerivesMethod ⟨m, a⟩ (.dot :: .name m :: ts)

/-- The tokens derive from a whole expression. -/
inductive Derives : Expression → List Token → Prop
  | mk (callee : Callee) {a : Arguments} {ms : List Call} {ts : List Token}
      {tss : List (List Token)} (h : DerivesArguments a ts)
      (hms : List.Forall₂ DerivesMethod ms tss) :
      Derives ⟨callee, a, ms⟩ (.name callee.name :: (ts ++ tss.flatten))

/-! ### Constants -/

lemma derivesLiteral_name {s : String} {v : Literal} (h : Literal.ofName? s = some v) :
    DerivesLiteral v [.name s] := by
  unfold Literal.ofName? at h
  split at h <;> cases h
  · exact .yes (by decide)
  · exact .yes (by decide)
  · exact .no (by decide)
  · exact .no (by decide)
  · exact .none (by decide)
  · exact .none (by decide)

/-- The names of a constant stand for it. -/
lemma literalTokens_name {names : List String} {v : Literal}
    (hnames : ∀ s ∈ names, Literal.ofName? s = some v) {s : String} (h : s ∈ names) :
    LiteralTokens v [.name s] :=
  .name (hnames s h)

/-! ### Arguments in order -/

namespace Arguments

variable {a : Arguments} {arg : Option String × Literal} {args : List (Option String × Literal)}

/-- An argument stands in front of others unless it has a keyword and one of them has none. -/
lemma inOrder_cons (h : arg.1.isSome → a.positional = []) :
    (Arguments.cons arg a).inOrder = arg :: a.inOrder := by
  obtain ⟨k, v⟩ := arg
  cases k with
  | none => rfl
  | some k => simp [Arguments.cons, consKeyword, inOrder, h rfl]

lemma positional_cons (harg : arg.1.isSome) (h : a.positional = []) :
    (Arguments.cons arg a).positional = [] := by
  obtain ⟨k, v⟩ := arg
  obtain ⟨k, rfl⟩ := Option.isSome_iff_exists.1 harg
  exact h

lemma eq_empty_of_inOrder (h : a.inOrder = []) : a = .empty := by
  obtain ⟨vs, kvs⟩ := a
  simp only [inOrder, List.append_eq_nil_iff, List.map_eq_nil_iff] at h
  rw [h.1, h.2]
  rfl

/-- The first argument stands in front of the others. Behind one with a keyword all have one. -/
lemma exists_cons_of_inOrder (h : a.inOrder = arg :: args) :
    ∃ a', a = .cons arg a' ∧ a'.inOrder = args ∧ (arg.1.isSome → a'.positional = []) ∧
      (a.positional = [] → arg.1.isSome) := by
  obtain ⟨vs, kvs⟩ := a
  cases vs with
  | nil =>
    cases kvs with
    | nil => simp [inOrder] at h
    | cons kv kvs =>
      obtain ⟨rfl, rfl⟩ : (some kv.1, kv.2) = arg ∧ kvs.map (fun (k, v) => (some k, v)) = args := by
        simpa [inOrder] using h
      exact ⟨⟨[], kvs⟩, rfl, rfl, fun _ => rfl, fun _ => rfl⟩
  | cons v vs =>
    obtain ⟨rfl, rfl⟩ : (none, v) = arg ∧ (Arguments.mk vs kvs).inOrder = args := by
      simpa [inOrder] using h
    exact ⟨⟨vs, kvs⟩, rfl, rfl, by simp, by simp⟩

end Arguments

/-! ### Reading what derives -/

lemma itemTokens_of_listed {vs : List Literal} {tss : List (List Token)} {ts : List Token}
    (h : List.Forall₂ LiteralTokens vs tss) (hts : Listed tss ts) :
    ItemTokens vs (ts ++ [.rightBracket]) := by
  induction h generalizing ts with
  | nil =>
    obtain rfl := listed_nil_iff.1 hts
    exact .nil
  | cons hv hvs ih =>
    obtain ⟨rfl, rfl⟩ | ⟨us, hus, rfl⟩ := listed_cons_iff.1 hts
    · cases hvs with
      | nil => exact .last hv
    · rw [List.append_assoc, List.cons_append]
      exact .cons hv (ih hus)

mutual

theorem DerivesLiteral.literalTokens {v : Literal} {ts : List Token} (h : DerivesLiteral v ts) :
    LiteralTokens v ts := by
  match h with
  | .text s => exact .text s
  | .list h hts => exact .list (itemTokens_of_listed (forall₂_literalTokens h) hts)
  | .yes h => exact literalTokens_name (by simp [Literal.ofName?]) h
  | .no h => exact literalTokens_name (by simp [Literal.ofName?]) h
  | .none h => exact literalTokens_name (by simp [Literal.ofName?]) h
termination_by sizeOf v

theorem forall₂_literalTokens {vs : List Literal} {tss : List (List Token)}
    (h : List.Forall₂ DerivesLiteral vs tss) : List.Forall₂ LiteralTokens vs tss := by
  match h with
  | .nil => exact .nil
  | .cons hv hvs => exact .cons hv.literalTokens (forall₂_literalTokens hvs)
termination_by sizeOf vs

end

lemma DerivesArgument.argumentTokens {arg : Option String × Literal} {ts : List Token}
    (h : DerivesArgument arg ts) : ArgumentTokens arg ts := by
  cases h with
  | positional h => exact .positional h.literalTokens
  | keyword k h => exact .keyword k h.literalTokens

lemma argumentsTokens_of_listed {after : Bool} {a : Arguments} {tss : List (List Token)}
    {ts : List Token} (hafter : after → a.positional = [])
    (h : List.Forall₂ DerivesArgument a.inOrder tss) (hts : Listed tss ts) :
    ArgumentsTokens after a (ts ++ [.rightParen]) := by
  induction tss generalizing after a ts with
  | nil =>
    obtain rfl := listed_nil_iff.1 hts
    rw [Arguments.eq_empty_of_inOrder (List.forall₂_nil_right_iff.1 h)]
    exact .nil
  | cons us tss ih =>
    obtain ⟨arg, args, harg, hargs, hcons⟩ := List.forall₂_cons_right_iff.1 h
    obtain ⟨a', rfl, rfl, hkeyword, hplace⟩ := Arguments.exists_cons_of_inOrder hcons
    have hplace' : after → arg.1.isSome := fun h => hplace (hafter h)
    obtain ⟨rfl, rfl⟩ | ⟨us', hus', rfl⟩ := listed_cons_iff.1 hts
    · rw [Arguments.eq_empty_of_inOrder (List.forall₂_nil_right_iff.1 hargs)]
      exact .last hplace' harg.argumentTokens
    · rw [List.append_assoc, List.cons_append]
      refine .cons hplace' harg.argumentTokens (ih (fun h => hkeyword ?_) hargs hus')
      obtain h | h := Bool.or_eq_true_iff.1 h
      · exact hplace' h
      · exact h

lemma DerivesArguments.exists_argumentsTokens {a : Arguments} {ts : List Token}
    (h : DerivesArguments a ts) :
    ∃ us, ArgumentsTokens false a us ∧ ts = .leftParen :: us := by
  cases h with
  | mk h hts => exact ⟨_, argumentsTokens_of_listed (by simp) h hts, rfl⟩

lemma methodTokens_of_forall₂ {ms : List Call} {tss : List (List Token)}
    (h : List.Forall₂ DerivesMethod ms tss) : MethodTokens ms tss.flatten := by
  induction h with
  | nil => exact .nil
  | cons hm _ ih =>
    cases hm with
    | mk m ha =>
      obtain ⟨us, hus, rfl⟩ := ha.exists_argumentsTokens
      exact .cons hus ih

lemma Derives.expressionTokens {e : Expression} {ts : List Token} (h : Derives e ts) :
    ExpressionTokens e ts := by
  cases h with
  | mk callee ha hms =>
    obtain ⟨us, hus, rfl⟩ := ha.exists_argumentsTokens
    exact .mk hus (methodTokens_of_forall₂ hms)

/-! ### Steps of the readers -/

/-- Items that were read start with a literal. Behind it stand a comma and the other items, or the
end. -/
lemma exists_of_readItems {ts rest : List Token} {vs : List Literal}
    (hend : ts.head? ≠ some .rightBracket) (h : parts (readItems ts) = .ok (vs, rest)) :
    ∃ v more, parts (readLiteral ts) = .ok (v, more) ∧
      ((∃ more' vs', more = .comma :: more' ∧ parts (readItems more') = .ok (vs', rest) ∧
          vs = v :: vs') ∨
        (more = .rightBracket :: rest ∧ vs = [v])) := by
  rw [parts_readItems hend] at h
  split at h
  · contradiction
  · next v more hread =>
    obtain ⟨⟨vs', rest'⟩, hitems, hvs⟩ := map_eq_ok_iff.1 h
    obtain ⟨rfl, rfl⟩ := Prod.mk.inj hvs
    exact ⟨v, _, hread, .inl ⟨more, vs', rfl, hitems, rfl⟩⟩
  · next v more hread =>
    obtain ⟨rfl, rfl⟩ := Prod.mk.inj (Except.ok.inj h)
    exact ⟨v, _, hread, .inr ⟨rfl, rfl⟩⟩
  · contradiction

/-- Arguments that were read start with one of them. Behind it stand a comma and the others, or the
end. -/
lemma exists_of_readArguments {call : String} {after : Bool} {ts rest : List Token} {a : Arguments}
    (hend : ts.head? ≠ some .rightParen) (h : parts (readArguments call after ts) = .ok (a, rest)) :
    ∃ arg more, parts (readArgument call after ts) = .ok (arg, more) ∧
      ((∃ more' a', more = .comma :: more' ∧
          parts (readArguments call (after || arg.1.isSome) more') = .ok (a', rest) ∧
          a = .cons arg a') ∨
        (more = .rightParen :: rest ∧ a = .cons arg .empty)) := by
  rw [parts_readArguments call after hend] at h
  split at h
  · contradiction
  · next arg more hread =>
    obtain ⟨⟨a', rest'⟩, hothers, ha⟩ := map_eq_ok_iff.1 h
    obtain ⟨rfl, rfl⟩ := Prod.mk.inj ha
    exact ⟨arg, _, hread, .inl ⟨more, a', rfl, hothers, rfl⟩⟩
  · next arg more hread =>
    obtain ⟨rfl, rfl⟩ := Prod.mk.inj (Except.ok.inj h)
    exact ⟨arg, _, hread, .inr ⟨rfl, rfl⟩⟩
  · contradiction
  · contradiction

/-! ### Deriving what is read -/

-- A reading goes on with fewer tokens than it started from, so what derives from these is known.
mutual

theorem derivesLiteral_of_readLiteral {ts rest : List Token} {v : Literal}
    (h : parts (readLiteral ts) = .ok (v, rest)) :
    ∃ us, DerivesLiteral v us ∧ ts = us ++ rest := by
  match ts with
  | .text s :: ts =>
    obtain ⟨rfl, rfl⟩ : .text s = v ∧ ts = rest := by simpa using h
    exact ⟨[.text s], .text s, rfl⟩
  | .leftBracket :: ts =>
    rw [parts_readLiteral_leftBracket] at h
    obtain ⟨⟨vs, rest'⟩, hread, hvs⟩ := map_eq_ok_iff.1 h
    obtain ⟨rfl, rfl⟩ : v = .list vs ∧ rest = rest' := by simpa using hvs
    obtain ⟨tss, us, hitems, hus, rfl⟩ := forall₂_of_readItems hread
    exact ⟨_, .list hitems hus, by simp⟩
  | .name s :: ts =>
    cases hname : Literal.ofName? s with
    | none =>
      rw [readLiteral] at h
      split at h <;> simp_all [parts, Except.map]
    | some v' =>
      rw [parts_readLiteral_name hname] at h
      obtain ⟨rfl, rfl⟩ : v' = v ∧ ts = rest := by simpa using h
      exact ⟨[.name s], derivesLiteral_name hname, rfl⟩
  | [] | .leftParen :: _ | .rightParen :: _ | .rightBracket :: _ | .comma :: _ | .equals :: _
  | .dot :: _ => simp [readLiteral, parts, Except.map] at h
termination_by (ts.length, 0)

theorem forall₂_of_readItems {ts rest : List Token} {vs : List Literal}
    (h : parts (readItems ts) = .ok (vs, rest)) :
    ∃ tss us, List.Forall₂ DerivesLiteral vs tss ∧ Listed tss us ∧
      ts = us ++ .rightBracket :: rest := by
  by_cases hend : ts.head? = some .rightBracket
  · obtain ⟨ts, rfl⟩ : ∃ ts', ts = .rightBracket :: ts' := by
      cases ts <;> simp_all
    obtain ⟨rfl, rfl⟩ : [] = vs ∧ ts = rest := by simpa using h
    exact ⟨[], [], .nil, .between [], rfl⟩
  · obtain ⟨v, more, hread, hmore⟩ := exists_of_readItems hend h
    obtain ⟨us, hv, rfl⟩ := derivesLiteral_of_readLiteral hread
    obtain ⟨more', vs', rfl, hitems, rfl⟩ | ⟨rfl, rfl⟩ := hmore
    · obtain ⟨tss, us', hvs', hus', rfl⟩ := forall₂_of_readItems hitems
      exact ⟨us :: tss, us ++ .comma :: us', .cons hv hvs',
        listed_cons_iff.2 (.inr ⟨us', hus', rfl⟩), by simp⟩
    · exact ⟨[us], us, .cons hv .nil, listed_cons_iff.2 (.inl ⟨rfl, rfl⟩), rfl⟩
termination_by (ts.length, 1)

end

/-- An argument without a keyword stands behind none with one. -/
theorem derivesArgument_of_readArgument {call : String} {after : Bool} {ts rest : List Token}
    {arg : Option String × Literal} (h : parts (readArgument call after ts) = .ok (arg, rest)) :
    (after → arg.1.isSome) ∧ ∃ us, DerivesArgument arg us ∧ ts = us ++ rest := by
  by_cases hkeyword : ∃ k ts', ts = .name k :: .equals :: ts'
  · obtain ⟨k, ts, rfl⟩ := hkeyword
    rw [parts_readArgument_keyword] at h
    obtain ⟨⟨v, rest'⟩, hread, hv⟩ := map_eq_ok_iff.1 h
    obtain ⟨rfl, rfl⟩ : arg = (some k, v) ∧ rest = rest' := by simpa using hv
    obtain ⟨us, hus, rfl⟩ := derivesLiteral_of_readLiteral hread
    exact ⟨fun _ => rfl, _, .keyword k hus, rfl⟩
  · have hne : ∀ k ts', ts ≠ .name k :: .equals :: ts' :=
      fun k ts' heq => hkeyword ⟨k, ts', heq⟩
    cases after with
    | true =>
      rw [readArgument] at h
      · simp [parts, Except.map] at h
      · exact hne
    | false =>
      rw [parts_readArgument_positional call hne] at h
      obtain ⟨⟨v, rest'⟩, hread, hv⟩ := map_eq_ok_iff.1 h
      obtain ⟨rfl, rfl⟩ : arg = (none, v) ∧ rest = rest' := by simpa using hv
      obtain ⟨us, hus, rfl⟩ := derivesLiteral_of_readLiteral hread
      exact ⟨by simp, us, .positional hus, rfl⟩

theorem forall₂_of_readArguments {call : String} {after : Bool} {ts rest : List Token}
    {a : Arguments} (h : parts (readArguments call after ts) = .ok (a, rest)) :
    (after → a.positional = []) ∧ ∃ tss us, List.Forall₂ DerivesArgument a.inOrder tss ∧
      Listed tss us ∧ ts = us ++ .rightParen :: rest := by
  by_cases hend : ts.head? = some .rightParen
  · obtain ⟨ts, rfl⟩ : ∃ ts', ts = .rightParen :: ts' := by
      cases ts <;> simp_all
    obtain ⟨rfl, rfl⟩ : .empty = a ∧ ts = rest := by simpa using h
    exact ⟨fun _ => rfl, [], [], .nil, .between [], rfl⟩
  · obtain ⟨arg, more, hread, hmore⟩ := exists_of_readArguments hend h
    obtain ⟨hplace, us, harg, rfl⟩ := derivesArgument_of_readArgument hread
    obtain ⟨more', a', rfl, hothers, rfl⟩ | ⟨rfl, rfl⟩ := hmore
    · obtain ⟨hafter, tss, us', hargs, hus', rfl⟩ := forall₂_of_readArguments hothers
      have hcons : (Arguments.cons arg a').inOrder = arg :: a'.inOrder :=
        Arguments.inOrder_cons fun hkeyword => hafter (by simp [hkeyword])
      refine ⟨fun h => Arguments.positional_cons (hplace h) (hafter (by simp [h])),
        us :: tss, us ++ .comma :: us', ?_, listed_cons_iff.2 (.inr ⟨us', hus', rfl⟩), by simp⟩
      rw [hcons]
      exact .cons harg hargs
    · have hcons : (Arguments.cons arg .empty).inOrder = [arg] :=
        Arguments.inOrder_cons fun _ => rfl
      refine ⟨fun h => Arguments.positional_cons (hplace h) rfl, [us], us, ?_,
        listed_cons_iff.2 (.inl ⟨rfl, rfl⟩), rfl⟩
      rw [hcons]
      exact .cons harg .nil
termination_by ts.length

theorem derivesArguments_of_readCallArguments {call : String} {ts rest : List Token}
    {a : Arguments} (h : parts (readCallArguments call ts) = .ok (a, rest)) :
    ∃ us, DerivesArguments a us ∧ ts = us ++ rest := by
  match ts with
  | .leftParen :: ts =>
    rw [parts_readCallArguments] at h
    obtain ⟨-, tss, us, hargs, hus, rfl⟩ := forall₂_of_readArguments h
    exact ⟨_, .mk hargs hus, by simp⟩
  | [] | .name _ :: _ | .text _ :: _ | .rightParen :: _ | .leftBracket :: _ | .rightBracket :: _
  | .comma :: _ | .equals :: _ | .dot :: _ => simp [readCallArguments, parts, Except.map] at h

theorem forall₂_of_readMethods {ts : List Token} {ms : List Call} (h : readMethods ts = .ok ms) :
    ∃ tss, List.Forall₂ DerivesMethod ms tss ∧ ts = tss.flatten := by
  fun_induction readMethods ts generalizing ms with
  | case1 =>
    obtain rfl : [] = ms := by simpa using h
    exact ⟨[], .nil, rfl⟩
  | case4 m ts a rest _ hargs ms' hread ih =>
    obtain rfl : ⟨m, a⟩ :: ms' = ms := by simpa using h
    have hparts : parts (readCallArguments m ts) = .ok (a, rest) := by
      rw [hargs]
      rfl
    obtain ⟨us, hus, rfl⟩ := derivesArguments_of_readCallArguments hparts
    obtain ⟨tss, hms, rfl⟩ := ih hread
    exact ⟨_, .cons (.mk m hus) hms, by simp⟩
  | _ => simp at h

lemma derives_of_readExpression {ts : List Token} {e : Expression} :
    readExpression ts = .ok e → Derives e ts := by
  fun_cases readExpression ts with
  | case5 s rest callee hcallee _ a more _ hargs ms hms =>
    intro h
    obtain rfl : ⟨callee, a, ms⟩ = e := by simpa using h
    obtain rfl : callee.name = s := Vocabulary.name_of_ofName? hcallee
    have hparts : parts (readCallArguments callee.name rest) = .ok (a, more) := by
      rw [hargs]
      rfl
    obtain ⟨us, hus, rfl⟩ := derivesArguments_of_readCallArguments hparts
    obtain ⟨tss, hderives, rfl⟩ := forall₂_of_readMethods hms
    exact .mk callee hus hderives
  | _ => simp

/-- Tokens are read as an expression just when they derive from it. -/
theorem readExpression_eq_ok_iff {ts : List Token} {e : Expression} :
    readExpression ts = .ok e ↔ Derives e ts := by
  constructor
  · exact derives_of_readExpression
  · intro h
    exact readExpression_of_expressionTokens h.expressionTokens

end SemanticLayer.Filter

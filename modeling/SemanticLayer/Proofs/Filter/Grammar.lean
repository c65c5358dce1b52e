import Mathlib.Tactic.Common
import SemanticLayer.Filter.Expression

/-!
# The grammar of call expressions

Which tokens stand for a literal, for the arguments of a call and for a whole expression, said
without a reader. A reader that starts with such tokens takes exactly these and returns what they
stand for.
-/

namespace SemanticLayer.Filter

/-! ### Results -/

lemma map_eq_ok_iff {α β ε : Type} {f : α → β} {x : Except ε α} {b : β} :
    f <$> x = .ok b ↔ ∃ a, x = .ok a ∧ b = f a := by
  cases x <;> simp [Functor.map, Except.map, eq_comm]

lemma bind_eq_ok_iff {α β ε : Type} {f : α → Except ε β} {x : Except ε α} {b : β} :
    x >>= f = .ok b ↔ ∃ a, x = .ok a ∧ f a = .ok b := by
  cases x <;> simp [bind, Except.bind]

/-! ### Readings without bounds -/

variable {α : Type} {ts : List Token}

/-- What was read and what follows it. -/
def parts (r : Except FilterFault (Reading α ts)) : Except FilterFault (α × List Token) :=
  r.map fun reading => (reading.value, reading.rest)

@[simp] lemma parts_readLiteral_text (s : String) (rest : List Token) :
    parts (readLiteral (.text s :: rest)) = .ok (.text s, rest) := by
  rw [readLiteral]
  rfl

lemma parts_readLiteral_name {s : String} {v : Literal} (h : Literal.ofName? s = some v)
    (rest : List Token) : parts (readLiteral (.name s :: rest)) = .ok (v, rest) := by
  rw [readLiteral]
  split
  · simp_all [parts, Except.map]
  · simp_all

@[simp] lemma parts_readLiteral_leftBracket (rest : List Token) :
    parts (readLiteral (.leftBracket :: rest)) =
      (parts (readItems rest)).map fun r => (.list r.1, r.2) := by
  rw [readLiteral]
  cases readItems rest <;> rfl

@[simp] lemma parts_readItems_rightBracket (rest : List Token) :
    parts (readItems (.rightBracket :: rest)) = .ok ([], rest) := by
  rw [readItems]
  rfl

/-- Reading items is reading one literal and, behind a comma, the other items. -/
lemma parts_readItems (h : ts.head? ≠ some .rightBracket) :
    parts (readItems ts) =
      match parts (readLiteral ts) with
      | .error e                         => .error e
      | .ok (v, .comma :: rest)          => (parts (readItems rest)).map fun r => (v :: r.1, r.2)
      | .ok (v, .rightBracket :: rest)   => .ok ([v], rest)
      | .ok _                            => .error .unclosedList := by
  rw [readItems]
  · cases hread : readLiteral ts with
    | error e => rfl
    | ok r =>
      obtain ⟨v, rest, hlt⟩ := r
      cases rest with
      | nil => rfl
      | cons t rest =>
        cases t with
        | comma =>
          simp only [parts, Except.map]
          cases readItems rest <;> rfl
        | _ => rfl
  · rintro rest rfl
    simp at h

@[simp] lemma parts_readArgument_keyword (call k : String) (after : Bool) (rest : List Token) :
    parts (readArgument call after (.name k :: .equals :: rest)) =
      (parts (readLiteral rest)).map fun r => ((some k, r.1), r.2) := by
  rw [readArgument]
  cases readLiteral rest <;> rfl

/-- Without a keyword in front an argument is a literal. -/
lemma parts_readArgument_positional (call : String)
    (h : ∀ k rest, ts ≠ .name k :: .equals :: rest) :
    parts (readArgument call false ts) =
      (parts (readLiteral ts)).map fun r => ((none, r.1), r.2) := by
  rw [readArgument]
  · rw [if_neg Bool.false_ne_true]
    cases readLiteral ts <;> rfl
  · exact h

@[simp] lemma parts_readArguments_rightParen (call : String) (after : Bool) (rest : List Token) :
    parts (readArguments call after (.rightParen :: rest)) = .ok (.empty, rest) := by
  rw [readArguments]
  rfl

/-- Reading arguments is reading one of them and, behind a comma, the others. -/
lemma parts_readArguments (call : String) (after : Bool) (h : ts.head? ≠ some .rightParen) :
    parts (readArguments call after ts) =
      match parts (readArgument call after ts) with
      | .error e                       => .error e
      | .ok (arg, .comma :: rest)      =>
        (parts (readArguments call (after || arg.1.isSome) rest)).map fun r => (.cons arg r.1, r.2)
      | .ok (arg, .rightParen :: rest) => .ok (.cons arg .empty, rest)
      | .ok (_, t :: _)                => .error (.expectedSeparator t)
      | .ok (_, [])                    => .error (.unclosedArguments call) := by
  rw [readArguments]
  · cases hread : readArgument call after ts with
    | error e => rfl
    | ok r =>
      obtain ⟨arg, rest, hlt⟩ := r
      cases rest with
      | nil => rfl
      | cons t rest =>
        cases t with
        | comma =>
          simp only [parts, Except.map]
          cases readArguments call (after || arg.1.isSome) rest <;> rfl
        | _ => rfl
  · rintro rest rfl
    simp at h

@[simp] lemma parts_readCallArguments (call : String) (rest : List Token) :
    parts (readCallArguments call (.leftParen :: rest)) =
      parts (readArguments call false rest) := by
  rw [readCallArguments]
  cases readArguments call false rest <;> rfl

lemma readMethods_dot (m : String) (ts : List Token) :
    readMethods (.dot :: .name m :: ts) =
      (parts (readCallArguments m ts)).bind fun r => (readMethods r.2).map (⟨m, r.1⟩ :: ·) := by
  rw [readMethods]
  cases readCallArguments m ts with
  | error => rfl
  | ok r =>
    simp only [parts, Except.map, Except.bind]
    cases readMethods r.rest <;> rfl

lemma readExpression_name (callee : Callee) (rest : List Token) :
    readExpression (.name callee.name :: .leftParen :: rest) =
      (parts (readCallArguments callee.name (.leftParen :: rest))).bind fun r =>
        (readMethods r.2).map (⟨callee, r.1, ·⟩) := by
  have hname : Vocabulary.ofName? callee.name = some callee := Vocabulary.ofName?_name callee
  rw [readExpression, hname]
  simp only [List.head?_cons, if_true]
  cases readCallArguments callee.name (.leftParen :: rest) with
  | error => rfl
  | ok r =>
    simp only [parts, Except.map, Except.bind]
    cases readMethods r.rest <;> rfl

/-! ### Grammar -/

mutual

/-- The tokens stand for the literal. -/
inductive LiteralTokens : Literal → List Token → Prop
  | text (s : String) : LiteralTokens (.text s) [.text s]
  | name {s : String} {v : Literal} (h : Literal.ofName? s = some v) : LiteralTokens v [.name s]
  | list {vs : List Literal} {ts : List Token} (h : ItemTokens vs ts) :
      LiteralTokens (.list vs) (.leftBracket :: ts)

/-- The tokens stand for the items of a list, up to its end. -/
inductive ItemTokens : List Literal → List Token → Prop
  | nil : ItemTokens [] [.rightBracket]
  | last {v : Literal} {ts : List Token} (h : LiteralTokens v ts) :
      ItemTokens [v] (ts ++ [.rightBracket])
  | cons {v : Literal} {vs : List Literal} {ts ts' : List Token} (h : LiteralTokens v ts)
      (h' : ItemTokens vs ts') : ItemTokens (v :: vs) (ts ++ .comma :: ts')

end

/-- The tokens stand for an argument, with its keyword if it has one. -/
inductive ArgumentTokens : Option String × Literal → List Token → Prop
  | positional {v : Literal} {ts : List Token} (h : LiteralTokens v ts) :
      ArgumentTokens (none, v) ts
  | keyword (k : String) {v : Literal} {ts : List Token} (h : LiteralTokens v ts) :
      ArgumentTokens (some k, v) (.name k :: .equals :: ts)

/-- The tokens stand for the arguments of a call, up to its end. Behind an argument with a keyword
there is none without one. -/
inductive ArgumentsTokens : Bool → Arguments → List Token → Prop
  | nil {after : Bool} : ArgumentsTokens after .empty [.rightParen]
  | last {after : Bool} {arg : Option String × Literal} {ts : List Token}
      (hplace : after → arg.1.isSome) (h : ArgumentTokens arg ts) :
      ArgumentsTokens after (.cons arg .empty) (ts ++ [.rightParen])
  | cons {after : Bool} {arg : Option String × Literal} {args : Arguments} {ts ts' : List Token}
      (hplace : after → arg.1.isSome) (h : ArgumentTokens arg ts)
      (h' : ArgumentsTokens (after || arg.1.isSome) args ts') :
      ArgumentsTokens after (.cons arg args) (ts ++ .comma :: ts')

/-- The tokens stand for method calls. -/
inductive MethodTokens : List Call → List Token → Prop
  | nil : MethodTokens [] []
  | cons {m : String} {args : Arguments} {ms : List Call} {ts ts' : List Token}
      (h : ArgumentsTokens false args ts) (h' : MethodTokens ms ts') :
      MethodTokens (⟨m, args⟩ :: ms) (.dot :: .name m :: .leftParen :: (ts ++ ts'))

/-- The tokens stand for a whole expression. -/
inductive ExpressionTokens : Expression → List Token → Prop
  | mk {callee : Callee} {args : Arguments} {ms : List Call} {ts ts' : List Token}
      (h : ArgumentsTokens false args ts) (h' : MethodTokens ms ts') :
      ExpressionTokens ⟨callee, args, ms⟩ (.name callee.name :: .leftParen :: (ts ++ ts'))

/-! ### Reading what the grammar allows -/

lemma LiteralTokens.head?_ne {v : Literal} {ts rest : List Token} (h : LiteralTokens v ts) :
    (ts ++ rest).head? ≠ some .rightBracket ∧ (ts ++ rest).head? ≠ some .rightParen := by
  cases h <;> simp

mutual

theorem readLiteral_of_literalTokens {v : Literal} {ts : List Token} (h : LiteralTokens v ts)
    (rest : List Token) : parts (readLiteral (ts ++ rest)) = .ok (v, rest) := by
  match h with
  | .text s => exact parts_readLiteral_text s rest
  | .name hv => exact parts_readLiteral_name hv rest
  | .list hvs =>
    rw [List.cons_append, parts_readLiteral_leftBracket, readItems_of_itemTokens hvs rest]
    rfl

theorem readItems_of_itemTokens {vs : List Literal} {ts : List Token} (h : ItemTokens vs ts)
    (rest : List Token) : parts (readItems (ts ++ rest)) = .ok (vs, rest) := by
  match h with
  | .nil => exact parts_readItems_rightBracket rest
  | .last hv =>
    rw [List.append_assoc, parts_readItems hv.head?_ne.1, readLiteral_of_literalTokens hv]
    rfl
  | .cons hv hvs =>
    rw [List.append_assoc, parts_readItems hv.head?_ne.1, readLiteral_of_literalTokens hv]
    simp [readItems_of_itemTokens hvs rest, Except.map]

end

/-- No literal is a name with an equals sign behind it where something else follows. -/
lemma LiteralTokens.ne_keyword {v : Literal} {ts rest : List Token} (h : LiteralTokens v ts)
    (hrest : rest.head? ≠ some .equals) (k : String) (rest' : List Token) :
    ts ++ rest ≠ .name k :: .equals :: rest' := by
  cases h with
  | text => simp
  | list => simp
  | name =>
    rintro heq
    rw [List.singleton_append, List.cons.injEq] at heq
    exact hrest (by rw [heq.2]; rfl)

theorem readArgument_of_argumentTokens {arg : Option String × Literal} {ts rest : List Token}
    (h : ArgumentTokens arg ts) (call : String) {after : Bool} (hplace : after → arg.1.isSome)
    (hrest : rest.head? ≠ some .equals) :
    parts (readArgument call after (ts ++ rest)) = .ok (arg, rest) := by
  cases h with
  | positional hv =>
    have hafter : after = false := by simpa using hplace
    rw [hafter, parts_readArgument_positional call (hv.ne_keyword hrest),
      readLiteral_of_literalTokens hv]
    rfl
  | keyword k hv =>
    rw [List.cons_append, List.cons_append, parts_readArgument_keyword,
      readLiteral_of_literalTokens hv]
    rfl

lemma ArgumentTokens.head?_ne {arg : Option String × Literal} {ts rest : List Token}
    (h : ArgumentTokens arg ts) : (ts ++ rest).head? ≠ some .rightParen := by
  cases h with
  | positional hv => exact hv.head?_ne.2
  | keyword => simp

theorem readArguments_of_argumentsTokens {after : Bool} {args : Arguments} {ts : List Token}
    (h : ArgumentsTokens after args ts) (call : String) (rest : List Token) :
    parts (readArguments call after (ts ++ rest)) = .ok (args, rest) := by
  induction h with
  | nil => exact parts_readArguments_rightParen call _ rest
  | last hplace harg =>
    rw [List.append_assoc, parts_readArguments call _ harg.head?_ne,
      readArgument_of_argumentTokens harg call hplace (by simp)]
    rfl
  | cons hplace harg _ ih =>
    rw [List.append_assoc, parts_readArguments call _ harg.head?_ne,
      readArgument_of_argumentTokens harg call hplace (by simp)]
    simp [ih, Except.map]

theorem readMethods_of_methodTokens {ms : List Call} {ts : List Token} (h : MethodTokens ms ts) :
    readMethods ts = .ok ms := by
  induction h with
  | nil => rw [readMethods]
  | cons hargs _ ih =>
    rw [readMethods_dot, parts_readCallArguments, readArguments_of_argumentsTokens hargs]
    simp [Except.bind, ih, Except.map]

/-- Tokens of an expression are read as the expression. -/
theorem readExpression_of_expressionTokens {e : Expression} {ts : List Token}
    (h : ExpressionTokens e ts) : readExpression ts = .ok e := by
  cases h with
  | mk hargs hms =>
    rw [readExpression_name, parts_readCallArguments, readArguments_of_argumentsTokens hargs]
    simp [Except.bind, readMethods_of_methodTokens hms, Except.map]

end SemanticLayer.Filter

import SemanticLayer.Filter.Fault

/-!
# Call expressions

The expression of a marker is a call to one of four names, followed by any number of method calls.
Arguments are literals, given by position and then by keyword.
-/

namespace SemanticLayer.Filter

/-- A literal argument. -/
inductive Literal where
  | text (s : String)
  | list (items : List Literal)
  | bool (b : Bool)
  | none
  deriving Repr, Inhabited

/-- The kind of a literal as messages speak of it. -/
def Literal.kindName : Literal → String
  | .text _ => "string"
  | .list _ => "list"
  | .bool _ => "boolean"
  | .none   => "None"

/-- The literal that a name stands for. -/
def Literal.ofName? : String → Option Literal
  | "True"  | "true"  => some (.bool true)
  | "False" | "false" => some (.bool false)
  | "None"  | "none"  => some .none
  | _                 => Option.none

/-- The arguments of a call in the order they are written. -/
structure Arguments where
  positional : List Literal
  keyword    : List (String × Literal)
  deriving Repr, Inhabited

namespace Arguments

/-- No arguments. -/
def empty : Arguments := ⟨[], []⟩

/-- Put a positional argument in front. -/
def consPositional (v : Literal) (a : Arguments) : Arguments :=
  { a with positional := v :: a.positional }

/-- Put a keyword argument in front. -/
def consKeyword (k : String) (v : Literal) (a : Arguments) : Arguments :=
  { a with keyword := (k, v) :: a.keyword }

end Arguments

/-- A name with its arguments. -/
structure Call where
  name      : String
  arguments : Arguments
  deriving Repr, Inhabited

/-- The names that can be called in a template. -/
inductive Callee where
  | dimension | timeDimension | entity | metric
  deriving DecidableEq, Repr

/-- The written name of what is called. -/
def Callee.name : Callee → String
  | .dimension     => "Dimension"
  | .timeDimension => "TimeDimension"
  | .entity        => "Entity"
  | .metric        => "Metric"

instance : Vocabulary Callee where
  members := [.dimension, .timeDimension, .entity, .metric]
  name := Callee.name
  mem_members a := by cases a <;> decide
  name_injective a b := by cases a <;> cases b <;> decide

/-- A call followed by method calls. -/
structure Expression where
  callee    : Callee
  arguments : Arguments
  methods   : List Call
  deriving Repr

/-! ### Reading tokens -/

/-- What was read from `ts`, and the tokens that follow, which are fewer. -/
structure Reading (α : Type) (ts : List Token) where
  value   : α
  rest    : List Token
  shorter : rest.length < ts.length

namespace Reading

variable {α β : Type} {ts ts' : List Token}

/-- Change the value that was read. -/
def map (f : α → β) (r : Reading α ts) : Reading β ts := ⟨f r.value, r.rest, r.shorter⟩

/-- What was read from fewer tokens was read from more tokens. -/
def weaken (h : ts.length ≤ ts'.length) (r : Reading α ts) : Reading α ts' :=
  ⟨r.value, r.rest, Nat.lt_of_lt_of_le r.shorter h⟩

end Reading

mutual

/-- Read one literal. -/
def readLiteral (ts : List Token) : Except FilterFault (Reading Literal ts) :=
  match ts with
  | []                 => .error (.expectedLiteral none)
  | .text s :: rest    => .ok ⟨.text s, rest, by simp⟩
  | .leftBracket :: rest =>
    match readItems rest with
    | .error e => .error e
    | .ok r    => .ok ((r.map .list).weaken (by simp))
  | .name s :: rest    =>
    match Literal.ofName? s with
    | some v      => .ok ⟨v, rest, by simp⟩
    | Option.none => .error (.unboundArgument s)
  | t :: _             => .error (.expectedLiteral (some t))
termination_by (ts.length, 0)

/-- Read the items of a list up to its end. A comma may stand behind the last one. -/
def readItems (ts : List Token) : Except FilterFault (Reading (List Literal) ts) :=
  match ts with
  | .rightBracket :: rest => .ok ⟨[], rest, by simp⟩
  | ts =>
    match readLiteral ts with
    | .error e            => .error e
    | .ok ⟨v, rest, hr⟩ =>
      match rest, hr with
      | .comma :: rest, hr =>
        match readItems rest with
        | .error e => .error e
        | .ok r    => .ok ((r.map (v :: ·)).weaken (by simp at hr; omega))
      | .rightBracket :: rest, hr => .ok ⟨[v], rest, by simp at hr; omega⟩
      | _, _ => .error .unclosedList
termination_by (ts.length, 1)
decreasing_by
  · exact Prod.Lex.right _ (by decide)
  · exact Prod.Lex.left _ _ (by simp at hr; omega)

end

/-- Read one argument of `call`: its keyword, if it has one, and its value. No argument without a
keyword stands behind one with a keyword. -/
def readArgument (call : String) (afterKeyword : Bool) (ts : List Token) :
    Except FilterFault (Reading (Option String × Literal) ts) :=
  match ts with
  | .name k :: .equals :: rest =>
    match readLiteral rest with
    | .error e => .error e
    | .ok r    => .ok ((r.map (some k, ·)).weaken (by simp; omega))
  | ts =>
    if afterKeyword then .error (.positionalAfterKeyword call)
    else
      match readLiteral ts with
      | .error e => .error e
      | .ok r    => .ok (r.map (none, ·))

/-- Put an argument in front of others. -/
def Arguments.cons : Option String × Literal → Arguments → Arguments
  | (none, v),   a => a.consPositional v
  | (some k, v), a => a.consKeyword k v

/-- Read the arguments of `call` up to the closing parenthesis. A comma may stand behind the last
one. -/
def readArguments (call : String) (afterKeyword : Bool) (ts : List Token) :
    Except FilterFault (Reading Arguments ts) :=
  match ts with
  | .rightParen :: rest => .ok ⟨.empty, rest, by simp⟩
  | ts =>
    match readArgument call afterKeyword ts with
    | .error e              => .error e
    | .ok ⟨arg, rest, hr⟩ =>
      match rest, hr with
      | .comma :: rest, hr =>
        match readArguments call (afterKeyword || arg.1.isSome) rest with
        | .error e => .error e
        | .ok r    => .ok ((r.map (.cons arg)).weaken (by simp at hr; omega))
      | .rightParen :: rest, hr => .ok ⟨.cons arg .empty, rest, by simp at hr; omega⟩
      | t :: _, _ => .error (.expectedSeparator t)
      | [], _     => .error (.unclosedArguments call)
termination_by ts.length
decreasing_by simp at hr; omega

/-- Read the parenthesised arguments of `call`. -/
def readCallArguments (call : String) (ts : List Token) :
    Except FilterFault (Reading Arguments ts) :=
  match ts with
  | .leftParen :: rest =>
    match readArguments call false rest with
    | .error e => .error e
    | .ok r    => .ok (r.weaken (by simp))
  | t :: _ => .error (.expectedToken .leftParen (some t))
  | []     => .error (.expectedToken .leftParen none)

/-- Read method calls to the end of the tokens. -/
def readMethods (ts : List Token) : Except FilterFault (List Call) :=
  match ts with
  | []                    => .ok []
  | .dot :: .name m :: ts =>
    match readCallArguments m ts with
    | .error e              => .error e
    | .ok ⟨args, rest, _⟩ =>
      match readMethods rest with
      | .error e => .error e
      | .ok ms   => .ok (⟨m, args⟩ :: ms)
  | .dot :: _ => .error .expectedMethodName
  | t :: _    => .error (.trailingToken t)
termination_by ts.length
decreasing_by simp; omega

/-- Read a whole call expression. -/
def readExpression (ts : List Token) : Except FilterFault Expression :=
  match ts with
  | []              => .error .emptyExpression
  | .name s :: rest =>
    match Vocabulary.ofName? (α := Callee) s with
    | none        => .error (.unboundName s)
    | some callee =>
      if rest.head? = some .leftParen then
        match readCallArguments s rest with
        | .error e                => .error e
        | .ok ⟨args, rest, _⟩ =>
          match readMethods rest with
          | .error e => .error e
          | .ok ms   => .ok ⟨callee, args, ms⟩
      else .error (.notCalled s)
  | t :: _ => .error (.expectedCall t)

end SemanticLayer.Filter

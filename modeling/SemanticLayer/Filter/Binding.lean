import SemanticLayer.Filter.Expression

/-!
# Binding arguments

The arguments of a call are bound to its parameters: the positional ones in order, the others by
keyword. A parameter gets at most one argument, and the first one must get one.
-/

namespace SemanticLayer.Filter

/-- The arguments of `call` by parameter. -/
structure Bindings where
  call   : String
  values : List (String × Literal)

/-- Bind keyword arguments on top of `values`. -/
def bindKeywords (call : String) (parameters : List String) :
    List (String × Literal) → List (String × Literal) → Except FilterFault (List (String × Literal))
  | values, []           => .ok values
  | values, (k, v) :: kvs =>
    if !parameters.contains k then .error (.unexpectedKeyword call k)
    else if (values.lookup k).isSome then .error (.repeatedArgument call k)
    else bindKeywords call parameters (values ++ [(k, v)]) kvs

/-- Bind the arguments of `call` to its parameters, of which the one named `required` must be
given. -/
def bindArguments (call required : String) (optional : List String) (a : Arguments) :
    Except FilterFault Bindings :=
  let parameters := required :: optional
  if parameters.length < a.positional.length then
    .error (.tooManyArguments call parameters.length a.positional.length)
  else
    match bindKeywords call parameters (parameters.zip a.positional) a.keyword with
    | .error e    => .error e
    | .ok values  =>
      if (values.lookup required).isNone then .error (.missingArgument call required)
      else .ok ⟨call, values⟩

namespace Bindings

/-- The text bound to a parameter, if it is given and not `None`. -/
def text? (b : Bindings) (parameter : String) : Except FilterFault (Option String) :=
  match b.values.lookup parameter with
  | none | some .none => .ok none
  | some (.text s)    => .ok (some s)
  | some v            => .error (.wrongArgument b.call parameter "string" v.kindName)

/-- The text bound to a parameter that must not be `None`. -/
def text (b : Bindings) (parameter : String) : Except FilterFault String :=
  match b.text? parameter with
  | .error e       => .error e
  | .ok (some s)   => .ok s
  | .ok none       => .error (.noneArgument b.call parameter)

/-- The texts of a list bound to a parameter. -/
def itemTexts (b : Bindings) (parameter : String) : List Literal → Except FilterFault (List String)
  | []            => .ok []
  | .text s :: vs =>
    match b.itemTexts parameter vs with
    | .error e => .error e
    | .ok ss   => .ok (s :: ss)
  | v :: _        => .error (.wrongListItem b.call parameter v.kindName)

/-- The list of texts bound to a parameter, which is empty when it is not given or `None`. -/
def texts (b : Bindings) (parameter : String) : Except FilterFault (List String) :=
  match b.values.lookup parameter with
  | none | some .none => .ok []
  | some (.list vs)   => b.itemTexts parameter vs
  | some v            => .error (.wrongArgument b.call parameter "list" v.kindName)

/-- The truth value bound to a parameter, if it is given and not `None`. -/
def bool? (b : Bindings) (parameter : String) : Except FilterFault (Option Bool) :=
  match b.values.lookup parameter with
  | none | some .none => .ok none
  | some (.bool v)    => .ok (some v)
  | some v            => .error (.wrongArgument b.call parameter "boolean" v.kindName)

end Bindings

end SemanticLayer.Filter

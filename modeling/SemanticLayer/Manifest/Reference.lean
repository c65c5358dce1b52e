/-!
# References to elements

An element is identified by its name together with the name of the semantic model that defines it.
References are ordered by model and then by element, names by their code points.
-/

namespace SemanticLayer

/-- A reference to an element of a semantic model. -/
structure ElementReference where
  model   : String
  element : String
  deriving DecidableEq, Repr

namespace ElementReference

/-- The written form of a reference. -/
def text (r : ElementReference) : String := r.model ++ "." ++ r.element

/-- The order of references. -/
def le (r s : ElementReference) : Bool :=
  if r.model == s.model then !(decide (s.element < r.element)) else decide (r.model < s.model)

/-- Leave out what equals its predecessor. -/
def dedup : List ElementReference → List ElementReference
  | []           => []
  | [r]          => [r]
  | r :: s :: rs => if r = s then dedup (s :: rs) else r :: dedup (s :: rs)

/-- The distinct references in order. -/
def distinct (rs : List ElementReference) : List ElementReference := dedup (rs.mergeSort le)

end ElementReference

end SemanticLayer

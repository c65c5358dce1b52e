import SemanticLayer.Text.Lower
import SemanticLayer.Vocabulary.Time

/-!
# Names of granularities

Besides the standard granularities a project knows the custom ones that it declares. Wherever a
granularity is given by name, its case does not matter.
-/

namespace SemanticLayer

/-- The name, in any case, is a standard granularity or one of `custom`. -/
def isKnownGranularity (custom : List String) (name : String) : Bool :=
  let lowered := Text.lower name
  (Vocabulary.ofName? (α := Granularity) lowered).isSome ||
    custom.any (Text.eqIgnoringAsciiCase · lowered)

/-- A lower case ASCII letter. -/
def isLowerLetter (c : Char) : Bool := 'a' ≤ c && c ≤ 'z'

/-- A lower case ASCII letter, an ASCII digit or the underscore. -/
def isSnakeCharacter (c : Char) : Bool := isLowerLetter c || c.isDigit || c == '_'

/-- The name can be declared as a custom granularity: a lower case letter followed by lower case
letters, digits and underscores. -/
def isGranularityIdentifier (name : String) : Bool :=
  match name.toList with
  | []      => false
  | c :: cs => isLowerLetter c && cs.all isSnakeCharacter

/-- The granularities to choose from, as messages list them. -/
def granularityOptions (custom : List String) : String :=
  ", ".intercalate (Vocabulary.names Granularity ++ custom)

end SemanticLayer

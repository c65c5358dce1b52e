import SemanticLayer.Name.Dundered
import SemanticLayer.Name.Granularity

/-!
# Valid names

Every named object of a manifest has a name in lower snake case of at least two characters that
holds no double underscore and is neither a standard granularity nor reserved.
-/

namespace SemanticLayer

/-- The time dimension that every metric can be grouped by. -/
def metricTimeName : String := "metric_time"

/-- The names that the query engine keeps for itself. -/
def engineNames : List String := [metricTimeName, "mf_internal_uuid"]

/-- What is wrong with a name. -/
inductive NameFault where
  | malformed
  | granularityKeyword
  | engineReserved
  deriving DecidableEq, Repr

namespace NameFault

/-- The wording of a fault of `name`. -/
def message (name : String) : NameFault → String
  | .malformed =>
    s!"Invalid name `{name}` - names may only contain lower case letters, numbers, and " ++
      "underscores. Additionally, names must start with a lower case letter, cannot end with an " ++
      "underscore, cannot contain dunders (double underscores, or __), and must be at least 2 " ++
      "characters long."
  | .granularityKeyword =>
    s!"Invalid name `{name}` - names cannot match reserved time granularity keywords (" ++
      ", ".intercalate (Vocabulary.names Granularity) ++ ")"
  | .engineReserved =>
    s!"Invalid name `{name}` - this name is reserved by the query engine"

end NameFault

/-- The characters start with a lower case letter, end with a letter or digit, hold only lower
case letters, digits and underscores, and are at least two. -/
def isSnakeCase : List Char → Bool
  | []      => false
  | c :: cs =>
    isLowerLetter c && cs.all isSnakeCharacter &&
      match cs.getLast? with
      | none   => false
      | some d => d != '_'

/-- Two underscores stand next to each other. -/
def hasDunder : List Char → Bool
  | '_' :: '_' :: _ => true
  | _ :: cs         => hasDunder cs
  | []              => false

/-- The faults of a name, in the order they are reported. -/
def nameFaults (name : String) : List NameFault :=
  (if !isSnakeCase name.toList || hasDunder name.toList then [.malformed] else []) ++
  (if (Vocabulary.ofName? (α := Granularity) (Text.lower name)).isSome then [.granularityKeyword]
    else []) ++
  (if engineNames.contains (Text.lower name) then [.engineReserved] else [])

end SemanticLayer

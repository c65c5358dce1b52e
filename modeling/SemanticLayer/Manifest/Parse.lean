import SemanticLayer.Document.Layout
import SemanticLayer.Manifest.Format.Manifest
import SemanticLayer.Text.Blank
import SemanticLayer.Text.Lower
import SemanticLayer.Yaml.Stream

/-!
# Manifests as text

A manifest is written as a document with an object at its root. Reading it checks the text, then
the root, and then the parts. The kind of an error is found in its wording. What is said of a text
that is no document at all depends on who reads it, so that wording is a parameter.
-/

namespace SemanticLayer

/-- The kinds of reasons why a text is no manifest. -/
inductive ParseErrorKind where
  | malformed | typeMismatch | unknownVariant
  deriving DecidableEq, Repr

/-- The written name of a kind. -/
def ParseErrorKind.name : ParseErrorKind → String
  | .malformed      => "syntax"
  | .typeMismatch   => "type_mismatch"
  | .unknownVariant => "unknown_variant"

/-- Why a text is no manifest. A text that is no document comes with what its reader says of it, if
the reader says anything. -/
inductive ParseError where
  | emptyInput
  | secondDocument    (line : Nat)
  | unreadable        (wording : Option String := none)
  | rootNotMapping
  | unknownTopLevel   (name : String)
  | misfit            (fault : ReadFault)
  deriving DecidableEq

/-- The text stands somewhere in the characters. -/
def Text.occursIn (text : List Char) : List Char → Bool
  | []      => text.isEmpty
  | c :: cs => text.isPrefixOf (c :: cs) || occursIn text cs

/-- One of the phrases stands somewhere in the text. -/
def Text.hasPhrase (phrases : List String) (text : String) : Bool :=
  phrases.any fun phrase => occursIn phrase.toList text.toList

namespace Manifest

/-- The fields of the root, in the order they are written. -/
def topLevelFields : List String :=
  ["semantic_models", "metrics", "saved_queries", "project_configuration", "interfaces_version"]

end Manifest

/-- The kind that the wording of an error tells of, if it tells of one. What is unknown comes before
what does not fit. -/
def ParseErrorKind.ofMessage? (message : String) : Option ParseErrorKind :=
  if Text.hasPhrase ["unknown variant", "unknown field"] message then some .unknownVariant
  else if Text.hasPhrase ["invalid type", "invalid value", "invalid length", "missing field"]
    message then some .typeMismatch
  else none

namespace ParseError

/-- The wording of an error. -/
def message? : ParseError → Option String
  | .emptyInput          => some "empty input"
  | .secondDocument line =>
    some (s!"{line}:1: a manifest is a single YAML document; found a second `---` separator")
  | .unreadable wording  => wording
  | .rootNotMapping      => some "manifest root must be a YAML mapping"
  | .unknownTopLevel name =>
    some (s!"unknown top-level field: {name} (expected one of " ++
      ", ".intercalate Manifest.topLevelFields ++ ")")
  | .misfit fault        => some fault.message

/-- The kind of an error. A part that does not fit is judged by the wording of the fault, and a text
that is no document by what its reader says, in lower case. -/
def kind : ParseError → ParseErrorKind
  | .emptyInput | .secondDocument _      => .malformed
  | .rootNotMapping | .unknownTopLevel _ => .typeMismatch
  | .unreadable wording                  =>
    (wording.bind fun message => ParseErrorKind.ofMessage? (Text.lower message)).getD .malformed
  | .misfit fault                        =>
    (ParseErrorKind.ofMessage? fault.message).getD .typeMismatch

end ParseError

namespace Manifest

/-- Read a manifest from a document. -/
def ofDocument (d : Document) : Except ParseError Manifest :=
  match d with
  | .object fields =>
    match fields.find? fun (name, _) => !topLevelFields.contains name with
    | some (name, _) => .error (.unknownTopLevel name)
    | none           =>
      match read d with
      | .error fault => .error (.misfit fault)
      | .ok m        => .ok m
  | _ => .error .rootNotMapping

/-- The line is a mark that separates documents, with nothing but white space behind it. -/
def isSeparator (line : List Char) : Bool :=
  "---".toList.isPrefixOf line && (line.drop 3).all Text.isBlank

/-- The numbers of the lines, counted on from `n`, that separate documents. -/
def separatorLines (n : Nat) : List (List Char) → List Nat
  | []            => []
  | line :: lines =>
    if isSeparator line then n :: separatorLines (n + 1) lines else separatorLines (n + 1) lines

/-- Read a manifest. The text is checked for a second separator before it is read. What the reader
of documents says of a text that is none is given by `wording`. -/
def parse (text : String) (wording : String → Option String := fun _ => none) :
    Except ParseError Manifest :=
  if Text.allBlank text then .error .emptyInput
  else
    match separatorLines 1 (Text.lines text.toList) with
    | _ :: line :: _ => .error (.secondDocument line)
    | _              =>
      match Document.ofYaml? text with
      | none   => .error (.unreadable (wording text))
      | some d => ofDocument d

/-- The text of a manifest. -/
def serialize (m : Manifest) : String := m.toDocument.render

end Manifest

end SemanticLayer

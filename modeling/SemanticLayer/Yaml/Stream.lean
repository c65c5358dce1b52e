import SemanticLayer.Yaml.Block
import SemanticLayer.Yaml.Meaning

/-!
# Reading a YAML text

A text holds one document. Directives and the mark `---` may stand in front of it, and the mark
`...` behind it. A text without a node stands for nothing.
-/

namespace SemanticLayer

namespace Yaml

/-- The text with line feeds as its only line breaks. -/
def normalizeBreaks : List Char → List Char
  | []                 => []
  | '\r' :: '\n' :: cs => '\n' :: normalizeBreaks cs
  | c :: cs            => (if c == '\r' then '\n' else c) :: normalizeBreaks cs

/-- The text without a byte order mark in front. -/
def withoutMark : List Char → List Char
  | '\ufeff' :: cs => cs
  | cs             => cs

/-- The mark in front of a document. -/
def startMark : List Char := ['-', '-', '-']

/-- The mark behind a document. -/
def endMark : List Char := ['.', '.', '.']

/-- What follows a mark on its line. -/
def pastMark? (mark : List Char) (line : List Char) : Option (List Char) :=
  if mark.isPrefixOf line && (line.drop mark.length).head?.all isWhite then
    some (line.drop mark.length)
  else none

/-- The line is one of the marks. -/
def isMark (line : List Char) : Bool :=
  (pastMark? startMark line).isSome || (pastMark? endMark line).isSome

/-- There is nothing on the line but spaces, tabs and a comment. -/
def isBare (line : List Char) : Bool :=
  (line.dropWhile isSpace).head?.all (· == '#')

/-- The line ends a document and holds nothing else. -/
def isEndLine (line : List Char) : Bool := (pastMark? endMark line).any isBare

/-- The place where the document starts, on the first of the lines that are left. A directive asks
for a mark in front of the document. -/
def start? (directive : Bool) : List (List Char) → Option (Nat × List (List Char))
  | []            => if directive then none else some (0, [])
  | line :: lines =>
    match pastMark? startMark line with
    | some rest => some (startMark.length, rest :: lines)
    | none      =>
      if line.head? == some '%' then start? true lines
      else if isBare line || isEndLine line then start? directive lines
      else if directive then none
      else some (0, line :: lines)

/-- There is no second document in the lines behind the first one. -/
def endsText : List (List Char) → Bool
  | []            => true
  | line :: lines => isEndLine line && lines.all fun l => isBare l || isEndLine l

/-- The only node of a text. -/
def nodeOf? (cs : List Char) : Option Node :=
  match start? false (Text.lines (normalizeBreaks (withoutMark cs))) with
  | none                         => none
  | some (_, [])                 => some .empty
  | some (column, line :: lines) =>
    if endsText (lines.dropWhile fun l => !isMark l) then
      root? ⟨column, Text.unlines (line :: lines.takeWhile fun l => !isMark l)⟩
    else none

end Yaml

/-- Read a document that is written as a YAML text. -/
def Document.ofYaml? (text : String) : Option Document :=
  match Yaml.nodeOf? text.toList with
  | none      => none
  | some node => (node.document? []).map Prod.fst

end SemanticLayer

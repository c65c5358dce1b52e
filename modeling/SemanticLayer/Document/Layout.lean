import SemanticLayer.Document.Basic
import SemanticLayer.Number.Layout
import SemanticLayer.Text.Quoted

/-!
# Laid out documents

A document is laid out in lines: a scalar stands on one line, a list or an object opens and closes
on lines of its own with its contents two spaces further in between, and an empty one is closed
where it is opened.
-/

namespace SemanticLayer.Document

/-- Put lines two spaces further in. -/
def indent (lines : List String) : List String := lines.map ("  " ++ ·)

/-- Put a text in front of the first line. -/
def onFirst (text : String) : List String → List String
  | []              => []
  | line :: lines   => (text ++ line) :: lines

/-- Put a comma behind the last line. -/
def onLastComma : List String → List String
  | []              => []
  | [line]          => [line ++ ","]
  | line :: lines   => line :: onLastComma lines

/-- The blocks below each other, with a comma behind each but the last one. -/
def stack : List (List String) → List String
  | []              => []
  | [block]         => block
  | block :: blocks => onLastComma block ++ stack blocks

/-- The blocks between two brackets, which stand on one line when there is nothing between them. -/
def bracketed (opening closing : String) (blocks : List (List String)) : List String :=
  match blocks with
  | [] => [opening ++ closing]
  | _  => opening :: indent (stack blocks) ++ [closing]

mutual

/-- The lines of a value. -/
def lines : Document → List String
  | .null          => ["null"]
  | .bool true     => ["true"]
  | .bool false    => ["false"]
  | .int n         => [toString n]
  | .float x       => [x.toDocumentText]
  | .string s      => [Text.quoteForDocument s]
  | .list items    => bracketed "[" "]" (itemBlocks items)
  | .object fields => bracketed "\x7b" "\x7d" (fieldBlocks fields)

/-- The lines of each item of a list. -/
def itemBlocks : List Document → List (List String)
  | []      => []
  | d :: ds => d.lines :: itemBlocks ds

/-- The lines of a field: its name is put in front of the first line of its value. -/
def fieldBlock : String × Document → List String
  | (name, d) => onFirst (Text.quoteForDocument name ++ ": ") d.lines

/-- The lines of each field of an object. -/
def fieldBlocks : List (String × Document) → List (List String)
  | []      => []
  | f :: fs => fieldBlock f :: fieldBlocks fs

end

/-- The text of a document. -/
def render (d : Document) : String := "\n".intercalate d.lines

end SemanticLayer.Document

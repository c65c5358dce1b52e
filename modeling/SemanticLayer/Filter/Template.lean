import SemanticLayer.Filter.Lexer
import SemanticLayer.Filter.Meaning

/-!
# Filter templates

A template is read marker by marker: each one holds one call. The first fault from the left ends
the reading, except that a marker without an end is found before any marker is looked into.
-/

namespace SemanticLayer.Filter

/-- The call in the content of a marker. -/
def contentCall (custom : List String) (content : List Char) : Except FilterFault CallSets := do
  let ts ← tokens content
  let e ← readExpression ts
  e.call custom

/-- The calls in the contents of markers. -/
def contentCalls (custom : List String) : List (List Char) → Except FilterFault CallSets
  | []      => .ok .empty
  | c :: cs => do
    let first ← contentCall custom c
    let rest ← contentCalls custom cs
    .ok (first ++ rest)

/-- The calls of a template. -/
def templateCalls (custom : List String) (template : String) : Except FilterFault CallSets := do
  let contents ← markers template
  contentCalls custom contents

/-- The calls of a template, or the template with its fault. -/
def parseTemplate (custom : List String) (template : String) : Except FilterError CallSets :=
  (templateCalls custom template).mapError (⟨template, ·⟩)

/-- Two opening braces stand next to each other. -/
def hasMarker : List Char → Bool
  | '\x7b' :: '\x7b' :: _ => true
  | _ :: cs               => hasMarker cs
  | []                    => false

/-- The template of a group-by item, which may come without markers of its own. -/
def groupByTemplate (item : String) : String :=
  if hasMarker item.toList then item else "\x7b\x7b " ++ item ++ " \x7d\x7d"

/-- The calls of a group-by item. -/
def parseGroupBy (custom : List String) (item : String) : Except FilterError CallSets :=
  parseTemplate custom (groupByTemplate item)

end SemanticLayer.Filter

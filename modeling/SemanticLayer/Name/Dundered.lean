import SemanticLayer.Text.Lower
import SemanticLayer.Vocabulary.Time

/-!
# Dundered names

A dundered name joins entity links, an element name and at most one granularity by double
underscores. Its segments are found from left to right, so of three underscores in a row the last
one belongs to the segment that follows.
-/

namespace SemanticLayer

/-- The double underscore that joins the segments of a name. -/
def dunder : String := "__"

/-- A dundered name in its parts. -/
structure DunderedName where
  entityLinks : List String
  elementName : String
  granularity : Option String
  deriving DecidableEq, Repr

namespace DunderedName

/-- Put a character in front of the first segment. -/
def consFirst (c : Char) : List (List Char) → List (List Char)
  | []      => [[c]]
  | s :: ss => (c :: s) :: ss

/-- The segments between double underscores. -/
def splitDunder : List Char → List (List Char)
  | []               => [[]]
  | '_' :: '_' :: cs => [] :: splitDunder cs
  | c :: cs          => consFirst c (splitDunder cs)

/-- The segments of a name. There is always at least one. -/
def segments (name : String) : List String := (splitDunder name.toList).map String.ofList

/-- Segments joined by double underscores. -/
def join (segments : List String) : String := dunder.intercalate segments

/-- The segment names a granularity: a standard one as written, or one of `custom` in any case of
its ASCII letters. -/
def namesGranularity (custom : List String) (segment : String) : Bool :=
  (Vocabulary.ofName? (α := Granularity) segment).isSome ||
    custom.any (Text.eqIgnoringAsciiCase · segment)

/-- The parts of a name, given its segments from last to first. The last of two or more segments
is a granularity when it names one. -/
def ofReversed (custom : List String) : List String → DunderedName
  | []        => ⟨[], "", none⟩
  | [element] => ⟨[], element, none⟩
  | last :: element :: links =>
    if namesGranularity custom last then ⟨links.reverse, element, some last⟩
    else ⟨(element :: links).reverse, last, none⟩

/-- The parts of a name. -/
def parse (custom : List String) (name : String) : DunderedName :=
  ofReversed custom (segments name).reverse

/-- The name without its granularity. -/
def withoutGranularity (n : DunderedName) : String := join (n.entityLinks ++ [n.elementName])

/-- The whole name. -/
def text (n : DunderedName) : String :=
  join (n.entityLinks ++ n.elementName :: n.granularity.toList)

end DunderedName

end SemanticLayer

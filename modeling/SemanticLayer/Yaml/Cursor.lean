/-!
# Cursors and gaps

A cursor is a place in a text: the text from there on, and the column of its first character.
Between two parts of a text lies a gap of white space, line breaks and comments.
-/

namespace SemanticLayer.Yaml

/-- A space or a tab. -/
def isSpace (c : Char) : Bool := c == ' ' || c == '\t'

/-- A space, a tab or a line break. -/
def isWhite (c : Char) : Bool := c == ' ' || c == '\t' || c == '\n'

/-- A character that has a meaning of its own inside brackets. -/
def isBracketSign (c : Char) : Bool :=
  c == ',' || c == '[' || c == ']' || c == '\x7b' || c == '\x7d'

/-- A place in a text. -/
structure Cursor where
  column : Nat
  text   : List Char

namespace Cursor

/-- Go on by `n` characters of the line. -/
def drop (n : Nat) (c : Cursor) : Cursor := ⟨c.column + n, c.text.drop n⟩

/-- Nothing is left of the text. -/
def atEnd (c : Cursor) : Bool := c.text.isEmpty

/-- The rest of the line. -/
def line (c : Cursor) : Cursor := ⟨c.column, c.text.takeWhile (· != '\n')⟩

/-- Go on behind the spaces and tabs. -/
def skipSpaces (c : Cursor) : Cursor := c.drop (c.text.takeWhile isSpace).length

/-- The text goes on with a sign that stands alone: white space, or nothing, follows it. -/
def atSign (sign : Char) (c : Cursor) : Bool :=
  match c.text with
  | []      => false
  | d :: cs => d == sign && cs.head?.all isWhite

end Cursor

/-! ### Gaps -/

/-- A gap. -/
structure Gap where
  /-- The line on which the gap ends starts in it. -/
  fresh : Bool
  /-- The column up to which there are only spaces on that line. -/
  level : Nat
  /-- Where the gap ends. -/
  next  : Cursor

/-- The gap from the given place on. A comment starts with a number sign that has white space, or
nothing, in front of it. -/
def gapFrom (comment spaced fresh : Bool) (level column : Nat) : List Char → Gap
  | []      => ⟨fresh, level, ⟨column, []⟩⟩
  | c :: cs =>
    if c == '\n' then gapFrom false true true 0 0 cs
    else if comment then gapFrom true true fresh level (column + 1) cs
    else if c == ' ' then
      gapFrom false true fresh (if level == column then column + 1 else level) (column + 1) cs
    else if c == '\t' then gapFrom false true fresh level (column + 1) cs
    else if c == '#' && spaced then gapFrom true true fresh level (column + 1) cs
    else ⟨fresh, level, ⟨column, c :: cs⟩⟩

/-- The gap at a place. -/
def Cursor.gap (c : Cursor) : Gap :=
  let fresh := c.column == 0
  gapFrom false fresh fresh c.column c.column c.text

/-- A tab stands in front of the text and to the left of the given column. -/
def Gap.tabbed (column : Nat) (g : Gap) : Bool :=
  g.fresh && g.level < g.next.column && g.level < column

/-! ### Runs of white space inside a scalar -/

/-- A run of white space in reverse, as it stands in front of the place that is read. -/
abbrev Run := List Char

namespace Run

/-- The line changes in the run. -/
def breaksLine (run : Run) : Bool := run.contains '\n'

/-- The number of spaces that its last line starts with. -/
def level (run : Run) : Nat :=
  ((run.takeWhile (· != '\n')).reverse.takeWhile (· == ' ')).length

/-- What a run between two words stands for: one line break is a space, several ones are one break
less, and a run in one line is kept. -/
def folded (run : Run) : List Char :=
  match run.count '\n' with
  | 0     => run.reverse
  | 1     => [' ']
  | n + 2 => List.replicate (n + 1) '\n'

end Run

/-- Put characters in front of those that are read. -/
def before {α : Type} (front : List Char) (r : List Char × α) : List Char × α :=
  (front ++ r.1, r.2)

end SemanticLayer.Yaml

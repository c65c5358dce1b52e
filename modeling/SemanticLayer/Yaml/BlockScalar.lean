import SemanticLayer.Text.Lines
import SemanticLayer.Yaml.Cursor

/-!
# Reading block scalars

A block scalar is a block of lines below a header. Its lines lose their common indentation. A
literal block keeps its line breaks, a folded one reads a single line break between two lines of
text as a space. The header also tells what becomes of the line breaks at the end.
-/

namespace SemanticLayer.Yaml

/-- What becomes of the line breaks at the end of a block: none is kept, or all are. -/
inductive Ending where
  | strip | keep
  deriving DecidableEq

/-- The header of a block scalar. -/
structure BlockHeader where
  folded : Bool
  /-- What becomes of the line breaks at the end. Where this is not written, one is kept. -/
  ending : Option Ending
  /-- How much further than its surroundings the block is indented, where that is written. -/
  indent : Option Nat

/-- What a sign of a header says about the ending. -/
def ending? : Char → Option Ending
  | '-' => some .strip
  | '+' => some .keep
  | _   => none

/-- What a sign of a header says about the indentation. -/
def indent? (c : Char) : Option Nat :=
  if '1' ≤ c && c ≤ '9' then some (c.toNat - 48) else none

/-- Read the signs of a header, in any order. None of them occurs twice. -/
def headerSigns (header : BlockHeader) : List Char → BlockHeader × List Char
  | []      => (header, [])
  | c :: cs =>
    match ending? c, indent? c with
    | some e, _      =>
      if header.ending.isNone then headerSigns { header with ending := some e } cs
      else (header, c :: cs)
    | none,   some n =>
      if header.indent.isNone then headerSigns { header with indent := some n } cs
      else (header, c :: cs)
    | none,   none   => (header, c :: cs)

/-- Read a header up to the end of its line. -/
def header? (c : Cursor) : Option (BlockHeader × Cursor) :=
  match c.line.text with
  | []         => none
  | sign :: cs =>
    let (header, rest) := headerSigns ⟨sign == '>', none, none⟩ cs
    let after := rest.dropWhile isSpace
    if after.isEmpty || (rest.head?.any isSpace && after.head? == some '#') then
      some (header, c.drop (cs.length + 1))
    else none

/-! ### Lines -/

/-- The number of spaces that a line starts with. -/
def spacesOf (line : List Char) : Nat := (line.takeWhile (· == ' ')).length

/-- There are only spaces on the line. -/
def isSpaceLine (line : List Char) : Bool := line.all (· == ' ')

/-- The indentation of a block of lines: that of the first line with a text, of a deeper line of
spaces in front of it, and at least `least`. -/
def blockIndent (least : Nat) : List (List Char) → Nat
  | []            => least
  | line :: lines =>
    if isSpaceLine line then blockIndent (max least (spacesOf line)) lines
    else max least (spacesOf line)

/-- A line with a text, and the number of empty lines in front of it. -/
structure BlockLine where
  empties : Nat
  text    : List Char

/-- A block of lines. -/
structure Block where
  lines    : List BlockLine
  /-- The number of empty lines at the end. -/
  trailing : Nat
  /-- The lines behind the block. -/
  rest     : List (List Char)

/-- Read a block of lines with the given indentation, with so many empty lines in front. What
follows the last line break of the text is a line only if there is a text on it. -/
def blockOf (indent empties : Nat) : List (List Char) → Block
  | []            => ⟨[], empties, []⟩
  | line :: lines =>
    if isSpaceLine line && spacesOf line ≤ indent then
      if lines.isEmpty then ⟨[], empties, []⟩ else blockOf indent (empties + 1) lines
    else if indent ≤ spacesOf line then
      let block := blockOf indent 0 lines
      ⟨⟨empties, line.drop indent⟩ :: block.lines, block.trailing, block.rest⟩
    else ⟨[], empties, line :: lines⟩

/-! ### Text -/

/-- The text starts with a space or a tab. -/
def isIndented (text : List Char) : Bool := text.head?.any isSpace

/-- What separates a line of a block from the line of text in front of it. -/
def separator (folded : Bool) (previous : List Char) (line : BlockLine) : List Char :=
  if folded && !isIndented previous && !isIndented line.text then
    if line.empties = 0 then [' '] else List.replicate line.empties '\n'
  else List.replicate (line.empties + 1) '\n'

/-- The lines behind a line of text, with what separates them. -/
def joinFrom (folded : Bool) (previous : List Char) : List BlockLine → List Char
  | []            => []
  | line :: lines =>
    separator folded previous line ++ line.text ++ joinFrom folded line.text lines

/-- The line breaks at the end of a block with lines. -/
def BlockHeader.lastBreaks (header : BlockHeader) (trailing : Nat) : List Char :=
  match header.ending with
  | none        => ['\n']
  | some .strip => []
  | some .keep  => List.replicate (trailing + 1) '\n'

/-- The text of a block without lines. At the end of the whole text it has the line break of the
header. -/
def BlockHeader.emptyText (header : BlockHeader) (trailing : Nat) (atEnd : Bool) : List Char :=
  match header.ending with
  | none        => if atEnd then ['\n'] else []
  | some .strip => []
  | some .keep  => List.replicate (if atEnd then max 1 trailing else trailing) '\n'

/-- The text of a block. -/
def Block.text (header : BlockHeader) (block : Block) : List Char :=
  match block.lines with
  | []            => header.emptyText block.trailing block.rest.isEmpty
  | line :: lines =>
    List.replicate line.empties '\n' ++ line.text ++ joinFrom header.folded line.text lines ++
      header.lastBreaks block.trailing

/-- Read a block scalar whose lines start at the column `least` or further to the right. -/
def blockScalar? (least : Nat) (c : Cursor) : Option (String × Cursor) :=
  match header? c with
  | none             => none
  | some (header, e) =>
    match e.text with
    | []      => some ("", e)
    | _ :: cs =>
      let lines := Text.lines cs
      let indent := match header.indent with
        | some n => least - 1 + n
        | none   => blockIndent least lines
      let block := blockOf indent 0 lines
      some (String.ofList (block.text header), ⟨0, Text.unlines block.rest⟩)

end SemanticLayer.Yaml

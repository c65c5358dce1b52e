import SemanticLayer.Yaml.Cursor

/-!
# Reading plain scalars

A plain scalar is written without quotation marks. It ends in front of a comment, of a colon that
separates a key from its value, and, inside brackets, of a sign that has a meaning there. Outside
brackets it also ends in front of a line that starts too far to the left.
-/

namespace SemanticLayer.Yaml

/-- A colon in front of this text separates a key from its value. -/
def separates (bracketed : Bool) (cs : List Char) : Bool :=
  cs.head?.all fun c => isWhite c || (bracketed && isBracketSign c)

/-- The characters that no plain scalar starts with. -/
def reservedSigns : List Char := ['#', '&', '*', '!', '\'', '"', '%', '@', '\x60']

/-- A plain scalar can start here. -/
def startsPlain (bracketed : Bool) : List Char → Bool
  | []      => false
  | c :: cs =>
    if isWhite c || isBracketSign c || reservedSigns.contains c then false
    else if c == '|' || c == '>' then bracketed
    else if c == '-' || c == '?' || c == ':' then !separates bracketed cs
    else true

/-- The rest of a plain scalar and where it ends. Before the text that is left lies a run of white
space, which belongs to the scalar only if the scalar goes on behind it; if not, the scalar ends at
`stop`. Outside brackets it goes on behind a line break only from the column `least` on. -/
def plainFrom (bracketed : Bool) (least : Nat) (stop : Cursor) (run : Run) (column : Nat) :
    List Char → List Char × Cursor
  | []      => ([], stop)
  | c :: cs =>
    if isWhite c then
      plainFrom bracketed least stop (c :: run) (if c == '\n' then 0 else column + 1) cs
    else if (c == '#' && !run.isEmpty) || (c == ':' && separates bracketed cs) ||
        (bracketed && isBracketSign c) || (!bracketed && run.breaksLine && run.level < least) then
      ([], stop)
    else
      before (run.folded ++ [c])
        (plainFrom bracketed least ⟨column + 1, cs⟩ [] (column + 1) cs)

/-- Read a plain scalar. -/
def plain? (bracketed : Bool) (least : Nat) (c : Cursor) : Option (String × Cursor) :=
  if startsPlain bracketed c.text then
    let (text, stop) := plainFrom bracketed least c [] c.column c.text
    some (String.ofList text, stop)
  else none

end SemanticLayer.Yaml

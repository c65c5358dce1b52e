/-!
# Tokens of a call expression

The expression inside a marker is made of names, quoted texts and eight marks of punctuation.
-/

namespace SemanticLayer.Filter

/-- A token of a call expression. -/
inductive Token where
  | name (s : String)
  | text (s : String)
  | leftParen
  | rightParen
  | leftBracket
  | rightBracket
  | comma
  | equals
  | dot
  deriving DecidableEq, Repr

/-- The token as messages speak of it. -/
def Token.describe : Token → String
  | .name s       => s!"identifier `{s}`"
  | .text s       => s!"string '{s}'"
  | .leftParen    => "`(`"
  | .rightParen   => "`)`"
  | .leftBracket  => "`[`"
  | .rightBracket => "`]`"
  | .comma        => "`,`"
  | .equals       => "`=`"
  | .dot          => "`.`"

/-- The token that a mark of punctuation is. -/
def Token.ofMark? : Char → Option Token
  | '(' => some .leftParen
  | ')' => some .rightParen
  | '[' => some .leftBracket
  | ']' => some .rightBracket
  | ',' => some .comma
  | '=' => some .equals
  | '.' => some .dot
  | _   => none

/-- A character that a name starts with. -/
def isNameStart (c : Char) : Bool := c.isAlpha || c == '_'

/-- A character that a name goes on with. -/
def isNameCharacter (c : Char) : Bool := c.isAlphanum || c == '_'

end SemanticLayer.Filter

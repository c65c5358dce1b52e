import SemanticLayer.Text.Runs

/-!
# White space

White space is the class of characters that separate words: the controls from tab to carriage
return, the next-line control, and the space separators together with the line and paragraph
separators.
-/

namespace SemanticLayer.Text

/-- A white space character. -/
def isBlank (c : Char) : Bool :=
  let n := c.toNat
  (0x09 ≤ n && n ≤ 0x0D) || n == 0x20 || n == 0x85 || n == 0xA0 || n == 0x1680 ||
    (0x2000 ≤ n && n ≤ 0x200A) || n == 0x2028 || n == 0x2029 || n == 0x202F || n == 0x205F ||
    n == 0x3000

/-- The characters without the white space in front of them. -/
def trimStart (cs : List Char) : List Char := cs.dropWhile isBlank

/-- The characters without the white space behind them. -/
def trimEnd (cs : List Char) : List Char := (cs.reverse.dropWhile isBlank).reverse

/-- A text without the white space around it. -/
def trim (s : String) : String := String.ofList (trimEnd (trimStart s.toList))

/-- There is nothing but white space in the text. -/
def allBlank (s : String) : Bool := s.toList.all isBlank

/-- The words of a text that white space separates. -/
def words (s : String) : List String :=
  (runs (fun c => !isBlank c) s.toList).map String.ofList

end SemanticLayer.Text

import SemanticLayer.Document.Basic
import SemanticLayer.Text.Blank
import SemanticLayer.Text.Digits
import SemanticLayer.Text.Lower

/-!
# Plain scalars

What a plain scalar stands for is told by its text: nothing, a truth value, an integer, another
number, or else the text itself. A number beyond the largest finite one stands for nothing.
-/

namespace SemanticLayer.Yaml

/-! ### Words -/

/-- The words for nothing. -/
def nullWords : List String := ["", "~", "null"]

/-- The words for truth. -/
def trueWords : List String := ["true", "yes", "y", "on"]

/-- The words for falsehood. -/
def falseWords : List String := ["false", "no", "n", "off"]

/-- The words, which may carry a sign, for what is no finite number. -/
def nonFiniteWords : List String := [".inf", ".nan", "inf", "infinity", "nan"]

/-- The text is one of the words, in any case. -/
def isWordOf (words : List String) (s : String) : Bool := words.any (Text.eqIgnoringAsciiCase s)

/-! ### Numbers -/

/-- Split a sign off. The first part tells whether it is a minus sign. -/
def splitSign : List Char → Bool × List Char
  | '-' :: cs => (true, cs)
  | '+' :: cs => (false, cs)
  | cs        => (false, cs)

/-- Split off the mark of a base. Without a mark the base is ten. -/
def splitBase : List Char → Nat × List Char
  | '0' :: 'x' :: cs | '0' :: 'X' :: cs => (16, cs)
  | '0' :: 'o' :: cs | '0' :: 'O' :: cs => (8, cs)
  | '0' :: 'b' :: cs | '0' :: 'B' :: cs => (2, cs)
  | cs                                  => (10, cs)

/-- The integer that the text writes. It has up to 64 bits, with or without a sign, and underscores
may stand between its digits. -/
def integer? (cs : List Char) : Option Int :=
  let (negative, cs) := splitSign cs
  let (base, cs) := splitBase cs
  match Text.digits? base (cs.filter (· != '_')) with
  | none   => none
  | some n =>
    let value : Int := if negative then -n else n
    if -0x8000000000000000 ≤ value ∧ value < 0x10000000000000000 then some value else none

/-- The exponent that ends a decimal, which is zero when nothing is left to read. -/
def exponent? : List Char → Option Int
  | []      => some 0
  | c :: cs =>
    if c == 'e' || c == 'E' then
      let (negative, cs) := splitSign cs
      (Text.digits? 10 cs).map fun n => if negative then -(n : Int) else n
    else none

/-- The digits and the exponent of ten of the decimal that the text writes. There is a digit in
front of the point or behind it. -/
def decimal? (cs : List Char) : Option (Nat × Int) :=
  let whole := cs.takeWhile Char.isDigit
  let (fraction, rest) :=
    match cs.dropWhile Char.isDigit with
    | '.' :: cs => (cs.takeWhile Char.isDigit, cs.dropWhile Char.isDigit)
    | cs        => ([], cs)
  match Text.digits? 10 (whole ++ fraction), exponent? rest with
  | some n, some e => some (n, e - fraction.length)
  | _,      _      => none

/-- What a number that is no integer stands for. -/
def real? (cs : List Char) : Option Document :=
  let (negative, cs) := splitSign cs
  if isWordOf nonFiniteWords (String.ofList cs) then some .null
  else (decimal? cs).map fun (digits, exponent) =>
    match Binary64.ofDecimal? negative digits exponent with
    | some x => .float x
    | none   => .null

/-- What a plain scalar stands for. -/
def plainValue (s : String) : Document :=
  let word := Text.trim s
  if isWordOf nullWords s then .null
  else if isWordOf trueWords word then .bool true
  else if isWordOf falseWords word then .bool false
  else
    match integer? word.toList with
    | some n => .int n
    | none   => (real? word.toList).getD (.string s)

end SemanticLayer.Yaml

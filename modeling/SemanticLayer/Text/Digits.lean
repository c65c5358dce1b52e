/-!
# Digits

A natural number is read from digits of a base up to sixteen. The letters that stand for digits may
have either case.
-/

namespace SemanticLayer.Text

/-- The value of a digit. -/
def digitValue? (c : Char) : Option Nat :=
  if c.isDigit then some (c.toNat - 48)
  else if 'a' ≤ c && c ≤ 'f' then some (c.toNat - 87)
  else if 'A' ≤ c && c ≤ 'F' then some (c.toNat - 55)
  else none

/-- The number with the given digits, continuing the number `n`. -/
def digitsFrom? (base n : Nat) : List Char → Option Nat
  | []      => some n
  | c :: cs =>
    match digitValue? c with
    | none   => none
    | some d => if d < base then digitsFrom? base (base * n + d) cs else none

/-- The number with the given digits, of which there is at least one. -/
def digits? (base : Nat) (cs : List Char) : Option Nat :=
  if cs.isEmpty then none else digitsFrom? base 0 cs

end SemanticLayer.Text

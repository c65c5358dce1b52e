import SemanticLayer.Number.Binary64

/-!
# Written numbers

Two layouts of the shortest decimal of a number. In a document a number always shows that it is
not an integer, and very large and very small numbers have an exponent. In running text a number
is written out in full, and a whole number has no fraction.
-/

namespace SemanticLayer.Binary64

/-- The sign of a number. -/
def signText (x : Binary64) : String := if x.negative then "-" else ""

/-- A row of zeros. -/
def zeros (n : Nat) : String := String.ofList (List.replicate n '0')

/-- The digits of a decimal and the place of its point, counted from the first digit. -/
def digitsAndPoint (d : Decimal) : List Char × Int :=
  let digits := (toString d.digits).toList
  (digits, digits.length + d.exponent)

/-- The number written out without an exponent; `whole` follows a whole number. -/
def positional (whole : String) (x : Binary64) : String :=
  let (digits, point) := digitsAndPoint x.shortest
  if point ≤ 0 then
    x.signText ++ (if x.mantissa = 0 then "0" ++ whole
      else "0." ++ zeros (-point).toNat ++ String.ofList digits)
  else if point < digits.length then
    x.signText ++ String.ofList (digits.take point.toNat) ++ "." ++
      String.ofList (digits.drop point.toNat)
  else
    x.signText ++ String.ofList digits ++ zeros (point.toNat - digits.length) ++ whole

/-- The number with one digit before the point and a power of ten. -/
def scientific (x : Binary64) : String :=
  let (digits, point) := digitsAndPoint x.shortest
  let power := point - 1
  let fraction := match digits.drop 1 with
    | []   => ""
    | rest => "." ++ String.ofList rest
  x.signText ++ String.ofList (digits.take 1) ++ fraction ++ "e" ++
    (if power < 0 then "-" else "+") ++ toString power.natAbs

/-- The number as a document writes it: positional from `1e-5` to below `1e16`, with `.0` after a
whole number, and with an exponent elsewhere. -/
def toDocumentText (x : Binary64) : String :=
  let (_, point) := digitsAndPoint x.shortest
  if x.mantissa = 0 ∨ (-5 < point ∧ point ≤ 16) then x.positional ".0" else x.scientific

/-- The number as running text writes it: always positional, a whole number without a point. -/
def toPlainText (x : Binary64) : String := x.positional ""

end SemanticLayer.Binary64

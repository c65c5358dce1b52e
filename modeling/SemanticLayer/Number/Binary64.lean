/-!
# Finite binary64 numbers

A finite binary64 number is a sign and an exact product of a 53-bit integer and a power of two.
Numbers are kept in one canonical form, so two of them are equal exactly when they have the same
sign and value. A decimal is read by rounding its exact value, a half going to the even
neighbour; the numbers have no infinities, so a decimal beyond the largest one has no reading.
-/

namespace SemanticLayer

/-- The greatest power of two that a mantissa can be, `2 ^ 52`. -/
abbrev fullMantissa : Nat := 0x10000000000000

/-- The integer `m` and the power of two `e` are the parts of a binary64 number: `m` fills all of
its 53 bits unless `e` is the least exponent. -/
def IsBinary64 (m : Nat) (e : Int) : Prop :=
  m < 2 * fullMantissa ∧ -1074 ≤ e ∧ e ≤ 971 ∧ (fullMantissa ≤ m ∨ e = -1074)

instance (m : Nat) (e : Int) : Decidable (IsBinary64 m e) := by
  unfold IsBinary64; infer_instance

/-- The number `mantissa * 2 ^ exponent`, below zero when `negative`. -/
structure Binary64 where
  negative  : Bool
  mantissa  : Nat
  exponent  : Int
  canonical : IsBinary64 mantissa exponent
  deriving DecidableEq

namespace Binary64

/-- Zero, with a sign. -/
def zero (negative : Bool) : Binary64 := ⟨negative, 0, -1074, by decide⟩

instance : Inhabited Binary64 := ⟨zero false⟩

/-- One half. -/
def half : Binary64 := ⟨false, fullMantissa, -53, by decide⟩

/-! ### Rounding -/

/-- The quotient of `n` by `d` to the nearest integer, a half going to the even neighbour. -/
def divRound (n d : Nat) : Nat :=
  let q := n / d
  let twice := 2 * (n % d)
  if twice < d then q
  else if d < twice then q + 1
  else if q % 2 = 0 then q else q + 1

/-- The integer nearest to `n / d / 2 ^ e`. -/
def scaledRound (n d : Nat) (e : Int) : Nat :=
  divRound (n * Nat.pow 2 (-e).toNat) (d * Nat.pow 2 e.toNat)

/-- The exponent of the binade that `n / d` lies in, no less than the least exponent. -/
def binade (n d : Nat) : Int :=
  let guess : Int := (n.log2 : Int) - d.log2 - 52
  let e :=
    if n * Nat.pow 2 (-guess).toNat < d * Nat.pow 2 guess.toNat * fullMantissa then guess - 1
    else guess
  max e (-1074)

/-- The number nearest to `n / d`, or none when it lies beyond the largest one. -/
def ofRatio? (negative : Bool) (n d : Nat) : Option Binary64 :=
  if n = 0 then some (zero negative)
  else
    let e := binade n d
    let m := scaledRound n d e
    let (m, e) := if m = 2 * fullMantissa then (fullMantissa, e + 1) else (m, e)
    if h : IsBinary64 m e then some ⟨negative, m, e, h⟩ else none

/-- The number nearest to `digits * 10 ^ exponent`. Powers of ten far outside the range of the
numbers are settled without being computed. -/
def ofDecimal? (negative : Bool) (digits : Nat) (exponent : Int) : Option Binary64 :=
  if digits = 0 then some (zero negative)
  else
    let scale : Int := digits.log2 / 3 + exponent
    if exponent > 400 then none
    else if scale < -400 then some (zero negative)
    else ofRatio? negative (digits * Nat.pow 10 exponent.toNat) (Nat.pow 10 (-exponent).toNat)

/-- The number nearest to an integer. -/
def ofInt? (n : Int) : Option Binary64 := ofRatio? (n < 0) n.natAbs 1

/-! ### Comparison with zero and one -/

/-- The number is at most zero. -/
def atMostZero (x : Binary64) : Bool := x.negative || x.mantissa == 0

/-- The number is at least one. -/
def atLeastOne (x : Binary64) : Bool :=
  !x.negative && Nat.pow 2 (-x.exponent).toNat ≤ x.mantissa * Nat.pow 2 x.exponent.toNat

/-! ### Shortest decimals -/

/-- A decimal `digits * 10 ^ exponent`. -/
structure Decimal where
  digits   : Nat
  exponent : Int
  deriving DecidableEq, Repr

/-- The magnitude of a number and the bounds of the interval that rounds to it, as integers over
one denominator. The bounds themselves round to the number when its mantissa is even. -/
structure Interval where
  low         : Nat
  value       : Nat
  high        : Nat
  denominator : Nat
  closed      : Bool

/-- The reals that round to the number. Below a power of two the neighbours lie closer. -/
def interval (x : Binary64) : Interval :=
  let up   := Nat.pow 2 x.exponent.toNat
  let down := 4 * Nat.pow 2 (-x.exponent).toNat
  let m    := x.mantissa
  let low  := if m = fullMantissa ∧ x.exponent ≠ -1074 then 4 * m - 1 else 4 * m - 2
  ⟨low * up, 4 * m * up, (4 * m + 2) * up, down, m % 2 == 0⟩

/-- The decimal `n * 10 ^ k` lies in the interval. -/
def Interval.holds (i : Interval) (n : Nat) (k : Int) : Bool :=
  let v := n * Nat.pow 10 k.toNat * i.denominator
  let s := Nat.pow 10 (-k).toNat
  if i.closed then i.low * s ≤ v && v ≤ i.high * s else i.low * s < v && v < i.high * s

/-- The decimal exponent of the first digit of `n / d`, searched from a guess below it. -/
def leadingExponent (n d : Nat) : Nat → Int → Int
  | 0,        k => k
  | fuel + 1, k =>
    if d * Nat.pow 10 (k + 1).toNat ≤ n * Nat.pow 10 (-(k + 1)).toNat then
      leadingExponent n d fuel (k + 1)
    else k

/-- The better of the two neighbours of the value on the grid of the multiples of `10 ^ k`, when
one of them lies in the interval. A tie goes to the even neighbour. -/
def onGrid? (i : Interval) (k : Int) : Option Decimal :=
  let n := i.value * Nat.pow 10 (-k).toNat
  let d := i.denominator * Nat.pow 10 k.toNat
  let below := n / d
  let nearest := divRound n d
  let other := if nearest = below then below + 1 else below
  if i.holds nearest k then some ⟨nearest, k⟩
  else if i.holds other k then some ⟨other, k⟩
  else none

/-- The first grid, from coarse to fine, that has a decimal in the interval. -/
def shortestFrom (i : Interval) : Nat → Int → Decimal
  | 0,        k =>
    ⟨divRound (i.value * Nat.pow 10 (-k).toNat) (i.denominator * Nat.pow 10 k.toNat), k⟩
  | fuel + 1, k => (onGrid? i k).getD (shortestFrom i fuel (k - 1))

/-- Drop the zeros at the end of a digit string. -/
def Decimal.strip (digits : Nat) (exponent : Int) : Nat → Decimal
  | 0        => ⟨digits, exponent⟩
  | fuel + 1 =>
    if digits % 10 = 0 ∧ digits ≠ 0 then Decimal.strip (digits / 10) (exponent + 1) fuel
    else ⟨digits, exponent⟩

/-- The decimal of fewest digits that reads back as the magnitude of `x`, and of those the one
nearest to it. -/
def shortest (x : Binary64) : Decimal :=
  if x.mantissa = 0 then ⟨0, 0⟩
  else
    let i := x.interval
    let k := leadingExponent i.value i.denominator 640 (-325)
    let d := shortestFrom i 17 k
    Decimal.strip d.digits d.exponent 20

end Binary64

end SemanticLayer

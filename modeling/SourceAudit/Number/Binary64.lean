/-!
# SourceAudit.Number.Binary64

Rounding to double precision. Durations and clock readings are held as exact rationals, and every
operation on them is followed by `Binary64.round`: the nearest number with a significand of 53 bits
and an exponent of at least -1074, ties to the even significand. There is no upper bound on the
exponent, so rounding is total; what is too large is refused where a value is used.
-/

namespace SourceAudit.Number

/-- `n / d` rounded to the nearest integer, a half to the even neighbour. -/
def divNearestEven (n d : Nat) : Nat :=
  let q := n / d
  let r := n % d
  if 2 * r < d then q
  else if d < 2 * r then q + 1
  else if q % 2 = 0 then q
  else q + 1

/-- A rational rounded to the nearest integer, a half to the even neighbour. -/
def nearestEven (q : Rat) : Int :=
  let n := divNearestEven q.num.natAbs q.den
  if q.num < 0 then -(n : Int) else n

/-- A rational without its fractional part. -/
def truncate (q : Rat) : Int := Int.tdiv q.num q.den

/-- `2 ^ k`. -/
def twoTo (k : Nat) : Nat := Nat.pow 2 k

/-- `m · 2 ^ e`. -/
def scaleByTwo (m : Int) (e : Int) : Rat :=
  if 0 ≤ e then ((m * twoTo e.toNat : Int) : Rat) else mkRat m (twoTo (-e).toNat)

namespace Binary64

/-- The exponent of the last place of the positive number `n / d`: the number lies between 2⁵² and
2⁵³ of these units, unless it is so small that the least unit is taken. -/
def lastPlace (n d : Nat) : Int :=
  let k : Int := (n.log2 : Int) - d.log2
  let below : Bool :=
    if 0 ≤ k then decide (n < d * twoTo k.toNat) else decide (n * twoTo (-k).toNat < d)
  max ((if below then k - 1 else k) - 52) (-1074)

/-- The nearest double-precision number, ties to even. -/
def round (q : Rat) : Rat :=
  if q.num = 0 then 0
  else
    let n := q.num.natAbs
    let e := lastPlace n q.den
    let m := if 0 ≤ e then divNearestEven n (q.den * twoTo e.toNat)
      else divNearestEven (n * twoTo (-e).toNat) q.den
    scaleByTwo (if q.num < 0 then -(m : Int) else m) e

/-- The least number that is too large for the format: 2¹⁰²⁴. -/
def bound : Rat := scaleByTwo 1 1024

/-- Sum of two numbers, rounded. -/
def add (a b : Rat) : Rat := round (a + b)

/-- Difference of two numbers, rounded. -/
def sub (a b : Rat) : Rat := round (a - b)

/-- Product of two numbers, rounded. -/
def mul (a b : Rat) : Rat := round (a * b)

end Binary64

end SourceAudit.Number

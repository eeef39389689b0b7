import SourceAudit.Number.Double

/-!
# SourceAudit.Number.Shortest

Decimal text of double-precision numbers: the fewest digits that read back as the same number, and
among those the nearest to it. Exponents from -4 to 15 are written positionally, with `.0` after an
integer, and all others as `1.5e+16` or `1e-07`.
-/

namespace SourceAudit.Number

/-- `10 ^ e` for any integer `e`. -/
def tenTo (e : Int) : Rat :=
  if 0 ≤ e then (Nat.pow 10 e.toNat : Rat) else mkRat 1 (Nat.pow 10 (-e).toNat)

namespace Shortest

/-- The exponent of the leading decimal digit of a positive number: an estimate from the binary
logarithm, moved up until the next power of ten exceeds the number. -/
def leadingExponent (q : Rat) : Int :=
  let low := ((q.num.natAbs.log2 : Int) - (q.den.log2 : Int) - 1) * 30103 / 100000 - 1
  ([low, low + 1, low + 2, low + 3].find? fun e => decide (q < tenTo (e + 1))).getD (low + 3)

/-- The integer multiples of `unit` next to `q` that read back as `q`, nearest first. -/
def candidates (q unit : Rat) : List Nat :=
  let low := (q / unit).floor.toNat
  let nearFirst :=
    let below := q - low * unit
    let above := (low + 1) * unit - q
    if below < above ∨ (below = above ∧ low % 2 = 0) then [low, low + 1] else [low + 1, low]
  nearFirst.filter fun m => decide (Binary64.round (m * unit) = q)

/-- The shortest digits of a positive number with leading exponent `e`, trying `count` digits and
then up to `more` further ones: the digits as one number, and the exponent of its last digit. -/
def search (q : Rat) (e : Int) : (more count : Nat) → Nat × Int
  | 0, count => ((q / tenTo (e - count + 1)).floor.toNat, e - count + 1)
  | more + 1, count =>
    let place := e - count + 1
    match candidates q (tenTo place) with
    | m :: _ => (m, place)
    | [] => search q e more (count + 1)

/-- The digits of a positive number, without trailing zeros, and the position of the decimal point
relative to the first digit. -/
def digits (q : Rat) : List Char × Int :=
  let (m, place) := search q (leadingExponent q) 17 1
  let ds := Nat.toDigits 10 m
  ((ds.reverse.dropWhile (· == '0')).reverse, ds.length + place)

/-- The exponent with its sign and at least two digits. -/
def exponentText (e : Int) : List Char :=
  let ds := Nat.toDigits 10 e.natAbs
  (if e < 0 then '-' else '+') :: (if ds.length < 2 then '0' :: ds else ds)

/-- Text of a positive number. -/
def positive (q : Rat) : List Char :=
  let (ds, point) := digits q
  if -4 < point ∧ point ≤ 16 then
    if point ≤ 0 then
      '0' :: '.' :: (List.replicate (-point).toNat '0' ++ ds)
    else
      let p := point.toNat
      let whole := ds.take p ++ List.replicate (p - ds.length) '0'
      let fraction := ds.drop p
      whole ++ '.' :: (if fraction.isEmpty then ['0'] else fraction)
  else
    match ds with
    | [] => []
    | [d] => d :: 'e' :: exponentText (point - 1)
    | d :: rest => d :: '.' :: rest ++ 'e' :: exponentText (point - 1)

end Shortest

/-- The text of a finite number. -/
def decimalText (q : Rat) : String :=
  if q.num = 0 then "0.0"
  else if q < 0 then String.ofList ('-' :: Shortest.positive (-q))
  else String.ofList (Shortest.positive q)

/-- The text of a double-precision number. -/
def Double.text : Double → String
  | .finite q => decimalText q
  | .negZero => "-0.0"
  | .infinity false => "inf"
  | .infinity true => "-inf"
  | .nan => "nan"

end SourceAudit.Number

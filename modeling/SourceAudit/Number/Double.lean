import SourceAudit.Number.Binary64

/-!
# SourceAudit.Number.Double

Double-precision numbers with the special ones: the finite numbers as rationals, a zero below zero,
the two infinities, and what is no number at all. Sums and products are rounded as in
`SourceAudit.Number.Binary64`, and a result beyond the format is an infinity.
-/

namespace SourceAudit.Number

/-- A double-precision number. -/
inductive Double
  | finite (q : Rat)
  | negZero
  | infinity (negative : Bool)
  | nan
deriving DecidableEq, Repr

namespace Double

/-- The value of a number that has one. -/
def toRat? : Double → Option Rat
  | finite q => some q
  | negZero => some 0
  | infinity _ => none
  | nan => none

/-- Is the number one of the two zeros? -/
def isZero : Double → Bool
  | finite q => q = 0
  | negZero => true
  | infinity _ => false
  | nan => false

/-- A rounded number, which is an infinity if it lies beyond the format. -/
def ofRounded (q : Rat) : Double :=
  if Binary64.bound ≤ q then infinity false
  else if q ≤ -Binary64.bound then infinity true
  else finite q

/-- An integer, rounded; `none` if it lies beyond the format. -/
def ofInt? (n : Int) : Option Double :=
  match ofRounded (Binary64.round n) with
  | infinity _ => none
  | x => some x

/-- The number with the other sign. -/
def negate : Double → Double
  | finite q => if q = 0 then negZero else finite (-q)
  | negZero => finite 0
  | infinity negative => infinity !negative
  | nan => nan

/-- Is the number less than or equal to `q`? -/
def atMost (x : Double) (q : Rat) : Bool :=
  match x with
  | finite p => p ≤ q
  | negZero => 0 ≤ q
  | infinity negative => negative
  | nan => false

/-- The sum with a rational, rounded. -/
def plus (x : Double) (q : Rat) : Double :=
  match x with
  | finite p => ofRounded (Binary64.add p q)
  | negZero => ofRounded (Binary64.round q)
  | infinity negative => infinity negative
  | nan => nan

/-- The product with a power of two, rounded. -/
def scale (x : Double) (k : Nat) : Double :=
  match x with
  | finite p => ofRounded (Binary64.mul p (twoTo k))
  | x => x

end Double

end SourceAudit.Number

import SourceAudit.Pattern.CharSet

/-!
# SourceAudit.Pattern.Tolerance

Errors that a part of a pattern tolerates: characters that are replaced, added or missing. A
tolerance bounds their numbers one by one and together, and a weighted sum of them.
-/

namespace SourceAudit.Pattern

/-- A kind of error. -/
inductive ErrorKind
  /-- Another character stands in place of the expected one. -/
  | replaced
  /-- A character stands before the expected one. -/
  | added
  /-- The expected character is not there. -/
  | missing
deriving DecidableEq, Repr

/-- The numbers of errors of each kind. -/
structure Errors where
  replaced : Nat
  added : Nat
  missing : Nat
deriving DecidableEq, Repr

namespace Errors

/-- No errors. -/
def zero : Errors := ⟨0, 0, 0⟩

/-- The number of errors of one kind. -/
def count (e : Errors) : ErrorKind → Nat
  | .replaced => e.replaced
  | .added => e.added
  | .missing => e.missing

/-- The number of all errors. -/
def total (e : Errors) : Nat := e.replaced + e.added + e.missing

/-- One error more. -/
def with1 (e : Errors) : ErrorKind → Errors
  | .replaced => { e with replaced := e.replaced + 1 }
  | .added => { e with added := e.added + 1 }
  | .missing => { e with missing := e.missing + 1 }

/-- The errors of both. -/
def add (e f : Errors) : Errors :=
  ⟨e.replaced + f.replaced, e.added + f.added, e.missing + f.missing⟩

end Errors

/-- From `least` to `greatest`, or to any number from `least` on. -/
structure Bounds where
  least : Nat
  greatest : Option Nat
deriving DecidableEq, Repr

namespace Bounds

/-- Any number. -/
def any : Bounds := ⟨0, none⟩

/-- No number but zero. -/
def none : Bounds := ⟨0, some 0⟩

/-- Is one more than `n` within the upper bound? -/
def admitsMore (b : Bounds) (n : Nat) : Bool := b.greatest.all (n < ·)

end Bounds

/-- Which errors are tolerated. -/
structure Tolerance where
  replaced : Bounds
  added : Bounds
  missing : Bounds
  total : Bounds
  /-- What one error of each kind costs. -/
  cost : Errors
  /-- The greatest sum of the costs. -/
  greatestCost : Option Nat
  /-- The characters that may be replaced or added, if they are restricted. -/
  allowed : Option CharSet
deriving DecidableEq, Repr

namespace Tolerance

/-- The bounds for one kind of error. -/
def bounds (t : Tolerance) : ErrorKind → Bounds
  | .replaced => t.replaced
  | .added => t.added
  | .missing => t.missing

/-- The cost of some errors. -/
def costOf (t : Tolerance) (e : Errors) : Nat :=
  e.replaced * t.cost.replaced + e.added * t.cost.added + e.missing * t.cost.missing

/-- May one error of a kind be added to `e`, where no more than `limit` errors count at all? -/
def admits (t : Tolerance) (limit : Option Nat) (e : Errors) (k : ErrorKind) : Bool :=
  (t.bounds k).admitsMore (e.count k) && t.total.admitsMore e.total && limit.all (e.total < ·) &&
    t.greatestCost.all (t.costOf (e.with1 k) ≤ ·)

/-- Are there as many errors as there must be? -/
def isMet (t : Tolerance) (e : Errors) : Bool :=
  t.replaced.least ≤ e.replaced && t.added.least ≤ e.added && t.missing.least ≤ e.missing &&
    t.total.least ≤ e.total

/-- May the character be replaced or added? -/
def allows (t : Tolerance) (code : Nat) : Bool := t.allowed.all (·.contains code)

end Tolerance

end SourceAudit.Pattern

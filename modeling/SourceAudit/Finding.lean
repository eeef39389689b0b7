/-!
# SourceAudit.Finding

Findings: the place in a file at which a rule matched, with what the report says about it.
-/

namespace SourceAudit

/-- How serious a finding is, most serious first. -/
inductive Severity
  | critical
  | high
  | medium
  | low
  | info
deriving DecidableEq, Repr

namespace Severity

/-- All severities, most serious first. -/
def all : List Severity := [critical, high, medium, low, info]

/-- The place in the order of severities, 0 for the most serious. -/
def rank : Severity → Nat
  | critical => 0
  | high => 1
  | medium => 2
  | low => 3
  | info => 4

/-- The name of a severity. -/
def name : Severity → String
  | critical => "critical"
  | high => "high"
  | medium => "medium"
  | low => "low"
  | info => "info"

/-- The severity of a name. -/
def ofName? (s : String) : Option Severity := all.find? (·.name = s)

end Severity

/-- What a rule looks for. -/
inductive Category
  | secret
  | insecureCall
  | weakCrypto
  | misconfig
deriving DecidableEq, Repr

namespace Category

/-- All categories. -/
def all : List Category := [secret, insecureCall, weakCrypto, misconfig]

/-- The name of a category. -/
def name : Category → String
  | secret => "secret"
  | insecureCall => "insecure-call"
  | weakCrypto => "weak-crypto"
  | misconfig => "misconfig"

/-- The category of a name. -/
def ofName? (s : String) : Option Category := all.find? (·.name = s)

end Category

/-- A match of a rule in a file. -/
structure Finding where
  ruleId : String
  path : String
  /-- The line, counted from 1. -/
  line : Nat
  /-- One more than the number of bytes before the match in its line. -/
  column : Nat
  /-- An excerpt of the line in which secrets are masked. -/
  snippet : String
  severity : Severity
  category : Category
  title : String
  description : String
  recommendation : String
deriving DecidableEq, Repr

end SourceAudit

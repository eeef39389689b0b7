import SourceAudit.Number.Double
import SourceAudit.Text.Case

/-!
# SourceAudit.Admission.Profile

Profiles of admission: how many attempts of a kind are admitted in a window of time. Some kinds have
a fixed profile, and the number of scans a day depends on the plan of the account.
-/

namespace SourceAudit.Admission

open Number (Double)

/-- A limit of attempts for each window of time. -/
structure Profile where
  name : String
  limit : Int
  /-- The length of a window, in seconds. -/
  duration : Double
deriving DecidableEq

namespace Profile

/-- The seconds of a quarter of an hour. -/
def quarterHour : Double := .finite (15 * 60)

/-- The seconds of an hour. -/
def hour : Double := .finite (60 * 60)

/-- The seconds of a day. -/
def day : Double := .finite (24 * 60 * 60)

/-- The profiles of the actions on an account. -/
def named : List Profile := [
  ⟨"login", 5, quarterHour⟩,
  ⟨"register", 3, hour⟩,
  ⟨"forgot_password", 3, hour⟩,
  ⟨"reset_password", 5, hour⟩,
  ⟨"change_password", 5, quarterHour⟩]

/-- The profile of scans from one address. -/
def scanBurst (limit : Int) (duration : Double) : Profile := ⟨"scan_burst", limit, duration⟩

end Profile

/-- The number of scans a day for each plan, and the plan of accounts without one. -/
structure Plans where
  dailyScans : List (String × Int)
  defaultTier : String
deriving DecidableEq

namespace Plans

/-- The daily scans of a tier. -/
def scans? (p : Plans) (tier : String) : Option Int :=
  (p.dailyScans.find? (·.1 = tier)).map (·.2)

/-- The tier that counts for an account: the one named, in lower case, if there is such a plan, or
else the default one. -/
def tierOf (p : Plans) (requested : Option String) : String :=
  let named := (requested.filter (· ≠ "")).getD p.defaultTier
  let tier := Text.lower named
  if (p.scans? tier).isSome then tier else p.defaultTier

/-- The profile of the scans of an account; a tier without a plan has one scan a day. -/
def profile (p : Plans) (requested : Option String) : Profile :=
  let tier := p.tierOf requested
  ⟨"scan:" ++ tier, (p.scans? tier).getD 1, Profile.day⟩

end Plans

end SourceAudit.Admission

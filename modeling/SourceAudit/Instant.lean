import SourceAudit.Number.Binary64

/-!
# SourceAudit.Instant

Moments in UTC, to the microsecond. Clocks report seconds since the start of 1970 as
double-precision numbers; `Instant.ofEpoch` turns such a reading into a moment, if the calendar of
the years 1 to 9999 has it, and `Instant.text` writes a moment as `2023-11-14T22:13:20.500000Z`,
without the fraction when it is zero.
-/

namespace SourceAudit

open Number

/-- A moment, as microseconds since the start of 1970. -/
structure Instant where
  micros : Int
deriving DecidableEq, Repr

/-- Why a number of seconds is no moment. -/
inductive EpochError
  /-- It does not fit a 64-bit count of seconds. -/
  | tooLarge
  /-- Its year does not fit a 32-bit calendar. -/
  | yearTooLarge
  /-- Its year lies outside 1 to 9999. -/
  | outsideCalendar
deriving DecidableEq, Repr

namespace Instant

/-- The seconds that have a calendar year of 32 bits. -/
def hasYear (seconds : Int) : Bool :=
  -67768040609740800 ≤ seconds && seconds ≤ 67768036191676799

/-- The seconds of the years 1 to 9999. -/
def inCalendar (seconds : Int) : Bool := -62135596800 ≤ seconds && seconds ≤ 253402300799

/-- Seconds since 1970 as microseconds: the whole seconds, and their fraction rounded to the nearest
microsecond, a half to the even one. -/
def microsOf (q : Rat) : Int :=
  let whole := truncate q
  whole * 1000000 + nearestEven (Binary64.mul (q - whole) 1000000)

/-- The moment so many seconds after the start of 1970. -/
def ofEpoch (q : Rat) : Except EpochError Instant :=
  let micros := microsOf q
  let seconds := micros / 1000000
  if seconds < -0x8000000000000000 ∨ 0x8000000000000000 ≤ seconds then .error .tooLarge
  else if !hasYear seconds then .error .yearTooLarge
  else if !inCalendar seconds then .error .outsideCalendar
  else .ok ⟨micros⟩

/-- Year, month and day of a day counted from the start of 1970. The count is moved to the first of
March of the year 0, so that a leap day ends its year. -/
def civil (day : Int) : Int × Nat × Nat :=
  let z := day + 719468
  let era := z / 146097
  let dayOfEra := (z % 146097).toNat
  let yearOfEra := (dayOfEra - dayOfEra / 1460 + dayOfEra / 36524 - dayOfEra / 146096) / 365
  let dayOfYear := dayOfEra - (365 * yearOfEra + yearOfEra / 4 - yearOfEra / 100)
  let shifted := (5 * dayOfYear + 2) / 153
  let dayOfMonth := dayOfYear - (153 * shifted + 2) / 5 + 1
  let month := if shifted < 10 then shifted + 3 else shifted - 9
  (yearOfEra + era * 400 + (if month ≤ 2 then 1 else 0), month, dayOfMonth)

/-- A number with leading zeros up to the given width. -/
def padded (width n : Nat) : String :=
  let ds := Nat.toDigits 10 n
  String.ofList (List.replicate (width - ds.length) '0' ++ ds)

/-- The written form of a moment. -/
def text (t : Instant) : String :=
  let seconds := t.micros / 1000000
  let fraction := (t.micros % 1000000).toNat
  let (year, month, day) := civil (seconds / 86400)
  let clock := (seconds % 86400).toNat
  let date := padded 4 year.toNat ++ "-" ++ padded 2 month ++ "-" ++ padded 2 day
  let time := padded 2 (clock / 3600) ++ ":" ++ padded 2 (clock / 60 % 60) ++ ":" ++
    padded 2 (clock % 60)
  date ++ "T" ++ time ++ (if fraction = 0 then "" else "." ++ padded 6 fraction) ++ "Z"

/-- The seconds from one moment to another, rounded. -/
def secondsUntil (now later : Instant) : Rat :=
  Binary64.round (mkRat (later.micros - now.micros) 1000000)

end Instant

end SourceAudit

import Std.Data.HashMap
import SourceAudit.Admission.Profile
import SourceAudit.Instant

/-!
# SourceAudit.Admission.Controller

Fixed windows of attempts. Every key has a window that starts with its first attempt and counts the
attempts admitted since; when the window is over, the next attempt starts a new one. Windows that
are over are removed from time to time when there are many.

Times are rationals, and `rounding` says what becomes of each sum and difference: the service rounds
to double precision, and exact time is the identity.
-/

namespace SourceAudit.Admission

open Number (Double)

/-- The attempts admitted for a key. -/
structure Window where
  count : Nat
  /-- When the window started, in seconds. -/
  start : Rat
  /-- The length of the window at the last attempt. -/
  duration : Double
deriving DecidableEq

/-- Is the window over? -/
def Window.isOver (rounding : Rat → Rat) (w : Window) (now : Rat) : Bool :=
  w.duration.atMost (rounding (now - w.start))

/-- The answer to an attempt. -/
structure Decision where
  allowed : Bool
  /-- How many more attempts the window admits. -/
  remaining : Nat
  /-- The end of the window. -/
  resetAt : Instant
  limit : Nat
deriving DecidableEq

/-- Why an attempt gets no answer. -/
inductive Failure
  /-- The end of the window is no moment of the calendar. -/
  | unrepresentable (cause : EpochError)
  /-- The limit is below zero. -/
  | negativeLimit
deriving DecidableEq

/-- The windows of all keys. -/
structure Controller where
  windows : Std.HashMap String Window
  /-- When windows were last removed. -/
  lastPrune : Rat

/-- The key of the attempts at an action by one subject. -/
def key (action subject : String) : String := action ++ ":" ++ subject

/-- Windows are removed from this number on. -/
def pruneThreshold : Nat := 10000

/-- The seconds between two removals. -/
def pruneInterval : Rat := 60

namespace Controller

/-- A controller without windows. -/
def start (now : Rat) : Controller := ⟨∅, now⟩

/-- Removes the windows that are over, if there are many and the last removal is long ago. -/
def prune (rounding : Rat → Rat) (c : Controller) (now : Rat) : Controller :=
  if c.windows.size < pruneThreshold ∨ rounding (now - c.lastPrune) < pruneInterval then c
  else ⟨c.windows.filter fun _ w => !w.isOver rounding now, now⟩

/-- The window of a key at an attempt: the one it has, with the duration of the profile, unless it
is over; or else a new one. -/
def current (rounding : Rat → Rat) (held : Option Window) (now : Rat) (duration : Double) :
    Window :=
  match held with
  | none => ⟨0, now, duration⟩
  | some w =>
    let w := { w with duration := duration }
    if w.isOver rounding now then ⟨0, now, duration⟩ else w

/-- The end of a window that starts at `start`. A duration that is no number gives no moment of the
calendar, and an infinite one a moment beyond every count of seconds. -/
def endOf (rounding : Rat → Rat) (start : Rat) (duration : Double) : Except EpochError Instant :=
  match duration with
  | .finite d => Instant.ofEpoch (rounding (start + d))
  | .negZero => Instant.ofEpoch start
  | .infinity _ => .error .tooLarge
  | .nan => .error .outsideCalendar

/-- One attempt at `now` for a key, counted if it is admitted. -/
def check (rounding : Rat → Rat) (c : Controller) (now : Rat) (key : String) (p : Profile) :
    Except Failure Decision × Controller :=
  let c := c.prune rounding now
  let w := current rounding c.windows[key]? now p.duration
  let held (w : Window) : Controller := { c with windows := c.windows.insert key w }
  match endOf rounding w.start p.duration with
  | .error cause => (.error (.unrepresentable cause), held w)
  | .ok resetAt =>
    if (w.count : Int) < p.limit then
      let w := { w with count := w.count + 1 }
      (.ok ⟨true, (p.limit - w.count).toNat, resetAt, p.limit.toNat⟩, held w)
    else if p.limit < 0 then (.error .negativeLimit, held w)
    else (.ok ⟨false, 0, resetAt, p.limit.toNat⟩, held w)

end Controller

end SourceAudit.Admission

import SourceAudit.Number.Double

/-!
# SourceAudit.Remote.Timer

The time of a retrieval, in seconds since its start. Replies and the work on them take none; what
takes time is to wait before a request is repeated. Files are retrieved by several workers, each of
which has come to a time of its own, and the time for all of them may be limited.
-/

namespace SourceAudit.Remote

open Number

/-- The times that the workers have come to. One of them is at work. -/
structure Timer where
  /-- How much time there is, if it is limited. -/
  limit : Option Double
  /-- When the worker at work goes on. -/
  elapsed : Rat
  /-- When the other workers are free, the first of them first. -/
  others : List Rat
  /-- Has the time been over for a worker before it was done? -/
  late : Bool
deriving DecidableEq

namespace Timer

/-- One worker, at the start, with any amount of time. -/
def start : Timer := ⟨none, 0, [], false⟩

/-- How long a delay lasts; none that is not above zero takes any time, and `none` says that it
never ends. -/
def duration? : Double → Option Rat
  | .finite d => some (if 0 ≤ d then d else 0)
  | .negZero => some 0
  | .infinity negative => if negative then some 0 else none
  | .nan => none

/-- Is the time over before the end of a delay? -/
def overrun (t : Timer) (delay : Double) : Bool :=
  t.limit.any fun limit => (duration? delay).all fun d => limit.atMost (t.elapsed + d)

/-- The worker at work waits. -/
def wait (t : Timer) (delay : Double) : Timer :=
  { t with elapsed := t.elapsed + (duration? delay).getD 0 }

/-- A number of workers is free from now on. -/
def recruit (t : Timer) (workers : Nat) : Timer :=
  { t with others := List.replicate (workers - 1) t.elapsed }

/-- Puts a time in its place, after those equal to it. -/
def enqueue (time : Rat) : List Rat → List Rat
  | [] => [time]
  | t :: ts => if time < t then time :: t :: ts else t :: enqueue time ts

/-- The worker that is free first goes to work. -/
def handOver (t : Timer) : Timer :=
  match t.others with
  | [] => t
  | u :: us =>
    if u < t.elapsed then { t with elapsed := u, others := enqueue t.elapsed us } else t

/-- The time is over for the worker at work, and the next one goes on if there is any. -/
def lose (t : Timer) : Timer :=
  match t.others with
  | [] => { t with late := true }
  | u :: us => { t with elapsed := u, others := us, late := true }

@[simp] theorem limit_wait (t : Timer) (delay : Double) : (t.wait delay).limit = t.limit := rfl

@[simp] theorem others_wait (t : Timer) (delay : Double) : (t.wait delay).others = t.others := rfl

@[simp] theorem late_wait (t : Timer) (delay : Double) : (t.wait delay).late = t.late := rfl

@[simp] theorem late_recruit (t : Timer) (workers : Nat) : (t.recruit workers).late = t.late := rfl

@[simp] theorem late_lose (t : Timer) : t.lose.late = true := by
  unfold lose
  split <;> rfl

@[simp] theorem limit_lose (t : Timer) : t.lose.limit = t.limit := by
  unfold lose
  split <;> rfl

@[simp] theorem limit_handOver (t : Timer) : t.handOver.limit = t.limit := by
  unfold handOver
  split
  · rfl
  · split <;> rfl

@[simp] theorem late_handOver (t : Timer) : t.handOver.late = t.late := by
  unfold handOver
  split
  · rfl
  · split <;> rfl

/-- A worker that is alone goes on by itself. -/
theorem handOver_of_alone {t : Timer} (h : t.others = []) : t.handOver = t := by
  rw [handOver, h]

/-- No delay is too long where time is not limited. -/
theorem overrun_of_unlimited {t : Timer} (h : t.limit = none) (delay : Double) :
    t.overrun delay = false := by
  rw [overrun, h]
  rfl

end Timer

end SourceAudit.Remote

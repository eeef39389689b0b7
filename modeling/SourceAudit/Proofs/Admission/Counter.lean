import Mathlib.Order.Monotone.Defs
import SourceAudit.Admission.Controller
import SourceAudit.Proofs.Number.Rounding

/-!
# SourceAudit.Proofs.Admission.Counter

The controller of all keys against one counter for each. A counter knows nothing of other keys, is
never removed and starts anew when its window is over; `Counter.visits` is what comes of a run of
attempts at it.

* `check_eq` — an attempt at a controller is an attempt at the counter of its window, among the
  windows that removal leaves;
* `agrees_prune` — a window that is removed would have started anew at every later attempt;
* `visits_eq` and `visits_start` — the visits of a key are those of its counter, for every rounding
  that is monotone;
* `answers_eq_counter` — with the rounding of the service, neither the attempts at other keys nor
  removal can be told from the answers for a key.
-/

namespace SourceAudit.Admission

open Number

/-! ## Durations -/

/-- One duration is no longer than another: it is over whenever the other one is. -/
def NoLonger (d d' : Double) : Prop := ∀ q, d'.atMost q = true → d.atMost q = true

theorem noLonger_finite {p q : Rat} : NoLonger (.finite p) (.finite q) ↔ p ≤ q := by
  simp only [NoLonger, Double.atMost, decide_eq_true_eq]
  exact ⟨fun h => h q le_rfl, fun h r hr => h.trans hr⟩

theorem NoLonger.refl (d : Double) : NoLonger d d := fun _ h => h

/-- A duration that is over after some time is over after any longer time. -/
theorem atMost_mono {d : Double} {p q : Rat} (h : p ≤ q) (hp : d.atMost p = true) :
    d.atMost q = true := by
  cases d with
  | finite r => simp only [Double.atMost, decide_eq_true_eq] at *; exact hp.trans h
  | negZero => simp only [Double.atMost, decide_eq_true_eq] at *; exact hp.trans h
  | infinity negative => exact hp
  | nan => exact hp

/-! ## A single counter -/

/-- The attempts admitted since a moment. -/
structure Counter where
  used : Nat
  since : Rat
deriving DecidableEq

namespace Counter

/-- The counter at a moment: the one held, unless the time of a window has passed since it started;
or else a new one. -/
def current (rounding : Rat → Rat) (held : Option Counter) (now : Rat) (duration : Double) :
    Counter :=
  match held with
  | none => ⟨0, now⟩
  | some c => if duration.atMost (rounding (now - c.since)) then ⟨0, now⟩ else c

/-- An attempt within the window of a counter: it is admitted and counted below the limit. -/
def attempt (rounding : Rat → Rat) (c : Counter) (p : Profile) :
    Except Failure Decision × Counter :=
  match Controller.endOf rounding c.since p.duration with
  | .error cause => (.error (.unrepresentable cause), c)
  | .ok resetAt =>
    if (c.used : Int) < p.limit then
      let c := { c with used := c.used + 1 }
      (.ok ⟨true, (p.limit - c.used).toNat, resetAt, p.limit.toNat⟩, c)
    else if p.limit < 0 then (.error .negativeLimit, c)
    else (.ok ⟨false, 0, resetAt, p.limit.toNat⟩, c)

end Counter

/-! ## Runs -/

/-- An attempt at an action. -/
structure Attempt where
  key : String
  now : Rat
  profile : Profile

/-- What comes of an attempt: the answer, and how the counter of the key stands afterwards. -/
structure Visit where
  attempt : Attempt
  answer : Except Failure Decision
  counter : Option Counter

/-- The counter of a window. -/
def Window.counter (w : Window) : Counter := ⟨w.count, w.start⟩

/-- What comes of a run of attempts at a controller. -/
def Controller.visits (rounding : Rat → Rat) : Controller → List Attempt → List Visit
  | _, [] => []
  | c, a :: as =>
    let (answer, c) := c.check rounding a.now a.key a.profile
    ⟨a, answer, c.windows[a.key]?.map Window.counter⟩ :: visits rounding c as

/-- What comes of a run of attempts at one counter. -/
def Counter.visits (rounding : Rat → Rat) : Option Counter → List Attempt → List Visit
  | _, [] => []
  | held, a :: as =>
    let met := Counter.current rounding held a.now a.profile.duration
    let (answer, c) := met.attempt rounding a.profile
    ⟨a, answer, some c⟩ :: visits rounding (some c) as

/-- The visits of a key. -/
def visitsOf (key : String) (visits : List Visit) : List Visit :=
  visits.filter (·.attempt.key = key)

section

variable {rounding : Rat → Rat}

/-! ## One attempt -/

theorem duration_current (rounding : Rat → Rat) (held : Option Window) (now : Rat) (d : Double) :
    (Controller.current rounding held now d).duration = d := by
  unfold Controller.current
  split
  · rfl
  · simp only
    split <;> rfl

/-- The window of a controller is that of a counter. -/
theorem counter_current (held : Option Window) (now : Rat) (d : Double) :
    (Controller.current rounding held now d).counter =
      Counter.current rounding (held.map Window.counter) now d := by
  cases held with
  | none => rfl
  | some w =>
      by_cases hover : d.atMost (rounding (now - w.start)) = true <;>
        simp [Controller.current, Window.isOver, Counter.current, Window.counter, hover]

/-- An attempt never moves the start of a window. -/
theorem since_attempt (c : Counter) (p : Profile) :
    (c.attempt rounding p).2.since = c.since := by
  unfold Counter.attempt
  split
  · rfl
  · split
    · rfl
    · split <;> rfl

/-- **An attempt at a controller** is one at the counter of its window, among the windows that
removal leaves. -/
theorem check_eq (c : Controller) (now : Rat) (key : String) (p : Profile) :
    c.check rounding now key p =
      let pruned := c.prune rounding now
      let met := Counter.current rounding (pruned.windows[key]?.map Window.counter) now p.duration
      let (answer, after) := met.attempt rounding p
      (answer, { pruned with
        windows := pruned.windows.insert key ⟨after.used, after.since, p.duration⟩ }) := by
  obtain ⟨name, limit, duration⟩ := p
  unfold Controller.check
  simp only [← counter_current]
  have hduration := duration_current rounding (c.prune rounding now).windows[key]? now duration
  generalize Controller.current rounding (c.prune rounding now).windows[key]? now duration = w
    at hduration ⊢
  subst hduration
  simp only [Counter.attempt, Window.counter]
  cases Controller.endOf rounding w.start w.duration with
  | error cause => rfl
  | ok resetAt =>
      by_cases hroom : (w.count : Int) < limit
      · simp [hroom]
      · by_cases hlimit : limit < 0 <;> simp [hroom, hlimit]

/-- A check leaves the windows of other keys as they are, but for those that are over. -/
theorem windows_check_of_ne (c : Controller) (now : Rat) {key k : String} (h : key ≠ k)
    (p : Profile) :
    (c.check rounding now key p).2.windows[k]? = (c.prune rounding now).windows[k]? := by
  rw [check_eq]
  simp [Std.HashMap.getElem?_insert, h]

/-- It leaves the window that it has counted in. -/
theorem windows_check_self (rounding : Rat → Rat) (c : Controller) (now : Rat) (key : String)
    (p : Profile) :
    (c.check rounding now key p).2.windows[key]? =
      let met := Counter.current rounding
        ((c.prune rounding now).windows[key]?.map Window.counter) now p.duration
      let after := (met.attempt rounding p).2
      some ⟨after.used, after.since, p.duration⟩ := by
  rw [check_eq]
  simp

/-! ## Removal -/

/-- A window stands for a counter at the attempts yet to come: each of them meets the same counter,
and none asks for a longer window. -/
structure Agrees (rounding : Rat → Rat) (held : Option Window) (counter : Option Counter)
    (later : List Attempt) : Prop where
  same : ∀ a ∈ later, Counter.current rounding (held.map Window.counter) a.now a.profile.duration =
    Counter.current rounding counter a.now a.profile.duration
  noLonger : ∀ w ∈ held, ∀ a ∈ later, NoLonger a.profile.duration w.duration

/-- Without windows the two agree. -/
theorem agrees_none (later : List Attempt) : Agrees rounding none none later :=
  ⟨fun _ _ => rfl, by simp⟩

theorem Agrees.of_cons {held : Option Window} {counter : Option Counter} {a : Attempt}
    {later : List Attempt} (h : Agrees rounding held counter (a :: later)) :
    Agrees rounding held counter later :=
  ⟨fun b hb => h.same b (List.mem_cons_of_mem a hb),
    fun w hw b hb => h.noLonger w hw b (List.mem_cons_of_mem a hb)⟩

/-- What removal leaves of the window of a key. -/
theorem windows_prune (rounding : Rat → Rat) (c : Controller) (now : Rat) (k : String) :
    (c.prune rounding now).windows[k]? = c.windows[k]? ∨
      ∃ w, c.windows[k]? = some w ∧ w.isOver rounding now = true ∧
        (c.prune rounding now).windows[k]? = none := by
  unfold Controller.prune
  split
  · exact Or.inl rfl
  · rw [Std.HashMap.getElem?_filter']
    cases hw : c.windows[k]? with
    | none => exact Or.inl rfl
    | some w =>
        by_cases hover : w.isOver rounding now = true
        · exact Or.inr ⟨w, rfl, hover, by simp [Option.filter, hover]⟩
        · exact Or.inl (by simp [Option.filter, hover])

/-- **Removal is not noticed**: a window that is over would have started anew at every later
attempt. -/
theorem agrees_prune (hr : Monotone rounding) {c : Controller} {now : Rat} {k : String}
    {counter : Option Counter} {later : List Attempt}
    (h : Agrees rounding c.windows[k]? counter later) (hlater : ∀ a ∈ later, now ≤ a.now) :
    Agrees rounding (c.prune rounding now).windows[k]? counter later := by
  rcases windows_prune rounding c now k with hsame | ⟨w, hw, hover, hnone⟩
  · rwa [hsame]
  rw [hw] at h
  rw [hnone]
  refine ⟨fun a ha => ?_, by simp⟩
  have hlong : rounding (now - w.start) ≤ rounding (a.now - w.start) :=
    hr (sub_le_sub_right (hlater a ha) _)
  have hend : a.profile.duration.atMost (rounding (a.now - w.start)) = true :=
    h.noLonger w rfl a ha _ (atMost_mono hlong hover)
  rw [← h.same a ha]
  simp [Counter.current, Window.counter, hend]

/-! ## Runs of attempts -/

/-- **The visits of a key** are those of its counter. -/
theorem visits_eq (hr : Monotone rounding) (k : String) (as : List Attempt)
    (hclock : as.Pairwise (·.now ≤ ·.now))
    (hduration : (as.filter (·.key = k)).Pairwise fun a b =>
      NoLonger b.profile.duration a.profile.duration)
    {c : Controller} {counter : Option Counter}
    (h : Agrees rounding c.windows[k]? counter (as.filter (·.key = k))) :
    visitsOf k (c.visits rounding as) =
      Counter.visits rounding counter (as.filter (·.key = k)) := by
  induction as generalizing c counter with
  | nil => rfl
  | cons a as ih =>
      obtain ⟨hnow, hclock⟩ := List.pairwise_cons.mp hclock
      have hafter : ∀ b ∈ (a :: as).filter (·.key = k), a.now ≤ b.now := by
        intro b hb
        rcases List.mem_cons.mp (List.mem_filter.mp hb).1 with rfl | hb
        · exact le_rfl
        · exact hnow b hb
      have hpruned := agrees_prune hr h hafter
      by_cases hkey : a.key = k
      · subst hkey
        have hfilter : (a :: as).filter (·.key = a.key) = a :: as.filter (·.key = a.key) := by
          simp
        rw [hfilter] at hpruned hduration ⊢
        obtain ⟨hshorter, hduration⟩ := List.pairwise_cons.mp hduration
        have hanswer : (c.check rounding a.now a.key a.profile).1 =
            ((Counter.current rounding counter a.now a.profile.duration).attempt rounding
              a.profile).1 := by
          rw [check_eq]
          simp only
          rw [hpruned.same a List.mem_cons_self]
        have hwindow := windows_check_self rounding c a.now a.key a.profile
        simp only [hpruned.same a List.mem_cons_self] at hwindow
        have hagrees : Agrees rounding
            (c.check rounding a.now a.key a.profile).2.windows[a.key]?
            (some ((Counter.current rounding counter a.now a.profile.duration).attempt rounding
              a.profile).2) (as.filter (·.key = a.key)) := by
          rw [hwindow]
          exact ⟨fun _ _ => rfl, fun w hw b hb => by cases hw; exact hshorter b hb⟩
        have hrest := ih hclock hduration hagrees
        simp only [Controller.visits, Counter.visits, visitsOf, List.filter_cons, decide_true,
          if_true]
        rw [hanswer, hwindow]
        exact congrArg _ hrest
      · have hfilter : (a :: as).filter (·.key = k) = as.filter (·.key = k) := by
          simp [hkey]
        rw [hfilter] at hpruned hduration ⊢
        have hagrees : Agrees rounding (c.check rounding a.now a.key a.profile).2.windows[k]?
            counter (as.filter (·.key = k)) := by
          rwa [windows_check_of_ne c a.now hkey]
        have hrest := ih hclock hduration hagrees
        simpa [Controller.visits, visitsOf, hkey] using hrest

/-- The visits of a key at a controller that starts without windows. -/
theorem visits_start (hr : Monotone rounding) (start : Rat) (as : List Attempt)
    (hclock : as.Pairwise (·.now ≤ ·.now)) (k : String)
    (hduration : (as.filter (·.key = k)).Pairwise fun a b =>
      NoLonger b.profile.duration a.profile.duration) :
    visitsOf k ((Controller.start start).visits rounding as) =
      Counter.visits rounding none (as.filter (·.key = k)) := by
  have hnone : (Controller.start start).windows[k]? = none := Std.HashMap.getElem?_empty
  refine visits_eq hr k as hclock hduration ?_
  rw [hnone]
  exact agrees_none _

end

/-- **Admission is a counter for each key.** As long as the windows of a key do not grow, its
answers are those of a counter that is never removed and meets the attempts at the key alone. -/
theorem answers_eq_counter (start : Rat) (as : List Attempt) (hclock : as.Pairwise (·.now ≤ ·.now))
    (k : String)
    (hduration : (as.filter (·.key = k)).Pairwise fun a b =>
      NoLonger b.profile.duration a.profile.duration) :
    (visitsOf k ((Controller.start start).visits Binary64.round as)).map Visit.answer =
      (Counter.visits Binary64.round none (as.filter (·.key = k))).map Visit.answer := by
  rw [visits_start Binary64.round_mono start as hclock k hduration]

namespace Sample

/-- An account that goes over to a larger plan with shorter windows, and another one beside it. -/
def upgrade : List Attempt := [
  ⟨"scan:a", 1700000000, ⟨"scan:free", 1, .finite 86400⟩⟩,
  ⟨"scan:b", 1700000001, ⟨"scan:free", 0, .finite 60⟩⟩,
  ⟨"scan:a", 1700000002, ⟨"scan:free", 1, .finite 86400⟩⟩,
  ⟨"scan:b", 1700000003, ⟨"scan:pro", 50, .infinity false⟩⟩,
  ⟨"scan:a", 1700000003, ⟨"scan:pro", 2, .finite 3600⟩⟩,
  ⟨"scan:a", 1700000004, ⟨"scan:pro", -1, .finite 3600⟩⟩,
  ⟨"scan:a", 1700003600, ⟨"scan:pro", 2, .finite 3600⟩⟩]

theorem answers_eq_counter_upgrade :
    (visitsOf "scan:a" ((Controller.start 1700000000).visits Binary64.round upgrade)).map
        Visit.answer =
      [.ok ⟨true, 0, ⟨1700086400000000⟩, 1⟩, .ok ⟨false, 0, ⟨1700086400000000⟩, 1⟩,
        .ok ⟨true, 0, ⟨1700003600000000⟩, 2⟩, .error .negativeLimit,
        .ok ⟨true, 1, ⟨1700007200000000⟩, 2⟩] := by
  have hclock : upgrade.Pairwise (·.now ≤ ·.now) := by decide +kernel
  have hduration : (upgrade.filter (·.key = "scan:a")).Pairwise fun a b =>
      NoLonger b.profile.duration a.profile.duration := by
    simp [upgrade, noLonger_finite]
    norm_num
  rw [answers_eq_counter 1700000000 upgrade hclock "scan:a" hduration]
  decide +kernel

end Sample

end SourceAudit.Admission

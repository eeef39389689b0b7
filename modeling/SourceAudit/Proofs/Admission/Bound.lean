import SourceAudit.Proofs.Admission.Counter

/-!
# SourceAudit.Proofs.Admission.Bound

How many attempts a key is admitted, when all of them have one profile. A window admits no more than
its limit, and the next window of the key does not start before it is over.

* `countP_since_le` — what a window admits;
* `pairwise_visits` — what lies between two windows of a key;
* `countP_within_le` — what any time of the length of a window admits, if windows lie far enough
  apart;
* `admitted_le` — they do, if the clock shows the doubles from zero on;
* `admitted_too_many` — and they do not, where the clock passes through zero.
-/

namespace SourceAudit.Admission

open Number

namespace Visit

/-- The attempt is admitted. -/
def admitted (v : Visit) : Bool :=
  match v.answer with
  | .ok d => d.allowed
  | .error _ => false

/-- When the window of the attempt started. -/
def since (v : Visit) : Option Rat := v.counter.map Counter.since

/-- The attempt is made in the time of the given length from a moment on, its end left out. -/
def within (start : Rat) (d : Double) (v : Visit) : Bool :=
  decide (start ≤ v.attempt.now) && !d.atMost (v.attempt.now - start)

end Visit

section

variable {rounding : Rat → Rat} {p : Profile}

/-! ## One window -/

/-- How many more attempts are admitted in the window that starts at a moment. -/
def Counter.room (limit : Nat) (held : Option Counter) (start : Rat) : Nat :=
  match held with
  | none => limit
  | some c => if start = c.since then limit - c.used else if start < c.since then 0 else limit

/-- A window of some length is over only later. -/
theorem lt_of_atMost (hr : Monotone rounding) (hzero : rounding 0 = 0) {d : Double}
    (hd : d.atMost 0 = false) {start now : Rat} (h : d.atMost (rounding (now - start)) = true) :
    start < now := by
  by_contra hle
  have hround : rounding (now - start) ≤ 0 := by
    rw [← hzero]
    exact hr (by linarith)
  rw [atMost_mono hround h] at hd
  exact absurd hd (by decide)

/-- A window that starts anew has room only where the one before it had room. -/
theorem room_current_le (hr : Monotone rounding) (hzero : rounding 0 = 0)
    (hd : p.duration.atMost 0 = false) (limit : Nat) (held : Option Counter) (now start : Rat) :
    Counter.room limit (some (Counter.current rounding held now p.duration)) start ≤
      Counter.room limit held start := by
  cases held with
  | none =>
      simp only [Counter.current, Counter.room]
      grind
  | some c =>
      simp only [Counter.current]
      split
      · next hover =>
        have hlt := lt_of_atMost hr hzero hd hover
        simp only [Counter.room]
        rcases lt_trichotomy start now with hs | rfl | hs
        · simp [hs.ne, hs]
        · simp [hlt.ne', hlt.not_gt]
        · simp [hs.ne', hs.not_gt, (hlt.trans hs).ne', (hlt.trans hs).not_gt]
      · exact le_rfl

/-- An attempt takes the room that it is admitted into. -/
theorem room_attempt_le (rounding : Rat → Rat) (c : Counter) (start : Rat) (a : Attempt)
    (h : a.profile = p) :
    let after := c.attempt rounding a.profile
    let v : Visit := ⟨a, after.1, some after.2⟩
    (if v.admitted && v.since = some start then 1 else 0) +
        Counter.room p.limit.toNat (some after.2) start ≤
      Counter.room p.limit.toNat (some c) start := by
  subst h
  simp only [Counter.attempt]
  split
  · simp [Visit.admitted]
  · split
    · next hroom =>
      simp only [Visit.admitted, Visit.since, Option.map_some, Counter.room]
      grind
    · split <;> simp [Visit.admitted]

/-- **A window admits no more than its limit.** -/
theorem countP_since_le (hr : Monotone rounding) (hzero : rounding 0 = 0)
    (hd : p.duration.atMost 0 = false) (as : List Attempt) (hp : ∀ a ∈ as, a.profile = p)
    (held : Option Counter) (start : Rat) :
    (Counter.visits rounding held as).countP (fun v => v.admitted && v.since = some start) ≤
      Counter.room p.limit.toNat held start := by
  induction as generalizing held with
  | nil => simp [Counter.visits]
  | cons a as ih =>
      obtain ⟨rfl, hrest⟩ := List.forall_mem_cons.mp hp
      have hmet := room_current_le hr hzero hd a.profile.limit.toNat held a.now start
      have hnext := room_attempt_le rounding
        (Counter.current rounding held a.now a.profile.duration) start a rfl
      simp only at hnext
      simp only [Counter.visits, List.countP_cons]
      have hlater := ih hrest (some ((Counter.current rounding held a.now
        a.profile.duration).attempt rounding a.profile).2)
      omega

/-! ## Two windows -/

/-- The window of one attempt is that of a later one, or else it is over when that one starts, which
is after the attempt. -/
def Visit.Before (rounding : Rat → Rat) (d : Double) (v w : Visit) : Prop :=
  ∀ s ∈ v.since, ∀ s' ∈ w.since,
    s' = s ∨ (v.attempt.now ≤ s' ∧ d.atMost (rounding (s' - s)) = true)

/-- The windows of the attempts after a moment. -/
theorem since_of_mem_visits (hr : Monotone rounding) (as : List Attempt)
    (hp : ∀ a ∈ as, a.profile = p) (hclock : as.Pairwise (·.now ≤ ·.now)) (c : Counter)
    (now : Rat) (hnow : ∀ a ∈ as, now ≤ a.now) :
    ∀ v ∈ Counter.visits rounding (some c) as, ∀ s ∈ v.since,
      s = c.since ∨ (now ≤ s ∧ p.duration.atMost (rounding (s - c.since)) = true) := by
  induction as generalizing c now with
  | nil => simp [Counter.visits]
  | cons a as ih =>
      obtain ⟨rfl, hrest⟩ := List.forall_mem_cons.mp hp
      obtain ⟨ha, hclock⟩ := List.pairwise_cons.mp hclock
      have hlater := ih hrest hclock
        ((Counter.current rounding (some c) a.now a.profile.duration).attempt rounding
          a.profile).2 a.now ha
      rw [since_attempt] at hlater
      simp only [Counter.visits, List.forall_mem_cons]
      by_cases hover : a.profile.duration.atMost (rounding (a.now - c.since)) = true
      · -- The window starts anew with this attempt, and the later ones do not start before.
        have hfresh :
            (Counter.current rounding (some c) a.now a.profile.duration).since = a.now := by
          simp [Counter.current, hover]
        rw [hfresh] at hlater
        have hstart := hnow a List.mem_cons_self
        refine ⟨?_, fun v hv s hs => Or.inr ?_⟩
        · simp only [Visit.since, Option.map_some, since_attempt, hfresh, Option.mem_def,
            Option.some.injEq]
          rintro s rfl
          exact Or.inr ⟨hstart, hover⟩
        · have hle : a.now ≤ s := by
            rcases hlater v hv s hs with rfl | ⟨hle, _⟩
            · exact le_rfl
            · exact hle
          exact ⟨hstart.trans hle, atMost_mono (hr (sub_le_sub_right hle _)) hover⟩
      · have hsame : Counter.current rounding (some c) a.now a.profile.duration = c := by
          simp [Counter.current, hover]
        rw [hsame] at hlater ⊢
        refine ⟨?_, fun v hv s hs => ?_⟩
        · simp only [Visit.since, Option.map_some, since_attempt, Option.mem_def,
            Option.some.injEq]
          rintro s rfl
          exact Or.inl rfl
        · rcases hlater v hv s hs with rfl | ⟨hle, hover⟩
          · exact Or.inl rfl
          · exact Or.inr ⟨(hnow a List.mem_cons_self).trans hle, hover⟩

/-- **Between two windows** of a key lies the length of one, as it is rounded. -/
theorem pairwise_visits (hr : Monotone rounding) (as : List Attempt)
    (hp : ∀ a ∈ as, a.profile = p) (hclock : as.Pairwise (·.now ≤ ·.now))
    (held : Option Counter) :
    (Counter.visits rounding held as).Pairwise (Visit.Before rounding p.duration) := by
  induction as generalizing held with
  | nil => exact .nil
  | cons a as ih =>
      obtain ⟨rfl, hrest⟩ := List.forall_mem_cons.mp hp
      obtain ⟨ha, hclock⟩ := List.pairwise_cons.mp hclock
      refine List.pairwise_cons.mpr ⟨fun v hv s hs s' hs' => ?_, ih hrest hclock _⟩
      have hlater := since_of_mem_visits hr as hrest hclock _ a.now ha v hv s' hs'
      simp only [Visit.since, Option.map_some, Option.mem_def, Option.some.injEq] at hs
      subst hs
      exact hlater

/-- A window starts at a reading of the clock, and not after an attempt that belongs to it. -/
theorem since_of_visit (rounding : Rat → Rat) (as : List Attempt) (held : Option Counter)
    (hclock : as.Pairwise (·.now ≤ ·.now)) (hheld : ∀ c ∈ held, ∀ a ∈ as, c.since ≤ a.now)
    (reading : Rat → Prop) (has : ∀ a ∈ as, reading a.now) (hc : ∀ c ∈ held, reading c.since) :
    ∀ v ∈ Counter.visits rounding held as,
      ∃ s, v.since = some s ∧ s ≤ v.attempt.now ∧ reading s := by
  induction as generalizing held with
  | nil => simp [Counter.visits]
  | cons a as ih =>
      obtain ⟨ha, hclock⟩ := List.pairwise_cons.mp hclock
      obtain ⟨hread, has⟩ := List.forall_mem_cons.mp has
      have hmet : (Counter.current rounding held a.now a.profile.duration).since ≤ a.now ∧
          reading (Counter.current rounding held a.now a.profile.duration).since := by
        cases held with
        | none => exact ⟨le_rfl, hread⟩
        | some c =>
            simp only [Counter.current]
            split
            · exact ⟨le_rfl, hread⟩
            · exact ⟨hheld c rfl a List.mem_cons_self, hc c rfl⟩
      simp only [Counter.visits, List.forall_mem_cons]
      refine ⟨⟨_, rfl, ?_⟩, ih _ hclock ?_ has ?_⟩
      · rw [since_attempt]
        exact hmet
      · rintro c ⟨⟩ b hb
        rw [since_attempt]
        exact hmet.1.trans (ha b hb)
      · rintro c ⟨⟩
        rw [since_attempt]
        exact hmet.2

/-! ## Any time of the length of a window -/

/-- Of three windows that start one after the other at some readings of the clock, the last one
starts when the second one is over in exact time. -/
def Apart (rounding : Rat → Rat) (d : Double) (reading : Rat → Prop) : Prop :=
  ∀ s s' s'', reading s → reading s' → reading s'' → s ≤ s' → s' ≤ s'' →
    d.atMost (rounding (s' - s)) = true → d.atMost (rounding (s'' - s')) = true →
    d.atMost (s'' - s') = true

/-- A difference of doubles from zero on is exact, unless it is larger than the smaller one. -/
theorem apart_round (d : Double) :
    Apart Binary64.round d fun q => 0 ≤ q ∧ Binary64.round q = q := by
  intro s s' s'' hs hs' hs'' hle hle' hover hover'
  by_cases hdouble : s'' ≤ 2 * s'
  · rwa [Binary64.round_sub_of_le_double hs'.2 hs''.2 hle' hdouble] at hover'
  · have hlong : d.atMost s' = true := by
      refine atMost_mono ?_ hover
      rw [← hs'.2]
      exact Binary64.round_mono (by linarith [hs.1, hs'.2])
    exact atMost_mono (by linarith) hlong

/-- The attempts in a time of the length of a window belong to two windows. -/
theorem exists_two_windows {d : Double} {reading : Rat → Prop} (hapart : Apart rounding d reading)
    (start : Rat) (vs : List Visit) (hbefore : vs.Pairwise (Visit.Before rounding d))
    (hsince : ∀ v ∈ vs, ∃ s, v.since = some s ∧ s ≤ v.attempt.now ∧ reading s)
    (hwithin : ∀ v ∈ vs, v.within start d = true) :
    ∃ s s', ∀ v ∈ vs, v.since = some s ∨ v.since = some s' := by
  cases vs with
  | nil => exact ⟨0, 0, by simp⟩
  | cons v₀ vs =>
      obtain ⟨hbefore₀, hbefore⟩ := List.pairwise_cons.mp hbefore
      obtain ⟨s₀, hs₀, hle₀, hread₀⟩ := hsince v₀ List.mem_cons_self
      cases hothers : vs.filter (·.since ≠ some s₀) with
      | nil =>
          refine ⟨s₀, s₀, fun v hv => Or.inl ?_⟩
          rcases List.mem_cons.mp hv with rfl | hv
          · exact hs₀
          · simpa using List.filter_eq_nil_iff.mp hothers v hv
      | cons v₁ others =>
          have hmem : ∀ v ∈ v₁ :: others, v ∈ vs ∧ v.since ≠ some s₀ := by
            intro v hv
            rw [← hothers] at hv
            simpa using List.mem_filter.mp hv
          obtain ⟨hv₁, hne₁⟩ := hmem v₁ List.mem_cons_self
          obtain ⟨s₁, hs₁, hle₁, hread₁⟩ := hsince v₁ (List.mem_cons_of_mem _ hv₁)
          have hfirst : v₀.attempt.now ≤ s₁ ∧ d.atMost (rounding (s₁ - s₀)) = true := by
            refine (hbefore₀ v₁ hv₁ s₀ hs₀ s₁ hs₁).resolve_left fun heq => ?_
            exact hne₁ (heq ▸ hs₁)
          refine ⟨s₀, s₁, fun v hv => ?_⟩
          rcases List.mem_cons.mp hv with rfl | hv'
          · exact Or.inl hs₀
          by_cases heq : v.since = some s₀
          · exact Or.inl heq
          right
          have hother : v ∈ v₁ :: others := by
            rw [← hothers]
            exact List.mem_filter.mpr ⟨hv', by simpa using heq⟩
          rcases List.mem_cons.mp hother with rfl | hlater
          · exact hs₁
          obtain ⟨s, hs, hle, hread⟩ := hsince v hv
          have hpair := hothers ▸ hbefore.filter (fun v : Visit => decide (v.since ≠ some s₀))
          rcases (List.pairwise_cons.mp hpair).1 v hlater s₁ hs₁ s hs with rfl | ⟨hstart, hover⟩
          · exact hs
          -- A third window starts too late to be reached.
          have hlong := hapart s₀ s₁ s hread₀ hread₁ hread (hle₀.trans hfirst.1)
            (hle₁.trans hstart) hfirst.2 hover
          have hin₀ := hwithin v₀ List.mem_cons_self
          have hin := hwithin v hv
          simp only [Visit.within, Bool.and_eq_true, decide_eq_true_eq,
            Bool.not_eq_true'] at hin₀ hin
          rw [atMost_mono (by linarith [hfirst.1]) hlong] at hin
          exact absurd hin.2 (by decide)

theorem countP_le_add {α : Type} {f g h : α → Bool} (as : List α)
    (hor : ∀ a ∈ as, f a = true → g a = true ∨ h a = true) :
    as.countP f ≤ as.countP g + as.countP h := by
  induction as with
  | nil => simp
  | cons a as ih =>
      obtain ⟨ha, hrest⟩ := List.forall_mem_cons.mp hor
      have hlater := ih hrest
      simp only [List.countP_cons]
      grind

/-- **Any time of the length of a window** admits no more than two windows. -/
theorem countP_within_le (hr : Monotone rounding) (hzero : rounding 0 = 0)
    {reading : Rat → Prop} (hapart : Apart rounding p.duration reading)
    (hd : p.duration.atMost 0 = false) (as : List Attempt) (hp : ∀ a ∈ as, a.profile = p)
    (hclock : as.Pairwise (·.now ≤ ·.now)) (has : ∀ a ∈ as, reading a.now) (start : Rat) :
    (Counter.visits rounding none as).countP (fun v => v.admitted && v.within start p.duration) ≤
      2 * p.limit.toNat := by
  have hsince := since_of_visit rounding as none hclock (by simp) reading has (by simp)
  have hbefore := pairwise_visits hr as hp hclock none
  obtain ⟨s, s', htwo⟩ := exists_two_windows hapart start
    ((Counter.visits rounding none as).filter fun v => v.within start p.duration)
    (hbefore.filter _) (fun v hv => hsince v (List.mem_filter.mp hv).1)
    (fun v hv => (List.mem_filter.mp hv).2)
  have hs := countP_since_le hr hzero hd as hp none s
  have hs' := countP_since_le hr hzero hd as hp none s'
  refine le_trans (countP_le_add (g := fun v => v.admitted && v.since = some s)
    (h := fun v => v.admitted && v.since = some s') _ ?_) (by simp only [Counter.room] at *; omega)
  intro v hv hin
  rw [Bool.and_eq_true] at hin
  have hv' := htwo v (List.mem_filter.mpr ⟨hv, hin.2⟩)
  simpa [hin.1] using hv'

end

/-! ## Runs of the controller -/

/-- Attempts at a key with one profile are attempts at one counter. -/
theorem visits_of_profile (start : Rat) (as : List Attempt) (hclock : as.Pairwise (·.now ≤ ·.now))
    (k : String) (p : Profile) (hp : ∀ a ∈ as.filter (·.key = k), a.profile = p) :
    visitsOf k ((Controller.start start).visits Binary64.round as) =
      Counter.visits Binary64.round none (as.filter (·.key = k)) := by
  refine visits_start Binary64.round_mono start as hclock k ?_
  refine List.pairwise_of_forall_mem_list fun a ha b hb => ?_
  rw [hp a ha, hp b hb]
  exact .refl _

/-- **The rate of admission is bounded.** If every attempt at a key has one profile, each of its
windows admits no more than the limit and, if the clock shows doubles from zero on, any time of the
length of a window no more than twice as many. -/
theorem admitted_le (start : Rat) (as : List Attempt) (hclock : as.Pairwise (·.now ≤ ·.now))
    (k : String) (p : Profile) (hp : ∀ a ∈ as, a.key = k → a.profile = p)
    (hd : p.duration.atMost 0 = false) :
    let visits := visitsOf k ((Controller.start start).visits Binary64.round as)
    (∀ s, visits.countP (fun v => v.admitted && v.since = some s) ≤ p.limit.toNat) ∧
      ((∀ a ∈ as, a.key = k → 0 ≤ a.now ∧ Binary64.round a.now = a.now) →
        ∀ t, visits.countP (fun v => v.admitted && v.within t p.duration) ≤
          2 * p.limit.toNat) := by
  have hof : ∀ a ∈ as.filter (·.key = k), a ∈ as ∧ a.key = k := by
    intro a ha
    simpa using List.mem_filter.mp ha
  have hp' : ∀ a ∈ as.filter (·.key = k), a.profile = p :=
    fun a ha => hp a (hof a ha).1 (hof a ha).2
  have hclock' := hclock.filter (fun a => decide (a.key = k))
  rw [visits_of_profile start as hclock k p hp']
  refine ⟨fun s => countP_since_le Binary64.round_mono Binary64.round_zero hd _ hp' none s,
    fun hreading t => ?_⟩
  exact countP_within_le Binary64.round_mono Binary64.round_zero (apart_round _) hd _ hp' hclock'
    (fun a ha => hreading a (hof a ha).1 (hof a ha).2) t

namespace Sample

/-- Two attempts a second. -/
def twice : Profile := ⟨"twice", 2, .finite 1⟩

/-- Attempts at one key around the end of its first window, and one at another key. -/
def aroundEnd : List Attempt := [
  ⟨"k", 1 / 2, twice⟩, ⟨"other", 1, .scanBurst 0 .nan⟩, ⟨"k", 5 / 4, twice⟩, ⟨"k", 3 / 2, twice⟩,
  ⟨"k", 2, twice⟩, ⟨"k", 9 / 4, twice⟩]

theorem admitted_le_aroundEnd :
    let visits := visitsOf "k" ((Controller.start 0).visits Binary64.round aroundEnd)
    (∀ s, visits.countP (fun v => v.admitted && v.since = some s) ≤ 2) ∧
      ∀ t, visits.countP (fun v => v.admitted && v.within t (.finite 1)) ≤ 4 := by
  obtain ⟨hwindow, htime⟩ := admitted_le 0 aroundEnd (by decide +kernel) "k" twice
    (by decide +kernel) (by decide +kernel)
  exact ⟨hwindow, htime (by decide +kernel)⟩

/-- Attempts by a clock that passes through zero. The doubles around zero lie so close to each other
that two moments after it the age of the first window is rounded up to a second, and so is that of
the next window at 1. -/
def throughZero : List Attempt := [
  ⟨"k", -(9007199254740991 / 9007199254740992), twice⟩,
  ⟨"k", 9007199254740991 / 162259276829213363391578010288128, twice⟩,
  ⟨"k", 1 / 18014398509481984, twice⟩, ⟨"k", 1 / 18014398509481984, twice⟩,
  ⟨"k", 1, twice⟩, ⟨"k", 1, twice⟩]

/-- **More attempts may be admitted by a clock that passes through zero**: five in less than a
second, with a limit of two a second. -/
theorem admitted_too_many :
    throughZero.Pairwise (·.now ≤ ·.now) ∧
      (∀ a ∈ throughZero, a.profile = twice ∧ Binary64.round a.now = a.now) ∧
      twice.limit = 2 ∧ twice.duration.atMost 0 = false ∧
      (visitsOf "k" ((Controller.start (-1)).visits Binary64.round throughZero)).countP
        (fun v => v.admitted &&
          v.within (9007199254740991 / 162259276829213363391578010288128) twice.duration) = 5 := by
  have hclock : throughZero.Pairwise (·.now ≤ ·.now) := by decide +kernel
  have hprofile : ∀ a ∈ throughZero, a.profile = twice ∧ Binary64.round a.now = a.now := by
    decide +kernel
  refine ⟨hclock, hprofile, rfl, by decide +kernel, ?_⟩
  rw [visits_of_profile (-1) throughZero hclock "k" twice
    fun a ha => (hprofile a (List.mem_of_mem_filter ha)).1]
  decide +kernel

end Sample

end SourceAudit.Admission

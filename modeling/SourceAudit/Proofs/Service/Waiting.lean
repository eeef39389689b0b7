import SourceAudit.Proofs.Admission.Reset
import SourceAudit.Proofs.Number.Moments
import SourceAudit.Proofs.Service.Gates

/-!
# SourceAudit.Proofs.Service.Waiting

How long a refused caller is told to wait. The header of the refusal holds the whole seconds until
the end of the window, without their fraction; so a caller who comes back after that may be refused
once more, within the last second of the same window.

* `check_of_refused` — the attempt behind a refusal;
* `admitsNext_iff` — when the next attempt is admitted;
* `retryAfter_waits` — one second more than the header says is always enough, and what it says is if
  whole seconds are left of the window.
-/

namespace SourceAudit.Admission

open Number

/-- The next attempt at a key is admitted at a moment, whatever attempts at other keys come before
it. -/
def AdmitsNext (c : Controller) (key : String) (p : Profile) (now : Rat) : Prop :=
  ∀ others : List Attempt, (∀ a ∈ others, a.key ≠ key ∧ a.now ≤ now) →
    ∃ d, ((c.after Binary64.round others).check Binary64.round now key p).1 = .ok d ∧
      d.allowed = true

section

variable {c : Controller} {key : String} {p : Profile} {now length : Rat} {w : Window}
  {resetAt : Instant}

/-- **The next attempt at a full window** is admitted exactly if the window is over. -/
theorem admitsNext_iff (hlimit : 0 < p.limit) (hw : c.windows[key]? = some w)
    (hduration : w.duration = p.duration) (h : w.counter.Full Binary64.round p resetAt)
    (hend : ∃ t, Controller.endOf Binary64.round now p.duration = .ok t) :
    AdmitsNext c key p now ↔ w.counter.isOver Binary64.round p now = true := by
  obtain ⟨t, hend⟩ := hend
  constructor
  · intro hnext
    obtain ⟨d, hd, hallowed⟩ := hnext [] (by simp)
    rw [check_after Binary64.round_mono hlimit hw hduration h (by simp) hend] at hd
    by_contra hlasts
    rw [if_neg hlasts] at hd
    obtain rfl := Except.ok.inj hd
    simp [Profile.denial] at hallowed
  · intro hover others hothers
    rw [check_after Binary64.round_mono hlimit hw hduration h hothers hend, if_pos hover]
    exact ⟨_, rfl, rfl⟩

/-- A window is over at its end. -/
theorem isOver_of_le (hlength : p.duration = .finite length)
    (hdouble : Binary64.round length = length) (h : w.start + length ≤ now) :
    w.counter.isOver Binary64.round p now = true := by
  rw [Counter.isOver, hlength, Double.atMost, decide_eq_true_eq]
  calc length = Binary64.round length := hdouble.symm
    _ ≤ Binary64.round (now - w.start) := Binary64.round_mono (by linarith)

/-- A reading of the clock that is later than the end of a window as it is rounded is no earlier
than the end itself. -/
theorem le_of_round_lt {a : Rat} (hnow : Binary64.round now = now) (h : Binary64.round a < now) :
    a ≤ now := by
  by_contra hlt
  have := Binary64.round_mono (not_le.mp hlt).le
  linarith

end

end SourceAudit.Admission

namespace SourceAudit.Service

open Number Admission

namespace Response

/-- The answer holds as many seconds as are left, as far as they are whole. -/
theorem le_secondsToWait {now later : Rat} {t t' : Instant} (hpast : 0 ≤ now)
    (ht : Instant.ofEpoch now = .ok t) (ht' : Instant.ofEpoch later = .ok t') {m : Nat}
    (h : now + m ≤ later) : (m : ℤ) ≤ secondsToWait t t' :=
  (Instant.le_truncate_secondsUntil hpast ht ht' h).trans (le_max_right _ _)

/-- With one second more the end is passed. -/
theorem lt_secondsToWait {now later : Rat} {t t' : Instant} (hpast : 0 ≤ now)
    (ht : Instant.ofEpoch now = .ok t) (ht' : Instant.ofEpoch later = .ok t') :
    later < now + secondsToWait t t' + 1 := by
  have hone : (1 : ℚ) ≤ secondsToWait t t' := by
    exact_mod_cast (le_max_left 1 (truncate (t.secondsUntil t')))
  rcases lt_or_ge later now with hlt | hle
  · linarith
  · have hfloor : (⌊later - now⌋₊ : ℚ) ≤ later - now := Nat.floor_le (by linarith)
    have hwhole : ((⌊later - now⌋₊ : ℤ) : ℚ) ≤ secondsToWait t t' := by
      exact_mod_cast le_secondsToWait hpast ht ht' (by linarith : now + (⌊later - now⌋₊ : ℚ) ≤ later)
    have hlast := Nat.lt_floor_add_one (later - now)
    push_cast at hwhole
    linarith

end Response

namespace Application

/-- The key and the profile of a gate for the caller of a request. -/
def gate (app : Application) (r : Request) : Quota → String × Profile
  | .burst => (app.burstKey (Caller.ofRequest r).address, app.settings.burstProfile)
  | .plan => (planKey (Caller.ofRequest r).account,
      app.settings.plans.profile (Caller.ofRequest r).tier)

section

variable {app : Application} {r : Request} {st : State} {which : Quota}
  {c c' : Admission.Controller} {now : Rat} {key : String} {p : Profile} {resetAt : Instant}
  {limit : Nat}

/-! ## Refusals -/

/-- What a gate stops for a limit is denied. -/
theorem check_of_stopped {quota : Quota}
    (h : attempt c now quota key p = (.error (.quota which resetAt limit), c')) :
    which = quota ∧ ∃ d, c.check Binary64.round now key p = (.ok d, c') ∧ d.allowed = false ∧
      d.resetAt = resetAt ∧ d.limit = limit := by
  unfold attempt at h
  split at h
  · simp at h
  · next d c₁ hcheck =>
    split at h
    · simp at h
    · next hdenied =>
      simp only [Prod.mk.injEq, Except.error.injEq, Failure.quota.injEq] at h
      obtain ⟨⟨rfl, rfl, rfl⟩, rfl⟩ := h
      exact ⟨rfl, d, hcheck, by simpa using hdenied, rfl, rfl⟩

theorem response_refuse {st : State} {f : Failure} (h : (refuse st f).1.RefusedFor which) :
    ∃ resetAt limit, f = .quota which resetAt limit := by
  obtain ⟨now, resetAt, limit, hresponse⟩ := h
  exact eq_quota_of_ofFailure hresponse

/-- A request that is refused for a limit is one for a scan that comes to the gates. -/
theorem serve_of_refused (h : (app.handle r st).1.RefusedFor which) :
    ∃ g order, app.handle r st = app.serve g (.ofRequest r) order st := by
  have hplain : ∀ status body, ¬ (Answer.RefusedFor ⟨.plain status body, []⟩ which) := by
    rintro status body ⟨now, resetAt, limit, hresponse⟩
    have hfields := congrArg (fun x => x.headers.fields.length) hresponse
    simp [Response.plain, Response.ofFailure, Response.limits, Headers.empty] at hfields
  unfold handle at h ⊢
  split at h
  · unfold scan at h ⊢
    split at h
    · obtain ⟨_, _, hf⟩ := response_refuse h
      simp at hf
    · exact absurd h (hplain _ _)
    · obtain ⟨_, _, hf⟩ := response_refuse h
      simp at hf
    · split at h
      · obtain ⟨_, _, hf⟩ := response_refuse h
        simp at hf
      · next order _ => exact ⟨_, order, rfl⟩
  all_goals exact absurd h (hplain _ _)

/-- **The attempt behind a refusal** is one at the gate that the refusal names, and it is denied. -/
theorem check_of_refused (h : (app.handle r st).1.RefusedFor which) :
    ∃ (c : Admission.Controller) (d : Decision),
      c.check Binary64.round st.world.now (app.gate r which).1 (app.gate r which).2 =
        (.ok d, (app.handle r st).2.controller) ∧ d.allowed = false ∧
      (app.handle r st).1.response = .ofFailure st.world.now (.quota which d.resetAt d.limit) := by
  obtain ⟨g, order, hserve⟩ := serve_of_refused h
  rw [hserve] at h ⊢
  unfold serve admission at h ⊢
  rcases hburst : attempt st.controller st.world.now .burst
    (app.burstKey (Caller.ofRequest r).address) app.settings.burstProfile with ⟨f | d, c⟩
  · simp only [hburst] at h ⊢
    obtain ⟨resetAt, limit, rfl⟩ := response_refuse h
    obtain ⟨rfl, d, hcheck, hdenied, rfl, rfl⟩ := check_of_stopped hburst
    exact ⟨_, d, hcheck, hdenied, rfl⟩
  · rcases hplan : attempt c st.world.now .plan (planKey (Caller.ofRequest r).account)
      (app.settings.plans.profile (Caller.ofRequest r).tier) with ⟨f | d', c'⟩
    · simp only [hburst, hplan] at h ⊢
      obtain ⟨resetAt, limit, rfl⟩ := response_refuse h
      obtain ⟨rfl, d', hcheck, hdenied, rfl, rfl⟩ := check_of_stopped hplan
      exact ⟨_, d', hcheck, hdenied, rfl⟩
    · simp only [hburst, hplan] at h
      exact absurd h ((response_carryOut app g order d' _).2 which)

/-- What a refusal says about the time to wait. -/
theorem retryHeader_of_quota {t : Instant} (hclock : Instant.ofEpoch now = .ok t) :
    (Response.ofFailure now (.quota which resetAt limit)).headers.get? Response.retryHeader =
      some (toString (Response.secondsToWait t resetAt)) := by
  have hlimit : Text.asciiLower Response.limitHeader ≠ Response.retryHeader := by decide +kernel
  have hremaining : Text.asciiLower Response.remainingHeader ≠ Response.retryHeader := by
    decide +kernel
  have hretry : Text.asciiLower Response.retryHeader = Response.retryHeader := by decide +kernel
  have hstatus : (Failure.quota which resetAt limit).kind.status = 429 := rfl
  simp [Response.ofFailure, Response.limits, Response.retryAfter, hstatus, hclock,
    Failure.resetAt, Headers.get?, Headers.values, hlimit, hremaining, hretry]

end

/-- **How long a refused caller has to wait.** Let a request be refused for a limit at a moment of
the calendar from 1970 on, and let the limit admit attempts and its windows have a length that is a
double. Then the answer holds the number of whole seconds until the end of the window, and at least
one. The next attempt with the same key and profile at a later reading of the clock, if its own
window has an end in the calendar, is admitted exactly if the window is over by then. It is admitted
if it comes at least one second later than the answer says; and it is admitted from the time on that
the answer says if whole seconds were left of the window, and its end is a double. -/
theorem retryAfter_waits {app : Application} {r : Request} {st : State} {which : Quota}
    {t : Instant} {length : Rat} (hrefused : (app.handle r st).1.RefusedFor which)
    (hclock : Instant.ofEpoch st.world.now = .ok t) (hpast : 0 ≤ st.world.now)
    (hlimit : 1 ≤ (app.gate r which).2.limit)
    (hlength : (app.gate r which).2.duration = .finite length)
    (hdouble : Binary64.round length = length) :
    ∃ (n : Int) (w : Window) (resetAt : Instant),
      (app.handle r st).1.response.headers.get? Response.retryHeader = some (toString n) ∧
      n = max 1 (truncate (t.secondsUntil resetAt)) ∧
      (app.handle r st).2.controller.windows[(app.gate r which).1]? = some w ∧
      Instant.ofEpoch (Binary64.round (w.start + length)) = .ok resetAt ∧
      ∀ now, (∃ t', Instant.ofEpoch (Binary64.round (now + length)) = .ok t') →
        let admitted := AdmitsNext (app.handle r st).2.controller (app.gate r which).1
          (app.gate r which).2 now
        (admitted ↔ length ≤ Binary64.round (now - w.start)) ∧
        (Binary64.round now = now → st.world.now + n + 1 ≤ now → admitted) ∧
        (Binary64.round (w.start + length) = w.start + length →
          (∃ m : Nat, w.start + length = st.world.now + m) → st.world.now + n ≤ now → admitted) := by
  obtain ⟨c, d, hcheck, hdenied, hresponse⟩ := check_of_refused hrefused
  obtain ⟨held, -, -, hfull, hwindow, -⟩ :=
    window_of_denied (by omega) (congrArg Prod.fst hcheck) hdenied
  rw [hcheck] at hwindow
  -- The denial keeps the counter of the window that it meets.
  obtain ⟨w, hw, hcounter, hduration⟩ : ∃ w : Window,
      (app.handle r st).2.controller.windows[(app.gate r which).1]? = some w ∧
        held.counter = w.counter ∧ w.duration = (app.gate r which).2.duration :=
    ⟨_, hwindow, rfl, rfl⟩
  rw [hcounter] at hfull
  have hend : Instant.ofEpoch (Binary64.round (w.start + length)) = .ok d.resetAt := by
    have hends := hfull.ends
    rwa [hlength] at hends
  refine ⟨Response.secondsToWait t d.resetAt, w, d.resetAt, ?_, rfl, hw, hend, ?_⟩
  · rw [hresponse]
    exact retryHeader_of_quota hclock
  intro now hnext admitted
  have hadmits : admitted ↔ w.counter.isOver Binary64.round (app.gate r which).2 now = true := by
    refine admitsNext_iff (by omega) hw hduration hfull ?_
    rw [hlength]
    exact hnext
  refine ⟨?_, fun hreading hlate => ?_, fun hexact ⟨m, hm⟩ hlate => ?_⟩
  · rw [hadmits, Counter.isOver, hlength, Double.atMost, decide_eq_true_eq]
    rfl
  · have hpassed := Response.lt_secondsToWait hpast hclock hend
    have hover := le_of_round_lt hreading (hpassed.trans_le hlate)
    exact hadmits.mpr (isOver_of_le hlength hdouble hover)
  · rw [hexact] at hend
    have hwhole : ((m : ℤ) : ℚ) ≤ Response.secondsToWait t d.resetAt := by
      exact_mod_cast Response.le_secondsToWait hpast hclock hend hm.ge
    push_cast at hwhole
    exact hadmits.mpr (isOver_of_le hlength hdouble (by linarith))

/-- What becomes of an order at the second gate and behind it leaves the windows of addresses. -/
theorem kept_serve {app : Application} {caller : Caller} {st : State} {d : Decision}
    {c : Admission.Controller}
    (h : app.atBurst caller st.world.now st.controller = (.ok d, c)) (g : Registry) (order : Order)
    (address : String) :
    Kept st.world.now (app.burstKey address) c (app.serve g caller order st).2.controller := by
  have hnext : app.admission caller st.world.now st.controller =
      app.atPlan caller st.world.now c := by
    rw [atBurst] at h
    rw [admission, h]
    rfl
  rw [serve, hnext]
  rcases hplan : app.atPlan caller st.world.now c with ⟨f | d', c'⟩ <;>
    exact (kept_atPlan hplan).1 address

/-- The second exchange of a run meets the windows that the first one leaves. -/
theorem mem_exchanges_second {app : Application} {r : Request} {st st' : State}
    (h : st'.controller = (app.handle r st).2.controller) (r' : Request) :
    ⟨st', r', (app.handle r' st').1, (app.handle r' st').2⟩ ∈
      app.exchanges st.controller [⟨st.world, r⟩, ⟨st'.world, r'⟩] := by
  obtain ⟨world, controller⟩ := st'
  obtain rfl := h
  exact List.mem_cons_of_mem _ List.mem_cons_self

end Application

end SourceAudit.Service

namespace SourceAudit.Sample

open Admission Service Service.Application

/-- A service that admits one scan in a minute from an address. -/
def narrow : Application := ⟨{ settings with scanBurstLimit := 1 }, some scanner.registry⟩

/-- The service after the first order of a scan, half a second later. -/
def halfSecondLater : State :=
  ⟨⟨1700000000 + 1 / 2, ⟨[]⟩⟩, (narrow.handle orderedScan started).2.controller⟩

/-- The window of an address that has ordered one scan. -/
def scanned : Window := ⟨1, 1700000000, .finite 60⟩

theorem serve_orderedScan (st : State) : narrow.handle orderedScan st =
    narrow.serve scanner.registry (.ofRequest orderedScan) ⟨⟨"o", "n", none⟩, none⟩ st :=
  handle_orderedScan rfl (by decide +kernel) st

/-- The gate for addresses in numbers: the first attempt is the only one in its window, which ends a
minute later; it is not over at its start, nor half a second or a minute less half a second after
that. -/
theorem narrow_moments :
    let p := (narrow.gate orderedScan .burst).2
    (Counter.current Number.Binary64.round none started.world.now p.duration).attempt
        Number.Binary64.round p = (.ok ⟨true, 0, ⟨1700000060000000⟩, 1⟩, ⟨1, 1700000000⟩) ∧
      Controller.endOf Number.Binary64.round scanned.start p.duration =
        .ok ⟨1700000060000000⟩ ∧
      (∀ now ∈ [started.world.now, halfSecondLater.world.now, halfSecondLater.world.now + 59],
        scanned.isOver Number.Binary64.round now = false ∧
          scanned.counter.isOver Number.Binary64.round p now = false) ∧
      Instant.ofEpoch halfSecondLater.world.now = .ok ⟨1700000000500000⟩ ∧
      Controller.endOf Number.Binary64.round (halfSecondLater.world.now + 59) p.duration =
        .ok ⟨1700000119500000⟩ ∧
      Instant.ofEpoch (Number.Binary64.round (halfSecondLater.world.now + 59 + 1 + 60)) =
        .ok ⟨1700000120500000⟩ ∧
      0 ≤ halfSecondLater.world.now ∧ Number.Binary64.round 60 = 60 ∧
      Number.Binary64.round (halfSecondLater.world.now + 59 + 1) =
        halfSecondLater.world.now + 59 + 1 ∧
      max 1 (Number.truncate (Instant.secondsUntil ⟨1700000000500000⟩ ⟨1700000060000000⟩)) =
        59 := by
  decide +kernel

theorem not_isOver_halfSecondLater :
    scanned.isOver Number.Binary64.round halfSecondLater.world.now = false ∧
      scanned.counter.isOver Number.Binary64.round (narrow.gate orderedScan .burst).2
        halfSecondLater.world.now = false :=
  narrow_moments.2.2.1 _ (List.mem_cons_of_mem _ List.mem_cons_self)

theorem atBurst_started : ∃ c,
    narrow.atBurst (.ofRequest orderedScan) started.world.now started.controller =
        (.ok ⟨true, 0, ⟨1700000060000000⟩, 1⟩, c) ∧
      c.windows[(narrow.gate orderedScan .burst).1]? = some scanned := by
  have hnone : (started.controller.prune Number.Binary64.round
      started.world.now).windows[(narrow.gate orderedScan .burst).1]? = none := by
    simp [started, State.start, Controller.start, Controller.prune, pruneThreshold]
  have hattempt := narrow_moments.1
  have hanswer := @check_eq Number.Binary64.round started.controller started.world.now
    (narrow.gate orderedScan .burst).1 (narrow.gate orderedScan .burst).2
  have hwindow := windows_check_self Number.Binary64.round started.controller started.world.now
    (narrow.gate orderedScan .burst).1 (narrow.gate orderedScan .burst).2
  rcases hcheck : started.controller.check Number.Binary64.round started.world.now
    (narrow.gate orderedScan .burst).1 (narrow.gate orderedScan .burst).2 with ⟨answer, c⟩
  rw [hcheck] at hanswer hwindow
  simp only [hnone, Option.map_none, hattempt, Prod.mk.injEq] at hanswer hwindow
  obtain ⟨rfl, -⟩ := hanswer
  refine ⟨c, ?_, hwindow⟩
  simp only [gate] at hcheck
  rw [atBurst, attempt, hcheck]
  rfl

theorem windows_halfSecondLater :
    halfSecondLater.controller.windows[(narrow.gate orderedScan .burst).1]? = some scanned := by
  obtain ⟨c, hburst, hwindow⟩ := atBurst_started
  rcases kept_serve hburst scanner.registry ⟨⟨"o", "n", none⟩, none⟩
    (Caller.ofRequest orderedScan).address with hsame | ⟨w, hw, hover, -⟩
  · rw [halfSecondLater, serve_orderedScan]
    exact hsame.trans hwindow
  · obtain rfl := Option.some.inj (hw.symm.trans hwindow)
    have hlasts := (narrow_moments.2.2.1 _ List.mem_cons_self).1
    exact absurd (hover.symm.trans hlasts) Bool.noConfusion

theorem full_scanned : scanned.counter.Full Number.Binary64.round
    (narrow.gate orderedScan .burst).2 ⟨1700000060000000⟩ :=
  ⟨by decide, narrow_moments.2.1⟩

/-- The second order is refused, and the window stays as it is. -/
theorem response_halfSecondLater :
    (narrow.handle orderedScan halfSecondLater).1.response =
        .ofFailure halfSecondLater.world.now (.quota .burst ⟨1700000060000000⟩ 1) ∧
      (narrow.handle orderedScan halfSecondLater).2.controller.windows[
        (narrow.gate orderedScan .burst).1]? = some scanned := by
  have hcheck := check_of_full (by decide) windows_halfSecondLater
    not_isOver_halfSecondLater.1 not_isOver_halfSecondLater.2 full_scanned
  obtain ⟨w, hw, -, -, hafter, -⟩ := window_of_denied (by decide) hcheck rfl
  obtain rfl := Option.some.inj (hw.symm.trans windows_halfSecondLater)
  rcases hall : halfSecondLater.controller.check Number.Binary64.round halfSecondLater.world.now
    (narrow.gate orderedScan .burst).1 (narrow.gate orderedScan .burst).2 with ⟨answer, c⟩
  rw [hall] at hcheck hafter
  obtain rfl : answer = _ := hcheck
  have hburst : narrow.atBurst (.ofRequest orderedScan) halfSecondLater.world.now
      halfSecondLater.controller = (.error (.quota .burst ⟨1700000060000000⟩ 1), c) := by
    simp only [gate] at hall
    rw [atBurst, attempt, hall]
    rfl
  rw [serve_orderedScan, serve_of_atBurst hburst]
  exact ⟨rfl, hafter⟩

/-- Fifty-nine and a half seconds are left of the window, and the answer says fifty-nine; with one
more the window is over. -/
theorem retryAfter_waits_narrow :
    (narrow.handle orderedScan halfSecondLater).1.response.headers.get? Response.retryHeader =
        some "59" ∧
      AdmitsNext (narrow.handle orderedScan halfSecondLater).2.controller
        (narrow.gate orderedScan .burst).1 (narrow.gate orderedScan .burst).2
        (halfSecondLater.world.now + 59 + 1) := by
  obtain ⟨hresponse, hwindow⟩ := response_halfSecondLater
  obtain ⟨-, hreset, -, hclock, -, hnext, hpast, hdouble, hreading, hseconds⟩ := narrow_moments
  obtain ⟨n, w, resetAt, hheader, hn, hw, hend, hwait⟩ :=
    retryAfter_waits ⟨_, _, _, hresponse⟩ hclock hpast (by decide) rfl hdouble
  obtain rfl := Option.some.inj (hw.symm.trans hwindow)
  obtain rfl : resetAt = ⟨1700000060000000⟩ := Except.ok.inj (hend.symm.trans hreset)
  obtain rfl : n = 59 := by
    rw [hn]
    exact hseconds
  refine ⟨hheader, (hwait _ ⟨_, hnext⟩).2.1 hreading ?_⟩
  norm_num

/-- A caller who comes back when the answer says is refused once more. -/
theorem retryAfter_early :
    ∃ x ∈ narrow.exchanges started.controller
        [⟨started.world, orderedScan⟩, ⟨halfSecondLater.world, orderedScan⟩],
      x.answer.RefusedFor .burst ∧ (narrow.gate x.request .burst).2.limit = 1 ∧
      x.answer.response.headers.get? Response.retryHeader = some "59" ∧
      ¬ AdmitsNext x.after.controller (narrow.gate x.request .burst).1
        (narrow.gate x.request .burst).2 (x.before.world.now + 59) := by
  obtain ⟨hresponse, hwindow⟩ := response_halfSecondLater
  have hstate : halfSecondLater.controller = (narrow.handle orderedScan started).2.controller := by
    rw [halfSecondLater]
  have hsecond := mem_exchanges_second hstate orderedScan
  obtain ⟨-, -, hlasting, hclock, hend, -⟩ := narrow_moments
  have hlasts := (hlasting _ (List.mem_cons_of_mem _ (List.mem_cons_of_mem _ List.mem_cons_self))).2
  generalize narrow.handle orderedScan halfSecondLater = out at hresponse hwindow hsecond
  refine ⟨_, hsecond, ⟨_, _, _, hresponse⟩, rfl, ?_, fun hnext => ?_⟩
  · rw [hresponse]
    exact retryHeader_of_quota hclock
  · have hover := (admitsNext_iff (by decide) hwindow rfl full_scanned ⟨_, hend⟩).mp hnext
    rw [hlasts] at hover
    simp at hover

end SourceAudit.Sample

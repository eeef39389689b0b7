import SourceAudit.Proofs.Admission.Counter
import SourceAudit.Proofs.Json.Equality
import SourceAudit.Proofs.Scan.Privacy
import SourceAudit.Service.Application

/-!
# SourceAudit.Proofs.Service.Gates

The two gates before a scan. A request for a scan is examined first, then counted for the address
that it comes from, and then for its account. Only what passes both gates is carried out, and what
is stopped on the way leaves alone what lies behind the place where it is stopped.

* `burstKey_ne_planKey` — an address and an account never share a window, whatever they are called;
* `handle_way` — the ways that a request can take;
* `Way.gated` — what the windows are afterwards, and what GitHub has been asked for;
* `requests_gated` — so it is for every request of a run, in any world that it arrives in.
-/

namespace SourceAudit.Admission

open Number

/-! ## Keys and windows -/

/-- One action has different keys for different subjects. -/
theorem key_inj {action s t : String} : key action s = key action t ↔ s = t := by
  simp [key]

/-- A window is as it was, or it was over and has been removed. -/
def Kept (now : Rat) (k : String) (before after : Controller) : Prop :=
  after.windows[k]? = before.windows[k]? ∨
    ∃ w, before.windows[k]? = some w ∧ w.isOver Binary64.round now = true ∧
      after.windows[k]? = none

variable {now : Rat} {k : String} {c c' c'' : Controller}

theorem Kept.refl (now : Rat) (k : String) (c : Controller) : Kept now k c c := Or.inl rfl

theorem Kept.trans (h : Kept now k c c') (h' : Kept now k c' c'') : Kept now k c c'' := by
  rcases h with hsame | ⟨w, hw, hover, hnone⟩
  · rwa [Kept, hsame] at h'
  · refine Or.inr ⟨w, hw, hover, ?_⟩
    rcases h' with hsame | ⟨w', hw', -⟩
    · rw [hsame, hnone]
    · rw [hnone] at hw'
      simp at hw'

/-- An attempt at one key keeps the windows of all others. -/
theorem kept_check (c : Controller) (now : Rat) {key : String} (h : key ≠ k) (p : Profile) :
    Kept now k c (c.check Binary64.round now key p).2 := by
  rw [Kept, windows_check_of_ne c now h]
  exact windows_prune Binary64.round c now k

end SourceAudit.Admission

namespace SourceAudit.Service

open Admission (Kept)

namespace Application

theorem burstKey_inj (app : Application) {a b : String} :
    app.burstKey a = app.burstKey b ↔ a = b := Admission.key_inj

theorem planKey_inj {a b : String} : planKey a = planKey b ↔ a = b := Admission.key_inj

/-- **An address and an account never share a window**: their keys differ before the first colon,
and so before anything that a caller can choose. -/
theorem burstKey_ne_planKey (app : Application) (address account : String) :
    app.burstKey address ≠ planKey account := by
  intro h
  have hlist := congrArg String.toList h
  simp [burstKey, planKey, Admission.key, Settings.burstProfile, Admission.Profile.scanBurst]
    at hlist

/-! ## One gate -/

section

variable {c c' : Admission.Controller} {now : Rat} {quota : Quota} {key : String}
  {p : Admission.Profile} {d : Admission.Decision} {f : Failure}

/-- An attempt leaves the controller as its check does, whatever becomes of the refusal. -/
theorem attempt_snd (c : Admission.Controller) (now : Rat) (quota : Quota) (key : String)
    (p : Admission.Profile) :
    (attempt c now quota key p).2 = (c.check Number.Binary64.round now key p).2 := by
  unfold attempt
  split <;> simp_all

/-- What passes a gate is admitted. -/
theorem check_of_attempt (h : attempt c now quota key p = (.ok d, c')) :
    c.check Number.Binary64.round now key p = (.ok d, c') ∧ d.allowed = true := by
  unfold attempt at h
  split at h
  · simp at h
  · next d' c₁ hcheck =>
    split at h
    · next hallowed =>
      simp only [Prod.mk.injEq, Except.ok.injEq] at h
      obtain ⟨rfl, rfl⟩ := h
      exact ⟨hcheck, hallowed⟩
    · simp at h

/-- What a gate stops has reached its limit, or the attempt has no answer. -/
theorem failure_of_attempt (h : attempt c now quota key p = (.error f, c')) :
    f = .internal ∨ ∃ resetAt limit, f = .quota quota resetAt limit := by
  unfold attempt at h
  split at h
  · simp only [Prod.mk.injEq, Except.error.injEq] at h
    exact Or.inl h.1.symm
  · next d' c₁ _ =>
    split at h
    · simp at h
    · simp only [Prod.mk.injEq, Except.error.injEq] at h
      exact Or.inr ⟨_, _, h.1.symm⟩

/-- A gate keeps the windows of all keys but its own. -/
theorem kept_attempt {k : String} {out : Except Failure Admission.Decision} (hne : key ≠ k)
    (h : attempt c now quota key p = (out, c')) : Kept now k c c' := by
  have hafter := attempt_snd c now quota key p
  rw [h] at hafter
  obtain rfl : c' = _ := hafter
  exact Admission.kept_check c now hne p

end

/-! ## The way of a request -/

/-- The attempt at the gate for the address of a caller. -/
def atBurst (app : Application) (caller : Caller) (now : Rat) (c : Admission.Controller) :
    Except Failure Admission.Decision × Admission.Controller :=
  attempt c now .burst (app.burstKey caller.address) app.settings.burstProfile

/-- The attempt at the gate for the account of a caller. -/
def atPlan (app : Application) (caller : Caller) (now : Rat) (c : Admission.Controller) :
    Except Failure Admission.Decision × Admission.Controller :=
  attempt c now .plan (planKey caller.account) (app.settings.plans.profile caller.tier)

/-- The ways that a request can take. -/
inductive Way (app : Application) (r : Request) (st : State) : Answer × State → Prop
  /-- It does not come to the gates, and nothing is done. -/
  | turnedAway (response : Response) : Way app r st (⟨response, []⟩, st)
  | stoppedAtBurst {f : Failure} {c : Admission.Controller}
      (h : app.atBurst (.ofRequest r) st.world.now st.controller = (.error f, c)) :
      Way app r st (refuse { st with controller := c } f)
  | stoppedAtPlan {d : Admission.Decision} {f : Failure} {c c' : Admission.Controller}
      (hburst : app.atBurst (.ofRequest r) st.world.now st.controller = (.ok d, c))
      (h : app.atPlan (.ofRequest r) st.world.now c = (.error f, c')) :
      Way app r st (refuse { st with controller := c' } f)
  | through {d d' : Admission.Decision} {c c' : Admission.Controller}
      (hburst : app.atBurst (.ofRequest r) st.world.now st.controller = (.ok d, c))
      (hplan : app.atPlan (.ofRequest r) st.world.now c = (.ok d', c'))
      (g : Registry) (order : Order) :
      Way app r st (app.carryOut g order d' { st with controller := c' })

/-- An order that is stopped at the first gate goes no further. -/
theorem serve_of_atBurst {app : Application} {caller : Caller} {st : State} {f : Failure}
    {c : Admission.Controller}
    (h : app.atBurst caller st.world.now st.controller = (.error f, c)) (g : Registry)
    (order : Order) :
    app.serve g caller order st = refuse { st with controller := c } f := by
  rw [atBurst] at h
  rw [serve, admission, h]

/-- A request that is served goes its way from the order that is read in it. -/
theorem serve_way (app : Application) (g : Registry) (r : Request) (order : Order) (st : State) :
    app.Way r st (app.serve g (.ofRequest r) order st) := by
  rcases hburst : app.atBurst (.ofRequest r) st.world.now st.controller with ⟨f | d, c⟩
  · rw [serve_of_atBurst hburst]
    exact .stoppedAtBurst hburst
  · have hnext : app.admission (.ofRequest r) st.world.now st.controller =
        app.atPlan (.ofRequest r) st.world.now c := by
      rw [atBurst] at hburst
      rw [admission, hburst]
      rfl
    rw [serve, hnext]
    rcases hplan : app.atPlan (.ofRequest r) st.world.now c with ⟨f | d', c'⟩
    · exact .stoppedAtPlan hburst hplan
    · exact .through hburst hplan g order

/-- A request for a scan goes its way, whether an order can be read in it or not. -/
theorem scan_way (app : Application) (r : Request) (st : State) :
    app.Way r st (app.scan r st) := by
  unfold scan
  split
  · exact .turnedAway _
  · exact .turnedAway _
  · exact .turnedAway _
  · split
    · exact .turnedAway _
    · exact serve_way app _ r _ st

/-- **The ways that a request can take.** -/
theorem handle_way (app : Application) (r : Request) (st : State) :
    app.Way r st (app.handle r st) := by
  unfold handle
  split
  · exact scan_way app r st
  all_goals exact .turnedAway _

end Application

/-! ## Answers -/

/-- The answer refuses the request because a limit is reached. -/
def Answer.RefusedFor (a : Answer) (quota : Quota) : Prop :=
  ∃ now resetAt limit, a.response = .ofFailure now (.quota quota resetAt limit)

/-- A scan fails for a failure of its requests, or it cannot be carried out. -/
theorem failure_of_scan {s : Scanner} {repo : Repository} {token : Option String}
    {world : Remote.World} {f : Failure} (h : (s.scan repo token world).1 = .error f) :
    f = .internal ∨ ∃ e, f = .remote e := by
  have hreport : ∀ {late p started finished},
      s.report repo late p started finished = .error f → f = .internal := by
    intro late p started finished h
    unfold Scanner.report at h
    split at h
    · simp at h
    · exact (Except.error.inj h).symm
  unfold Scanner.scan at h
  simp only at h
  split at h
  · exact Or.inl (hreport h)
  · exact Or.inl (hreport h)
  · exact Or.inr ⟨_, (Except.error.inj h).symm⟩

theorem kindOfRemote_ne_quotaExceeded (e : Remote.Error) :
    Failure.kindOfRemote e ≠ .quotaExceeded := by
  cases e <;> simp [Failure.kindOfRemote]

theorem kindOfRemote_ne_inputError (e : Remote.Error) : Failure.kindOfRemote e ≠ .inputError := by
  cases e <;> simp [Failure.kindOfRemote]

/-- Only an input error is answered with 400. -/
theorem status_eq_iff (k : FailureKind) : k.status = 400 ↔ k = .inputError := by
  cases k <;> simp [FailureKind.status]

theorem kindName_inj {k k' : FailureKind} : k.name = k'.name ↔ k = k' := by
  cases k <;> cases k' <;> simp [FailureKind.name]

theorem quotaMessage_inj {q q' : Quota} : q.message = q'.message ↔ q = q' := by
  cases q <;> cases q' <;> simp [Quota.message]

/-- A response tells which limit is reached. -/
theorem eq_quota_of_ofFailure {now now' : Rat} {f : Failure} {quota : Quota} {resetAt : Instant}
    {limit : Nat} (h : Response.ofFailure now f = .ofFailure now' (.quota quota resetAt limit)) :
    ∃ resetAt' limit', f = .quota quota resetAt' limit' := by
  have hbody : Response.failureBody f = Response.failureBody (.quota quota resetAt limit) :=
    congrArg Response.body h
  simp only [Response.failureBody, Json.obj.injEq, List.cons_append, List.cons.injEq,
    Prod.mk.injEq, Json.str.injEq, true_and, kindName_inj] at hbody
  obtain ⟨hmessage, hkind, -⟩ := hbody
  cases f with
  | input fault => simp [Failure.kind] at hkind
  | quota which resetAt' limit' =>
      obtain rfl : which = quota := quotaMessage_inj.mp hmessage
      exact ⟨resetAt', limit', rfl⟩
  | remote e => exact absurd hkind (kindOfRemote_ne_quotaExceeded e)
  | internal => simp [Failure.kind] at hkind

/-! ## Runs -/

/-- A request and the world that it arrives in: what the clock shows, and what GitHub will reply. -/
structure Arrival where
  world : Remote.World
  request : Request

/-- A request with its answer, and the state before and after it. -/
structure Exchange where
  before : State
  request : Request
  answer : Answer
  after : State

namespace Application

/-- The exchanges of a run. What one leaves of the windows the next one meets; the world may change
in any way between them. -/
def exchanges (app : Application) : Admission.Controller → List Arrival → List Exchange
  | _, [] => []
  | c, a :: as =>
    let out := app.handle a.request ⟨a.world, c⟩
    ⟨⟨a.world, c⟩, a.request, out.1, out.2⟩ :: exchanges app out.2.controller as

/-- A run of one request. -/
theorem exchanges_singleton (app : Application) (r : Request) (st : State) :
    app.exchanges st.controller [⟨st.world, r⟩] =
      [⟨st, r, (app.handle r st).1, (app.handle r st).2⟩] := rfl

/-- The request of an exchange is admitted at both gates, and counted there. -/
def Admits (app : Application) (x : Exchange) : Prop :=
  let caller := Caller.ofRequest x.request
  let now := x.before.world.now
  ∃ burst c plan,
    x.before.controller.check Number.Binary64.round now (app.burstKey caller.address)
        app.settings.burstProfile = (.ok burst, c) ∧ burst.allowed = true ∧
      c.check Number.Binary64.round now (planKey caller.account)
        (app.settings.plans.profile caller.tier) = (.ok plan, x.after.controller) ∧
      plan.allowed = true

/-- What both gates make sure of in an exchange. -/
structure Gated (app : Application) (x : Exchange) : Prop where
  /-- A faulty request is neither counted nor does it make the service ask for anything. -/
  faulty : x.answer.response.status = 400 →
    x.after.controller = x.before.controller ∧ x.answer.requests = []
  /-- One that is refused for its address is not counted for any account. -/
  burst : x.answer.RefusedFor .burst → x.answer.requests = [] ∧
    ∀ account, Kept x.before.world.now (planKey account) x.before.controller x.after.controller
  plan : x.answer.RefusedFor .plan → x.answer.requests = []
  /-- GitHub is asked only for what is admitted twice. -/
  admitted : x.answer.requests ≠ [] → app.Admits x
  /-- No request is counted for another address or for another account. -/
  others : (∀ address, address ≠ (Caller.ofRequest x.request).address →
      Kept x.before.world.now (app.burstKey address) x.before.controller x.after.controller) ∧
    ∀ account, account ≠ (Caller.ofRequest x.request).account →
      Kept x.before.world.now (planKey account) x.before.controller x.after.controller

section

variable {app : Application} {r : Request} {st : State} {c c' : Admission.Controller}

/-- The gate for addresses keeps all windows but that of the address. -/
theorem kept_atBurst {out : Except Failure Admission.Decision} {caller : Caller} {now : Rat}
    (h : app.atBurst caller now c = (out, c')) :
    (∀ address, address ≠ caller.address → Kept now (app.burstKey address) c c') ∧
      ∀ account, Kept now (planKey account) c c' :=
  ⟨fun _ hne => kept_attempt (fun hkey => hne (app.burstKey_inj.mp hkey).symm) h,
    fun account => kept_attempt (app.burstKey_ne_planKey caller.address account) h⟩

/-- The gate for accounts keeps all windows but that of the account. -/
theorem kept_atPlan {out : Except Failure Admission.Decision} {caller : Caller} {now : Rat}
    (h : app.atPlan caller now c = (out, c')) :
    (∀ address, Kept now (app.burstKey address) c c') ∧
      ∀ account, account ≠ caller.account → Kept now (planKey account) c c' :=
  ⟨fun address => kept_attempt (app.burstKey_ne_planKey address caller.account).symm h,
    fun _ hne => kept_attempt (fun hkey => hne (planKey_inj.mp hkey).symm) h⟩

/-- What two gates keep one after the other. -/
theorem kept_both {out out' : Except Failure Admission.Decision} {caller : Caller} {now : Rat}
    {c'' : Admission.Controller} (hburst : app.atBurst caller now c = (out, c'))
    (hplan : app.atPlan caller now c' = (out', c'')) :
    (∀ address, address ≠ caller.address → Kept now (app.burstKey address) c c'') ∧
      ∀ account, account ≠ caller.account → Kept now (planKey account) c c'' := by
  obtain ⟨hburst₁, hburst₂⟩ := kept_atBurst hburst
  obtain ⟨hplan₁, hplan₂⟩ := kept_atPlan hplan
  exact ⟨fun address hne => (hburst₁ address hne).trans (hplan₁ address),
    fun account hne => (hburst₂ account).trans (hplan₂ account hne)⟩

/-- A request that is stopped at a gate is none that is answered as faulty. -/
theorem status_of_stopped {now now' : Rat} {quota : Quota} {key : String} {p : Admission.Profile}
    {f : Failure} (h : attempt c now quota key p = (.error f, c')) :
    (Response.ofFailure now' f).status ≠ 400 := by
  rcases failure_of_attempt h with rfl | ⟨resetAt, limit, rfl⟩ <;>
    simp [Response.ofFailure, Failure.kind, FailureKind.status]

/-- A request that is carried out is answered neither as faulty nor as refused for a limit. -/
theorem response_carryOut (app : Application) (g : Registry) (order : Order)
    (d : Admission.Decision) (st : State) :
    (app.carryOut g order d st).1.response.status ≠ 400 ∧
      ∀ quota, ¬ (app.carryOut g order d st).1.RefusedFor quota := by
  unfold carryOut
  simp only [Answer.RefusedFor]
  split
  · refine ⟨by simp [Response.ofReport], ?_⟩
    rintro quota ⟨now, resetAt, limit, h⟩
    have hstatus := congrArg Response.status h
    simp [Response.ofReport, Response.ofFailure, Failure.kind, FailureKind.status] at hstatus
  · next f hfailed =>
    have hf := failure_of_scan hfailed
    constructor
    · intro h
      rw [Response.ofFailure, status_eq_iff] at h
      rcases hf with rfl | ⟨e, rfl⟩
      · simp [Failure.kind] at h
      · exact kindOfRemote_ne_inputError e h
    · rintro quota ⟨now, resetAt, limit, h⟩
      obtain ⟨resetAt', limit', rfl⟩ := eq_quota_of_ofFailure h
      simp at hf

/-- **What both gates make sure of**, whatever way a request takes. -/
theorem Way.gated {out : Answer × State} (h : app.Way r st out) :
    app.Gated ⟨st, r, out.1, out.2⟩ := by
  cases h with
  | turnedAway response =>
      have hkept := fun k => Kept.refl st.world.now k st.controller
      exact ⟨fun _ => ⟨rfl, rfl⟩, fun _ => ⟨rfl, fun account => hkept _⟩, fun _ => rfl,
        fun hsome => absurd rfl hsome, fun _ _ => hkept _, fun _ _ => hkept _⟩
  | stoppedAtBurst hburst =>
      obtain ⟨hothers, haccounts⟩ := kept_atBurst hburst
      exact ⟨fun hstatus => absurd hstatus (status_of_stopped hburst),
        fun _ => ⟨rfl, haccounts⟩, fun _ => rfl, fun hsome => absurd rfl hsome,
        hothers, fun account _ => haccounts account⟩
  | stoppedAtPlan hburst hplan =>
      refine ⟨fun hstatus => absurd hstatus (status_of_stopped hplan), ?_, fun _ => rfl,
        fun hsome => absurd rfl hsome, kept_both hburst hplan⟩
      -- The response names the plan as the limit that is reached.
      rintro ⟨now, resetAt, limit, hresponse⟩
      obtain ⟨resetAt', limit', rfl⟩ := eq_quota_of_ofFailure hresponse
      simpa using failure_of_attempt hplan
  | @through d d' c c' hburst hplan g order =>
      obtain ⟨hstatus, hquota⟩ := response_carryOut app g order d' { st with controller := c' }
      refine ⟨fun h => absurd h hstatus, fun h => absurd h (hquota _),
        fun h => absurd h (hquota _), fun _ => ?_, kept_both hburst hplan⟩
      obtain ⟨hfirst, hallowed⟩ := check_of_attempt hburst
      obtain ⟨hsecond, hallowed'⟩ := check_of_attempt hplan
      exact ⟨d, c, d', hfirst, hallowed, hsecond, hallowed'⟩

/-- **Admission gates every scan.** In every run a request that is answered as faulty is not
counted, one that is refused for its address is not counted for any account, and GitHub is asked
only for requests that are admitted both for their address and for their account; each is counted
for these alone, for an address and an account never share a window. -/
theorem requests_gated (app : Application) (c : Admission.Controller) (arrivals : List Arrival) :
    (∀ x ∈ app.exchanges c arrivals, app.Gated x) ∧
      ∀ address account, app.burstKey address ≠ planKey account := by
  refine ⟨?_, app.burstKey_ne_planKey⟩
  induction arrivals generalizing c with
  | nil => simp [exchanges]
  | cons a as ih =>
      exact List.forall_mem_cons.mpr ⟨(handle_way app a.request ⟨a.world, c⟩).gated, ih _⟩

end

end Application

end SourceAudit.Service

namespace SourceAudit.Sample

open Service Service.Application

/-- A service that admits no scan from any address. -/
def closed : Application := ⟨{ settings with scanBurstLimit := 0 }, some scanner.registry⟩

/-- An order of a scan, from an address and for an account with the same colons in their names. -/
def orderedScan : Service.Request where
  method := "POST"
  path := "/scan"
  headers := ⟨[("x-forwarded-for", "burst:scan:1"), ("x-account-id", "burst:scan:1")]⟩
  peer := none
  body := Text.bytesOf "\x7b\"repoUrl\": \"github.com/o/n\"\x7d"

/-- The service when it starts, in a world in which nothing exists. -/
def started : State := .start ⟨1700000000, ⟨[]⟩⟩

theorem atBurst_closed (caller : Caller) :
    (closed.atBurst caller started.world.now started.controller).1 =
      .error (.quota .burst ⟨1700000060000000⟩ 0) := by
  have hend : Admission.Controller.endOf Number.Binary64.round started.world.now (.finite 60) =
      .ok ⟨1700000060000000⟩ := by decide +kernel
  have hwindows : (started.controller.prune Number.Binary64.round
      started.world.now).windows[closed.burstKey caller.address]? = none := by
    simp [started, State.start, Admission.Controller.start, Admission.Controller.prune,
      Admission.pruneThreshold]
  have hprofile : closed.settings.burstProfile = ⟨"scan_burst", 0, .finite 60⟩ := rfl
  rw [atBurst, attempt, Admission.check_eq]
  simp [hprofile, hwindows, Admission.Counter.current, Admission.Counter.attempt, hend]

/-- The request of the example, once its order is read, is served. -/
theorem handle_orderedScan {app : Application} (hregistry : app.registry = some scanner.registry)
    (horder : Order.ofJson app.settings (.obj [("repoUrl", .str "github.com/o/n")]) =
      .ok ⟨⟨"o", "n", none⟩, none⟩) (st : State) :
    app.handle orderedScan st =
      app.serve scanner.registry (.ofRequest orderedScan) ⟨⟨"o", "n", none⟩, none⟩ st := by
  have hcontent : orderedScan.content = .ok (.obj [("repoUrl", .str "github.com/o/n")]) := by
    decide +kernel
  rw [handle, show orderedScan.path = "/scan" from rfl, show orderedScan.method = "POST" from rfl]
  simp only
  rw [scan, hcontent, hregistry]
  simp only
  rw [horder]

theorem refusedFor_closed : (closed.handle orderedScan started).1.RefusedFor .burst := by
  have hserve : closed.handle orderedScan started =
      closed.serve scanner.registry (.ofRequest orderedScan) ⟨⟨"o", "n", none⟩, none⟩ started :=
    handle_orderedScan rfl (by decide +kernel) started
  have hstop := atBurst_closed (.ofRequest orderedScan)
  rcases hburst : closed.atBurst (.ofRequest orderedScan) started.world.now started.controller with
    ⟨out, c⟩
  rw [hburst] at hstop
  obtain rfl : out = _ := hstop
  rw [hserve, serve_of_atBurst hburst]
  exact ⟨_, _, _, rfl⟩

theorem requests_gated_closed :
    ∃ x ∈ closed.exchanges started.controller [⟨started.world, orderedScan⟩],
      x.answer.RefusedFor .burst ∧ x.answer.requests = [] ∧
      ∀ account, Admission.Kept x.before.world.now (planKey account) x.before.controller
        x.after.controller := by
  obtain ⟨hgated, -⟩ := requests_gated closed started.controller [⟨started.world, orderedScan⟩]
  have hrefused := refusedFor_closed
  rw [exchanges_singleton] at hgated ⊢
  generalize closed.handle orderedScan started = out at hgated hrefused ⊢
  have hx := hgated _ (List.mem_singleton_self _)
  exact ⟨_, List.mem_singleton_self _, hrefused, hx.burst hrefused⟩

end SourceAudit.Sample

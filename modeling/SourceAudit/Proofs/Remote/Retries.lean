import SourceAudit.Proofs.Number.Rounding
import SourceAudit.Proofs.Remote.Course

/-!
# SourceAudit.Proofs.Remote.Retries

How often a query is sent, and how long its attempts are apart. What becomes of a query hangs on the
replies that a script holds for its address, one after the other: which of them are fleeting
failures, and which of them tell that no requests are left.

* `outcomeIn`, `clockAt` and `knownAt` — the course of these replies, as the script has it;
* `Ends` — the ways in which the attempts come to an end;
* `retry_run` — the requests and delays up to that end;
* `get_retries` — those of a query, whose delays are the multiples of the first by powers of two.
-/

namespace SourceAudit.Number.Double

/-- The product with a power of two, which is not rounded; an infinity if it lies beyond the
format. -/
def timesTwoTo (x : Double) (k : Nat) : Double :=
  match x with
  | finite p => ofRounded (p * 2 ^ k)
  | x => x

/-- The products of a double with powers of two need not be rounded. -/
theorem scale_eq_timesTwoTo {x : Double} (hx : ∀ p, x = finite p → Binary64.round p = p) (k : Nat) :
    x.scale k = x.timesTwoTo k := by
  cases x with
  | finite p =>
      have hpow : ((twoTo k : Nat) : ℚ) = 2 ^ k := by rw [twoTo_eq, zpow_natCast]
      rw [scale, timesTwoTo, Binary64.mul, hpow, Binary64.round_mul_two_pow (hx p rfl)]
  | _ => rfl

end SourceAudit.Number.Double

namespace SourceAudit.Remote

open Number Client

/-! ## Replies in turn -/

namespace Script

variable {script : Script} {target : String}

/-- The reply to the request for a target that comes after `k` others, the last one being given for
good. -/
def replyAt (script : Script) (target : String) (k : Nat) : Reply :=
  ((script.replies target)[min k ((script.replies target).length - 1)]?).getD .notFound

theorem answer_replyAt (script : Script) (target : String) :
    (script.answer target).1 = script.replyAt target 0 := by
  rw [answer_eq, replyAt, Nat.zero_min]
  match script.replies target with
  | [] => rfl
  | [_] => rfl
  | _ :: _ :: _ => rfl

/-- After an answer the replies of its target move up by one. -/
theorem replyAt_answer (script : Script) (target : String) (k : Nat) :
    (script.answer target).2.replyAt target k = script.replyAt target (k + 1) := by
  rw [replyAt, replyAt, replies_answer, if_pos rfl]
  match script.replies target with
  | [] => rfl
  | [_] => simp [take]
  | _ :: r :: rs =>
    have hplace : min (k + 1) (rs.length + 1) = min k rs.length + 1 := by omega
    simp only [take, List.length_cons, Nat.add_sub_cancel, hplace, List.getElem?_cons_succ]

end Script

/-- A failure that may pass: of the time, of the network, or of the server. -/
def Outcome.Fleeting : Outcome → Prop
  | .fault (.timeout _) => True
  | .fault (.network _) => True
  | .response r => 500 ≤ r.status
  | _ => False

/-- What a query makes of the outcome of its request. -/
def Outcome.answer (q : Query) (now : Rat) : Outcome → Except Stop Response
  | .hang => .error .deadline
  | .fault (.timeout name) => .error (.failed (.timedOut q.what name))
  | .fault (.network name) => .error (.failed (.networkFailed q.what name))
  | .fault .undecodable => .error (.failed (.unusable .fault))
  | .response r =>
    match errorOf q r now with
    | some e => .error (.failed e)
    | none => .ok r

namespace World

/-- The outcome of the request to an address that comes after `k` others. -/
def outcomeIn (w : World) (u : Url) (k : Nat) : Outcome :=
  received u (w.script.replyAt (.ofList u.target) k).outcome

/-- What the clock shows after `k` requests to an address. -/
def clockAt (w : World) (u : Url) : Nat → Rat
  | 0 => w.now
  | k + 1 => (w.script.replyAt (.ofList u.target) k).now.getD (w.clockAt u k)

/-- What a query makes of the outcome of the request that comes after `k` others. -/
def answerAt (w : World) (u : Url) (q : Query) (k : Nat) : Except Stop Response :=
  (w.outcomeIn u k).answer q (w.clockAt u (k + 1))

/-- The clock stays in the calendar, and what the responses from an address tell of the limit can be
read. -/
structure Readable (w : World) (u : Url) : Prop where
  clock : ∀ k, ∃ now, Instant.ofEpoch (w.clockAt u k) = .ok now
  limit : ∀ k r, w.outcomeIn u k = .response r → LegibleLimit r.headers (w.clockAt u (k + 1))

/-- A world in which the replies from an address are one further than in another. -/
structure Next (u : Url) (w w' : World) : Prop where
  replies : ∀ k, w'.script.replyAt (.ofList u.target) k =
    w.script.replyAt (.ofList u.target) (k + 1)
  clock : w'.now = w.clockAt u 1

end World

namespace Session

/-- What is known of the limit after `k` requests to an address: what the last response that counts
the requests left has told, or else what was known before. -/
def knownAt (s : Session) (u : Url) : Nat → Option (Nat × Option Instant)
  | 0 => s.known
  | k + 1 =>
    match s.world.outcomeIn u k with
    | .response r => r.told.or (s.knownAt u k)
    | _ => s.knownAt u k

/-- After `k` requests to an address no more are known to be left before a moment to come. -/
def Forbids (s : Session) (u : Url) (k : Nat) (resetAt : Instant) : Prop :=
  s.knownAt u k = some (0, some resetAt) ∧
    ∃ now, Instant.ofEpoch (s.world.clockAt u k) = .ok now ∧ now.micros < resetAt.micros

/-- A session after one request to an address more than another. -/
structure Next (u : Url) (s s' : Session) : Prop where
  world : s.world.Next u s'.world
  known : s'.known = s.knownAt u 1

end Session

/-- How the attempts of a query come to an end, when `retries` repetitions are allowed and `index`
have been made before: how many requests are sent, after how many of them there is a delay, and with
what answer. -/
inductive Ends (u : Url) (q : Query) (s : Session) (retries index : Nat) :
    (sent slept : Nat) → Except Stop Response → Prop
  /-- An outcome is no fleeting failure. -/
  | settled {k : Nat} (hk : k ≤ retries) (h : ¬ (s.world.outcomeIn u k).Fleeting) :
      Ends u q s retries index (k + 1) k (s.world.answerAt u q k)
  /-- All attempts are made. -/
  | spent (h : (s.world.outcomeIn u retries).Fleeting) :
      Ends u q s retries index (retries + 1) retries (s.world.answerAt u q retries)
  /-- No requests are known to be left for another attempt. -/
  | forbidden {k : Nat} {resetAt : Instant} (hk : k ≤ retries) (h : s.Forbids u k resetAt) :
      Ends u q s retries index k k (.error (.failed (.rateLimited (some resetAt))))
  /-- There is no number for the power of two in the delay before another attempt. -/
  | delayless {k : Nat} (hk : k < retries) (hindex : index + k = 1024)
      (h : (s.world.outcomeIn u k).Fleeting) :
      Ends u q s retries index (k + 1) k (.error (.failed (.unusable .request)))

section

variable {c : Client} {repo : Repository} {q : Query} {u : Url} {s s' : Session} {now : Rat}
  {r : Response} {resetAt : Instant}

/-! ## Outcomes -/

/-- A response that is a failure of the server is no answer to any query. -/
theorem errorOf_of_serverFailed (h : 500 ≤ r.status) :
    errorOf q r now = some (.serverFailed q.what r.status) := by
  have hrefused : accepts q r.status = false := by
    have hconflict : r.status ≠ 409 := by omega
    cases q <;> simp [accepts, hconflict]
  have hfree : r.isRateLimited = some false := isRateLimited_of_status (by omega)
  have herror : ¬ r.status < 400 := by omega
  have hdenied : ¬ (r.status = 401 ∨ r.status = 403 ∨ r.status = 404 ∨ r.status = 422) := by omega
  simp [errorOf, hrefused, Response.error?, herror, hfree, hdenied, h]

/-- Of the errors that a response is made into, those of the server are transient. -/
theorem isTransient_of_errorOf {e : Error} (h : errorOf q r now = some e) :
    e.isTransient = true ↔ 500 ≤ r.status := by
  constructor
  · intro htransient
    unfold errorOf Response.error? at h
    grind [Error.isTransient]
  · intro hstatus
    rw [errorOf_of_serverFailed hstatus] at h
    obtain rfl := Option.some.inj h
    rfl

/-- **The failures that may pass** are those after which a request is sent again. -/
theorem isTransient_answer_iff (o : Outcome) :
    isTransient (o.answer q now) = true ↔ o.Fleeting := by
  cases o with
  | hang => simp [Outcome.answer, Outcome.Fleeting, isTransient]
  | fault f => cases f <;> simp [Outcome.answer, Outcome.Fleeting, isTransient, Error.isTransient]
  | response r =>
      simp only [Outcome.answer, Outcome.Fleeting]
      cases herror : errorOf q r now with
      | some e => exact isTransient_of_errorOf herror
      | none =>
          refine iff_of_false (by simp [isTransient]) fun hstatus => ?_
          simp [errorOf_of_serverFailed hstatus] at herror

/-- They are told as such. -/
theorem fleeting_iff_unavailable (o : Outcome) : o.Fleeting ↔
    ∃ e, o.answer q now = .error (.failed e) ∧ Failure.kindOfRemote e = .remoteUnavailable := by
  have htransient : isTransient (o.answer q now) = true ↔ o.Fleeting := isTransient_answer_iff o
  rw [← htransient]
  cases o.answer q now with
  | ok r => simp [isTransient]
  | error stop =>
      cases stop with
      | deadline => simp [isTransient]
      | failed e => cases e <;> simp [isTransient, Error.isTransient, Failure.kindOfRemote]

/-! ## One request further -/

namespace World

variable {w w' : World}

/-- After an attempt the outcomes move up by one, and so do the clock and the answers. -/
theorem Next.outcomeIn (h : Next u w w') (k : Nat) : w'.outcomeIn u k = w.outcomeIn u (k + 1) := by
  rw [World.outcomeIn, World.outcomeIn, h.replies]

theorem Next.clockAt (h : Next u w w') (k : Nat) : w'.clockAt u k = w.clockAt u (k + 1) := by
  induction k with
  | zero => exact h.clock
  | succ k ih => rw [World.clockAt, World.clockAt, h.replies, ih]

theorem Next.answerAt (h : Next u w w') (k : Nat) :
    w'.answerAt u q k = w.answerAt u q (k + 1) := by
  rw [World.answerAt, World.answerAt, h.outcomeIn, h.clockAt]

/-- A world that is readable stays so after an attempt. -/
theorem Next.readable (h : Next u w w') (hw : w.Readable u) : w'.Readable u where
  clock k := by
    rw [h.clockAt]
    exact hw.clock (k + 1)
  limit k r hr := by
    rw [h.clockAt]
    exact hw.limit (k + 1) r (h.outcomeIn k ▸ hr)

end World

namespace Session

/-- What is known of the limit moves up by one as well. -/
theorem Next.knownAt (h : Next u s s') (k : Nat) : s'.knownAt u k = s.knownAt u (k + 1) := by
  induction k with
  | zero => exact h.known
  | succ k ih => rw [Session.knownAt, Session.knownAt, h.world.outcomeIn, ih]

/-- The limit forbids, after an attempt, what it forbids one attempt later before it. -/
theorem Next.forbids_iff (h : Next u s s') (k : Nat) :
    s'.Forbids u k resetAt ↔ s.Forbids u (k + 1) resetAt := by
  rw [Forbids, Forbids, h.knownAt, h.world.clockAt]

/-- A delay changes nothing in this. -/
theorem Next.wait (h : Next u s s') (delay : Double) : Next u s (s'.wait delay) :=
  ⟨h.world, h.known⟩

end Session

/-- What is one further is the rest of what comes to an end. -/
theorem Ends.next {retries index sent slept : Nat} {out : Except Stop Response}
    (hnext : Session.Next u s s') (h : Ends u q s' retries (index + 1) sent slept out) :
    Ends u q s (retries + 1) index (sent + 1) (slept + 1) out := by
  cases h with
  | settled hk h =>
      rw [hnext.world.outcomeIn] at h
      rw [hnext.world.answerAt]
      exact .settled (by omega) h
  | spent h =>
      rw [hnext.world.outcomeIn] at h
      rw [hnext.world.answerAt]
      exact .spent h
  | forbidden hk h => exact .forbidden (by omega) ((hnext.forbids_iff _).mp h)
  | delayless hk hindex h =>
      rw [hnext.world.outcomeIn] at h
      exact .delayless (by omega) (by omega) h

/-- However the attempts end, there are no more of them than the retries allow, and each but the
first was waited for. -/
theorem Ends.sent_le {retries index sent slept : Nat} {out : Except Stop Response}
    (h : Ends u q s retries index sent slept out) : sent ≤ retries + 1 ∧ sent ≤ slept + 1 := by
  cases h <;> omega

namespace Client

/-! ## One attempt -/

/-- To take note of a limit makes no request and does not sleep. -/
theorem untouched_of_track (h : track s r = .ok s') :
    s'.requestsMade = s.requestsMade ∧ s'.sleeps = s.sleeps := by
  unfold track at h
  grind

/-- A request counts no other, and there is no delay in it. -/
theorem untouched_sendTo (c : Client) (u : Url) (q : Query) (s : Session) :
    (c.sendTo u q s).2.requestsMade = s.requestsMade ∧ (c.sendTo u q s).2.sleeps = s.sleeps := by
  unfold sendTo
  dsimp only
  split
  · exact ⟨rfl, rfl⟩
  · exact ⟨rfl, rfl⟩
  · exact ⟨rfl, rfl⟩
  · exact ⟨rfl, rfl⟩
  · split
    · exact ⟨rfl, rfl⟩
    · next htrack =>
      have huntouched := untouched_of_track htrack
      split <;> exact huntouched

theorem outcomeIn_zero (u : Url) (s : Session) :
    s.world.outcomeIn u 0 = received u (outcomeAt u s) := by
  rw [World.outcomeIn, outcomeAt, Script.answer_replyAt]

theorem clockAt_one (u : Url) (s : Session) : s.world.clockAt u 1 = answeredAt u s := by
  rw [World.clockAt, answeredAt, Script.answer_replyAt, World.clockAt]

/-- **What is made of the first outcome.** -/
theorem answer_sendTo (h : s.world.Readable u) (c : Client) (q : Query) :
    (c.sendTo u q s).1 = s.world.answerAt u q 0 := by
  unfold World.answerAt
  rw [outcomeIn_zero, clockAt_one]
  cases hreceived : received u (outcomeAt u s) with
  | hang =>
      unfold outcomeAt at hreceived
      simp only [sendTo, hreceived]
      rfl
  | fault f =>
      unfold outcomeAt at hreceived
      cases f <;> simp only [sendTo, hreceived] <;> rfl
  | response r =>
      have hlegible := h.limit 0 r ((outcomeIn_zero u s).trans hreceived)
      rw [clockAt_one] at hlegible
      obtain ⟨s', htrack⟩ := exists_track hlegible (c.atAnswer u q s)
      rw [sendTo_of_track hreceived htrack]
      rfl

/-- What is known is told by the outcomes. -/
theorem next_sendTo (h : s.world.Readable u) (c : Client) (q : Query) :
    Session.Next u s (c.sendTo u q s).2 where
  world :=
    ⟨fun k => by rw [world_sendTo, Script.replyAt_answer], by rw [world_sendTo, clockAt_one]⟩
  known := by
    have hlegible : ∀ r, received u (outcomeAt u s) = .response r →
        LegibleLimit r.headers (answeredAt u s) := by
      intro r hr
      rw [← clockAt_one]
      exact h.limit 0 r ((outcomeIn_zero u s).trans hr)
    rw [known_sendTo hlegible, Session.knownAt, outcomeIn_zero]
    rfl

/-- A request is forbidden by what is known before. -/
theorem exhausted_eq_some_iff (hclock : ∃ now, Instant.ofEpoch s.world.now = .ok now) :
    exhausted s = .ok (some resetAt) ↔ s.Forbids u 0 resetAt := by
  obtain ⟨now, hnow⟩ := hclock
  simp only [exhausted, Session.Forbids, Session.knownAt, Session.known, World.clockAt, hnow,
    Except.ok.injEq, exists_eq_left']
  cases s.remaining with
  | none => simp
  | some n =>
      cases n with
      | succ n => simp
      | zero => cases s.resetAt <;> grind

/-- A client is not held up if no limit that it knows of forbids the attempt. -/
theorem exhausted_eq_none (hclock : ∃ now, Instant.ofEpoch s.world.now = .ok now)
    (h : ∀ resetAt, ¬ s.Forbids u 0 resetAt) : exhausted s = .ok none := by
  cases hlimit : exhausted s with
  | error e =>
      obtain ⟨now, hnow⟩ := hclock
      unfold exhausted at hlimit
      grind
  | ok reset =>
      cases reset with
      | none => rfl
      | some resetAt => exact absurd ((exhausted_eq_some_iff hclock).mp hlimit) (h resetAt)

/-- An attempt that is forbidden changes nothing. -/
theorem send_of_forbids (hs : s.world.Readable u) (h : s.Forbids u 0 resetAt) :
    c.send repo q s = (.error (.failed (.rateLimited (some resetAt))), s) := by
  have hheld := (exhausted_eq_some_iff (hs.clock 0)).mpr h
  simp only [send, hheld]

/-- An attempt that is allowed: a request is sent, and its outcome is the answer. -/
structure Sent (c : Client) (u : Url) (q : Query) (s : Session)
    (out : Except Stop Response × Session) : Prop where
  answer : out.1 = s.world.answerAt u q 0
  next : s.Next u out.2
  requests : out.2.requests = s.requests ++ [⟨.ofList u.text, q.accept, c.authorization u⟩]
  requestsMade : out.2.requestsMade = s.requestsMade + 1
  sleeps : out.2.sleeps = s.sleeps

/-- What is allowed is sent: it is counted, put to the address and answered from the script. -/
theorem sent_of_allowed (hu : c.base.bind (q.address? · repo) = some u) (hs : s.world.Readable u)
    (h : ∀ resetAt, ¬ s.Forbids u 0 resetAt) : Sent c u q s (c.send repo q s) := by
  have hsend : c.send repo q s = c.sendTo u q { s with requestsMade := s.requestsMade + 1 } := by
    simp only [send, exhausted_eq_none (hs.clock 0) h, hu]
  obtain ⟨hmade, hsleeps⟩ := untouched_sendTo c u q { s with requestsMade := s.requestsMade + 1 }
  obtain ⟨hworld, hknown⟩ := next_sendTo (s := { s with requestsMade := s.requestsMade + 1 }) hs c q
  rw [hsend]
  exact ⟨answer_sendTo (s := { s with requestsMade := s.requestsMade + 1 }) hs c q,
    ⟨hworld, hknown⟩, requests_sendTo c u q _, hmade, hsleeps⟩

/-! ## All attempts -/

/-- The attempts of a query up to their end. -/
structure Run (c : Client) (u : Url) (q : Query) (s : Session) (retries index sent slept : Nat)
    (out : Except Stop Response × Session) : Prop where
  requests : out.2.requests =
    s.requests ++ List.replicate sent ⟨.ofList u.text, q.accept, c.authorization u⟩
  requestsMade : out.2.requestsMade = s.requestsMade + sent
  sleeps : out.2.sleeps =
    s.sleeps ++ (List.range slept).map fun k => c.backoff.scale (index + k)
  /-- Each delay has a number. -/
  delays : index + slept ≤ 1024
  fleeting : ∀ k < slept, (s.world.outcomeIn u k).Fleeting
  allowed : ∀ k < sent, ∀ resetAt, ¬ s.Forbids u k resetAt
  ends : Ends u q s retries index sent slept out.1

/-- No attempt is made. -/
theorem Run.none {retries index : Nat} (hindex : index ≤ 1024) (h : s.Forbids u 0 resetAt) :
    Run c u q s retries index 0 0 (.error (.failed (.rateLimited (some resetAt))), s) where
  requests := by simp
  requestsMade := rfl
  sleeps := by simp
  delays := hindex
  fleeting k hk := absurd hk (Nat.not_lt_zero k)
  allowed k hk := absurd hk (Nat.not_lt_zero k)
  ends := .forbidden (Nat.zero_le retries) h

/-- An attempt is the only one. -/
theorem Run.one {retries index : Nat} {first out : Except Stop Response × Session}
    (hindex : index ≤ 1024) (h : Sent c u q s first) (hallowed : ∀ resetAt, ¬ s.Forbids u 0 resetAt)
    (hsession : out.2 = first.2) (hends : Ends u q s retries index 1 0 out.1) :
    Run c u q s retries index 1 0 out where
  requests := by rw [hsession]; exact h.requests
  requestsMade := by rw [hsession]; exact h.requestsMade
  sleeps := by rw [hsession]; simpa using h.sleeps
  delays := hindex
  fleeting k hk := absurd hk (Nat.not_lt_zero k)
  allowed k hk := by
    obtain rfl := Nat.lt_one_iff.mp hk
    exact hallowed
  ends := hends

/-- An attempt and a delay come before others. -/
theorem Run.cons {retries index sent slept : Nat}
    {first out : Except Stop Response × Session} (h : Sent c u q s first)
    (hallowed : ∀ resetAt, ¬ s.Forbids u 0 resetAt) (hfleeting : (s.world.outcomeIn u 0).Fleeting)
    (hrun : Run c u q (first.2.wait (c.backoff.scale index)) retries (index + 1) sent slept out) :
    Run c u q s (retries + 1) index (sent + 1) (slept + 1) out where
  requests := by
    rw [hrun.requests, Session.requests_wait, h.requests, List.append_assoc, List.replicate_succ,
      List.singleton_append]
  requestsMade := by
    rw [hrun.requestsMade, Session.requestsMade_wait, h.requestsMade, Nat.add_assoc, Nat.add_comm 1]
  sleeps := by
    rw [hrun.sleeps, Session.sleeps_wait, h.sleeps, List.append_assoc, List.range_succ_eq_map,
      List.map_cons, List.map_map, List.singleton_append]
    simp only [Nat.add_zero, Function.comp_def, Nat.succ_eq_add_one, Nat.add_assoc, Nat.add_comm 1]
  delays := by
    have := hrun.delays
    omega
  fleeting k hk := by
    cases k with
    | zero => exact hfleeting
    | succ k => exact h.next.world.outcomeIn k ▸ hrun.fleeting k (by omega)
  allowed k hk resetAt := by
    cases k with
    | zero => exact hallowed resetAt
    | succ k => exact ((h.next.wait _).forbids_iff k).not.mp (hrun.allowed k (by omega) resetAt)
  ends := hrun.ends.next (h.next.wait _)

/-- **The attempts of a query** are repeated after fleeting failures only, each after a delay, up to
one of the ways in which they may end. -/
theorem retry_run (hu : c.base.bind (q.address? · repo) = some u) (retries : Nat) {index : Nat}
    (hindex : index ≤ 1024) (htimeless : s.timer.limit = none) (hs : s.world.Readable u) :
    ∃ sent slept, Run c u q s retries index sent slept (c.retry repo q retries index s) := by
  induction retries generalizing index s with
  | zero =>
      rw [retry_zero]
      by_cases hforbids : ∃ resetAt, s.Forbids u 0 resetAt
      · obtain ⟨resetAt, hforbids⟩ := hforbids
        rw [send_of_forbids hs hforbids]
        exact ⟨0, 0, .none hindex hforbids⟩
      have hallowed := not_exists.mp hforbids
      have hsent := sent_of_allowed (c := c) hu hs hallowed
      refine ⟨1, 0, .one hindex hsent hallowed rfl ?_⟩
      rw [hsent.answer]
      by_cases hfleeting : (s.world.outcomeIn u 0).Fleeting
      · exact .spent hfleeting
      · exact .settled le_rfl hfleeting
  | succ retries ih =>
      by_cases hforbids : ∃ resetAt, s.Forbids u 0 resetAt
      · obtain ⟨resetAt, hforbids⟩ := hforbids
        rw [retry_succ, send_of_forbids hs hforbids]
        exact ⟨0, 0, .none hindex hforbids⟩
      have hallowed := not_exists.mp hforbids
      have hsent := sent_of_allowed (c := c) hu hs hallowed
      have hanswer : isTransient (c.send repo q s).1 = true ↔ (s.world.outcomeIn u 0).Fleeting := by
        rw [hsent.answer]
        exact isTransient_answer_iff _
      rw [retry_succ]
      by_cases hfleeting : (s.world.outcomeIn u 0).Fleeting
      · rw [if_pos (hanswer.mpr hfleeting)]
        by_cases hmany : index < 1024
        · -- The attempts to come see the replies from the next one on.
          have hlimit : (c.send repo q s).2.timer.limit = none := by rw [timer_send, htimeless]
          obtain ⟨sent, slept, hrun⟩ := ih (show index + 1 ≤ 1024 from hmany)
            (s := (c.send repo q s).2.wait (c.backoff.scale index)) hlimit
            (hsent.next.world.readable hs)
          rw [delay?, if_pos hmany]
          simp only [Timer.overrun_of_unlimited hlimit, Bool.false_eq_true, if_false]
          exact ⟨sent + 1, slept + 1, .cons hsent hallowed hfleeting hrun⟩
        · rw [delay?, if_neg hmany]
          exact ⟨1, 0, .one hindex hsent hallowed rfl (.delayless (by omega) (by omega) hfleeting)⟩
      · rw [if_neg (hanswer.not.mpr hfleeting)]
        refine ⟨1, 0, .one hindex hsent hallowed rfl ?_⟩
        rw [hsent.answer]
        exact .settled (Nat.zero_le _) hfleeting

/-- **How often a query is sent, and how long its attempts are apart.** Let repetitions be allowed,
let the first delay be a double, let the query have an address, let what the replies from there tell
of the limit be readable, and let there be any amount of time. Then requests are sent to that
address, one more than there are repetitions at most, and each of them is counted. Every request but
the last follows a fleeting failure and is not forbidden by what is known of the limit, and the
delays are the first one times the powers of two. The query ends with what is made of the first
outcome that is no fleeting failure, or of the last one if all attempts are made; it ends without
another request if that is forbidden after a delay; and it ends with an internal error if a 1025th
attempt is to be repeated. -/
theorem get_retries (hretries : 0 ≤ c.maxRetries)
    (hbackoff : ∀ b, c.backoff = .finite b → Binary64.round b = b)
    (hu : c.base.bind (q.address? · repo) = some u) (hs : s.world.Readable u)
    (htimeless : s.timer.limit = none) :
    ∃ sent slept : Nat, sent ≤ c.maxRetries + 1 ∧ sent ≤ slept + 1 ∧ slept ≤ 1024 ∧
      (∀ k < slept, (s.world.outcomeIn u k).Fleeting) ∧
      (∀ k < sent, ∀ resetAt, ¬ s.Forbids u k resetAt) ∧
      (∀ k, (s.world.outcomeIn u k).Fleeting ↔ ∃ e, s.world.answerAt u q k = .error (.failed e) ∧
        Failure.kindOfRemote e = .remoteUnavailable) ∧
      (c.get repo q s).2.requests =
        s.requests ++ List.replicate sent ⟨.ofList u.text, q.accept, c.authorization u⟩ ∧
      (c.get repo q s).2.requestsMade = s.requestsMade + sent ∧
      (c.get repo q s).2.sleeps = s.sleeps ++ (List.range slept).map c.backoff.timesTwoTo ∧
      Ends u q s c.maxRetries.toNat 0 sent slept (c.get repo q s).1 := by
  obtain ⟨sent, slept, hrun⟩ :=
    retry_run (c := c) hu c.maxRetries.toNat (Nat.zero_le 1024) htimeless hs
  rw [get, if_neg (Int.not_lt.mpr hretries)]
  obtain ⟨hmost, hdelays⟩ := hrun.ends.sent_le
  have hnumbers := hrun.delays
  refine ⟨sent, slept, by omega, hdelays, by omega, hrun.fleeting, hrun.allowed,
    fun k => fleeting_iff_unavailable _, hrun.requests, hrun.requestsMade, ?_, hrun.ends⟩
  rw [hrun.sleeps]
  simp only [Nat.zero_add, Double.scale_eq_timesTwoTo hbackoff]

end Client

end

end SourceAudit.Remote

namespace SourceAudit.Sample

open Number Text Remote Remote.Client Remote.Sample

/-- The headers of a refusal for the limit: no requests are left for an hour. -/
def spentHeaders : Headers :=
  ⟨[("x-ratelimit-remaining", "0"), ("x-ratelimit-reset", "1700003600")]⟩

theorem legibleLimit_spent (now : Rat) : LegibleLimit spentHeaders now where
  count value h := by
    have hvalue : spentHeaders.get? "x-ratelimit-remaining" = some "0" := by decide +kernel
    obtain rfl := Option.some.inj (hvalue.symm.trans h)
    have hzero : isDecimalDigit '0' = true := by decide +kernel
    exact fun _ _ => ⟨by simpa using hzero, by simp [maxDigits]⟩
  reset := by
    have hnumber : numberIn (spentHeaders.get? "x-ratelimit-reset") = some 1700003600 := by
      decide +kernel
    have hyear : Instant.hasYear 1700003600 = true := by decide +kernel
    intro n h _ _
    rwa [← Option.some.inj (hnumber.symm.trans h)]
  delay n h := by
    have hnumber : numberIn (spentHeaders.get? "retry-after") = none := by decide +kernel
    simp [hnumber] at h

/-- A failure of the server with the last request that is left. -/
def lastFailed : Response := ⟨503, spentHeaders, []⟩

/-- The address of the listing, and what becomes of a request to it if there is one reply for
good. -/
theorem exists_address (o : Outcome) :
    ∃ u, client.base.bind (listing.address? · repository) = some u ∧ u.saysHow = true ∧
      ∀ k, (answered [⟨o, none⟩]).world.outcomeIn u k = received u o ∧
        (answered [⟨o, none⟩]).world.clockAt u k = 1700000000 := by
  have htarget : ((client.base.bind (listing.address? · repository)).any fun u =>
      String.ofList u.target = "/repos/o/n/git/trees/main?recursive=1" ∧ u.saysHow) = true := by
    decide +kernel
  obtain ⟨u, hu, htarget⟩ := (Option.any_eq_true _ _).mp htarget
  obtain ⟨htarget, hhow⟩ := of_decide_eq_true htarget
  have hreply : ∀ k,
      (answered [⟨o, none⟩]).world.script.replyAt (.ofList u.target) k = ⟨o, none⟩ := by
    intro k
    rw [htarget, Script.replyAt]
    simp [answered, Session.start, Script.replies]
  refine ⟨u, hu, hhow, fun k => ⟨by rw [World.outcomeIn, hreply], ?_⟩⟩
  induction k with
  | zero => rfl
  | succ k ih => rw [World.clockAt, hreply, ih]; rfl

/-- The first attempt fails with the last request that is left, and the second one is forbidden. -/
theorem get_retries_lastFailed :
    ∃ u, client.base.bind (listing.address? · repository) = some u ∧
      (answered [⟨.response lastFailed, none⟩]).world.Readable u ∧
      let run := get { client with backoff := .finite (1 / 2) } repository listing
        (answered [⟨.response lastFailed, none⟩])
      run.1 = .error (.failed (.rateLimited (some ⟨1700003600000000⟩))) ∧
        run.2.requestsMade = 1 ∧ run.2.sleeps = [.finite (1 / 2)] := by
  obtain ⟨u, hu, hhow, hall⟩ := exists_address (.response lastFailed)
  have hreceived : received u (.response lastFailed) = .response lastFailed := by
    have hplain : lastFailed.plain? = some lastFailed := by decide +kernel
    have hdirect : lastFailed.redirectFault? = none := by decide +kernel
    simp [received, hplain, hdirect, hhow]
  have hs : (answered [⟨.response lastFailed, none⟩]).world.Readable u := by
    refine ⟨fun k => ?_, fun k r hr => ?_⟩
    · rw [(hall k).2]
      exact ⟨⟨1700000000000000⟩, by decide +kernel⟩
    · rw [(hall k).1, hreceived] at hr
      obtain rfl := Outcome.response.inj hr
      exact legibleLimit_spent _
  have htold : lastFailed.told = some (0, some ⟨1700003600000000⟩) := by decide +kernel
  have hone : (answered [⟨.response lastFailed, none⟩]).knownAt u 1 =
      some (0, some ⟨1700003600000000⟩) := by
    simp only [Session.knownAt, (hall 0).1, hreceived, htold, Option.some_or]
  have hforbids : (answered [⟨.response lastFailed, none⟩]).Forbids u 1 ⟨1700003600000000⟩ := by
    refine ⟨hone, ⟨1700000000000000⟩, ?_, by decide⟩
    rw [(hall 1).2]
    decide +kernel
  obtain ⟨sent, slept, -, -, -, -, hallowed, -, -, hmade, hsleeps, hends⟩ :=
    get_retries (c := { client with backoff := .finite (1 / 2) }) (by decide)
      (fun b hb => by obtain rfl := Double.finite.inj hb; decide +kernel) hu hs rfl
  refine ⟨u, hu, hs, ?_⟩
  dsimp only
  rw [hmade, hsleeps]
  have hfew : sent ≤ 1 := by
    by_contra hmany
    exact hallowed 1 (by omega) _ hforbids
  generalize (get { client with backoff := .finite (1 / 2) } repository listing _).1 = out at hends
  cases hends with
  | settled hk h =>
      rw [(hall _).1, hreceived] at h
      exact absurd (by decide : 500 ≤ lastFailed.status) h
  | spent h => simp [client] at hfew
  | @forbidden _ resetAt hk h =>
      rcases Nat.le_one_iff_eq_zero_or_eq_one.mp hfew with rfl | rfl
      · have hnone := h.1
        simp [Session.knownAt, Session.known, answered, Session.start] at hnone
      · obtain rfl : _ = resetAt := by simpa using hone.symm.trans h.1
        exact ⟨rfl, rfl, by decide +kernel⟩
  | delayless hk hindex h =>
      simp only [client] at hk
      omega

/-- **Repetitions may come to an end before they are used up.** Of the 1026 attempts that are
allowed one is not made, although each one before it fails for the time. -/
theorem lastRepetition_missing :
    ∃ u, client.base.bind (listing.address? · repository) = some u ∧
      (∀ k, ((answered [⟨.fault (.timeout "ReadTimeout"), none⟩]).world.outcomeIn u k).Fleeting) ∧
      let run := get { client with maxRetries := 1025 } repository listing
        (answered [⟨.fault (.timeout "ReadTimeout"), none⟩])
      run.2.requestsMade = 1025 ∧
        ¬ ∃ e, run.1 = .error (.failed e) ∧ Failure.kindOfRemote e = .remoteUnavailable := by
  obtain ⟨u, hu, -, hall⟩ := exists_address (.fault (.timeout "ReadTimeout"))
  have houtcome : ∀ k, (answered [⟨.fault (.timeout "ReadTimeout"), none⟩]).world.outcomeIn u k =
      .fault (.timeout "ReadTimeout") := fun k => (hall k).1
  have hs : (answered [⟨.fault (.timeout "ReadTimeout"), none⟩]).world.Readable u := by
    refine ⟨fun k => ?_, fun k r hr => ?_⟩
    · rw [(hall k).2]
      exact ⟨⟨1700000000000000⟩, by decide +kernel⟩
    · simp [houtcome] at hr
  have hknown : ∀ k, (answered [⟨.fault (.timeout "ReadTimeout"), none⟩]).knownAt u k = none := by
    intro k
    induction k with
    | zero => rfl
    | succ k ih => simp only [Session.knownAt, houtcome, ih]
  obtain ⟨sent, slept, hrun⟩ := retry_run (c := { client with maxRetries := 1025 }) hu 1025
    (Nat.zero_le 1024) rfl hs
  have hfleeting : ∀ k,
      ((answered [⟨.fault (.timeout "ReadTimeout"), none⟩]).world.outcomeIn u k).Fleeting := by
    intro k
    rw [houtcome]
    trivial
  refine ⟨u, hu, hfleeting, ?_⟩
  have hget : ∀ s : Session, get { client with maxRetries := 1025 } repository listing s =
      retry { client with maxRetries := 1025 } repository listing 1025 0 s := fun _ => rfl
  dsimp only
  have hdelays := hrun.delays
  have hends := hrun.ends
  rw [hget, hrun.requestsMade]
  generalize (retry { client with maxRetries := 1025 } repository listing 1025 0 _).1 = out at hends
  cases hends with
  | settled hk h => exact absurd (hfleeting _) h
  | spent h => omega
  | forbidden hk h =>
      have hnone := h.1
      simp [hknown] at hnone
  | delayless hk hindex h =>
      obtain rfl : slept = 1024 := by omega
      exact ⟨rfl, by simp [Failure.kindOfRemote]⟩

end SourceAudit.Sample

import SourceAudit.Proofs.Remote.Requests
import SourceAudit.Proofs.Remote.Serving

/-!
# SourceAudit.Proofs.Remote.Calm

Requests in a calm world, where no reply comes too late, moves the clock or tells of a limit, with
any amount of time. A query then changes nothing but the replies to its own target and the time.

* `Reply.Calm` and `Session.Calm` — calm replies, and sessions in which all are calm;
* `Still` — nothing changes from one session to another but the replies to one target, and how much
  time has passed;
* `get_calm` — a query in a calm session comes in time, below the limit, and leaves all else as it
  is.
-/

namespace SourceAudit.Remote

open Number

/-- A reply comes in time, the clock stays, and it tells nothing of a limit of requests. -/
structure Reply.Calm (reply : Reply) : Prop where
  now : reply.now = none
  inTime : reply.outcome ≠ .hang
  silent : ∀ r, reply.outcome = .response r → r.headers.get? "x-ratelimit-remaining" = none
  unlimited : ∀ r plain, reply.outcome = .response r → r.plain? = some plain →
    plain.isRateLimited ≠ some true

/-- All replies are calm. -/
def Script.Calm (s : Script) : Prop := ∀ target, ∀ reply ∈ s.replies target, reply.Calm

/-- All replies to come are calm, nothing is known of a limit of requests, and the time is not
limited. -/
structure Session.Calm (s : Session) : Prop where
  script : s.world.script.Calm
  remaining : s.remaining = none
  timeless : s.timer.limit = none

/-- Nothing changes from one session to another but the replies to a target, of which some are left,
and how much time has passed. -/
structure Still (target : String) (s s' : Session) : Prop where
  now : s'.world.now = s.world.now
  limit : s'.timer.limit = s.timer.limit
  remaining : s'.remaining = s.remaining
  resetAt : s'.resetAt = s.resetAt
  others : ∀ other, other ≠ target → s'.world.script.replies other = s.world.script.replies other
  left : s.world.script.replies target ≠ [] → s'.world.script.replies target ≠ []
  subset : s'.world.script.replies target ⊆ s.world.script.replies target

section

variable {target : String} {s s' s'' : Session} {script : Script}

theorem Still.refl (target : String) (s : Session) : Still target s s :=
  ⟨rfl, rfl, rfl, rfl, fun _ _ => rfl, id, List.Subset.refl _⟩

theorem Still.trans (h : Still target s s') (h' : Still target s' s'') : Still target s s'' where
  now := h'.now.trans h.now
  limit := h'.limit.trans h.limit
  remaining := h'.remaining.trans h.remaining
  resetAt := h'.resetAt.trans h.resetAt
  others other hother := (h'.others other hother).trans (h.others other hother)
  left hsome := h'.left (h.left hsome)
  subset := List.Subset.trans h'.subset h.subset

/-- A delay changes the time only. -/
theorem Still.wait (h : Still target s s') (delay : Double) : Still target s (s'.wait delay) :=
  ⟨h.now, h.limit, h.remaining, h.resetAt, h.others, h.left, h.subset⟩

/-- It changes the time only that another worker goes on. -/
theorem Still.handOver (h : Still target s.handOver s') : Still target s s' :=
  ⟨h.now, h.limit.trans s.timer.limit_handOver, h.remaining, h.resetAt, h.others, h.left, h.subset⟩

/-- A session is no less calm for another worker. -/
theorem Session.Calm.handOver (h : s.Calm) : s.handOver.Calm :=
  ⟨h.script, h.remaining, s.timer.limit_handOver.trans h.timeless⟩

/-- Where nothing happens to it, a calm session stays calm. -/
theorem Still.calm (h : Still target s s') (hs : s.Calm) : s'.Calm := by
  refine ⟨fun other reply hreply => ?_, h.remaining.trans hs.remaining,
    h.limit.trans hs.timeless⟩
  by_cases hother : other = target
  · subst hother
    exact hs.script _ reply (h.subset hreply)
  · rw [h.others other hother] at hreply
    exact hs.script _ reply hreply

/-- A reply without headers is calm unless its status stands for a limit. -/
theorem calm_of_status {status : Nat} {body : List UInt8} (hstatus : status ≠ 403 ∧ status ≠ 429) :
    (⟨.response ⟨status, .empty, body⟩, none⟩ : Reply).Calm where
  now := rfl
  inTime := by simp
  silent r hr := by
    obtain rfl := Outcome.response.inj hr
    rfl
  unlimited r plain hr hplain := by
    obtain rfl := Outcome.response.inj hr
    have hplain := Client.status_of_plain hplain
    simp [Response.isRateLimited, hplain, hstatus]

/-- What is answered to an unknown target is calm. -/
theorem calm_notFound : Reply.notFound.Calm := calm_of_status (by decide)

/-- What holds of every reply in a script holds of the replies to a target. -/
theorem Script.forall_replies {P : Reply → Prop}
    (h : ∀ entry ∈ script.entries, ∀ reply ∈ entry.2, P reply) (target : String) :
    ∀ reply ∈ script.replies target, P reply := by
  intro reply hreply
  rw [replies] at hreply
  cases hentry : script.entries.find? (·.1 = target) with
  | none => simp [hentry] at hreply
  | some entry =>
      rw [hentry] at hreply
      exact h entry (List.mem_of_find?_eq_some hentry) reply hreply

theorem Script.take_subset (rs : List Reply) : (take rs).2 ⊆ rs := by
  match rs with
  | [] => exact List.Subset.refl _
  | [r] => exact List.Subset.refl _
  | r :: r' :: rs => exact List.subset_cons_self r _

/-- Calm scripts answer calmly. -/
theorem Script.Calm.answer (h : script.Calm) (target : String) :
    (script.answer target).1.Calm := by
  rw [answer_eq]
  by_cases hsome : script.replies target = []
  · rw [hsome]
    exact calm_notFound
  · exact h target _ (take_sound hsome).1

end

namespace Client

section

variable {c : Client} {repo : Repository} {q : Query} {u : Url} {s : Session}

/-- An answer that comes in time and below the limit, with all but the replies to a target left as
it is. -/
structure Calmly (target : String) (s : Session) (out : Except Stop Response × Session) : Prop where
  inTime : out.1 ≠ .error .deadline
  unlimited : ∀ resetAt, out.1 ≠ .error (.failed (.rateLimited resetAt))
  still : Still target s out.2

/-- Without the header there is nothing to keep track of. -/
theorem track_calm {r : Response} (h : r.headers.get? "x-ratelimit-remaining" = none)
    (s : Session) : track s r = .ok s := by
  rw [track, h]

/-- A response that is received was sent, if in another coding. -/
theorem received_eq_response {outcome : Outcome} {r : Response}
    (h : received u outcome = .response r) :
    ∃ raw, outcome = .response raw ∧ raw.plain? = some r := by
  cases outcome with
  | response raw =>
      rw [received] at h
      cases hplain : raw.plain? with
      | none => simp [hplain] at h
      | some plain =>
          simp only [hplain] at h
          split at h
          · simp at h
          · split at h
            · simp at h
            · obtain rfl := Outcome.response.inj h
              exact ⟨raw, rfl, hplain⟩
  | fault f => simp [received] at h
  | hang => simp [received] at h

theorem received_eq_hang {outcome : Outcome} (h : received u outcome = .hang) :
    outcome = .hang := by
  cases outcome with
  | response raw => grind [received]
  | fault f => simp [received] at h
  | hang => rfl

/-- Only a response that says so is about the limit. -/
theorem errorOf_ne_rateLimited {r : Response} (h : r.isRateLimited ≠ some true) (now : Rat)
    (resetAt : Option Instant) : errorOf q r now ≠ some (.rateLimited resetAt) := by
  unfold errorOf Response.error?
  grind

theorem still_sent (target : String) (s : Session) (x : Request) :
    Still target s
      { s with
        world := ⟨s.world.now, (s.world.script.answer target).2⟩
        requests := s.requests ++ [x] } where
  now := rfl
  limit := rfl
  remaining := rfl
  resetAt := rfl
  others other hother := by
    simp only [Script.replies_answer, if_neg hother.symm]
  left hsome := by
    simp only [Script.replies_answer, if_pos]
    exact (Script.take_sound hsome).2.1
  subset := by
    simp only [Script.replies_answer, if_pos]
    exact Script.take_subset _

theorem sendTo_calm (c : Client) (u : Url) (q : Query) (hs : s.Calm) :
    Calmly (.ofList u.target) s (c.sendTo u q s) := by
  have hcalm := hs.script.answer (.ofList u.target)
  have hsent := still_sent (.ofList u.target) s
    ⟨.ofList u.text, q.accept, c.authorization u⟩
  unfold sendTo
  simp only [hcalm.now, Option.getD_none]
  split
  · next houtcome => exact absurd (received_eq_hang houtcome) hcalm.inTime
  · exact ⟨by simp, by simp, hsent⟩
  · exact ⟨by simp, by simp, hsent⟩
  · exact ⟨by simp, by simp, hsent⟩
  · next r houtcome =>
    obtain ⟨raw, hraw, hplain⟩ := received_eq_response houtcome
    have hheader := hcalm.silent raw hraw
    rw [← headers_of_plain hplain] at hheader
    rw [track_calm hheader]
    simp only
    split
    · next e herror =>
      refine ⟨by simp, fun resetAt heq => ?_, hsent⟩
      obtain rfl : e = .rateLimited resetAt := by simpa using heq
      exact errorOf_ne_rateLimited (hcalm.unlimited raw r hraw hplain) _ resetAt herror
    · exact ⟨by simp, by simp, hsent⟩

/-- What is made of a response that arrives in a calm session. -/
theorem sendTo_of_response {r : Response} (hs : s.Calm)
    (h : received u (s.world.script.answer (.ofList u.target)).1.outcome = .response r) :
    (c.sendTo u q s).1 =
      match errorOf q r s.world.now with
      | some e => .error (.failed e)
      | none => .ok r := by
  have hcalm := hs.script.answer (.ofList u.target)
  obtain ⟨raw, hraw, hplain⟩ := received_eq_response h
  have hheader := hcalm.silent raw hraw
  rw [← headers_of_plain hplain] at hheader
  unfold sendTo
  simp only [h, track_calm hheader, hcalm.now, Option.getD_none]
  split <;> simp only [*]

/-- In a calm session no limit is exhausted. -/
theorem exhausted_calm (hs : s.Calm) : exhausted s = .ok none := by
  rw [exhausted, hs.remaining]

/-- In a calm session an attempt is made, if there is an address for it. -/
theorem send_of_address (hs : s.Calm) (hu : c.base.bind (q.address? · repo) = some u) :
    c.send repo q s = c.sendTo u q { s with requestsMade := s.requestsMade + 1 } := by
  rw [send, exhausted_calm hs]
  simp only [hu]

/-- A request leaves a calm session calm, and the replies to other targets as they are. -/
theorem send_calm (hs : s.Calm) (hu : c.base.bind (q.address? · repo) = some u) :
    Calmly (.ofList u.target) s (c.send repo q s) := by
  rw [send_of_address hs hu]
  obtain ⟨hinTime, hunlimited, hstill⟩ := sendTo_calm c u q
    (s := { s with requestsMade := s.requestsMade + 1 }) ⟨hs.script, hs.remaining, hs.timeless⟩
  exact ⟨hinTime, hunlimited, hstill.now, hstill.limit, hstill.remaining, hstill.resetAt,
    hstill.others, hstill.left, hstill.subset⟩

/-- **So do all attempts at a query.** -/
theorem retry_calm (hu : c.base.bind (q.address? · repo) = some u) (retries index : Nat)
    (hs : s.Calm) : Calmly (.ofList u.target) s (c.retry repo q retries index s) := by
  induction retries generalizing index s with
  | zero =>
      rw [retry_zero]
      exact send_calm hs hu
  | succ retries ih =>
      have hsend := send_calm hs hu
      rw [retry_succ]
      split
      · split
        · exact ⟨by simp, by simp, hsend.still⟩
        · next delay _ =>
          have hslept := hsend.still.wait delay
          have hlimit := hsend.still.limit.trans hs.timeless
          rw [if_neg (by simp [Timer.overrun_of_unlimited hlimit])]
          obtain ⟨hinTime, hunlimited, hstill⟩ := ih (index + 1) (hslept.calm hs)
          exact ⟨hinTime, hunlimited, hslept.trans hstill⟩
      · exact hsend

/-- **A query in a calm session** comes in time and below the limit, and it changes nothing but the
replies to its own target. -/
theorem get_calm (hu : c.base.bind (q.address? · repo) = some u) (hs : s.Calm) :
    Calmly (.ofList u.target) s (c.get repo q s) := by
  unfold get
  split
  · exact ⟨by simp, by simp, .refl _ s⟩
  · exact retry_calm hu _ _ hs

/-- Calm sessions stay calm. -/
theorem calm_get (q : Query) (hs : s.Calm) : (c.get repo q s).2.Calm := by
  cases hu : c.base.bind (q.address? · repo) with
  | some u => exact (get_calm hu hs).still.calm hs
  | none =>
      obtain ⟨cause, s', hget, halike⟩ := get_of_unsendable (q := q)
        (Or.inr (Or.inr ⟨exhausted_calm hs, hu⟩))
      rw [hget]
      refine ⟨?_, halike.remaining.trans hs.remaining, halike.limit.trans hs.timeless⟩
      rw [halike.world]
      exact hs.script

end

end Client

end SourceAudit.Remote

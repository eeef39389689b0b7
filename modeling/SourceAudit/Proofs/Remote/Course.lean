import SourceAudit.Proofs.Remote.Attempts

/-!
# SourceAudit.Proofs.Remote.Course

The course of a session, attempt by attempt, and the limit of requests in it. A client knows of the
limit what the last response that counted the requests left has said, and it finds itself at the
limit if that forbids an attempt, or if the response to one says so.

* `Course` — the attempts that lead from one session to another;
* `requests_of_course` and `known_of_course` — what is sent in them, and what is known after them;
* `spared_of_told` — nothing is sent while no requests are known to be left;
* `get_of_atLimit` — an attempt at the limit is the last one of its query, which fails for that;
* `course_of_get` and `course_to_attempt` — queries as parts of a course.
-/

namespace SourceAudit.Remote

open Number

/-! ## Worlds -/

/-- The headers that tell of the limit of requests are absent, or they can be read at a moment. -/
structure LegibleLimit (h : Headers) (now : Rat) : Prop where
  count : ∀ value, h.get? "x-ratelimit-remaining" = some value → LegibleCount value
  reset : LegibleReset (h.get? "x-ratelimit-reset")
  delay : LegibleDelay (h.get? "retry-after") now

namespace World

/-- The clock of a world shows a number of seconds at its start, or after some reply. -/
def Shows (w : World) (now : Rat) : Prop :=
  now = w.now ∨ ∃ target, ∃ reply ∈ w.script.replies target, reply.now = some now

/-- The headers of all replies of a world can be read, whatever its clock shows. -/
def WellFormed (w : World) : Prop :=
  ∀ target, ∀ reply ∈ w.script.replies target, ∀ raw, reply.outcome = .response raw →
    ∀ now, w.Shows now → LegibleLimit raw.headers now

end World

/-- A session takes place in a world: its clock shows what that of the world shows, and its replies
to come are among those of the world. -/
structure Session.Within (s : Session) (w : World) : Prop where
  script : s.world.script.Within w.script
  clock : w.Shows s.world.now

/-- What a session knows of the limit: how many requests are left, and when their number is
renewed. -/
def Session.known (s : Session) : Option (Nat × Option Instant) := s.remaining.map (·, s.resetAt)

/-- What a response tells of the limit, if it counts the requests left. -/
def Response.told (r : Response) : Option (Nat × Option Instant) :=
  match r.headers.get? "x-ratelimit-remaining" with
  | none => none
  | some value =>
    if value ≠ "" ∧ value.toList.all Text.isAnyDigit = true then
      match readInt? value, epochHeader (r.headers.get? "x-ratelimit-reset") with
      | some n, .ok resetAt => some (n.toNat, resetAt)
      | _, _ => none
    else none

/-- An answer is anything but that the limit is reached. -/
def Unlimited {α : Type} (out : Except Stop α) : Prop :=
  ∀ resetAt, out ≠ .error (.failed (.rateLimited resetAt))

/-! ## Attempts -/

/-- An attempt: a query, and the session in which it is made. -/
structure Attempt where
  query : Query
  session : Session

namespace Client

/-- The address of the request that is sent in an attempt, if one is. -/
def addressOf (c : Client) (repo : Repository) (a : Attempt) : Option Url :=
  if exhausted a.session = .ok none then c.base.bind (a.query.address? · repo) else none

/-- The request that is sent in an attempt. -/
def requestOf (c : Client) (repo : Repository) (a : Attempt) : Option Request :=
  (c.addressOf repo a).map fun u => ⟨.ofList u.text, a.query.accept, c.authorization u⟩

/-- The response that is delivered in an attempt. -/
def delivered (c : Client) (repo : Repository) (a : Attempt) : Option Response :=
  (c.addressOf repo a).bind fun u =>
    match received u (outcomeAt u a.session) with
    | .response r => some r
    | _ => none

/-- An attempt is made at the limit of requests: the limit is known to be reached, or the response
says so. -/
def AtLimit (c : Client) (repo : Repository) (a : Attempt) : Prop :=
  Held a.session ∨ ∃ r, c.delivered repo a = some r ∧ r.isRateLimited = some true

/-- What the last of the responses that count the requests left has told. -/
def toldIn (c : Client) (repo : Repository) (as : List Attempt) : Option (Nat × Option Instant) :=
  (as.filterMap fun a => (c.delivered repo a).bind Response.told).getLast?

/-- The attempts that lead from one session to another. Between them there may be delays, and one
worker or another may make them. -/
inductive Course (c : Client) (repo : Repository) (s : Session) : List Attempt → Session → Prop
  | start : Course c repo s [] s
  | attempt {as : List Attempt} {s' : Session} (q : Query) (h : Course c repo s as s') :
      Course c repo s (as ++ [⟨q, s'⟩]) (c.send repo q s').2
  | pause {as : List Attempt} {s' : Session} (sleeps : List Double) (timer : Timer)
      (h : Course c repo s as s') : Course c repo s as { s' with sleeps := sleeps, timer := timer }

section

variable {c : Client} {repo : Repository} {q : Query} {u : Url} {s s' s'' m : Session} {w : World}
  {as bs : List Attempt} {r : Response} {now : Rat}

/-! ## One attempt -/

/-- An attempt in which no request is sent changes nothing. -/
theorem send_of_unaddressed (h : c.addressOf repo ⟨q, s⟩ = none) :
    Session.Alike s (c.send repo q s).2 := by
  unfold addressOf at h
  unfold send
  cases hlimit : exhausted s with
  | error e => exact .refl s
  | ok reset =>
      cases reset with
      | some resetAt => exact .refl s
      | none =>
          simp only [hlimit, if_true] at h
          simp only [h]
          exact ⟨rfl, rfl, rfl, rfl, rfl⟩

/-- An attempt in which a request is sent. -/
theorem send_of_addressed (h : c.addressOf repo ⟨q, s⟩ = some u) :
    c.send repo q s = c.sendTo u q { s with requestsMade := s.requestsMade + 1 } := by
  unfold addressOf at h
  split at h
  · next hlimit =>
    unfold send
    simp only [hlimit, h]
  · simp at h

theorem requests_send (c : Client) (repo : Repository) (q : Query) (s : Session) :
    (c.send repo q s).2.requests = s.requests ++ (c.requestOf repo ⟨q, s⟩).toList := by
  unfold requestOf
  cases hu : c.addressOf repo ⟨q, s⟩ with
  | none => simpa using (send_of_unaddressed hu).requests
  | some u =>
      rw [send_of_addressed hu, requests_sendTo]
      rfl

/-- An attempt moves the clock to its answer and uses up one reply of its target. -/
theorem world_sendTo (c : Client) (u : Url) (q : Query) (s : Session) :
    (c.sendTo u q s).2.world = ⟨answeredAt u s, (s.world.script.answer (.ofList u.target)).2⟩ := by
  unfold sendTo answeredAt
  dsimp only
  split
  · rfl
  · rfl
  · rfl
  · rfl
  · split
    · rfl
    · next htrack =>
      have hworld := world_of_track htrack
      split <;> exact hworld

/-- The reply to a request is one that the session has for it, or that there is nothing there. -/
theorem answer_mem (script : Script) (target : String) :
    (script.answer target).1 ∈ script.replies target ∨ (script.answer target).1 = .notFound := by
  rw [Script.answer_eq]
  by_cases hsome : script.replies target = []
  · exact Or.inr (by rw [hsome]; rfl)
  · exact Or.inl (Script.take_sound hsome).1

theorem shows_answeredAt (h : s.Within w) (u : Url) : w.Shows (answeredAt u s) := by
  unfold answeredAt
  cases hnow : (s.world.script.answer (.ofList u.target)).1.now with
  | none => exact h.clock
  | some now =>
      rcases answer_mem s.world.script (.ofList u.target) with hmem | hmissing
      · exact Or.inr ⟨_, _, h.script _ hmem, hnow⟩
      · rw [hmissing] at hnow
        simp [Reply.notFound] at hnow

/-- **An attempt stays within its world.** -/
theorem within_send (h : s.Within w) (c : Client) (repo : Repository) (q : Query) :
    (c.send repo q s).2.Within w := by
  cases hu : c.addressOf repo ⟨q, s⟩ with
  | none =>
      have hworld := (send_of_unaddressed hu).world
      exact ⟨hworld ▸ h.script, hworld ▸ h.clock⟩
  | some u =>
      rw [send_of_addressed hu]
      refine ⟨?_, ?_⟩ <;> rw [world_sendTo]
      · exact (Script.within_answer _ _).trans h.script
      · exact shows_answeredAt (s := { s with requestsMade := s.requestsMade + 1 })
          ⟨h.script, h.clock⟩ u

/-! ## What a response tells -/

theorem legibleLimit_empty (now : Rat) : LegibleLimit .empty now where
  count value h := by simp [Headers.get?, Headers.values, Headers.empty] at h
  reset n h := by simp [numberIn, Headers.get?, Headers.values, Headers.empty] at h
  delay n h := by simp [numberIn, Headers.get?, Headers.values, Headers.empty] at h

/-- In a well-formed world the headers of every response that is received can be read. -/
theorem legibleLimit_of_received (hw : w.WellFormed) (h : s.Within w) (hnow : w.Shows now)
    (hr : received u (outcomeAt u s) = .response r) : LegibleLimit r.headers now := by
  obtain ⟨raw, hraw, hplain⟩ := received_eq_response hr
  rw [headers_of_plain hplain]
  unfold outcomeAt at hraw
  rcases answer_mem s.world.script (.ofList u.target) with hmem | hmissing
  · exact hw _ _ (h.script _ hmem) raw hraw now hnow
  · rw [hmissing] at hraw
    obtain rfl := Outcome.response.inj hraw
    exact legibleLimit_empty now

theorem exists_track (h : LegibleLimit r.headers now) (s : Session) : ∃ s', track s r = .ok s' :=
  track_ok_iff.mpr ⟨h.count, fun _ => h.reset⟩

/-- What a session knows after a response is what that tells, or else what was known before. -/
theorem known_of_track (h : track s r = .ok s') : s'.known = r.told.or s.known := by
  unfold track at h
  unfold Response.told
  cases hvalue : r.headers.get? "x-ratelimit-remaining" with
  | none =>
      simp only [hvalue] at h
      obtain rfl := Except.ok.inj h
      rfl
  | some value =>
      simp only [hvalue] at h
      by_cases hcounts : value ≠ "" ∧ value.toList.all Text.isAnyDigit = true
      · rw [if_neg (by simpa using hcounts)] at h
        simp only [if_pos hcounts]
        split at h
        · simp at h
        · next n hn =>
          split at h
          · simp at h
          · next resetAt hreset =>
            obtain rfl := Except.ok.inj h
            simp only [hn, hreset]
            rfl
      · rw [if_pos (by simpa [Classical.or_iff_not_imp_left] using hcounts)] at h
        obtain rfl := Except.ok.inj h
        simp only [if_neg hcounts]
        rfl

/-- After an attempt the client knows what the response tells of the limit, or else what it knew. -/
theorem known_sendTo (h : ∀ r, received u (outcomeAt u s) = .response r →
      LegibleLimit r.headers (answeredAt u s)) (c : Client) (q : Query) :
    (c.sendTo u q s).2.known =
      match received u (outcomeAt u s) with
      | .response r => r.told.or s.known
      | _ => s.known := by
  cases hreceived : received u (outcomeAt u s) with
  | hang =>
      unfold outcomeAt at hreceived
      simp only [sendTo, hreceived]
      rfl
  | fault f =>
      unfold outcomeAt at hreceived
      cases f <;> simp only [sendTo, hreceived] <;> rfl
  | response r =>
      obtain ⟨s', htrack⟩ := exists_track (h r hreceived) (c.atAnswer u q s)
      have hknown := known_of_track htrack
      rw [sendTo_of_track hreceived htrack]
      exact hknown

/-- **What is known after an attempt** in a well-formed world is what its response tells, or else
what was known before. -/
theorem known_send (hw : w.WellFormed) (h : s.Within w) (c : Client) (repo : Repository)
    (q : Query) : (c.send repo q s).2.known =
      ((c.delivered repo ⟨q, s⟩).bind Response.told).or s.known := by
  unfold delivered
  cases hu : c.addressOf repo ⟨q, s⟩ with
  | none =>
      have halike := send_of_unaddressed hu
      simp [Session.known, halike.remaining, halike.resetAt]
  | some u =>
      have hlegible : ∀ r, received u (outcomeAt u s) = .response r →
          LegibleLimit r.headers (answeredAt u s) :=
        fun r hr => legibleLimit_of_received hw h (shows_answeredAt h u) hr
      rw [send_of_addressed hu, known_sendTo (s := { s with requestsMade := s.requestsMade + 1 })
        hlegible]
      simp only [Option.bind_some]
      change (match received u (outcomeAt u s) with
        | .response r => r.told.or s.known
        | _ => s.known) = _
      cases received u (outcomeAt u s) <;> rfl

/-! ## The limit -/

/-- A refusal for the limit is no answer to any query. -/
theorem errorOf_of_isRateLimited (hlimit : r.isRateLimited = some true)
    (h : LegibleLimit r.headers now) : ∃ resetAt, errorOf q r now = some (.rateLimited resetAt) := by
  have hstatus : ¬ (r.status ≠ 403 ∧ r.status ≠ 429) := fun hother => by
    simp [isRateLimited_of_status hother] at hlimit
  have hrefused : accepts q r.status = false := by
    have hconflict : r.status ≠ 409 := by omega
    cases q <;> simp [accepts, hconflict]
  have herror : ¬ r.status < 400 := by omega
  obtain ⟨resetAt, hreset⟩ := limitReset_ok_iff.mpr ⟨h.delay, fun _ => h.reset⟩
  exact ⟨resetAt, by simp [errorOf, hrefused, Response.error?, herror, hlimit, hreset]⟩

/-- An attempt that is answered with the rate limit fails with it. -/
theorem sendTo_of_isRateLimited (hr : received u (outcomeAt u s) = .response r)
    (hlimit : r.isRateLimited = some true) (h : LegibleLimit r.headers (answeredAt u s)) :
    ∃ resetAt, (c.sendTo u q s).1 = .error (.failed (.rateLimited resetAt)) := by
  obtain ⟨resetAt, herror⟩ := errorOf_of_isRateLimited (q := q) hlimit h
  obtain ⟨s', htrack⟩ := exists_track h (c.atAnswer u q s)
  rw [sendTo_of_track hr htrack, herror]
  exact ⟨resetAt, rfl⟩

/-- **An attempt at the limit fails for that.** -/
theorem send_of_atLimit (hw : w.WellFormed) (h : s.Within w) (hlimit : c.AtLimit repo ⟨q, s⟩) :
    ∃ resetAt, (c.send repo q s).1 = .error (.failed (.rateLimited resetAt)) := by
  rcases hlimit with ⟨resetAt, hheld⟩ | ⟨r, hr, hlimit⟩
  · exact ⟨some resetAt, by unfold send; simp only [hheld]⟩
  · obtain ⟨u, hu, hr⟩ := Option.bind_eq_some_iff.mp hr
    rw [send_of_addressed hu]
    split at hr
    · next r' hreceived =>
      obtain rfl := Option.some.inj hr
      exact sendTo_of_isRateLimited (s := { s with requestsMade := s.requestsMade + 1 }) hreceived
        hlimit (legibleLimit_of_received hw h (shows_answeredAt h u) hreceived)
    · simp at hr

/-! ## Courses -/

/-- One course after the other is a course. -/
theorem Course.trans (h : Course c repo s as s') (h' : Course c repo s' bs s'') :
    Course c repo s (as ++ bs) s'' := by
  induction h' with
  | start => simpa using h
  | attempt q _ ih =>
      rw [← List.append_assoc]
      exact ih.attempt q
  | pause sleeps timer _ ih => exact ih.pause sleeps timer

/-- What is attempted in a course is led to by the first attempts of it. -/
theorem Course.exists_to (h : Course c repo s as s') {a : Attempt} (ha : a ∈ as) :
    ∃ before, Course c repo s before a.session := by
  induction h with
  | start => simp at ha
  | attempt q hbefore ih =>
      rcases List.mem_append.mp ha with ha | ha
      · exact ih ha
      · obtain rfl := List.mem_singleton.mp ha
        exact ⟨_, hbefore⟩
  | pause _ _ _ ih => exact ih ha

/-- **What is sent in the course of a session.** -/
theorem requests_of_course (h : Course c repo s as s') :
    s'.requests = s.requests ++ as.filterMap (c.requestOf repo) := by
  induction h with
  | start => simp
  | @attempt as s' q _ ih =>
      rw [requests_send, ih, List.filterMap_append, List.append_assoc]
      cases hrequest : c.requestOf repo ⟨q, s'⟩ <;> simp [hrequest]
  | pause _ _ _ ih => exact ih

theorem within_start (w : World) : (Session.start w).Within w := ⟨.refl _, Or.inl rfl⟩

/-- A course stays within its world. -/
theorem within_of_course (h : Course c repo s as s') (hs : s.Within w) : s'.Within w := by
  induction h with
  | start => exact hs
  | attempt q _ ih => exact within_send ih c repo q
  | pause _ _ _ ih => exact ⟨ih.script, ih.clock⟩

/-- **What is known in the course of a session** from the start of a well-formed world is what the
last of the responses that count the requests left has told. -/
theorem known_of_course (hw : w.WellFormed) (h : Course c repo (.start w) as s') :
    s'.known = c.toldIn repo as := by
  induction h with
  | start => rfl
  | @attempt as s' q hbefore ih =>
      rw [known_send hw (within_of_course hbefore (within_start w)), ih]
      unfold toldIn
      rw [List.filterMap_append]
      cases htold : (c.delivered repo ⟨q, s'⟩).bind Response.told <;> simp [htold]
  | pause _ _ _ ih => exact ih

/-- **Nothing is sent while no requests are known to be left.** -/
theorem spared_of_told {x : Request} {t : Instant} (hw : w.WellFormed)
    (h : Course c repo (.start w) as s) (htold : c.toldIn repo as = some (0, some t))
    (hx : c.requestOf repo ⟨q, s⟩ = some x) :
    ∃ now, Instant.ofEpoch s.world.now = .ok now ∧ t.micros ≤ now.micros := by
  obtain ⟨u, hu, -⟩ := Option.map_eq_some_iff.mp hx
  have hfree : exhausted s = .ok none := by
    by_contra hlimit
    simp [addressOf, hlimit] at hu
  have hknown := (known_of_course hw h).trans htold
  obtain ⟨n, hn, hpair⟩ := Option.map_eq_some_iff.mp hknown
  obtain ⟨rfl, hreset⟩ := Prod.mk.inj hpair
  unfold exhausted at hfree
  simp only [hn, hreset] at hfree
  cases hnow : Instant.ofEpoch s.world.now with
  | error e => simp [hnow] at hfree
  | ok now =>
      refine ⟨now, rfl, Int.not_lt.mp fun hlt => ?_⟩
      simp [hnow, hlt] at hfree

/-! ## Queries -/

/-- **The attempts of a query are a course**, one step each. -/
theorem course_of_retry (c : Client) (repo : Repository) (q : Query) (retries index : Nat)
    (s : Session) : Course c repo s ((c.attempts repo q retries index s).map (⟨q, ·⟩))
      (c.retry repo q retries index s).2 := by
  induction retries generalizing index s with
  | zero =>
      rw [retry_zero]
      exact .attempt q .start
  | succ retries ih =>
      have hfirst : Course c repo s [⟨q, s⟩] (c.send repo q s).2 := .attempt q .start
      rw [retry_succ, attempts]
      cases htransient : isTransient (c.send repo q s).1 with
      | false => exact hfirst
      | true =>
          cases hdelay : c.delay? index with
          | none => exact hfirst
          | some delay =>
              have hnext := hfirst.pause ((c.send repo q s).2.sleeps ++ [delay])
                ((c.send repo q s).2.timer.wait delay)
              simp only [if_true]
              split
              · exact hnext
              · exact hnext.trans (ih _ _)

/-- **The attempts of a query are its course.** -/
theorem course_of_get (c : Client) (repo : Repository) (q : Query) (s : Session) :
    Course c repo s ((c.attemptsOf repo q s).map (⟨q, ·⟩)) (c.get repo q s).2 := by
  unfold attemptsOf get
  split
  · exact .start
  · exact course_of_retry c repo q _ _ s

/-- The attempts before one of a query fail for transient causes, and one that does not is the
last. -/
theorem attempts_before (retries index : Nat) (hm : m ∈ c.attempts repo q retries index s) :
    (∃ before, Course c repo s before m ∧ ∀ a ∈ before, a.query = q ∧
        a.session ∈ c.attempts repo q retries index s ∧
        isTransient (c.send repo q a.session).1 = true) ∧
      (isTransient (c.send repo q m).1 = false →
        c.retry repo q retries index s = c.send repo q m) := by
  induction retries generalizing index s with
  | zero =>
      obtain rfl := List.mem_singleton.mp hm
      exact ⟨⟨[], .start, by simp⟩, fun _ => retry_zero c repo q m index⟩
  | succ retries ih =>
      rw [attempts] at hm ⊢
      rcases List.mem_cons.mp hm with rfl | hm
      · refine ⟨⟨[], .start, by simp⟩, fun hlast => ?_⟩
        rw [retry_succ, hlast]
        rfl
      · split at hm
        · next htransient =>
          split at hm
          · simp at hm
          · next delay hdelay =>
            split at hm
            · simp at hm
            · next hintime =>
              obtain ⟨⟨before, hcourse, hbefore⟩, hlast⟩ := ih _ hm
              refine ⟨⟨⟨q, s⟩ :: before, ?_, ?_⟩, ?_⟩
              · exact (Course.pause _ _ (.attempt q .start)).trans hcourse
              · refine List.forall_mem_cons.mpr ⟨⟨rfl, List.mem_cons_self, htransient⟩, ?_⟩
                intro a ha
                obtain ⟨hq, hmem, hfails⟩ := hbefore a ha
                simp only [htransient, if_true, if_neg hintime]
                exact ⟨hq, List.mem_cons_of_mem _ hmem, hfails⟩
              · rw [retry_succ, if_pos htransient, hdelay]
                simp only [if_neg hintime]
                exact hlast
        · simp at hm

/-- **The course to an attempt of a query** is made of other attempts of it, none of them at the
limit. -/
theorem course_to_attempt (hw : w.WellFormed) (hs : s.Within w) (hm : m ∈ c.attemptsOf repo q s) :
    ∃ before, Course c repo s before m ∧ ∀ a ∈ before, a.query = q ∧
      a.session ∈ c.attemptsOf repo q s ∧ ¬ c.AtLimit repo a := by
  unfold attemptsOf at hm ⊢
  split at hm
  · simp at hm
  · next hretries =>
    rw [if_neg hretries]
    -- An attempt that is repeated fails for a transient cause, and the limit is none.
    obtain ⟨before, hcourse, hbefore⟩ := (attempts_before _ _ hm).1
    refine ⟨before, hcourse, fun a ha => ?_⟩
    obtain ⟨rfl, hmem, htransient⟩ := hbefore a ha
    refine ⟨rfl, hmem, fun hlimit => ?_⟩
    obtain ⟨as, hto⟩ := hcourse.exists_to ha
    obtain ⟨resetAt, hsend⟩ := send_of_atLimit hw (within_of_course hto hs) hlimit
    rw [hsend] at htransient
    simp [isTransient, Error.isTransient] at htransient

/-- **An attempt at the limit is the last one of its query**, which fails for that. -/
theorem get_of_atLimit (hw : w.WellFormed) (hs : s.Within w) (hm : m ∈ c.attemptsOf repo q s)
    (hlimit : c.AtLimit repo ⟨q, m⟩) :
    ∃ resetAt, c.get repo q s = (.error (.failed (.rateLimited resetAt)), (c.send repo q m).2) := by
  obtain ⟨before, hcourse, -⟩ := course_to_attempt hw hs hm
  obtain ⟨resetAt, hsend⟩ := send_of_atLimit hw (within_of_course hcourse hs) hlimit
  refine ⟨resetAt, ?_⟩
  unfold attemptsOf at hm
  unfold get
  split at hm
  · simp at hm
  · next hretries =>
    rw [if_neg hretries, (attempts_before _ _ hm).2 (by rw [hsend]; rfl)]
    exact Prod.ext hsend rfl

end

end Client

end SourceAudit.Remote

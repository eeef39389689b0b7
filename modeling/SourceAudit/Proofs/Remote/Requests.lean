import SourceAudit.Remote.Client

/-!
# SourceAudit.Proofs.Remote.Requests

The operations of a client and the requests that it sends. A query is one attempt after the other,
and each operation reads the response to one query. A request of a session tells by the form of
answer that it wants whether it asks for the body of a file, and each operation sends requests of
one form only, however often it repeats them.

* `retry_zero` and `retry_succ` — what follows an attempt hangs on its answer alone;
* `defaultBranch_eq`, `tree_eq` and `file_eq` — an operation as a query with a reading;
* `get_sends`, `tree_sends`, `defaultBranch_sends` and `file_sends` — the requests sent by an
  operation all want answers of its form;
* `get_of_unsendable`, `get_of_held` and `get_asks` — when an operation comes to its end
  without a request, and when it sends one;
* `defaultBranch_of_private` — the lookup of a private repository fails.
-/

namespace SourceAudit.Remote

/-- Does an answer say that the same request may succeed a little later? -/
def isTransient {α : Type} : Except Stop α → Bool
  | .error (.failed e) => e.isTransient
  | _ => false

namespace Response

/-- The default branch in the description of a repository, unless that is private. -/
def branch (r : Response) : Except Stop Json :=
  match r.json? with
  | some (.obj members) =>
    if (Json.lookup members "private").any Json.isTruthy then .error (.failed .privateRepository)
    else .ok (((Json.lookup members "default_branch").filter Json.isTruthy).getD (.str "main"))
  | _ => .error (.failed (.unusable .body))

/-- The listing in a response; there is none of an empty repository. -/
def listing (r : Response) : Except Stop (Option Json) :=
  if r.status = 409 then .ok none
  else
    match r.json? with
    | some j => .ok (some j)
    | none => .error (.failed (.unusable .body))

end Response

namespace Client

variable (c : Client) (repo : Repository) (q : Query) (s : Session)

/-! ## Attempts -/

/-- The last attempt is not repeated. -/
theorem retry_zero (index : Nat) : c.retry repo q 0 index s = c.send repo q s := by
  rw [retry]
  rcases c.send repo q s with ⟨out, s⟩
  cases out with
  | ok r => rfl
  | error stop =>
      cases stop with
      | deadline => rfl
      | failed e => cases htransient : e.isTransient <;> simp [htransient]

/-- What follows an attempt that is not the last one. -/
theorem retry_succ (retries index : Nat) :
    c.retry repo q (retries + 1) index s =
      if isTransient (c.send repo q s).1 then
        match c.delay? index with
        | none => (.error (.failed (.unusable .request)), (c.send repo q s).2)
        | some delay =>
          if (c.send repo q s).2.timer.overrun delay then
            (.error .deadline, (c.send repo q s).2.wait delay)
          else c.retry repo q retries (index + 1) ((c.send repo q s).2.wait delay)
      else c.send repo q s := by
  rw [retry]
  rcases c.send repo q s with ⟨out, s⟩
  cases out with
  | ok r => rfl
  | error stop =>
      cases stop with
      | deadline => rfl
      | failed e =>
          have hout : isTransient (.error (.failed e) : Except Stop Response) = e.isTransient := rfl
          cases htransient : e.isTransient with
          | false => simp [hout, htransient]
          | true => cases c.delay? index <;> simp [hout, htransient]

/-- What an attempt and a delay keep, repeated attempts keep. -/
theorem retry_keeps {c : Client} {repo : Repository} {q : Query} {P : Session → Prop}
    (hsend : ∀ s, P s → P (c.send repo q s).2) (hwait : ∀ s delay, P s → P (s.wait delay))
    (retries index : Nat) {s : Session} (hs : P s) : P (c.retry repo q retries index s).2 := by
  induction retries generalizing index s with
  | zero =>
      rw [retry_zero]
      exact hsend s hs
  | succ retries ih =>
      have hfirst := hsend s hs
      rw [retry_succ]
      split
      · split
        · exact hfirst
        · next delay _ =>
          split
          · exact hwait _ delay hfirst
          · exact ih _ (hwait _ delay hfirst)
      · exact hfirst

/-! ## Readings -/

/-- To ask for the default branch is to look up the repository and to read the answer. -/
theorem defaultBranch_eq : c.defaultBranch repo s =
    ((c.get repo .lookup s).1.bind Response.branch, (c.get repo .lookup s).2) := by
  unfold defaultBranch getJson
  rcases c.get repo .lookup s with ⟨stop | r, s⟩
  · rfl
  · cases hjson : r.json? with
    | none => simp [hjson, Except.bind, Response.branch]
    | some j =>
        cases j <;> simp only [hjson, Except.bind, Response.branch]
        split <;> rfl

/-- To ask for a tree is to get it and to read the listing in it. -/
theorem tree_eq (version : String) (recursive : Bool) :
    c.tree repo (.str version) recursive s =
      ((c.get repo (.tree version recursive) s).1.bind Response.listing,
        (c.get repo (.tree version recursive) s).2) := by
  rw [tree]
  rcases c.get repo (.tree version recursive) s with ⟨stop | r, s⟩
  · rfl
  · simp only [Except.bind, Response.listing]
    split
    · rfl
    · cases r.json? <;> rfl

/-- The body of the answer is that of the file. -/
theorem file_eq (path : String) (ref : Option String) :
    c.file repo path ref s =
      ((c.get repo (.file path ref) s).1.map Response.body,
        (c.get repo (.file path ref) s).2) := by
  rw [file]
  rcases c.get repo (.file path ref) s with ⟨stop | r, s⟩ <;> rfl

end Client

open Number

namespace Session

/-- From one session to another, only requests for answers of one form are sent. -/
def Sends (accept : String) (s s' : Session) : Prop :=
  ∃ sent, s'.requests = s.requests ++ sent ∧ ∀ x ∈ sent, x.accept = accept

/-- No body of a file is asked for in the session. -/
def NoFile (s : Session) : Prop := ∀ x ∈ s.requests, x.accept ≠ (Query.file "" none).accept

/-- Two sessions that know the same of the world, in which the same requests are sent and for which
there is the same amount of time. -/
structure Alike (s s' : Session) : Prop where
  world : s'.world = s.world
  requests : s'.requests = s.requests
  remaining : s'.remaining = s.remaining
  resetAt : s'.resetAt = s.resetAt
  limit : s'.timer.limit = s.timer.limit

section

variable {accept : String} {s s' s'' : Session}

theorem Sends.of_eq (h : s'.requests = s.requests) : Sends accept s s' :=
  ⟨[], by rw [h, List.append_nil], by simp⟩

theorem Sends.refl (s : Session) : Sends accept s s := .of_eq rfl

theorem Sends.trans (h : Sends accept s s') (h' : Sends accept s' s'') : Sends accept s s'' := by
  obtain ⟨sent, hsent, hform⟩ := h
  obtain ⟨sent', hsent', hform'⟩ := h'
  refine ⟨sent ++ sent', by rw [hsent', hsent, List.append_assoc], fun x hx => ?_⟩
  exact (List.mem_append.mp hx).elim (hform x) (hform' x)

/-- Requests that have been sent stay so. -/
theorem Sends.isPrefix (h : Sends accept s s') : s.requests <+: s'.requests := by
  obtain ⟨sent, hsent, _⟩ := h
  exact ⟨sent, hsent.symm⟩

theorem Alike.sends (h : Alike s s') : Sends accept s s' := .of_eq h.requests

/-- What is sent once remains sent. -/
theorem Sends.mem (h : Sends accept s s') {x : Request} (hx : x ∈ s.requests) :
    x ∈ s'.requests := by
  obtain ⟨sent, hsent, _⟩ := h
  rw [hsent]
  exact List.mem_append_left _ hx

/-- If no file is asked for in between, none has been asked for. -/
theorem Sends.noFile (h : Sends accept s s') (haccept : accept ≠ (Query.file "" none).accept)
    (hs : s.NoFile) : s'.NoFile := by
  obtain ⟨sent, hsent, hform⟩ := h
  intro x hx
  rw [hsent] at hx
  rcases List.mem_append.mp hx with hx | hx
  · exact hs x hx
  · rw [hform x hx]
    exact haccept

theorem Sends.noFile_before (h : Sends accept s s') (hs : s'.NoFile) : s.NoFile :=
  fun x hx => hs x (h.mem hx)

theorem noFile_start (world : World) : (start world).NoFile := by
  intro x hx
  simp [start] at hx

theorem Alike.refl (s : Session) : Alike s s := ⟨rfl, rfl, rfl, rfl, rfl⟩

/-- Another worker goes on in a session like the one before. -/
theorem alike_handOver (s : Session) : Alike s s.handOver :=
  ⟨rfl, rfl, rfl, rfl, s.timer.limit_handOver⟩

/-- A late worker leaves a session like the one before. -/
theorem alike_lose (s : Session) : Alike s s.lose := ⟨rfl, rfl, rfl, rfl, s.timer.limit_lose⟩

/-- A number of workers goes on in a session like the one before. -/
theorem alike_recruit (s : Session) (workers : Nat) : Alike s (s.recruit workers) :=
  ⟨rfl, rfl, rfl, rfl, rfl⟩

theorem Alike.trans (h : Alike s s') (h' : Alike s' s'') : Alike s s'' :=
  ⟨h'.world.trans h.world, h'.requests.trans h.requests, h'.remaining.trans h.remaining,
    h'.resetAt.trans h.resetAt, h'.limit.trans h.limit⟩

theorem Alike.noFile (h : Alike s s') : s'.NoFile ↔ s.NoFile := by
  rw [NoFile, NoFile, h.requests]

end

end Session

open Session

namespace Client

section

variable {c : Client} {repo : Repository} {q : Query} {s s' : Session}

theorem exhausted_congr (h : Alike s s') : exhausted s' = exhausted s := by
  rw [exhausted, exhausted, h.world, h.remaining, h.resetAt]

/-- A session begins with no limit that is known. -/
theorem exhausted_start (world : World) : exhausted (.start world) = .ok none := rfl

/-- To keep track of the limit takes no request. -/
theorem requests_of_track {r : Response} (h : track s r = .ok s') : s'.requests = s.requests := by
  unfold track at h
  split at h
  · rw [← Except.ok.inj h]
  · split at h
    · rw [← Except.ok.inj h]
    · split at h
      · simp at h
      · split at h
        · simp at h
        · rw [← Except.ok.inj h]

/-- It takes no time either. -/
theorem timer_of_track {r : Response} (h : track s r = .ok s') : s'.timer = s.timer := by
  unfold track at h
  split at h
  · rw [← Except.ok.inj h]
  · split at h
    · rw [← Except.ok.inj h]
    · split at h
      · simp at h
      · split at h
        · simp at h
        · rw [← Except.ok.inj h]

/-! ## What is sent -/

/-- One attempt is one request, with the address and the token that it is sent with. -/
theorem requests_sendTo (c : Client) (u : Url) (q : Query) (s : Session) :
    (c.sendTo u q s).2.requests =
      s.requests ++ [⟨.ofList u.text, q.accept, c.authorization u⟩] := by
  unfold sendTo
  simp only
  split
  · rfl
  · rfl
  · rfl
  · rfl
  · split
    · rfl
    · next htrack =>
      have hreq := requests_of_track htrack
      split <;> exact hreq

theorem sendTo_sends (c : Client) (u : Url) (q : Query) (s : Session) :
    Sends q.accept s (c.sendTo u q s).2 :=
  ⟨_, requests_sendTo c u q s, by simp⟩

/-- A request takes no time. -/
theorem timer_sendTo (c : Client) (u : Url) (q : Query) (s : Session) :
    (c.sendTo u q s).2.timer = s.timer := by
  unfold sendTo
  simp only
  split
  · rfl
  · rfl
  · rfl
  · rfl
  · split
    · rfl
    · next htrack =>
      have htimer := timer_of_track htrack
      split <;> exact htimer

/-- An attempt takes no time. -/
theorem timer_send (c : Client) (repo : Repository) (q : Query) (s : Session) :
    (c.send repo q s).2.timer = s.timer := by
  unfold send
  split
  · rfl
  · rfl
  · simp only
    split
    · rfl
    · exact timer_sendTo _ _ _ _

theorem send_sends (c : Client) (repo : Repository) (q : Query) (s : Session) :
    Sends q.accept s (c.send repo q s).2 := by
  unfold send
  split
  · exact .refl s
  · exact .refl s
  · simp only
    split
    · exact .of_eq rfl
    · next u _ => exact (Sends.of_eq rfl).trans (c.sendTo_sends u q _)

/-- Whatever is repeated, the requests of the first attempt stand. -/
theorem retry_sends_after (c : Client) (repo : Repository) (q : Query) (retries index : Nat)
    (s : Session) : Sends q.accept (c.send repo q s).2 (c.retry repo q retries index s).2 := by
  induction retries generalizing index s with
  | zero =>
      unfold retry
      split
      · next hsend =>
        rw [hsend]
        split <;> exact .refl _
      · exact .refl _
  | succ retries ih =>
      unfold retry
      split
      · next hsend =>
        rw [hsend]
        split
        · simp only
          split
          · exact .refl _
          · split
            · exact .of_eq rfl
            · refine Sends.trans ?_ ((c.send_sends repo q _).trans (ih _ _))
              exact .of_eq rfl
        · exact .refl _
      · exact .refl _

/-- A query only makes the worker at work wait. -/
theorem timer_get (c : Client) (repo : Repository) (q : Query) (s : Session) :
    ∃ elapsed, (c.get repo q s).2.timer = { s.timer with elapsed := elapsed } := by
  unfold get
  split
  · exact ⟨_, rfl⟩
  · refine retry_keeps (P := fun s' => ∃ elapsed, s'.timer = { s.timer with elapsed := elapsed })
      (fun s' h => ?_) (fun s' delay ⟨elapsed, h⟩ => ?_) _ _ ⟨_, rfl⟩
    · rw [timer_send]
      exact h
    · exact ⟨_, congrArg (·.wait delay) h⟩

/-- All attempts for a query are requests for it. -/
theorem get_sends (c : Client) (repo : Repository) (q : Query) (s : Session) :
    Sends q.accept s (c.get repo q s).2 := by
  unfold get
  split
  · exact .refl s
  · exact (c.send_sends repo q s).trans (c.retry_sends_after repo q _ _ s)

theorem getJson_sends (c : Client) (repo : Repository) (q : Query) (s : Session) :
    Sends q.accept s (c.getJson repo q s).2 := by
  have hget := c.get_sends repo q s
  unfold getJson
  split
  · next hout =>
    rw [hout] at hget
    exact hget
  · next hout =>
    rw [hout] at hget
    split <;> exact hget

theorem defaultBranch_sends (c : Client) (repo : Repository) (s : Session) :
    Sends Query.lookup.accept s (c.defaultBranch repo s).2 := by
  have hget := c.getJson_sends repo .lookup s
  unfold defaultBranch
  split
  · next hout =>
    rw [hout] at hget
    exact hget
  · next hout =>
    rw [hout] at hget
    split <;> exact hget
  · next hout =>
    rw [hout] at hget
    exact hget

/-- A tree is asked for like a repository, and unlike a file. -/
theorem tree_sends (c : Client) (repo : Repository) (version : Json) (recursive : Bool)
    (s : Session) : Sends Query.lookup.accept s (c.tree repo version recursive s).2 := by
  unfold tree
  split
  · next version =>
    have hget := c.get_sends repo (.tree version recursive) s
    split
    · next hout =>
      rw [hout] at hget
      exact hget
    · next hout =>
      rw [hout] at hget
      split
      · exact hget
      · split <;> exact hget
  · exact .refl s

/-- What is done with the answer changes nothing in the session. -/
theorem session_file (c : Client) (repo : Repository) (path : String) (ref : Option String)
    (s : Session) : (c.file repo path ref s).2 = (c.get repo (.file path ref) s).2 := by
  unfold file
  split
  · next hout => rw [hout]
  · next hout => rw [hout]

theorem file_sends (c : Client) (repo : Repository) (path : String) (ref : Option String)
    (s : Session) : Sends (Query.file "" none).accept s (c.file repo path ref s).2 := by
  rw [session_file]
  exact c.get_sends repo (.file path ref) s

/-! ## Whether something is sent -/

/-- A request cannot be made: no attempt is allowed, what is known of the limit is not usable, or
there is no address. -/
def Unsendable (c : Client) (repo : Repository) (q : Query) (s : Session) : Prop :=
  c.maxRetries < 0 ∨ (∃ e, exhausted s = .error e) ∨
    (exhausted s = .ok none ∧ c.base.bind (q.address? · repo) = none)

/-- The limit of requests is known to be reached. -/
def Held (s : Session) : Prop := ∃ resetAt, exhausted s = .ok (some resetAt)

/-- An attempt that fails for good is the only one. -/
theorem retry_of_send {e : Error} (retries index : Nat)
    (hsend : c.send repo q s = (.error (.failed e), s')) (he : e.isTransient = false) :
    c.retry repo q retries index s = (.error (.failed e), s') := by
  unfold retry
  rw [hsend]
  simp only
  rw [he]
  rfl

/-- A query that cannot be sent leaves all as it is. -/
theorem get_of_unsendable (h : Unsendable c repo q s) :
    ∃ cause s', c.get repo q s = (.error (.failed (.unusable cause)), s') ∧ Alike s s' := by
  unfold get
  by_cases hretries : c.maxRetries < 0
  · rw [if_pos hretries]
    exact ⟨.request, s, rfl, .refl s⟩
  rw [if_neg hretries]
  rcases h with hlt | ⟨e, he⟩ | ⟨hnone, haddress⟩
  · exact absurd hlt hretries
  · have hsend : c.send repo q s = (.error (.failed (.unusable e)), s) := by
      rw [send, he]
    exact ⟨e, s, retry_of_send _ _ hsend rfl, .refl s⟩
  · have hsend : c.send repo q s = (.error (.failed (.unusable .request)),
        { s with requestsMade := s.requestsMade + 1 }) := by
      rw [send, hnone]
      simp only
      rw [haddress]
    exact ⟨.request, _, retry_of_send _ _ hsend rfl, ⟨rfl, rfl, rfl, rfl, rfl⟩⟩

/-- While the limit is known to be exhausted, nothing is sent. -/
theorem get_of_held (hretries : ¬ c.maxRetries < 0) (h : Held s) :
    ∃ resetAt, c.get repo q s = (.error (.failed (.rateLimited resetAt)), s) := by
  obtain ⟨resetAt, hreset⟩ := h
  have hsend : c.send repo q s = (.error (.failed (.rateLimited (some resetAt))), s) := by
    rw [send, hreset]
  rw [get, if_neg hretries]
  exact ⟨_, retry_of_send _ _ hsend rfl⟩

/-- Otherwise there is a request. -/
theorem get_asks (h : ¬ Unsendable c repo q s) (hheld : ¬ Held s) :
    ∃ x ∈ (c.get repo q s).2.requests, x.accept = q.accept := by
  simp only [Unsendable, not_or] at h
  obtain ⟨hretries, herror, haddress⟩ := h
  have hnone : exhausted s = .ok none := by
    cases hout : exhausted s with
    | error e => exact absurd ⟨e, hout⟩ herror
    | ok reset =>
        cases reset with
        | none => rfl
        | some resetAt => exact absurd ⟨resetAt, hout⟩ hheld
  cases hu : c.base.bind (q.address? · repo) with
  | none => exact absurd ⟨hnone, hu⟩ haddress
  | some u =>
      refine ⟨⟨.ofList u.text, q.accept, c.authorization u⟩, ?_, rfl⟩
      rw [get, if_neg hretries]
      refine (c.retry_sends_after repo q _ _ s).mem ?_
      unfold send
      rw [hnone]
      simp only
      rw [hu]
      simp only
      rw [requests_sendTo]
      exact List.mem_append_right _ (List.mem_singleton_self _)

/-! ## Private repositories -/

/-- Does a response describe a private repository? -/
def saysPrivate (r : Response) : Bool :=
  r.status = 200 &&
    match r.plain?.bind Response.json? with
    | some (.obj members) => (Json.lookup members "private").any Json.isTruthy
    | _ => false

/-- In a world, the lookup of a repository is answered by saying that it is private. -/
def IsPrivate (c : Client) (repo : Repository) (world : World) : Prop :=
  ∀ u, c.base.bind (Query.lookup.address? · repo) = some u →
    ∃ r, (world.script.answer (.ofList u.target)).1.outcome = .response r ∧ saysPrivate r = true

/-- An answer that says that a repository is private is an object in which this is so. -/
theorem exists_members_of_saysPrivate {r : Response} (h : saysPrivate r = true) :
    r.status = 200 ∧ ∃ plain members, r.plain? = some plain ∧ plain.json? = some (.obj members) ∧
      (Json.lookup members "private").any Json.isTruthy = true := by
  unfold saysPrivate at h
  rw [Bool.and_eq_true, decide_eq_true_eq] at h
  refine ⟨h.1, ?_⟩
  cases hplain : r.plain? with
  | none => simp [hplain] at h
  | some plain =>
      rw [hplain, Option.bind_some] at h
      split at h
      · next members hjson => exact ⟨plain, members, rfl, hjson, h.2⟩
      · simp at h

/-- To undo its coding does not change the status of a response. -/
theorem status_of_plain {r plain : Response} (h : r.plain? = some plain) :
    plain.status = r.status := by
  obtain ⟨body, _, rfl⟩ := Option.map_eq_some_iff.mp h
  rfl

/-- A success has arrived as soon as its body is decoded, unless its address makes no sense. -/
theorem received_of_success {u : Url} {r plain : Response} (hplain : r.plain? = some plain)
    (hstatus : r.status = 200) :
    received u (.response r) = .response plain ∨
      received u (.response r) = .fault .undecodable := by
  have hredirect : plain.redirectFault? = none := by
    rw [Response.redirectFault?, Response.location?, status_of_plain hplain, hstatus]
    rfl
  unfold received
  simp only [hplain]
  split
  · exact Or.inr rfl
  · rw [hredirect]
    exact Or.inl rfl

/-- The first attempt at a lookup brings the description, or cannot be used. -/
theorem send_of_private (hfree : exhausted s = .ok none) (h : IsPrivate c repo s.world) :
    (∃ cause s', c.send repo .lookup s = (.error (.failed (.unusable cause)), s')) ∨
      ∃ plain s' members, c.send repo .lookup s = (.ok plain, s') ∧
        plain.json? = some (.obj members) ∧
        (Json.lookup members "private").any Json.isTruthy = true := by
  unfold send
  rw [hfree]
  simp only
  cases hu : c.base.bind (Query.lookup.address? · repo) with
  | none => exact Or.inl ⟨_, _, rfl⟩
  | some u =>
      obtain ⟨r, houtcome, hr⟩ := h u hu
      obtain ⟨hr, plain, members, hplain, hjson, hprivate⟩ := exists_members_of_saysPrivate hr
      have hstatus : plain.status = 200 := (status_of_plain hplain).trans hr
      have herror : ∀ now, errorOf .lookup plain now = none := by
        intro now
        simp [errorOf, accepts, Response.error?, hstatus]
      simp only
      unfold sendTo
      simp only [houtcome]
      rcases received_of_success hplain hr with hrec | hrec
      · rw [hrec]
        simp only
        split
        · exact Or.inl ⟨_, _, rfl⟩
        · rw [herror]
          exact Or.inr ⟨plain, _, members, rfl, hjson, hprivate⟩
      · rw [hrec]
        exact Or.inl ⟨_, _, rfl⟩

/-- **A lookup refuses a private repository**, or fails on the way. -/
theorem defaultBranch_of_private (hfree : exhausted s = .ok none) (h : IsPrivate c repo s.world) :
    ∃ e s', c.defaultBranch repo s = (.error (.failed e), s') := by
  unfold defaultBranch getJson get
  by_cases hretries : c.maxRetries < 0
  · rw [if_pos hretries]
    exact ⟨_, _, rfl⟩
  rw [if_neg hretries]
  rcases send_of_private hfree h with
    ⟨cause, s', hsend⟩ | ⟨plain, s', members, hsend, hjson, hprivate⟩
  · rw [retry_of_send _ _ hsend rfl]
    exact ⟨_, _, rfl⟩
  · have hretry : c.retry repo .lookup c.maxRetries.toNat 0 s = (.ok plain, s') := by
      unfold retry
      rw [hsend]
    rw [hretry]
    simp only
    rw [hjson]
    simp only
    rw [if_pos hprivate]
    exact ⟨_, _, rfl⟩

end

end Client

end SourceAudit.Remote

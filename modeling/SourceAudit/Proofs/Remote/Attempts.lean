import SourceAudit.Failure
import SourceAudit.Proofs.Remote.Legible

/-!
# SourceAudit.Proofs.Remote.Attempts

The attempts of a query, and how it comes to an end. A query is settled if it brings a response, or
fails with an error that has a kind of its own; any other failure is an internal error.

* `attempts` — the sessions in which a query is sent, one after the other;
* `send_settled_iff` — an attempt is settled exactly if the response that it is delivered, if any,
  is usable;
* `get_settled_iff` — a query is settled exactly if all its attempts are, unless it comes to a delay
  that has no number.
-/

namespace SourceAudit.Remote

open Number Client

/-- An answer is a response, or an error of one of the kinds that callers are told of. -/
def Settled {α : Type} : Except Stop α → Prop
  | .ok _ => True
  | .error .deadline => False
  | .error (.failed e) =>
    Failure.kindOfRemote e ∈
      [FailureKind.accessError, FailureKind.remoteRateLimited, FailureKind.remoteUnavailable]

theorem settled_failed_iff {α : Type} {e : Error} :
    Settled (.error (.failed e) : Except Stop α) ↔ ∀ cause, e ≠ .unusable cause := by
  cases e <;> simp [Settled, Failure.kindOfRemote]

/-- An attempt whose failure is transient is settled. -/
theorem settled_of_isTransient {α : Type} {out : Except Stop α} (h : isTransient out = true) :
    Settled out := by
  cases out with
  | ok r => trivial
  | error stop =>
      cases stop with
      | deadline => simp [isTransient] at h
      | failed e =>
          refine settled_failed_iff.mpr fun cause he => ?_
          simp [isTransient, he, Error.isTransient] at h

namespace Client

/-- The sessions in which the attempts of a query are made, of which there are `retries` more than
the first at most. -/
def attempts (c : Client) (repo : Repository) (q : Query) :
    (retries index : Nat) → Session → List Session
  | 0, _, s => [s]
  | retries + 1, index, s =>
    s ::
      if isTransient (c.send repo q s).1 then
        match c.delay? index with
        | none => []
        | some delay =>
          if (c.send repo q s).2.timer.overrun delay then []
          else c.attempts repo q retries (index + 1) ((c.send repo q s).2.wait delay)
      else []

/-- The sessions in which a query is sent. -/
def attemptsOf (c : Client) (repo : Repository) (q : Query) (s : Session) : List Session :=
  if c.maxRetries < 0 then [] else c.attempts repo q c.maxRetries.toNat 0 s

/-- What becomes of a request to an address. -/
def outcomeAt (u : Url) (s : Session) : Outcome :=
  (s.world.script.answer (.ofList u.target)).1.outcome

/-- What the clock shows when a request to an address is answered. -/
def answeredAt (u : Url) (s : Session) : Rat :=
  (s.world.script.answer (.ofList u.target)).1.now.getD s.world.now

/-- The session when the answer to a request to an address arrives. -/
def atAnswer (c : Client) (u : Url) (q : Query) (s : Session) : Session :=
  { s with
    world := ⟨answeredAt u s, (s.world.script.answer (.ofList u.target)).2⟩
    requests := s.requests ++ [⟨.ofList u.text, q.accept, c.authorization u⟩] }

/-- A response is usable when it is delivered: something can be made of it, and it is legible. -/
def Usable (u : Url) (now : Rat) (raw : Response) : Prop :=
  received u (.response raw) ≠ .fault .undecodable ∧
    ∀ r, received u (.response raw) = .response r → Legible r now

/-- An attempt meets with the service: the clock is in the calendar, and if a request is sent, a
response is delivered or the transport fails in a known way. -/
structure Meets (u : Url) (s : Session) : Prop where
  clock : ∃ t, Instant.ofEpoch s.world.now = .ok t
  outcome : exhausted s = .ok none → outcomeAt u s ≠ .hang ∧ outcomeAt u s ≠ .fault .undecodable

instance (u : Url) (s : Session) : Decidable (Meets u s) :=
  decidable_of_iff ((Instant.ofEpoch s.world.now).isOk = true ∧
      (exhausted s = .ok none → outcomeAt u s ≠ .hang ∧ outcomeAt u s ≠ .fault .undecodable)) <| by
    have hclock : (Instant.ofEpoch s.world.now).isOk = true ↔
        ∃ t, Instant.ofEpoch s.world.now = .ok t := by
      cases Instant.ofEpoch s.world.now <;> simp [Except.isOk, Except.toBool]
    rw [hclock]
    exact ⟨fun h => ⟨h.1, h.2⟩, fun h => ⟨h.clock, h.outcome⟩⟩

/-- Every response that is delivered to an attempt is usable. -/
def Clear (u : Url) (s : Session) : Prop :=
  exhausted s = .ok none → ∀ raw, outcomeAt u s = .response raw → Usable u (answeredAt u s) raw

section

variable {c : Client} {repo : Repository} {q : Query} {u : Url} {s : Session}

/-! ## One attempt -/

theorem received_response (u : Url) (raw : Response) :
    received u (.response raw) = .fault .undecodable ∨
      (∃ r, received u (.response raw) = .response r) ∨
      ∃ f, received u (.response raw) = .fault f ∧ f ≠ .undecodable := by
  cases hreceived : received u (.response raw) with
  | hang =>
      have hhang := received_eq_hang hreceived
      simp at hhang
  | response r => exact Or.inr (Or.inl ⟨r, rfl⟩)
  | fault f =>
      by_cases hf : f = .undecodable
      · exact Or.inl (by rw [hf])
      · exact Or.inr (Or.inr ⟨f, rfl, hf⟩)

/-- A request that is answered by a response of which note is taken. -/
theorem sendTo_of_track {r : Response} {s' : Session}
    (hr : received u (outcomeAt u s) = .response r)
    (htrack : track (c.atAnswer u q s) r = .ok s') : c.sendTo u q s =
      (match errorOf q r (answeredAt u s) with
        | some e => .error (.failed e)
        | none => .ok r, s') := by
  unfold outcomeAt at hr
  unfold atAnswer answeredAt at htrack
  unfold sendTo answeredAt
  simp only [hr, htrack]
  cases errorOf q r _ <;> rfl

/-- A request that is answered by a response is settled exactly if that is legible. -/
theorem sendTo_settled_of_response {r : Response}
    (h : received u (outcomeAt u s) = .response r) :
    Settled (c.sendTo u q s).1 ↔ Legible r (answeredAt u s) := by
  rw [legible_iff (q := q) (s := c.atAnswer u q s)]
  cases htrack : track (c.atAnswer u q s) r with
  | error e =>
      unfold outcomeAt at h
      unfold atAnswer answeredAt at htrack
      unfold sendTo
      simp [h, htrack, settled_failed_iff]
  | ok s' =>
      rw [sendTo_of_track h htrack]
      simp only [Except.ok.injEq, exists_eq', true_and]
      cases errorOf q r _ with
      | none => simp [Settled]
      | some e => simp [settled_failed_iff]

/-- A request that ends in a fault is settled exactly if that is a known one. -/
theorem sendTo_settled_of_fault {f : Fault} (h : received u (outcomeAt u s) = .fault f) :
    Settled (c.sendTo u q s).1 ↔ f ≠ .undecodable := by
  unfold outcomeAt at h
  unfold sendTo
  simp only [h]
  cases f <;> simp [settled_failed_iff]

theorem sendTo_settled_iff
    (h : outcomeAt u s ≠ .hang ∧ outcomeAt u s ≠ .fault .undecodable) :
    Settled (c.sendTo u q s).1 ↔
      ∀ raw, outcomeAt u s = .response raw → Usable u (answeredAt u s) raw := by
  obtain ⟨hhang, hfault⟩ := h
  cases houtcome : outcomeAt u s with
  | hang => exact absurd houtcome hhang
  | fault f =>
      have hf : f ≠ .undecodable := fun hf => hfault (by rw [houtcome, hf])
      have hreceived : received u (outcomeAt u s) = .fault f := by
        rw [houtcome]
        rfl
      simp [sendTo_settled_of_fault hreceived, hf]
  | response raw =>
      simp only [Outcome.response.injEq, forall_eq', Usable]
      rcases received_response u raw with hreceived | ⟨r, hreceived⟩ | ⟨f, hreceived, hf⟩
      · rw [sendTo_settled_of_fault (houtcome ▸ hreceived)]
        simp [hreceived]
      · rw [sendTo_settled_of_response (houtcome ▸ hreceived)]
        simp [hreceived]
      · rw [sendTo_settled_of_fault (houtcome ▸ hreceived)]
        simp [hreceived, hf]

/-- **An attempt is settled** exactly if the response that it is delivered, if any, is usable. -/
theorem send_settled_iff (hu : c.base.bind (q.address? · repo) = some u) (h : Meets u s) :
    Settled (c.send repo q s).1 ↔ Clear u s := by
  unfold send Clear
  cases hlimit : exhausted s with
  | error e =>
      obtain ⟨t, ht⟩ := h.clock
      unfold exhausted at hlimit
      simp [ht] at hlimit
      grind
  | ok reset =>
      cases reset with
      | some resetAt => simp [settled_failed_iff]
      | none =>
          have hsent := sendTo_settled_iff (c := c) (q := q)
            (s := { s with requestsMade := s.requestsMade + 1 }) (h.outcome hlimit)
          simp only [hu, true_imp_iff]
          exact hsent

/-! ## All attempts -/

/-- **Attempts are settled** exactly if each response that they are delivered is usable, and there
is a delay after each of them that is not the last. -/
theorem retry_settled_iff (hu : c.base.bind (q.address? · repo) = some u) (retries : Nat)
    {index : Nat} (hindex : index ≤ 1024) (htimeless : s.timer.limit = none)
    (hmeets : ∀ m ∈ c.attempts repo q retries index s, Meets u m) :
    Settled (c.retry repo q retries index s).1 ↔
      (∀ m ∈ c.attempts repo q retries index s, Clear u m) ∧
        ∀ m, (c.attempts repo q retries index s)[1024 - index]? = some m →
          1024 < index + retries → isTransient (c.send repo q m).1 = false := by
  induction retries generalizing index s with
  | zero =>
      have hfirst := send_settled_iff hu (hmeets s List.mem_cons_self)
      have hfew : ¬ 1024 < index + 0 := by omega
      simp only [retry_zero, attempts, List.mem_singleton, forall_eq, hfirst, hfew, false_imp_iff,
        implies_true, and_true]
  | succ retries ih =>
      have hfirst := send_settled_iff hu (hmeets s List.mem_cons_self)
      rw [retry_succ]
      unfold attempts at hmeets ⊢
      cases htransient : isTransient (c.send repo q s).1 with
      | false =>
          have hlast : ∀ m, [s][1024 - index]? = some m → isTransient (c.send repo q m).1 = false := by
            intro m hm
            obtain rfl := List.mem_singleton.mp (List.mem_of_getElem? hm)
            exact htransient
          simp only [Bool.false_eq_true, if_false, List.mem_singleton, forall_eq, hfirst]
          exact ⟨fun h => ⟨h, fun m hm _ => hlast m hm⟩, fun h => h.1⟩
      | true =>
          have hclear : Clear u s := hfirst.mp (settled_of_isTransient htransient)
          simp only [htransient, if_true] at hmeets ⊢
          by_cases hmany : index < 1024
          · have hdelay : c.delay? index = some (c.backoff.scale index) := by
              rw [delay?, if_pos hmany]
            have hlimit : (c.send repo q s).2.timer.limit = none := by rw [timer_send, htimeless]
            have hintime := Timer.overrun_of_unlimited hlimit (c.backoff.scale index)
            simp only [hdelay, hintime, Bool.false_eq_true, if_false] at hmeets ⊢
            rw [ih hmany (s := (c.send repo q s).2.wait _) hlimit
              fun m hm => hmeets m (List.mem_cons_of_mem s hm)]
            have hplace : 1024 - index = (1024 - (index + 1)) + 1 := by omega
            rw [hplace, List.getElem?_cons_succ, List.forall_mem_cons,
              show index + 1 + retries = index + (retries + 1) by omega]
            simp only [hclear, true_and]
          · have hdelay : c.delay? index = none := by
              rw [delay?, if_neg hmany]
            have hplace : 1024 - index = 0 := by omega
            have hover : 1024 < index + (retries + 1) := by omega
            simp only [hdelay, hplace]
            refine iff_of_false (by simp [settled_failed_iff]) fun h => ?_
            have hsettled := h.2 s rfl hover
            simp [htransient] at hsettled

/-- **When a query is settled.** Whatever is known when a query is made, and whatever responses its
attempts are delivered, it brings a response or fails with an error that has a kind of its own,
exactly if each of the responses is usable and the 1025th attempt is not one that is to be repeated:
there is no number for the delay after it. A query itself may take as long as it takes; its time is
limited only where a scan makes it. -/
theorem get_settled_iff (hretries : 0 ≤ c.maxRetries) (htimeless : s.timer.limit = none)
    (hu : c.base.bind (q.address? · repo) = some u)
    (hmeets : ∀ m ∈ c.attemptsOf repo q s, Meets u m) :
    Settled (c.get repo q s).1 ↔
      (∀ m ∈ c.attemptsOf repo q s, Clear u m) ∧
        ∀ m, (c.attemptsOf repo q s)[1024]? = some m → 1024 < c.maxRetries →
          isTransient (c.send repo q m).1 = false := by
  have hsome : ¬ c.maxRetries < 0 := Int.not_lt.mpr hretries
  rw [attemptsOf, if_neg hsome] at hmeets ⊢
  rw [get, if_neg hsome, retry_settled_iff hu _ (Nat.zero_le _) htimeless hmeets]
  have hmany : 1024 < 0 + c.maxRetries.toNat ↔ 1024 < c.maxRetries := by omega
  simp only [hmany, Nat.sub_zero]

end

end Client

namespace Sample

/-- A client of the service at its usual address. -/
def client : Client := ⟨serviceAddress? "https://api.github.com", none, 2, .finite 0⟩

/-- A repository. -/
def repository : Repository := ⟨"o", "n", some "main"⟩

/-- The query for its listing. -/
def listing : Query := .tree "main" true

/-- A session at the start of a world in which the listing is answered by these replies in turn. -/
def answered (replies : List Reply) : Session :=
  .start ⟨1700000000, ⟨[("/repos/o/n/git/trees/main?recursive=1", replies)]⟩⟩

/-- A failure of the server, and then a response that counts the requests left. -/
def failedOnce : List Reply :=
  [⟨.response ⟨502, .empty, []⟩, none⟩,
    ⟨.response ⟨200, ⟨[("x-ratelimit-remaining", "5"), ("x-ratelimit-reset", "1700003600")]⟩,
      Text.bytesOf "\x7b\x7d"⟩, none⟩]

/-- A refusal for the limit that ends in more than three million years. -/
def limitedForLong : Response := ⟨429, ⟨[("retry-after", "100000000000000")]⟩, []⟩

theorem get_settled_iff_failedOnce : ∃ u, client.base.bind (listing.address? · repository) = some u ∧
    (client.attemptsOf repository listing (answered failedOnce)).length = 2 ∧
    (∀ m ∈ client.attemptsOf repository listing (answered failedOnce), Meets u m) ∧
    (Settled (client.get repository listing (answered failedOnce)).1 ↔
      (∀ m ∈ client.attemptsOf repository listing (answered failedOnce), Clear u m) ∧
        ∀ m, (client.attemptsOf repository listing (answered failedOnce))[1024]? = some m →
          1024 < client.maxRetries → isTransient (client.send repository listing m).1 = false) := by
  have hmeets : ((client.base.bind (listing.address? · repository)).any fun u =>
      (client.attemptsOf repository listing (answered failedOnce)).all fun m => Meets u m) = true := by
    decide +kernel
  obtain ⟨u, hu, hall⟩ := (Option.any_eq_true _ _).mp hmeets
  simp only [List.all_eq_true, decide_eq_true_eq] at hall
  exact ⟨u, hu, by decide +kernel, hall, get_settled_iff (by decide) rfl hu hall⟩

/-- **A header can make a query fail for no reason that callers are told of**: the time to wait that
it names ends beyond the calendar. -/
theorem limitedForLong_unsettled :
    (∃ u, client.base.bind (listing.address? · repository) = some u ∧
      outcomeAt u (answered [⟨.response limitedForLong, none⟩]) = .response limitedForLong) ∧
    ¬ Settled (client.get repository listing (answered [⟨.response limitedForLong, none⟩])).1 := by
  have hdelivered : ((client.base.bind (listing.address? · repository)).any fun u =>
      outcomeAt u (answered [⟨.response limitedForLong, none⟩]) = .response limitedForLong) = true := by
    decide +kernel
  have hfails : (client.get repository listing (answered [⟨.response limitedForLong, none⟩])).1 =
      .error (.failed (.unusable (.reset .outsideCalendar))) := by decide +kernel
  obtain ⟨u, hu, houtcome⟩ := (Option.any_eq_true _ _).mp hdelivered
  refine ⟨⟨u, hu, by simpa using houtcome⟩, ?_⟩
  rw [hfails, settled_failed_iff]
  simp

end Sample

end SourceAudit.Remote

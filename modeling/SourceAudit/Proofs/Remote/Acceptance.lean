import SourceAudit.Proofs.Remote.Calm

/-!
# SourceAudit.Proofs.Remote.Acceptance

Which responses a client accepts. A query is answered by a response among the replies that the world
has for it, whose status stands for success or at least for no error.

* `Succeeds` and `Astray` — statuses of success, and statuses that are neither that nor an error;
* `errorOf_eq_none_iff` — responses of both kinds are accepted, and no others;
* `get_accepts` — the response to a query is a reply to it, and it is of one of both kinds.
-/

namespace SourceAudit.Remote

open Client

/-- The status of a response stands for success. To a query for a listing a conflict says that the
repository is empty. -/
def Succeeds (q : Query) (r : Response) : Prop :=
  (200 ≤ r.status ∧ r.status < 300) ∨ (∃ version recursive, q = .tree version recursive) ∧
    r.status = 409

/-- The status of a response stands neither for success nor for an error: there is more to come, or
the answer is elsewhere. -/
def Astray (r : Response) : Prop := r.status < 200 ∨ 300 ≤ r.status ∧ r.status < 400

/-- No reply of a script leads astray. -/
def Script.Direct (script : Script) : Prop :=
  ∀ target, ∀ reply ∈ script.replies target, ∀ r, reply.outcome = .response r → ¬ Astray r

/-- All that one script has left is among what another has. -/
def Script.Within (script' script : Script) : Prop :=
  ∀ target, script'.replies target ⊆ script.replies target

section

variable {c : Client} {repo : Repository} {q : Query} {r : Response} {u : Url} {s s' : Session}
  {script script' script'' : Script}

/-- The only status of an error that is accepted is that of an empty repository. -/
theorem accepts_iff {status : Nat} : accepts q status = true ↔
    (∃ version recursive, q = .tree version recursive) ∧ status = 409 := by
  cases q <;> simp [accepts]

/-- A response is no error below 400, whatever else is in it. -/
theorem error_eq_none_iff {what : String} {now : Rat} :
    r.error? what now = none ↔ r.status < 400 := by
  unfold Response.error?
  split
  · next hleast => simp [hleast]
  · next hleast =>
    refine iff_of_false ?_ hleast
    grind

/-- **Which responses are accepted**: those of success, and those that lead astray. -/
theorem errorOf_eq_none_iff {now : Rat} : errorOf q r now = none ↔ Succeeds q r ∨ Astray r := by
  unfold errorOf Succeeds Astray
  split
  · next haccepts => exact iff_of_true rfl (Or.inl (Or.inr (accepts_iff.mp haccepts)))
  · next haccepts =>
    rw [error_eq_none_iff, ← accepts_iff]
    simp only [haccepts, or_false, Bool.false_eq_true]
    omega

/-- What is accepted is a success, unless it is astray. -/
theorem not_astray_iff (h : Succeeds q r ∨ Astray r) : Succeeds q r ↔ ¬ Astray r := by
  refine ⟨fun hsuccess hastray => ?_, h.resolve_right⟩
  rcases hsuccess with hsuccess | ⟨-, hconflict⟩ <;> unfold Astray at hastray <;> omega

/-! ## Replies -/

theorem Script.Within.refl (script : Script) : script.Within script :=
  fun _ => List.Subset.refl _

theorem Script.Within.trans (h : script''.Within script') (h' : script'.Within script) :
    script''.Within script :=
  fun target => List.Subset.trans (h target) (h' target)

/-- What is answered is no longer in the script. -/
theorem Script.within_answer (script : Script) (target : String) :
    (script.answer target).2.Within script := by
  intro other
  rw [replies_answer]
  split
  · exact take_subset _
  · exact List.Subset.refl _

namespace Client

/-- A response has arrived for a query: it is what is made of a reply to the request for it. -/
def Arrived (c : Client) (repo : Repository) (script : Script) (q : Query) (r : Response) : Prop :=
  ∃ u reply, c.base.bind (q.address? · repo) = some u ∧
    reply ∈ script.replies (.ofList u.target) ∧ received u reply.outcome = .response r

/-- What arrives in the course of a script arrives in the script. -/
theorem Arrived.within (h : c.Arrived repo script' q r) (hwithin : script'.Within script) :
    c.Arrived repo script q r := by
  obtain ⟨u, reply, hu, hreply, hreceived⟩ := h
  exact ⟨u, reply, hu, hwithin _ hreply, hreceived⟩

/-- Where nothing goes astray in the script, nothing that arrives does. -/
theorem Arrived.direct (h : c.Arrived repo script q r) (hdirect : script.Direct) :
    ¬ Astray r := by
  obtain ⟨u, reply, -, hreply, hreceived⟩ := h
  obtain ⟨raw, hraw, hplain⟩ := received_eq_response hreceived
  rw [Astray, status_of_plain hplain]
  exact hdirect _ reply hreply raw hraw

theorem world_of_track (h : track s r = .ok s') : s'.world = s.world := by
  unfold track at h
  grind

theorem script_sendTo (c : Client) (u : Url) (q : Query) (s : Session) :
    (c.sendTo u q s).2.world.script = (s.world.script.answer (.ofList u.target)).2 := by
  unfold sendTo
  dsimp only
  split
  · rfl
  · rfl
  · rfl
  · rfl
  · split
    · rfl
    · next htrack =>
      have hworld := world_of_track htrack
      split <;> rw [hworld]

theorem send_within (c : Client) (repo : Repository) (q : Query) (s : Session) :
    (c.send repo q s).2.world.script.Within s.world.script := by
  unfold send
  split
  · exact .refl _
  · exact .refl _
  · split
    · exact .refl _
    · rw [script_sendTo]
      exact Script.within_answer _ _

/-! ## Acceptance -/

/-- An attempt that is answered has met with a response that is no error. -/
theorem received_of_sendTo (h : (c.sendTo u q s).1 = .ok r) :
    received u (s.world.script.answer (.ofList u.target)).1.outcome = .response r ∧
      (Succeeds q r ∨ Astray r) := by
  unfold sendTo at h
  dsimp only at h
  split at h
  · simp at h
  · simp at h
  · simp at h
  · simp at h
  · next r' houtcome =>
    split at h
    · simp at h
    · split at h
      · simp at h
      · next hnone =>
        obtain rfl := Except.ok.inj h
        exact ⟨houtcome, errorOf_eq_none_iff.mp hnone⟩

/-- An attempt that is answered has met with a reply: without one the answer would be an error. -/
theorem sendTo_accepts (h : (c.sendTo u q s).1 = .ok r) :
    (∃ reply ∈ s.world.script.replies (.ofList u.target),
      received u reply.outcome = .response r) ∧ (Succeeds q r ∨ Astray r) := by
  obtain ⟨hreceived, haccepted⟩ := received_of_sendTo h
  refine ⟨⟨_, ?_, hreceived⟩, haccepted⟩
  rw [Script.answer_eq] at hreceived ⊢
  refine (Script.take_sound fun hnone => ?_).1
  rw [hnone] at hreceived
  obtain ⟨raw, hraw, hplain⟩ := received_eq_response hreceived
  obtain rfl := Outcome.response.inj hraw
  have hstatus : r.status = 404 := status_of_plain hplain
  rcases haccepted with (hsuccess | ⟨-, hconflict⟩) | hastray
  · omega
  · omega
  · unfold Astray at hastray
    omega

/-- What is sent back has arrived, and it is a success or astray. -/
theorem send_accepts (h : (c.send repo q s).1 = .ok r) :
    c.Arrived repo s.world.script q r ∧ (Succeeds q r ∨ Astray r) := by
  unfold send at h
  split at h
  · simp at h
  · simp at h
  · split at h
    · simp at h
    · next u hu =>
      obtain ⟨⟨reply, hreply, hreceived⟩, haccepted⟩ := sendTo_accepts h
      exact ⟨⟨u, reply, hu, hreply, hreceived⟩, haccepted⟩

theorem retry_within (c : Client) (repo : Repository) (q : Query) (retries index : Nat)
    (s : Session) : (c.retry repo q retries index s).2.world.script.Within s.world.script :=
  retry_keeps (fun s' h => (send_within c repo q s').trans h) (fun _ _ h => h) retries index
    (.refl _)

/-- A query uses up what answers it. -/
theorem get_within (c : Client) (repo : Repository) (q : Query) (s : Session) :
    (c.get repo q s).2.world.script.Within s.world.script := by
  unfold get
  split
  · exact .refl _
  · exact retry_within c repo q _ _ s

/-- This is so of every attempt, and so of the last one. -/
theorem retry_accepts (retries index : Nat) (h : (c.retry repo q retries index s).1 = .ok r) :
    c.Arrived repo s.world.script q r ∧ (Succeeds q r ∨ Astray r) := by
  induction retries generalizing index s with
  | zero =>
      rw [retry_zero] at h
      exact send_accepts h
  | succ retries ih =>
      rw [retry_succ] at h
      split at h
      · split at h
        · simp at h
        · split at h
          · simp at h
          · obtain ⟨harrived, haccepted⟩ := ih _ h
            exact ⟨harrived.within (send_within c repo q s), haccepted⟩
      · exact send_accepts h

/-- **The response to a query is a reply to it**, and its status stands for success or leads
astray. -/
theorem get_accepts (h : (c.get repo q s).1 = .ok r) :
    c.Arrived repo s.world.script q r ∧ (Succeeds q r ∨ Astray r) := by
  unfold get at h
  split at h
  · simp at h
  · exact retry_accepts _ _ h

end Client

end

end SourceAudit.Remote

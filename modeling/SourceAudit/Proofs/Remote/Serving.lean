import Mathlib.Data.List.Basic
import SourceAudit.Proofs.Remote.Requests

/-!
# SourceAudit.Proofs.Remote.Serving

Listings that are served for good. A script may hold several replies to a request; if each of them
brings a listing of some kind and does not come to the limit of requests, then so does every request
for it, whatever else is asked for before.

* `answer_eq` and `replies_answer` — the reply to a request, and what it leaves of the replies;
* `Client.Serves` — all replies to a request for a listing bring one of some kind, and
  `Serves.after` — they still do after other requests;
* `tree_of_serves` — a listing that is served is received with a single request.
-/

namespace SourceAudit.Remote

open Number

namespace Script

/-- The replies to a target that are still to be given. -/
def replies (s : Script) (target : String) : List Reply :=
  ((s.entries.find? (·.1 = target)).map (·.2)).getD []

theorem replies_cons (name : String) (rs : List Reply) (entries : List (String × List Reply))
    (target : String) : (⟨(name, rs) :: entries⟩ : Script).replies target =
      if name = target then rs else (⟨entries⟩ : Script).replies target := by
  by_cases h : name = target <;> simp [replies, h]

theorem answer_eq (s : Script) (target : String) :
    (s.answer target).1 = (take (s.replies target)).1 := by
  obtain ⟨entries⟩ := s
  induction entries with
  | nil => rfl
  | cons entry entries ih =>
      obtain ⟨name, rs⟩ := entry
      rw [replies_cons]
      by_cases h : name = target
      · simp [answer, answer.go, h]
      · simpa [answer, answer.go, h] using ih

/-- An answer uses up the first reply of its own target and leaves those of the others. -/
theorem replies_answer (s : Script) (target other : String) :
    (s.answer target).2.replies other =
      if target = other then (take (s.replies other)).2 else s.replies other := by
  obtain ⟨entries⟩ := s
  induction entries with
  | nil => simp [answer, answer.go, replies, take]
  | cons entry entries ih =>
      obtain ⟨name, rs⟩ := entry
      simp only [answer] at ih ⊢
      rw [answer.go]
      by_cases h : name = target
      · rw [if_pos h, replies_cons, replies_cons, h]
        split <;> rfl
      · rw [if_neg h, replies_cons, replies_cons, ih]
        grind

/-- What is left of some replies after the first one holds no other than these, and some. -/
theorem take_sound {rs : List Reply} (h : rs ≠ []) :
    (take rs).1 ∈ rs ∧ (take rs).2 ≠ [] ∧ ∀ r ∈ (take rs).2, r ∈ rs := by
  match rs with
  | [r] => simp [take]
  | r :: r' :: rs => exact ⟨List.mem_cons_self, by simp [take], fun _ => List.mem_cons_of_mem r⟩

end Script

/-! ## Responses -/

/-- A response leaves requests: it says that there are some left if it says anything of them. -/
def LeavesRequests (r : Response) : Prop :=
  ∀ value, r.headers.get? "x-ratelimit-remaining" = some value →
    ∃ n resetAt, readInt? value = some n ∧ 0 < n ∧
      Response.epochHeader (r.headers.get? "x-ratelimit-reset") = .ok resetAt

/-- A response brings an object, and leaves requests. -/
structure Brings (r : Response) (answer : List (String × Json)) : Prop where
  status : r.status = 200
  body : ∃ plain, r.plain? = some plain ∧ plain.json? = some (.obj answer)
  limit : LeavesRequests r

namespace Client

/-- Every reply to a request for a listing brings one of some kind. -/
def Serves (c : Client) (repo : Repository) (script : Script) (version : String) (recursive : Bool)
    (kind : List (String × Json) → Prop) : Prop :=
  ∃ u, c.base.bind ((Query.tree version recursive).address? · repo) = some u ∧ u.saysHow = true ∧
    script.replies (.ofList u.target) ≠ [] ∧
    ∀ reply ∈ script.replies (.ofList u.target),
      ∃ r answer, reply.outcome = .response r ∧ Brings r answer ∧ kind answer

/-- The request for a listing, if there is an address for it. -/
def treeRequest? (c : Client) (repo : Repository) (recursive : Bool) (version : String) :
    Option Request :=
  (c.base.bind ((Query.tree version recursive).address? · repo)).map fun u =>
    ⟨.ofList u.text, (Query.tree version recursive).accept, c.authorization u⟩

section

variable {c : Client} {repo : Repository} {script : Script} {version : String} {recursive : Bool}
  {kind : List (String × Json) → Prop} {s s' : Session} {r plain : Response}
  {answer : List (String × Json)}

/-- What a script serves it still serves after an answer, to whatever that was. -/
theorem Serves.after (h : c.Serves repo script version recursive kind) (target : String) :
    c.Serves repo (script.answer target).2 version recursive kind := by
  obtain ⟨u, hu, hhow, hsome, hreplies⟩ := h
  refine ⟨u, hu, hhow, ?_⟩
  rw [Script.replies_answer]
  split
  · obtain ⟨-, hleft, hmem⟩ := Script.take_sound hsome
    exact ⟨hleft, fun reply hreply => hreplies reply (hmem reply hreply)⟩
  · exact ⟨hsome, hreplies⟩

/-! ## Requests -/

/-- A response that leaves requests is taken note of as such. -/
theorem track_of_leaves (s : Session) (h : LeavesRequests r) (hs : s.remaining ≠ some 0) :
    ∃ s', track s r = .ok s' ∧ s'.remaining ≠ some 0 ∧ s'.requests = s.requests ∧
      s'.world = s.world := by
  unfold track
  split
  · exact ⟨s, rfl, hs, rfl, rfl⟩
  · next value hvalue =>
    obtain ⟨n, resetAt, hread, hpos, hreset⟩ := h value hvalue
    split
    · exact ⟨s, rfl, hs, rfl, rfl⟩
    · rw [hread, hreset]
      refine ⟨_, rfl, ?_, rfl, rfl⟩
      simp only [ne_eq, Option.some.injEq]
      omega

theorem headers_of_plain (h : r.plain? = some plain) : plain.headers = r.headers := by
  obtain ⟨body, _, rfl⟩ := Option.map_eq_some_iff.mp h
  rfl

/-- A reply that brings its answer as it stands is received as that answer. -/
theorem received_of_brings {u : Url} (h : Brings r answer) (hhow : u.saysHow = true)
    (hplain : r.plain? = some plain) : received u (.response r) = .response plain := by
  have hredirect : plain.redirectFault? = none := by
    rw [Response.redirectFault?, Response.location?, status_of_plain hplain, h.status]
    rfl
  simp [received, hplain, hhow, hredirect]

/-- What a request to an address comes to whose reply brings an object. -/
theorem sendTo_of_brings {u : Url} {q : Query}
    (hreply : (s.world.script.answer (.ofList u.target)).1.outcome = .response r)
    (h : Brings r answer) (hhow : u.saysHow = true) (hs : s.remaining ≠ some 0) :
    ∃ plain s', c.sendTo u q s = (.ok plain, s') ∧ plain.status = 200 ∧
      plain.json? = some (.obj answer) ∧ s'.remaining ≠ some 0 ∧
      s'.requests = s.requests ++ [⟨.ofList u.text, q.accept, c.authorization u⟩] ∧
      s'.world.script = (s.world.script.answer (.ofList u.target)).2 := by
  obtain ⟨plain, hplain, hjson⟩ := h.body
  have hstatus : plain.status = 200 := (status_of_plain hplain).trans h.status
  have herror : ∀ now, errorOf q plain now = none := by
    intro now
    simp [errorOf, Response.error?, hstatus]
  have hlimit : LeavesRequests plain := by
    rw [LeavesRequests, headers_of_plain hplain]
    exact h.limit
  unfold sendTo
  simp only [hreply, received_of_brings h hhow hplain]
  obtain ⟨s', htrack, hleft, hrequests, hworld⟩ := track_of_leaves
    { s with
      world := ⟨(s.world.script.answer (.ofList u.target)).1.now.getD s.world.now,
        (s.world.script.answer (.ofList u.target)).2⟩
      requests := s.requests ++ [⟨.ofList u.text, q.accept, c.authorization u⟩] } hlimit hs
  rw [htrack]
  simp only [herror]
  exact ⟨plain, s', rfl, hstatus, hjson, hleft, hrequests, congrArg World.script hworld⟩

/-- **A listing that is served is received** with a single request, and all that is served is still
served afterwards. -/
theorem tree_of_serves (h : c.Serves repo s.world.script version recursive kind)
    (hretries : 0 ≤ c.maxRetries) (hs : s.remaining ≠ some 0) :
    ∃ answer s', kind answer ∧
      c.tree repo (.str version) recursive s = (.ok (some (.obj answer)), s') ∧
      s'.remaining ≠ some 0 ∧
      s'.requests.map some = s.requests.map some ++ [c.treeRequest? repo recursive version] ∧
      ∀ version' recursive' kind', c.Serves repo s.world.script version' recursive' kind' →
        c.Serves repo s'.world.script version' recursive' kind' := by
  obtain ⟨u, hu, hhow, hsome, hreplies⟩ := h
  obtain ⟨r, answer, houtcome, hbrings, hkind⟩ :=
    hreplies _ (Script.take_sound hsome).1
  rw [← Script.answer_eq] at houtcome
  have hbefore : exhausted s = .ok none := by
    unfold exhausted
    split
    · next hzero _ => exact absurd hzero hs
    · rfl
  obtain ⟨plain, s', hsend, hstatus, hjson, hleft, hrequests, hscript⟩ :=
    sendTo_of_brings (c := c) (q := .tree version recursive)
      (s := { s with requestsMade := s.requestsMade + 1 }) houtcome hbrings hhow hs
  have hattempt : c.send repo (.tree version recursive) s = (.ok plain, s') := by
    unfold send
    rw [hbefore]
    simp only
    rw [hu]
    exact hsend
  have hget : c.get repo (.tree version recursive) s = (.ok plain, s') := by
    rw [get, if_neg (Int.not_lt.mpr hretries)]
    unfold retry
    rw [hattempt]
  refine ⟨answer, s', hkind, ?_, hleft, ?_, fun version' recursive' kind' h' => ?_⟩
  · simp [tree, hget, hstatus, hjson]
  · simp [hrequests, treeRequest?, hu]
  · rw [hscript]
    exact h'.after _

end

end Client

end SourceAudit.Remote

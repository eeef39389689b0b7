import SourceAudit.Proofs.Remote.Requests
import SourceAudit.Proofs.Remote.Serving
import SourceAudit.Proofs.Remote.Targets

/-!
# SourceAudit.Proofs.Remote.Diversion

Two runs of a client in worlds that differ in the replies to one target, from some request for it
on. The runs do the same until that request is made.

* `Script.divert` — a script with other replies to a target from one of its requests on;
* `InStep` — two sessions in such worlds that have come to the same point, and `Agrees` — an
  operation comes to the same in both of them;
* `get_agrees` — what is asked for before the diversion comes to the same, and so do the operations
  made of it;
* `file_cut` — the request at which a script is diverted to silence is not answered in time.
-/

namespace SourceAudit.Remote

open Number

namespace Script

/-- What the first `n` requests for a target are answered, by its replies. -/
def firstReplies : (n : Nat) → List Reply → List Reply
  | 0, _ => []
  | n + 1, rs => (take rs).1 :: firstReplies n (take rs).2

/-- The script in which the requests for a target are answered otherwise, but for the first `n`. -/
def divert (s : Script) (target : String) (n : Nat) (rest : List Reply) : Script :=
  ⟨(target, firstReplies n (s.replies target) ++ rest) :: s.entries⟩

/-- A diverted script has its first replies to the target, then the others instead, and for other
targets nothing is changed. -/
theorem replies_divert (s : Script) (target : String) (n : Nat) (rest : List Reply)
    (other : String) : (s.divert target n rest).replies other =
      if target = other then firstReplies n (s.replies target) ++ rest else s.replies other :=
  replies_cons _ _ _ _

theorem take_cons {rs : List Reply} (r : Reply) (h : rs ≠ []) : take (r :: rs) = (r, rs) := by
  cases rs with
  | nil => exact absurd rfl h
  | cons r' rs => rfl

end Script

/-- The world in which the requests for a target are answered otherwise, but for the first `n`. -/
def World.divert (world : World) (target : String) (n : Nat) (rest : List Reply) : World :=
  ⟨world.now, world.script.divert target n rest⟩

namespace Client

open Script

/-- Two sessions have come to the same point, in worlds that differ in the replies to a target after
the first `total` requests for it. -/
structure InStep (c : Client) (target : String) (total : Nat) (rest : List Reply)
    (s s' : Session) : Prop where
  now : s'.world.now = s.world.now
  remaining : s'.remaining = s.remaining
  resetAt : s'.resetAt = s.resetAt
  others : ∀ other, other ≠ target →
    s'.world.script.replies other = s.world.script.replies other
  replies : s'.world.script.replies target =
    firstReplies (total - c.asked target s) (s.world.script.replies target) ++ rest
  /-- As much time has passed in one as in the other, unless there is any amount of it. -/
  timer : s'.timer = s.timer ∨ (s.timer.limit = none ∧ s'.timer.limit = none)

/-- An operation comes to the same from two sessions that are in step. -/
structure Agrees (c : Client) (target : String) (total : Nat) (rest : List Reply) {α : Type}
    (out out' : α × Session) : Prop where
  result : out'.1 = out.1
  session : InStep c target total rest out.2 out'.2

section

variable {c : Client} {repo : Repository} {q : Query} {u : Url} {target : String} {total : Nat}
  {rest : List Reply} {s s' : Session}

/-- In the diverted world, a session with as much time starts in step. -/
theorem inStep_start (c : Client) (target : String) (total : Nat) (rest : List Reply)
    (world : World) (limit : Double) :
    InStep c target total rest ((Session.start world).within limit)
      ((Session.start (world.divert target total rest)).within limit) where
  now := rfl
  remaining := rfl
  resetAt := rfl
  others other hother := by
    rw [Session.start, Session.start, Session.within, World.divert, replies_divert,
      if_neg hother.symm]
    rfl
  replies := by
    rw [Session.start, Session.start, Session.within, World.divert, replies_divert, if_pos rfl]
    rfl
  timer := Or.inl rfl

theorem InStep.count (h : InStep c target total rest s s') (made made' : Nat) :
    InStep c target total rest { s with requestsMade := made } { s' with requestsMade := made' } :=
  ⟨h.now, h.remaining, h.resetAt, h.others, h.replies, h.timer⟩

/-- Sessions in step remain so when there is the same change to the time in both of them. -/
theorem InStep.time (h : InStep c target total rest s s') (sleeps sleeps' : List Double)
    (change : Timer → Timer) (hchange : ∀ t : Timer, (change t).limit = t.limit) :
    InStep c target total rest { s with sleeps := sleeps, timer := change s.timer }
      { s' with sleeps := sleeps', timer := change s'.timer } where
  now := h.now
  remaining := h.remaining
  resetAt := h.resetAt
  others := h.others
  replies := h.replies
  timer := by
    rcases h.timer with hsame | ⟨hlimit, hlimit'⟩
    · exact Or.inl (by rw [hsame])
    · exact Or.inr ⟨(hchange _).trans hlimit, (hchange _).trans hlimit'⟩

/-- Waiting takes both sessions the same time. -/
theorem InStep.wait (h : InStep c target total rest s s') (delay : Double) :
    InStep c target total rest (s.wait delay) (s'.wait delay) :=
  h.time _ _ (·.wait delay) fun _ => rfl

theorem InStep.handOver (h : InStep c target total rest s s') :
    InStep c target total rest s.handOver s'.handOver :=
  h.time _ _ _ Timer.limit_handOver

theorem InStep.lose (h : InStep c target total rest s s') :
    InStep c target total rest s.lose s'.lose :=
  h.time _ _ _ Timer.limit_lose

/-- The same workers begin at the same time. -/
theorem InStep.recruit (h : InStep c target total rest s s') (workers : Nat) :
    InStep c target total rest (s.recruit workers) (s'.recruit workers) :=
  h.time _ _ (·.recruit workers) fun _ => rfl

/-- There is any amount of time in both of two sessions or in none. -/
theorem InStep.timeless (h : InStep c target total rest s s') (hs : s.timer.limit = none) :
    s'.timer.limit = none := by
  rcases h.timer with hsame | ⟨-, hlimit'⟩
  · rw [hsame, hs]
  · exact hlimit'

/-- The time is over at the end of a delay in both of two sessions or in none. -/
theorem InStep.overrun (h : InStep c target total rest s s') (delay : Double) :
    s'.timer.overrun delay = s.timer.overrun delay := by
  rcases h.timer with hsame | ⟨hlimit, hlimit'⟩
  · rw [hsame]
  · rw [Timer.overrun_of_unlimited hlimit, Timer.overrun_of_unlimited hlimit']

/-- Sessions in step know the same of the limit. -/
theorem InStep.exhausted (h : InStep c target total rest s s') : exhausted s' = exhausted s := by
  rw [Client.exhausted, Client.exhausted, h.now, h.remaining, h.resetAt]

/-! ## One request -/

/-- A request for another target, or one before the diversion, is answered the same. -/
theorem InStep.answer (h : InStep c target total rest s s') (hrest : rest ≠ []) (name : String)
    (hasked : name = target → c.asked target s < total) :
    (s'.world.script.answer name).1 = (s.world.script.answer name).1 := by
  rw [answer_eq, answer_eq]
  by_cases hto : name = target
  · obtain ⟨left, hleft⟩ := Nat.exists_eq_add_of_lt (hasked hto)
    rw [hto, h.replies, show total - c.asked target s = left + 1 by omega, firstReplies,
      List.cons_append, take_cons _ (List.append_ne_nil_of_right_ne_nil _ hrest)]
  · rw [h.others name hto]

/-- A request leaves two sessions in step. -/
theorem InStep.after (h : InStep c target total rest s s') (hrest : rest ≠ []) (x : Request)
    (now : Rat) (hasked : c.targetOf x = target → c.asked target s < total) :
    InStep c target total rest
      { s with
        world := ⟨now, (s.world.script.answer (c.targetOf x)).2⟩
        requests := s.requests ++ [x] }
      { s' with
        world := ⟨now, (s'.world.script.answer (c.targetOf x)).2⟩
        requests := s'.requests ++ [x] } where
  now := rfl
  remaining := h.remaining
  resetAt := h.resetAt
  others other hother := by
    simp only [replies_answer, h.others other hother]
  replies := by
    have hcount : c.asked target { s with
        world := ⟨now, (s.world.script.answer (c.targetOf x)).2⟩
        requests := s.requests ++ [x] } =
        c.asked target s + if c.targetOf x = target then 1 else 0 := by
      simp [asked, List.countP_append]
    rw [hcount]
    simp only [replies_answer]
    by_cases hto : c.targetOf x = target
    · obtain ⟨left, hleft⟩ := Nat.exists_eq_add_of_lt (hasked hto)
      rw [if_pos hto, if_pos hto, if_pos hto, h.replies,
        show total - c.asked target s = left + 1 by omega, firstReplies, List.cons_append,
        take_cons _ (List.append_ne_nil_of_right_ne_nil _ hrest),
        show total - (c.asked target s + 1) = left by omega]
    · rw [if_neg hto, if_neg hto, if_neg hto, h.replies, Nat.add_zero]
  timer := h.timer

/-- They learn the same of it from one response. -/
theorem InStep.track (h : InStep c target total rest s s') (r : Response) :
    (∃ e, track s r = .error e ∧ track s' r = .error e) ∨
      ∃ s₁ s₁', track s r = .ok s₁ ∧ track s' r = .ok s₁' ∧ InStep c target total rest s₁ s₁' := by
  unfold Client.track
  split
  · exact Or.inr ⟨_, _, rfl, rfl, h⟩
  · split
    · exact Or.inr ⟨_, _, rfl, rfl, h⟩
    · split
      · exact Or.inl ⟨_, rfl, rfl⟩
      · split
        · exact Or.inl ⟨_, rfl, rfl⟩
        · refine Or.inr ⟨_, _, rfl, rfl, ?_⟩
          exact ⟨h.now, rfl, rfl, h.others, h.replies, h.timer⟩

/-- As long as the target is not asked for too often, one attempt has the same answer in both. -/
theorem sendTo_agrees (hrest : rest ≠ []) (hu : c.base.bind (q.address? · repo) = some u)
    (h : InStep c target total rest s s') (hasked : c.asked target (c.sendTo u q s).2 ≤ total) :
    Agrees c target total rest (c.sendTo u q s) (c.sendTo u q s') := by
  have hto : c.targetOf ⟨.ofList u.text, q.accept, c.authorization u⟩ = .ofList u.target :=
    targetOf_sent hu _
  have hbefore : String.ofList u.target = target → c.asked target s < total := by
    intro heq
    rw [asked_sendTo hu, if_pos heq] at hasked
    omega
  have hreply := h.answer hrest (.ofList u.target) hbefore
  have hsent := h.after hrest ⟨.ofList u.text, q.accept, c.authorization u⟩
    ((s.world.script.answer (.ofList u.target)).1.now.getD s.world.now) (by rw [hto]; exact hbefore)
  rw [hto] at hsent
  unfold sendTo
  simp only [hreply, h.now]
  split
  · exact ⟨rfl, hsent⟩
  · exact ⟨rfl, hsent⟩
  · exact ⟨rfl, hsent⟩
  · exact ⟨rfl, hsent⟩
  · next r _ =>
    rcases hsent.track r with ⟨e, htrack, htrack'⟩ | ⟨s₁, s₁', htrack, htrack', htracked⟩
    · rw [htrack, htrack']
      exact ⟨rfl, hsent⟩
    · rw [htrack, htrack']
      simp only
      split <;> exact ⟨rfl, htracked⟩

theorem send_agrees (hrest : rest ≠ []) (h : InStep c target total rest s s')
    (hasked : c.asked target (c.send repo q s).2 ≤ total) :
    Agrees c target total rest (c.send repo q s) (c.send repo q s') := by
  have hmade := h.count (s.requestsMade + 1) (s'.requestsMade + 1)
  unfold send at hasked ⊢
  rw [h.exhausted]
  cases hexhausted : exhausted s with
  | error e => exact ⟨rfl, h⟩
  | ok resetAt =>
      cases resetAt with
      | some resetAt => exact ⟨rfl, h⟩
      | none =>
          cases hu : c.base.bind (q.address? · repo) with
          | none => exact ⟨rfl, hmade⟩
          | some u =>
              simp only [hexhausted, hu] at hasked
              exact sendTo_agrees hrest hu hmade hasked

/-! ## Operations -/

theorem retry_agrees (hrest : rest ≠ []) (retries index : Nat)
    (h : InStep c target total rest s s')
    (hasked : c.asked target (c.retry repo q retries index s).2 ≤ total) :
    Agrees c target total rest (c.retry repo q retries index s)
      (c.retry repo q retries index s') := by
  induction retries generalizing index s s' with
  | zero =>
      rw [retry_zero] at hasked
      rw [retry_zero, retry_zero]
      exact send_agrees hrest h hasked
  | succ retries ih =>
      obtain ⟨hresult, hstep⟩ := send_agrees hrest h
        (Nat.le_trans (asked_of_sends (c.retry_sends_after repo q (retries + 1) index s)) hasked)
      rw [retry_succ] at hasked
      rw [retry_succ, retry_succ, hresult]
      split
      · next htransient =>
        rw [if_pos htransient] at hasked
        cases hdelay : c.delay? index with
        | none => exact ⟨rfl, hstep⟩
        | some delay =>
            simp only [hdelay] at hasked
            simp only [hstep.overrun]
            by_cases hover : (c.send repo q s).2.timer.overrun delay = true
            · rw [if_pos hover, if_pos hover]
              exact ⟨rfl, hstep.wait delay⟩
            · rw [if_neg hover] at hasked
              rw [if_neg hover, if_neg hover]
              exact ih _ (hstep.wait delay) hasked
      · exact ⟨hresult, hstep⟩

/-- So has a query with all its attempts. -/
theorem get_agrees (hrest : rest ≠ []) (h : InStep c target total rest s s')
    (hasked : c.asked target (c.get repo q s).2 ≤ total) :
    Agrees c target total rest (c.get repo q s) (c.get repo q s') := by
  unfold get at hasked ⊢
  by_cases hretries : c.maxRetries < 0
  · rw [if_pos hretries, if_pos hretries]
    exact ⟨rfl, h⟩
  · rw [if_neg hretries] at hasked
    rw [if_neg hretries, if_neg hretries]
    exact retry_agrees hrest _ _ h hasked

/-- The same is made of the same answers. -/
theorem Agrees.map {α β : Type} {out out' : α × Session} (h : Agrees c target total rest out out')
    (f : α → β) : Agrees c target total rest (f out.1, out.2) (f out'.1, out'.2) :=
  ⟨by rw [h.result], h.session⟩

/-- What the client is asked for it answers in the same way. -/
theorem defaultBranch_agrees (hrest : rest ≠ []) (h : InStep c target total rest s s')
    (hasked : c.asked target (c.defaultBranch repo s).2 ≤ total) :
    Agrees c target total rest (c.defaultBranch repo s) (c.defaultBranch repo s') := by
  rw [defaultBranch_eq] at hasked
  rw [defaultBranch_eq, defaultBranch_eq]
  exact (get_agrees hrest h hasked).map (·.bind Response.branch)

theorem tree_agrees (repo : Repository) (hrest : rest ≠ []) (version : Json) (recursive : Bool)
    (h : InStep c target total rest s s')
    (hasked : c.asked target (c.tree repo version recursive s).2 ≤ total) :
    Agrees c target total rest (c.tree repo version recursive s)
      (c.tree repo version recursive s') := by
  cases version with
  | str version =>
      rw [tree_eq] at hasked
      rw [tree_eq, tree_eq]
      exact (get_agrees hrest h hasked).map (·.bind Response.listing)
  | _ => exact ⟨rfl, h⟩

theorem file_agrees (hrest : rest ≠ []) (path : String) (ref : Option String)
    (h : InStep c target total rest s s')
    (hasked : c.asked target (c.file repo path ref s).2 ≤ total) :
    Agrees c target total rest (c.file repo path ref s) (c.file repo path ref s') := by
  rw [file_eq] at hasked
  rw [file_eq, file_eq]
  exact (get_agrees hrest h hasked).map (·.map Response.body)

/-! ## Silence -/

variable {now : Option Rat} {later : List Reply}

/-- The attempt at which the target is diverted to silence is cut. -/
theorem sendTo_cut (hu : c.base.bind (q.address? · repo) = some u)
    (h : InStep c target total (⟨.hang, now⟩ :: later) s s') (hbefore : c.asked target s ≤ total)
    (hasked : total < c.asked target (c.sendTo u q s).2) :
    (c.sendTo u q s').1 = .error .deadline := by
  rw [asked_sendTo hu] at hasked
  obtain ⟨hto, htotal⟩ : String.ofList u.target = target ∧ c.asked target s = total := by
    split at hasked
    · next hto => exact ⟨hto, by omega⟩
    · omega
  have hreply : (s'.world.script.answer (.ofList u.target)).1.outcome = .hang := by
    rw [answer_eq, hto, h.replies, htotal, Nat.sub_self, firstReplies, List.nil_append]
    cases later <;> rfl
  unfold sendTo
  simp only [hreply, received]

theorem send_cut (h : InStep c target total (⟨.hang, now⟩ :: later) s s')
    (hbefore : c.asked target s ≤ total) (hasked : total < c.asked target (c.send repo q s).2) :
    (c.send repo q s').1 = .error .deadline := by
  have hmade := h.count (s.requestsMade + 1) (s'.requestsMade + 1)
  unfold send at hasked ⊢
  rw [h.exhausted]
  cases hexhausted : exhausted s with
  | error e =>
      simp only [hexhausted] at hasked
      omega
  | ok resetAt =>
      cases resetAt with
      | some resetAt =>
          simp only [hexhausted] at hasked
          omega
      | none =>
          cases hu : c.base.bind (q.address? · repo) with
          | none =>
              simp only [hexhausted, hu] at hasked
              exact absurd hasked (Nat.not_lt.mpr hbefore)
          | some u =>
              simp only [hexhausted, hu] at hasked
              exact sendTo_cut hu hmade hbefore hasked

/-- So is the query of which it is one of the attempts. -/
theorem retry_cut (retries index : Nat)
    (h : InStep c target total (⟨.hang, now⟩ :: later) s s') (hbefore : c.asked target s ≤ total)
    (hasked : total < c.asked target (c.retry repo q retries index s).2) :
    (c.retry repo q retries index s').1 = .error .deadline := by
  induction retries generalizing index s s' with
  | zero =>
      rw [retry_zero] at hasked ⊢
      exact send_cut h hbefore hasked
  | succ retries ih =>
      by_cases hfirst : total < c.asked target (c.send repo q s).2
      · have hsend := send_cut h hbefore hfirst
        rw [retry_succ, hsend, if_neg (by simp [isTransient]), hsend]
      · -- The first attempt comes to the same, so the cut lies in a later one.
        obtain ⟨hresult, hstep⟩ := send_agrees (List.cons_ne_nil _ _) h (Nat.le_of_not_lt hfirst)
        rw [retry_succ] at hasked
        rw [retry_succ, hresult]
        split at hasked
        · next htransient =>
          rw [if_pos htransient]
          cases hdelay : c.delay? index with
          | none =>
              simp only [hdelay] at hasked
              exact absurd hasked hfirst
          | some delay =>
              simp only [hdelay] at hasked
              simp only [hstep.overrun]
              split at hasked
              · exact absurd hasked hfirst
              · next hintime =>
                rw [if_neg hintime]
                exact ih _ (hstep.wait delay) (Nat.le_of_not_lt hfirst) hasked
        · exact absurd hasked hfirst

/-- **The request at which a script is diverted to silence** ends the operation that makes it. -/
theorem file_cut (path : String) (ref : Option String)
    (h : InStep c target total (⟨.hang, now⟩ :: later) s s') (hbefore : c.asked target s ≤ total)
    (hasked : total < c.asked target (c.file repo path ref s).2) :
    (c.file repo path ref s').1 = .error .deadline := by
  rw [file_eq] at hasked ⊢
  unfold get at hasked ⊢
  split at hasked
  · exact absurd hasked (Nat.not_lt.mpr hbefore)
  · next hretries =>
    rw [if_neg hretries, retry_cut _ _ h hbefore hasked]
    rfl

end

end Client

end SourceAudit.Remote

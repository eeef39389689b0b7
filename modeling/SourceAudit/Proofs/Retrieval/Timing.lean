import SourceAudit.Proofs.Retrieval.Asking
import SourceAudit.Proofs.Retrieval.Listings

/-!
# SourceAudit.Proofs.Retrieval.Timing

Sessions whose time is limited, beside those with any amount of time. The limit is looked at only
where a delay would go beyond it, and there the operation ends. So an operation that comes to an end
in time does just what it does with any amount of time. That holds of a query, of a listing, and of
what workers make of the files, unless one of them is late.

* `Session.unlimited` — a session with any amount of time from now on;
* `Timely` — an operation that ends in time does the same with any amount of time;
* `send_unlimited` — an attempt takes no time, so the limit does not matter to it;
* `get_timely` — queries are timely, and so are `defaultBranch_timely`, `tree_timely` and
  `file_timely`, the operations made of one;
* `ofVersion_timely` and `contents_timely` — listings and files are timely;
* `late_of_none` — no worker is late in a retrieval that comes to its end;
* `retrieve_timely` — workers of whom none is late do the same with any amount of time.
-/

namespace SourceAudit.Remote

open Number

/-- The session with any amount of time from now on. -/
def Session.unlimited (s : Session) : Session :=
  { s with timer := { s.timer with limit := none } }

/-- An operation that ends in time from a session does the same with any amount of time. -/
def Timely {α : Type} (run : Session → Except Stop α × Session) (s : Session) : Prop :=
  (run s).1 ≠ .error .deadline → run s.unlimited = ((run s).1, (run s).2.unlimited)

/-- What is read from the answer of a timely query, it is timely to read. -/
theorem Timely.bind {α β : Type} {run : Session → Except Stop α × Session} (h : Timely run s)
    (f : α → Except Stop β) : Timely (fun s => ((run s).1.bind f, (run s).2)) s := by
  intro hintime
  have hfirst : (run s).1 ≠ .error .deadline := by
    intro hlate
    simp only [hlate, Except.bind] at hintime
    exact hintime rfl
  simp only [h hfirst]

namespace Session

/-- With any amount of time nothing is late. -/
theorem timeless_unlimited (s : Session) : s.unlimited.timer.limit = none := rfl

/-- What the limit was is forgotten. -/
theorem unlimited_within (world : World) (limit : Double) :
    ((start world).within limit).unlimited = start world := rfl

theorem unlimited_handOver (s : Session) : s.unlimited.handOver = s.handOver.unlimited := by
  unfold handOver unlimited Timer.handOver
  dsimp only
  split
  · rfl
  · split <;> rfl

end Session

namespace Client

section

variable {c : Client} {repo : Repository} {q : Query} {s : Session}

/-! ## Queries -/

theorem track_unlimited (s : Session) (r : Response) :
    track s.unlimited r = (track s r).map Session.unlimited := by
  unfold track
  split
  · rfl
  · split
    · rfl
    · split
      · rfl
      · split <;> rfl

/-- A reply takes no time but for silence. -/
theorem sendTo_unlimited (c : Client) (u : Url) (q : Query) (s : Session) :
    c.sendTo u q s.unlimited = ((c.sendTo u q s).1, (c.sendTo u q s).2.unlimited) := by
  have htrack : ∀ (s : Session) r, track { s with timer := { s.timer with limit := none } } r =
      (track s r).map Session.unlimited := track_unlimited
  unfold sendTo Session.unlimited
  dsimp only
  split
  · rfl
  · rfl
  · rfl
  · rfl
  · next r _ =>
    rw [htrack { s with world := _, requests := _ }]
    cases track { s with world := _, requests := _ } r with
    | error e => rfl
    | ok s' => simp only [Except.map]; split <;> rfl

/-- **An attempt does the same with any amount of time.** -/
theorem send_unlimited (c : Client) (repo : Repository) (q : Query) (s : Session) :
    c.send repo q s.unlimited = ((c.send repo q s).1, (c.send repo q s).2.unlimited) := by
  unfold send
  rw [show exhausted s.unlimited = exhausted s from rfl]
  split
  · rfl
  · rfl
  · dsimp only
    split
    · rfl
    · exact sendTo_unlimited c _ q { s with requestsMade := s.requestsMade + 1 }

/-- **Attempts that are made in time** are those made with any amount of time. -/
theorem retry_timely (c : Client) (repo : Repository) (q : Query) (retries index : Nat)
    (s : Session) : Timely (c.retry repo q retries index) s := by
  intro hintime
  induction retries generalizing index s with
  | zero =>
      rw [retry_zero, retry_zero]
      exact send_unlimited c repo q s
  | succ retries ih =>
      rw [retry_succ] at hintime
      rw [retry_succ, retry_succ, send_unlimited]
      split at hintime
      · next htransient =>
        simp only [if_pos htransient]
        cases hdelay : c.delay? index with
        | none => rfl
        | some delay =>
            simp only [hdelay] at hintime ⊢
            rw [Timer.overrun_of_unlimited (Session.timeless_unlimited _)]
            split at hintime
            · exact absurd rfl hintime
            · next hfree =>
              simp only [if_neg hfree, Bool.false_eq_true, if_false]
              exact ih _ ((c.send repo q s).2.wait delay) hintime
      · next htransient => simp only [if_neg htransient]

/-- **Queries that end in time** do the same with any amount of time. -/
theorem get_timely (c : Client) (repo : Repository) (q : Query) (s : Session) :
    Timely (c.get repo q) s := by
  unfold get
  split
  · exact fun _ => rfl
  · exact retry_timely c repo q _ 0 s

/-! ## Operations -/

theorem defaultBranch_timely (c : Client) (repo : Repository) (s : Session) :
    Timely (c.defaultBranch repo) s := by
  rw [show c.defaultBranch repo = _ from funext fun s => defaultBranch_eq c repo s]
  exact .bind (get_timely c repo .lookup s) Response.branch

/-- What the client is asked for it answers alike. -/
theorem tree_timely (c : Client) (repo : Repository) (version : Json) (recursive : Bool)
    (s : Session) : Timely (c.tree repo version recursive) s := by
  cases version with
  | str version =>
      rw [show c.tree repo (.str version) recursive = _ from
        funext fun s => tree_eq c repo s version recursive]
      exact .bind (get_timely c repo (.tree version recursive) s) Response.listing
  | _ => exact fun _ => rfl

theorem file_timely (c : Client) (repo : Repository) (path : String) (ref : Option String)
    (s : Session) : Timely (c.file repo path ref) s := by
  intro hintime
  rw [file_eq] at hintime
  have hget : (c.get repo (.file path ref) s).1 ≠ .error .deadline := by
    intro hlate
    rw [hlate] at hintime
    exact hintime rfl
  rw [file_eq, file_eq, get_timely c repo (.file path ref) s hget]

end

end Client

end SourceAudit.Remote

namespace SourceAudit.Retrieval

open Remote Remote.Session Remote.Client

section

variable {c : Client} {repo : Repository} {limits : Limits} {s : Session}

/-! ## Listings -/

/-- A walk that ends in time is the same with any amount of time, directory by directory. -/
theorem walk_timely {pending : List Listing.Pending} {l : Listing}
    {r : Except Stop Listing × Session} (h : Listing.walk c repo limits pending l s = some r)
    (hintime : r.1 ≠ .error .deadline) :
    Listing.walk c repo limits pending l s.unlimited = some (r.1, r.2.unlimited) := by
  have htree : ∀ (p : Listing.Pending) pending l s,
      Listing.walkedOn limits p pending l (c.tree repo p.version false s).1 ≠ .error .deadline →
      c.tree repo p.version false s.unlimited =
        ((c.tree repo p.version false s).1, (c.tree repo p.version false s).2.unlimited) := by
    intro p pending l s hgoes
    refine tree_timely c repo p.version false s fun hlate => hgoes ?_
    rw [hlate]
    rfl
  induction h using Listing.walk_induct with
  | done pending l s _ hdone =>
      rcases hdone with rfl | hfull
      · rw [Listing.walk.eq_def]
      · exact Listing.walk_of_truncated pending hfull s.unlimited
  | ends p pending l s e _ hroom hends =>
      have he : e ≠ .deadline := fun heq => hintime (by rw [heq])
      have hlast := htree p pending l s (by simpa [hends] using he)
      rw [Listing.walk_cons hroom, hlast, hends]
  | goes p pending l s pending' l' r _ _ hroom hgoes ih =>
      rw [Listing.walk_cons hroom, htree p pending l s (by simp [hgoes]), hgoes]
      exact ih hintime

/-- **A listing that ends in time** is the one made with any amount of time. -/
theorem ofVersion_timely (c : Client) (repo : Repository) (limits : Limits) (version : Json)
    (s : Session) : Timely (Listing.ofVersion c repo limits version) s := by
  intro hintime
  have htree : (c.tree repo version true s).1 ≠ .error .deadline := by
    intro hlate
    rw [Listing.ofVersion_eq, hlate] at hintime
    exact hintime rfl
  rw [Listing.ofVersion_eq] at hintime
  rw [Listing.ofVersion_eq, Listing.ofVersion_eq, tree_timely c repo version true s htree]
  cases hanswer : Listing.answered limits (c.tree repo version true s).1 with
  | inl listed => rfl
  | inr root =>
      simp only [hanswer] at hintime
      dsimp only
      cases hwalk : Listing.walk c repo limits [⟨root, .str ""⟩] .empty
          (c.tree repo version true s).2 with
      | none => simp [hwalk] at hintime
      | some r =>
          simp only [hwalk] at hintime
          have hr : r.1 ≠ .error .deadline := by
            intro hlate
            rw [hlate] at hintime
            exact hintime rfl
          rw [walk_timely hwalk hr]

/-! ## Files -/

theorem contents_timely (c : Client) (repo : Repository) (f : Candidate) (ref : Option String)
    (s : Session) : Timely (contents c repo f ref) s := by
  unfold contents
  split
  · exact fun _ => rfl
  · intro hintime
    dsimp only
    rw [unlimited_handOver]
    exact file_timely c repo f.path ref s.handOver hintime

/-- Whether a worker has been late is not changed by asking for a file. -/
theorem late_contents (c : Client) (repo : Repository) (f : Candidate) (ref : Option String)
    (s : Session) : (contents c repo f ref s).2.timer.late = s.timer.late := by
  unfold contents
  split
  · rfl
  · obtain ⟨elapsed, htimer⟩ := c.timer_get repo (.file f.path ref) s.handOver
    rw [session_file, htimer]
    exact s.timer.late_handOver

/-- Once a worker has been late, that remains so. -/
theorem late_retrieve (fs : List Candidate) (limited : Bool) (p : Progress)
    (h : s.timer.late = true) :
    (retrieve c repo limits fs limited p s).2.2.timer.late = true := by
  induction fs generalizing limited p s with
  | nil => exact h
  | cons f fs ih =>
      cases limited with
      | true => exact ih true _ h
      | false =>
          have hfile := (late_contents c repo f p.refText s).trans h
          unfold retrieve
          split
          · next hout =>
            rw [hout] at hfile
            exact ih false _ hfile
          · split
            · exact Timer.late_lose _
            · exact ih false p (Timer.late_lose _)
          · next hout =>
            rw [hout] at hfile
            split
            · exact ih true _ hfile
            · exact ih false _ hfile
            · exact ih false p hfile

/-- **No worker is late in a retrieval that comes to its end.** -/
theorem late_of_none {fs : List Candidate} {limited : Bool} {p : Progress}
    (h : (retrieve c repo limits fs limited p s).1 = none) :
    (retrieve c repo limits fs limited p s).2.2.timer.late = s.timer.late := by
  induction fs generalizing limited p s with
  | nil => rfl
  | cons f fs ih =>
      cases limited with
      | true => exact ih h
      | false =>
          have hfile := late_contents c repo f p.refText s
          unfold retrieve at h ⊢
          split at h
          · next hout =>
            rw [hout] at hfile
            exact (ih h).trans hfile
          · split at h <;> simp at h
          · next hout =>
            rw [hout] at hfile
            split at h
            · exact (ih h).trans hfile
            · exact (ih h).trans hfile
            · simp at h

/-- **Workers of whom none is late** do the same with any amount of time. -/
theorem retrieve_timely {fs : List Candidate} {limited : Bool} {p : Progress}
    (h : (retrieve c repo limits fs limited p s).2.2.timer.late = false) :
    retrieve c repo limits fs limited p s.unlimited =
      ((retrieve c repo limits fs limited p s).1, (retrieve c repo limits fs limited p s).2.1,
        (retrieve c repo limits fs limited p s).2.2.unlimited) := by
  induction fs generalizing limited p s with
  | nil => simp [retrieve]
  | cons f fs ih =>
      cases limited with
      | true =>
          rw [retrieve] at h
          rw [retrieve, retrieve]
          exact ih h
      | false =>
          rw [retrieve] at h
          rw [retrieve, retrieve]
          by_cases hlate : (contents c repo f p.refText s).1 = .error .deadline
          · rcases hcontents : contents c repo f p.refText s with ⟨out, s₁⟩
            rw [hcontents] at hlate h
            obtain rfl : out = .error .deadline := hlate
            simp only at h
            split at h
            · simp [Session.lose] at h
            · have hlost : (retrieve c repo limits fs false p s₁.lose).2.2.timer.late = true :=
                late_retrieve fs false p (Timer.late_lose _)
              simp [hlost] at h
          · rw [contents_timely c repo f p.refText s hlate]
            rcases hcontents : contents c repo f p.refText s with ⟨(e | _) | body, s₁⟩ <;>
              rw [hcontents] at hlate h
            · simp only at h ⊢
              split at h
              · simp only [ih h]
              · simp only [ih h]
              · simp only [ih h]
            · exact absurd rfl hlate
            · simp only [ih h]

end

end SourceAudit.Retrieval

import SourceAudit.Proofs.Remote.Diversion
import SourceAudit.Proofs.Remote.Retries
import SourceAudit.Proofs.Retrieval.Listings
import SourceAudit.Proofs.Retrieval.Turns

/-!
# SourceAudit.Proofs.Retrieval.Diversion

Two retrievals in worlds that differ in the replies to one target, from some request for it on.
Before that request they do the same. After it they may be at odds about the limit of requests and
about the time, but a file that both of them retrieve is the same in both.

* `ofVersion_agrees` — a listing comes to the same;
* `Through.agrees` and `Reaches.agrees` — so do files asked for in their turns;
* `contents_cut` — a file that is asked for where the script is diverted to silence is not received
  in time;
* `Delivers` — the response that some replies bring, whatever is known of the limit and the time;
* `retrieve_files` — the files of a retrieval are those that the replies to their targets bring.
-/

namespace SourceAudit.Remote

open Client Script

/-- The response that some replies from an address bring in the end: the first that is no fleeting
failure. -/
inductive Delivers (u : Url) : List Reply → Response → Prop
  | first {rs : List Reply} {r : Response} (h : received u (take rs).1.outcome = .response r)
      (hlast : r.status < 500) : Delivers u rs r
  | later {rs : List Reply} {r : Response} (h : (received u (take rs).1.outcome).Fleeting)
      (hrest : Delivers u (take rs).2 r) : Delivers u rs r

/-- Some replies bring one response only. -/
theorem Delivers.unique {u : Url} {rs : List Reply} {r r' : Response} (h : Delivers u rs r)
    (h' : Delivers u rs r') : r = r' := by
  have hlasting : ∀ {rs r}, received u (take rs).1.outcome = .response r → r.status < 500 →
      ¬ (received u (take rs).1.outcome).Fleeting := by
    intro rs r h hlast hfleeting
    rw [h] at hfleeting
    exact absurd hlast (Nat.not_lt.mpr hfleeting)
  induction h with
  | first h hlast =>
      cases h' with
      | first h' _ => exact Outcome.response.inj (h.symm.trans h')
      | later hfleeting _ => exact absurd hfleeting (hlasting h hlast)
  | later hfleeting _ ih =>
      cases h' with
      | first h' hlast => exact absurd hfleeting (hlasting h' hlast)
      | later _ hrest => exact ih hrest

namespace Client

section

variable {c : Client} {repo : Repository} {q : Query} {u : Url} {r : Response} {s : Session}

/-- An attempt that is answered has met with a response that is no fleeting failure. -/
theorem sendTo_ok (h : (c.sendTo u q s).1 = .ok r) :
    received u (s.world.script.answer (.ofList u.target)).1.outcome = .response r ∧
      r.status < 500 := by
  obtain ⟨hreceived, haccepted⟩ := received_of_sendTo h
  refine ⟨hreceived, ?_⟩
  rcases haccepted with (hsuccess | ⟨-, hconflict⟩) | hastray
  · omega
  · omega
  · unfold Astray at hastray
    omega

/-- An attempt after which there is another one has met with a fleeting failure. -/
theorem sendTo_fleeting (h : isTransient (c.sendTo u q s).1 = true) :
    (received u (s.world.script.answer (.ofList u.target)).1.outcome).Fleeting := by
  unfold sendTo at h
  dsimp only at h
  split at h
  · simp [isTransient] at h
  · next hfault => simp [hfault, Outcome.Fleeting]
  · next hfault => simp [hfault, Outcome.Fleeting]
  · simp [isTransient, Error.isTransient] at h
  · next hresponse =>
    rw [hresponse]
    split at h
    · simp [isTransient, Error.isTransient] at h
    · split at h
      · next herror => exact (isTransient_of_errorOf herror).mp h
      · simp [isTransient] at h

theorem send_eq_sendTo (hu : c.base.bind (q.address? · repo) = some u)
    (h : exhausted s = .ok none) :
    c.send repo q s = c.sendTo u q { s with requestsMade := s.requestsMade + 1 } := by
  unfold send
  simp only [h, hu]

/-- An attempt that is answered, or may be repeated, has been made. -/
theorem exhausted_of_send {out : Except Stop Response} (hout : (c.send repo q s).1 = out)
    (h : isTransient out = true ∨ ∃ r, out = .ok r) : exhausted s = .ok none := by
  subst hout
  unfold send at h
  split at h
  · simp [isTransient, Error.isTransient] at h
  · simp [isTransient, Error.isTransient] at h
  · next hfree => exact hfree

/-- **The response to a query** is the one that the replies from its address bring. -/
theorem retry_delivers (hu : c.base.bind (q.address? · repo) = some u) (retries index : Nat)
    (h : (c.retry repo q retries index s).1 = .ok r) :
    Delivers u (s.world.script.replies (.ofList u.target)) r := by
  have hanswered : ∀ {s}, (c.send repo q s).1 = .ok r →
      Delivers u (s.world.script.replies (.ofList u.target)) r := by
    intro s hsend
    have hfree := exhausted_of_send hsend (.inr ⟨r, rfl⟩)
    rw [send_eq_sendTo hu hfree] at hsend
    obtain ⟨hreceived, hlast⟩ := sendTo_ok hsend
    rw [answer_eq] at hreceived
    exact .first hreceived hlast
  induction retries generalizing index s with
  | zero =>
      rw [retry_zero] at h
      exact hanswered h
  | succ retries ih =>
      rw [retry_succ] at h
      split at h
      swap
      · exact hanswered h
      next htransient =>
      have hsend := send_eq_sendTo hu (exhausted_of_send rfl (.inl htransient))
      have hfleeting := sendTo_fleeting (hsend ▸ htransient)
      rw [answer_eq] at hfleeting
      refine .later hfleeting ?_
      split at h
      · simp at h
      · split at h
        · simp at h
        · have hrest := ih _ h
          rwa [show ((c.send repo q s).2.wait _).world = (c.send repo q s).2.world from rfl,
            hsend, script_sendTo, replies_answer, if_pos rfl] at hrest

/-- A query uses up no replies but those from its address. -/
theorem replies_get {target : String}
    (h : ∀ u, c.base.bind (q.address? · repo) = some u → String.ofList u.target ≠ target) :
    (c.get repo q s).2.world.script.replies target = s.world.script.replies target := by
  unfold get
  split
  · rfl
  · refine retry_keeps (P := fun s' => s'.world.script.replies target =
      s.world.script.replies target) (fun s' hs' => ?_) (fun _ _ hs' => hs') _ _ rfl
    unfold send
    split
    · exact hs'
    · exact hs'
    · split
      · exact hs'
      · next u hu =>
        rw [script_sendTo, replies_answer, if_neg (h u hu)]
        exact hs'

end

end Client

end SourceAudit.Remote

namespace SourceAudit.Retrieval

open Remote Remote.Session Remote.Client

section

variable {c : Client} {repo : Repository} {limits : Limits} {ref : Option String} {target : String}
  {total : Nat} {rest : List Reply} {f : Candidate} {fs before after : List Candidate}
  {s s' s₁ s₁' : Session} {files : List Artifact} {skipped : List Skipped} {p p' : Progress}

/-! ## Listings -/

/-- **A walk comes to the same.** -/
theorem walk_agrees (hrest : rest ≠ []) {pending : List Listing.Pending} {l : Listing}
    {r : Except Stop Listing × Session} (hwalk : Listing.walk c repo limits pending l s = some r)
    (h : InStep c target total rest s s') (hasked : c.asked target r.2 ≤ total) :
    ∃ r', Listing.walk c repo limits pending l s' = some r' ∧ Agrees c target total rest r r' := by
  induction hwalk using Listing.walk_induct generalizing s' with
  | done pending l s _ hdone =>
      refine ⟨(.ok l, s'), ?_, rfl, h⟩
      rcases hdone with rfl | hfull
      · rw [Listing.walk.eq_def]
      · exact Listing.walk_of_truncated pending hfull s'
  | ends p pending l s e _ hroom hends =>
      obtain ⟨hresult, hstep⟩ := tree_agrees repo hrest p.version false h hasked
      refine ⟨(.error e, (c.tree repo p.version false s').2), ?_, rfl, hstep⟩
      rw [Listing.walk_cons hroom, hresult, hends]
  | goes p pending l s pending' l' r _ hwalk hroom hgoes ih =>
      obtain ⟨hresult, hstep⟩ := tree_agrees repo hrest p.version false h
        (Nat.le_trans (asked_of_sends (walk_sends c repo limits _ _ _ _ hwalk)) hasked)
      obtain ⟨r', hwalk', hr'⟩ := ih hstep hasked
      refine ⟨r', ?_, hr'⟩
      rw [Listing.walk_cons hroom, hresult, hgoes]
      exact hwalk'

/-- **A listing comes to the same.** -/
theorem ofVersion_agrees (hrest : rest ≠ []) {version : Json} {l : Option Listing}
    (hlist : Listing.ofVersion c repo limits version s = (.ok l, s₁))
    (h : InStep c target total rest s s') (hasked : c.asked target s₁ ≤ total) :
    ∃ s₁', Listing.ofVersion c repo limits version s' = (.ok l, s₁') ∧
      InStep c target total rest s₁ s₁' := by
  have htree := tree_agrees repo hrest version true h
  rw [Listing.ofVersion_eq] at hlist
  rw [Listing.ofVersion_eq]
  split at hlist
  · next listed hanswer =>
    obtain ⟨rfl, rfl⟩ := Prod.mk.inj hlist
    obtain ⟨hresult, hstep⟩ := htree hasked
    rw [hresult, hanswer]
    exact ⟨_, rfl, hstep⟩
  · next root hanswer =>
    split at hlist
    · next listed s₂ hwalk =>
      obtain ⟨hlisted, rfl⟩ := Prod.mk.inj hlist
      obtain ⟨hresult, hstep⟩ := htree
        (Nat.le_trans (asked_of_sends (walk_sends c repo limits _ _ _ _ hwalk)) hasked)
      obtain ⟨⟨listed', s₂'⟩, hwalk', hresult', hstep'⟩ := walk_agrees hrest hwalk hstep hasked
      obtain rfl : listed' = listed := hresult'
      rw [hresult, hanswer]
      simp only [hwalk', hlisted]
      exact ⟨_, rfl, hstep'⟩
    · simp at hlist

/-! ## Files -/

/-- Retrieving a file comes to the same. -/
theorem contents_agrees (repo : Repository) (hrest : rest ≠ []) (f : Candidate)
    (ref : Option String) (h : InStep c target total rest s s')
    (hasked : c.asked target (contents c repo f ref s).2 ≤ total) :
    Agrees c target total rest (contents c repo f ref s) (contents c repo f ref s') := by
  unfold contents at hasked ⊢
  by_cases hbroken : f.broken = true
  · rw [if_pos hbroken, if_pos hbroken]
    exact ⟨rfl, h⟩
  · rw [if_neg hbroken] at hasked
    rw [if_neg hbroken, if_neg hbroken]
    exact file_agrees hrest _ _ h.handOver hasked

theorem Through.sends (h : Through c repo limits ref fs s files skipped s₁) :
    Sends (Query.file "" none).accept s s₁ := by
  induction h with
  | nil s => exact .refl s
  | @kept f _ s _ _ _ _ _ hbody _ ih =>
      have hsends := contents_sends c repo f ref s
      rw [hbody] at hsends
      exact hsends.trans ih
  | @skipped f _ s _ _ _ _ _ _ hfailed _ _ _ ih =>
      have hsends := contents_sends c repo f ref s
      rw [hfailed] at hsends
      exact hsends.trans ih

/-- **Files in their turns come to the same.** -/
theorem Through.agrees (hrest : rest ≠ [])
    (hthrough : Through c repo limits ref fs s files skipped s₁)
    (h : InStep c target total rest s s') (hasked : c.asked target s₁ ≤ total) :
    ∃ s₁', Through c repo limits ref fs s' files skipped s₁' ∧
      InStep c target total rest s₁ s₁' := by
  induction hthrough generalizing s' with
  | nil s => exact ⟨s', .nil s', h⟩
  | @kept f _ s _ _ _ _ _ hbody hafter ih =>
      have hturn := contents_agrees repo hrest f ref h
      rw [hbody] at hturn
      obtain ⟨hresult, hstep⟩ := hturn (Nat.le_trans (asked_of_sends hafter.sends) hasked)
      obtain ⟨s₁', hthrough', hstep'⟩ := ih hstep hasked
      have hbody' : contents c repo f ref s' = (.ok _, (contents c repo f ref s').2) :=
        Prod.ext hresult rfl
      exact ⟨s₁', .kept hbody' hthrough', hstep'⟩
  | @skipped f _ s _ _ _ _ _ _ hfailed hreason hfile hafter ih =>
      have hturn := contents_agrees repo hrest f ref h
      rw [hfailed] at hturn
      obtain ⟨hresult, hstep⟩ := hturn (Nat.le_trans (asked_of_sends hafter.sends) hasked)
      obtain ⟨s₁', hthrough', hstep'⟩ := ih hstep hasked
      have hfailed' : contents c repo f ref s' =
          (.error (.failed _), (contents c repo f ref s').2) := Prod.ext hresult rfl
      exact ⟨s₁', .skipped hfailed' hreason hfile hthrough', hstep'⟩

/-- Retrieving a file leaves the time that is allowed. -/
theorem limit_contents (c : Client) (repo : Repository) (f : Candidate) (ref : Option String)
    (s : Session) : (contents c repo f ref s).2.timer.limit = s.timer.limit := by
  unfold contents
  split
  · rfl
  · obtain ⟨elapsed, htimer⟩ := c.timer_get repo (.file f.path ref) s.handOver
    rw [session_file, htimer]
    exact s.timer.limit_handOver

theorem Reaches.sends (h : Reaches c repo limits fs p s p' s₁) :
    Sends (Query.file "" none).accept s s₁ := by
  induction h with
  | start p s => exact .refl s
  | dealt hdealt _ ih => exact hdealt.sends.trans ih
  | @lost f _ p _ s _ _ hlate _ _ ih =>
      have hsends := contents_sends c repo f p.refText s
      rw [hlate] at hsends
      exact (hsends.trans (alike_lose _).sends).trans ih

/-- **So do files of which some are lost.** -/
theorem Reaches.agrees (hrest : rest ≠ []) (hreaches : Reaches c repo limits fs p s p' s₁)
    (h : InStep c target total rest s s') (hlimit : s.timer.limit ≠ none)
    (hasked : c.asked target s₁ ≤ total) :
    ∃ s₁', Reaches c repo limits fs p s' p' s₁' ∧ InStep c target total rest s₁ s₁' := by
  induction hreaches generalizing s' with
  | start p s => exact ⟨s', .start p s', h⟩
  | @dealt f _ p _ s s₂ _ _ _ hdealt hafter ih =>
      obtain ⟨s₂', hdealt', hstep⟩ :=
        hdealt.agrees hrest h (Nat.le_trans (asked_of_sends hafter.sends) hasked)
      have hlimit' : s₂.timer.limit ≠ none := by
        rw [session_of_through hdealt, limit_contents]
        exact hlimit
      obtain ⟨s₁', hreaches', hstep'⟩ := ih hstep hlimit' hasked
      exact ⟨s₁', .dealt hdealt' hreaches', hstep'⟩
  | @lost f _ p _ s s₂ _ hlate hothers hafter ih =>
      have hturn := contents_agrees repo hrest f p.refText h
      rw [hlate] at hturn
      obtain ⟨hresult, hstep⟩ := hturn (Nat.le_trans
        (asked_of_sends ((alike_lose s₂).sends.trans hafter.sends)) hasked)
      have hlimit' : s₂.timer.limit ≠ none := by
        have hkept := limit_contents c repo f p.refText s
        rw [hlate] at hkept
        rwa [hkept]
      -- The time is limited, so that both sessions have come to the same time.
      have htimer := hstep.timer.resolve_right fun hnone => hlimit' hnone.1
      obtain ⟨s₁', hreaches', hstep'⟩ := ih hstep.lose (by simpa [Session.lose] using hlimit') hasked
      have hlate' : contents c repo f p.refText s' =
          (.error .deadline, (contents c repo f p.refText s').2) := Prod.ext hresult rfl
      have hothers' : (contents c repo f p.refText s').2.timer.others ≠ [] := by
        rw [htimer]
        exact hothers
      exact ⟨s₁', .lost hlate' hothers' hreaches', hstep'⟩

theorem contents_cut {now : Option Rat} {later : List Reply}
    (h : InStep c target total (⟨.hang, now⟩ :: later) s s') (hbefore : c.asked target s ≤ total)
    (hasked : total < c.asked target (contents c repo f ref s).2) :
    (contents c repo f ref s').1 = .error .deadline := by
  unfold contents at hasked ⊢
  by_cases hbroken : f.broken = true
  · rw [if_pos hbroken] at hasked
    exact absurd hasked (Nat.not_lt.mpr hbefore)
  · rw [if_neg hbroken] at hasked ⊢
    exact file_cut _ _ h.handOver hbefore hasked

end

/-! ## What is in the files -/

/-- A file as the replies from its address bring it. -/
def Brought (c : Client) (repo : Repository) (limits : Limits) (ref : Option String)
    (script : Script) (f : Candidate) (a : Artifact) : Prop :=
  ∃ u r, c.base.bind ((Query.file f.path ref).address? · repo) = some u ∧
    Delivers u (script.replies (.ofList u.target)) r ∧ a = artifactOf limits f.path r.body

/-- Two files are asked for with different targets. -/
def Apart (c : Client) (repo : Repository) (ref : Option String) (f g : Candidate) : Prop :=
  ∀ u v, c.base.bind ((Query.file f.path ref).address? · repo) = some u →
    c.base.bind ((Query.file g.path ref).address? · repo) = some v →
      String.ofList u.target ≠ .ofList v.target

section

variable {c : Client} {repo : Repository} {limits : Limits} {ref : Option String}
  {script script' : Script} {f : Candidate} {fs : List Candidate} {s : Session} {a a' : Artifact}

instance (c : Client) (repo : Repository) (ref : Option String) : Std.Symm (Apart c repo ref) where
  symm _ _ h u v hu hv := (h v u hv hu).symm

theorem Brought.path (h : Brought c repo limits ref script f a) : a.path = f.path := by
  obtain ⟨u, r, -, -, rfl⟩ := h
  exact path_artifactOf limits f.path r.body

/-- The same replies bring the same file. -/
theorem Brought.unique (h : Brought c repo limits ref script f a)
    (h' : Brought c repo limits ref script' f a')
    (hsame : ∀ u, c.base.bind ((Query.file f.path ref).address? · repo) = some u →
      script'.replies (.ofList u.target) = script.replies (.ofList u.target)) : a = a' := by
  obtain ⟨u, r, hu, hr, rfl⟩ := h
  obtain ⟨u', r', hu', hr', rfl⟩ := h'
  obtain rfl := Option.some.inj (hu.symm.trans hu')
  rw [hsame u hu] at hr'
  rw [hr.unique hr']

/-- A file that is received is the one that its replies bring. -/
theorem brought_of_contents {body : List UInt8} (h : (contents c repo f ref s).1 = .ok body) :
    Brought c repo limits ref s.world.script f (artifactOf limits f.path body) := by
  unfold contents at h
  split at h
  · simp at h
  rw [file_eq] at h
  cases hget : (c.get repo (.file f.path ref) s.handOver).1 with
  | error stop =>
      rw [hget] at h
      simp [Except.map] at h
  | ok r =>
      rw [hget] at h
      obtain rfl := Except.ok.inj h
      obtain ⟨⟨u, -, hu, -, -⟩, -⟩ := get_accepts hget
      unfold Client.get at hget
      split at hget
      · simp at hget
      · have hdelivers := retry_delivers hu _ _ hget
        exact ⟨u, r, hu, hdelivers, rfl⟩

/-- What the replies bring for a file, they still bring when another one has been asked for. -/
theorem Brought.before {g : Candidate}
    (hother : Apart c repo ref f g)
    (h : Brought c repo limits ref (contents c repo f ref s).2.world.script g a) :
    Brought c repo limits ref s.world.script g a := by
  obtain ⟨v, r, hv, hr, rfl⟩ := h
  refine ⟨v, r, hv, ?_, rfl⟩
  unfold contents at hr
  split at hr
  · exact hr
  · rwa [session_file, replies_get fun u hu => hother u v hu hv] at hr

/-- **The files of a retrieval** come in the order in which they are asked for, and each of them is
the one that the replies from its address bring, whatever else is retrieved. -/
theorem retrieve_files (limits : Limits) (limited : Bool) (p : Progress) (s : Session)
    (hapart : fs.Pairwise (Apart c repo p.refText)) :
    ∃ more, (retrieve c repo limits fs limited p s).2.1.files = p.files ++ more ∧
      (more.map Artifact.path).Sublist (fs.map Candidate.path) ∧
      ∀ a ∈ more, ∃ f ∈ fs, Brought c repo limits p.refText s.world.script f a := by
  induction fs generalizing limited p s with
  | nil => exact ⟨[], (List.append_nil _).symm, .slnil, by simp⟩
  | cons f fs ih =>
      obtain ⟨hother, hapart⟩ := List.pairwise_cons.mp hapart
      cases limited with
      | true =>
          obtain ⟨more, hfiles, hpaths, hbrought⟩ :=
            ih true (p.skip f.path .rateLimited) s hapart
          exact ⟨more, hfiles, hpaths.cons _, fun a ha =>
            (hbrought a ha).imp fun g hg => ⟨List.mem_cons_of_mem f hg.1, hg.2⟩⟩
      | false =>
          -- What the rest of the files comes to, after the first one.
          have hnext : ∀ limited (q : Progress) s', q.refText = p.refText →
              s'.world = (contents c repo f p.refText s).2.world →
              ∃ more, (retrieve c repo limits fs limited q s').2.1.files = q.files ++ more ∧
                (more.map Artifact.path).Sublist (fs.map Candidate.path) ∧
                ∀ a ∈ more, ∃ g ∈ f :: fs, Brought c repo limits p.refText s.world.script g a := by
            intro limited q s' href hworld
            obtain ⟨more, hfiles, hpaths, hbrought⟩ := ih limited q s' (href ▸ hapart)
            refine ⟨more, hfiles, hpaths, fun a ha => ?_⟩
            obtain ⟨g, hg, hga⟩ := hbrought a ha
            rw [href, hworld] at hga
            exact ⟨g, List.mem_cons_of_mem f hg, hga.before (hother g hg)⟩
          unfold retrieve
          split
          · next body s₁ hbody =>
            rw [hbody] at hnext
            obtain ⟨more, hfiles, hpaths, hbrought⟩ :=
              hnext false (p.keep (artifactOf limits f.path body)) s₁ rfl rfl
            refine ⟨artifactOf limits f.path body :: more, ?_, ?_, ?_⟩
            · rw [hfiles]
              simp [Progress.keep]
            · rw [List.map_cons, List.map_cons, path_artifactOf]
              exact hpaths.cons_cons _
            · refine List.forall_mem_cons.mpr ⟨⟨f, List.mem_cons_self, ?_⟩, hbrought⟩
              exact brought_of_contents (by rw [hbody])
          · next s₁ hlate =>
            rw [hlate] at hnext
            split
            · exact ⟨[], (List.append_nil _).symm, List.nil_sublist _, by simp⟩
            · obtain ⟨more, hfiles, hpaths, hbrought⟩ := hnext false p s₁.lose rfl rfl
              exact ⟨more, hfiles, hpaths.cons _, hbrought⟩
          · next e s₁ hfailed =>
            rw [hfailed] at hnext
            split
            · obtain ⟨more, hfiles, hpaths, hbrought⟩ :=
                hnext true { p.skip f.path .rateLimited with truncated := true } s₁ rfl rfl
              exact ⟨more, hfiles, hpaths.cons _, hbrought⟩
            · next reason _ _ =>
              obtain ⟨more, hfiles, hpaths, hbrought⟩ :=
                hnext false (p.skip f.path reason) s₁ rfl rfl
              exact ⟨more, hfiles, hpaths.cons _, hbrought⟩
            · obtain ⟨more, hfiles, hpaths, hbrought⟩ := hnext false p s₁ rfl rfl
              exact ⟨more, hfiles, hpaths.cons _, hbrought⟩

end

end SourceAudit.Retrieval

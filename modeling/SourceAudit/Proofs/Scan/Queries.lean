import SourceAudit.Proofs.Retrieval.Turns
import SourceAudit.Proofs.Scan.Completeness

/-!
# SourceAudit.Proofs.Scan.Queries

The queries of a retrieval, in their order. What is asked for next hangs on the answers so far: the
version, then everything in it, then the directories of a walk if that is cut short, and at last the
files chosen, one by one, as one worker asks for them.

* `Asks` — the queries, each with the session in which it is made, and `Attempts` — their attempts;
* `quiet_of_asks` — no attempt before a query is made at the limit of requests;
* `traced_fetch` — all that is sent in a retrieval is sent in its attempts.
-/

namespace SourceAudit.Retrieval

open Remote Remote.Client Listing

/-- A walk has been begun since a session: the answer for everything in the version that is meant
is cut short, and states the root. -/
structure Begun (c : Client) (repo : Repository) (limits : Limits) (s₀ : Session) (root : Json)
    (s : Session) : Prop where
  canSend : c.canSend = true
  answered : ∃ version s₁ answer, versionOf c repo s₀ = (.ok version, s₁) ∧
    c.tree repo version true s₁ = (.ok (some (.obj answer)), s) ∧
    answered limits (.ok (some (.obj answer))) = .inr root

/-- The listing of the version that is meant has been drawn since a session. -/
structure Drawn (c : Client) (repo : Repository) (limits : Limits) (s₀ : Session) (version : Json)
    (l : Listing) (s : Session) : Prop where
  canSend : c.canSend = true
  answers : ∃ s₁ visits, versionOf c repo s₀ = (.ok version, s₁) ∧
    Draws c repo limits version s₁ visits (some l) s

/-- The queries of a retrieval that starts in a session, each with the session in which it is
made. -/
inductive Asks (c : Client) (repo : Repository) (limits : Limits) (s₀ : Session) :
    Query → Session → Prop
  /-- The default branch is asked for if no version is named. -/
  | lookup (hsend : c.canSend = true) (hunnamed : repo.ref.filter (· ≠ "") = none) :
      Asks c repo limits s₀ .lookup s₀
  /-- Everything in a version is asked for once it is known. -/
  | whole {version : String} {s : Session} (hsend : c.canSend = true)
      (hversion : versionOf c repo s₀ = (.ok (.str version), s)) :
      Asks c repo limits s₀ (.tree version true) s
  /-- The next directory of a walk is asked for as long as there are not too many files. -/
  | directory {root : Json} {name : String} {s₂ s : Session} {visits : List Visit} {d : Pending}
      {pending : List Pending} {l : Listing} (hbegun : Begun c repo limits s₀ root s₂)
      (hwalks : Walks c repo limits [⟨root, .str ""⟩] .empty s₂ visits (d :: pending) l s)
      (hroom : l.truncated = false) (hnamed : d.version = .str name) :
      Asks c repo limits s₀ (.tree name false) s
  /-- The next file is asked for after those chosen before it, if an address can name it. -/
  | file {version : Json} {s₂ s : Session} {l : Listing} {before after : List Candidate}
      {f : Candidate} {p : Progress} (hdrawn : Drawn c repo limits s₀ version l s₂)
      (hchosen : (planOf limits l).chosen = before ++ f :: after)
      (hpasses : Passes c repo limits before (.listed limits version l) (s₂.recruit 1) p s)
      (hnamed : f.broken = false) :
      Asks c repo limits s₀ (.file f.path p.refText) s.handOver

/-- The attempts of a retrieval. -/
def Attempts (c : Client) (repo : Repository) (limits : Limits) (s₀ : Session) (a : Attempt) :
    Prop :=
  ∃ s, Asks c repo limits s₀ a.query s ∧ a.session ∈ c.attemptsOf repo a.query s

/-- All attempts of a retrieval on the way to a session, none of them at the limit. -/
def Quiet (c : Client) (repo : Repository) (limits : Limits) (w : World) (s : Session) : Prop :=
  ∃ as, Course c repo (.start w) as s ∧
    ∀ a ∈ as, Attempts c repo limits (.start w) a ∧ ¬ c.AtLimit repo a

/-- All attempts of a retrieval on the way to a session. -/
def Traced (c : Client) (repo : Repository) (limits : Limits) (w : World) (s : Session) : Prop :=
  ∃ as, Course c repo (.start w) as s ∧ ∀ a ∈ as, Attempts c repo limits (.start w) a

section

variable {c : Client} {repo : Repository} {limits : Limits} {w : World} {s s' s₁ s₂ : Session}
  {q : Query} {version : Json} {p p' : Progress} {f : Candidate} {fs before after : List Candidate}

/-- A session in which no limit has been met is traced. -/
theorem Quiet.traced (h : Quiet c repo limits w s) : Traced c repo limits w s := by
  obtain ⟨as, hcourse, has⟩ := h
  exact ⟨as, hcourse, fun a ha => (has a ha).1⟩

theorem quiet_start : Quiet c repo limits w (.start w) := ⟨[], .start, by simp⟩

theorem Quiet.within (h : Quiet c repo limits w s) : s.Within w := by
  obtain ⟨as, hcourse, -⟩ := h
  exact within_of_course hcourse (within_start w)

/-- A course without a limit keeps a session quiet. -/
theorem Quiet.trans {as : List Attempt} (h : Quiet c repo limits w s)
    (hcourse : Course c repo s as s')
    (has : ∀ a ∈ as, Attempts c repo limits (.start w) a ∧ ¬ c.AtLimit repo a) :
    Quiet c repo limits w s' := by
  obtain ⟨before, hto, hbefore⟩ := h
  exact ⟨_, hto.trans hcourse, List.forall_mem_append.mpr ⟨hbefore, has⟩⟩

/-- Nothing is attempted when the time moves on. -/
theorem Quiet.at_time (h : Quiet c repo limits w s) (timer : Timer) :
    Quiet c repo limits w { s with timer := timer } := by
  obtain ⟨as, hcourse, has⟩ := h
  exact ⟨as, hcourse.pause s.sleeps timer, has⟩

/-- What has been asked for does not depend on the clock of the worker. -/
theorem Traced.at_time (h : Traced c repo limits w s) (timer : Timer) :
    Traced c repo limits w { s with timer := timer } := by
  obtain ⟨as, hcourse, has⟩ := h
  exact ⟨as, hcourse.pause s.sleeps timer, has⟩

/-! ## One query -/

/-- A query leaves nothing but its attempts. -/
theorem traced_get (h : Quiet c repo limits w s) (hasks : Asks c repo limits (.start w) q s) :
    Traced c repo limits w (c.get repo q s).2 := by
  obtain ⟨before, hto, hbefore⟩ := h.traced
  refine ⟨_, hto.trans (course_of_get c repo q s), List.forall_mem_append.mpr ⟨hbefore, ?_⟩⟩
  intro a ha
  obtain ⟨m, hm, rfl⟩ := List.mem_map.mp ha
  exact ⟨s, hasks, hm⟩

/-- A query that does not fail for the limit has no attempts at it. -/
theorem quiet_get (hw : w.WellFormed) (h : Quiet c repo limits w s)
    (hasks : Asks c repo limits (.start w) q s) (hout : Unlimited (c.get repo q s).1) :
    Quiet c repo limits w (c.get repo q s).2 := by
  refine h.trans (course_of_get c repo q s) fun a ha => ?_
  obtain ⟨m, hm, rfl⟩ := List.mem_map.mp ha
  refine ⟨⟨s, hasks, hm⟩, fun hlimit => ?_⟩
  obtain ⟨resetAt, hget⟩ := get_of_atLimit hw h.within hm hlimit
  exact hout resetAt (congrArg Prod.fst hget)

/-- An attempt of a query has none at the limit before it. -/
theorem quiet_attempt (hw : w.WellFormed) (h : Quiet c repo limits w s)
    (hasks : Asks c repo limits (.start w) q s) {m : Session} (hm : m ∈ c.attemptsOf repo q s) :
    Quiet c repo limits w m := by
  obtain ⟨before, hto, hbefore⟩ := course_to_attempt hw h.within hm
  refine h.trans hto fun a ha => ?_
  obtain ⟨rfl, hmem, hfree⟩ := hbefore a ha
  exact ⟨⟨s, hasks, hmem⟩, hfree⟩

/-! ## Readings of answers -/

/-- If no limit is met in the end, none has been met before. -/
theorem unlimited_of_bind {α β : Type} {out : Except Stop α} {read : α → Except Stop β}
    (h : Unlimited (out.bind read)) : Unlimited out := by
  rintro resetAt rfl
  exact h resetAt rfl

theorem unlimited_ok {α : Type} (a : α) : Unlimited (.ok a) := fun _ h => by simp at h

/-- A tree that is asked for is traced, whatever the answer. -/
theorem traced_tree (recursive : Bool) (h : Quiet c repo limits w s)
    (hasks : ∀ name, version = .str name → Asks c repo limits (.start w) (.tree name recursive) s) :
    Traced c repo limits w (c.tree repo version recursive s).2 := by
  cases version with
  | str name =>
      rw [tree_eq]
      exact traced_get h (hasks name rfl)
  | _ => exact h.traced

/-- Where no limit is met, the session stays quiet. -/
theorem quiet_tree (hw : w.WellFormed) {recursive : Bool} (h : Quiet c repo limits w s)
    (hasks : ∀ name, version = .str name → Asks c repo limits (.start w) (.tree name recursive) s)
    (hout : Unlimited (c.tree repo version recursive s).1) :
    Quiet c repo limits w (c.tree repo version recursive s).2 := by
  cases version with
  | str name =>
      rw [tree_eq] at hout ⊢
      exact quiet_get hw h (hasks name rfl) (unlimited_of_bind hout)
  | _ => exact h

/-- The same holds of the contents of a file. -/
theorem traced_contents {ref : Option String} (h : Quiet c repo limits w s)
    (hasks : f.broken = false → Asks c repo limits (.start w) (.file f.path ref) s.handOver) :
    Traced c repo limits w (contents c repo f ref s).2 := by
  unfold contents
  cases hbroken : f.broken with
  | true => exact h.traced
  | false =>
      simp only [Bool.false_eq_true, if_false, file_eq]
      exact traced_get (h.at_time _) (hasks hbroken)

theorem quiet_contents (hw : w.WellFormed) {ref : Option String} (h : Quiet c repo limits w s)
    (hasks : f.broken = false → Asks c repo limits (.start w) (.file f.path ref) s.handOver)
    (hout : Unlimited (contents c repo f ref s).1) :
    Quiet c repo limits w (contents c repo f ref s).2 := by
  unfold contents at hout ⊢
  cases hbroken : f.broken with
  | true => exact h
  | false =>
      simp only [hbroken, Bool.false_eq_true, if_false, file_eq] at hout ⊢
      exact quiet_get hw (h.at_time _) (hasks hbroken) (unlimited_of_bind hout)

/-! ## Versions and listings -/

/-- Before a version is known, at most the lookup is sent. -/
theorem traced_version (hsend : c.canSend = true) :
    Traced c repo limits w (versionOf c repo (.start w)).2 := by
  unfold versionOf
  cases hunnamed : repo.ref.filter (· ≠ "") with
  | some ref => exact quiet_start.traced
  | none =>
      simp only [defaultBranch_eq]
      exact traced_get quiet_start (.lookup hsend hunnamed)

theorem quiet_version (hw : w.WellFormed) (hsend : c.canSend = true)
    (hversion : versionOf c repo (.start w) = (.ok version, s)) : Quiet c repo limits w s := by
  unfold versionOf at hversion
  cases hunnamed : repo.ref.filter (· ≠ "") with
  | some ref =>
      rw [hunnamed] at hversion
      obtain ⟨-, rfl⟩ := Prod.mk.inj hversion
      exact quiet_start
  | none =>
      rw [hunnamed] at hversion
      simp only [defaultBranch_eq] at hversion
      obtain ⟨hout, rfl⟩ := Prod.mk.inj hversion
      exact quiet_get hw quiet_start (.lookup hsend hunnamed)
        (unlimited_of_bind (hout ▸ unlimited_ok version))

section

variable {root : Json} {answer : List (String × Json)} {visits visits' : List Visit}
  {pending rest : List Pending} {l l' : Listing}

/-- The steps of a walk make queries only, below the limit: those before them lead to the directory
that is asked for next. -/
theorem quiet_walks (hw : w.WellFormed) (hbegun : Begun c repo limits (.start w) root s₂)
    (hbefore : Walks c repo limits [⟨root, .str ""⟩] .empty s₂ visits pending l s)
    (hs : Quiet c repo limits w s) (h : Walks c repo limits pending l s visits' rest l' s') :
    Quiet c repo limits w s' := by
  -- The steps taken before are general: each step of the walk is one more of them, as the next
  -- directory is asked for after all of these.
  induction h generalizing visits with
  | none => exact hs
  | step hroom htree hgoes _ ih =>
      refine ih (hbefore.trans (.step hroom htree hgoes (.none _ _ _))) ?_
      exact quiet_tree hw hs (fun _ => .directory hbegun hbefore hroom) (htree ▸ unlimited_ok _)

/-- **A walk is traced**, with the trees of its directories. -/
theorem traced_walk (hw : w.WellFormed) (hbegun : Begun c repo limits (.start w) root s₂)
    {out : Except Stop Listing × Session} (h : walk c repo limits pending l s = some out)
    (hbefore : Walks c repo limits [⟨root, .str ""⟩] .empty s₂ visits pending l s)
    (hs : Quiet c repo limits w s) : Traced c repo limits w out.2 := by
  induction h using walk_induct generalizing visits with
  | done => exact hs.traced
  | ends d _ _ _ _ _ hroom _ => exact traced_tree false hs fun _ => .directory hbegun hbefore hroom
  | goes d _ _ _ _ _ _ _ _ hroom hgoes ih =>
      obtain ⟨answer, htree⟩ := exists_answer_of_walkedOn hgoes
      refine ih (hbefore.trans (.step hroom htree hgoes (.none _ _ _))) ?_
      exact quiet_tree hw hs (fun _ => .directory hbegun hbefore hroom) (htree ▸ unlimited_ok _)

theorem asks_whole (hsend : c.canSend = true)
    (hversion : versionOf c repo (.start w) = (.ok version, s)) (name : String)
    (hname : version = .str name) : Asks c repo limits (.start w) (.tree name true) s :=
  .whole hsend (hname ▸ hversion)

theorem quiet_whole (hw : w.WellFormed) (hsend : c.canSend = true)
    (hversion : versionOf c repo (.start w) = (.ok version, s)) {out : Option Json}
    (htree : c.tree repo version true s = (.ok out, s')) : Quiet c repo limits w s' := by
  have hquiet : Quiet c repo limits w (c.tree repo version true s).2 :=
    quiet_tree hw (quiet_version hw hsend hversion) (asks_whole hsend hversion)
      (by rw [htree]; exact unlimited_ok out)
  rwa [htree] at hquiet

theorem quiet_draws (hw : w.WellFormed) (hsend : c.canSend = true)
    (hversion : versionOf c repo (.start w) = (.ok version, s)) {listed : Option Listing}
    (h : Draws c repo limits version s visits listed s') : Quiet c repo limits w s' := by
  cases h with
  | empty htree => exact quiet_whole hw hsend hversion htree
  | whole htree => exact quiet_whole hw hsend hversion htree
  | walked htree hcut hroot hwalks =>
      refine quiet_walks hw ⟨hsend, version, s, _, hversion, htree, ?_⟩ (.none _ _ _)
        (quiet_whole hw hsend hversion htree) hwalks
      simp [answered, hcut, hroot]

/-- A listing is traced, as a whole or by a walk. -/
theorem traced_listing (hw : w.WellFormed) (hsend : c.canSend = true)
    (hversion : versionOf c repo (.start w) = (.ok version, s)) :
    Traced c repo limits w (ofVersion c repo limits version s).2 := by
  have htraced : Traced c repo limits w (c.tree repo version true s).2 :=
    traced_tree true (quiet_version hw hsend hversion) (asks_whole hsend hversion)
  rw [ofVersion_eq]
  split
  · exact htraced
  · next root hroot =>
    rcases htree : c.tree repo version true s with ⟨out, s₂⟩
    rw [htree] at hroot htraced
    obtain ⟨answer, rfl⟩ : ∃ answer, out = .ok (some (.obj answer)) := by
      unfold answered at hroot
      grind
    split
    · next hwalk =>
      exact traced_walk hw ⟨hsend, version, s, answer, hversion, htree, hroot⟩ hwalk (.none _ _ _)
        (quiet_whole hw hsend hversion htree)
    · exact htraced

end

/-! ## Files -/

section

variable {l : Listing}

/-- Files that are left behind are asked for below the limit. -/
theorem quiet_passes (hw : w.WellFormed) (hdrawn : Drawn c repo limits (.start w) version l s₂)
    (hchosen : (planOf limits l).chosen = before ++ (fs ++ after))
    (hbefore : Passes c repo limits before (.listed limits version l) (s₂.recruit 1) p s)
    (hs : Quiet c repo limits w s) (h : Passes c repo limits fs p s p' s') :
    Quiet c repo limits w s' := by
  induction h generalizing before with
  | none => exact hs
  | @file f fs p p' s s' htime hlimit _ ih =>
      have hnext := hbefore.trans (.one htime hlimit)
      refine ih (by simpa using hchosen) hnext ?_
      exact quiet_contents hw hs (.file hdrawn hchosen hbefore) hlimit

/-- **A retrieval by one worker is traced**, file by file. -/
theorem traced_retrieve (hw : w.WellFormed) (hdrawn : Drawn c repo limits (.start w) version l s₂)
    (hchosen : (planOf limits l).chosen = before ++ fs)
    (hbefore : Passes c repo limits before (.listed limits version l) (s₂.recruit 1) p s)
    (halone : s.timer.others = []) (hs : Quiet c repo limits w s) :
    Traced c repo limits w (retrieve c repo limits fs false p s).2.2 := by
  -- Here it is the files left behind that are general.
  induction fs generalizing before p s with
  | nil => exact hs.traced
  | cons f fs ih =>
      have htraced := traced_contents hs (.file hdrawn hchosen hbefore)
      by_cases htime : (contents c repo f p.refText s).1 = .error .deadline
      · rw [retrieve_late (Prod.ext htime rfl) (alone_contents c repo f p.refText halone)]
        exact htraced.at_time _
      by_cases hlimit : Unlimited (contents c repo f p.refText s).1
      · rw [(retrieve_after limits htime hlimit fs).1]
        have hnext := hbefore.trans (.one htime hlimit)
        exact ih (by simpa using hchosen) hnext (alone_contents c repo f p.refText halone)
          (quiet_contents hw hs (.file hdrawn hchosen hbefore) hlimit)
      · simp only [Unlimited, not_forall, not_not] at hlimit
        obtain ⟨resetAt, hlimit⟩ := hlimit
        obtain ⟨p', hretrieve⟩ : ∃ p', retrieve c repo limits (f :: fs) false p s =
            (none, p', (contents c repo f p.refText s).2) :=
          retrieve_limit (Prod.ext hlimit rfl) fs
        rw [hretrieve]
        exact htraced

end

/-! ## Retrievals -/

/-- **No attempt before a query is made at the limit.** -/
theorem quiet_of_asks (hw : w.WellFormed) (h : Asks c repo limits (.start w) q s) :
    Quiet c repo limits w s := by
  cases h with
  | lookup => exact quiet_start
  | whole hsend hversion => exact quiet_version hw hsend hversion
  | directory hbegun hwalks =>
      obtain ⟨version, s₁, answer, hversion, htree, -⟩ := hbegun.answered
      exact quiet_walks hw hbegun (.none _ _ _) (quiet_whole hw hbegun.canSend hversion htree) hwalks
  | file hdrawn hchosen hpasses =>
      obtain ⟨s₁, visits, hversion, hdraws⟩ := hdrawn.answers
      have hquiet := quiet_draws hw hdrawn.canSend hversion hdraws
      exact (quiet_passes hw hdrawn hchosen (.none _ _) (hquiet.at_time _) hpasses).at_time _

/-- **All that is sent in a retrieval is sent in its attempts.** -/
theorem traced_fetch (hw : w.WellFormed) :
    Traced c repo limits w (fetch c repo limits (.start w)).2.2 := by
  cases hsend : c.canSend with
  | false =>
      simp only [fetch, hsend]
      exact quiet_start.traced
  | true =>
      have htraced : Traced c repo limits w (versionOf c repo (.start w)).2 := traced_version hsend
      rcases hversion : versionOf c repo (.start w) with ⟨stop | version, s₁⟩
      · rw [hversion] at htraced
        rw [fetch_of_unknown 1 hsend hversion]
        exact htraced
      · have hlisting : Traced c repo limits w (ofVersion c repo limits version s₁).2 :=
          traced_listing hw hsend hversion
        rw [fetch_eq 1 hsend hversion, retrieveVersion]
        rcases hlist : ofVersion c repo limits version s₁ with ⟨stop | _ | l, s₂⟩ <;>
          rw [hlist] at hlisting
        · exact hlisting
        · exact hlisting.at_time _
        · obtain ⟨visits, hdraws⟩ := draws_of_ofVersion hlist
          exact traced_retrieve hw ⟨hsend, s₁, visits, hversion, hdraws⟩ rfl (.none _ _) rfl
            ((quiet_draws hw hsend hversion hdraws).at_time _)

end

end SourceAudit.Retrieval

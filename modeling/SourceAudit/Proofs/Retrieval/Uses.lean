import SourceAudit.Proofs.Remote.Acceptance
import SourceAudit.Proofs.Retrieval.Accounts
import SourceAudit.Proofs.Retrieval.Listings

/-!
# SourceAudit.Proofs.Retrieval.Uses

What a retrieval takes from which response. Everything that it has come to is read from the
responses that its queries are answered with, and each of these is a reply that the client accepts.

* `Uses` — the responses that the queries of a run are answered with;
* `Uses.accepts` — each of them has arrived, and its status stands for success or leads astray;
* `Sourced` — the version, the plan and the files of a retrieval are read from such responses;
* `fetch_uses` — those of a retrieval are, whatever becomes of it.
-/

namespace SourceAudit.Retrieval

open Remote Remote.Client Listing

/-- The responses that the queries of a run are answered with, from one session to another. A query
that fails leaves none, and between queries one worker takes over from another. -/
inductive Uses (c : Client) (repo : Repository) :
    Session → List (Query × Response) → Session → Prop
  | nil (s : Session) : Uses c repo s [] s
  | answered {q : Query} {r : Response} {s s₁ s' : Session} {uses : List (Query × Response)}
      (h : c.get repo q s = (.ok r, s₁)) (hrest : Uses c repo s₁ uses s') :
      Uses c repo s ((q, r) :: uses) s'
  | failed {q : Query} {stop : Stop} {s s₁ s' : Session} {uses : List (Query × Response)}
      (h : c.get repo q s = (.error stop, s₁)) (hrest : Uses c repo s₁ uses s') :
      Uses c repo s uses s'
  | passed {s s' : Session} {uses : List (Query × Response)} (timer : Timer)
      (hrest : Uses c repo { s with timer := timer } uses s') : Uses c repo s uses s'

/-- A directory is read from the listing in a response. -/
def Reads (uses : List (Query × Response)) (d : Directory) : Prop :=
  ∃ version recursive r answer, (.tree version recursive, r) ∈ uses ∧
    r.listing = .ok (some (.obj answer)) ∧ entries? answer = some d.entries

/-- What a retrieval has come to is read from responses. -/
structure Sourced (repo : Repository) (limits : Limits) (uses : List (Query × Response))
    (p : Progress) : Prop where
  /-- The version is the one that is named, or it is read from a description of the repository. -/
  version : ∀ version, p.ref = some version →
    (∃ name, repo.ref.filter (· ≠ "") = some name ∧ version = .str name) ∨
      ∃ r, (.lookup, r) ∈ uses ∧ r.branch = .ok version
  /-- The files chosen and skipped are those of directories that are read from listings. -/
  plan : ∃ ds, (∀ d ∈ ds, Reads uses d) ∧
    let candidates := (offered ds).take limits.maxFiles.toNat
    let plan := Plan.ofCandidates limits.maxFileSize limits.maxTotalBytes candidates
    p.considered = candidates.length ∧ p.planned = plan.chosen.map Candidate.path ∧
      ∀ x ∈ p.skipped, x ∈ plan.skipped ∨ x.path ∈ p.planned
  /-- The files retrieved are bodies of responses. -/
  files : ∀ a ∈ p.files, a.path ∈ p.planned ∧
    ∃ r, (.file a.path p.refText, r) ∈ uses ∧ a = artifactOf limits a.path r.body

section

variable {c : Client} {repo : Repository} {limits : Limits} {s s' s'' : Session}
  {uses uses' : List (Query × Response)}

/-- Uses follow each other. -/
theorem Uses.trans (h : Uses c repo s uses s') (h' : Uses c repo s' uses' s'') :
    Uses c repo s (uses ++ uses') s'' := by
  induction h with
  | nil => exact h'
  | answered h _ ih => exact .answered h (ih h')
  | failed h _ ih => exact .failed h (ih h')
  | passed timer _ ih => exact .passed timer (ih h')

/-- The time does not matter to them. -/
theorem Uses.pass (h : Uses c repo s uses s') (timer : Timer) :
    Uses c repo s uses { s' with timer := timer } := by
  simpa using h.trans (.passed timer (.nil _))

/-- **Every response used is accepted**: it has arrived for its query, and its status stands for
success or leads astray. -/
theorem Uses.accepts (h : Uses c repo s uses s') : ∀ use ∈ uses,
    c.Arrived repo s.world.script use.1 use.2 ∧ (Succeeds use.1 use.2 ∨ Astray use.2) := by
  induction h with
  | nil => simp
  | @answered q r s s₁ s' uses hget hrest ih =>
      have haccepts := get_accepts (congrArg Prod.fst hget)
      have hwithin := get_within c repo q s
      rw [hget] at hwithin
      refine List.forall_mem_cons.mpr ⟨haccepts, fun use huse => ?_⟩
      exact ⟨(ih use huse).1.within hwithin, (ih use huse).2⟩
  | @failed q stop s s₁ s' uses hget hrest ih =>
      have hwithin := get_within c repo q s
      rw [hget] at hwithin
      exact fun use huse => ⟨(ih use huse).1.within hwithin, (ih use huse).2⟩
  | passed _ _ ih => exact ih

/-! ## Operations -/

/-- A query that is answered uses its answer. -/
theorem uses_get (c : Client) (repo : Repository) (q : Query) (s : Session) :
    ∃ uses, Uses c repo s uses (c.get repo q s).2 ∧
      ∀ r, (c.get repo q s).1 = .ok r → (q, r) ∈ uses := by
  rcases hget : c.get repo q s with ⟨stop | r, s'⟩
  · exact ⟨[], .failed hget (.nil s'), by simp⟩
  · refine ⟨[(q, r)], .answered hget (.nil s'), fun r' h => ?_⟩
    rw [Except.ok.inj h]
    exact List.mem_cons_self

theorem eq_ok_of_bind {α β : Type} {out : Except Stop α} {f : α → Except Stop β} {b : β}
    (h : out.bind f = .ok b) : ∃ a, out = .ok a ∧ f a = .ok b := by
  cases out with
  | error stop => simp [Except.bind] at h
  | ok a => exact ⟨a, rfl, h⟩

/-- The default branch is read from an answer to a lookup. -/
theorem defaultBranch_uses (c : Client) (repo : Repository) (s : Session) :
    ∃ uses, Uses c repo s uses (c.defaultBranch repo s).2 ∧
      ∀ version, (c.defaultBranch repo s).1 = .ok version →
        ∃ r, (.lookup, r) ∈ uses ∧ r.branch = .ok version := by
  obtain ⟨uses, huses, hmem⟩ := uses_get c repo .lookup s
  rw [defaultBranch_eq]
  refine ⟨uses, huses, fun version h => ?_⟩
  obtain ⟨r, hget, hbranch⟩ := eq_ok_of_bind h
  exact ⟨r, hmem r hget, hbranch⟩

/-- A tree is read from an answer to the request for it. -/
theorem tree_uses (c : Client) (repo : Repository) (version : Json) (recursive : Bool)
    (s : Session) :
    ∃ uses, Uses c repo s uses (c.tree repo version recursive s).2 ∧
      ∀ answer, (c.tree repo version recursive s).1 = .ok answer →
        ∃ name r, (.tree name recursive, r) ∈ uses ∧ r.listing = .ok answer := by
  cases version with
  | str name =>
      obtain ⟨uses, huses, hmem⟩ := uses_get c repo (.tree name recursive) s
      rw [tree_eq]
      refine ⟨uses, huses, fun answer h => ?_⟩
      obtain ⟨r, hget, hlisting⟩ := eq_ok_of_bind h
      exact ⟨name, r, hmem r hget, hlisting⟩
  | _ => exact ⟨[], .nil s, by simp [Client.tree]⟩

/-- The contents of a file are the body of an answer to the request for it. -/
theorem contents_uses (c : Client) (repo : Repository) (f : Candidate) (ref : Option String)
    (s : Session) :
    ∃ uses, Uses c repo s uses (contents c repo f ref s).2 ∧
      ∀ body, (contents c repo f ref s).1 = .ok body →
        ∃ r, (.file f.path ref, r) ∈ uses ∧ r.body = body := by
  unfold contents
  split
  · exact ⟨[], .nil s, by simp⟩
  · obtain ⟨uses, huses, hmem⟩ := uses_get c repo (.file f.path ref) s.handOver
    rw [file_eq]
    refine ⟨uses, .passed _ huses, fun body h => ?_⟩
    rcases hget : (c.get repo (.file f.path ref) s.handOver).1 with stop | r
    · simp [hget, Except.map] at h
    · rw [hget] at h
      exact ⟨r, hmem r hget, Except.ok.inj h⟩

/-! ## Listings -/

theorem Reads.mono {d : Directory} (h : Reads uses d) (hsub : uses ⊆ uses') : Reads uses' d := by
  obtain ⟨version, recursive, r, answer, hmem, hread⟩ := h
  exact ⟨version, recursive, r, answer, hsub hmem, hread⟩

/-- A listing is made of the first files of directories that are read from responses. -/
def ListedFrom (limits : Limits) (uses : List (Query × Response)) (found : List Candidate)
    (l : Listing) : Prop :=
  ∃ ds, (∀ d ∈ ds, Reads uses d) ∧ l = first limits.maxFiles.toNat (found ++ offered ds)

/-- What a walk goes on with after the answer for a directory is what it had, and the files of this
directory. -/
theorem walkedOn_reads {p : Pending} {pending pending' : List Pending} {l' : Listing}
    {found : List Candidate} {out : Except Stop (Option Json)}
    (hroom : (first limits.maxFiles.toNat found).truncated = false)
    (hgoes : walkedOn limits p pending (first limits.maxFiles.toNat found) out =
      .ok (pending', l')) :
    ∃ answer entries, out = .ok (some (.obj answer)) ∧ entries? answer = some entries ∧
      l' = first limits.maxFiles.toNat (found ++ Directory.offers ⟨p.inside, entries⟩) := by
  unfold walkedOn at hgoes
  split at hgoes
  · simp at hgoes
  · next answer =>
    split at hgoes
    · next next hadded =>
      obtain rfl := Except.ok.inj hgoes
      obtain ⟨entries, hentries, hadd⟩ := Option.bind_eq_some_iff.mp hadded
      exact ⟨answer, entries, rfl, hentries,
        (addDirectory_eq (Nat.not_lt.mp (of_decide_eq_false hroom)) hadd).1⟩
    · simp at hgoes
  · simp at hgoes

theorem walk_uses {pending : List Pending} {l : Listing} {out : Except Stop Listing × Session}
    (h : walk c repo limits pending l s = some out) {found : List Candidate}
    (hfound : l = first limits.maxFiles.toNat found) :
    ∃ uses, Uses c repo s uses out.2 ∧ ∀ l', out.1 = .ok l' → ListedFrom limits uses found l' := by
  induction h using walk_induct generalizing found with
  | done _ _ s =>
      refine ⟨[], .nil s, fun l' hl' => ⟨[], by simp, ?_⟩⟩
      rw [← Except.ok.inj hl', hfound]
      simp [offered]
  | ends p _ _ s =>
      obtain ⟨uses, huses, -⟩ := tree_uses c repo p.version false s
      exact ⟨uses, huses, by simp⟩
  | goes p _ _ s _ _ _ _ _ hroom hgoes ih =>
      subst hfound
      obtain ⟨uses, huses, hanswer⟩ := tree_uses c repo p.version false s
      obtain ⟨answer, entries, htree, hentries, hl'⟩ := walkedOn_reads hroom hgoes
      obtain ⟨name, r, hmem, hlisting⟩ := hanswer _ htree
      obtain ⟨uses', huses', hlists⟩ := ih hl'
      refine ⟨uses ++ uses', huses.trans huses', fun l' hout => ?_⟩
      obtain ⟨ds, hds, hl'⟩ := hlists l' hout
      refine ⟨⟨p.inside, entries⟩ :: ds, List.forall_mem_cons.mpr ⟨?_, fun d hd => ?_⟩, ?_⟩
      · exact ⟨name, false, r, answer, List.mem_append_left _ hmem, hlisting, hentries⟩
      · exact (hds d hd).mono (List.subset_append_right _ _)
      · rw [hl']
        simp [offered]

/-- What the first answer of a listing says is read from that answer. -/
theorem answered_lists {version : Json} {l : Listing}
    (hanswer : ∀ answer, (c.tree repo version true s).1 = .ok answer →
      ∃ name r, (.tree name true, r) ∈ uses ∧ r.listing = .ok answer)
    (h : answered limits (c.tree repo version true s).1 = .inl (.ok (some l))) :
    ListedFrom limits uses [] l := by
  unfold answered at h
  split at h
  · simp at h
  · simp at h
  · next answer htree =>
    split at h
    · split at h <;> simp at h
    · split at h
      · next hadded =>
        obtain ⟨entries, hentries, hadd⟩ := Option.bind_eq_some_iff.mp hadded
        obtain rfl := Option.some.inj (Except.ok.inj (Sum.inl.inj h))
        obtain ⟨name, r, hmem, hlisting⟩ := hanswer _ htree
        rw [← first_nil limits.maxFiles.toNat] at hadd
        refine ⟨[⟨.str "", entries⟩],
          List.forall_mem_singleton.mpr ⟨name, true, r, answer, hmem, hlisting, hentries⟩, ?_⟩
        rw [addAll_eq (Nat.zero_le _) hadd]
        simp [offered]
      · simp at h
  · simp at h

/-- **A listing is read from the responses to its queries**, the first of which asks for everything
at once. -/
theorem ofVersion_uses (c : Client) (repo : Repository) (limits : Limits) (version : Json)
    (s : Session) :
    ∃ uses, Uses c repo s uses (ofVersion c repo limits version s).2 ∧
      ∀ listed, (ofVersion c repo limits version s).1 = .ok listed →
        (∃ name r, (.tree name true, r) ∈ uses) ∧
          ∀ l, listed = some l → ListedFrom limits uses [] l := by
  obtain ⟨uses, huses, hanswer⟩ := tree_uses c repo version true s
  rw [ofVersion_eq]
  rcases htree : (c.tree repo version true s).1 with stop | answer
  · exact ⟨uses, huses, by simp [answered]⟩
  obtain ⟨name, r, hmem, -⟩ := hanswer answer htree
  rw [← htree]
  cases hfirst : answered limits (c.tree repo version true s).1 with
  | inl listed =>
      refine ⟨uses, huses, fun listed' h => ⟨⟨name, r, hmem⟩, fun l hl => ?_⟩⟩
      obtain rfl : listed = .ok listed' := h
      subst hl
      exact answered_lists hanswer hfirst
  | inr root =>
      dsimp only
      rcases hwalk : walk c repo limits [⟨root, .str ""⟩] .empty (c.tree repo version true s).2 with
        _ | ⟨stop | l', s'⟩
      · exact ⟨uses, huses, by simp⟩
      · obtain ⟨uses', huses', -⟩ := walk_uses hwalk (first_nil limits.maxFiles.toNat).symm
        exact ⟨uses ++ uses', huses.trans huses', by simp [Except.map]⟩
      · obtain ⟨uses', huses', hlists⟩ := walk_uses hwalk (first_nil limits.maxFiles.toNat).symm
        refine ⟨uses ++ uses', huses.trans huses', fun listed h =>
          ⟨⟨name, r, List.mem_append_left _ hmem⟩, fun l hl => ?_⟩⟩
        obtain rfl := Option.some.inj ((Except.ok.inj h).trans hl)
        obtain ⟨ds, hds, hl'⟩ := hlists l' rfl
        exact ⟨ds, fun d hd => (hds d hd).mono (List.subset_append_right _ _), hl'⟩

/-! ## Progress -/

section

variable {p : Progress}

/-- More uses do no harm. -/
theorem Sourced.mono (h : Sourced repo limits uses p) (hsub : uses ⊆ uses') :
    Sourced repo limits uses' p where
  version version hversion :=
    (h.version version hversion).imp_right fun ⟨r, hmem, hbranch⟩ => ⟨r, hsub hmem, hbranch⟩
  plan := by
    obtain ⟨ds, hds, hplan⟩ := h.plan
    exact ⟨ds, fun d hd => (hds d hd).mono hsub, hplan⟩
  files a ha := by
    obtain ⟨hplanned, r, hmem, hbody⟩ := h.files a ha
    exact ⟨hplanned, r, hsub hmem, hbody⟩

theorem Sourced.keep {path : String} {r : Response} (h : Sourced repo limits uses p)
    (hplanned : path ∈ p.planned) (hmem : (.file path p.refText, r) ∈ uses) :
    Sourced repo limits uses (p.keep (artifactOf limits path r.body)) where
  version := h.version
  plan := h.plan
  files a ha := by
    rcases List.mem_append.mp ha with ha | ha
    · exact h.files a ha
    · obtain rfl := List.mem_singleton.mp ha
      rw [path_artifactOf]
      exact ⟨hplanned, r, hmem, rfl⟩

theorem Sourced.skip {path : String} (h : Sourced repo limits uses p)
    (hplanned : path ∈ p.planned) (reason : SkipReason) :
    Sourced repo limits uses (p.skip path reason) where
  version := h.version
  plan := by
    obtain ⟨ds, hds, hconsidered, hchosen, hskipped⟩ := h.plan
    refine ⟨ds, hds, hconsidered, hchosen, fun x hx => ?_⟩
    rcases List.mem_append.mp hx with hx | hx
    · exact hskipped x hx
    · obtain rfl := List.mem_singleton.mp hx
      exact Or.inr hplanned
  files := h.files

theorem Sourced.truncate (h : Sourced repo limits uses p) :
    Sourced repo limits uses { p with truncated := true } :=
  ⟨h.version, h.plan, h.files⟩

/-- **The files of a retrieval are read from the responses to its queries.** -/
theorem retrieve_uses (fs : List Candidate) (limited : Bool) {s₀ : Session}
    (huses : Uses c repo s₀ uses s) (h : Sourced repo limits uses p)
    (hplanned : ∀ f ∈ fs, f.path ∈ p.planned) :
    ∃ uses', uses ⊆ uses' ∧ Uses c repo s₀ uses' (retrieve c repo limits fs limited p s).2.2 ∧
      Sourced repo limits uses' (retrieve c repo limits fs limited p s).2.1 := by
  induction fs generalizing limited p s uses with
  | nil => exact ⟨uses, List.Subset.refl _, by simpa [retrieve] using ⟨huses, h⟩⟩
  | cons f fs ih =>
      obtain ⟨hf, hfs⟩ := List.forall_mem_cons.mp hplanned
      cases limited with
      | true =>
          rw [retrieve]
          exact ih true huses (h.skip hf .rateLimited) hfs
      | false =>
          obtain ⟨uses₁, huses₁, hbody⟩ := contents_uses c repo f p.refText s
          have hmore := huses.trans huses₁
          have hp := h.mono (List.subset_append_left uses uses₁)
          have hgrow : ∀ {uses'}, uses ++ uses₁ ⊆ uses' → uses ⊆ uses' :=
            fun hsub => List.Subset.trans (List.subset_append_left uses uses₁) hsub
          rw [retrieve]
          rcases hcontents : contents c repo f p.refText s with ⟨(e | _) | body, s₁⟩ <;>
            rw [hcontents] at hmore hbody
          · simp only
            cases hreason : skipReason? e with
            | none =>
                obtain ⟨uses', hsub, hrest⟩ := ih false hmore hp hfs
                exact ⟨uses', hgrow hsub, hrest⟩
            | some reason =>
                -- What is skipped is the same for each reason; only a limit ends the requests.
                have hskip := hp.skip hf reason
                cases reason with
                | rateLimited =>
                    obtain ⟨uses', hsub, hrest⟩ := ih true hmore hskip.truncate hfs
                    exact ⟨uses', hgrow hsub, hrest⟩
                | _ =>
                    obtain ⟨uses', hsub, hrest⟩ := ih false hmore hskip hfs
                    exact ⟨uses', hgrow hsub, hrest⟩
          · have hlost : Uses c repo s₀ (uses ++ uses₁) s₁.lose := hmore.pass _
            simp only
            split
            · exact ⟨_, List.subset_append_left _ _, hlost, hp⟩
            · obtain ⟨uses', hsub, hrest⟩ := ih false hlost hp hfs
              exact ⟨uses', hgrow hsub, hrest⟩
          · obtain ⟨r, hmem, rfl⟩ := hbody body rfl
            obtain ⟨uses', hsub, hrest⟩ :=
              ih false hmore (hp.keep hf (List.mem_append_right _ hmem)) hfs
            exact ⟨uses', hgrow hsub, hrest⟩

/-- **The files that workers retrieve are read from the responses to their queries.** -/
theorem retrieveBy_uses (workers : Int) (fs : List Candidate) {s₀ : Session}
    (huses : Uses c repo s₀ uses s) (h : Sourced repo limits uses p)
    (hplanned : ∀ f ∈ fs, f.path ∈ p.planned) :
    ∃ uses', uses ⊆ uses' ∧ Uses c repo s₀ uses' (retrieveBy c repo limits workers fs p s).2.2 ∧
      Sourced repo limits uses' (retrieveBy c repo limits workers fs p s).2.1 := by
  unfold retrieveBy
  split
  · exact ⟨uses, List.Subset.refl _, huses, h⟩
  · split
    · exact ⟨uses, List.Subset.refl _, huses.pass _, h⟩
    · exact retrieve_uses fs false (huses.pass _) h hplanned

/-! ## Retrievals -/

/-- Nothing is read from a response before the version is known. -/
theorem sourced_start (repo : Repository) (limits : Limits) (uses : List (Query × Response))
    (ref : Option Json) (hversion : ∀ version, ref = some version →
      (∃ name, repo.ref.filter (· ≠ "") = some name ∧ version = .str name) ∨
        ∃ r, (.lookup, r) ∈ uses ∧ r.branch = .ok version) :
    Sourced repo limits uses { Progress.start with ref := ref } where
  version := hversion
  plan := ⟨[], by simp, by simp [offered, Progress.start, Plan.ofCandidates]⟩
  files := by simp [Progress.start]

/-- A plan for the files listed is read from the responses to the listing. -/
theorem Sourced.planned {l : Listing} (h : Sourced repo limits uses p)
    (hlists : ListedFrom limits uses [] l) (hfiles : p.files = []) :
    Sourced repo limits uses
      { p with
        considered := l.candidates.length
        planned := (Plan.ofCandidates limits.maxFileSize limits.maxTotalBytes
          l.candidates).chosen.map Candidate.path
        skipped := (Plan.ofCandidates limits.maxFileSize limits.maxTotalBytes l.candidates).skipped
        truncated := l.truncated || (Plan.ofCandidates limits.maxFileSize limits.maxTotalBytes
          l.candidates).truncated } where
  version := h.version
  plan := by
    obtain ⟨ds, hds, rfl⟩ := hlists
    exact ⟨ds, hds, rfl, rfl, fun x hx => Or.inl hx⟩
  files := by simp [hfiles]

/-- **All that a retrieval has come to is read from the responses to its queries.** It has come to
the end only if the first query for a listing is answered. -/
theorem retrieveVersion_uses (workers : Int) {version : Json} {s₀ : Session}
    (huses : Uses c repo s₀ uses s)
    (hversion : (∃ name, repo.ref.filter (· ≠ "") = some name ∧ version = .str name) ∨
      ∃ r, (.lookup, r) ∈ uses ∧ r.branch = .ok version) :
    let run := retrieveVersion c repo limits workers version
      { Progress.start with ref := some version } s
    ∃ uses', Uses c repo s₀ uses' run.2.2 ∧ Sourced repo limits uses' run.2.1 ∧
      ((∃ name r, (.tree name true, r) ∈ uses') ∨ run.1 ≠ none ∧ run.2.1.considered = 0) := by
  have hstart := sourced_start repo limits uses (some version)
    fun _ h => Option.some.inj h ▸ hversion
  obtain ⟨uses₁, huses₁, hlisted⟩ := ofVersion_uses c repo limits version s
  have hmore := huses.trans huses₁
  have hp := hstart.mono (List.subset_append_left uses uses₁)
  unfold retrieveVersion
  rcases hlist : ofVersion c repo limits version s with ⟨stop | listed, s₁⟩ <;>
    rw [hlist] at hmore hlisted
  · exact ⟨_, hmore, hp, Or.inr ⟨by simp, rfl⟩⟩
  · obtain ⟨⟨name, r, hmem⟩, hlists⟩ := hlisted listed rfl
    cases listed with
    | none =>
        obtain ⟨uses', hsub, huses', hsourced⟩ :=
          retrieveBy_uses workers [] hmore hp (List.forall_mem_nil _)
        exact ⟨uses', huses', hsourced, Or.inl ⟨name, r, hsub (List.mem_append_right _ hmem)⟩⟩
    | some l =>
        obtain ⟨ds, hds, hl⟩ := hlists l rfl
        have hplan := hp.planned
          ⟨ds, fun d hd => (hds d hd).mono (List.subset_append_right _ _), hl⟩ rfl
        obtain ⟨uses', hsub, huses', hsourced⟩ := retrieveBy_uses workers
          (Plan.ofCandidates limits.maxFileSize limits.maxTotalBytes l.candidates).chosen hmore
          hplan fun f hf => List.mem_map_of_mem hf
        exact ⟨uses', huses', hsourced, Or.inl ⟨name, r, hsub (List.mem_append_right _ hmem)⟩⟩

/-- **All that a retrieval has come to is read from the responses to its queries**, whatever becomes
of it. -/
theorem fetch_uses (c : Client) (repo : Repository) (limits : Limits) (s : Session)
    (workers : Int) :
    let run := fetch c repo limits s workers
    ∃ uses, Uses c repo s uses run.2.2 ∧ Sourced repo limits uses run.2.1 ∧
      ((∃ name r, (.tree name true, r) ∈ uses) ∨ run.1 ≠ none ∧ run.2.1.considered = 0) := by
  unfold fetch
  split
  · exact ⟨[], .nil s, sourced_start repo limits [] none (by simp), Or.inr ⟨by simp, rfl⟩⟩
  · split
    · next name hname => exact retrieveVersion_uses workers (.nil s) (Or.inl ⟨name, hname, rfl⟩)
    · obtain ⟨uses, huses, hbranch⟩ := defaultBranch_uses c repo s
      rcases hlookup : c.defaultBranch repo s with ⟨stop | version, s₁⟩ <;>
        rw [hlookup] at huses hbranch
      · exact ⟨uses, huses, sourced_start repo limits uses none (by simp), Or.inr ⟨by simp, rfl⟩⟩
      · exact retrieveVersion_uses workers huses (Or.inr (hbranch version rfl))

end

end

end SourceAudit.Retrieval

import SourceAudit.Proofs.Remote.Retries
import SourceAudit.Proofs.Scan.Queries

/-!
# SourceAudit.Proofs.Scan.RateLimit

The limit of requests in a retrieval. Whatever the clock does, nothing is sent any more once the
limit is reached, and what is left of the retrieval is skipped.

* `EndsFor` — how a retrieval ends at the limit: it fails, or it skips the files still to come;
* `fetch_of_limit` — it ends so when one of its queries fails for the limit;
* `limit_ends_requests` — before each attempt there is none at the limit, none is made while no
  requests are known to be left, and one at the limit ends the retrieval.
-/

namespace SourceAudit.Retrieval

open Remote Remote.Client Listing

/-- A file and all planned after it are skipped for the limit of requests. -/
def StoppedAt (path : String) (p : Progress) : Prop :=
  p.truncated = true ∧ ∃ done rest earlier, p.planned = done ++ path :: rest ∧
    p.skipped = earlier ++ (path :: rest).map (⟨·, SkipReason.rateLimited.name⟩) ∧
    ∀ a ∈ p.files, a.path ∈ done

/-- How a retrieval ends when one of its queries comes to the limit: it fails if the query is for a
version or a listing, and skips files if it is for one. That fails as well if the response for a
file before could not be used. -/
def EndsFor (q : Query) (stop : Option Stop) (p : Progress) : Prop :=
  match q with
  | .file path _ =>
    StoppedAt path p ∧ (stop = none ∨ ∃ cause, stop = some (.failed (.unusable cause)))
  | _ => (∃ resetAt, stop = some (.failed (.rateLimited resetAt))) ∧ p.planned = [] ∧ p.files = []

section

variable {c : Client} {repo : Repository} {limits : Limits} {w : World} {s s' s₁ s₂ : Session}
  {q : Query} {version : Json} {p : Progress} {f : Candidate} {before after : List Candidate}
  {resetAt : Option Instant} {name : String}

theorem tree_of_limit {recursive : Bool}
    (h : c.get repo (.tree name recursive) s = (.error (.failed (.rateLimited resetAt)), s')) :
    c.tree repo (.str name) recursive s = (.error (.failed (.rateLimited resetAt)), s') := by
  rw [tree_eq, h]
  rfl

theorem contents_of_limit {ref : Option String} (hnamed : f.broken = false)
    (h : c.get repo (.file f.path ref) s.handOver = (.error (.failed (.rateLimited resetAt)), s')) :
    contents c repo f ref s = (.error (.failed (.rateLimited resetAt)), s') := by
  simp only [contents, hnamed, Bool.false_eq_true, if_false, file_eq, h]
  rfl

/-- A retrieval whose listing fails for the limit. -/
theorem fetch_of_unlisted (hsend : c.canSend = true)
    (hversion : versionOf c repo s = (.ok version, s₁))
    (hlist : ofVersion c repo limits version s₁ =
      (.error (.failed (.rateLimited resetAt)), s')) :
    fetch c repo limits s = (some (.failed (.rateLimited resetAt)),
      { Progress.start with ref := some version }, s') := by
  rw [fetch_eq 1 hsend hversion, retrieveVersion, hlist]

/-- The files chosen that are still to come are skipped once the limit is reached. -/
theorem retrieve_of_limit {l : Listing} (hchosen : (planOf limits l).chosen = before ++ f :: after)
    (hpasses : Passes c repo limits before (.listed limits version l) s₂ p s)
    (h : contents c repo f p.refText s = (.error (.failed (.rateLimited resetAt)), s')) :
    let run := retrieve c repo limits (planOf limits l).chosen false (.listed limits version l) s₂
    run.2.2 = s' ∧ StoppedAt f.path run.2.1 ∧
      (run.1 = none ∨ ∃ cause, run.1 = some (.failed (.unusable cause))) := by
  obtain ⟨hrest, hend⟩ := retrieve_of_passes hpasses (f :: after)
  obtain ⟨hplanned, hfiles⟩ := hpasses.adds
  have hstop : retrieve c repo limits (f :: after) false p s =
      (none, { p.skip f.path .rateLimited with
        truncated := true
        skipped := (p.skip f.path .rateLimited).skipped ++
          after.map (⟨·.path, SkipReason.rateLimited.name⟩) }, s') := by
    rw [retrieve, h]
    simp only [skipReason?]
    rw [retrieve_skips]
  rw [hchosen]
  rw [hstop] at hrest hend
  refine ⟨congrArg Prod.snd hrest, ?_, hend⟩
  simp only [hrest]
  refine ⟨rfl, before.map Candidate.path, after.map Candidate.path, p.skipped, ?_, ?_, ?_⟩
  · change p.planned = _
    rw [hplanned]
    simp [Progress.listed, hchosen]
  · simp [Progress.skip, Function.comp_def]
  · intro a ha
    exact (hfiles a ha).resolve_left (by simp [Progress.listed])

/-- **What a retrieval comes to at the limit.** -/
theorem fetch_of_limit {s₀ : Session} (h : Asks c repo limits s₀ q s)
    (hget : c.get repo q s = (.error (.failed (.rateLimited resetAt)), s')) :
    (fetch c repo limits s₀).2.2 = s' ∧
      EndsFor q (fetch c repo limits s₀).1 (fetch c repo limits s₀).2.1 := by
  cases h with
  | lookup hsend hunnamed =>
      have hversion : versionOf c repo s = (.error (.failed (.rateLimited resetAt)), s') := by
        simp only [versionOf, hunnamed, defaultBranch_eq, hget]
        rfl
      rw [fetch_of_unknown 1 hsend hversion]
      exact ⟨rfl, ⟨resetAt, rfl⟩, rfl, rfl⟩
  | whole hsend hversion =>
      rw [fetch_of_unlisted hsend hversion (by rw [ofVersion, tree_of_limit hget])]
      exact ⟨rfl, ⟨resetAt, rfl⟩, rfl, rfl⟩
  | directory hbegun hwalks hroom hnamed =>
      obtain ⟨version, s₁, answer, hversion, htree, hroot⟩ := hbegun.answered
      have hlist : ofVersion c repo limits version s₁ =
          (.error (.failed (.rateLimited resetAt)), s') := by
        rw [ofVersion_eq, htree]
        simp only [hroot, walk_of_walks hwalks, walk_cons hroom, hnamed, tree_of_limit hget]
        rfl
      rw [fetch_of_unlisted hbegun.canSend hversion hlist]
      exact ⟨rfl, ⟨resetAt, rfl⟩, rfl, rfl⟩
  | file hdrawn hchosen hpasses hnamed =>
      obtain ⟨s₁, visits, hversion, hdraws⟩ := hdrawn.answers
      rw [fetch_of_draws 1 hdrawn.canSend hversion hdraws]
      exact retrieve_of_limit hchosen hpasses (contents_of_limit hnamed hget)

/-- **Nothing is sent after the limit is reached.** In a world whose headers can be read, and
however its clock moves, all that a retrieval sends is sent in its attempts. Before any of them,
none was at the limit; and in none is a request sent while the last response that counted the
requests left had said that there are none, and the end of that is yet to come. With an attempt at
the limit the retrieval is over: it fails unless the attempt is for a file, and then it is
incomplete, that file and all planned after it being skipped. -/
theorem limit_ends_requests (c : Client) (repo : Repository) (limits : Limits)
    (hw : w.WellFormed) :
    let run := fetch c repo limits (.start w)
    (∃ as, Course c repo (.start w) as run.2.2 ∧
      run.2.2.requests = as.filterMap (c.requestOf repo) ∧
      ∀ a ∈ as, Attempts c repo limits (.start w) a) ∧
    ∀ a, Attempts c repo limits (.start w) a →
      (∃ before, Course c repo (.start w) before a.session ∧
        a.session.requests = before.filterMap (c.requestOf repo) ∧
        (∀ b ∈ before, Attempts c repo limits (.start w) b ∧ ¬ c.AtLimit repo b) ∧
        ∀ x t, c.requestOf repo a = some x → c.toldIn repo before = some (0, some t) →
          ∃ now, Instant.ofEpoch a.session.world.now = .ok now ∧ t.micros ≤ now.micros) ∧
      (c.AtLimit repo a → run.2.2 = (c.send repo a.query a.session).2 ∧
        EndsFor a.query run.1 run.2.1) := by
  refine ⟨?_, fun a ⟨s, hasks, hm⟩ => ⟨?_, fun hlimit => ?_⟩⟩
  · obtain ⟨as, hcourse, has⟩ : Traced c repo limits w (fetch c repo limits (.start w)).2.2 :=
      traced_fetch hw
    exact ⟨as, hcourse, requests_of_course hcourse, has⟩
  · obtain ⟨before, hcourse, hbefore⟩ := quiet_attempt hw (quiet_of_asks hw hasks) hasks hm
    exact ⟨before, hcourse, requests_of_course hcourse, hbefore,
      fun x t hx htold => spared_of_told hw hcourse htold hx⟩
  · obtain ⟨resetAt, hget⟩ := get_of_atLimit hw (quiet_of_asks hw hasks).within hm hlimit
    exact fetch_of_limit hasks hget

end

end SourceAudit.Retrieval

namespace SourceAudit.Sample

open Number Text Remote Remote.Client Retrieval Listing

/-- A world of two files in which the limit is reached with the first of them. -/
def spentWorld : World where
  now := 1700000000
  script := ⟨[("/repos/o/n/git/trees/main?recursive=1",
      success ("\x7b\"tree\":[\x7b\"path\":\"a.py\",\"type\":\"blob\"\x7d," ++
        "\x7b\"path\":\"b.py\",\"type\":\"blob\"\x7d]\x7d")),
    ("/repos/o/n/contents/a.py?ref=main",
      [⟨.response ⟨403, spentHeaders, []⟩, some 1700000005⟩]),
    ("/repos/o/n/contents/b.py?ref=main", success "x")]⟩

/-- The listing of the two files. -/
def spentListing : Listing := ⟨[⟨"a.py", 0, false⟩, ⟨"b.py", 0, false⟩], false⟩

/-- The answer for everything in the main branch. -/
def spentAnswer : List (String × Json) :=
  [("tree", .arr [.obj [("path", .str "a.py"), ("type", .str "blob")],
    .obj [("path", .str "b.py"), ("type", .str "blob")]])]

theorem wellFormed_spentWorld : spentWorld.WellFormed := by
  refine fun target => Script.forall_replies (fun entry hentry reply hreply raw hraw now _ => ?_)
    target
  simp only [spentWorld, success, List.mem_cons, List.not_mem_nil, or_false] at hentry
  rcases hentry with rfl | rfl | rfl <;> obtain rfl := List.mem_singleton.mp hreply <;>
    obtain rfl := Outcome.response.inj hraw
  · exact legibleLimit_empty now
  · exact legibleLimit_spent now
  · exact legibleLimit_empty now

/-- The attempt for the first file is at the limit. -/
theorem exists_attempt_spentWorld : ∃ a : Attempt, a.query = .file "a.py" (some "main") ∧
    Attempts (scanner.client none) mainBranch scanner.settings.limits (.start spentWorld) a ∧
    (scanner.client none).AtLimit mainBranch a := by
  -- One evaluation, in which the tree is asked for once.
  have hrun : ((scanner.client none).tree mainBranch (.str "main") true (.start spentWorld)).1 =
        .ok (some (.obj spentAnswer)) ∧
      ((scanner.client none).delivered mainBranch ⟨.file "a.py" (some "main"),
        (((scanner.client none).tree mainBranch (.str "main") true
          (.start spentWorld)).2.recruit 1).handOver⟩).any
          (fun r => r.isRateLimited = some true) = true := by
    decide +kernel
  obtain ⟨htree, hlimit⟩ := hrun
  rcases hout : (scanner.client none).tree mainBranch (.str "main") true (.start spentWorld) with
    ⟨out, s⟩
  rw [hout] at htree hlimit
  obtain rfl : out = _ := htree
  obtain ⟨r, hr, hlimited⟩ := (Option.any_eq_true _ _).mp hlimit
  have hdrawn : Drawn (scanner.client none) mainBranch scanner.settings.limits (.start spentWorld)
      (.str "main") spentListing s :=
    ⟨by decide +kernel, _, _, rfl, .whole hout rfl rfl⟩
  have hchosen : (planOf scanner.settings.limits spentListing).chosen =
      [] ++ ⟨"a.py", 0, false⟩ :: [⟨"b.py", 0, false⟩] := rfl
  exact ⟨⟨.file "a.py" (some "main"), (s.recruit 1).handOver⟩, rfl,
    ⟨_, .file hdrawn hchosen (.none _ _) rfl, List.mem_cons_self⟩,
    Or.inr ⟨r, hr, by simpa using hlimited⟩⟩

/-- In that world the retrieval ends with the request for the first file, and the second one is
skipped. -/
theorem limit_ends_requests_spentWorld :
    let run := fetch (scanner.client none) mainBranch scanner.settings.limits (.start spentWorld)
    (∃ as, Course (scanner.client none) mainBranch (.start spentWorld) as run.2.2 ∧
      run.2.2.requests = as.filterMap ((scanner.client none).requestOf mainBranch) ∧
      ∀ a ∈ as, Attempts (scanner.client none) mainBranch scanner.settings.limits
        (.start spentWorld) a) ∧
    ∃ a, Attempts (scanner.client none) mainBranch scanner.settings.limits (.start spentWorld) a ∧
      (scanner.client none).AtLimit mainBranch a ∧
      run.2.2 = ((scanner.client none).send mainBranch a.query a.session).2 ∧
      StoppedAt "a.py" run.2.1 := by
  obtain ⟨htraced, hattempts⟩ := limit_ends_requests (scanner.client none) mainBranch
    scanner.settings.limits wellFormed_spentWorld
  obtain ⟨a, hquery, ha, hlimit⟩ := exists_attempt_spentWorld
  obtain ⟨hend, hends⟩ := (hattempts a ha).2 hlimit
  rw [hquery] at hends
  exact ⟨htraced, a, ha, hlimit, hend, hends.1⟩

end SourceAudit.Sample

import SourceAudit.Proofs.Retrieval.Timing
import SourceAudit.Scan

/-!
# SourceAudit.Proofs.Scan.Privacy

Whether a private repository is scanned. Only the lookup of the default branch tells that a
repository is private, and a scan of a version that is named does without it.

* `fetch_refused_iff` — the retrieval of a private repository fails without asking for a file,
  unless a version is named that can be retrieved;
* `neverScanned_iff` — the exact condition under which a private repository is not scanned;
* `private_scanned` — a private repository that is scanned.
-/

namespace SourceAudit

open Remote Remote.Session Remote.Client Retrieval

/-! ## Retrieving a private repository -/

section

variable {c : Client} {repo : Repository} (limits : Limits) (workers : Int) {world : World}

/-- Without a version, a private repository is refused, and nothing but its description is asked
for. -/
theorem fetch_of_unnamed {s : Session} (hfree : exhausted s = .ok none) (hs : s.NoFile)
    (h : IsPrivate c repo s.world) (href : repo.ref.filter (· ≠ "") = none) :
    (∃ e, (fetch c repo limits s workers).1 = some (.failed e)) ∧
      (fetch c repo limits s workers).2.2.NoFile := by
  unfold fetch
  split
  · exact ⟨⟨_, rfl⟩, hs⟩
  · obtain ⟨e, s', hbranch⟩ := defaultBranch_of_private hfree h
    have hsends := (c.defaultBranch_sends repo s).noFile (by decide) hs
    rw [hbranch] at hsends
    simp only [href, hbranch]
    exact ⟨⟨e, rfl⟩, hsends⟩

/-- A version that is named is refused exactly if it is unretrievable or nothing can be sent. -/
theorem fetch_of_named {s : Session} (hs : s.NoFile) {ref : String}
    (href : repo.ref.filter (· ≠ "") = some ref) :
    ((∃ e, (fetch c repo limits s workers).1 = some (.failed e)) ∧
        (fetch c repo limits s workers).2.2.NoFile) ↔
      (c.canSend = true → Unretrievable c repo limits workers ref s) := by
  unfold fetch
  by_cases hsend : c.canSend = true
  · simp only [hsend, href, Bool.not_true, Bool.false_eq_true, if_false]
    rw [refused_version_iff c repo limits workers ref hs rfl]
    simp
  · simp [hsend, hs]

/-- **When a private repository is refused**: its retrieval fails without asking for a file exactly
if a version that is named cannot be retrieved. -/
theorem fetch_refused_iff (h : IsPrivate c repo world) :
    ((∃ e, (fetch c repo limits (.start world) workers).1 = some (.failed e)) ∧
        (fetch c repo limits (.start world) workers).2.2.NoFile) ↔
      ∀ ref, repo.ref.filter (· ≠ "") = some ref → c.canSend = true →
        Unretrievable c repo limits workers ref (.start world) := by
  cases href : repo.ref.filter (· ≠ "") with
  | none =>
      simpa using
      fetch_of_unnamed limits workers (exhausted_start world) (noFile_start world) h href
  | some ref =>
      rw [fetch_of_named limits workers (noFile_start world) href]
      simp

end

/-! ## Scanning a private repository -/

namespace Scanner

/-- The session of a scan at its start. -/
def opening (s : Scanner) (world : World) : Session :=
  (start world).within s.settings.scanDeadline

/-- A repository is not scanned: its retrieval fails, no body of a file is asked for, and there is
no report. -/
structure NeverScanned (s : Scanner) (repo : Repository) (token : Option String) (world : World) :
    Prop where
  fails : ∃ e, (fetch (s.client token) repo s.settings.limits (.start world)
    s.settings.fetchConcurrency).1 = some (.failed e)
  noFile : (fetch (s.client token) repo s.settings.limits (.start world)
    s.settings.fetchConcurrency).2.2.NoFile
  noReport : ∃ e, (s.scan repo token world).1 = .error e

/-- The time for a scan is over before it is known that the version that is named, if there is one,
cannot be retrieved. -/
def Untimely (s : Scanner) (repo : Repository) (token : Option String) (world : World) : Prop :=
  s.settings.scanDeadline.atMost 0 = true ∨
    ∃ ref, repo.ref.filter (· ≠ "") = some ref ∧ (s.client token).canSend = true ∧
      (Listing.ofVersion (s.client token) repo s.settings.limits (.str ref)
        (s.opening world)).1 = .error .deadline

/-- What keeps a private repository from being scanned. -/
structure Guarded (s : Scanner) (repo : Repository) (token : Option String) (world : World) :
    Prop where
  /-- A version that is named cannot be retrieved. -/
  version : ∀ ref, repo.ref.filter (· ≠ "") = some ref → (s.client token).canSend = true →
    Unretrievable (s.client token) repo s.settings.limits s.settings.fetchConcurrency ref
      (.start world)
  /-- There is time enough for the scan, or else no date for the report that says that there was
  not. -/
  time : s.Untimely repo token world → ∃ e, Instant.ofEpoch world.now = .error e

section

variable {s : Scanner} {repo : Repository} {token : Option String} {world : World}

/-- A scan whose time is over before any file is planned reports that nothing was done, if it can
tell the date. -/
theorem scan_of_nothing {p : Progress} {session : Session}
    (h : s.retrieveInTime repo token (.start world) = (some .deadline, p, session))
    (hfiles : p.files = []) :
    (∃ e, (s.scan repo token world).1 = .error e) ↔ ∃ e, Instant.ofEpoch world.now = .error e := by
  rw [scan, h]
  simp only [report, markUnfinished, hfiles, searchAll]
  cases Instant.ofEpoch world.now with
  | error e => simp
  | ok scannedAt => simp

/-- A retrieval that fails within its time leaves no report. -/
theorem scan_of_failed {e : Error}
    (h : (s.retrieveInTime repo token (.start world)).1 = some (.failed e)) :
    (s.scan repo token world).1 = .error (.remote e) := by
  unfold scan
  rcases hout : s.retrieveInTime repo token (.start world) with ⟨o, p, session⟩
  rw [hout] at h
  obtain rfl : o = some (.failed e) := h
  rfl

/-- With too little time, a scan reports that nothing was done. -/
theorem retrieveInTime_of_untimely (h : s.Untimely repo token world) :
    ∃ p session, s.retrieveInTime repo token (.start world) = (some .deadline, p, session) ∧
      p.files = [] := by
  unfold retrieveInTime
  by_cases hzero : s.settings.scanDeadline.atMost 0 = true
  · rw [if_pos hzero]
    exact ⟨.start, start world, rfl, rfl⟩
  · obtain ⟨ref, href, hsend, hlate⟩ := h.resolve_left hzero
    rw [if_neg hzero]
    rcases hlist : Listing.ofVersion (s.client token) repo s.settings.limits (.str ref)
      (s.opening world) with ⟨listed, session⟩
    rw [hlist] at hlate
    obtain rfl : listed = .error .deadline := hlate
    refine ⟨{ Progress.start with ref := some (.str ref) }, session, ?_, rfl⟩
    simp only [fetch, hsend, href, Bool.not_true, Bool.false_eq_true, if_false, retrieveVersion]
    rw [show (start world).within s.settings.scanDeadline = s.opening world from rfl, hlist]

/-- What cannot be retrieved with any amount of time cannot be retrieved in time either. -/
theorem unretrievable_opening {ref : String}
    (h : Unretrievable (s.client token) repo s.settings.limits s.settings.fetchConcurrency ref
      (.start world))
    (hintime : (Listing.ofVersion (s.client token) repo s.settings.limits (.str ref)
      (s.opening world)).1 ≠ .error .deadline) :
    Unretrievable (s.client token) repo s.settings.limits s.settings.fetchConcurrency ref
      (s.opening world) := by
  have hsame := ofVersion_timely (s.client token) repo s.settings.limits (.str ref)
    (s.opening world) hintime
  unfold Unretrievable at h ⊢
  rw [show start world = (s.opening world).unlimited from rfl, hsame] at h
  rcases hlist : Listing.ofVersion (s.client token) repo s.settings.limits (.str ref)
    (s.opening world) with ⟨(e | _) | _ | l, session⟩ <;> rw [hlist] at h
  · trivial
  · exact h
  · exact h
  · exact h

/-- A retrieval that is refused with any amount of time is refused in time, too, if there is enough
of it. -/
theorem refused_in_time (h : IsPrivate (s.client token) repo world)
    (hversion : ∀ ref, repo.ref.filter (· ≠ "") = some ref → (s.client token).canSend = true →
      Unretrievable (s.client token) repo s.settings.limits s.settings.fetchConcurrency ref
        (.start world))
    (htime : ¬ s.Untimely repo token world) :
    ∃ e, (s.retrieveInTime repo token (.start world)).1 = some (.failed e) := by
  obtain ⟨hzero, hlate⟩ := not_or.mp htime
  have hs : (s.opening world).NoFile := noFile_start world
  rw [retrieveInTime, if_neg hzero]
  cases href : repo.ref.filter (· ≠ "") with
  | none =>
      have hfree : exhausted (s.opening world) = .ok none := rfl
      exact (fetch_of_unnamed s.settings.limits _ hfree hs h href).1
  | some ref =>
      refine ((fetch_of_named s.settings.limits _ hs href).mpr fun hsend => ?_).1
      refine unretrievable_opening (hversion ref href hsend) fun hout => hlate ?_
      exact ⟨ref, href, hsend, hout⟩

/-- **When a private repository is not scanned.** -/
theorem neverScanned_iff (h : IsPrivate (s.client token) repo world) :
    s.NeverScanned repo token world ↔ s.Guarded repo token world := by
  have hfetch := fetch_refused_iff s.settings.limits s.settings.fetchConcurrency h
  have hnothing : s.Untimely repo token world →
      ((∃ e, (s.scan repo token world).1 = .error e) ↔
        ∃ e, Instant.ofEpoch world.now = .error e) := by
    intro htime
    obtain ⟨p, session, hout, hfiles⟩ := retrieveInTime_of_untimely htime
    exact scan_of_nothing hout hfiles
  constructor
  · rintro ⟨hfails, hnone, hreport⟩
    exact ⟨hfetch.mp ⟨hfails, hnone⟩, fun htime => (hnothing htime).mp hreport⟩
  · rintro ⟨hversion, htime⟩
    obtain ⟨⟨e, he⟩, hnone⟩ := hfetch.mpr hversion
    refine ⟨⟨e, he⟩, hnone, ?_⟩
    by_cases huntimely : s.Untimely repo token world
    · exact (hnothing huntimely).mpr (htime huntimely)
    · obtain ⟨e', he'⟩ := refused_in_time h hversion huntimely
      exact ⟨_, scan_of_failed he'⟩

end

end Scanner

/-! ## A private repository that is scanned -/

namespace Sample

/-- The settings of the service, at their defaults but for delays, and with one worker. -/
def settings : Settings where
  logLevel := "INFO"
  githubToken := none
  githubApiUrl := "https://api.github.com"
  requestTimeout := .finite 10
  maxRetries := 2
  retryBackoffBase := .finite 0
  maxFiles := 500
  maxFileSize := 1000000
  maxTotalBytes := 5000000
  fetchConcurrency := 1
  scanDeadline := .finite 60
  ruleTimeBudget := .finite 30
  maxLineLength := 4000
  rulesFile := none
  scanBurstLimit := 10
  scanBurstWindow := .finite 60
  planDailyScans := Settings.defaultDailyScans
  defaultPlanTier := "anonymous"
  maxUrlLength := 500
  maxTokenLength := 200
  corsAllowOrigins := Settings.defaultOrigins

/-- A registry without rules. -/
def noRules : Registry := ⟨[], List.nodup_nil, List.forall_mem_nil _⟩

/-- A scanner without rules. -/
def scanner : Scanner where
  settings := settings
  registry := noRules
  stalled := []

/-- The main branch of a repository. -/
def mainBranch : Repository := ⟨"o", "n", some "main"⟩

/-- A successful reply. -/
def success (text : String) : List Reply :=
  [⟨.response ⟨200, .empty, Text.bytesOf text⟩, none⟩]

/-- A world in which the repository is private, and readable for the service. -/
def privateWorld : World where
  now := 1700000000
  script := ⟨[("/repos/o/n", success "\x7b\"private\": true\x7d"),
    ("/repos/o/n/git/trees/main?recursive=1",
      success "\x7b\"tree\": [\x7b\"type\": \"blob\", \"path\": \"a.py\"\x7d]\x7d"),
    ("/repos/o/n/contents/a.py?ref=main", success "x")]⟩

/-- The same repository, in whatever version. -/
def anyBranch : Repository := ⟨"o", "n", none⟩

theorem isPrivate_privateWorld (ref : Option String) :
    IsPrivate (scanner.client none) ⟨"o", "n", ref⟩ privateWorld := by
  have htarget : ((scanner.client none).base.bind (Query.lookup.address? · anyBranch)).map
      (fun u => String.ofList u.target) = some "/repos/o/n" := by decide +kernel
  intro u hu
  rw [show (scanner.client none).base.bind (Query.lookup.address? · anyBranch) = some u from hu,
    Option.map_some, Option.some.injEq] at htarget
  rw [htarget]
  exact ⟨_, rfl, by decide +kernel⟩

/-- The run on the main branch: its lookup is not made, its file is asked for, and there is a
report. -/
theorem run_privateWorld :
    (scanner.scan mainBranch none privateWorld).2.requests.map Request.accept =
        [Query.lookup.accept, (Query.file "" none).accept] ∧
      (scanner.scan mainBranch none privateWorld).1.isOk = true := by
  decide +kernel

theorem scanned_mainBranch : ¬ scanner.NeverScanned mainBranch none privateWorld := by
  intro h
  obtain ⟨e, he⟩ := h.noReport
  have hreport := run_privateWorld.2
  rw [he] at hreport
  simp [Except.isOk, Except.toBool] at hreport

/-- Nothing keeps the main branch from being scanned, but the repository is not scanned where no
version of it is named. -/
theorem neverScanned_iff_mainBranch :
    IsPrivate (scanner.client none) mainBranch privateWorld ∧
      ¬ scanner.Guarded mainBranch none privateWorld ∧
      (scanner.scan anyBranch none privateWorld).1 = .error (.remote .privateRepository) ∧
      scanner.NeverScanned anyBranch none privateWorld := by
  refine ⟨isPrivate_privateWorld _, ?_, by decide +kernel, ?_⟩
  · exact (Scanner.neverScanned_iff (isPrivate_privateWorld _)).not.mp scanned_mainBranch
  · refine (Scanner.neverScanned_iff (isPrivate_privateWorld _)).mpr ⟨by simp, ?_⟩
    rintro (hzero | ⟨ref, href, -⟩)
    · exact absurd hzero (by decide)
    · simp at href

/-- **A private repository can be scanned**: its main branch is named, so its lookup is not made,
its file is asked for, and there is a report. -/
theorem private_scanned :
    IsPrivate (scanner.client none) mainBranch privateWorld ∧
      ¬ scanner.NeverScanned mainBranch none privateWorld ∧
      (scanner.scan mainBranch none privateWorld).2.requests.map Request.accept =
        [Query.lookup.accept, (Query.file "" none).accept] ∧
      (scanner.scan mainBranch none privateWorld).1.isOk = true :=
  ⟨isPrivate_privateWorld _, scanned_mainBranch, run_privateWorld⟩

end Sample

end SourceAudit

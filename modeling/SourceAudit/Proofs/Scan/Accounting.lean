import SourceAudit.Proofs.Json.Equality
import SourceAudit.Proofs.Retrieval.Accounts
import SourceAudit.Proofs.Scan.Privacy
import SourceAudit.Scan

/-!
# SourceAudit.Proofs.Scan.Accounting

The account that a report gives of the candidates of a scan: none is lost and none counts twice,
also when the time for the scan is over in the midst of the files.

* `retrieveVersion_accounts` — the account of the candidates that are dealt with in a retrieval;
* `markUnfinished_accounts` — the account that includes those that are not;
* `report_accounts` — each candidate is either searched or skipped, and the report says that it is
  incomplete exactly if there were too many candidates, if one was skipped for a limit on the whole
  of the scan, or if the time was over.
-/

namespace SourceAudit

open Remote Retrieval

namespace Retrieval

/-- The version that a retrieval means: the one that is named, or else the default branch. -/
def versionOf (c : Client) (repo : Repository) (s : Session) : Except Stop Json × Session :=
  match repo.ref.filter (· ≠ "") with
  | some ref => (.ok (.str ref), s)
  | none => c.defaultBranch repo s

section

variable {c : Client} {repo : Repository} {limits : Limits} {version : Json} {s s' s'' : Session}
  {ds : List Directory} {o : Option Stop} {p p' : Progress}

/-- A client that can send retrieves the version that it finds. -/
theorem fetch_eq (workers : Int) (hsend : c.canSend = true)
    (hversion : versionOf c repo s = (.ok version, s')) :
    fetch c repo limits s workers =
      retrieveVersion c repo limits workers version { Progress.start with ref := some version }
        s' := by
  unfold versionOf at hversion
  unfold fetch
  simp only [hsend, Bool.not_true, Bool.false_eq_true, if_false]
  cases href : repo.ref.filter (· ≠ "") with
  | some ref =>
      rw [href] at hversion
      obtain ⟨href, rfl⟩ := Prod.mk.inj hversion
      cases href
      rfl
  | none =>
      rw [href] at hversion
      simp only [hversion]

/-- The account of a retrieval after its listing: the candidates are those left out by the plan,
those dealt with, and those planned that the retrieval did not come to, of which there are none
unless it is cut. -/
theorem retrieveVersion_accounts (workers : Int) (ref : Option Json)
    (h : Listing.Received c repo limits.maxFiles.toNat version s ds s')
    (hout : retrieveVersion c repo limits workers version { Progress.start with ref := ref } s =
      (o, p, s''))
    (ho : ∀ e, o ≠ some (.failed e)) :
    ∃ unplanned done rest, p.planned.Perm (done ++ rest) ∧ (o = none → rest = []) ∧
      (unplanned ++ (done ++ rest)).Perm
        (((Listing.offered ds).take limits.maxFiles.toNat).map Candidate.path) ∧
      Accounts (limits.maxFiles.toNat < (Listing.offered ds).length) (unplanned ++ done) p := by
  rcases Listing.ofVersion_of_received h with ⟨listed, hlist, hfirst, -⟩ | ⟨⟨s₁, herror⟩, -⟩
  swap
  · rw [retrieveVersion, herror] at hout
    exact absurd (Prod.mk.inj hout).1.symm (ho _)
  rw [retrieveVersion, hlist] at hout
  have hcandidates : (Listing.offered ds).take limits.maxFiles.toNat =
      (listed.getD .empty).candidates := (congrArg Listing.candidates hfirst).symm
  have hcut : (listed.getD .empty).truncated = true ↔
      limits.maxFiles.toNat < (Listing.offered ds).length := by
    rw [hfirst]
    exact decide_eq_true_iff
  rw [hcandidates]
  cases listed with
  | none =>
      have hno : ¬ limits.maxFiles.toNat < (Listing.offered ds).length := by
        simp [← hcut, Listing.empty]
      have hstart : Accounts (limits.maxFiles.toNat < (Listing.offered ds).length) []
          { Progress.start with ref := ref } :=
        ⟨by simp [Progress.start], by simp [Progress.start, hno]⟩
      obtain ⟨hplanned, done, rest, hchosen, -, haccounts⟩ :=
        retrieveBy_accounts c repo limits workers [] s' hstart hout ho
      obtain ⟨rfl, rfl⟩ := List.append_eq_nil_iff.mp hchosen.nil_eq.symm
      refine ⟨[], [], [], by simp [hplanned, Progress.start], fun _ => rfl, by simp [Listing.empty],
        by simpa using haccounts⟩
  | some l =>
      rw [Option.getD_some] at hcut ⊢
      obtain ⟨hplan, -⟩ :=
        ofCandidates_accounts limits.maxFileSize limits.maxTotalBytes l.candidates
      have hstart := accounts_plan limits l (p := { Progress.start with ref := ref }) rfl
      obtain ⟨hplanned, done, rest, hchosen, hrest, haccounts⟩ :=
        retrieveBy_accounts c repo limits workers _ s' hstart hout ho
      have hpaths := hchosen.map Candidate.path
      rw [List.map_append] at hpaths
      refine ⟨_, _, rest.map Candidate.path, ?_, ?_, ?_, haccounts.congr hcut⟩
      · rw [hplanned]
        exact hpaths
      · exact fun hnone => by rw [hrest.mp hnone, List.map_nil]
      · exact (List.perm_append_comm.trans (hpaths.symm.append_right _)).trans hplan

end

/-! ## Files that a retrieval does not come to -/

section

variable {cut : Prop} {unplanned done rest : List String} {p : Progress}

/-- Of the planned files, those that a retrieval did not come to are the ones without a record. -/
theorem filter_unfinished (hnodup : (unplanned ++ (done ++ rest)).Nodup)
    (h : Accounts cut (unplanned ++ done) p) :
    (done ++ rest).filter (fun path =>
      !(p.files.map Artifact.path ++ p.skipped.map Skipped.path).contains path) = rest := by
  have hrecord : ∀ path, path ∈ p.files.map Artifact.path ++ p.skipped.map Skipped.path ↔
      path ∈ unplanned ++ done := fun path => h.paths.mem_iff
  rw [← List.append_assoc] at hnodup
  have hdisjoint := (List.nodup_append.mp hnodup).2.2
  rw [List.filter_append, List.filter_eq_nil_iff.mpr, List.filter_eq_self.mpr, List.nil_append]
  · intro path hpath
    have hother : path ∉ unplanned ++ done := fun hdone => hdisjoint path hdone path hpath rfl
    simpa [hrecord] using mt (hrecord path).mp hother
  · intro path hpath
    have hdone := (hrecord path).mpr (List.mem_append_right _ hpath)
    rw [List.contains_iff_mem.mpr hdone]
    decide

/-- The files that a retrieval did not come to are recorded when its time is over, each of them
once. -/
theorem exists_markUnfinished (hplanned : p.planned.Perm (done ++ rest))
    (hnodup : (unplanned ++ (done ++ rest)).Nodup) (h : Accounts cut (unplanned ++ done) p) :
    ∃ left : List String, left.Perm rest ∧ Scanner.markUnfinished p = { p with
      skipped := p.skipped ++ left.map fun path => ⟨path, SkipReason.deadline.name⟩ } := by
  refine ⟨_, ?_, rfl⟩
  have hleft := hplanned.filter fun path =>
    !(p.files.map Artifact.path ++ p.skipped.map Skipped.path).contains path
  rwa [filter_unfinished hnodup h] at hleft

/-- **The account with the files that a retrieval does not come to.** -/
theorem markUnfinished_accounts (hplanned : p.planned.Perm (done ++ rest))
    (hnodup : (unplanned ++ (done ++ rest)).Nodup) (h : Accounts cut (unplanned ++ done) p) :
    Accounts cut (unplanned ++ (done ++ rest)) (Scanner.markUnfinished p) := by
  obtain ⟨left, hleft, hmarked⟩ := exists_markUnfinished hplanned hnodup h
  rw [hmarked]
  refine ⟨?_, ?_⟩
  · have hmore := h.paths.append hleft
    simpa [Function.comp_def] using hmore
  · have hlimit : ¬ ∃ x ∈ left.map fun path => (⟨path, SkipReason.deadline.name⟩ : Skipped),
        ForLimit x := by
      simp [ForLimit, SkipReason.name]
    simp only [List.mem_append]
    rw [h.truncated]
    grind

end

end Retrieval

/-! ## Reports -/

namespace Scanner

/-- A scan receives the listing of some directories: there is time for it, requests can be sent, and
the version that is meant is known. -/
def Lists (s : Scanner) (repo : Repository) (token : Option String) (world : World)
    (ds : List Directory) : Prop :=
  s.settings.scanDeadline.atMost 0 = false ∧ (s.client token).canSend = true ∧
    ∃ version session session',
      versionOf (s.client token) repo (s.opening world) = (.ok version, session) ∧
      Listing.Received (s.client token) repo s.settings.maxFiles.toNat version session ds session'

section

variable {s : Scanner} {repo : Repository} {token : Option String} {world : World}
  {ds : List Directory} {r : Report}

/-- **A report accounts for what its progress accounts for**, the flag also for the time that was
up. -/
theorem accounts_of_report {cut : Prop} {dealt : List String} {p : Progress} {late : Bool}
    {started finished : Rat} (h : Accounts cut dealt p)
    (hreport : s.report repo late p started finished = .ok r) :
    (p.files.map Artifact.path ++ r.skipped.map Skipped.path).Perm dealt ∧
      r.filesScanned = p.files.length ∧ r.filesSkipped = r.skipped.length ∧
      (r.truncated = true ↔ cut ∨ (∃ x ∈ r.skipped, ForLimit x) ∨ late = true) := by
  unfold report at hreport
  split at hreport
  swap
  · simp at hreport
  obtain rfl := Except.ok.inj hreport
  have hperm : (p.skipped.mergeSort Skipped.le).Perm p.skipped := List.mergeSort_perm _ _
  refine ⟨((hperm.map _).append_left _).trans h.paths, rfl, rfl, ?_⟩
  simp only [Report.assemble, Bool.or_eq_true, h.truncated, hperm.mem_iff]
  rw [or_comm, or_assoc]

/-- **No file is lost or counts twice.** When a scan reports on a listing of distinct paths, each
candidate is either searched or skipped, also when the time is over before all of them are asked
for; and the report says that it is incomplete exactly if there were too many candidates, if one was
skipped for a limit on the whole of the scan, or if the time was over. -/
theorem report_accounts {stop : Option Stop} {p : Progress} {after : Session}
    (h : s.Lists repo token world ds)
    (hnodup : (((Listing.offered ds).take s.settings.maxFiles.toNat).map Candidate.path).Nodup)
    (hout : s.retrieveInTime repo token (.start world) = (stop, p, after))
    (hreport : (s.scan repo token world).1 = .ok r) :
    let candidates := (Listing.offered ds).take s.settings.maxFiles.toNat
    (p.files.map Artifact.path ++ r.skipped.map Skipped.path).Perm
        (candidates.map Candidate.path) ∧
      r.filesScanned = p.files.length ∧ r.filesScanned + r.filesSkipped = candidates.length ∧
      (r.truncated = true ↔ s.settings.maxFiles.toNat < (Listing.offered ds).length ∨
        (∃ x ∈ r.skipped, ForLimit x) ∨ stop = some .deadline) := by
  obtain ⟨htime, hsend, version, session, session', hversion, hlist⟩ := h
  have hfetch : s.retrieveInTime repo token (.start world) =
      retrieveVersion (s.client token) repo s.settings.limits s.settings.fetchConcurrency version
        { Progress.start with ref := some version } session := by
    rw [retrieveInTime, if_neg (by simp [htime])]
    exact fetch_eq _ hsend hversion
  rw [hfetch] at hout
  rw [scan, hfetch, hout] at hreport
  have hstop : ∀ e, stop ≠ some (.failed e) := by
    rintro e rfl
    simp at hreport
  obtain ⟨unplanned, done, rest, hplanned, hrest, hcandidates, haccounts⟩ :=
    retrieveVersion_accounts _ (some version) hlist hout hstop
  -- Both kinds of report come down to an account of all candidates.
  have hall : ∃ late p', Accounts (s.settings.maxFiles.toNat < (Listing.offered ds).length)
        (((Listing.offered ds).take s.settings.maxFiles.toNat).map Candidate.path) p' ∧
      p'.files = p.files ∧ (late = true ↔ stop = some .deadline) ∧
      s.report repo late p' world.now after.world.now = .ok r := by
    cases stop with
    | none =>
        rw [hrest rfl, List.append_nil] at hcandidates
        exact ⟨false, p, haccounts.perm hcandidates, rfl, by simp, hreport⟩
    | some stop =>
        cases stop with
        | failed e => exact absurd rfl (hstop e)
        | deadline =>
            have hmarked :=
              markUnfinished_accounts hplanned (hcandidates.nodup_iff.mpr hnodup) haccounts
            exact ⟨true, markUnfinished p, hmarked.perm hcandidates, rfl, by simp, hreport⟩
  obtain ⟨late, p', haccounts, hfiles, hlate, hreport⟩ := hall
  obtain ⟨hpaths, hscanned, hskipped, htruncated⟩ := accounts_of_report haccounts hreport
  rw [hfiles] at hpaths hscanned
  refine ⟨hpaths, hscanned, ?_, by rw [htruncated, hlate]⟩
  simpa [hscanned, hskipped] using hpaths.length_eq

end

end Scanner

namespace Sample

/-- A scanner that takes three files at most. -/
def threeFiles : Scanner := { scanner with settings := { settings with maxFiles := 3 } }

/-- The text of a listing of four files, the first of them a large one. -/
def listingText : String :=
  "\x7b\"tree\":[\x7b\"path\":\"a.js\",\"type\":\"blob\",\"size\":2000000\x7d," ++
    "\x7b\"path\":\"b.js\",\"type\":\"blob\"\x7d,\x7b\"path\":\"c.js\",\"type\":\"blob\"\x7d," ++
    "\x7b\"path\":\"d.js\",\"type\":\"blob\"\x7d]\x7d"

/-- The directory that the listing states. -/
def listed : Directory where
  inside := .str ""
  entries := [.obj [("path", .str "a.js"), ("type", .str "blob"), ("size", .int 2000000)],
    .obj [("path", .str "b.js"), ("type", .str "blob")],
    .obj [("path", .str "c.js"), ("type", .str "blob")],
    .obj [("path", .str "d.js"), ("type", .str "blob")]]

/-- A world in which the third file does not come in time. -/
def slowWorld : World where
  now := 1700000000
  script := ⟨[("/repos/o/n/git/trees/main?recursive=1", success listingText),
    ("/repos/o/n/contents/b.js?ref=main", success "x"),
    ("/repos/o/n/contents/c.js?ref=main", [⟨.hang, none⟩])]⟩

/-- The run in this world: the answer for everything, that there is a report, and the one file that
is received. -/
theorem run_slowWorld :
    ((threeFiles.client none).tree mainBranch (.str "main") true
        (threeFiles.opening slowWorld)).1 =
      .ok (some (.obj [("tree", .arr listed.entries)])) ∧
    (threeFiles.scan mainBranch none slowWorld).1.isOk = true ∧
    (threeFiles.retrieveInTime mainBranch none (.start slowWorld)).2.1.files.map Artifact.path =
      ["b.js"] := by
  decide +kernel

theorem lists_slowWorld : threeFiles.Lists mainBranch none slowWorld [listed] := by
  have htree := run_slowWorld.1
  rcases hout : (threeFiles.client none).tree mainBranch (.str "main") true
    (threeFiles.opening slowWorld) with ⟨answer, session⟩
  rw [hout] at htree
  obtain rfl : answer = _ := htree
  exact ⟨by decide +kernel, by decide +kernel, .str "main", threeFiles.opening slowWorld, session,
    rfl, .whole hout (by decide +kernel) (by decide +kernel)⟩

theorem report_accounts_slowWorld : ∃ r, (threeFiles.scan mainBranch none slowWorld).1 = .ok r ∧
    (["b.js"] ++ r.skipped.map Skipped.path).Perm ["a.js", "b.js", "c.js"] ∧
    r.filesScanned + r.filesSkipped = 3 ∧ r.truncated = true := by
  obtain ⟨-, hok, hfiles⟩ := run_slowWorld
  have hcandidates : ((Listing.offered [listed]).take
      threeFiles.settings.maxFiles.toNat).map Candidate.path = ["a.js", "b.js", "c.js"] := by
    decide +kernel
  have hmore : threeFiles.settings.maxFiles.toNat < (Listing.offered [listed]).length := by
    decide +kernel
  rcases hout : threeFiles.retrieveInTime mainBranch none (.start slowWorld) with ⟨stop, p, after⟩
  rw [hout] at hfiles
  rcases hreport : (threeFiles.scan mainBranch none slowWorld).1 with e | r
  · rw [hreport] at hok
    simp [Except.isOk, Except.toBool] at hok
  obtain ⟨hpaths, hscanned, htotal, htruncated⟩ := Scanner.report_accounts lists_slowWorld
    (by rw [hcandidates]; decide) hout hreport
  rw [hfiles, hcandidates] at hpaths
  refine ⟨r, rfl, hpaths, ?_, htruncated.mpr (Or.inl hmore)⟩
  rw [htotal, ← List.length_map (f := Candidate.path), hcandidates]
  rfl

end Sample

end SourceAudit

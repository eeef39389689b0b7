import SourceAudit.Proofs.Retrieval.Failing
import SourceAudit.Proofs.Retrieval.Timing
import SourceAudit.Proofs.Scan.Deadline

/-!
# SourceAudit.Proofs.Scan.Failures

Scans in which one file cannot be had. In a calm world the others do not suffer from it, as long as
the time for the scan is not over. A scan that ends in time does the same with any amount of time,
so that the files can be looked at without the clock.

* `Listed.calm` and `retrieveInTime_timely` — in a calm world, a scan that ends in time is one with
  any amount of time;
* `exists_unfinished` — a scan that does not end in time skips a file for the deadline;
* `Alone` — a planned file that shares its target with nothing else that is asked for;
* `SameBut` — a report that is the same in another world but for one file;
* `failure_isolated` — exactly when the failure of such a file leaves such a report;
* `failure_spreads` — scans in which the time is over because of one file, and one without a report
  because the file fails too often.
-/

namespace SourceAudit

open Remote Remote.Session Remote.Client Retrieval

namespace Retrieval

section

variable {c : Client} {repo : Repository} {limits : Limits} {ref : Option String}
  {fs : List Candidate} {s s' : Session} {files : List Artifact} {skipped : List Skipped}

/-! ## Reasons -/

/-- No failure of a file stands for the deadline. -/
theorem name_of_skipReason {e : Error} {reason : SkipReason} (h : skipReason? e = some reason) :
    reason.name ≠ SkipReason.deadline.name := by
  cases e <;> simp only [skipReason?, Option.some.injEq, reduceCtorEq] at h <;> subst h <;> decide

theorem Through.reason_ne (h : Through c repo limits ref fs s files skipped s') :
    ∀ x ∈ skipped, x.reason ≠ SkipReason.deadline.name := by
  induction h with
  | nil => simp
  | kept _ _ ih => exact ih
  | skipped _ hreason _ _ ih =>
      exact List.forall_mem_cons.mpr ⟨name_of_skipReason hreason, ih⟩

/-- No file is left out of a plan for the deadline. -/
theorem ofCandidates_reason_ne (maxFileSize budget : Int) (cs : List Candidate) :
    ∀ x ∈ (Plan.ofCandidates maxFileSize budget cs).skipped,
      x.reason ≠ SkipReason.deadline.name := by
  induction cs generalizing budget with
  | nil => simp [Plan.ofCandidates]
  | cons f cs ih =>
      unfold Plan.ofCandidates
      split
      · exact List.forall_mem_cons.mpr ⟨by simp [SkipReason.name], ih budget⟩
      · split
        · exact List.forall_mem_cons.mpr ⟨by simp [SkipReason.name], ih budget⟩
        · exact ih (budget - f.size)

/-! ## Versions -/

theorem versionOf_timely (c : Client) (repo : Repository) (s : Session) :
    Timely (versionOf c repo) s := by
  unfold versionOf
  split
  · exact fun _ => rfl
  · exact defaultBranch_timely c repo s

end

end Retrieval

namespace Remote.Client

/-- Two sessions in step remain so with any amount of time. -/
theorem InStep.unlimited {c : Client} {target : String} {total : Nat} {rest : List Reply}
    {s s' : Session} (h : InStep c target total rest s s') :
    InStep c target total rest s.unlimited s'.unlimited where
  now := h.now
  remaining := h.remaining
  resetAt := h.resetAt
  others := h.others
  replies := h.replies
  timer := Or.inr ⟨rfl, rfl⟩

end Remote.Client

namespace Scanner

section

variable {s : Scanner} {repo : Repository} {token : Option String} {world : World} {version : Json}
  {l : Listing} {session : Session} {r : Report} {f : Candidate} {u : Url}

/-! ## Time -/

/-- No worker is late when the listing is received. -/
theorem Listed.late (h : s.Listed repo token world version l session) :
    session.timer.late = false := by
  refine h.kept (P := fun s => s.timer.late = false) (fun q session hs => ?_) rfl
  obtain ⟨elapsed, htimer⟩ := (s.client token).timer_get repo q session
  rw [htimer]
  exact hs

/-- **In a calm world**, the session is calm when the listing is received, but for the time. -/
theorem Listed.calm (h : s.Listed repo token world version l session)
    (hcalm : world.script.Calm) : session.unlimited.Calm := by
  have hkept : Kept (s.client token) repo Session.Calm := fun q _ hs => calm_get q hs
  obtain ⟨session₀, hversion, hlist⟩ := h.listing
  -- With any amount of time the listing is the same, as it ends in time.
  have hversion' := versionOf_timely (s.client token) repo (s.opening world) (by simp [hversion])
  have hlist' := ofVersion_timely (s.client token) repo s.settings.limits version session₀
    (by simp [hlist])
  rw [hversion, opening, unlimited_within] at hversion'
  rw [hlist] at hlist'
  have hfirst := hkept.versionOf (s := .start world) ⟨hcalm, rfl, rfl⟩
  rw [hversion'] at hfirst
  have hsecond := hkept.ofVersion s.settings.limits version hfirst
  rwa [hlist'] at hsecond

/-- A scan that plans a file and comes to its end has a worker. -/
theorem workers_of_none (h : s.Listed repo token world version l session)
    (hplanned : f ∈ (planOf s.settings.limits l).chosen)
    (hout : (s.retrieveInTime repo token (.start world)).1 = none) :
    0 < s.settings.fetchConcurrency := by
  rw [retrieveInTime_of_listed h, retrieveBy] at hout
  split at hout
  · simp at hout
  · split at hout
    · simp at hout
    · next hidle =>
      have hsome : (planOf s.settings.limits l).chosen ≠ [] := List.ne_nil_of_mem hplanned
      have hworkers : s.settings.fetchConcurrency ≠ 0 := fun hzero => hidle ⟨hzero, hsome⟩
      omega

/-- No worker is late in a scan that comes to its end. -/
theorem late_of_ends (h : s.Listed repo token world version l session)
    (hworkers : 0 < s.settings.fetchConcurrency)
    (hout : (s.retrieveInTime repo token (.start world)).1 = none) :
    (s.retrieveInTime repo token (.start world)).2.2.timer.late = false := by
  rw [retrieveInTime_of_listed h, retrieveBy_of_pos hworkers] at hout ⊢
  rw [late_of_none hout]
  exact h.late

/-- **A scan in which no worker is late** does the same with any amount of time. -/
theorem retrieveInTime_timely (h : s.Listed repo token world version l session)
    (hworkers : 0 < s.settings.fetchConcurrency)
    (hlate : (s.retrieveInTime repo token (.start world)).2.2.timer.late = false) :
    let run := s.retrieveInTime repo token (.start world)
    retrieve (s.client token) repo s.settings.limits (planOf s.settings.limits l).chosen false
        (.listed s.settings.limits version l)
        (session.recruit s.settings.fetchConcurrency.toNat).unlimited =
      (run.1, run.2.1, run.2.2.unlimited) := by
  rw [retrieveInTime_of_listed h, retrieveBy_of_pos hworkers] at hlate ⊢
  exact retrieve_timely hlate

/-- **A scan that does not end in time** skips a file for the deadline. -/
theorem exists_unfinished (h : s.Listed repo token world version l session)
    (hdistinct : (l.candidates.map Candidate.path).Nodup)
    (hout : (s.retrieveInTime repo token (.start world)).1 = some .deadline) :
    ∃ path, (⟨path, SkipReason.deadline.name⟩ : Skipped) ∈
      (markUnfinished (s.retrieveInTime repo token (.start world)).2.1).skipped := by
  rw [retrieveInTime_of_listed h] at hout ⊢
  rcases hrun : retrieveBy (s.client token) repo s.settings.limits s.settings.fetchConcurrency
    (planOf s.settings.limits l).chosen (.listed s.settings.limits version l) session with ⟨o, p, s'⟩
  rw [hrun] at hout
  obtain rfl : o = some .deadline := hout
  obtain ⟨-, hstart⟩ := accounts_listed s.settings.limits version l
  obtain ⟨hplanned, done, rest, hchosen, hrest, haccounts⟩ := retrieveBy_accounts
    (s.client token) repo s.settings.limits s.settings.fetchConcurrency
    (planOf s.settings.limits l).chosen session hstart hrun (by simp)
  have hpaths := hchosen.map Candidate.path
  rw [List.map_append] at hpaths
  have hnodup := (hpaths.append_left _).nodup_iff.mp (nodup_listed s.settings.limits hdistinct)
  obtain ⟨left, hleft, hmarked⟩ := exists_markUnfinished (hplanned ▸ hpaths) hnodup haccounts
  obtain ⟨g, hg⟩ := List.exists_mem_of_ne_nil rest fun hnil => by
    simp [hnil] at hrest
  refine ⟨g.path, ?_⟩
  rw [hmarked]
  exact List.mem_append_right _
    (List.mem_map_of_mem (hleft.mem_iff.mpr (List.mem_map_of_mem hg)))

/-! ## One file that fails -/

/-- A planned file has a target of its own: neither what is asked for before the files nor another
planned file has it. -/
structure Alone (s : Scanner) (repo : Repository) (token : Option String) (version : Json)
    (l : Listing) (session : Session) (f : Candidate) (u : Url) : Prop where
  planned : f ∈ (planOf s.settings.limits l).chosen
  address : (s.client token).base.bind ((Query.file f.path
    (Progress.listed s.settings.limits version l).refText).address? · repo) = some u
  before : ∀ x ∈ session.requests, (s.client token).targetOf x ≠ .ofList u.target
  others : ∀ g ∈ (planOf s.settings.limits l).chosen, g.path ≠ f.path → ∀ v,
    (s.client token).base.bind ((Query.file g.path
      (Progress.listed s.settings.limits version l).refText).address? · repo) = some v →
      String.ofList v.target ≠ .ofList u.target

/-- The report `r` of a scan is the same in another world but for a file that is skipped there, for
the given reason: there is a report, and it has the other files retrieved, the other files skipped
and the findings in the other files. -/
def SameBut (s : Scanner) (repo : Repository) (token : Option String) (world world' : World)
    (path : String) (reason : SkipReason) (r : Report) : Prop :=
  ∃ r', (s.scan repo token world').1 = .ok r' ∧
    (s.retrieveInTime repo token (.start world')).2.1.files =
      (s.retrieveInTime repo token (.start world)).2.1.files.filter (fun a => a.path ≠ path) ∧
    r'.skipped.Perm (⟨path, reason.name⟩ :: r.skipped.filter fun x => x.path ≠ path) ∧
    r'.findings = r.findings.filter (fun g => g.path ≠ path) ∧ r'.truncated = r.truncated

/-- What the plan skips is recorded under other paths than what it chooses. -/
theorem skipped_other {limits : Limits} (hdistinct : (l.candidates.map Candidate.path).Nodup)
    (hplanned : f ∈ (planOf limits l).chosen) :
    (planOf limits l).skipped.filter (fun x => x.path ≠ f.path) = (planOf limits l).skipped := by
  refine List.filter_eq_self.mpr fun x hx => decide_eq_true fun heq => ?_
  exact (List.nodup_append.mp (nodup_listed _ hdistinct)).2.2 _ (List.mem_map_of_mem hx) _
    (List.mem_map_of_mem hplanned) heq

/-- A scan that reports and is not cut comes to its end. -/
theorem eq_none_of_report (hreport : (s.scan repo token world).1 = .ok r)
    (hout : (s.retrieveInTime repo token (.start world)).1 ≠ some .deadline) :
    (s.retrieveInTime repo token (.start world)).1 = none := by
  obtain ⟨ho, -⟩ := report_of_scan hreport
  rcases hstop : (s.retrieveInTime repo token (.start world)).1 with _ | _ | _
  · rfl
  · exact absurd hstop (ho _)
  · exact absurd hstop hout

/-- When other replies are given to a file with a target of its own, the listing is the same. -/
theorem Alone.listed {rest : List Reply} (halone : s.Alone repo token version l session f u)
    (hlisted : s.Listed repo token world version l session) (hrest : rest ≠ []) :
    (s.client token).asked (.ofList u.target) session = 0 ∧
      ∃ session', s.Listed repo token (world.divert (.ofList u.target) 0 rest) version l session' ∧
        InStep (s.client token) (.ofList u.target) 0 rest session session' := by
  have hasked : (s.client token).asked (.ofList u.target) session = 0 := by
    rw [asked, List.countP_eq_zero]
    intro x hx
    simpa using halone.before x hx
  exact ⟨hasked, hlisted.agrees (.ofList u.target) 0 hrest (Nat.le_of_eq hasked)⟩

/-- The two retrievals: as the scan makes it, and with all replies to one file failing. -/
theorem retrieveInTime_failing {reason : SkipReason} {rest : List Reply}
    (hout : (s.retrieveInTime repo token (.start world)).1 = none)
    (hcalm : world.script.Calm) (hlisted : s.Listed repo token world version l session)
    (hdistinct : (l.candidates.map Candidate.path).Nodup)
    (halone : s.Alone repo token version l session f u) (hrest : rest ≠ [])
    (hfails : ∀ reply ∈ rest, reply.Calm ∧ Fails u reply reason) :
    let p := Progress.listed s.settings.limits version l
    let run := s.retrieveInTime repo token (.start (world.divert (.ofList u.target) 0 rest))
    ∃ files skipped s₁, s.retrieveInTime repo token (.start world) =
        (none, p.add files skipped, s₁) ∧
      (∀ x ∈ skipped, x.reason ≠ SkipReason.deadline.name) ∧
      (run.2.2.timer.late = false →
        (reason = .fetchFailed ∧ 1024 < s.settings.maxRetries → ∃ e, run.1 = some (.failed e)) ∧
        (¬ (reason = .fetchFailed ∧ 1024 < s.settings.maxRetries) → run.1 = none ∧
          ∃ skipped', run.2.1 = p.add (files.filter fun a => a.path ≠ f.path) skipped' ∧
          skipped'.Perm (⟨f.path, reason.name⟩ :: skipped.filter fun x => x.path ≠ f.path))) := by
  intro p run
  have hworkers := workers_of_none hlisted halone.planned hout
  obtain ⟨hasked, session', hlisted', hstep⟩ := halone.listed hlisted hrest
  -- No worker is late in the first retrieval, so that it is made without a look at the clock.
  have hfirst := retrieveInTime_timely hlisted hworkers (late_of_ends hlisted hworkers hout)
  have hsession : (session.recruit s.settings.fetchConcurrency.toNat).unlimited.Calm :=
    ⟨(hlisted.calm hcalm).script, (hlisted.calm hcalm).remaining, rfl⟩
  have hends : ∀ e, (retrieve (s.client token) repo s.settings.limits
      (planOf s.settings.limits l).chosen false p
      (session.recruit s.settings.fetchConcurrency.toNat).unlimited).1 ≠ some (.failed e) := by
    simp [p, hfirst, hout]
  obtain ⟨files, skipped, s₁, hthrough⟩ := through_of_calm hsession hends
  have hall := retrieve_all_through hthrough
  rw [hfirst] at hall
  refine ⟨files, skipped, _, Prod.ext hout (Prod.ext (congrArg (·.2.1) hall) rfl),
    hthrough.reason_ne, fun hlate => ?_⟩
  have hsecond := retrieveInTime_timely hlisted' hworkers hlate
  obtain ⟨before, after, hchosen⟩ := List.append_of_mem halone.planned
  have hpaths := (List.nodup_append.mp (nodup_listed s.settings.limits hdistinct)).2.1
  have hothers := halone.others
  rw [hchosen] at hthrough hpaths hothers hsecond
  have hboth := retrieve_failing hthrough hpaths hsession halone.address (fun g hg => ?_)
    (hstep.recruit s.settings.fetchConcurrency.toNat).unlimited hasked hrest hfails
  · rw [hsecond] at hboth
    refine ⟨hboth.1, fun hover => ?_⟩
    obtain ⟨skipped', s₁', hrun, hperm⟩ := hboth.2 hover
    exact ⟨congrArg (·.1) hrun, skipped', congrArg (·.2.1) hrun, hperm⟩
  · refine hothers g ?_ (path_ne_of_nodup hpaths hg)
    simp only [List.mem_append, List.mem_cons] at hg ⊢
    exact hg.imp_right Or.inr

/-- A scan with such a report comes to its end in time, if `r` skips nothing for the deadline. -/
theorem late_of_sameBut {world' : World} {session' : Session} {reason : SkipReason}
    (h : s.SameBut repo token world world' f.path reason r)
    (hlisted : s.Listed repo token world' version l session')
    (hworkers : 0 < s.settings.fetchConcurrency)
    (hdistinct : (l.candidates.map Candidate.path).Nodup)
    (hreason : reason.name ≠ SkipReason.deadline.name)
    (hclean : ∀ x ∈ r.skipped, x.reason ≠ SkipReason.deadline.name) :
    (s.retrieveInTime repo token (.start world')).2.2.timer.late = false := by
  obtain ⟨r', hreport, -, hskipped, -⟩ := h
  obtain ⟨ho, -⟩ := report_of_scan hreport
  cases hout : (s.retrieveInTime repo token (.start world')).1 with
  | none => exact late_of_ends hlisted hworkers hout
  | some stop =>
      cases stop with
      | failed e => exact absurd hout (ho e)
      | deadline =>
          obtain ⟨path, hpath⟩ := exists_unfinished hlisted hdistinct hout
          rcases hrun : s.retrieveInTime repo token (.start world') with ⟨o, p, s'⟩
          rw [hrun] at hout hpath
          obtain rfl : o = some .deadline := hout
          rw [scan, hrun] at hreport
          have hmem : (⟨path, SkipReason.deadline.name⟩ : Skipped) ∈ r'.skipped := by
            rw [(report_eq hreport).1]
            exact List.mem_mergeSort.mpr hpath
          rcases List.mem_cons.mp (hskipped.mem_iff.mp hmem) with heq | hold
          · exact absurd (congrArg Skipped.reason heq).symm hreason
          · exact absurd rfl (hclean _ (List.mem_of_mem_filter hold))

/-- **One file's failure does not touch the others**, as long as there is time. Let a scan report
in time on distinct paths in a calm world, and let all replies to a planned file with a target of
its own fail instead, in one way, and not more often than the delays have numbers. The report is the
same but for this file, which is skipped for the reason of its failure, exactly if no worker is late
then. -/
theorem failure_isolated {reason : SkipReason} {rest : List Reply}
    (hreport : (s.scan repo token world).1 = .ok r)
    (hout : (s.retrieveInTime repo token (.start world)).1 ≠ some .deadline)
    (hcalm : world.script.Calm) (hlisted : s.Listed repo token world version l session)
    (hdistinct : (l.candidates.map Candidate.path).Nodup)
    (halone : s.Alone repo token version l session f u) (hrest : rest ≠ [])
    (hfails : ∀ reply ∈ rest, reply.Calm ∧ Fails u reply reason)
    (hfew : reason = .fetchFailed → s.settings.maxRetries ≤ 1024) :
    let failing := world.divert (.ofList u.target) 0 rest
    s.SameBut repo token world failing f.path reason r ↔
      (s.retrieveInTime repo token (.start failing)).2.2.timer.late = false := by
  intro failing
  obtain ⟨files, skipped, s₁, hrun, hclean, hfailing⟩ := retrieveInTime_failing
    (eq_none_of_report hreport hout) hcalm hlisted hdistinct halone hrest hfails
  rw [scan, hrun] at hreport
  simp only at hreport
  obtain ⟨hskipped, htruncated⟩ := report_eq hreport
  constructor
  · intro hsame
    obtain ⟨-, session', hlisted', -⟩ := halone.listed hlisted hrest
    refine late_of_sameBut hsame hlisted' (workers_of_none hlisted halone.planned (by rw [hrun]))
      hdistinct ?_ fun x hx => ?_
    · obtain ⟨reply, hreply⟩ := List.exists_mem_of_ne_nil _ hrest
      cases (hfails reply hreply).2 <;> decide
    · rw [hskipped, List.mem_mergeSort] at hx
      rcases List.mem_append.mp hx with hx | hx
      · exact ofCandidates_reason_ne _ _ _ x hx
      · exact hclean x hx
  · intro hlate
    obtain ⟨hends, skipped', hprogress, hperm⟩ :=
      (hfailing hlate).2 fun h => absurd (hfew h.1) (Int.not_le.mpr h.2)
    rcases hrun' : s.retrieveInTime repo token (.start failing) with ⟨o, p', s₁'⟩
    rw [hrun'] at hends hprogress
    obtain rfl : o = none := hends
    obtain rfl : p' = _ := hprogress
    have hfiles : ((Progress.listed s.settings.limits version l).add
        (files.filter fun a => a.path ≠ f.path) skipped').files =
          ((Progress.listed s.settings.limits version l).add files skipped).files.filter
            fun a => decide (a.path ≠ f.path) := rfl
    obtain ⟨r', hreport', hfindings, hskipped', -, htruncated'⟩ :=
      report_filter (fun path => decide (path ≠ f.path)) false s₁'.world.now hreport hfiles
    refine ⟨r', ?_, ?_, ?_, hfindings, ?_⟩
    · rw [scan, hrun']
      exact hreport'
    · rw [hrun', hrun]
      rfl
    · rw [hskipped, hskipped']
      refine (List.mergeSort_perm _ _).trans (.trans ?_
        (((List.mergeSort_perm _ _).filter _).symm.cons _))
      simp only [Progress.add, Progress.listed, List.filter_append]
      rw [skipped_other hdistinct halone.planned]
      exact (hperm.append_left _).trans List.perm_middle
    · rw [htruncated', htruncated]
      rfl

/-- The failure of a planned file touches others: a scan reports on distinct paths in a calm world,
all replies to a file with a target of its own fail in one way instead, and the report is not the
same but for this file. -/
def Spreads (s : Scanner) (repo : Repository) (token : Option String) (world : World)
    (f : Candidate) (reply : Reply) (reason : SkipReason) : Prop :=
  ∃ r version l session u, (s.scan repo token world).1 = .ok r ∧ world.script.Calm ∧
    s.Listed repo token world version l session ∧ (l.candidates.map Candidate.path).Nodup ∧
    s.Alone repo token version l session f u ∧ reply.Calm ∧ Fails u reply reason ∧
    ¬ s.SameBut repo token world (world.divert (.ofList u.target) 0 [reply]) f.path reason r

end

end Scanner

namespace Sample

/-- A scanner that sends a request up to 1026 times, without delay. -/
def patient : Scanner := { marking with settings := { settings with maxRetries := 1025 } }

/-- A scanner that sends a request up to eight times, with delays of more than a minute in all. -/
def slow : Scanner :=
  { marking with settings :=
      { settings with maxRetries := 7, retryBackoffBase := .finite (1 / 2) } }

/-- A reply that refuses a file. -/
def refusal : Reply := ⟨.response ⟨404, .empty, []⟩, none⟩

/-- A reply that is not received. -/
def timeout : Reply := ⟨.fault (.timeout "ReadTimeout"), none⟩

/-- A world of two files, with some replies to the first of them. -/
def worldOf (first : List Reply) : World where
  now := 1700000000
  script := ⟨[("/repos/o/n/git/trees/main?recursive=1",
      success ("\x7b\"tree\":[\x7b\"path\":\"a.py\",\"type\":\"blob\"\x7d," ++
        "\x7b\"path\":\"b.py\",\"type\":\"blob\"\x7d]\x7d")),
    ("/repos/o/n/contents/a.py?ref=main", first),
    ("/repos/o/n/contents/b.py?ref=main", success "zz")]⟩

/-- A world in which both files are received. -/
def twoFiles : World := worldOf (success "z")

/-- A world in which the first file is not received. -/
def oneFile : World := worldOf [timeout]

/-- The listing of the two files. -/
def twoListed : Listing := ⟨[⟨"a.py", 0, false⟩, ⟨"b.py", 0, false⟩], false⟩

/-- The target of the first file. -/
def firstTarget : String := "/repos/o/n/contents/a.py?ref=main"

theorem calm_timeout : timeout.Calm := ⟨rfl, by decide, by simp [timeout], by simp [timeout]⟩

theorem calm_success (text : String) : ∀ reply ∈ success text, reply.Calm :=
  List.forall_mem_singleton.mpr (calm_of_status (by decide))

theorem calm_worldOf {first : List Reply} (h : ∀ reply ∈ first, reply.Calm) :
    (worldOf first).script.Calm := by
  refine Script.forall_replies fun entry hentry => ?_
  simp only [worldOf, List.mem_cons, List.not_mem_nil, or_false] at hentry
  rcases hentry with rfl | rfl | rfl
  · exact calm_success _
  · exact h
  · exact calm_success "zz"

/-- The scans whose failures are looked at. -/
def scans : List (Scanner × World) := [(slow, twoFiles), (slow, oneFile), (patient, twoFiles)]

/-- The targets of the two files, which are asked for in the same way. -/
theorem targets_scans : ∀ x ∈ scans,
    (∃ u, (x.1.client none).base.bind
      ((Query.file "a.py" (some "main")).address? · mainBranch) = some u ∧
        String.ofList u.target = firstTarget ∧ u.saysHow = true) ∧
    ∀ v, (x.1.client none).base.bind
      ((Query.file "b.py" (some "main")).address? · mainBranch) = some v →
        String.ofList v.target = "/repos/o/n/contents/b.py?ref=main" := by
  have htargets : ∀ x ∈ scans, ((x.1.client none).base.bind
        ((Query.file "a.py" (some "main")).address? · mainBranch)).map
          (fun u => (String.ofList u.target, u.saysHow)) = some (firstTarget, true) ∧
      ((x.1.client none).base.bind
        ((Query.file "b.py" (some "main")).address? · mainBranch)).map
          (fun v => String.ofList v.target) = some "/repos/o/n/contents/b.py?ref=main" := by
    decide +kernel
  intro x hx
  obtain ⟨hfirst, hsecond⟩ := htargets x hx
  obtain ⟨u, hu, htarget⟩ := Option.map_eq_some_iff.mp hfirst
  obtain ⟨htarget, hhow⟩ := Prod.mk.inj htarget
  refine ⟨⟨u, hu, htarget, hhow⟩, fun v hv => ?_⟩
  rw [hv] at hsecond
  exact Option.some.inj hsecond

/-- In these scans the first file has a target of its own. -/
theorem alone_scans {s : Scanner} {world : World} (h : (s, world) ∈ scans) : ∃ r session u,
    (s.scan mainBranch none world).1 = .ok r ∧
      s.Listed mainBranch none world (.str "main") twoListed session ∧
      s.Alone mainBranch none (.str "main") twoListed session ⟨"a.py", 0, false⟩ u ∧
      String.ofList u.target = firstTarget ∧ u.saysHow = true := by
  have hrun : ∀ x ∈ scans, (x.1.scan mainBranch none x.2).1.isOk = true ∧
      (Listing.ofVersion (x.1.client none) mainBranch x.1.settings.limits (.str "main")
        (x.1.opening x.2)).1 = .ok (some twoListed) ∧
      (Listing.ofVersion (x.1.client none) mainBranch x.1.settings.limits (.str "main")
        (x.1.opening x.2)).2.requests.map (x.1.client none).targetOf =
          ["/repos/o/n/git/trees/main?recursive=1"] ∧
      x.1.settings.scanDeadline.atMost 0 = false ∧ (x.1.client none).canSend = true ∧
      (planOf x.1.settings.limits twoListed).chosen = twoListed.candidates := by
    decide +kernel
  obtain ⟨hok, hlist, hrequests, htime, hsend, hchosen⟩ := hrun _ h
  obtain ⟨⟨u, hu, htarget, hhow⟩, hother⟩ := targets_scans _ h
  obtain ⟨r, hreport⟩ := Scanner.exists_report hok
  rcases hout : Listing.ofVersion (s.client none) mainBranch s.settings.limits
    (.str "main") (s.opening world) with ⟨answer, session⟩
  rw [hout] at hlist hrequests
  obtain rfl : answer = _ := hlist
  refine ⟨r, session, u, hreport, ⟨htime, hsend, s.opening world, rfl, hout⟩,
    ⟨by rw [hchosen]; exact List.mem_cons_self, hu, ?_, ?_⟩, htarget, hhow⟩
  · intro x hx
    have htree := List.mem_map_of_mem (f := (s.client none).targetOf) hx
    rw [hrequests, List.mem_singleton] at htree
    rw [htree, htarget]
    decide
  · intro g hg hne v hv
    have hg : g = ⟨"a.py", 0, false⟩ ∨ g = ⟨"b.py", 0, false⟩ := by
      rw [hchosen] at hg
      simpa [twoListed] using hg
    rcases hg with rfl | rfl
    · exact absurd rfl hne
    · rw [hother v hv, htarget]
      decide

theorem fails_refusal {u : Url} (hhow : u.saysHow = true) : Fails u refusal .accessDenied := by
  have hreceived : received u refusal.outcome = .response ⟨404, .empty, []⟩ := by
    simp only [received, refusal, hhow]
    rfl
  exact .refused hreceived (by decide) (by decide) rfl

/-- The first file is refused, and the second one is searched as before. -/
theorem failure_isolated_refusal : ∃ r r',
    (slow.scan mainBranch none twoFiles).1 = .ok r ∧ r.filesScanned = 2 ∧
      (slow.scan mainBranch none (twoFiles.divert firstTarget 0 [refusal])).1 = .ok r' ∧
      tells r' = (1, [⟨"a.py", SkipReason.accessDenied.name⟩], ["b.py"]) ∧
      slow.SameBut mainBranch none twoFiles (twoFiles.divert firstTarget 0 [refusal]) "a.py"
        .accessDenied r := by
  have hrun : (slow.scan mainBranch none twoFiles).1.toOption.map Report.filesScanned = some 2 ∧
      (slow.retrieveInTime mainBranch none (.start twoFiles)).1 ≠ some .deadline ∧
      (slow.scan mainBranch none (twoFiles.divert firstTarget 0 [refusal])).1.toOption.map tells =
        some (1, [⟨"a.py", SkipReason.accessDenied.name⟩], ["b.py"]) ∧
      (slow.retrieveInTime mainBranch none
        (.start (twoFiles.divert firstTarget 0 [refusal]))).2.2.timer.late = false := by
    decide +kernel
  obtain ⟨hscanned, hout, htells, hlate⟩ := hrun
  obtain ⟨r, session, u, hreport, hlisted, halone, htarget, hhow⟩ :=
    alone_scans (show (slow, twoFiles) ∈ scans from List.mem_cons_self)
  obtain ⟨r', hreport', htells⟩ := Scanner.exists_report_reading htells
  rw [hreport] at hscanned
  rw [← htarget] at hlate
  have hsame := (Scanner.failure_isolated hreport hout (calm_worldOf (calm_success "z")) hlisted
    (by decide) halone (List.cons_ne_nil refusal []) (List.forall_mem_singleton.mpr
      ⟨calm_of_status (by decide), fails_refusal hhow⟩) (by simp)).mpr hlate
  rw [htarget] at hsame
  exact ⟨r, r', hreport, Option.some.inj hscanned, hreport', htells, hsame⟩

/-- **One file's failure can touch the others**, as the attempts at the file can take all the time
there is, with the file failing or before it does; and too many attempts come to a delay that has no
number. -/
theorem failure_spreads :
    slow.Spreads mainBranch none twoFiles ⟨"a.py", 0, false⟩ timeout .fetchFailed ∧
    slow.Spreads mainBranch none oneFile ⟨"a.py", 0, false⟩ refusal .accessDenied ∧
    patient.Spreads mainBranch none twoFiles ⟨"a.py", 0, false⟩ timeout .fetchFailed := by
  have hfiles :
      (slow.retrieveInTime mainBranch none
          (.start (twoFiles.divert firstTarget 0 [timeout]))).2.1.files ≠
        (slow.retrieveInTime mainBranch none (.start twoFiles)).2.1.files.filter
          (fun a => a.path ≠ "a.py") ∧
      (slow.retrieveInTime mainBranch none
          (.start (oneFile.divert firstTarget 0 [refusal]))).2.1.files ≠
        (slow.retrieveInTime mainBranch none (.start oneFile)).2.1.files.filter
          (fun a => a.path ≠ "a.py") := by
    decide +kernel
  refine ⟨?_, ?_, ?_⟩
  · obtain ⟨r, session, u, hreport, hlisted, halone, htarget, -⟩ :=
      alone_scans (show (slow, twoFiles) ∈ scans from List.mem_cons_self)
    refine ⟨r, _, _, session, u, hreport, calm_worldOf (calm_success "z"), hlisted, by decide,
      halone, calm_timeout, .timedOut rfl, fun ⟨r', _, hsame, _⟩ => ?_⟩
    rw [htarget] at hsame
    exact hfiles.1 hsame
  · obtain ⟨r, session, u, hreport, hlisted, halone, htarget, hhow⟩ :=
      alone_scans (show (slow, oneFile) ∈ scans by simp [scans])
    refine ⟨r, _, _, session, u, hreport,
      calm_worldOf (List.forall_mem_singleton.mpr calm_timeout), hlisted, by decide, halone,
      calm_of_status (by decide), fails_refusal hhow, fun ⟨r', _, hsame, _⟩ => ?_⟩
    rw [htarget] at hsame
    exact hfiles.2 hsame
  · obtain ⟨r, session, u, hreport, hlisted, halone, htarget, -⟩ :=
      alone_scans (show (patient, twoFiles) ∈ scans by simp [scans])
    have hclean : (patient.scan mainBranch none twoFiles).1.toOption.map Report.skipped =
          some [] ∧
        (patient.retrieveInTime mainBranch none (.start twoFiles)).1 = none := by
      decide +kernel
    obtain ⟨hskipped, hout⟩ := hclean
    rw [hreport] at hskipped
    refine ⟨r, _, _, session, u, hreport, calm_worldOf (calm_success "z"), hlisted, by decide,
      halone, calm_timeout, .timedOut rfl, fun hsame => ?_⟩
    -- A report would come in time, but the scan fails in that time.
    obtain ⟨-, session', hlisted', -⟩ := halone.listed hlisted (List.cons_ne_nil timeout [])
    have hlate := Scanner.late_of_sameBut hsame hlisted' (by decide) (by decide) (by decide)
      (by simp [show r.skipped = [] from Option.some.inj hskipped])
    obtain ⟨_, _, _, -, -, hfailing⟩ := Scanner.retrieveInTime_failing hout
      (calm_worldOf (calm_success "z")) hlisted (by decide) halone (List.cons_ne_nil timeout [])
      (List.forall_mem_singleton.mpr ⟨calm_timeout, .timedOut rfl⟩)
    obtain ⟨e, he⟩ := (hfailing hlate).1 ⟨rfl, by decide⟩
    obtain ⟨r', hreport', -⟩ := hsame
    exact (Scanner.report_of_scan hreport').1 e he

end Sample

end SourceAudit

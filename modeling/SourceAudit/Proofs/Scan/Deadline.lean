import SourceAudit.Proofs.Analysis.Evaluation
import SourceAudit.Proofs.Report.Order
import SourceAudit.Proofs.Scan.Listed
import SourceAudit.Scan

/-!
# SourceAudit.Proofs.Scan.Deadline

Scans that run out of time while a file is asked for. If one worker retrieves the files, the report
is the one of the files that were dealt with before, and it tells which files are left. If there are
more workers, the others go on, each file being what the replies for it bring. Files are searched
one by one, and what is found in one of them says so.

* `searchAll_filter` — the findings in some of the files are those of a search of these alone;
* `report_filter` — the report on some of the files has the findings there of the report on all;
* `Awaiting` — the moment at which a request for a file is sent;
* `Awaiting.silenced` — in a world in which that request is not answered in time, a scan comes to
  this moment as well;
* `CutAt` and `KeepsAt` — what a report there has of the report in the other world, with one worker
  and with any number of them;
* `deadline_cuts` — the report is cut at this moment and not altered;
* `crew_goesOn` — more workers than one may retrieve another file besides.
-/

namespace SourceAudit

open Number Line Remote Remote.Session Remote.Client Retrieval

namespace Scanner

section

variable {e : Engine} {clock : Clock} {o : Engine.Outcome} {as : List Artifact} (p : String → Bool)

/-- **The findings in some of the files** are those of a search of these alone. -/
theorem searchAll_filter (h : searchAll e clock as = some o) :
    ∃ o', searchAll e clock (as.filter fun a => p a.path) = some o' ∧
      o'.findings = o.findings.filter fun f => p f.path := by
  induction as generalizing o with
  | nil =>
      obtain rfl := Option.some.inj h
      exact ⟨⟨[], []⟩, rfl, rfl⟩
  | cons a as ih =>
      rw [searchAll] at h
      split at h
      swap
      · simp at h
      next first rest hfirst hrest =>
      obtain rfl := Option.some.inj h
      obtain ⟨o', ho', hfindings⟩ := ih hrest
      have hpath : ∀ f ∈ first.findings, p f.path = p a.path := fun f hf =>
        congrArg p (Engine.path_of_analyze hfirst hf)
      simp only [List.filter_append]
      cases hp : p a.path with
      | true =>
          have hall : first.findings.filter (fun f => p f.path) = first.findings :=
            List.filter_eq_self.mpr fun f hf => by rw [hpath f hf, hp]
          refine ⟨⟨first.findings ++ o'.findings, first.overruns ++ o'.overruns⟩, ?_, ?_⟩
          · simp [hp, searchAll, hfirst, ho']
          · rw [hall, hfindings]
      | false =>
          have hnone : first.findings.filter (fun f => p f.path) = [] :=
            List.filter_eq_nil_iff.mpr fun f hf => by rw [hpath f hf, hp]; decide
          exact ⟨o', by simp [hp, ho'], by rw [hnone, hfindings, List.nil_append]⟩

end

variable {s : Scanner} {repo : Repository} {late : Bool} {p p' : Progress}
  {started finished : Rat} {r : Report}

/-- **The report on some of the files** has the findings there of the report on all. -/
theorem report_filter (on : String → Bool) (late' : Bool) (finished' : Rat)
    (h : s.report repo late p started finished = .ok r)
    (hfiles : p'.files = p.files.filter fun a => on a.path) :
    ∃ r', s.report repo late' p' started finished' = .ok r' ∧
      r'.findings = r.findings.filter (fun f => on f.path) ∧
      r'.skipped = p'.skipped.mergeSort Skipped.le ∧ r'.filesScanned = p'.files.length ∧
      r'.truncated = (late' || p'.truncated) := by
  unfold report at h
  split at h
  swap
  · simp at h
  next o scannedAt ho hscanned =>
  obtain rfl := Except.ok.inj h
  obtain ⟨o', ho', hfindings⟩ := searchAll_filter on ho
  rw [← hfiles] at ho'
  refine ⟨_, by rw [report, ho', hscanned], ?_, rfl, rfl, rfl⟩
  have hline : ∀ f g, Report.sameLine f g = true → on f.path = on g.path := fun f g hfg =>
    congrArg on (Report.sameLine_iff.mp hfg).2.1
  calc Report.ordered o'.findings
      = Report.ordered (o.findings.filter fun f => on f.path) := by rw [hfindings]
    _ = (Report.ordered o.findings).filter fun f => on f.path :=
        (Report.ordered_filter hline o.findings).symm

end Scanner

namespace Retrieval

/-- What a retrieval has come to, it keeps. -/
theorem retrieve_extends (c : Client) (repo : Repository) (limits : Limits) (fs : List Candidate)
    (limited : Bool) (p : Progress) (s : Session) :
    p.files <+: (retrieve c repo limits fs limited p s).2.1.files ∧
      p.skipped <+: (retrieve c repo limits fs limited p s).2.1.skipped := by
  induction fs generalizing limited p s with
  | nil => exact ⟨List.prefix_rfl, List.prefix_rfl⟩
  | cons f fs ih =>
      have hskip : ∀ (q : Progress) limited s, q.files = p.files → p.skipped <+: q.skipped →
          p.files <+: (retrieve c repo limits fs limited q s).2.1.files ∧
            p.skipped <+: (retrieve c repo limits fs limited q s).2.1.skipped := by
        intro q limited s hfiles hskipped
        obtain ⟨hfiles', hskipped'⟩ := ih limited q s
        exact ⟨hfiles ▸ hfiles', hskipped.trans hskipped'⟩
      cases limited with
      | true => exact hskip _ true s rfl (List.prefix_append _ _)
      | false =>
          unfold retrieve
          split
          · next body s₁ _ =>
            obtain ⟨hfiles, hskipped⟩ := ih false (p.keep (artifactOf limits f.path body)) s₁
            exact ⟨(List.prefix_append _ _).trans hfiles, hskipped⟩
          · next s₁ _ =>
            split
            · exact ⟨List.prefix_rfl, List.prefix_rfl⟩
            · exact ih false p s₁.lose
          · split
            · exact hskip _ true _ rfl (List.prefix_append _ _)
            · exact hskip _ false _ rfl (List.prefix_append _ _)
            · exact hskip _ false _ rfl List.prefix_rfl

/-- Of the files that a retrieval ends with, those that it had at some moment. -/
theorem filter_files {files more : List Artifact}
    (hnodup : ((files ++ more).map Artifact.path).Nodup) :
    (files ++ more).filter (fun a => (files.map Artifact.path).contains a.path) = files := by
  rw [List.map_append] at hnodup
  have hdisjoint := (List.nodup_append.mp hnodup).2.2
  rw [List.filter_append, List.filter_eq_self.mpr, List.filter_eq_nil_iff.mpr, List.append_nil]
  · intro a ha hcontains
    have hother := List.contains_iff_mem.mp hcontains
    exact hdisjoint _ hother _ (List.mem_map_of_mem ha) rfl
  · intro a ha
    exact List.contains_iff_mem.mpr (List.mem_map_of_mem ha)

/-- Of two lists of files that come in one order and agree where they have the same path, those that
are in both. -/
theorem filter_common {paths : List String} (hnodup : paths.Nodup) {files files' : List Artifact}
    (h : (files.map Artifact.path).Sublist paths) (h' : (files'.map Artifact.path).Sublist paths)
    (hagree : ∀ a ∈ files, ∀ a' ∈ files', a.path = a'.path → a = a') :
    files.filter (fun a => (files'.map Artifact.path).contains a.path) =
      files'.filter (fun a => (files.map Artifact.path).contains a.path) := by
  -- A path that is not in either list changes nothing.
  have hskip : ∀ (x : Artifact) {as bs : List Artifact}, (∀ b ∈ bs, b.path ≠ x.path) →
      bs.filter (fun b => ((x :: as).map Artifact.path).contains b.path) =
        bs.filter (fun b => (as.map Artifact.path).contains b.path) := by
    intro x as bs hne
    refine List.filter_congr fun b hb => ?_
    simp [hne b hb]
  induction paths generalizing files files' with
  | nil =>
      rw [List.map_eq_nil_iff.mp (List.sublist_nil.mp h),
        List.map_eq_nil_iff.mp (List.sublist_nil.mp h')]
  | cons path paths ih =>
      obtain ⟨hpath, hrest⟩ := List.nodup_cons.mp hnodup
      have hnot : ∀ {bs : List Artifact}, (bs.map Artifact.path).Sublist paths →
          ∀ b ∈ bs, b.path ≠ path := by
        rintro bs hbs b hb rfl
        exact hpath (hbs.subset (List.mem_map_of_mem hb))
      rcases List.sublist_cons_iff.mp h with hfs | ⟨_, heq, hfs⟩ <;>
        rcases List.sublist_cons_iff.mp h' with hfs' | ⟨_, heq', hfs'⟩
      · exact ih hrest hfs hfs' hagree
      · obtain ⟨a', as', rfl, rfl, rfl⟩ := List.map_eq_cons_iff.mp heq'
        rw [hskip a' (hnot hfs), List.filter_cons_of_neg]
        · exact ih hrest hfs hfs' fun a ha b hb => hagree a ha b (List.mem_cons_of_mem _ hb)
        · simpa using hnot hfs
      · obtain ⟨a, as, rfl, rfl, rfl⟩ := List.map_eq_cons_iff.mp heq
        rw [hskip a (hnot hfs'), List.filter_cons_of_neg]
        · exact ih hrest hfs hfs' fun b hb => hagree b (List.mem_cons_of_mem _ hb)
        · simpa using hnot hfs'
      · obtain ⟨a, as, rfl, rfl, rfl⟩ := List.map_eq_cons_iff.mp heq
        obtain ⟨a', as', rfl, hsame, rfl⟩ := List.map_eq_cons_iff.mp heq'
        obtain rfl := hagree a List.mem_cons_self a' List.mem_cons_self hsame.symm
        rw [List.filter_cons_of_pos (by simp), List.filter_cons_of_pos (by simp),
          hskip a (hnot hfs), hskip a (hnot hfs')]
        congr 1
        exact ih hrest hfs hfs' fun b hb b' hb' =>
          hagree b (List.mem_cons_of_mem _ hb) b' (List.mem_cons_of_mem _ hb')

variable {c : Client} {repo : Repository} {limits : Limits} {target : String} {f : Candidate}
  {ref : Option String} {s s' : Session} {p : Progress}

/-- Once a request of a session is sent, its target is asked for more often than before. -/
theorem asked_lt_of_prefix {requests : List Request} {i : Nat} {x : Request}
    (hx : requests[i]? = some x) (h : requests.take (i + 1) <+: s.requests) :
    (requests.take i).countP (fun y => c.targetOf y = c.targetOf x) < c.asked (c.targetOf x) s := by
  refine Nat.lt_of_lt_of_le ?_ h.sublist.countP_le
  rw [List.take_add_one, hx, List.countP_append]
  simp

/-- If a target is asked for in the turn of a file, it is the one of the file. -/
theorem exists_address_of_asked
    (h : c.asked target s < c.asked target (contents c repo f ref s).2) :
    ∃ u, c.base.bind ((Query.file f.path ref).address? · repo) = some u ∧
      String.ofList u.target = target := by
  by_contra hother
  refine absurd h (Nat.not_lt.mpr (Nat.le_of_eq ?_))
  unfold contents
  split
  · rfl
  · rw [session_file]
    exact asked_get_of_ne fun u hu heq => hother ⟨u, hu, heq⟩

/-- Once a worker is late with a file, the others go on with the files that follow, or with none if
there are no others. -/
theorem retrieve_of_late (limits : Limits)
    (h : contents c repo f p.refText s = (.error .deadline, s')) (after : List Candidate) :
    ∃ fs, (fs = [] ∨ fs = after) ∧
      retrieve c repo limits (f :: after) false p s =
        (some (lateStop (retrieve c repo limits fs false p s'.lose).1),
          (retrieve c repo limits fs false p s'.lose).2) := by
  by_cases hothers : s'.timer.others = []
  · exact ⟨[], Or.inl rfl, retrieve_late h hothers after⟩
  · exact ⟨after, Or.inr rfl, retrieve_lost h hothers after⟩

end Retrieval

namespace Scanner

/-- The moment at which a scan sends the request with index `i`: what it has come to by then, the
file that it asks for, and the files that follow. -/
def Awaiting (s : Scanner) (repo : Repository) (token : Option String) (world : World) (i : Nat)
    (p : Progress) (f : Candidate) (after : List Candidate) : Prop :=
  ∃ version l session before session₁,
    s.Listed repo token world version l session ∧
      (planOf s.settings.limits l).chosen = before ++ f :: after ∧
      Reaches (s.client token) repo s.settings.limits before (.listed s.settings.limits version l)
        (session.recruit s.settings.fetchConcurrency.toNat) p session₁ ∧
      session₁.requests.length ≤ i ∧
      i < (contents (s.client token) repo f p.refText session₁).2.requests.length

/-- The world in which a scan gets no answer in time to its request `x` with index `i`. -/
def silenced (s : Scanner) (repo : Repository) (token : Option String) (world : World) (i : Nat)
    (x : Request) (now : Option Rat) (later : List Reply) : World :=
  let target := (s.client token).targetOf x
  let earlier := ((s.scan repo token world).2.requests.take i).countP fun y =>
    (s.client token).targetOf y = target
  world.divert target earlier (⟨.hang, now⟩ :: later)

/-- The report `r` of a scan is cut and not altered in the world in which there is no answer in time
to its request `x` with index `i`: then there is a report on the files retrieved before it, with the
findings of `r` in them, and it skips what was skipped before it and, for the deadline, the file
asked for and those that follow. -/
def CutAt (s : Scanner) (repo : Repository) (token : Option String) (world : World) (i : Nat)
    (x : Request) (now : Option Rat) (later : List Reply) (r : Report) : Prop :=
  let final := (s.retrieveInTime repo token (.start world)).2.1
  let silent := s.silenced repo token world i x now later
  ∃ p f after r', s.Awaiting repo token world i p f after ∧ p.files <+: final.files ∧
    p.skipped <+: final.skipped ∧ (s.scan repo token silent).1 = .ok r' ∧ r'.truncated = true ∧
    (s.retrieveInTime repo token (.start silent)).2.1.files = p.files ∧
    r'.filesScanned = p.files.length ∧
    r'.findings = r.findings.filter (fun f => (p.files.map Artifact.path).contains f.path) ∧
    r'.skipped.Perm
      (p.skipped ++ (f :: after).map fun g => ⟨g.path, SkipReason.deadline.name⟩)

/-- The report `r` of a scan is not altered in that world, but for what the other workers come to:
if there is still a report, it is cut, it keeps what was retrieved and skipped before the request,
it skips the file asked for, for the deadline, and in the files that are retrieved in both worlds
its findings are those of `r`. For the last, no two files may have one target. -/
def KeepsAt (s : Scanner) (repo : Repository) (token : Option String) (world : World) (i : Nat)
    (x : Request) (now : Option Rat) (later : List Reply) (r : Report) : Prop :=
  let silent := s.silenced repo token world i x now later
  let files := (s.retrieveInTime repo token (.start world)).2.1.files
  let files' := (s.retrieveInTime repo token (.start silent)).2.1.files
  ∃ p f after, s.Awaiting repo token world i p f after ∧
    ∀ r', (s.scan repo token silent).1 = .ok r' →
      r'.truncated = true ∧ p.files <+: files' ∧ p.skipped ⊆ r'.skipped ∧
      f.path ∉ files'.map Artifact.path ∧
      r'.skipped.filter (fun x => x.path = f.path) = [⟨f.path, SkipReason.deadline.name⟩] ∧
      ((∀ version l session, s.Listed repo token world version l session →
          (planOf s.settings.limits l).chosen.Pairwise
            (Apart (s.client token) repo (Progress.listed s.settings.limits version l).refText)) →
        r'.findings.filter (fun g => (files.map Artifact.path).contains g.path) =
          r.findings.filter (fun g => (files'.map Artifact.path).contains g.path))

section

variable {s : Scanner} {repo : Repository} {token : Option String} {world : World} {r : Report}
  {i : Nat} {x : Request} {p : Progress} {f : Candidate} {after : List Candidate}

theorem session_scan (s : Scanner) (repo : Repository) (token : Option String) (world : World) :
    (s.scan repo token world).2 = (s.retrieveInTime repo token (.start world)).2.2 := by
  unfold scan
  split <;> simp only [*]

/-- Whether there is a report can be seen from less than the report. -/
theorem exists_report (h : (s.scan repo token world).1.isOk = true) :
    ∃ r, (s.scan repo token world).1 = .ok r := by
  cases hreport : (s.scan repo token world).1 with
  | error e => simp [hreport, Except.isOk, Except.toBool] at h
  | ok r => exact ⟨r, rfl⟩

/-- So can something that is read off it. -/
theorem exists_report_reading {α : Type} {read : Report → α} {a : α}
    (h : (s.scan repo token world).1.toOption.map read = some a) :
    ∃ r, (s.scan repo token world).1 = .ok r ∧ read r = a := by
  cases hreport : (s.scan repo token world).1 with
  | error e => simp [hreport, Except.toOption] at h
  | ok r => exact ⟨r, rfl, by simpa [hreport, Except.toOption] using h⟩

/-- A scan that reports has not failed, and it reports on the files that it has retrieved. -/
theorem report_of_scan (hreport : (s.scan repo token world).1 = .ok r) :
    (∀ e, (s.retrieveInTime repo token (.start world)).1 ≠ some (.failed e)) ∧
      ∃ late q finished, q.files = (s.retrieveInTime repo token (.start world)).2.1.files ∧
        s.report repo late q world.now finished = .ok r := by
  rcases hout : s.retrieveInTime repo token (.start world) with ⟨_ | _ | _, p, session⟩ <;>
    rw [scan, hout] at hreport
  · exact ⟨by simp, false, p, _, rfl, hreport⟩
  · simp at hreport
  · exact ⟨by simp, true, markUnfinished p, _, rfl, hreport⟩

/-- What a report tells of the files that are skipped, and whether it tells of a cut. -/
theorem report_eq {late : Bool} {p : Progress} {started finished : Rat}
    (h : s.report repo late p started finished = .ok r) :
    r.skipped = p.skipped.mergeSort Skipped.le ∧ r.truncated = (late || p.truncated) := by
  obtain ⟨r', hr', -, hskipped, -, htruncated⟩ := report_filter (fun _ => true) late finished h
    (show p.files = p.files.filter fun _ => true by simp)
  obtain rfl := Except.ok.inj (h.symm.trans hr')
  exact ⟨hskipped, htruncated⟩

/-- Reports have the same findings in the files that they have in common. -/
theorem findings_common {late late' : Bool} {p p' : Progress} {started finished finished' : Rat}
    {r' : Report} (on on' : String → Bool)
    (h : s.report repo late p started finished = .ok r)
    (h' : s.report repo late' p' started finished' = .ok r')
    (hsame : (p'.files.filter fun a => on' a.path) = p.files.filter fun a => on a.path) :
    (r'.findings.filter fun f => on' f.path) = r.findings.filter fun f => on f.path := by
  let common : Progress := { p with files := p.files.filter fun a => on a.path }
  obtain ⟨r₁, hr₁, hfindings, -⟩ := report_filter on true finished h
    (show common.files = p.files.filter fun a => on a.path from rfl)
  obtain ⟨r₂, hr₂, hfindings', -⟩ := report_filter on' true finished h'
    (show common.files = p'.files.filter fun a => on' a.path from hsame.symm)
  obtain rfl := Except.ok.inj (hr₁.symm.trans hr₂)
  rw [← hfindings, ← hfindings']

/-- Once a file is neither retrieved nor skipped when the time is over, it is recorded as
unfinished, once. -/
theorem filter_markUnfinished {p : Progress} {path : String} (hnodup : p.planned.Nodup)
    (hplanned : path ∈ p.planned)
    (hleft : path ∉ p.files.map Artifact.path ++ p.skipped.map Skipped.path) :
    (markUnfinished p).skipped.filter (fun x => x.path = path) =
      [⟨path, SkipReason.deadline.name⟩] := by
  have hskipped : p.skipped.filter (fun x => x.path = path) = [] :=
    List.filter_eq_nil_iff.mpr fun x hx => by
      rintro heq
      refine hleft (List.mem_append_right _ ?_)
      rw [← of_decide_eq_true heq]
      exact List.mem_map_of_mem hx
  have hone : p.planned.filter (fun name => decide (name = path)) = [path] := by
    rw [List.filter_eq, List.count_eq_one_of_mem hnodup hplanned]
    rfl
  have hkept : (p.planned.filter fun name =>
      !(p.files.map Artifact.path ++ p.skipped.map Skipped.path).contains name).filter
        (fun name => decide (name = path)) = [path] := by
    rw [List.filter_comm, hone]
    simpa using hleft
  simp only [markUnfinished, List.filter_append, hskipped, List.nil_append, List.filter_map,
    Function.comp_def, hkept, List.map_singleton]

/-! ## The request that is not answered -/

/-- A request for a file is sent by a worker, in the turn of some file. -/
theorem exists_awaiting (hx : (s.scan repo token world).2.requests[i]? = some x)
    (hfile : x.accept = (Query.file "" none).accept)
    (ho : ∀ e, (s.retrieveInTime repo token (.start world)).1 ≠ some (.failed e)) :
    0 < s.settings.fetchConcurrency ∧ ∃ p f after, s.Awaiting repo token world i p f after := by
  rw [session_scan] at hx
  have hmem := List.mem_of_getElem? hx
  obtain ⟨version, l, session, hlisted⟩ := exists_listed fun hnone => hnone x hmem hfile
  rw [retrieveInTime_of_listed hlisted] at hx ho hmem
  -- The request is none of those before the listing is received, as these ask for no file.
  have hfirst : ∀ {requests : List Request}, requests[i]? = some x → session.requests <+: requests →
      session.requests.length ≤ i := by
    rintro _ hx ⟨sent, rfl⟩
    by_contra hlt
    rw [List.getElem?_append_left (Nat.lt_of_not_le hlt)] at hx
    exact hlisted.noFile x (List.mem_of_getElem? hx) hfile
  have hworkers : 0 < s.settings.fetchConcurrency := by
    by_contra hnone
    rcases retrieveBy_of_nonpos (Int.not_lt.mp hnone) (s.client token) repo s.settings.limits
      (planOf s.settings.limits l).chosen (.listed s.settings.limits version l) session with
      ⟨e, he⟩ | halike
    · exact ho e he
    · rw [halike.requests] at hmem
      exact hlisted.noFile x hmem hfile
  refine ⟨hworkers, ?_⟩
  rw [retrieveBy_of_pos hworkers] at hx ho
  obtain ⟨hlast, -⟩ := List.getElem?_eq_some_iff.mp hx
  have hsends := retrieve_sends (s.client token) repo s.settings.limits
    (planOf s.settings.limits l).chosen false (.listed s.settings.limits version l)
    (session.recruit s.settings.fetchConcurrency.toNat)
  obtain ⟨before, f, after, p, session₁, hchosen, hreaches, hturn⟩ :=
    exists_turn ho (hfirst hx hsends.isPrefix) hlast
  exact ⟨p, f, after, version, l, session, before, session₁, hlisted, hchosen, hreaches, hturn⟩

/-- **Until a request is not answered in time**, a scan comes to the same without that answer. -/
theorem Awaiting.silenced (h : s.Awaiting repo token world i p f after)
    (hworkers : 0 < s.settings.fetchConcurrency)
    (hx : (s.scan repo token world).2.requests[i]? = some x) (now : Option Rat)
    (later : List Reply) :
    ∃ version l session session' before t t' u,
      s.Listed repo token world version l session ∧
      s.Listed repo token (s.silenced repo token world i x now later) version l session' ∧
      (∀ other, other ≠ (s.client token).targetOf x →
        session'.world.script.replies other = session.world.script.replies other) ∧
      (planOf s.settings.limits l).chosen = before ++ f :: after ∧
      Reaches (s.client token) repo s.settings.limits before (.listed s.settings.limits version l)
        (session'.recruit s.settings.fetchConcurrency.toNat) p t ∧
      contents (s.client token) repo f p.refText t = (.error .deadline, t') ∧
      (s.client token).base.bind ((Query.file f.path p.refText).address? · repo) = some u ∧
      String.ofList u.target = (s.client token).targetOf x := by
  obtain ⟨version, l, session, before, session₁, hlisted, hchosen, hreaches, hfirst, hlast⟩ := h
  simp only [Scanner.silenced]
  generalize hrequests : (s.scan repo token world).2.requests = requests at hx
  generalize htarget : (s.client token).targetOf x = target
  generalize htotal : (requests.take i).countP (fun y => (s.client token).targetOf y = target) =
    total
  -- The requests of the scan begin with those sent until the end of the turn of the file.
  have hturn : (contents (s.client token) repo f p.refText session₁).2.requests <+: requests := by
    rw [← hrequests, session_scan, retrieveInTime_of_listed hlisted, retrieveBy_of_pos hworkers,
      hchosen, (retrieve_of_reaches hreaches (f :: after)).1]
    exact (retrieve_cons_sends (s.client token) repo s.settings.limits f after p session₁
      (retrieve_sends _ _ _ after)).isPrefix
  have hearlier : session₁.requests <+: requests.take i :=
    List.prefix_take_iff.mpr
      ⟨(contents_sends (s.client token) repo f _ session₁).isPrefix.trans hturn, hfirst⟩
  have hbefore : (s.client token).asked target session₁ ≤ total := by
    rw [← htotal]
    exact hearlier.sublist.countP_le
  have hmore : requests.take (i + 1) <+:
      (contents (s.client token) repo f p.refText session₁).2.requests :=
    List.prefix_of_prefix_length_le (List.take_prefix _ _) hturn
      (Nat.le_trans (List.length_take_le _ _) hlast)
  have hasked := asked_lt_of_prefix (c := s.client token) hx hmore
  rw [htarget, htotal] at hasked
  obtain ⟨session', hlisted', hstep⟩ := hlisted.agrees target total
    (List.cons_ne_nil ⟨.hang, now⟩ later) (Nat.le_trans (asked_of_sends hreaches.sends) hbefore)
  obtain ⟨t, hreaches', hstep'⟩ := hreaches.agrees (List.cons_ne_nil _ _) (hstep.recruit _)
    (ne_of_eq_of_ne hlisted.limit (Option.some_ne_none _)) hbefore
  obtain ⟨u, hu, hto⟩ := exists_address_of_asked (Nat.lt_of_le_of_lt hbefore hasked)
  exact ⟨version, l, session, session', before, t, _, u, hlisted, hlisted', hstep.others, hchosen,
    hreaches', Prod.ext (contents_cut hstep' hbefore hasked) rfl, hu, hto⟩

/-- What a scan had come to when a request was sent is there at its end. -/
theorem extends_of_awaiting (h : s.Awaiting repo token world i p f after)
    (hworkers : 0 < s.settings.fetchConcurrency) :
    let final := (s.retrieveInTime repo token (.start world)).2.1
    p.files <+: final.files ∧ p.skipped <+: final.skipped := by
  obtain ⟨version, l, session, before, session₁, hlisted, hchosen, hreaches, -⟩ := h
  rw [retrieveInTime_of_listed hlisted, retrieveBy_of_pos hworkers, hchosen,
    (retrieve_of_reaches hreaches (f :: after)).1]
  exact retrieve_extends (s.client token) repo s.settings.limits (f :: after) false p session₁

/-- No file is retrieved twice. -/
theorem nodup_files {version : Json} {l : Listing} {session : Session}
    (h : s.Listed repo token world version l session)
    (hdistinct : (l.candidates.map Candidate.path).Nodup)
    (ho : ∀ e, (s.retrieveInTime repo token (.start world)).1 ≠ some (.failed e)) :
    ((s.retrieveInTime repo token (.start world)).2.1.files.map Artifact.path).Nodup := by
  rw [retrieveInTime_of_listed h] at ho ⊢
  obtain ⟨-, done, rest, hdone, -, haccounts⟩ := retrieveBy_accounts (s.client token) repo
    s.settings.limits s.settings.fetchConcurrency (planOf s.settings.limits l).chosen session
    (accounts_listed s.settings.limits version l).2 rfl ho
  have hpaths := hdone.map Candidate.path
  rw [List.map_append] at hpaths
  have hnodup := (hpaths.append_left _).nodup_iff.mp (nodup_listed s.settings.limits hdistinct)
  rw [← List.append_assoc] at hnodup
  exact (List.nodup_append.mp
    (haccounts.paths.nodup_iff.mpr (List.nodup_append.mp hnodup).1)).1

/-! ## One worker -/

/-- **A scan with one worker ends** where a request for a file is not answered in time, with what it
had come to when the request was sent. -/
theorem retrieveInTime_silenced (hone : s.settings.fetchConcurrency = 1)
    (h : s.Awaiting repo token world i p f after)
    (hx : (s.scan repo token world).2.requests[i]? = some x) (now : Option Rat)
    (later : List Reply) :
    ∃ session, s.retrieveInTime repo token (.start (s.silenced repo token world i x now later)) =
      (some .deadline, p, session) := by
  obtain ⟨version, l, -, session', before, t, t', -, -, hlisted, -, hchosen, hreaches, hlate, -⟩ :=
    h.silenced (by omega) hx now later
  rw [hone] at hreaches
  obtain ⟨files, skipped, hthrough, rfl⟩ := hreaches.through rfl
  have halone : t'.timer.others = [] := by
    have hfirst := alone_contents (s.client token) repo f
      (Progress.listed s.settings.limits version l).refText (hthrough.alone rfl)
    rwa [show contents (s.client token) repo f
      (Progress.listed s.settings.limits version l).refText t = _ from hlate] at hfirst
  refine ⟨t'.lose, ?_⟩
  rw [retrieveInTime_of_listed hlisted, hone, retrieveBy_of_pos one_pos, hchosen,
    retrieve_of_through hthrough]
  exact retrieve_late hlate halone after

/-- Of the planned files, those left when a request is sent are recorded as unfinished. -/
theorem markUnfinished_of_awaiting (hone : s.settings.fetchConcurrency = 1)
    (h : s.Awaiting repo token world i p f after)
    (hdistinct : ∀ version l session, s.Listed repo token world version l session →
      (l.candidates.map Candidate.path).Nodup) :
    markUnfinished p = { p with
      skipped := p.skipped ++ (f :: after).map fun g => ⟨g.path, SkipReason.deadline.name⟩ } := by
  obtain ⟨version, l, session, before, session₁, hlisted, hchosen, hreaches, -⟩ := h
  rw [hone] at hreaches
  obtain ⟨files, skipped, hthrough, rfl⟩ := hreaches.through rfl
  have haccounts := hthrough.accounts (accounts_listed s.settings.limits version l).2
  have hplanned : ((Progress.listed s.settings.limits version l).add files skipped).planned =
      before.map Candidate.path ++ (f :: after).map Candidate.path := by
    rw [← List.map_append, ← hchosen]
    rfl
  have hnodup := nodup_listed s.settings.limits (hdistinct _ _ _ hlisted)
  rw [hchosen, List.map_append] at hnodup
  simp only [markUnfinished, hplanned, filter_unfinished hnodup haccounts, List.map_map,
    Function.comp_def]

/-- **The report of one worker is cut** where a request for a file is not answered in time. -/
theorem cutAt_of_one (hone : s.settings.fetchConcurrency = 1)
    (hreport : (s.scan repo token world).1 = .ok r)
    (hdistinct : ∀ version l session, s.Listed repo token world version l session →
      (l.candidates.map Candidate.path).Nodup)
    (h : s.Awaiting repo token world i p f after)
    (hx : (s.scan repo token world).2.requests[i]? = some x) (now : Option Rat)
    (later : List Reply) : s.CutAt repo token world i x now later r := by
  obtain ⟨ho, late, q, finished, hq, hreport⟩ := report_of_scan hreport
  obtain ⟨hfiles, hskipped⟩ := extends_of_awaiting h (by omega)
  have hnodup : ((s.retrieveInTime repo token (.start world)).2.1.files.map
      Artifact.path).Nodup := by
    obtain ⟨version, l, session, -, -, hlisted, -⟩ := h
    exact nodup_files hlisted (hdistinct _ _ _ hlisted) ho
  obtain ⟨session, hcut⟩ := retrieveInTime_silenced hone h hx now later
  have hmarked := markUnfinished_of_awaiting hone h hdistinct
  have hthere : (markUnfinished p).files =
      q.files.filter fun a => (p.files.map Artifact.path).contains a.path := by
    obtain ⟨more, hmore⟩ := hfiles
    rw [hq, ← hmore, hmarked]
    rw [← hmore] at hnodup
    exact (filter_files hnodup).symm
  obtain ⟨r', hreport', hfindings, hskipped', hscanned, htruncated⟩ :=
    report_filter _ true session.world.now hreport hthere
  refine ⟨p, f, after, r', h, hfiles, hskipped, ?_, htruncated, by rw [hcut], ?_, hfindings, ?_⟩
  · rw [scan, hcut]
    exact hreport'
  · rw [hscanned, hmarked]
  · rw [hskipped', hmarked]
    exact List.mergeSort_perm _ _

/-! ## Any number of workers -/

/-- What the other workers come to if a request for a file is not answered in time: they go on with
the files that follow, or with none if there are no others, and the scan does not end in time. -/
theorem retrieveInTime_lost (hworkers : 0 < s.settings.fetchConcurrency)
    (h : s.Awaiting repo token world i p f after)
    (hx : (s.scan repo token world).2.requests[i]? = some x) (now : Option Rat)
    (later : List Reply) :
    ∃ fs t, (fs = [] ∨ fs = after) ∧
      let others := retrieve (s.client token) repo s.settings.limits fs false p t
      s.retrieveInTime repo token (.start (s.silenced repo token world i x now later)) =
        (some (lateStop others.1), others.2) := by
  obtain ⟨version, l, -, session', before, t, t', -, -, hlisted, -, hchosen, hreaches, hlate, -⟩ :=
    h.silenced hworkers hx now later
  obtain ⟨fs, hfs, hrest⟩ := retrieve_of_late s.settings.limits hlate after
  obtain ⟨hsame, hend⟩ := retrieve_of_reaches hreaches (f :: after)
  rw [hrest] at hsame hend
  refine ⟨fs, t'.lose, hfs, ?_⟩
  rw [retrieveInTime_of_listed hlisted, retrieveBy_of_pos hworkers, hchosen]
  refine Prod.ext ?_ hsame
  rcases hend with hend | hend
  · exact hend
  · rw [hend, lateStop_lateStop]

/-- The account of what a scan has come to when a request is sent. -/
theorem accounts_of_awaiting (h : s.Awaiting repo token world i p f after)
    (hdistinct : ∀ version l session, s.Listed repo token world version l session →
      (l.candidates.map Candidate.path).Nodup) :
    ∃ (cut : Prop) (dealt : List String), Accounts cut dealt p ∧ p.planned.Nodup ∧
      f.path ∈ p.planned ∧ f.path ∉ dealt ∧ f.path ∉ after.map Candidate.path := by
  obtain ⟨version, l, session, before, session₁, hlisted, hchosen, hreaches, -⟩ := h
  obtain ⟨hplanned, done, hdone, haccounts⟩ :=
    hreaches.accounts (accounts_listed s.settings.limits version l).2
  have hall : p.planned = (planOf s.settings.limits l).chosen.map Candidate.path := hplanned
  have hnodup := nodup_listed s.settings.limits (hdistinct _ _ _ hlisted)
  refine ⟨_, _, haccounts, hall ▸ (List.nodup_append.mp hnodup).2.1, ?_, ?_⟩
  · rw [hall, hchosen]
    simp
  · rw [hchosen, List.map_append, List.map_cons, ← List.append_assoc, List.nodup_middle,
      List.nodup_cons, List.mem_append, List.mem_append, not_or, not_or] at hnodup
    obtain ⟨⟨⟨hunplanned, hbefore⟩, hafter⟩, -⟩ := hnodup
    refine ⟨List.not_mem_append hunplanned (mt (fun hmem => ?_) hbefore), hafter⟩
    exact (hdone.map Candidate.path).subset hmem

/-- **What had been done stays** if a request for a file is not answered in time, and the file is
neither retrieved nor skipped. -/
theorem retrieveInTime_keeps (hworkers : 0 < s.settings.fetchConcurrency)
    (hdistinct : ∀ version l session, s.Listed repo token world version l session →
      (l.candidates.map Candidate.path).Nodup)
    (h : s.Awaiting repo token world i p f after)
    (hx : (s.scan repo token world).2.requests[i]? = some x) (now : Option Rat)
    (later : List Reply) :
    let run := s.retrieveInTime repo token (.start (s.silenced repo token world i x now later))
    run.1 ≠ none ∧ ((∀ e, run.1 ≠ some (.failed e)) →
      p.files <+: run.2.1.files ∧ p.skipped <+: run.2.1.skipped ∧ run.2.1.planned.Nodup ∧
        f.path ∈ run.2.1.planned ∧
        f.path ∉ run.2.1.files.map Artifact.path ++ run.2.1.skipped.map Skipped.path) := by
  obtain ⟨fs, t, hfs, hrun⟩ := retrieveInTime_lost hworkers h hx now later
  obtain ⟨cut, dealt, haccounts, hnodup, hplanned, hdealt, hafter⟩ :=
    accounts_of_awaiting h hdistinct
  rw [hrun]
  refine ⟨by simp, fun ho => ?_⟩
  have hothers : ∀ e, (retrieve (s.client token) repo s.settings.limits fs false p t).1 ≠
      some (.failed e) := by
    intro e he
    rw [he] at ho
    exact ho e rfl
  obtain ⟨hfiles, hskipped⟩ :=
    retrieve_extends (s.client token) repo s.settings.limits fs false p t
  obtain ⟨hsame, done, rest, hdone, -, hend⟩ := retrieve_accounts (s.client token) repo
    s.settings.limits fs false t haccounts (by simp) rfl hothers
  refine ⟨hfiles, hskipped, hsame ▸ hnodup, hsame ▸ hplanned, ?_⟩
  rw [hend.paths.mem_iff]
  refine List.not_mem_append hdealt (mt (fun hmem => ?_) hafter)
  obtain ⟨g, hg, hpath⟩ := List.mem_map.mp hmem
  have hmem : g ∈ fs := hdone.mem_iff.mpr (List.mem_append_left _ hg)
  rcases hfs with rfl | rfl
  · simp at hmem
  · exact hpath ▸ List.mem_map_of_mem hmem

/-- **A file that is retrieved in both worlds** is the same in both, if no two files have one
target. -/
theorem files_common (hworkers : 0 < s.settings.fetchConcurrency)
    (hdistinct : ∀ version l session, s.Listed repo token world version l session →
      (l.candidates.map Candidate.path).Nodup)
    (hapart : ∀ version l session, s.Listed repo token world version l session →
      (planOf s.settings.limits l).chosen.Pairwise
        (Apart (s.client token) repo (Progress.listed s.settings.limits version l).refText))
    (h : s.Awaiting repo token world i p f after)
    (hx : (s.scan repo token world).2.requests[i]? = some x) (now : Option Rat)
    (later : List Reply) :
    let files := (s.retrieveInTime repo token (.start world)).2.1.files
    let files' := (s.retrieveInTime repo token
      (.start (s.silenced repo token world i x now later))).2.1.files
    f.path ∉ files'.map Artifact.path →
      files'.filter (fun a => (files.map Artifact.path).contains a.path) =
        files.filter (fun a => (files'.map Artifact.path).contains a.path) := by
  intro files files' hleft
  obtain ⟨version, l, session, session', before, t, t', u, hlisted, hlisted', hothers, hchosen,
    hreaches, -, hu, htarget⟩ := h.silenced hworkers hx now later
  rw [hreaches.refText] at hu
  have hpairs := hapart _ _ _ hlisted
  have hpaths := (List.nodup_append.mp
    (nodup_listed s.settings.limits (hdistinct _ _ _ hlisted))).2.1
  obtain ⟨more, hmore, horder, hbrought⟩ := retrieve_files s.settings.limits false
    (.listed s.settings.limits version l) (session.recruit s.settings.fetchConcurrency.toNat) hpairs
  obtain ⟨more', hmore', horder', hbrought'⟩ := retrieve_files s.settings.limits false
    (.listed s.settings.limits version l) (session'.recruit s.settings.fetchConcurrency.toNat)
    hpairs
  rw [← retrieveBy_of_pos hworkers, ← retrieveInTime_of_listed hlisted] at hmore
  rw [← retrieveBy_of_pos hworkers, ← retrieveInTime_of_listed hlisted'] at hmore'
  obtain rfl : files = more := hmore
  obtain rfl : files' = more' := hmore'
  refine filter_common hpaths horder' horder fun a' ha' a ha hsame => ?_
  obtain ⟨g, hg, hga⟩ := hbrought a ha
  obtain ⟨g', hg', hga'⟩ := hbrought' a' ha'
  obtain rfl : g' = g := List.inj_on_of_nodup_map hpaths hg' hg
    (hga'.path.symm.trans (hsame.trans hga.path))
  -- The replies for the file are those of the first world, as it is not the one awaited.
  have hne : f ≠ g' := by
    rintro rfl
    exact hleft (hga'.path ▸ List.mem_map_of_mem ha')
  refine (hga.unique hga' fun v hv => hothers _ ?_).symm
  rw [← htarget]
  have hf : f ∈ (planOf s.settings.limits l).chosen := by
    rw [hchosen]
    exact List.mem_append_right _ List.mem_cons_self
  exact hpairs.forall hg hf hne.symm v u hv hu

/-- **The report of any workers is not altered** if a request for a file is not answered in time. -/
theorem keepsAt_of_pos (hworkers : 0 < s.settings.fetchConcurrency)
    (hreport : (s.scan repo token world).1 = .ok r)
    (hdistinct : ∀ version l session, s.Listed repo token world version l session →
      (l.candidates.map Candidate.path).Nodup)
    (h : s.Awaiting repo token world i p f after)
    (hx : (s.scan repo token world).2.requests[i]? = some x) (now : Option Rat)
    (later : List Reply) : s.KeepsAt repo token world i x now later r := by
  refine ⟨p, f, after, h, fun r' hreport' => ?_⟩
  obtain ⟨hend, hkeeps⟩ := retrieveInTime_keeps hworkers hdistinct h hx now later
  have hcommon := fun hapart => files_common hworkers hdistinct hapart h hx now later
  obtain ⟨-, late, q, finished, hq, hfirst⟩ := report_of_scan hreport
  have ho := (report_of_scan hreport').1
  rcases hrun : s.retrieveInTime repo token
    (.start (s.silenced repo token world i x now later)) with ⟨o, p', session⟩
  rw [hrun] at hend hkeeps ho hcommon
  obtain ⟨hfiles, hskipped, hnodup, hplanned, hleft⟩ := hkeeps ho
  obtain rfl : o = some .deadline := by
    rcases o with _ | _ | _
    · exact absurd rfl hend
    · exact absurd rfl (ho _)
    · rfl
  rw [scan, hrun] at hreport'
  obtain ⟨hrecorded, htruncated⟩ := report_eq hreport'
  have hperm : r'.skipped.Perm (markUnfinished p').skipped := by
    rw [hrecorded]
    exact List.mergeSort_perm _ _
  have hnot : f.path ∉ p'.files.map Artifact.path :=
    fun hmem => hleft (List.mem_append_left _ hmem)
  refine ⟨htruncated, hfiles, ?_, hnot, ?_, fun hapart => ?_⟩
  · intro y hy
    exact hperm.mem_iff.mpr (List.mem_append_left _ (hskipped.subset hy))
  · have hone := hperm.filter fun y => decide (y.path = f.path)
    rw [filter_markUnfinished hnodup hplanned hleft] at hone
    exact List.perm_singleton.mp hone
  · refine findings_common _ _ hfirst hreport' ?_
    rw [hq]
    exact hcommon hapart hnot

/-- **A deadline only cuts.** Let a scan report on a repository of distinct paths, and let one of
its requests for a file not be answered in time. With one worker the report is cut at this request:
it has the files retrieved before it and the findings in them, and it skips what was skipped before
it and, for the deadline, every file that was left. With any number of workers, of which the others
go on, a report is cut and keeps what was done before, it skips the file for the deadline, and it
finds nothing else in the files that are retrieved with the answer as well. -/
theorem deadline_cuts (hreport : (s.scan repo token world).1 = .ok r)
    (hdistinct : ∀ version l session, s.Listed repo token world version l session →
      (l.candidates.map Candidate.path).Nodup)
    (hx : (s.scan repo token world).2.requests[i]? = some x)
    (hfile : x.accept = (Query.file "" none).accept) (now : Option Rat) (later : List Reply) :
    (s.settings.fetchConcurrency = 1 → s.CutAt repo token world i x now later r) ∧
      s.KeepsAt repo token world i x now later r := by
  obtain ⟨hworkers, p, f, after, hawaiting⟩ := exists_awaiting hx hfile (report_of_scan hreport).1
  exact ⟨fun hone => cutAt_of_one hone hreport hdistinct hawaiting hx now later,
    keepsAt_of_pos hworkers hreport hdistinct hawaiting hx now later⟩

end

end Scanner

namespace Sample

/-- A scanner that marks every `z` in the files. -/
def marking : Scanner := { scanner with registry := (engine 9 4000).registry }

/-- The same scanner with eight workers. -/
def crew : Scanner :=
  { marking with settings := { marking.settings with fetchConcurrency := 8 } }

/-- A world of two files, the second of which is received at the second attempt. -/
def retriedWorld : World where
  now := 1700000000
  script := ⟨[("/repos/o/n/git/trees/main?recursive=1",
      success ("\x7b\"tree\":[\x7b\"path\":\"b.js\",\"type\":\"blob\"\x7d," ++
        "\x7b\"path\":\"c.js\",\"type\":\"blob\"\x7d]\x7d")),
    ("/repos/o/n/contents/b.js?ref=main", success "z"),
    ("/repos/o/n/contents/c.js?ref=main",
      ⟨.response ⟨502, .empty, []⟩, none⟩ :: success "zz")]⟩

/-- The listing of the two files. -/
def retriedListing : Listing := ⟨[⟨"b.js", 0, false⟩, ⟨"c.js", 0, false⟩], false⟩

/-- The request for a file of the main branch. -/
def fileRequest (path : String) : Request where
  url := "https://api.github.com/repos/o/n/contents/" ++ path ++ "?ref=main"
  accept := (Query.file "" none).accept
  authorization := none

/-- What a report tells of the files: how many were searched, those skipped, and where there are
findings. -/
def tells (r : Report) : Nat × List Skipped × List String :=
  (r.filesScanned, r.skipped, r.findings.map Finding.path)

/-- The listing is the same with one worker and with eight. -/
theorem listed_retriedWorld {s : Scanner} (hs : s = marking ∨ s = crew) {version : Json}
    {l : Listing} {session : Session}
    (h : s.Listed mainBranch none retriedWorld version l session) : l = retriedListing := by
  have hlisting : ∀ s ∈ [marking, crew],
      (Listing.ofVersion (s.client none) mainBranch s.settings.limits (.str "main")
        (s.opening retriedWorld)).1 = .ok (some retriedListing) := by
    decide +kernel
  obtain ⟨session₀, hversion, hlist⟩ := h.listing
  obtain ⟨hnamed, rfl⟩ := Prod.mk.inj hversion
  obtain rfl := Except.ok.inj hnamed
  have hsame := hlisting s (by simpa using hs)
  rw [hlist] at hsame
  exact Option.some.inj (Except.ok.inj hsame)

/-- The run of one worker: it searches both files, after a fourth request, again for the second one.
If that is not answered in time, it searches the first file alone. -/
theorem run_retriedWorld :
    (marking.scan mainBranch none retriedWorld).1.toOption.map Report.filesScanned = some 2 ∧
    (marking.scan mainBranch none retriedWorld).2.requests[3]? = some (fileRequest "c.js") ∧
    (marking.scan mainBranch none (marking.silenced mainBranch none retriedWorld 3
      (fileRequest "c.js") none [])).1.toOption.map tells =
        some (1, [⟨"c.js", SkipReason.deadline.name⟩], ["b.js"]) := by
  decide +kernel

/-- The run of eight workers: it searches both files as well. If the first one is not received in
time, it searches the second one. -/
theorem run_crew :
    (crew.scan mainBranch none retriedWorld).1.toOption.map Report.filesScanned = some 2 ∧
    (crew.scan mainBranch none retriedWorld).2.requests[1]? = some (fileRequest "b.js") ∧
    (crew.scan mainBranch none (crew.silenced mainBranch none retriedWorld 1
      (fileRequest "b.js") none [])).1.toOption.map tells =
        some (1, [⟨"b.js", SkipReason.deadline.name⟩], ["c.js"]) := by
  decide +kernel

/-- With one worker the second attempt at the second file is not answered in time, and with eight of
them the first file is not. -/
theorem deadline_cuts_retriedWorld :
    (∃ r r', (marking.scan mainBranch none retriedWorld).1 = .ok r ∧ r.filesScanned = 2 ∧
      (marking.scan mainBranch none retriedWorld).2.requests[3]? = some (fileRequest "c.js") ∧
      marking.CutAt mainBranch none retriedWorld 3 (fileRequest "c.js") none [] r ∧
      (marking.scan mainBranch none (marking.silenced mainBranch none retriedWorld 3
        (fileRequest "c.js") none [])).1 = .ok r' ∧
      tells r' = (1, [⟨"c.js", SkipReason.deadline.name⟩], ["b.js"])) ∧
    ∃ r r', (crew.scan mainBranch none retriedWorld).1 = .ok r ∧ r.filesScanned = 2 ∧
      (crew.scan mainBranch none retriedWorld).2.requests[1]? = some (fileRequest "b.js") ∧
      crew.KeepsAt mainBranch none retriedWorld 1 (fileRequest "b.js") none [] r ∧
      (crew.scan mainBranch none (crew.silenced mainBranch none retriedWorld 1
        (fileRequest "b.js") none [])).1 = .ok r' ∧
      tells r' = (1, [⟨"b.js", SkipReason.deadline.name⟩], ["c.js"]) := by
  constructor
  · obtain ⟨hreport, hx, hsilent⟩ := run_retriedWorld
    obtain ⟨r, hr, hscanned⟩ := Scanner.exists_report_reading hreport
    obtain ⟨r', hr', htells⟩ := Scanner.exists_report_reading hsilent
    have hcut := Scanner.deadline_cuts hr
      (fun _ _ _ h => by rw [listed_retriedWorld (.inl rfl) h]; decide) hx rfl none []
    exact ⟨r, r', hr, hscanned, hx, hcut.1 rfl, hr', htells⟩
  · obtain ⟨hreport, hx, hsilent⟩ := run_crew
    obtain ⟨r, hr, hscanned⟩ := Scanner.exists_report_reading hreport
    obtain ⟨r', hr', htells⟩ := Scanner.exists_report_reading hsilent
    have hkeeps := Scanner.deadline_cuts hr
      (fun _ _ _ h => by rw [listed_retriedWorld (.inr rfl) h]; decide) hx rfl none []
    exact ⟨r, r', hr, hscanned, hx, hkeeps.2, hr', htells⟩

/-- **More workers go on** when one of them gets no answer in time, so that the report is not cut
there: it has the second file, although the request for the first one is not answered. -/
theorem crew_goesOn : ∃ r x, (crew.scan mainBranch none retriedWorld).1 = .ok r ∧
    (∀ version l session, crew.Listed mainBranch none retriedWorld version l session →
      (l.candidates.map Candidate.path).Nodup) ∧
    (crew.scan mainBranch none retriedWorld).2.requests[1]? = some x ∧
    x.accept = (Query.file "" none).accept ∧
    ¬ crew.CutAt mainBranch none retriedWorld 1 x none [] r := by
  obtain ⟨hreport, hx, hsilent⟩ := run_crew
  obtain ⟨r, hr, -⟩ := Scanner.exists_report_reading hreport
  obtain ⟨r', hr', htells⟩ := Scanner.exists_report_reading hsilent
  refine ⟨r, fileRequest "b.js", hr, fun _ _ _ h => ?_, hx, rfl, ?_⟩
  · rw [listed_retriedWorld (.inr rfl) h]
    decide
  rintro ⟨p, f, after, r'', hawaiting, -, -, hcut, -, -, -, -, hskipped⟩
  obtain rfl : r'' = r' := by
    rw [hr'] at hcut
    exact (Except.ok.inj hcut).symm
  -- The second file is left when the request is sent, so that it would have to be skipped.
  have hleft : ⟨"c.js", 0, false⟩ ∈ f :: after := by
    obtain ⟨version, l, session, before, -, hlisted, hchosen, -⟩ := hawaiting
    rw [listed_retriedWorld (.inr rfl) hlisted] at hchosen
    have hlast := congrArg List.getLast? hchosen
    rw [List.getLast?_append_of_ne_nil _ (by simp)] at hlast
    exact List.mem_of_getLast? hlast.symm
  have hmem : (⟨"c.js", SkipReason.deadline.name⟩ : Skipped) ∈ r''.skipped :=
    hskipped.mem_iff.mpr (List.mem_append_right _ (List.mem_map_of_mem
      (f := fun g : Candidate => (⟨g.path, SkipReason.deadline.name⟩ : Skipped)) hleft))
  rw [show r''.skipped = _ from congrArg (·.2.1) htells] at hmem
  simp at hmem

end Sample

end SourceAudit

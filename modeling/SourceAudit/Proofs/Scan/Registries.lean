import SourceAudit.Proofs.Scan.Deadline

/-!
# SourceAudit.Proofs.Scan.Registries

The rules that the findings of a report name. A scanner that is created with a registry takes it up
unless it has no rules; then the registry that all scanners share is taken in its place, as if none
had been given.

* `not_passesOver_of_mem_hits` — a rule has no hits in the lines that it passes over;
* `justifies_of_scan` — each finding of a report is justified by the registry of the scanner: it
  names a rule of it that is for the file, and a rule for secrets only on a line that is not safe;
* `findings_justified` — so the registry that was given justifies the findings exactly if it has
  rules, or if there is nothing to justify.
-/

namespace SourceAudit

open Line Remote Retrieval

namespace Engine

variable {e : Engine} {r : Rule} {h : Hit}

theorem line_of_mem_lineHits {number : Nat} {line : List Char} {windows : List Span}
    {seen : List Nat} (hh : h ∈ lineHits r number line windows seen) : h.line = line := by
  obtain ⟨window, -, -, m, -, rfl⟩ := mem_lineHits hh
  rfl

/-- A rule has no hits in the lines that it passes over. -/
theorem not_passesOver_of_mem_hits {lines : List (List Char)} (hh : h ∈ e.hits r lines) :
    passesOver r h.line = false := by
  unfold hits at hh
  generalize 1 = number at hh
  induction lines generalizing number with
  | nil => simp [hitsFrom] at hh
  | cons line lines ih =>
      unfold hitsFrom at hh
      rcases List.mem_append.mp hh with hh | hh
      · cases hover : passesOver r line with
        | true => simp [hover] at hh
        | false =>
            cases hwindows : windows? line.length e.maxLineLength windowOverlap with
            | none => simp [hover, hwindows] at hh
            | some windows =>
                have hline : h.line = line :=
                  line_of_mem_lineHits (by simpa [hover, hwindows] using hh)
                rw [hline, hover]
      · exact ih (number + 1) hh

/-- The line of a hit is not empty, so that a rule for secrets has looked for safe lines there. -/
theorem Occurs.not_isSafeLine {lineAt : Nat → Option (List Char)} (h' : e.Occurs r lineAt h)
    (hover : passesOver r h.line = false) (hsecret : r.isSecret = true) :
    r.isSafeLine h.line = false := by
  have hlength : 0 < h.line.length := by
    have hstart := h'.start_lt
    have hstop := h'.stop_le
    omega
  have hempty : h.line.isEmpty = false := by
    cases hline : h.line with
    | nil => simp [hline] at hlength
    | cons c cs => rfl
  simpa [passesOver, hsecret, hempty] using hover

end Engine

/-- A registry justifies a finding in some files: it has a rule of that name which is for the path,
and if that is a rule for secrets, no pattern for safe lines occurs in the line of the finding. -/
def Registry.Justifies (g : Registry) (files : List Artifact) (f : Finding) : Prop :=
  ∃ r ∈ g.rules, f.ruleId = r.id ∧ r.applies f.path = true ∧
    ∃ a ∈ files, f.path = a.path ∧ ∃ line, Engine.lineOf (split a.content) f.line = some line ∧
      (r.isSecret = true → ∀ safe ∈ r.safeLines, safe.occursIn line = false)

theorem Registry.justifies_of_analyze {e : Engine} {a : Artifact} {clock : Clock}
    {o : Engine.Outcome} {f : Finding} {files : List Artifact} (ha : a ∈ files)
    (h : (e.analyze ⟨a.path, a.content⟩ clock).1 = some o) (hf : f ∈ o.findings) :
    e.registry.Justifies files f := by
  obtain ⟨r, hr, hit, hhit, rfl⟩ := Engine.exists_hit_of_analyze h hf
  obtain ⟨hmem, happlies⟩ := List.mem_filter.mp hr
  have hoccurs := Engine.occurs_of_mem_hits hhit
  refine ⟨r, hmem, rfl, happlies, a, ha, rfl, hit.line, hoccurs.line, fun hsecret safe hsafe => ?_⟩
  have hline : r.isSafeLine hit.line = false :=
    hoccurs.not_isSafeLine (Engine.not_passesOver_of_mem_hits hhit) hsecret
  have hnone : ∀ p ∈ r.safeLines, p.occursIn hit.line = false := by
    simpa [Rule.isSafeLine] using hline
  exact hnone safe hsafe

namespace Scanner

section

variable {s : Scanner} {repo : Repository} {token : Option String} {world : World} {r : Report}
  {p : Progress} {f : Finding}

/-- What is found in some files is found in one of them. -/
theorem exists_analyze_of_searchAll {e : Engine} {clock : Clock} {as : List Artifact}
    {o : Engine.Outcome} (h : searchAll e clock as = some o) (hf : f ∈ o.findings) :
    ∃ a ∈ as, ∃ o', (e.analyze ⟨a.path, a.content⟩ clock).1 = some o' ∧ f ∈ o'.findings := by
  induction as generalizing o with
  | nil =>
      obtain rfl := Option.some.inj h
      simp at hf
  | cons a as ih =>
      rw [searchAll] at h
      split at h
      swap
      · simp at h
      next first rest hfirst hrest =>
      obtain rfl := Option.some.inj h
      rcases List.mem_append.mp hf with hf | hf
      · exact ⟨a, List.mem_cons_self, first, hfirst, hf⟩
      · obtain ⟨b, hb, o', ho', hmem⟩ := ih hrest hf
        exact ⟨b, List.mem_cons_of_mem a hb, o', ho', hmem⟩

/-- The findings of a report stand for all that is found in the files. -/
theorem represents_of_report {cut : Bool} {started finished : Rat}
    (h : s.report repo cut p started finished = .ok r) :
    ∃ o, searchAll s.engine [started] p.files = some o ∧
      Report.Represents r.findings o.findings := by
  unfold report at h
  split at h
  swap
  · simp at h
  next o scannedAt ho hscanned =>
  obtain rfl := Except.ok.inj h
  have hperm : (Report.ordered o.findings).Perm (Report.deduplicate o.findings) :=
    List.mergeSort_perm _ Report.findingLe
  obtain ⟨-, hsubset, hcovers⟩ := Report.represents_deduplicate o.findings
  refine ⟨o, ho, Report.apart_ordered o.findings, fun f hf => ?_, fun f hf => ?_⟩
  · exact hsubset (hperm.mem_iff.mp hf)
  · obtain ⟨g, hg, hgf⟩ := hcovers f hf
    exact ⟨g, hperm.mem_iff.mpr hg, hgf⟩

/-- The findings of a scan are justified by the registry of the scanner. -/
theorem justifies_of_scan (h : (s.scan repo token world).1 = .ok r) (hf : f ∈ r.findings) :
    s.registry.Justifies (s.retrieveInTime repo token (.start world)).2.1.files f := by
  obtain ⟨-, late, q, finished, hfiles, hreport⟩ := report_of_scan h
  obtain ⟨o, ho, hrepresents⟩ := represents_of_report hreport
  obtain ⟨a, ha, o', ho', hmem⟩ := exists_analyze_of_searchAll ho (hrepresents.subset hf)
  exact Registry.justifies_of_analyze (hfiles ▸ ha) ho' hmem

/-- Where something is found in the files, a report has findings. All that is assumed is one fact,
so that a run need only be evaluated once. -/
theorem exists_findings (as : List Artifact)
    (h : (s.scan repo token world).1.isOk = true ∧
      (s.retrieveInTime repo token (.start world)).2.1.files = as ∧
      (searchAll s.engine [world.now] as).map (·.findings.isEmpty) = some false) :
    ∃ r, (s.scan repo token world).1 = .ok r ∧ r.findings ≠ [] := by
  obtain ⟨hok, hfiles, hfound⟩ := h
  obtain ⟨r, hr⟩ := exists_report hok
  obtain ⟨-, late, q, finished, hq, hreport⟩ := report_of_scan hr
  obtain ⟨o, ho, hrepresents⟩ := represents_of_report hreport
  rw [hq, hfiles] at ho
  have hmany : o.findings ≠ [] := by simpa [ho] using hfound
  obtain ⟨f, hf⟩ := List.exists_mem_of_ne_nil _ hmany
  obtain ⟨g, hg, -⟩ := hrepresents.covers f hf
  exact ⟨r, hr, List.ne_nil_of_mem hg⟩

end

theorem chooseRegistry_of_rules {given : Registry} (h : given.rules ≠ []) (shared : Registry) :
    chooseRegistry (some given) shared = given := by
  simp [chooseRegistry, h]

/-- **The findings name rules of the registry that was given, if it has any.** Whatever registry a
scanner is created with, each finding of a report is justified by the registry that the scanner
takes up. The one that was given justifies them all exactly if it has rules, or if there are no
findings: a registry without rules gives way to the shared one. -/
theorem findings_justified {settings : Settings} {given shared : Registry} {stalled : List String}
    {repo : Repository} {token : Option String} {world : World} {r : Report}
    (h : ((create settings (some given) shared stalled).scan repo token world).1 = .ok r) :
    let s := create settings (some given) shared stalled
    let files := (s.retrieveInTime repo token (.start world)).2.1.files
    (∀ f ∈ r.findings, (chooseRegistry (some given) shared).Justifies files f) ∧
      ((∀ f ∈ r.findings, given.Justifies files f) ↔ (given.rules = [] → r.findings = [])) := by
  intro s files
  have hchosen : ∀ f ∈ r.findings, (chooseRegistry (some given) shared).Justifies files f :=
    fun f hf => justifies_of_scan h hf
  refine ⟨hchosen, fun hgiven hrules => ?_, fun hempty f hf => ?_⟩
  · refine List.eq_nil_iff_forall_not_mem.mpr fun f hf => ?_
    obtain ⟨rule, hrule, -⟩ := hgiven f hf
    simp [hrules] at hrule
  · have hrules : given.rules ≠ [] := fun hrules => by
      simp [hempty hrules] at hf
    rw [← chooseRegistry_of_rules hrules shared]
    exact hchosen f hf

end Scanner

namespace Sample

/-- A world with one file, in which there is a mark. -/
def markedWorld : World where
  now := 1700000000
  script := ⟨[("/repos/o/n/git/trees/main?recursive=1",
      success "\x7b\"tree\":[\x7b\"path\":\"a.js\",\"type\":\"blob\"\x7d]\x7d"),
    ("/repos/o/n/contents/a.js?ref=main", success "z")]⟩

/-- The rules that the scanners of a program share. -/
def sharedRules : Registry := (engine 9 4000).registry

/-- Other rules, for longer tokens. -/
def ownRules : Registry := (engine 10 4000).registry

theorem findings_justified_markedWorld :
    ∃ r, ((Scanner.create settings (some ownRules) sharedRules []).scan mainBranch none
        markedWorld).1 = .ok r ∧
      r.findings ≠ [] ∧
      ∀ f ∈ r.findings, ownRules.Justifies
        ((Scanner.create settings (some ownRules) sharedRules []).retrieveInTime mainBranch none
          (.start markedWorld)).2.1.files f := by
  have hreports : ∃ r,
      ((Scanner.create settings (some ownRules) sharedRules []).scan mainBranch none
        markedWorld).1 = .ok r ∧ r.findings ≠ [] :=
    Scanner.exists_findings [⟨"a.js", [122], false⟩] (by decide +kernel)
  obtain ⟨r, hreport, hfound⟩ := hreports
  obtain ⟨-, hgiven⟩ := Scanner.findings_justified hreport
  exact ⟨r, hreport, hfound, hgiven.mpr fun hrules => by simp [ownRules, engine] at hrules⟩

/-- **A registry without rules is not the one that is used**: a scanner that is given it reports
what the rules of the shared one find. -/
theorem noRules_replaced :
    ∃ r, ((Scanner.create settings (some noRules) sharedRules []).scan mainBranch none
        markedWorld).1 = .ok r ∧
      ¬ ∀ f ∈ r.findings, noRules.Justifies
        ((Scanner.create settings (some noRules) sharedRules []).retrieveInTime mainBranch none
          (.start markedWorld)).2.1.files f := by
  have hreports : ∃ r,
      ((Scanner.create settings (some noRules) sharedRules []).scan mainBranch none
        markedWorld).1 = .ok r ∧ r.findings ≠ [] :=
    Scanner.exists_findings [⟨"a.js", [122], false⟩] (by decide +kernel)
  obtain ⟨r, hreport, hfound⟩ := hreports
  refine ⟨r, hreport, fun hall => hfound ?_⟩
  refine List.eq_nil_iff_forall_not_mem.mpr fun f hf => ?_
  obtain ⟨rule, hrule, -⟩ := hall f hf
  simp [noRules] at hrule

end Sample

end SourceAudit

import Mathlib.Data.List.Perm.Subperm
import SourceAudit.Proofs.Report.Order
import SourceAudit.Report

/-!
# SourceAudit.Proofs.Report.Consistency

The numbers of a report. They are taken from the findings that the report shows, which are not the
ones that came in, so that more findings coming in could make them smaller in principle:
deduplication may let one finding take the place of another. It never does so across severities, if
these go with the rules.

* `consistent_assemble` — the numbers of a report agree with its findings and with each other;
* `count_ordered_le`, `score_antitone` — with more findings no severity is counted less often, and
  the score is no better;
* `assembleChecked_consistent` — both of the report of any scan.
-/

namespace SourceAudit

/-- The count of a summary for one severity. -/
def Summary.count (s : Summary) : Severity → Nat
  | .critical => s.critical
  | .high => s.high
  | .medium => s.medium
  | .low => s.low
  | .info => s.info

namespace Report

variable {findings findings' : List Finding}

/-! ## Counting -/

/-- A summary counts the findings of each severity. -/
theorem count_of (findings : List Finding) (s : Severity) :
    (Summary.of findings).count s = findings.countP (·.severity = s) := by
  cases s <;> rfl

/-- Every finding has one severity. -/
theorem length_eq_counts (findings : List Finding) :
    findings.countP (·.severity = .critical) + findings.countP (·.severity = .high) +
      findings.countP (·.severity = .medium) + findings.countP (·.severity = .low) +
      findings.countP (·.severity = .info) = findings.length := by
  induction findings with
  | nil => rfl
  | cons f fs ih =>
      simp only [List.countP_cons, List.length_cons]
      cases hs : f.severity <;> simp <;> omega

/-- The penalties, by severity. -/
theorem penalties_eq_counts (findings : List Finding) :
    penalties findings =
      20 * findings.countP (·.severity = .critical) + 12 * findings.countP (·.severity = .high) +
        6 * findings.countP (·.severity = .medium) + 2 * findings.countP (·.severity = .low) := by
  induction findings with
  | nil => rfl
  | cons f fs ih =>
      rw [penalties, ih]
      simp only [List.countP_cons]
      cases hs : f.severity <;> simp [penalty] <;> omega

/-! ## The numbers of a report -/

/-- The numbers of a report agree with what it lists. -/
structure Consistent (report : Report) : Prop where
  counts : ∀ s, report.summary.count s = (report.findings.filter (·.severity = s)).length
  sum : report.summary.critical + report.summary.high + report.summary.medium +
    report.summary.low + report.summary.info = report.summary.total
  total : report.summary.total = report.findings.length
  score : (report.score : Int) = max 0 (100 - 20 * report.summary.critical -
    12 * report.summary.high - 6 * report.summary.medium - 2 * report.summary.low)
  score_le : report.score ≤ 100
  filesSkipped : report.filesSkipped = report.skipped.length

/-- What is assembled is consistent. -/
theorem consistent_assemble (r : Retrieved) (findings : List Finding) (scannedAt : Instant)
    (durationMs : Int) (overruns : Nat) (cut : Bool) :
    Consistent (assemble r findings scannedAt durationMs overruns cut) where
  counts s := (count_of _ s).trans List.countP_eq_length_filter
  sum := length_eq_counts (ordered findings)
  total := rfl
  score := by
    have hpenalties := penalties_eq_counts (ordered findings)
    simp only [ordered] at hpenalties
    simp only [assemble, scoreOf, Summary.of, hpenalties]
    omega
  score_le := Nat.sub_le _ _
  filesSkipped := rfl

/-! ## More findings -/

/-- The severity of a finding is that of its rule. -/
def SeverityByRule (findings : List Finding) : Prop :=
  ∀ f ∈ findings, ∀ g ∈ findings, f.ruleId = g.ruleId → f.severity = g.severity

/-- What deduplication has one finding for. -/
def lineKey (f : Finding) : String × String × Nat := (f.ruleId, f.path, f.line)

theorem sameLine_iff_lineKey {f g : Finding} : sameLine f g = true ↔ lineKey f = lineKey g := by
  rw [sameLine_iff, lineKey, lineKey, Prod.mk.injEq, Prod.mk.injEq]

/-- Every line that a rule reports with a severity it reports with that severity among more
findings, so there are no fewer such lines. -/
theorem count_deduplicate_le (hseverity : SeverityByRule findings') (hsub : findings ⊆ findings')
    (s : Severity) :
    (deduplicate findings).countP (·.severity = s) ≤
      (deduplicate findings').countP (·.severity = s) := by
  obtain ⟨hapart, hkept, -⟩ := represents_deduplicate findings
  obtain ⟨-, hkept', hcovers⟩ := represents_deduplicate findings'
  have hnodup : (((deduplicate findings).filter (·.severity = s)).map lineKey).Nodup := by
    refine List.pairwise_map.mpr ((hapart.filter _).imp fun {f g} hfg heq => ?_)
    rw [sameLine_iff_lineKey.mpr heq] at hfg
    exact Bool.false_ne_true hfg.symm
  have hkeys : ((deduplicate findings).filter (·.severity = s)).map lineKey ⊆
      ((deduplicate findings').filter (·.severity = s)).map lineKey := by
    intro key hkey
    obtain ⟨f, hf, rfl⟩ := List.mem_map.mp hkey
    obtain ⟨hf, hfs⟩ := List.mem_filter.mp hf
    obtain ⟨g, hg, hgf, -⟩ := hcovers f (hsub (hkept hf))
    have hsame : g.severity = f.severity :=
      hseverity g (hkept' hg) f (hsub (hkept hf)) (sameLine_iff.mp hgf).1
    refine List.mem_map.mpr ⟨g, List.mem_filter.mpr ⟨hg, ?_⟩, sameLine_iff_lineKey.mp hgf⟩
    rw [hsame]
    exact hfs
  have hlength := (List.subperm_of_subset hnodup hkeys).length_le
  rw [List.length_map, List.length_map] at hlength
  rw [List.countP_eq_length_filter, List.countP_eq_length_filter]
  exact hlength

/-- More findings leave no fewer of any severity, if a rule has one severity only. -/
theorem count_ordered_le (hseverity : SeverityByRule findings') (hsub : findings ⊆ findings')
    (s : Severity) :
    (ordered findings).countP (·.severity = s) ≤ (ordered findings').countP (·.severity = s) := by
  have hcount : ∀ fs : List Finding,
      (ordered fs).countP (·.severity = s) = (deduplicate fs).countP (·.severity = s) :=
    fun fs => (List.mergeSort_perm _ findingLe).countP_eq _
  rw [hcount, hcount]
  exact count_deduplicate_le hseverity hsub s

/-- Findings of which each severity is counted no less often have no better score. -/
theorem score_antitone (hcounts : ∀ s : Severity,
    findings.countP (·.severity = s) ≤ findings'.countP (·.severity = s)) :
    scoreOf findings' ≤ scoreOf findings := by
  have hcritical := hcounts .critical
  have hhigh := hcounts .high
  have hmedium := hcounts .medium
  have hlow := hcounts .low
  unfold scoreOf
  rw [penalties_eq_counts, penalties_eq_counts]
  omega

/-- **The numbers of a report are right.** For a number of overruns that is not negative there is a
report; its numbers agree with what it lists, it counts all skipped files, and it is truncated if
the retrieval or the scan was. If severities go with the rules, then the report of more findings, of
whatever retrieval, counts no severity less often and has no better score. -/
theorem assembleChecked_consistent (r : Retrieved) (findings : List Finding) (scannedAt : Instant)
    (durationMs : Int) {overruns : Int} (hoverruns : 0 ≤ overruns) (cut : Bool) :
    ∃ report, assembleChecked r findings scannedAt durationMs overruns cut = .good report ∧
      Consistent report ∧ report.filesSkipped = r.skipped.length ∧
      report.truncated = (cut || r.truncated) ∧
      ∀ (r' : Retrieved) findings' scannedAt' durationMs' overruns' cut', 0 ≤ overruns' →
        findings ⊆ findings' → SeverityByRule findings' →
        ∃ report', assembleChecked r' findings' scannedAt' durationMs' overruns' cut' =
            .good report' ∧
          (∀ s, report.summary.count s ≤ report'.summary.count s) ∧
          report'.score ≤ report.score := by
  have hgood : ∀ (r : Retrieved) findings scannedAt durationMs (overruns : Int) cut, 0 ≤ overruns →
      assembleChecked r findings scannedAt durationMs overruns cut =
        .good (assemble r findings scannedAt durationMs overruns.toNat cut) :=
    fun r findings scannedAt durationMs overruns cut h => if_neg (Int.not_lt.mpr h)
  refine ⟨_, hgood r findings scannedAt durationMs overruns cut hoverruns,
    consistent_assemble .., List.length_mergeSort .., rfl, ?_⟩
  intro r' findings' scannedAt' durationMs' overruns' cut' hoverruns' hsub hseverity
  have hcounts := count_ordered_le hseverity hsub
  refine ⟨_, hgood r' findings' scannedAt' durationMs' overruns' cut' hoverruns', fun s => ?_,
    score_antitone hcounts⟩
  have hcount := hcounts s
  rw [← count_of, ← count_of] at hcount
  exact hcount

end Report

namespace Sample

/-- With one more finding to the left of another, which gives way to it, so that the numbers stay as
they are. -/
theorem assembleChecked_consistent_moved :
    ∃ report, Report.assembleChecked twoSkipped [tokenAt "a.js" 7 9, evalAt "b.js" 1 1] ⟨0⟩ 12 0
        true = .good report ∧
      report.summary = ⟨0, 1, 0, 1, 0, 2⟩ ∧ report.score = 86 ∧
      Report.Consistent report ∧ report.filesSkipped = 2 ∧ report.truncated = true ∧
      ∃ report', Report.assembleChecked twoSkipped
          [tokenAt "a.js" 7 1, tokenAt "a.js" 7 9, evalAt "b.js" 1 1] ⟨0⟩ 12 0 true =
            .good report' ∧
        report'.findings = [tokenAt "a.js" 7 1, evalAt "b.js" 1 1] ∧ report'.score = 86 ∧
        (∀ s, report.summary.count s ≤ report'.summary.count s) ∧
        report'.score ≤ report.score := by
  obtain ⟨report, hreport, hconsistent, hskipped, htruncated, hmore⟩ :=
    Report.assembleChecked_consistent twoSkipped [tokenAt "a.js" 7 9, evalAt "b.js" 1 1] ⟨0⟩ 12
      (Int.le_refl 0) true
  obtain ⟨report', hreport', hless⟩ :=
    hmore twoSkipped [tokenAt "a.js" 7 1, tokenAt "a.js" 7 9, evalAt "b.js" 1 1] ⟨0⟩ 12 0 true
      (by decide) (List.subset_cons_self _ _) (by simp [Report.SeverityByRule, tokenAt, evalAt])
  have hshown : Report.ordered [tokenAt "a.js" 7 9, evalAt "b.js" 1 1] =
        [tokenAt "a.js" 7 9, evalAt "b.js" 1 1] ∧
      Report.ordered [tokenAt "a.js" 7 1, tokenAt "a.js" 7 9, evalAt "b.js" 1 1] =
        [tokenAt "a.js" 7 1, evalAt "b.js" 1 1] :=
    ⟨Report.ordered_eq_of_pairwise (by decide) (by decide +kernel),
      Report.ordered_eq_of_pairwise (by decide) (by decide +kernel)⟩
  obtain rfl := Input.Checked.good.inj hreport
  obtain rfl := Input.Checked.good.inj hreport'
  refine ⟨_, hreport, ?_, ?_, hconsistent, hskipped, htruncated, _, hreport', hshown.2, ?_, hless⟩
  · exact congrArg Summary.of hshown.1
  · exact congrArg Report.scoreOf hshown.1
  · exact congrArg Report.scoreOf hshown.2

end Sample

end SourceAudit

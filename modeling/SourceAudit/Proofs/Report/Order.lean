import Mathlib.Data.Prod.Lex
import Mathlib.Data.String.Basic
import SourceAudit.Proofs.Report.Deduplicate
import SourceAudit.Report

/-!
# SourceAudit.Proofs.Report.Order

The order of a report. Findings and skipped files are sorted by keys, and a report has no two of one
key, so that it does not tell in which order they came.

* `findingLe_iff` and `Skipped.le_iff` — the two orders are those of keys;
* `ordered_perm` — findings in another order are put into the same order;
* `assemble_reproducible` — the report of the same findings and skipped files is the same, its
  findings are in strict order, and the report of these is the same again.
-/

namespace SourceAudit

/-- What decides between two texts and, if they are equal, between what follows. -/
theorem isLE_compare_then {α : Type} [LinearOrder α] (a b : α) (next : Ordering) :
    ((compareOfLessAndEq a b).then next).isLE = true ↔ a < b ∨ a = b ∧ next.isLE = true := by
  unfold compareOfLessAndEq
  split
  · next hlt => simp [hlt]
  · next hlt =>
    split
    · next heq => simp [heq]
    · next hne => simp [hlt, hne]

/-- Sorting by a key gives one order, if no two of the things sorted have the same key. -/
theorem mergeSort_eq_of_perm {α κ : Type} [LinearOrder κ] {le : α → α → Bool} {key : α → κ}
    (hle : ∀ a b, le a b = true ↔ key a ≤ key b) {as bs : List α} (hperm : as.Perm bs)
    (hkeys : ∀ a ∈ as, ∀ b ∈ as, key a = key b → a = b) : as.mergeSort le = bs.mergeSort le := by
  have htrans : ∀ a b c, le a b = true → le b c = true → le a c = true := by
    intro a b c hab hbc
    rw [hle] at *
    exact le_trans hab hbc
  have htotal : ∀ a b, (le a b || le b a) = true := by
    intro a b
    rw [Bool.or_eq_true, hle, hle]
    exact le_total (key a) (key b)
  refine List.Perm.eq_of_pairwise (fun a b ha hb hab hba => ?_)
    (List.pairwise_mergeSort htrans htotal as) (List.pairwise_mergeSort htrans htotal bs)
    ((List.mergeSort_perm as le).trans (hperm.trans (List.mergeSort_perm bs le).symm))
  rw [List.mem_mergeSort] at ha hb
  rw [hle] at hab hba
  exact hkeys a ha b (hperm.mem_iff.mpr hb) (le_antisymm hab hba)

/-! ## Skipped files -/

namespace Skipped

/-- What decides the order of skipped files. -/
def key (s : Skipped) : String ×ₗ String := toLex (s.path, s.reason)

theorem key_injective : Function.Injective key := by
  rintro ⟨path, reason⟩ ⟨path', reason'⟩ h
  simpa [key] using h

theorem le_iff (a b : Skipped) : le a b = true ↔ key a ≤ key b := by
  simp only [le, key, Prod.Lex.le_iff, ofLex_toLex, Bool.or_eq_true, Bool.and_eq_true,
    Bool.not_eq_true', decide_eq_true_eq, decide_eq_false_iff_not, beq_iff_eq, not_lt]

/-- The order of what was skipped does not depend on that in which it was skipped. -/
theorem mergeSort_perm {as bs : List Skipped} (hperm : as.Perm bs) :
    as.mergeSort le = bs.mergeSort le :=
  mergeSort_eq_of_perm le_iff hperm fun _ _ _ _ heq => key_injective heq

end Skipped

/-! ## Findings -/

namespace Report

variable {f g : Finding} {findings findings' : List Finding}

/-- What decides the order of findings: severity, path, line, column and rule. -/
def place (f : Finding) : Nat ×ₗ String ×ₗ Nat ×ₗ Nat ×ₗ String :=
  toLex (f.severity.rank, toLex (f.path, toLex (f.line, toLex (f.column, f.ruleId))))

theorem findingLe_iff (f g : Finding) : findingLe f g = true ↔ place f ≤ place g := by
  have hlast : (compareOfLessAndEq f.ruleId g.ruleId).isLE = true ↔ f.ruleId ≤ g.ruleId := by
    simpa [le_iff_lt_or_eq] using isLE_compare_then f.ruleId g.ruleId .eq
  simp only [findingLe, place, Prod.Lex.le_iff, compare, isLE_compare_then, hlast, ofLex_toLex]

/-- Findings of one place are of one line, rule and column. -/
theorem eq_of_place (hplace : place f = place g) :
    sameLine f g = true ∧ f.column = g.column := by
  simp only [place, EmbeddingLike.apply_eq_iff_eq, Prod.mk.injEq] at hplace
  obtain ⟨-, hpath, hline, hcolumn, hrule⟩ := hplace
  exact ⟨sameLine_iff.mpr ⟨hrule, hpath, hline⟩, hcolumn⟩

/-- The findings of a report in their order. -/
def ordered (findings : List Finding) : List Finding := (deduplicate findings).mergeSort findingLe

/-- No two of the ordered findings are of one line and rule. -/
theorem apart_ordered (findings : List Finding) : Apart (ordered findings) := by
  refine ((List.mergeSort_perm _ findingLe).pairwise_iff ?_).mpr (apart_deduplicate findings)
  intro f g hfg
  rw [sameLine_comm]
  exact hfg

theorem pairwise_place_ordered (findings : List Finding) :
    (ordered findings).Pairwise fun f g => place f ≤ place g := by
  refine (List.pairwise_mergeSort ?_ ?_ (deduplicate findings)).imp fun hfg =>
    (findingLe_iff _ _).mp hfg
  · intro f g h hfg hgh
    rw [findingLe_iff] at *
    exact le_trans hfg hgh
  · intro f g
    rw [Bool.or_eq_true, findingLe_iff, findingLe_iff]
    exact le_total (place f) (place g)

/-- The findings of a report are in strict order. -/
theorem strict_ordered (findings : List Finding) :
    (ordered findings).Pairwise fun f g => place f < place g := by
  refine ((pairwise_place_ordered findings).and (apart_ordered findings)).imp ?_
  rintro f g ⟨hle, hother⟩
  refine lt_of_le_of_ne hle fun heq => ?_
  rw [(eq_of_place heq).1] at hother
  exact Bool.false_ne_true hother.symm

/-- Findings that are in order stay as they are. -/
theorem ordered_ordered (findings : List Finding) :
    ordered (ordered findings) = ordered findings := by
  rw [ordered, deduplicate_of_apart (apart_ordered findings)]
  refine List.mergeSort_of_pairwise ((pairwise_place_ordered findings).imp fun hle => ?_)
  exact (findingLe_iff _ _).mpr hle

/-- What deduplication leaves is put into the same order, however it comes. -/
theorem mergeSort_eq_ordered {gs : List Finding} (hperm : (deduplicate findings).Perm gs) :
    gs.mergeSort findingLe = ordered findings := by
  refine (mergeSort_eq_of_perm findingLe_iff hperm fun f hf g hg hplace => ?_).symm
  exact (apart_deduplicate findings).eq_of_sameLine hf hg (eq_of_place hplace).1

/-- **The same findings in another order are put into the same order**, if no two of them have one
place. -/
theorem ordered_perm (hplaces : PlacesDiffer findings) (hperm : findings'.Perm findings) :
    ordered findings' = ordered findings :=
  mergeSort_eq_ordered (deduplicate_perm hplaces hperm).symm

/-- The findings of a report are what deduplication leaves, put into order. -/
theorem ordered_eq_of_pairwise {gs : List Finding} (hperm : (deduplicate findings).Perm gs)
    (horder : gs.Pairwise fun f g => findingLe f g = true) : ordered findings = gs := by
  rw [← mergeSort_eq_ordered hperm, List.mergeSort_of_pairwise horder]

/-- The findings of a report on some files are those of the findings there. -/
theorem ordered_filter {p : Finding → Bool} (hp : ∀ f g, sameLine f g = true → p f = p g)
    (findings : List Finding) : (ordered findings).filter p = ordered (findings.filter p) := by
  have hperm : ((ordered findings).filter p).Perm (ordered (findings.filter p)) := by
    refine ((List.mergeSort_perm _ findingLe).filter p).trans ?_
    rw [deduplicate_filter hp]
    exact (List.mergeSort_perm _ findingLe).symm
  refine hperm.eq_of_pairwise (fun f g hf hg hfg hgf => ?_)
    ((pairwise_place_ordered findings).filter p) (pairwise_place_ordered (findings.filter p))
  exact (apart_ordered _).eq_of_sameLine (hperm.mem_iff.mp hf) hg
    (eq_of_place (le_antisymm hfg hgf)).1

/-! ## Reports -/

section

variable {r : Retrieved} {skipped : List Skipped} (scannedAt : Instant) (durationMs : Int)
  (overruns : Nat) (cut : Bool)

/-- A report shows its findings and skipped files in order only. -/
theorem assemble_congr (hfindings : ordered findings' = ordered findings)
    (hskipped : skipped.mergeSort Skipped.le = r.skipped.mergeSort Skipped.le) :
    assemble { r with skipped := skipped } findings' scannedAt durationMs overruns cut =
      assemble r findings scannedAt durationMs overruns cut := by
  unfold ordered at hfindings
  simp only [assemble, hfindings, hskipped]

/-- **Reports are reproducible.** A report does not depend on the order in which findings and
skipped files come; its findings are in strict order, and their report is the same again. -/
theorem assemble_reproducible (hplaces : PlacesDiffer findings)
    (hfindings : findings'.Perm findings) (hskipped : skipped.Perm r.skipped) :
    let report := assemble r findings scannedAt durationMs overruns cut
    assemble { r with skipped := skipped } findings' scannedAt durationMs overruns cut = report ∧
      report.findings.Pairwise (fun f g => place f < place g) ∧
      assemble r report.findings scannedAt durationMs overruns cut = report := by
  refine ⟨?_, strict_ordered findings, ?_⟩
  · exact assemble_congr scannedAt durationMs overruns cut (ordered_perm hplaces hfindings)
      (Skipped.mergeSort_perm hskipped)
  · exact assemble_congr scannedAt durationMs overruns cut (ordered_ordered findings) rfl

end

end Report

namespace Sample

/-- A finding of the rule `token`. -/
def tokenAt (path : String) (line column : Nat) : Finding :=
  ⟨"token", path, line, column, "********", .high, .secret, "Token", "", ""⟩

/-- A finding of the rule `eval`. -/
def evalAt (path : String) (line column : Nat) : Finding :=
  ⟨"eval", path, line, column, "eval(x)", .low, .insecureCall, "Call of eval", "", ""⟩

/-- Findings as they come when the second file is searched first. -/
def secondFirst : List Finding :=
  [evalAt "b.js" 1 1, tokenAt "b.js" 2 9, tokenAt "b.js" 2 5, tokenAt "a.js" 7 1,
    tokenAt "a.js" 7 1]

/-- The same findings as they come when the first file is searched first. -/
def firstFirst : List Finding :=
  [tokenAt "a.js" 7 1, tokenAt "a.js" 7 1, evalAt "b.js" 1 1, tokenAt "b.js" 2 9,
    tokenAt "b.js" 2 5]

/-- A retrieval of two files that skipped two others. -/
def twoSkipped : Report.Retrieved :=
  ⟨⟨"o", "n", none⟩, some "main", 2, [⟨"d.js", "deadline"⟩, ⟨"c.js", "too_large"⟩], false⟩

/-- Either report has the leftmost finding of each line, the more severe ones first, and the skipped
files by their names. -/
theorem assemble_reproducible_secondFirst :
    let report := Report.assemble twoSkipped firstFirst ⟨0⟩ 12 0 false
    report.findings = [tokenAt "a.js" 7 1, tokenAt "b.js" 2 5, evalAt "b.js" 1 1] ∧
      report.skipped = [⟨"c.js", "too_large"⟩, ⟨"d.js", "deadline"⟩] ∧
      Report.assemble { twoSkipped with skipped := [⟨"c.js", "too_large"⟩, ⟨"d.js", "deadline"⟩] }
        secondFirst ⟨0⟩ 12 0 false = report ∧
      report.findings.Pairwise (fun f g => Report.place f < Report.place g) ∧
      Report.assemble twoSkipped report.findings ⟨0⟩ 12 0 false = report := by
  have hskipped : twoSkipped.skipped.Perm [⟨"c.js", "too_large"⟩, ⟨"d.js", "deadline"⟩] := by decide
  refine ⟨Report.ordered_eq_of_pairwise (by decide) (by decide +kernel), ?_, ?_⟩
  · exact (Skipped.mergeSort_perm hskipped).trans
      (List.mergeSort_of_pairwise (by decide +kernel))
  · exact Report.assemble_reproducible ⟨0⟩ 12 0 false
      (by simp [Report.PlacesDiffer, firstFirst, tokenAt, evalAt, Report.sameLine])
      (by decide) hskipped.symm

end Sample

end SourceAudit

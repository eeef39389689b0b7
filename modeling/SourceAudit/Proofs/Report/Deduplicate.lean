import Mathlib.Data.List.Induction
import Mathlib.Data.List.Nodup
import Mathlib.Data.List.Pairwise
import SourceAudit.Report.Deduplicate

/-!
# SourceAudit.Proofs.Report.Deduplicate

What deduplication keeps of the findings: on every line the leftmost one of each rule. Before that,
the distinct elements of a list, in the order in which each comes first.

* `eraseDups_concat` — one more element stays unless it is there already;
* `represents_deduplicate` — the kept findings stand for all of them;
* `mem_deduplicate_iff` — which ones are kept, if no two have one place;
* `deduplicate_of_apart` — findings that are deduplicated stay as they are;
* `deduplicate_filter` — deduplication commutes with the restriction to some rules, files or lines.
-/

namespace SourceAudit.Report

section

variable {α : Type} [BEq α] [LawfulBEq α] {as : List α}

/-- One more element stays unless it is there already. -/
theorem eraseDups_concat (as : List α) (a : α) :
    (as ++ [a]).eraseDups = if a ∈ as then as.eraseDups else as.eraseDups ++ [a] := by
  rw [List.eraseDups_append, List.removeAll, List.filter_singleton]
  by_cases ha : a ∈ as <;> simp [ha, List.eraseDups_cons]

theorem nodup_eraseDups (as : List α) : as.eraseDups.Nodup := by
  induction as using List.reverseRecOn with
  | nil => exact List.nodup_nil
  | append_singleton as a ih =>
      rw [eraseDups_concat]
      split
      · exact ih
      · next ha =>
        rw [← List.concat_eq_append]
        exact ih.concat fun hmem => ha (List.mem_eraseDups.mp hmem)

theorem eraseDups_of_nodup (h : as.Nodup) : as.eraseDups = as := by
  induction as using List.reverseRecOn with
  | nil => rfl
  | append_singleton as a ih =>
      obtain ⟨has, ha⟩ := List.nodup_append'.mp h |>.imp_right And.right
      rw [eraseDups_concat, if_neg fun hmem => ha hmem (List.mem_singleton_self a), ih has]

/-- What comes again in the first part may be left out before. -/
theorem eraseDups_eraseDups_append (as bs : List α) :
    (as.eraseDups ++ bs).eraseDups = (as ++ bs).eraseDups := by
  induction bs using List.reverseRecOn with
  | nil =>
      rw [List.append_nil, List.append_nil]
      exact eraseDups_of_nodup (nodup_eraseDups as)
  | append_singleton bs b ih =>
      rw [← List.append_assoc, ← List.append_assoc, eraseDups_concat, eraseDups_concat, ih]
      simp only [List.mem_append, List.mem_eraseDups]

/-- What comes again in the second part may be left out before. -/
theorem eraseDups_append_eraseDups (as bs : List α) :
    (as ++ bs.eraseDups).eraseDups = (as ++ bs).eraseDups := by
  induction bs using List.reverseRecOn with
  | nil => rfl
  | append_singleton bs b ih =>
      rw [← List.append_assoc, eraseDups_concat, eraseDups_concat, ← ih]
      by_cases hb : b ∈ bs
      · rw [if_pos hb, if_pos (List.mem_append_right as hb)]
      · rw [if_neg hb, ← List.append_assoc, eraseDups_concat]
        simp only [List.mem_append, List.mem_eraseDups]

end

variable {f g h : Finding} {kept findings : List Finding}

/-! ## Lines -/

theorem sameLine_iff :
    sameLine f g = true ↔ f.ruleId = g.ruleId ∧ f.path = g.path ∧ f.line = g.line := by
  simp [sameLine, and_assoc]

theorem sameLine_refl (f : Finding) : sameLine f f = true := by simp [sameLine_iff]

theorem sameLine_comm (f g : Finding) : sameLine f g = sameLine g f := by
  rw [Bool.eq_iff_iff, sameLine_iff, sameLine_iff]
  grind

/-- Findings on one line are on the same lines as others. -/
theorem sameLine_congr (hfg : sameLine f g = true) (h : Finding) :
    sameLine f h = sameLine g h := by
  rw [sameLine_iff] at hfg
  rw [Bool.eq_iff_iff, sameLine_iff, sameLine_iff]
  grind

/-- No two of the findings are of one rule on one line. -/
def Apart (findings : List Finding) : Prop := findings.Pairwise fun f g => sameLine f g = false

theorem Apart.eq_of_sameLine (hkept : Apart kept) (hf : f ∈ kept) (hg : g ∈ kept)
    (hfg : sameLine f g = true) : f = g := by
  have : Std.Symm fun f g => sameLine f g = false :=
    ⟨fun f g hfg => by rw [sameLine_comm]; exact hfg⟩
  by_contra hne
  have hother := List.Pairwise.forall hkept hf hg hne
  rw [hother] at hfg
  exact Bool.false_ne_true hfg

/-! ## One more finding -/

/-- Nothing is kept but what was kept before and the finding itself. -/
theorem mem_keepEarliest (hg : g ∈ keepEarliest kept f) : g ∈ kept ∨ g = f := by
  induction kept with
  | nil => exact Or.inr (List.mem_singleton.mp hg)
  | cons k kept ih =>
      rw [keepEarliest] at hg
      grind

/-- One more finding is kept, or one to the left of it on its line is. -/
theorem exists_mem_keepEarliest (kept : List Finding) (f : Finding) :
    ∃ g ∈ keepEarliest kept f, sameLine g f = true ∧ g.column ≤ f.column := by
  induction kept with
  | nil => exact ⟨f, List.mem_singleton_self f, sameLine_refl f, Nat.le_refl _⟩
  | cons k kept ih =>
      rw [keepEarliest]
      by_cases hkf : sameLine k f = true
      · rw [if_pos hkf]
        split
        · exact ⟨f, List.mem_cons_self, sameLine_refl f, Nat.le_refl _⟩
        · exact ⟨k, List.mem_cons_self, hkf, by omega⟩
      · rw [if_neg hkf]
        obtain ⟨g, hg, hgf, hcolumn⟩ := ih
        exact ⟨g, List.mem_cons_of_mem k hg, hgf, hcolumn⟩

/-- A kept finding gives way only to one to the left of it on its line. -/
theorem exists_mem_keepEarliest_of_mem (f : Finding) (hh : h ∈ kept) :
    ∃ g ∈ keepEarliest kept f, sameLine g h = true ∧ g.column ≤ h.column := by
  induction kept with
  | nil => simp at hh
  | cons k kept ih =>
      rw [keepEarliest]
      by_cases hkf : sameLine k f = true
      · rw [if_pos hkf]
        rcases List.mem_cons.mp hh with rfl | hh
        · split
          · exact ⟨f, List.mem_cons_self, by rw [sameLine_comm]; exact hkf, by omega⟩
          · exact ⟨h, List.mem_cons_self, sameLine_refl h, Nat.le_refl _⟩
        · exact ⟨h, List.mem_cons_of_mem _ hh, sameLine_refl h, Nat.le_refl _⟩
      · rw [if_neg hkf]
        rcases List.mem_cons.mp hh with rfl | hh
        · exact ⟨h, List.mem_cons_self, sameLine_refl h, Nat.le_refl _⟩
        · obtain ⟨g, hg, hgh, hcolumn⟩ := ih hh
          exact ⟨g, List.mem_cons_of_mem k hg, hgh, hcolumn⟩

/-- What is kept stays apart. -/
theorem Apart.keepEarliest (hkept : Apart kept) (f : Finding) : Apart (keepEarliest kept f) := by
  induction kept with
  | nil => exact List.pairwise_singleton _ f
  | cons k kept ih =>
      obtain ⟨hk, hrest⟩ := List.pairwise_cons.mp hkept
      rw [Report.keepEarliest]
      by_cases hkf : sameLine k f = true
      · rw [if_pos hkf]
        split
        · refine List.pairwise_cons.mpr ⟨fun g hg => ?_, hrest⟩
          rw [← sameLine_congr hkf]
          exact hk g hg
        · exact hkept
      · rw [if_neg hkf]
        refine List.pairwise_cons.mpr ⟨fun g hg => ?_, ih hrest⟩
        rcases mem_keepEarliest hg with hg | rfl
        · exact hk g hg
        · exact Bool.not_eq_true _ ▸ hkf

/-- A finding on a line of its own comes last. -/
theorem keepEarliest_of_apart (hf : ∀ g ∈ kept, sameLine g f = false) :
    keepEarliest kept f = kept ++ [f] := by
  induction kept with
  | nil => rfl
  | cons k kept ih =>
      obtain ⟨hk, hrest⟩ := List.forall_mem_cons.mp hf
      rw [keepEarliest, hk, if_neg Bool.false_ne_true, ih hrest, List.cons_append]

/-- Findings of other lines do not matter. -/
theorem keepEarliest_filter {p : Finding → Bool} (hp : ∀ f g, sameLine f g = true → p f = p g)
    (kept : List Finding) (f : Finding) :
    (keepEarliest kept f).filter p =
      if p f then keepEarliest (kept.filter p) f else kept.filter p := by
  induction kept with
  | nil => cases hf : p f <;> simp [keepEarliest, hf]
  | cons k kept ih =>
      rw [keepEarliest]
      by_cases hkf : sameLine k f = true
      · have hk := hp k f hkf
        rw [if_pos hkf]
        cases hf : p f <;> rw [hf] at hk <;> split <;> simp [keepEarliest, *]
      · rw [if_neg hkf, List.filter_cons, List.filter_cons, ih]
        cases hf : p f <;> cases hk : p k <;> simp [keepEarliest, hkf]

/-! ## All findings -/

theorem deduplicate_append_singleton (findings : List Finding) (f : Finding) :
    deduplicate (findings ++ [f]) = keepEarliest (deduplicate findings) f := by
  simp [deduplicate]

/-- Some of the findings stand for all of them: one for each rule and line, with the least column
that there is. -/
structure Represents (kept findings : List Finding) : Prop where
  apart : Apart kept
  subset : kept ⊆ findings
  covers : ∀ f ∈ findings, ∃ g ∈ kept, sameLine g f = true ∧ g.column ≤ f.column

/-- **Each finding is represented**, also after one more. -/
theorem Represents.keepEarliest (hkept : Represents kept findings) (f : Finding) :
    Represents (keepEarliest kept f) (findings ++ [f]) where
  apart := hkept.apart.keepEarliest f
  subset g hg := by
    rcases mem_keepEarliest hg with hg | rfl
    · exact List.mem_append_left _ (hkept.subset hg)
    · exact List.mem_append_right _ (List.mem_singleton_self g)
  covers h hh := by
    rcases List.mem_append.mp hh with hh | hh
    · obtain ⟨k, hk, hline, hcolumn⟩ := hkept.covers h hh
      obtain ⟨g, hg, hgk, hcolumn'⟩ := exists_mem_keepEarliest_of_mem f hk
      exact ⟨g, hg, by rw [sameLine_congr hgk]; exact hline, by omega⟩
    · obtain rfl := List.mem_singleton.mp hh
      exact exists_mem_keepEarliest kept h

/-- **The kept findings stand for all of them.** -/
theorem represents_deduplicate (findings : List Finding) :
    Represents (deduplicate findings) findings := by
  -- The findings are taken from the left, so the last one is the last step.
  induction findings using List.reverseRecOn with
  | nil => exact ⟨.nil, List.nil_subset _, by simp⟩
  | append_singleton findings f ih =>
      rw [deduplicate_append_singleton]
      exact ih.keepEarliest f

theorem apart_deduplicate (findings : List Finding) : Apart (deduplicate findings) :=
  (represents_deduplicate findings).apart

/-- Findings that have one place are the same. The place is a rule with a line and a column. -/
def PlacesDiffer (findings : List Finding) : Prop :=
  ∀ f ∈ findings, ∀ g ∈ findings, sameLine f g = true → f.column = g.column → f = g

/-- **Which findings are kept**: the leftmost ones of their rules on their lines. -/
theorem mem_deduplicate_iff (hplaces : PlacesDiffer findings) :
    f ∈ deduplicate findings ↔
      f ∈ findings ∧ ∀ g ∈ findings, sameLine g f = true → f.column ≤ g.column := by
  obtain ⟨hapart, hsubset, hcovers⟩ := represents_deduplicate findings
  constructor
  · refine fun hf => ⟨hsubset hf, fun g hg hgf => ?_⟩
    obtain ⟨k, hk, hkg, hcolumn⟩ := hcovers g hg
    obtain rfl := hapart.eq_of_sameLine hk hf (by rw [sameLine_congr hkg]; exact hgf)
    exact hcolumn
  · rintro ⟨hf, hleast⟩
    obtain ⟨k, hk, hkf, hcolumn⟩ := hcovers f hf
    obtain rfl := hplaces k (hsubset hk) f hf hkf
      (Nat.le_antisymm hcolumn (hleast k (hsubset hk) hkf))
    exact hk

theorem Apart.nodup (hkept : Apart kept) : kept.Nodup :=
  hkept.imp fun {f g} hfg heq => by
    rw [heq, sameLine_refl] at hfg
    exact Bool.false_ne_true hfg.symm

/-- Of findings that are apart there is only one on a line. -/
theorem Apart.filter_eq_singleton (hkept : Apart kept) {p : Finding → Bool} (hg : g ∈ kept)
    (hp : p g = true) (hline : ∀ f ∈ kept, p f = true → sameLine f g = true) :
    kept.filter p = [g] := by
  refine List.perm_singleton.mp
    ((List.perm_ext_iff_of_nodup (hkept.nodup.filter p) (List.nodup_singleton g)).mpr fun f => ?_)
  rw [List.mem_filter, List.mem_singleton]
  constructor
  · rintro ⟨hf, hpf⟩
    exact hkept.eq_of_sameLine hf hg (hline f hf hpf)
  · rintro rfl
    exact ⟨hg, hp⟩

/-- The same findings in another order leave the same findings. -/
theorem deduplicate_perm (hplaces : PlacesDiffer findings) {findings' : List Finding}
    (hperm : findings'.Perm findings) : (deduplicate findings').Perm (deduplicate findings) := by
  have hplaces' : PlacesDiffer findings' := fun f hf g hg =>
    hplaces f (hperm.mem_iff.mp hf) g (hperm.mem_iff.mp hg)
  refine (List.perm_ext_iff_of_nodup (apart_deduplicate _).nodup (apart_deduplicate _).nodup).mpr ?_
  intro f
  simp only [mem_deduplicate_iff hplaces, mem_deduplicate_iff hplaces', hperm.mem_iff]

/-- Findings that are apart stay as they are. -/
theorem deduplicate_of_apart (hfindings : Apart findings) : deduplicate findings = findings := by
  induction findings using List.reverseRecOn with
  | nil => rfl
  | append_singleton findings f ih =>
      obtain ⟨hrest, -, hlast⟩ := List.pairwise_append.mp hfindings
      rw [deduplicate_append_singleton, ih hrest]
      exact keepEarliest_of_apart fun g hg => hlast g hg f (List.mem_singleton_self f)

/-- **What is kept on some lines is what is kept of the findings there.** -/
theorem deduplicate_filter {p : Finding → Bool} (hp : ∀ f g, sameLine f g = true → p f = p g)
    (findings : List Finding) :
    (deduplicate findings).filter p = deduplicate (findings.filter p) := by
  induction findings using List.reverseRecOn with
  | nil => rfl
  | append_singleton findings f ih =>
      rw [deduplicate_append_singleton, keepEarliest_filter hp, ih, List.filter_append]
      cases hf : p f <;> simp [hf, deduplicate_append_singleton]

end SourceAudit.Report

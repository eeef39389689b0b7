import SourceAudit.Proofs.Report.Consistency
import SourceAudit.Proofs.Report.Deduplicate

/-!
# SourceAudit.Proofs.Report.Leftmost

Deduplication, told without the order in which findings are taken. For each rule and line with
findings the first of the leftmost ones there is kept. It stands where the first finding of that
rule and line stands, which need not be the same one: a finding further to the left takes the place
of another and not a place of its own.

* `Leftmost` — a finding is the first of the leftmost ones of its rule on its line;
* `Picks` — a list has such a finding for each rule and line, in the order of the first ones;
* `deduplicate_exact` — the kept findings are the only such list, and what follows from that.
-/

namespace SourceAudit

namespace Report

variable {f g h : Finding} {kept kept' findings others : List Finding}

/-! ## The first of the leftmost -/

/-- The finding is the first of those that are furthest to the left of its rule on its line. -/
def Leftmost (findings : List Finding) (f : Finding) : Prop :=
  ∃ before after, findings = before ++ f :: after ∧
    (∀ g ∈ before, sameLine g f = true → f.column < g.column) ∧
    ∀ g ∈ after, sameLine g f = true → f.column ≤ g.column

theorem Leftmost.mem (hf : Leftmost findings f) : f ∈ findings := by
  obtain ⟨before, after, rfl, -, -⟩ := hf
  exact List.mem_append_right before List.mem_cons_self

/-- The leftmost finding of a line and rule has the least column. -/
theorem Leftmost.column_le (hf : Leftmost findings f) (hg : g ∈ findings)
    (hgf : sameLine g f = true) : f.column ≤ g.column := by
  obtain ⟨before, after, rfl, hbefore, hafter⟩ := hf
  rcases List.mem_append.mp hg with hg | hg
  · exact Nat.le_of_lt (hbefore g hg hgf)
  · rcases List.mem_cons.mp hg with rfl | hg
    · exact Nat.le_refl _
    · exact hafter g hg hgf

/-- A rule has one such finding on a line. -/
theorem Leftmost.unique (hf : Leftmost findings f) (hg : Leftmost findings g)
    (hfg : sameLine f g = true) : f = g := by
  have hgf : sameLine g f = true := by rwa [sameLine_comm]
  have hcolumn : f.column = g.column :=
    Nat.le_antisymm (hf.column_le hg.mem hgf) (hg.column_le hf.mem hfg)
  obtain ⟨before, after, rfl, hbefore, -⟩ := hf
  obtain ⟨before', after', heq, hbefore', -⟩ := hg
  -- If one of them came before the other, it would have to be further to the right.
  rcases List.append_eq_append_iff.mp heq with ⟨between, rfl, hrest⟩ | ⟨between, rfl, hrest⟩
  · cases between with
    | nil => exact (List.cons.inj hrest).1
    | cons b between =>
        obtain rfl := (List.cons.inj hrest).1
        have := hbefore' f (by simp) hfg
        omega
  · cases between with
    | nil => exact (List.cons.inj hrest).1.symm
    | cons b between =>
        obtain rfl := (List.cons.inj hrest).1
        have := hbefore g (by simp) hgf
        omega

/-- It is found in the first part, unless a finding of the second part is further to the left, or
else in the second part, if it is further to the left than all of the first. -/
theorem leftmost_append_iff : Leftmost (findings ++ others) f ↔
    Leftmost findings f ∧ (∀ g ∈ others, sameLine g f = true → f.column ≤ g.column) ∨
      Leftmost others f ∧ ∀ g ∈ findings, sameLine g f = true → f.column < g.column := by
  constructor
  · rintro ⟨before, after, hsplit, hbefore, hafter⟩
    rcases List.append_eq_append_iff.mp hsplit with
      ⟨between, rfl, rfl⟩ | ⟨between, rfl, hrest⟩
    · refine .inr ⟨⟨between, after, rfl, fun g hg => ?_, hafter⟩, fun g hg => ?_⟩
      · exact hbefore g (List.mem_append_right findings hg)
      · exact hbefore g (List.mem_append_left between hg)
    · cases between with
      | nil =>
          obtain rfl : f :: after = others := hrest
          exact .inr ⟨⟨[], after, rfl, by simp, hafter⟩, by simpa using hbefore⟩
      | cons b between =>
          obtain ⟨rfl, rfl⟩ := List.cons.inj hrest
          refine .inl ⟨⟨before, between, rfl, hbefore, fun g hg => ?_⟩, fun g hg => ?_⟩
          · exact hafter g (List.mem_append_left others hg)
          · exact hafter g (List.mem_append_right between hg)
  · rintro (⟨⟨before, after, rfl, hbefore, hafter⟩, hright⟩ |
      ⟨⟨before, after, rfl, hbefore, hafter⟩, hright⟩)
    · refine ⟨before, after ++ others, by simp, hbefore, fun g hg => ?_⟩
      exact (List.mem_append.mp hg).elim (hafter g) (hright g)
    · refine ⟨findings ++ before, after, by simp, fun g hg => ?_, hafter⟩
      exact (List.mem_append.mp hg).elim (hright g) (hbefore g)

theorem leftmost_singleton (f : Finding) : Leftmost [f] f := ⟨[], [], rfl, by simp, by simp⟩

/-! ## What deduplication keeps -/

/-- For each rule and line the first of the leftmost findings is there, in the order in which the
rules and lines come first. -/
structure Picks (findings kept : List Finding) : Prop where
  keys : kept.map lineKey = (findings.map lineKey).eraseDups
  leftmost : ∀ f ∈ kept, Leftmost findings f

/-- What is kept has findings for the same rules and lines as what it is picked from. -/
theorem Picks.mem_keys (hkept : Picks findings kept) :
    (∃ g ∈ kept, sameLine g f = true) ↔ ∃ g ∈ findings, sameLine g f = true := by
  have hkeys : lineKey f ∈ kept.map lineKey ↔ lineKey f ∈ findings.map lineKey := by
    rw [hkept.keys, List.mem_eraseDups]
  simpa only [List.mem_map, ← sameLine_iff_lineKey] using hkeys

/-- No two lists do so. -/
theorem Picks.unique (hkept : Picks findings kept) (hkept' : Picks findings kept') :
    kept = kept' := by
  have hkeys := hkept.keys.trans hkept'.keys.symm
  have hsame : ∀ f ∈ kept, ∀ g ∈ kept', lineKey f = lineKey g → f = g := fun f hf g hg heq =>
    (hkept.leftmost f hf).unique (hkept'.leftmost g hg) (sameLine_iff_lineKey.mpr heq)
  clear hkept hkept'
  induction kept generalizing kept' with
  | nil => exact (List.map_eq_nil_iff.mp hkeys.symm).symm
  | cons f kept ih =>
      cases kept' with
      | nil => simp at hkeys
      | cons g kept' =>
          obtain ⟨hfirst, hrest⟩ := List.cons.inj hkeys
          rw [hsame f List.mem_cons_self g List.mem_cons_self hfirst]
          refine congrArg (g :: ·) (ih hrest fun f' hf' g' hg' => ?_)
          exact hsame f' (List.mem_cons_of_mem f hf') g' (List.mem_cons_of_mem g hg')

/-! ### One more finding -/

/-- One more finding takes a new place only if its rule has none on its line. -/
theorem map_lineKey_keepEarliest (kept : List Finding) (f : Finding) :
    (keepEarliest kept f).map lineKey =
      if lineKey f ∈ kept.map lineKey then kept.map lineKey
      else kept.map lineKey ++ [lineKey f] := by
  induction kept with
  | nil => rfl
  | cons k kept ih =>
      rw [keepEarliest]
      by_cases hkf : sameLine k f = true
      · have hkey := sameLine_iff_lineKey.mp hkf
        have hmem : lineKey f ∈ (k :: kept).map lineKey := hkey ▸ List.mem_cons_self
        rw [if_pos hkf, if_pos hmem]
        split
        · rw [List.map_cons, List.map_cons, hkey]
        · rfl
      · have hkey : lineKey f ≠ lineKey k := fun heq =>
          hkf (sameLine_iff_lineKey.mpr heq.symm)
        rw [if_neg hkf, List.map_cons, List.map_cons, ih]
        simp only [List.mem_cons, or_iff_right hkey]
        split <;> rfl

/-- What is kept then: a finding to which the new one gives way, or the new one. -/
theorem of_mem_keepEarliest (hkept : Apart kept) (hg : g ∈ keepEarliest kept f) :
    g ∈ kept ∧ (sameLine f g = true → g.column ≤ f.column) ∨
      g = f ∧ ∀ k ∈ kept, sameLine k f = true → f.column < k.column := by
  induction kept with
  | nil => exact .inr ⟨List.mem_singleton.mp hg, by simp⟩
  | cons k kept ih =>
      obtain ⟨hk, hrest⟩ := List.pairwise_cons.mp hkept
      have hother : sameLine k f = true → ∀ g ∈ kept, sameLine f g = false := fun hkf g hg =>
        (sameLine_congr hkf g).symm.trans (hk g hg)
      rw [keepEarliest] at hg
      by_cases hkf : sameLine k f = true
      · rw [if_pos hkf] at hg
        rcases List.mem_cons.mp hg with rfl | hg
        · by_cases hlt : f.column < k.column
          · rw [if_pos hlt]
            refine .inr ⟨rfl, fun k' hk' hline => ?_⟩
            rcases List.mem_cons.mp hk' with rfl | hk'
            · exact hlt
            · rw [sameLine_comm, hother hkf k' hk'] at hline
              exact absurd hline Bool.false_ne_true
          · rw [if_neg hlt]
            exact .inl ⟨List.mem_cons_self, fun _ => Nat.le_of_not_lt hlt⟩
        · refine .inl ⟨List.mem_cons_of_mem k hg, fun hfg => ?_⟩
          rw [hother hkf g hg] at hfg
          exact absurd hfg Bool.false_ne_true
      · rw [if_neg hkf] at hg
        rcases List.mem_cons.mp hg with rfl | hg
        · refine .inl ⟨List.mem_cons_self, fun hfg => ?_⟩
          rw [sameLine_comm] at hfg
          exact absurd hfg hkf
        · rcases ih hrest hg with ⟨hg, hcolumn⟩ | ⟨rfl, hright⟩
          · exact .inl ⟨List.mem_cons_of_mem k hg, hcolumn⟩
          · refine .inr ⟨rfl, fun k' hk' hline => ?_⟩
            rcases List.mem_cons.mp hk' with rfl | hk'
            · exact absurd hline hkf
            · exact hright k' hk' hline

/-- To add a finding to what is kept picks from one finding more. -/
theorem Picks.keepEarliest (hkept : Picks findings kept) (hapart : Apart kept) (f : Finding) :
    Picks (findings ++ [f]) (keepEarliest kept f) where
  keys := by
    rw [map_lineKey_keepEarliest, hkept.keys, List.map_append, List.map_singleton, eraseDups_concat]
    simp only [List.mem_eraseDups]
  leftmost g hg := by
    rcases of_mem_keepEarliest hapart hg with ⟨hg, hcolumn⟩ | ⟨rfl, hright⟩
    · exact leftmost_append_iff.mpr (.inl ⟨hkept.leftmost g hg, by simpa using hcolumn⟩)
    · refine leftmost_append_iff.mpr (.inr ⟨leftmost_singleton g, fun k hk hkg => ?_⟩)
      obtain ⟨k', hk', hline⟩ := hkept.mem_keys.mpr ⟨k, hk, hkg⟩
      have hlt := hright k' hk' hline
      have hle := (hkept.leftmost k' hk').column_le hk (by rwa [sameLine_comm, sameLine_congr
        (g := g) hline, sameLine_comm])
      omega

/-- **The first of the leftmost findings are kept.** -/
theorem picks_deduplicate (findings : List Finding) : Picks findings (deduplicate findings) := by
  induction findings using List.reverseRecOn with
  | nil => exact ⟨rfl, by simp [deduplicate]⟩
  | append_singleton findings f ih =>
      rw [deduplicate_append_singleton]
      exact ih.keepEarliest (apart_deduplicate findings) f

/-! ## Parts -/

/-- What is leftmost among the kept findings of two parts is so among all of them. -/
theorem Leftmost.of_deduplicate
    (hf : Leftmost (deduplicate findings ++ deduplicate others) f) :
    Leftmost (findings ++ others) f := by
  -- A finding of a part is not further to the left than the one that is kept on its line.
  have hkept : ∀ {part : List Finding} {g : Finding}, g ∈ part → sameLine g f = true →
      ∃ k ∈ deduplicate part, sameLine k f = true ∧ k.column ≤ g.column := by
    intro part g hg hline
    obtain ⟨k, hk, hkg, hcolumn⟩ := (represents_deduplicate part).covers g hg
    exact ⟨k, hk, (sameLine_congr hkg f).trans hline, hcolumn⟩
  refine leftmost_append_iff.mpr ((leftmost_append_iff.mp hf).imp ?_ ?_)
  · rintro ⟨hleft, hright⟩
    refine ⟨(picks_deduplicate findings).leftmost f hleft.mem, fun g hg hline => ?_⟩
    obtain ⟨k, hk, hkline, hcolumn⟩ := hkept hg hline
    exact Nat.le_trans (hright k hk hkline) hcolumn
  · rintro ⟨hleft, hright⟩
    refine ⟨(picks_deduplicate others).leftmost f hleft.mem, fun g hg hline => ?_⟩
    obtain ⟨k, hk, hkline, hcolumn⟩ := hkept hg hline
    exact Nat.lt_of_lt_of_le (hright k hk hkline) hcolumn

/-- Picking from the parts first and then from both picks from the whole. -/
theorem picks_append (findings others : List Finding) :
    Picks (findings ++ others) (deduplicate (deduplicate findings ++ deduplicate others)) where
  keys := by
    rw [(picks_deduplicate _).keys, List.map_append, (picks_deduplicate findings).keys,
      (picks_deduplicate others).keys, eraseDups_eraseDups_append, eraseDups_append_eraseDups,
      List.map_append]
  leftmost f hf := ((picks_deduplicate _).leftmost f hf).of_deduplicate

/-- **Deduplication is exact.** The kept findings are the only list that has, for each rule and line
with findings, the first of the leftmost ones, in the order in which rules and lines come first. So
they are some of the findings, each as often at most; deduplicating them changes nothing, and
neither does deduplicating two parts before the whole. -/
theorem deduplicate_exact (findings : List Finding) :
    (∀ kept, Picks findings kept ↔ kept = deduplicate findings) ∧
      (deduplicate findings).Subperm findings ∧
      deduplicate (deduplicate findings) = deduplicate findings ∧
      ∀ others, deduplicate (deduplicate findings ++ deduplicate others) =
        deduplicate (findings ++ others) := by
  obtain ⟨hapart, hsubset, -⟩ := represents_deduplicate findings
  refine ⟨fun kept => ⟨fun hkept => hkept.unique (picks_deduplicate findings), ?_⟩,
    List.subperm_of_subset hapart.nodup hsubset, deduplicate_of_apart hapart, fun others => ?_⟩
  · rintro rfl
    exact picks_deduplicate findings
  · exact (picks_append findings others).unique (picks_deduplicate _)

end Report

namespace Sample

/-- The finding in the ninth column gives way to one further to the left, but its place does not. -/
example : Report.deduplicate [tokenAt "a.js" 1 9, evalAt "a.js" 1 1, tokenAt "a.js" 1 5] =
    [tokenAt "a.js" 1 5, evalAt "a.js" 1 1] := by decide

end Sample

end SourceAudit

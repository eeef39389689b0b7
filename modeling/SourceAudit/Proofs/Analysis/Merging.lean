import SourceAudit.Proofs.Analysis.Secrets

/-!
# SourceAudit.Proofs.Analysis.Merging

Merged spans as a normal form. Spans that lie apart are known by the positions that they cover, so
merging depends on nothing else of its input: neither on the order of the spans nor on how often one
occurs nor on where one is cut.

* `Apart.eq_of_covered` — spans that lie apart are determined by their positions;
* `Recut` — spans put in another order, repeated, or cut into spans that overlap;
* `merge_canonical` — merging is a normal form for all of this, and for the order of the secret
  rules in particular.
-/

namespace SourceAudit

open Line

namespace Span

/-! ## Spans told by their positions -/

namespace Apart

section

variable {s : Span} {spans : List Span} {i : Nat}

/-- Spans cover where the first of them starts. -/
theorem covered_start (h : Apart (s :: spans)) : Covered (s :: spans) s.start :=
  ⟨s, List.mem_cons_self, Nat.le_refl _, h.proper s List.mem_cons_self⟩

/-- They cover nothing before. -/
theorem start_le_of_covered (h : Apart (s :: spans)) (hi : Covered (s :: spans) i) :
    s.start ≤ i := by
  have hs := h.proper s List.mem_cons_self
  obtain ⟨t, ht, hle, -⟩ := hi
  rcases List.mem_cons.mp ht with rfl | ht
  · exact hle
  · have := h.stop_lt_start ht
    omega

/-- The positions of the later spans are those beyond the end of the first one. -/
theorem covered_tail_iff (h : Apart (s :: spans)) :
    Covered spans i ↔ Covered (s :: spans) i ∧ s.stop ≤ i := by
  constructor
  · rintro ⟨t, ht, hle, hlt⟩
    have := h.stop_lt_start ht
    exact ⟨⟨t, List.mem_cons_of_mem s ht, hle, hlt⟩, by omega⟩
  · rintro ⟨hi, hle⟩
    rcases (covered_cons s spans i).mp hi with ⟨-, hlt⟩ | hi
    · omega
    · exact hi

/-- The end of the first span is a gap: the next span neither overlaps nor touches it. -/
theorem not_covered_stop (h : Apart (s :: spans)) : ¬ Covered (s :: spans) s.stop := by
  intro hi
  obtain ⟨t, ht, hle, -⟩ := h.covered_tail_iff.mpr ⟨hi, Nat.le_refl _⟩
  have := h.stop_lt_start ht
  omega

end

section

variable {s t : Span} {ss ts : List Span}

theorem start_le_start (hs : Apart (s :: ss)) (ht : Apart (t :: ts))
    (hcov : ∀ i, Covered (s :: ss) i ↔ Covered (t :: ts) i) : s.start ≤ t.start :=
  hs.start_le_of_covered ((hcov _).mpr ht.covered_start)

theorem stop_le_stop (ht : Apart (t :: ts))
    (hcov : ∀ i, Covered (s :: ss) i ↔ Covered (t :: ts) i) (hstart : s.start = t.start) :
    s.stop ≤ t.stop := by
  refine Nat.le_of_not_lt fun hlt => ?_
  have hproper := ht.proper t List.mem_cons_self
  have hi : Covered (s :: ss) t.stop := ⟨s, List.mem_cons_self, by omega, by omega⟩
  exact ht.not_covered_stop ((hcov _).mp hi)

/-- The first span is known from what is covered. -/
theorem head_eq (hs : Apart (s :: ss)) (ht : Apart (t :: ts))
    (hcov : ∀ i, Covered (s :: ss) i ↔ Covered (t :: ts) i) : s = t := by
  have hcov' := fun i => (hcov i).symm
  have hstart : s.start = t.start :=
    Nat.le_antisymm (hs.start_le_start ht hcov) (ht.start_le_start hs hcov')
  have hstop : s.stop = t.stop :=
    Nat.le_antisymm (ht.stop_le_stop hcov hstart) (hs.stop_le_stop hcov' hstart.symm)
  cases s
  cases t
  simp_all

end

/-- Spans that lie apart are determined by the positions that they cover. -/
theorem eq_of_covered {spans spans' : List Span} (h : Apart spans) (h' : Apart spans')
    (hcov : ∀ i, Covered spans i ↔ Covered spans' i) : spans = spans' := by
  induction spans generalizing spans' with
  | nil =>
      cases spans' with
      | nil => rfl
      | cons t ts => exact absurd ((hcov _).mpr h'.covered_start) (covered_nil _)
  | cons s ss ih =>
      cases spans' with
      | nil => exact absurd ((hcov _).mp h.covered_start) (covered_nil _)
      | cons t ts =>
          obtain rfl : s = t := h.head_eq h' hcov
          have htail : ∀ i, Covered ss i ↔ Covered ts i := by
            intro i
            rw [h.covered_tail_iff, h'.covered_tail_iff, hcov]
          rw [ih h.of_cons h'.of_cons htail]

end Apart

/-! ## What merging depends on -/

/-- Merged spans are equal if and only if the given ones cover the same positions. -/
theorem merge_eq_merge_iff {spans spans' : List Span} (h : ∀ s ∈ spans, s.start < s.stop)
    (h' : ∀ s ∈ spans', s.start < s.stop) :
    merge spans' = merge spans ↔ ∀ i, Covered spans' i ↔ Covered spans i := by
  constructor
  · intro heq i
    rw [← covered_merge spans', heq, covered_merge]
  · intro hcov
    refine (apart_merge h').eq_of_covered (apart_merge h) fun i => ?_
    rw [covered_merge, covered_merge, hcov]

/-- Spans made of others by putting them in another order, by repeating one, by cutting one into two
that touch or overlap, and by undoing this. -/
inductive Recut : List Span → List Span → Prop
  | perm {spans spans' : List Span} : spans.Perm spans' → Recut spans spans'
  | again {s : Span} {spans : List Span} : s ∈ spans → Recut spans (s :: spans)
  | cut {s : Span} {spans : List Span} {stop start : Nat} : s.start < stop → start < s.stop →
      s.start ≤ start → start ≤ stop → stop ≤ s.stop →
      Recut (s :: spans) (⟨s.start, stop⟩ :: ⟨start, s.stop⟩ :: spans)
  | symm {spans spans' : List Span} : Recut spans spans' → Recut spans' spans
  | trans {spans spans' spans'' : List Span} : Recut spans spans' → Recut spans' spans'' →
      Recut spans spans''

theorem Recut.proper_iff {spans spans' : List Span} (h : Recut spans spans') :
    (∀ s ∈ spans', s.start < s.stop) ↔ ∀ s ∈ spans, s.start < s.stop := by
  induction h with
  | perm hperm => simp only [hperm.mem_iff]
  | again hs =>
      rw [List.forall_mem_cons, and_iff_right_iff_imp]
      exact fun h => h _ hs
  | cut hstop hstart _ _ _ =>
      simp only [List.forall_mem_cons, ← and_assoc]
      refine and_congr_left fun _ => ?_
      omega
  | symm _ ih => exact ih.symm
  | trans _ _ ih ih' => exact ih'.trans ih

/-- Spans that are cut otherwise cover the same. -/
theorem Recut.covered_iff {spans spans' : List Span} (h : Recut spans spans') (i : Nat) :
    Covered spans' i ↔ Covered spans i := by
  induction h with
  | perm hperm => simp only [Covered, hperm.mem_iff]
  | again hs =>
      rw [covered_cons, or_iff_right_iff_imp]
      exact fun hi => ⟨_, hs, hi⟩
  | cut _ _ _ _ _ =>
      simp only [covered_cons, Covers, ← or_assoc]
      refine or_congr_left ?_
      omega
  | symm _ ih => exact ih.symm
  | trans _ _ ih ih' => exact ih'.trans ih

/-- They are merged into the same spans. -/
theorem Recut.merge_eq {spans spans' : List Span} (h : Recut spans spans')
    (hproper : ∀ s ∈ spans, s.start < s.stop) : merge spans' = merge spans :=
  (merge_eq_merge_iff hproper (h.proper_iff.mpr hproper)).mpr h.covered_iff

/-- Merging twice is merging once. -/
theorem merge_merge {spans : List Span} (h : ∀ s ∈ spans, s.start < s.stop) :
    merge (merge spans) = merge spans :=
  (merge_eq_merge_iff h (apart_merge h).proper).mpr (covered_merge spans)

end Span

/-! ## The order of the secret rules -/

namespace Engine

open SourceAudit.Span

variable {e e' : Engine}

theorem stalls_congr (hrules : e'.registry.secretRules.Perm e.registry.secretRules)
    (hstalled : e'.stalledAround = e.stalledAround) : e'.Stalls ↔ e.Stalls := by
  simp only [Stalls, hrules.mem_iff, hstalled]

/-- The order of the rules is that of the values only. -/
theorem perm_secretValues (hrules : e'.registry.secretRules.Perm e.registry.secretRules)
    (line : List Char) (start stop : Nat) :
    (e'.secretValues line start stop).Perm (e.secretValues line start stop) :=
  hrules.flatMap_right _

/-- The secrets of a line do not depend on the order of the secret rules. -/
theorem secretSpans_perm (hrules : e'.registry.secretRules.Perm e.registry.secretRules)
    (hstalled : e'.stalledAround = e.stalledAround) (line : List Char) (start stop : Nat) :
    e'.secretSpans line start stop = e.secretSpans line start stop := by
  by_cases hstalls : e.Stalls
  · have hstalls' : e'.Stalls := (stalls_congr hrules hstalled).mpr hstalls
    rw [secretSpans_eq_whole hstalls, secretSpans_eq_whole hstalls']
  · have hstalls' : ¬ e'.Stalls := mt (stalls_congr hrules hstalled).mp hstalls
    rw [secretSpans_eq_merge hstalls, secretSpans_eq_merge hstalls']
    exact (Recut.perm (perm_secretValues hrules line start stop).symm).merge_eq
      start_lt_of_mem_secretValues

end Engine

/-! ## The normal form -/

namespace Span

/-- **Merging is canonical**: merged spans end strictly before the next one starts and cover the
positions of the given spans, no less and no more. They are the same for any two lists of spans that
cover the same positions, so neither another order of the spans nor repeated ones nor cuts with
overlaps change them, merging them again does nothing, and the secrets found in a line are the same
in whatever order the secret rules are tried. -/
theorem merge_canonical {spans : List Span} (h : ∀ s ∈ spans, s.start < s.stop) :
    Apart (merge spans) ∧
      (∀ i, Covered (merge spans) i ↔ Covered spans i) ∧
      (∀ others : List Span, (∀ s ∈ others, s.start < s.stop) →
        (merge others = merge spans ↔ ∀ i, Covered others i ↔ Covered spans i)) ∧
      (∀ others : List Span, Recut spans others → merge others = merge spans) ∧
      merge (merge spans) = merge spans ∧
      ∀ e e' : Engine, e'.registry.secretRules.Perm e.registry.secretRules →
        e'.stalledAround = e.stalledAround → ∀ (line : List Char) (start stop : Nat),
          e'.secretSpans line start stop = e.secretSpans line start stop :=
  ⟨apart_merge h, covered_merge spans, fun _ h' => merge_eq_merge_iff h h',
    fun _ hcut => hcut.merge_eq h, merge_merge h,
    fun _ _ hrules hstalled => Engine.secretSpans_perm hrules hstalled⟩

/-- Nested, touching and equal starts, and a cut of one of the spans. -/
theorem merge_canonical_of_nested :
    (∀ s ∈ ([⟨5, 9⟩, ⟨0, 4⟩, ⟨0, 2⟩, ⟨4, 5⟩, ⟨12, 13⟩] : List Span), s.start < s.stop) ∧
      Apart (merge [⟨5, 9⟩, ⟨0, 4⟩, ⟨0, 2⟩, ⟨4, 5⟩, ⟨12, 13⟩]) ∧
      merge [⟨5, 8⟩, ⟨6, 9⟩, ⟨0, 4⟩, ⟨0, 2⟩, ⟨4, 5⟩, ⟨12, 13⟩] =
        merge [⟨5, 9⟩, ⟨0, 4⟩, ⟨0, 2⟩, ⟨4, 5⟩, ⟨12, 13⟩] := by
  have hproper : ∀ s ∈ ([⟨5, 9⟩, ⟨0, 4⟩, ⟨0, 2⟩, ⟨4, 5⟩, ⟨12, 13⟩] : List Span),
      s.start < s.stop := by decide
  obtain ⟨hapart, -, -, hcut, -⟩ := merge_canonical hproper
  have hcuts : Recut [⟨5, 9⟩, ⟨0, 4⟩, ⟨0, 2⟩, ⟨4, 5⟩, ⟨12, 13⟩]
      [⟨5, 8⟩, ⟨6, 9⟩, ⟨0, 4⟩, ⟨0, 2⟩, ⟨4, 5⟩, ⟨12, 13⟩] :=
    Recut.cut (s := ⟨5, 9⟩) (by decide) (by decide) (by decide) (by decide) (by decide)
  exact ⟨hproper, hapart, hcut _ hcuts⟩

end Span

end SourceAudit

import SourceAudit.Line.Span

/-!
# SourceAudit.Proofs.Line.Merge

What merging makes of a list of spans: spans that lie apart from each other in order, and that cover
the same positions.

* `covered_merge` — the merged spans cover exactly the positions of the given ones;
* `apart_merge` — each merged span ends before the next one starts;
* `stop_le_of_mem_merge` — merged spans end no later than the given ones.
-/

namespace SourceAudit.Span

/-! ## Positions of spans -/

/-- The position `i` lies in the span. -/
def Covers (s : Span) (i : Nat) : Prop := s.start ≤ i ∧ i < s.stop

/-- The position `i` is one of the last four of a span that is longer than eight. -/
def Tail (s : Span) (i : Nat) : Prop := s.start + 8 < s.stop ∧ s.stop ≤ i + 4 ∧ i < s.stop

/-- The position `i` lies in one of the spans. -/
def Covered (spans : List Span) (i : Nat) : Prop := ∃ s ∈ spans, s.Covers i

/-- The position `i` is one of the last four of one of the spans that is longer than eight. -/
def InTail (spans : List Span) (i : Nat) : Prop := ∃ s ∈ spans, s.Tail i

/-- Spans in order, none of which is empty, and each of which ends before the next one starts. -/
structure Apart (spans : List Span) : Prop where
  proper : ∀ s ∈ spans, s.start < s.stop
  apart : spans.Pairwise fun s t => s.stop < t.start

instance (s : Span) (i : Nat) : Decidable (s.Covers i) := inferInstanceAs (Decidable (_ ∧ _))

instance (s : Span) (i : Nat) : Decidable (s.Tail i) := inferInstanceAs (Decidable (_ ∧ _))

instance (spans : List Span) (i : Nat) : Decidable (Covered spans i) :=
  inferInstanceAs (Decidable (∃ s ∈ spans, _))

instance (spans : List Span) (i : Nat) : Decidable (InTail spans i) :=
  inferInstanceAs (Decidable (∃ s ∈ spans, _))

@[simp] theorem covered_nil (i : Nat) : ¬ Covered [] i := by simp [Covered]

@[simp] theorem covered_cons (s : Span) (spans : List Span) (i : Nat) :
    Covered (s :: spans) i ↔ s.Covers i ∨ Covered spans i := by
  simp [Covered]

theorem Tail.covers {s : Span} {i : Nat} (h : s.Tail i) : s.Covers i := by
  obtain ⟨hlong, hlast, hlt⟩ := h
  exact ⟨by omega, hlt⟩

/-- The end of a span is covered by it. -/
theorem InTail.covered {spans : List Span} {i : Nat} (h : InTail spans i) : Covered spans i := by
  obtain ⟨s, hs, hi⟩ := h
  exact ⟨s, hs, hi.covers⟩

namespace Apart

variable {s : Span} {spans : List Span}

/-- Spans that are apart are so without the first of them. -/
theorem of_cons (h : Apart (s :: spans)) : Apart spans :=
  ⟨fun t ht => h.proper t (List.mem_cons_of_mem s ht), (List.pairwise_cons.mp h.apart).2⟩

/-- Spans that are apart begin after the end of the first. -/
theorem stop_lt_start (h : Apart (s :: spans)) {t : Span} (ht : t ∈ spans) : s.stop < t.start :=
  (List.pairwise_cons.mp h.apart).1 t ht

end Apart

/-! ## Merging -/

@[simp] theorem merge_nil : merge [] = [] := by simp [merge]

@[simp] theorem merge_singleton (s : Span) : merge [s] = [s] := by simp [merge, joinFrom]

theorem le_of_le_of_le (a b c : Span) (hab : le a b = true) (hbc : le b c = true) :
    le a c = true := by
  simp only [le, Bool.or_eq_true, Bool.and_eq_true, decide_eq_true_eq, beq_iff_eq] at *
  omega

/-- Of two spans one comes first. -/
theorem le_or_le (a b : Span) : (le a b || le b a) = true := by
  simp only [le, Bool.or_eq_true, Bool.and_eq_true, decide_eq_true_eq, beq_iff_eq]
  omega

/-- Spans in order begin in order. -/
theorem start_le_of_le {a b : Span} (h : le a b = true) : a.start ≤ b.start := by
  simp only [le, Bool.or_eq_true, Bool.and_eq_true, decide_eq_true_eq, beq_iff_eq] at h
  omega

/-- The order of their starts is all that joining asks of a list. -/
theorem pairwise_start_mergeSort (spans : List Span) :
    (spans.mergeSort le).Pairwise fun s t => s.start ≤ t.start :=
  (List.pairwise_mergeSort le_of_le_of_le le_or_le spans).imp start_le_of_le

/-- A span joined with the next one keeps its place in the order. -/
theorem pairwise_start_joined {s t : Span} {ts : List Span}
    (h : (s :: t :: ts).Pairwise fun s t => s.start ≤ t.start) (stop : Nat) :
    (⟨s.start, stop⟩ :: ts : List Span).Pairwise fun s t => s.start ≤ t.start := by
  obtain ⟨hs, htail⟩ := List.pairwise_cons.mp h
  exact List.pairwise_cons.mpr
    ⟨fun u hu => hs u (List.mem_cons_of_mem t hu), (List.pairwise_cons.mp htail).2⟩

/-- **Joining covers what was covered**, no more and no less. -/
theorem covered_joinFrom {s : Span} {ts : List Span}
    (h : (s :: ts).Pairwise fun s t => s.start ≤ t.start) (i : Nat) :
    Covered (joinFrom s ts) i ↔ Covered (s :: ts) i := by
  induction ts generalizing s with
  | nil => rfl
  | cons t ts ih =>
      obtain ⟨hst, htail⟩ := List.pairwise_cons.mp h
      have hle : s.start ≤ t.start := hst t List.mem_cons_self
      unfold joinFrom
      split
      · next htouch =>
        rw [ih (pairwise_start_joined h _)]
        simp only [covered_cons, Covers, ← or_assoc]
        refine or_congr_left ?_
        omega
      · rw [covered_cons, ih htail, covered_cons s]

/-- Joined spans start no earlier than the first one. -/
theorem start_le_of_mem_joinFrom {s u : Span} {ts : List Span}
    (h : (s :: ts).Pairwise fun s t => s.start ≤ t.start) (hu : u ∈ joinFrom s ts) :
    s.start ≤ u.start := by
  induction ts generalizing s with
  | nil =>
      rw [joinFrom, List.mem_singleton] at hu
      exact Nat.le_of_eq (congrArg Span.start hu.symm)
  | cons t ts ih =>
      obtain ⟨hst, htail⟩ := List.pairwise_cons.mp h
      have hle : s.start ≤ t.start := hst t List.mem_cons_self
      unfold joinFrom at hu
      split at hu
      · have := ih (pairwise_start_joined h _) hu
        exact this
      · rcases List.mem_cons.mp hu with rfl | hu
        · exact Nat.le_refl _
        · exact Nat.le_trans hle (ih htail hu)

/-- What is joined is apart. -/
theorem apart_joinFrom {s : Span} {ts : List Span}
    (h : (s :: ts).Pairwise fun s t => s.start ≤ t.start)
    (hproper : ∀ u ∈ s :: ts, u.start < u.stop) : Apart (joinFrom s ts) := by
  induction ts generalizing s with
  | nil => exact ⟨hproper, List.pairwise_singleton _ _⟩
  | cons t ts ih =>
      obtain ⟨hst, htail⟩ := List.pairwise_cons.mp h
      obtain ⟨hs, hts⟩ := List.forall_mem_cons.mp hproper
      unfold joinFrom
      split
      · refine ih (pairwise_start_joined h _) ?_
        refine List.forall_mem_cons.mpr ⟨?_, (List.forall_mem_cons.mp hts).2⟩
        simp only
        omega
      · next hgap =>
        have hrest := ih htail hts
        refine ⟨List.forall_mem_cons.mpr ⟨hs, hrest.proper⟩,
          List.pairwise_cons.mpr ⟨fun u hu => ?_, hrest.apart⟩⟩
        have := start_le_of_mem_joinFrom htail hu
        omega

/-- Merging changes nothing about which positions are covered. -/
theorem covered_merge (spans : List Span) (i : Nat) :
    Covered (merge spans) i ↔ Covered spans i := by
  have hsort : Covered (spans.mergeSort le) i ↔ Covered spans i := by
    simp only [Covered, List.mem_mergeSort]
  have hpair := pairwise_start_mergeSort spans
  unfold merge
  cases hs : spans.mergeSort le with
  | nil => rw [← hsort, hs]
  | cons s ss =>
      rw [hs] at hsort hpair
      rw [covered_joinFrom hpair, hsort]

/-- Merged spans lie apart. -/
theorem apart_merge {spans : List Span} (h : ∀ s ∈ spans, s.start < s.stop) :
    Apart (merge spans) := by
  have hpair := pairwise_start_mergeSort spans
  have hproper : ∀ s ∈ spans.mergeSort le, s.start < s.stop :=
    fun s hs => h s (List.mem_mergeSort.mp hs)
  unfold merge
  cases hs : spans.mergeSort le with
  | nil => exact ⟨by simp, List.Pairwise.nil⟩
  | cons s ss =>
      rw [hs] at hpair hproper
      exact apart_joinFrom hpair hproper

/-- Merged spans end where given ones do. -/
theorem stop_le_of_mem_merge {spans : List Span} {n : Nat} (h : ∀ s ∈ spans, s.start < s.stop)
    (hn : ∀ s ∈ spans, s.stop ≤ n) : ∀ s ∈ merge spans, s.stop ≤ n := by
  intro s hs
  have hproper := (apart_merge h).proper s hs
  have hlast : Covered (merge spans) (s.stop - 1) := ⟨s, hs, by unfold Covers; omega⟩
  obtain ⟨t, ht, -, hlt⟩ := (covered_merge spans _).mp hlast
  have := hn t ht
  omega

end SourceAudit.Span

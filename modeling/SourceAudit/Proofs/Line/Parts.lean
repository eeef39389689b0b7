import Mathlib.Data.List.Nodup
import Mathlib.Data.List.Pairwise
import SourceAudit.Proofs.Line.Layout

/-!
# SourceAudit.Proofs.Line.Parts

A masked text as the sequence of its parts. A part is either copied from the line or stands for a
secret, and which parts there are is known from the positions alone: the copied ones are the longest
stretches of the range that no span covers, and each span that meets the range is masked once, as a
whole. The spans may touch each other here, so that nothing need be copied between two of them.

* `partsOf_partsFrom`, `PartsOf.eq` — a range has its parts in one order only;
* `masked_eq_parts` — the masked text of the range is these parts, one after the other.
-/

namespace SourceAudit.Line

open SourceAudit.Span

/-! ## Parts -/

/-- A part of a masked text. -/
inductive Part
  /-- Characters as they stand in the line. -/
  | copied (run : Span)
  /-- A secret, masked as a whole. -/
  | hidden (secret : Span)
deriving DecidableEq, Repr

namespace Part

/-- The positions of a part. -/
def span : Part → Span
  | copied run => run
  | hidden secret => secret

@[simp] theorem span_copied (run : Span) : (copied run).span = run := rfl

/-- The text of a part: what is copied, or eight asterisks and the last four characters of a secret
that is longer than eight. -/
def text (line : List Char) : Part → List Char
  | copied run => slice line run.start run.stop
  | hidden secret =>
    List.replicate 8 '*' ++
      if secret.stop - secret.start ≤ 8 then [] else slice line (secret.stop - 4) secret.stop

end Part

/-- Spans in order that have no position in common, and of which none is empty. -/
structure InOrder (spans : List Span) : Prop where
  proper : ∀ s ∈ spans, s.start < s.stop
  ordered : spans.Pairwise fun s t => s.stop ≤ t.start

/-- A longest stretch of a range of which no position is covered by the spans. -/
structure FreeRun (spans : List Span) (range run : Span) : Prop where
  proper : run.start < run.stop
  start_le : range.start ≤ run.start
  stop_le : run.stop ≤ range.stop
  free : ∀ i, run.Covers i → ¬ Covered spans i
  first : run.start = range.start ∨ Covered spans (run.start - 1)
  last : run.stop = range.stop ∨ Covered spans run.stop

/-- The parts of the masked text of a range, in the order of their positions. -/
structure PartsOf (spans : List Span) (range : Span) (parts : List Part) : Prop where
  ordered : parts.Pairwise fun p q => p.span.stop ≤ q.span.start
  copied : ∀ run, .copied run ∈ parts ↔ FreeRun spans range run
  hidden : ∀ s, .hidden s ∈ parts ↔ s ∈ spans ∧ Meets s range

/-! ## There is one order -/

namespace PartsOf

variable {spans : List Span} {range : Span} {parts parts' : List Part}

theorem proper (h : InOrder spans) (hparts : PartsOf spans range parts) :
    ∀ p ∈ parts, p.span.start < p.span.stop := by
  intro p hp
  cases p with
  | copied run => exact ((hparts.copied run).mp hp).proper
  | hidden s => exact h.proper s ((hparts.hidden s).mp hp).1

/-- No part occurs twice. -/
theorem nodup (h : InOrder spans) (hparts : PartsOf spans range parts) : parts.Nodup := by
  refine hparts.ordered.imp_of_mem fun {p q} hp _ hpq heq => ?_
  have hproper := hparts.proper h p hp
  rw [← heq] at hpq
  omega

/-- **A range has its parts in one order only.** -/
theorem eq (h : InOrder spans) (hparts : PartsOf spans range parts)
    (hparts' : PartsOf spans range parts') : parts = parts' := by
  have hmem : ∀ p, p ∈ parts ↔ p ∈ parts' := by
    intro p
    cases p with
    | copied run => rw [hparts.copied, hparts'.copied]
    | hidden s => rw [hparts.hidden, hparts'.hidden]
  have hperm : parts.Perm parts' :=
    (List.perm_ext_iff_of_nodup (hparts.nodup h) (hparts'.nodup h)).mpr hmem
  refine hperm.eq_of_pairwise (fun p q hp hq hpq hqp => ?_) hparts.ordered hparts'.ordered
  have := hparts.proper h p hp
  have := hparts'.proper h q hq
  omega

end PartsOf

/-! ## The parts from a position on -/

/-- The part copied between two positions, if there is anything between them. -/
def between (start stop : Nat) : List Part := if start < stop then [.copied ⟨start, stop⟩] else []

/-- The parts of the masked text from `pos` up to `stop`. -/
def partsFrom (stop : Nat) : (pos : Nat) → List Span → List Part
  | pos, [] => between pos stop
  | pos, s :: ss =>
    if s.stop ≤ pos ∨ stop ≤ s.start then partsFrom stop pos ss
    else between pos s.start ++ .hidden s :: partsFrom stop s.stop ss

@[simp] theorem copied_mem_between {start stop : Nat} {run : Span} :
    .copied run ∈ between start stop ↔ start < stop ∧ run = ⟨start, stop⟩ := by
  unfold between
  split <;> simp [*]

@[simp] theorem hidden_not_mem_between {start stop : Nat} {s : Span} :
    .hidden s ∉ between start stop := by
  unfold between
  split <;> simp

/-- What is copied between two positions is the text there. -/
theorem flatMap_text_between (line : List Char) (start stop : Nat) :
    (between start stop).flatMap (Part.text line) = slice line start stop := by
  unfold between
  split
  · simp [Part.text]
  · next hle =>
    have hnone : stop - start = 0 := by omega
    rw [slice, hnone, List.take_zero, List.flatMap_nil]

/-- The mask of a secret within the line. -/
theorem redact_slice {line : List Char} {s : Span} (hs : s.stop ≤ line.length) :
    redact (slice line s.start s.stop) = Part.text line (.hidden s) := by
  unfold redact
  rw [length_slice, Nat.min_eq_left hs, Part.text]
  split
  · rw [List.append_nil]
    rfl
  · have hkept : s.start + (s.stop - s.start - 4) = s.stop - 4 := by omega
    have hcount : s.stop - s.start - (s.stop - s.start - 4) = s.stop - (s.stop - 4) := by omega
    rw [mask, slice, slice, List.drop_take, List.drop_drop, hkept, hcount]

/-- **Masking is to put the parts together.** -/
theorem maskFrom_eq_flatMap {line : List Char} {spans : List Span}
    (hn : ∀ s ∈ spans, s.stop ≤ line.length) (stop pos : Nat) :
    maskFrom line stop pos spans = (partsFrom stop pos spans).flatMap (Part.text line) := by
  induction spans generalizing pos with
  | nil => exact (flatMap_text_between line pos stop).symm
  | cons s ss ih =>
      obtain ⟨hs, hss⟩ := List.forall_mem_cons.mp hn
      unfold maskFrom partsFrom
      split
      · exact ih hss pos
      · rw [List.flatMap_append, List.flatMap_cons, flatMap_text_between, redact_slice hs,
          ih hss s.stop, List.append_assoc]

section

variable {s : Span} {spans : List Span} {stop pos : Nat}

theorem InOrder.of_cons (h : InOrder (s :: spans)) : InOrder spans :=
  ⟨fun t ht => h.proper t (List.mem_cons_of_mem s ht), (List.pairwise_cons.mp h.ordered).2⟩

/-- The spans behind the first one. -/
theorem InOrder.behind (h : InOrder (s :: spans)) {t : Span} (ht : t ∈ spans) :
    s.stop ≤ t.start ∧ t.start < t.stop :=
  ⟨(List.pairwise_cons.mp h.ordered).1 t ht, h.proper t (List.mem_cons_of_mem s ht)⟩

/-- No span behind the first one covers a position before its end. -/
theorem InOrder.le_of_covered (h : InOrder (s :: spans)) {i : Nat} (hi : Covered spans i) :
    s.stop ≤ i := by
  obtain ⟨t, ht, hlow, -⟩ := hi
  have := (h.behind ht).1
  omega

/-- A span before the range, or behind it, has no part in its free runs. -/
theorem freeRun_cons_of_outside (hout : s.stop ≤ pos ∨ stop ≤ s.start)
    (run : Span) : FreeRun (s :: spans) ⟨pos, stop⟩ run ↔ FreeRun spans ⟨pos, stop⟩ run := by
  constructor
  · intro hrun
    obtain ⟨hproper, hstart, hstop, hfree, hfirst, hlast⟩ := hrun
    refine ⟨hproper, hstart, hstop, fun i hi hc => hfree i hi ?_, ?_, ?_⟩
    · exact (covered_cons s spans i).mpr (Or.inr hc)
    · rcases hfirst with heq | hc
      · exact Or.inl heq
      · rcases (covered_cons s spans _).mp hc with ⟨hlow, hhigh⟩ | hc
        · simp only at *
          exact Or.inl (by omega)
        · exact Or.inr hc
    · rcases hlast with heq | hc
      · exact Or.inl heq
      · rcases (covered_cons s spans _).mp hc with ⟨hlow, hhigh⟩ | hc
        · simp only at *
          exact Or.inl (by omega)
        · exact Or.inr hc
  · intro hrun
    obtain ⟨hproper, hstart, hstop, hfree, hfirst, hlast⟩ := hrun
    refine ⟨hproper, hstart, hstop, fun i hi hc => ?_,
      hfirst.imp_right fun hc => (covered_cons s spans _).mpr (Or.inr hc),
      hlast.imp_right fun hc => (covered_cons s spans _).mpr (Or.inr hc)⟩
    rcases (covered_cons s spans i).mp hc with ⟨hlow, hhigh⟩ | hc
    · obtain ⟨hi, hi'⟩ := hi
      simp only at *
      omega
    · exact hfree i hi hc

/-- The free runs around a span that meets the range: one before it, and those behind it. -/
theorem freeRun_cons_of_meets (h : InOrder (s :: spans)) (hmeets : Meets s ⟨pos, stop⟩)
    (run : Span) :
    FreeRun (s :: spans) ⟨pos, stop⟩ run ↔
      (pos < s.start ∧ run = ⟨pos, s.start⟩) ∨ FreeRun spans ⟨s.stop, stop⟩ run := by
  have hs := h.proper s List.mem_cons_self
  obtain ⟨hpos, hstop⟩ := hmeets
  simp only at hpos hstop
  constructor
  · intro hrun
    obtain ⟨hproper, hstart, hend, hfree, hfirst, hlast⟩ := hrun
    simp only at hstart hend hfirst hlast
    -- No position of the span lies in the run, so the run lies on one side of it.
    have hside : run.stop ≤ s.start ∨ s.stop ≤ run.start := by
      by_contra hboth
      have hin : run.Covers (max run.start s.start) := by
        unfold Covers
        omega
      refine hfree _ hin ((covered_cons s spans _).mpr (Or.inl ?_))
      unfold Covers
      omega
    rcases hside with hbefore | hbehind
    · have hlast' : run.stop = s.start := by
        rcases hlast with heq | hc
        · omega
        · rcases (covered_cons s spans _).mp hc with ⟨hlow, -⟩ | hc
          · omega
          · have := h.le_of_covered hc
            omega
      have hfirst' : run.start = pos := by
        rcases hfirst with heq | hc
        · exact heq
        · rcases (covered_cons s spans _).mp hc with ⟨hlow, -⟩ | hc
          · omega
          · have := h.le_of_covered hc
            omega
      refine Or.inl ⟨by omega, ?_⟩
      rw [← hlast', ← hfirst']
    · refine Or.inr ⟨hproper, hbehind, hend, fun i hi hc => hfree i hi ?_, ?_, ?_⟩
      · exact (covered_cons s spans i).mpr (Or.inr hc)
      · rcases hfirst with heq | hc
        · omega
        · rcases (covered_cons s spans _).mp hc with ⟨hlow, hhigh⟩ | hc
          · exact Or.inl (by simp only; omega)
          · exact Or.inr hc
      · rcases hlast with heq | hc
        · exact Or.inl heq
        · rcases (covered_cons s spans _).mp hc with ⟨hlow, hhigh⟩ | hc
          · omega
          · exact Or.inr hc
  · rintro (⟨hlt, rfl⟩ | hrun)
    · refine ⟨hlt, Nat.le_refl _, Nat.le_of_lt hstop, fun i hi hc => ?_, Or.inl rfl, Or.inr ?_⟩
      · obtain ⟨hlow, hhigh⟩ := hi
        simp only at hlow hhigh
        rcases (covered_cons s spans i).mp hc with ⟨hlow', -⟩ | hc
        · omega
        · have := h.le_of_covered hc
          omega
      · exact (covered_cons s spans _).mpr (Or.inl ⟨Nat.le_refl _, hs⟩)
    · obtain ⟨hproper, hstart, hend, hfree, hfirst, hlast⟩ := hrun
      simp only at hstart hend hfirst hlast
      refine ⟨hproper, by simp only; omega, hend, fun i hi hc => ?_, Or.inr ?_, ?_⟩
      · rcases (covered_cons s spans i).mp hc with ⟨-, hhigh⟩ | hc
        · obtain ⟨hi, -⟩ := hi
          omega
        · exact hfree i hi hc
      · rw [covered_cons]
        refine hfirst.imp_left fun heq => ?_
        unfold Covers
        omega
      · exact hlast.imp_right fun hc => (covered_cons s spans _).mpr (Or.inr hc)

/-- The runs that are copied are the free ones. -/
theorem copied_mem_partsFrom (h : InOrder spans) (run : Span) :
    .copied run ∈ partsFrom stop pos spans ↔ FreeRun spans ⟨pos, stop⟩ run := by
  induction spans generalizing pos with
  | nil =>
      rw [partsFrom, copied_mem_between]
      constructor
      · rintro ⟨hlt, rfl⟩
        exact ⟨hlt, Nat.le_refl _, Nat.le_refl _, fun i _ => covered_nil i, Or.inl rfl, Or.inl rfl⟩
      · rintro ⟨hproper, -, -, -, hfirst, hlast⟩
        have hstart := hfirst.resolve_right (covered_nil _)
        have hstop := hlast.resolve_right (covered_nil _)
        simp only at hstart hstop
        exact ⟨by omega, by rw [← hstart, ← hstop]⟩
  | cons s ss ih =>
      unfold partsFrom
      split
      · next hout => rw [ih h.of_cons, freeRun_cons_of_outside hout]
      · next hmeets =>
        rw [freeRun_cons_of_meets h ⟨by simp only; omega, by simp only; omega⟩]
        simp [ih h.of_cons]

/-- The spans that are hidden are those in the range. -/
theorem hidden_mem_partsFrom (h : InOrder spans) (t : Span) :
    .hidden t ∈ partsFrom stop pos spans ↔ t ∈ spans ∧ Meets t ⟨pos, stop⟩ := by
  unfold Meets
  induction spans generalizing pos with
  | nil => simp [partsFrom]
  | cons s ss ih =>
      unfold partsFrom
      split
      · next hout =>
        rw [ih h.of_cons, List.mem_cons]
        constructor
        · rintro ⟨ht, hmeets⟩
          exact ⟨Or.inr ht, hmeets⟩
        · rintro ⟨rfl | ht, hmeets⟩
          · simp only at hmeets
            omega
          · exact ⟨ht, hmeets⟩
      · next hmeets =>
        simp only [List.mem_append, hidden_not_mem_between, false_or, List.mem_cons,
          Part.hidden.injEq, ih h.of_cons]
        constructor
        · rintro (rfl | ⟨ht, hlow, hhigh⟩)
          · exact ⟨Or.inl rfl, by omega, by omega⟩
          · exact ⟨Or.inr ht, by omega, hhigh⟩
        · rintro ⟨rfl | ht, hlow, hhigh⟩
          · exact Or.inl rfl
          · have := h.behind ht
            exact Or.inr ⟨ht, by omega, hhigh⟩

/-- The parts from the end of a span on lie behind it. -/
theorem stop_le_of_mem_partsFrom (h : InOrder (s :: spans)) {p : Part}
    (hp : p ∈ partsFrom stop s.stop spans) : s.stop ≤ p.span.start := by
  cases p with
  | copied run => exact ((copied_mem_partsFrom h.of_cons run).mp hp).start_le
  | hidden t => exact (h.behind ((hidden_mem_partsFrom h.of_cons t).mp hp).1).1

theorem ordered_partsFrom (h : InOrder spans) :
    (partsFrom stop pos spans).Pairwise fun p q => p.span.stop ≤ q.span.start := by
  induction spans generalizing pos with
  | nil =>
      unfold partsFrom between
      split <;> simp
  | cons s ss ih =>
      unfold partsFrom
      split
      · exact ih h.of_cons
      · have hrest : ∀ q ∈ partsFrom stop s.stop ss, s.stop ≤ q.span.start :=
          fun q hq => stop_le_of_mem_partsFrom h hq
        have hs := h.proper s List.mem_cons_self
        unfold between
        split
        · refine List.pairwise_cons.mpr ⟨fun q hq => ?_, List.pairwise_cons.mpr ⟨hrest, ih h.of_cons⟩⟩
          rcases List.mem_cons.mp hq with rfl | hq
          · exact Nat.le_refl _
          · have := hrest q hq
            simp only [Part.span_copied]
            omega
        · exact List.pairwise_cons.mpr ⟨hrest, ih h.of_cons⟩

end

/-- The parts are the reference parts. -/
theorem partsOf_partsFrom {spans : List Span} (h : InOrder spans) (range : Span) :
    PartsOf spans range (partsFrom range.stop range.start spans) where
  ordered := ordered_partsFrom h
  copied run := copied_mem_partsFrom h run
  hidden s := hidden_mem_partsFrom h s

/-- **A masked text is its parts.** Let the spans lie within the line, in order and without a common
position. There is one list of the longest uncovered stretches of a range and the spans that meet
the range in the order of their positions, and the masked text of the range is the texts of these
parts, one after the other. -/
theorem masked_eq_parts {line : List Char} {spans : List Span} (h : InOrder spans)
    (hn : ∀ s ∈ spans, s.stop ≤ line.length) (start stop : Nat) :
    ∃ parts, PartsOf spans ⟨start, stop⟩ parts ∧
      (∀ parts', PartsOf spans ⟨start, stop⟩ parts' → parts' = parts) ∧
      masked line spans start stop = parts.flatMap (Part.text line) := by
  have hparts := partsOf_partsFrom h ⟨start, stop⟩
  exact ⟨_, hparts, fun parts' hparts' => hparts'.eq h hparts, maskFrom_eq_flatMap hn stop start⟩

/-- Two neighbouring secrets, both of which are cut by the range. -/
theorem masked_eq_parts_neighbours :
    ∃ parts, PartsOf [⟨2, 14⟩, ⟨14, 17⟩] ⟨10, 16⟩ parts ∧
      (∀ parts', PartsOf [⟨2, 14⟩, ⟨14, 17⟩] ⟨10, 16⟩ parts' → parts' = parts) ∧
      masked "a=0123456789ABxyz".toList [⟨2, 14⟩, ⟨14, 17⟩] 10 16 =
        parts.flatMap (Part.text "a=0123456789ABxyz".toList) :=
  masked_eq_parts ⟨by decide, by decide⟩ (by decide) 10 16

/-- The end of the first secret shows, and nothing of the short one. -/
example : masked "a=0123456789ABxyz".toList [⟨2, 14⟩, ⟨14, 17⟩] 10 16 =
    "********89AB********".toList := by
  decide

end SourceAudit.Line

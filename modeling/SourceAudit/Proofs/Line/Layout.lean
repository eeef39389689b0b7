import SourceAudit.Line.Snippet
import SourceAudit.Proofs.Line.Merge

/-!
# SourceAudit.Proofs.Line.Layout

Where the characters of a masked text come from. A text masked by given spans is laid out in cells,
each of which is copied from a position of the line or is a star of the mask of a secret. The layout
does not depend on the characters of the line, only on its length, so it tells which of them a
masked text can show at all. An excerpt around a match is the masked text of a range of the line
without the blanks at its ends; the excerpt of a secret goes on with the secret itself, masked.

* `masked_eq_render` — a masked text is its layout filled in with the characters of the line;
* `kept_mem_layout` — the positions kept are those outside of the spans, and the last four of each
  span longer than eight that the text meets;
* `masked_congr` — lines that agree on these positions have the same masked text;
* `kept_mem_trim` — trimming drops a kept position only if nothing but blanks lies before it, or
  after it;
* `snippet_eq_render`, `secretSnippet_eq_render` — an excerpt is its cells, filled in;
* `kept_mem_snippetCells`, `kept_mem_secretCells` — the positions whose characters an excerpt shows;
* `snippet_congr`, `secretSnippet_congr` — lines that agree outside of the masked spans and on the
  ends of long ones have the same excerpts.
-/

namespace SourceAudit.Line

open SourceAudit.Span Text

/-! ## Cells -/

/-- Where a character of a masked text comes from. -/
inductive Cell
  /-- It is the character at a position of the line. -/
  | kept (pos : Nat)
  /-- It is part of the mask of the secret that starts at a position of the line. -/
  | star (start : Nat)
deriving DecidableEq, Repr

namespace Cell

/-- The position at which a cell stands. -/
def pos : Cell → Nat
  | kept pos => pos
  | star start => start

@[simp] theorem pos_kept (i : Nat) : (kept i).pos = i := rfl

@[simp] theorem pos_star (start : Nat) : (star start).pos = start := rfl

/-- The character in a cell. -/
def char (line : List Char) : Cell → Char
  | kept pos => line.getD pos ' '
  | star _ => '*'

/-- Is the character in a cell a blank? -/
def blank (line : List Char) (c : Cell) : Bool := isBlank (c.char line)

/-- The order of cells in a masked text: by position, the stars of one mask together. -/
def Before (c d : Cell) : Prop := c.pos < d.pos ∨ ∃ start, c = star start ∧ d = star start

end Cell

/-- The characters that some cells hold. -/
def render (line : List Char) (cells : List Cell) : List Char := cells.map (Cell.char line)

/-- The cells of the positions from `start` up to `stop` in a line of `n` characters. -/
def keptCells (n start stop : Nat) : List Cell :=
  (List.range' start (min stop n - start)).map .kept

/-- The cells of a masked secret. -/
def redactedCells (n : Nat) (s : Span) : List Cell :=
  List.replicate 8 (.star s.start) ++
    if min s.stop n - s.start ≤ 8 then [] else keptCells n (min s.stop n - 4) s.stop

/-- The cells of a masked text from `pos` up to `stop`. -/
def layoutFrom (n stop : Nat) : (pos : Nat) → List Span → List Cell
  | pos, [] => keptCells n pos stop
  | pos, s :: ss =>
    if s.stop ≤ pos ∨ stop ≤ s.start then layoutFrom n stop pos ss
    else keptCells n pos s.start ++ redactedCells n s ++ layoutFrom n stop s.stop ss

/-- The cells of the masked text of a range of a line with `n` characters. -/
def layout (n : Nat) (spans : List Span) (range : Span) : List Cell :=
  layoutFrom n range.stop range.start spans

/-! ## Filling in -/

variable {line : List Char}

@[simp] theorem render_append (line : List Char) (cs ds : List Cell) :
    render line (cs ++ ds) = render line cs ++ render line ds :=
  List.map_append

/-- A slice ends with the line. -/
theorem length_slice (line : List Char) (start stop : Nat) :
    (slice line start stop).length = min stop line.length - start := by
  simp only [slice, List.length_take, List.length_drop]
  omega

theorem length_keptCells (n start stop : Nat) :
    (keptCells n start stop).length = min stop n - start := by
  simp [keptCells]

/-- A slice shows the characters that it keeps. -/
theorem slice_eq_render (line : List Char) (start stop : Nat) :
    slice line start stop = render line (keptCells line.length start stop) := by
  have hlen : (slice line start stop).length =
      (render line (keptCells line.length start stop)).length := by
    rw [length_slice, render, List.length_map, length_keptCells]
  refine List.ext_getElem hlen fun k hk _ => ?_
  rw [length_slice] at hk
  have hlt : start + k < line.length := by omega
  simp [slice, render, keptCells, Cell.char, hlt]

theorem drop_keptCells (n start stop k : Nat) :
    (keptCells n start stop).drop k = keptCells n (start + k) stop := by
  simp only [keptCells, ← List.map_drop, List.drop_range']
  congr 2 <;> omega

/-- A masked secret shows its last four characters if it is longer than eight. -/
theorem redact_slice_eq_render (line : List Char) (s : Span) :
    redact (slice line s.start s.stop) = render line (redactedCells line.length s) := by
  have hmask : render line (List.replicate 8 (.star s.start)) = mask := by
    simp [render, mask, Cell.char]
  unfold redact redactedCells
  rw [length_slice]
  split
  · rw [List.append_nil, hmask]
  · next hlong =>
    rw [render_append, hmask, slice_eq_render, render, ← List.map_drop, drop_keptCells]
    rw [show s.start + (min s.stop line.length - s.start - 4) = min s.stop line.length - 4 by omega]
    rfl

/-- **Masking is a layout of cells** that is shown. -/
theorem maskFrom_eq_render (line : List Char) (stop pos : Nat) (spans : List Span) :
    maskFrom line stop pos spans = render line (layoutFrom line.length stop pos spans) := by
  induction spans generalizing pos with
  | nil => exact slice_eq_render line pos stop
  | cons s ss ih =>
      unfold maskFrom layoutFrom
      split
      · exact ih pos
      · rw [render_append, render_append, slice_eq_render, redact_slice_eq_render, ih]

/-- **A masked text is its layout, filled in.** -/
theorem masked_eq_render (line : List Char) (spans : List Span) (range : Span) :
    masked line spans range.start range.stop = render line (layout line.length spans range) :=
  maskFrom_eq_render line range.stop range.start spans

/-! ## What is kept -/

/-- The span meets a range. -/
def Meets (s range : Span) : Prop := range.start < s.stop ∧ s.start < range.stop

/-- The masked text of a range shows the character at a position: it lies outside of the spans, or
it is one of the last four of one that meets the range. -/
def Exposed (n : Nat) (spans : List Span) (range : Span) (i : Nat) : Prop :=
  (range.start ≤ i ∧ i < range.stop ∧ i < n ∧ ¬ Covered spans i) ∨
    ∃ s ∈ spans, Meets s range ∧ s.Tail i

@[simp] theorem kept_mem_keptCells {n start stop i : Nat} :
    .kept i ∈ keptCells n start stop ↔ start ≤ i ∧ i < stop ∧ i < n := by
  simp only [keptCells, List.mem_map, List.mem_range'_1, Cell.kept.injEq, exists_eq_right]
  omega

@[simp] theorem star_not_mem_keptCells {n start stop k : Nat} :
    .star k ∉ keptCells n start stop := by
  simp [keptCells]

/-- Of a redacted span, its end is kept. -/
theorem kept_mem_redactedCells {n i : Nat} {s : Span} (hs : s.stop ≤ n) :
    .kept i ∈ redactedCells n s ↔ s.Tail i := by
  unfold redactedCells Tail
  rw [List.mem_append]
  split
  · simp
    omega
  · simp
    omega

/-- Its stars stand for its start. -/
theorem star_mem_redactedCells {n k : Nat} {s : Span} :
    .star k ∈ redactedCells n s ↔ k = s.start := by
  unfold redactedCells
  rw [List.mem_append]
  split <;> simp

section

variable {n : Nat} {spans : List Span}

/-- The positions that a masked text keeps. Every span that meets the range is masked whole, and
between two of them, which lie apart, everything is kept. -/
theorem kept_mem_layoutFrom (h : Apart spans) (hn : ∀ s ∈ spans, s.stop ≤ n) (stop pos i : Nat) :
    .kept i ∈ layoutFrom n stop pos spans ↔ Exposed n spans ⟨pos, stop⟩ i := by
  unfold Exposed Meets
  induction spans generalizing pos with
  | nil => simp [layoutFrom]
  | cons s ss ih =>
      have hafter : ∀ t ∈ ss, s.stop < t.start ∧ t.start < t.stop := fun t ht =>
        ⟨h.stop_lt_start ht, h.proper t (List.mem_cons_of_mem s ht)⟩
      have hproper := h.proper s List.mem_cons_self
      have hrest := ih h.of_cons fun t ht => hn t (List.mem_cons_of_mem s ht)
      unfold layoutFrom
      split
      · next hskip =>
        rw [hrest]
        simp only [covered_cons, Covers, List.mem_cons, or_and_right, exists_or, exists_eq_left]
        have hout : ¬ (pos < s.stop ∧ s.start < stop) := by omega
        simp only [hout, false_and, false_or]
        refine or_congr_left ?_
        constructor
        · rintro ⟨h1, h2, h3, h4⟩
          exact ⟨h1, h2, h3, fun hc => hc.elim (by omega) h4⟩
        · rintro ⟨h1, h2, h3, h4⟩
          exact ⟨h1, h2, h3, fun hc => h4 (Or.inr hc)⟩
      · next hmeets =>
        have hin : pos < s.stop ∧ s.start < stop := by omega
        simp only [List.mem_append, kept_mem_keptCells, hrest,
          kept_mem_redactedCells (hn s List.mem_cons_self), covered_cons, List.mem_cons,
          or_and_right, exists_or, exists_eq_left, hin, true_and, and_true]
        -- no span behind `s` covers a position up to the end of `s`
        have hearly : i ≤ s.stop → ¬ Covered ss i := by
          rintro hi ⟨t, ht, hlow, -⟩
          have := hafter t ht
          omega
        have htails : (∃ t ∈ ss, (s.stop < t.stop ∧ t.start < stop) ∧ t.Tail i) ↔
            ∃ t ∈ ss, (pos < t.stop ∧ t.start < stop) ∧ t.Tail i := by
          constructor
          · rintro ⟨t, ht, hm, htail⟩
            exact ⟨t, ht, by omega, htail⟩
          · rintro ⟨t, ht, hm, htail⟩
            have := hafter t ht
            exact ⟨t, ht, by omega, htail⟩
        rw [htails]
        unfold Covers
        constructor
        · rintro ((⟨h1, h2, h3⟩ | htail) | ⟨h1, h2, h3, h4⟩ | ht)
          · exact Or.inl ⟨h1, by omega, h3, fun hc => hc.elim (by omega) (hearly (by omega))⟩
          · exact Or.inr (Or.inl htail)
          · exact Or.inl ⟨by omega, h2, h3, fun hc => hc.elim (by omega) h4⟩
          · exact Or.inr (Or.inr ht)
        · rintro (⟨h1, h2, h3, h4⟩ | htail | ht)
          · rw [not_or] at h4
            by_cases hi : i < s.start
            · exact Or.inl (Or.inl ⟨h1, hi, h3⟩)
            · exact Or.inr (Or.inl ⟨by omega, h2, h3, h4.2⟩)
          · exact Or.inl (Or.inr htail)
          · exact Or.inr (Or.inr ht)

/-- The masks in a masked text: those of the spans that it meets. -/
theorem star_mem_layoutFrom (h : Apart spans) (stop pos k : Nat) :
    .star k ∈ layoutFrom n stop pos spans ↔
      ∃ s ∈ spans, Meets s ⟨pos, stop⟩ ∧ s.start = k := by
  unfold Meets
  induction spans generalizing pos with
  | nil => simp [layoutFrom]
  | cons s ss ih =>
      have hafter : ∀ t ∈ ss, s.stop < t.start ∧ t.start < t.stop := fun t ht =>
        ⟨h.stop_lt_start ht, h.proper t (List.mem_cons_of_mem s ht)⟩
      unfold layoutFrom
      split
      · next hskip =>
        rw [ih h.of_cons]
        grind
      · next hmeets =>
        simp only [List.mem_append, star_not_mem_keptCells, star_mem_redactedCells, ih h.of_cons,
          List.mem_cons, or_and_right, exists_or, exists_eq_left, false_or]
        grind

/-- The characters that a layout keeps are those that are exposed. -/
theorem kept_mem_layout (h : Apart spans) (hn : ∀ s ∈ spans, s.stop ≤ n) (range : Span) (i : Nat) :
    .kept i ∈ layout n spans range ↔ Exposed n spans range i :=
  kept_mem_layoutFrom h hn range.stop range.start i

/-- The stars of a layout stand for the spans in its range. -/
theorem star_mem_layout (h : Apart spans) (range : Span) (k : Nat) :
    .star k ∈ layout n spans range ↔ ∃ s ∈ spans, Meets s range ∧ s.start = k :=
  star_mem_layoutFrom h range.stop range.start k

/-! ### Order -/

/-- Cells come in the order of their positions. -/
theorem pairwise_before_keptCells (n start stop : Nat) :
    (keptCells n start stop).Pairwise Cell.Before :=
  List.Pairwise.map _ (fun _ _ hlt => Or.inl hlt) List.pairwise_lt_range'

theorem pos_of_mem_keptCells {start stop : Nat} {c : Cell} (hc : c ∈ keptCells n start stop) :
    start ≤ c.pos ∧ c.pos < stop := by
  cases c with
  | kept i =>
      obtain ⟨h1, h2, -⟩ := kept_mem_keptCells.mp hc
      exact ⟨h1, h2⟩
  | star k => exact absurd hc star_not_mem_keptCells

theorem pos_of_mem_redactedCells {s : Span} {c : Cell} (hs : s.start < s.stop) (hn : s.stop ≤ n)
    (hc : c ∈ redactedCells n s) : s.start ≤ c.pos ∧ c.pos < s.stop := by
  cases c with
  | kept i => exact ((kept_mem_redactedCells hn).mp hc).covers
  | star k =>
      obtain rfl := star_mem_redactedCells.mp hc
      exact ⟨Nat.le_refl _, hs⟩

theorem pairwise_before_redactedCells (n : Nat) (s : Span) :
    (redactedCells n s).Pairwise Cell.Before := by
  unfold redactedCells
  refine List.pairwise_append.mpr ⟨?_, ?_, ?_⟩
  · exact List.pairwise_replicate.mpr (Or.inr (Or.inr ⟨s.start, rfl, rfl⟩))
  · split
    · exact List.Pairwise.nil
    · exact pairwise_before_keptCells ..
  · intro c hc d hd
    obtain rfl := List.eq_of_mem_replicate hc
    split at hd
    · simp at hd
    · have := pos_of_mem_keptCells hd
      exact Or.inl (by rw [Cell.pos_star]; omega)

/-- What follows a masked secret stands behind it. -/
theorem stop_le_of_mem_layoutFrom {s : Span} (h : Apart (s :: spans)) (hn : ∀ t ∈ spans, t.stop ≤ n)
    {stop : Nat} {c : Cell} (hc : c ∈ layoutFrom n stop s.stop spans) : s.stop ≤ c.pos := by
  cases c with
  | kept i =>
      rcases (kept_mem_layoutFrom h.of_cons hn _ _ _).mp hc with ⟨hi, -⟩ | ⟨t, ht, -, htail⟩
      · exact hi
      · have := h.stop_lt_start ht
        have := htail.covers.1
        rw [Cell.pos_kept]
        omega
  | star k =>
      obtain ⟨t, ht, -, rfl⟩ := (star_mem_layoutFrom h.of_cons _ _ _).mp hc
      exact Nat.le_of_lt (h.stop_lt_start ht)

/-- The cells of a masked text stand in order. -/
theorem pairwise_before_layoutFrom (h : Apart spans) (hn : ∀ s ∈ spans, s.stop ≤ n)
    (stop pos : Nat) : (layoutFrom n stop pos spans).Pairwise Cell.Before := by
  induction spans generalizing pos with
  | nil => exact pairwise_before_keptCells n pos stop
  | cons s ss ih =>
      obtain ⟨hs, hss⟩ := List.forall_mem_cons.mp hn
      have hproper := h.proper s List.mem_cons_self
      unfold layoutFrom
      split
      · exact ih h.of_cons hss pos
      · have hahead : (keptCells n pos s.start ++ redactedCells n s).Pairwise Cell.Before := by
          refine List.pairwise_append.mpr
            ⟨pairwise_before_keptCells .., pairwise_before_redactedCells .., fun c hc d hd => ?_⟩
          have := pos_of_mem_keptCells hc
          have := pos_of_mem_redactedCells hproper hs hd
          exact Or.inl (by omega)
        refine List.pairwise_append.mpr ⟨hahead, ih h.of_cons hss s.stop, fun c hc d hd => ?_⟩
        have hd' := stop_le_of_mem_layoutFrom h hss hd
        rcases List.mem_append.mp hc with hc | hc
        · have := pos_of_mem_keptCells hc
          exact Or.inl (by omega)
        · have := pos_of_mem_redactedCells hproper hs hc
          exact Or.inl (by omega)

theorem pairwise_before_layout (h : Apart spans) (hn : ∀ s ∈ spans, s.stop ≤ n) (range : Span) :
    (layout n spans range).Pairwise Cell.Before :=
  pairwise_before_layoutFrom h hn range.stop range.start

end

/-! ## Trimming -/

/-- The cells without the blanks before the first other character. -/
def trimStart (line : List Char) (cells : List Cell) : List Cell :=
  cells.dropWhile (Cell.blank line)

/-- The cells without the blanks behind the last other character. -/
def trimEnd (line : List Char) (cells : List Cell) : List Cell :=
  (cells.reverse.dropWhile (Cell.blank line)).reverse

/-- The cells without the blanks at both ends. -/
def trim (line : List Char) (cells : List Cell) : List Cell := trimEnd line (trimStart line cells)

theorem stripStart_render (line : List Char) (cells : List Cell) :
    stripStart (render line cells) = render line (trimStart line cells) :=
  List.dropWhile_map

theorem stripEnd_render (line : List Char) (cells : List Cell) :
    stripEnd (render line cells) = render line (trimEnd line cells) := by
  unfold stripEnd dropEndWhile render trimEnd
  rw [← List.map_reverse, List.dropWhile_map, List.map_reverse]
  rfl

/-- Blanks are stripped cell by cell. -/
theorem strip_render (line : List Char) (cells : List Cell) :
    strip (render line cells) = render line (trim line cells) := by
  rw [strip, stripStart_render, stripEnd_render, trim]

/-- What `dropWhile` leaves of cells in which `Q` says that a cell does not stand behind the one
kept at `i`: that one stays if a cell that stays does not stand behind it. -/
theorem kept_mem_dropWhile {p : Cell → Bool} {Q : Cell → Prop} {i : Nat} {cells : List Cell}
    (h : cells.Pairwise fun c d => (c = .kept i → ¬ Q d) ∧ (d = .kept i → Q c)) (hQ : Q (.kept i)) :
    .kept i ∈ cells.dropWhile p ↔ .kept i ∈ cells ∧ ∃ c ∈ cells, Q c ∧ p c = false := by
  induction cells with
  | nil => simp
  | cons d cells ih =>
      obtain ⟨hd, hcells⟩ := List.pairwise_cons.mp h
      rw [List.dropWhile_cons]
      split
      · next hblank =>
        rw [ih hcells]
        constructor
        · rintro ⟨hmem, c, hc, hq, hp⟩
          exact ⟨List.mem_cons_of_mem d hmem, c, List.mem_cons_of_mem d hc, hq, hp⟩
        · rintro ⟨hmem, c, hc, hq, hp⟩
          rcases List.mem_cons.mp hc with rfl | hc
          · simp [hblank] at hp
          · rcases List.mem_cons.mp hmem with heq | hmem
            · exact absurd hq ((hd c hc).1 heq.symm)
            · exact ⟨hmem, c, hc, hq, hp⟩
      · next hblank =>
        refine ⟨fun hmem => ⟨hmem, d, List.mem_cons_self, ?_, by simpa using hblank⟩, And.left⟩
        rcases List.mem_cons.mp hmem with heq | hmem
        · exact heq ▸ hQ
        · exact (hd _ hmem).2 rfl

/-- A cell that is not blank is not trimmed. -/
theorem mem_trimStart_of_blank {line : List Char} {cells : List Cell} {c : Cell} (hc : c ∈ cells)
    (hblank : c.blank line = false) : c ∈ trimStart line cells := by
  induction cells with
  | nil => simp at hc
  | cons d cells ih =>
      unfold trimStart
      rw [List.dropWhile_cons]
      split
      · next hd =>
        rcases List.mem_cons.mp hc with rfl | hc
        · simp [hd] at hblank
        · exact ih hc
      · exact hc

section

variable {line : List Char} {cells : List Cell} {i : Nat}

/-- A blank is trimmed if nothing but blanks comes before it. -/
theorem kept_mem_trimStart (h : cells.Pairwise Cell.Before) :
    .kept i ∈ trimStart line cells ↔
      .kept i ∈ cells ∧ ∃ c ∈ cells, c.pos ≤ i ∧ c.blank line = false := by
  refine kept_mem_dropWhile (h.imp fun {c d} hcd => ?_) (Nat.le_refl i)
  rcases hcd with hlt | ⟨start, rfl, rfl⟩
  · exact ⟨by rintro rfl; rw [Cell.pos_kept] at hlt; omega,
      by rintro rfl; rw [Cell.pos_kept] at hlt; omega⟩
  · exact ⟨by simp, by simp⟩

/-- **Trimming drops a kept position only among blanks**: what is left of masked cells are the
positions with something else at or before them, and at or behind them. -/
theorem kept_mem_trim (h : cells.Pairwise Cell.Before) :
    .kept i ∈ trim line cells ↔
      .kept i ∈ cells ∧ (∃ c ∈ cells, c.pos ≤ i ∧ c.blank line = false) ∧
        ∃ c ∈ cells, i ≤ c.pos ∧ c.blank line = false := by
  have hsub : (trimStart line cells).Sublist cells := List.dropWhile_sublist _
  have hrev : (trimStart line cells).reverse.Pairwise
      fun c d => (c = .kept i → ¬ i ≤ d.pos) ∧ (d = .kept i → i ≤ c.pos) := by
    refine List.pairwise_reverse.mpr ((h.sublist hsub).imp fun {d c} hcd => ?_)
    rcases hcd with hlt | ⟨start, rfl, rfl⟩
    · exact ⟨by rintro rfl; rw [Cell.pos_kept] at hlt; omega,
        by rintro rfl; rw [Cell.pos_kept] at hlt; omega⟩
    · exact ⟨by simp, by simp⟩
  unfold trim trimEnd
  rw [List.mem_reverse, kept_mem_dropWhile hrev (Nat.le_refl i)]
  simp only [List.mem_reverse]
  rw [kept_mem_trimStart h, and_assoc]
  refine and_congr_right fun _ => and_congr_right fun _ => ?_
  constructor
  · rintro ⟨c, hc, hle, hb⟩
    exact ⟨c, hsub.subset hc, hle, hb⟩
  · rintro ⟨c, hc, hle, hb⟩
    exact ⟨c, mem_trimStart_of_blank hc hb, hle, hb⟩

end

/-! ## What a masked text shows -/

/-- Something other than a blank stands at a position of the masked text of a range: a character
that it shows, or a mask. -/
def Solid (line : List Char) (spans : List Span) (range : Span) (j : Nat) : Prop :=
  (Exposed line.length spans range j ∧ isBlank (line.getD j ' ') = false) ∨
    ∃ s ∈ spans, Meets s range ∧ s.start = j

/-- What is exposed stands outside all spans or at the end of one. -/
theorem Exposed.outside_or_tail {n : Nat} {spans : List Span} {range : Span} {i : Nat}
    (h : Exposed n spans range i) : ¬ Covered spans i ∨ InTail spans i := by
  rcases h with ⟨-, -, -, hout⟩ | ⟨s, hs, -, htail⟩
  · exact Or.inl hout
  · exact Or.inr ⟨s, hs, htail⟩

section

variable {line : List Char} {spans : List Span}

/-- That a cell is not blank can be told from the line. -/
theorem exists_mem_layout_iff_solid (h : Apart spans) (hn : ∀ s ∈ spans, s.stop ≤ line.length)
    (range : Span) (P : Nat → Prop) :
    (∃ c ∈ layout line.length spans range, P c.pos ∧ c.blank line = false) ↔
      ∃ j, P j ∧ Solid line spans range j := by
  constructor
  · rintro ⟨c, hc, hP, hblank⟩
    cases c with
    | kept j => exact ⟨j, hP, Or.inl ⟨(kept_mem_layout h hn range j).mp hc, hblank⟩⟩
    | star k => exact ⟨k, hP, Or.inr ((star_mem_layout h range k).mp hc)⟩
  · rintro ⟨j, hP, ⟨hexp, hblank⟩ | hmask⟩
    · exact ⟨.kept j, (kept_mem_layout h hn range j).mpr hexp, hP, hblank⟩
    · exact ⟨.star j, (star_mem_layout h range j).mpr hmask, hP, rfl⟩

/-- A masked text without its leading blanks shows what it exposes from the first solid position
on. -/
theorem kept_mem_trimStart_layout (h : Apart spans) (hn : ∀ s ∈ spans, s.stop ≤ line.length)
    (range : Span) (i : Nat) :
    .kept i ∈ trimStart line (layout line.length spans range) ↔
      Exposed line.length spans range i ∧ ∃ j, j ≤ i ∧ Solid line spans range j := by
  rw [kept_mem_trimStart (pairwise_before_layout h hn range), kept_mem_layout h hn,
    exists_mem_layout_iff_solid h hn range (· ≤ i)]

/-- A masked text without the blanks at its ends shows what it exposes between the first solid
position and the last. -/
theorem kept_mem_trim_layout (h : Apart spans) (hn : ∀ s ∈ spans, s.stop ≤ line.length)
    (range : Span) (i : Nat) :
    .kept i ∈ trim line (layout line.length spans range) ↔
      Exposed line.length spans range i ∧ (∃ j, j ≤ i ∧ Solid line spans range j) ∧
        ∃ j, i ≤ j ∧ Solid line spans range j := by
  rw [kept_mem_trim (pairwise_before_layout h hn range), kept_mem_layout h hn,
    exists_mem_layout_iff_solid h hn range (· ≤ i), exists_mem_layout_iff_solid h hn range (i ≤ ·)]

end

/-! ## Lines that agree where it shows -/

/-- Two lines have the same character at a position, or both end before it. -/
def SameAt (l l' : List Char) (i : Nat) : Prop := l'[i]? = l[i]?

/-- Lines with the same kept characters are shown alike. -/
theorem render_congr {line line' : List Char} {cells : List Cell}
    (h : ∀ i, .kept i ∈ cells → SameAt line line' i) :
    render line' cells = render line cells := by
  refine List.map_congr_left fun c hc => ?_
  cases c with
  | kept i =>
      have hsame := h i hc
      unfold SameAt at hsame
      simp only [Cell.char, List.getD_eq_getElem?_getD, hsame]
  | star k => rfl

/-- **Lines that agree on what a masked text exposes have the same masked text.** -/
theorem masked_congr {line line' : List Char} {spans : List Span} (hA : Apart spans)
    (hn : ∀ s ∈ spans, s.stop ≤ line.length) (hlen : line'.length = line.length) (range : Span)
    (h : ∀ i, Exposed line.length spans range i → SameAt line line' i) :
    masked line' spans range.start range.stop = masked line spans range.start range.stop := by
  rw [masked_eq_render, masked_eq_render, hlen]
  exact render_congr fun i hi => h i ((kept_mem_layout hA hn range i).mp hi)

/-- Lines that agree on the last four characters of a long secret have the same masked secret. -/
theorem redact_slice_congr {line line' : List Char} {s : Span} (hn : s.stop ≤ line.length)
    (hlen : line'.length = line.length) (h : ∀ i, s.Tail i → SameAt line line' i) :
    redact (slice line' s.start s.stop) = redact (slice line s.start s.stop) := by
  rw [redact_slice_eq_render, redact_slice_eq_render, hlen]
  exact render_congr fun i hi => h i ((kept_mem_redactedCells hn).mp hi)

/-! ## Cells of excerpts -/

/-- The part of a window from which the excerpt for a match is taken. -/
def snippetRange (line : List Char) (start : Nat) (window : Span) (secrets : List Span) : Span :=
  let whole := strip (masked line secrets window.start window.stop)
  if whole.length ≤ snippetLength then window
  else
    let first := max window.start (start - contextLength)
    ⟨first, min window.stop (first + snippetLength)⟩

/-- The part of a window that the excerpt of a secret shows before the secret. -/
def contextRange (start : Nat) (window : Span) : Span :=
  ⟨max window.start (start - contextLength), start⟩

/-- The cells of the excerpt for a match. -/
def snippetCells (line : List Char) (start : Nat) (window : Span) (secrets : List Span) :
    List Cell :=
  trim line (layout line.length secrets (snippetRange line start window secrets))

/-- The cells of the excerpt of a secret. -/
def secretCells (line : List Char) (secret window : Span) (secrets : List Span) : List Cell :=
  trimStart line (layout line.length secrets (contextRange secret.start window)) ++
    redactedCells line.length secret

/-- The excerpt for a match is its cells, with an ellipsis where it is cut. -/
theorem snippet_eq_render (line : List Char) (start : Nat) (window : Span) (secrets : List Span) :
    ∃ lead trail, (lead = [] ∨ lead = ellipsis) ∧ (trail = [] ∨ trail = ellipsis) ∧
      snippet line start window secrets =
        lead ++ render line (snippetCells line start window secrets) ++ trail := by
  unfold snippet snippetCells snippetRange
  simp only
  split
  · refine ⟨[], [], Or.inl rfl, Or.inl rfl, ?_⟩
    rw [masked_eq_render, strip_render, List.nil_append, List.append_nil]
  · refine ⟨if 0 < max window.start (start - contextLength) then ellipsis else [], ellipsis, ?_,
      Or.inr rfl, ?_⟩
    · split
      · exact Or.inr rfl
      · exact Or.inl rfl
    · rw [← strip_render, ← masked_eq_render]

/-- The excerpt of a secret is its cells. -/
theorem secretSnippet_eq_render (line : List Char) (secret window : Span) (secrets : List Span) :
    secretSnippet line secret.start (slice line secret.start secret.stop) window secrets =
      render line (secretCells line secret window secrets) := by
  have hcontext : masked line secrets (max window.start (secret.start - contextLength))
      secret.start = render line (layout line.length secrets (contextRange secret.start window)) :=
    masked_eq_render line secrets (contextRange secret.start window)
  rw [secretSnippet, secretCells, render_append, hcontext, stripStart_render,
    redact_slice_eq_render]

section

variable {line : List Char} {spans : List Span}

theorem kept_mem_snippetCells (h : Apart spans) (hn : ∀ s ∈ spans, s.stop ≤ line.length)
    (start : Nat) (window : Span) (i : Nat) :
    .kept i ∈ snippetCells line start window spans ↔
      Exposed line.length spans (snippetRange line start window spans) i ∧
        (∃ j, j ≤ i ∧ Solid line spans (snippetRange line start window spans) j) ∧
        ∃ j, i ≤ j ∧ Solid line spans (snippetRange line start window spans) j :=
  kept_mem_trim_layout h hn _ i

theorem kept_mem_secretCells (h : Apart spans) (hn : ∀ s ∈ spans, s.stop ≤ line.length)
    {secret : Span} (hs : secret.stop ≤ line.length) (window : Span) (i : Nat) :
    .kept i ∈ secretCells line secret window spans ↔
      (Exposed line.length spans (contextRange secret.start window) i ∧
        ∃ j, j ≤ i ∧ Solid line spans (contextRange secret.start window) j) ∨ secret.Tail i := by
  rw [secretCells, List.mem_append, kept_mem_trimStart_layout h hn, kept_mem_redactedCells hs]

/-! ## Lines with the same excerpts -/

variable {line' : List Char}

/-- **Excerpts show nothing of the secrets but their ends.** -/
theorem snippet_congr (h : Apart spans) (hn : ∀ s ∈ spans, s.stop ≤ line.length)
    (hlen : line'.length = line.length)
    (hagree : ∀ i, ¬ Covered spans i ∨ InTail spans i → SameAt line line' i)
    (start : Nat) (window : Span) :
    snippet line' start window spans = snippet line start window spans := by
  have hmasked : ∀ low high, masked line' spans low high = masked line spans low high :=
    fun low high => masked_congr h hn hlen ⟨low, high⟩
      fun i hi => hagree i hi.outside_or_tail
  unfold snippet
  simp only [hmasked]

/-- The excerpt of a secret shows nothing of the secrets but their ends, and its own. -/
theorem secretSnippet_congr (h : Apart spans) (hn : ∀ s ∈ spans, s.stop ≤ line.length)
    (hlen : line'.length = line.length) {secret : Span} (hs : secret.stop ≤ line.length)
    (hagree : ∀ i, ¬ Covered spans i ∨ InTail spans i ∨ secret.Tail i → SameAt line line' i)
    (window : Span) :
    secretSnippet line' secret.start (slice line' secret.start secret.stop) window spans =
      secretSnippet line secret.start (slice line secret.start secret.stop) window spans := by
  have hcontext := masked_congr h hn hlen (contextRange secret.start window)
    fun i hi => hagree i (hi.outside_or_tail.imp_right Or.inl)
  have hsecret := redact_slice_congr hs hlen fun i hi => hagree i (Or.inr (Or.inr hi))
  unfold contextRange at hcontext
  rw [secretSnippet, secretSnippet, hcontext, hsecret]

end

end SourceAudit.Line

import SourceAudit.Proofs.Analysis.Hits
import SourceAudit.Proofs.Line.Layout
import SourceAudit.Proofs.Pattern.Bounds

/-!
# SourceAudit.Proofs.Analysis.Secrets

The secrets that are searched for around a match, and the snippet in which they are masked.

* `covered_secretSpans` — the spans searched for cover every value that a secret rule matches;
* `apart_secretSpans` and `stop_le_of_mem_secretSpans` — they lie apart from each other and within
  the line, which is what masking asks of them;
* `snippet_findingAt` — the snippet of a hit is its cells, filled in with the characters of the
  line.
-/

namespace SourceAudit

open Number Line SourceAudit.Span

namespace Engine

/-! ## Values -/

/-- The spans of the nonempty values that secret rules match between two positions of a line. -/
def secretValues (e : Engine) (line : List Char) (start stop : Nat) : List Span :=
  e.registry.secretRules.flatMap fun r =>
    (r.pattern.findAll line start stop).filterMap fun m =>
      (m.span? r.secretGroup).bind fun (a, b) => if a < b then some ⟨a, b⟩ else none

/-- A search of a secret rule of the registry never comes to an end in time. -/
def Stalls (e : Engine) : Prop := ∃ r ∈ e.registry.secretRules, r.id ∈ e.stalledAround

section

variable {e : Engine} {line : List Char} {start stop : Nat}

/-- The secret values are the groups that secret rules take for the secret, wherever they match. -/
theorem mem_secretValues {s : Span} :
    s ∈ e.secretValues line start stop ↔
      ∃ r ∈ e.registry.secretRules, ∃ m ∈ r.pattern.findAll line start stop,
        m.span? r.secretGroup = some (s.start, s.stop) ∧ s.start < s.stop := by
  simp only [secretValues, List.mem_flatMap, List.mem_filterMap]
  refine exists_congr fun r => and_congr_right fun _ => exists_congr fun m =>
    and_congr_right fun _ => ?_
  cases m.span? r.secretGroup with
  | none => simp
  | some span =>
      obtain ⟨a, b⟩ := span
      obtain ⟨a', b'⟩ := s
      simp only [Option.bind_some, Option.some.injEq, Prod.mk.injEq]
      split
      · next hlt =>
        simp only [Option.some.injEq, Span.mk.injEq]
        constructor
        · rintro ⟨rfl, rfl⟩
          exact ⟨⟨rfl, rfl⟩, hlt⟩
        · exact And.left
      · next hle =>
        simp only [reduceCtorEq, false_iff]
        rintro ⟨⟨rfl, rfl⟩, hlt⟩
        exact hle hlt

/-- No value is empty. -/
theorem start_lt_of_mem_secretValues :
    ∀ s ∈ e.secretValues line start stop, s.start < s.stop := by
  intro s hs
  obtain ⟨_, _, _, _, _, hlt⟩ := mem_secretValues.mp hs
  exact hlt

/-- A value ends within its line. -/
theorem stop_le_of_mem_secretValues :
    ∀ s ∈ e.secretValues line start stop, s.stop ≤ line.length := by
  intro s hs
  obtain ⟨r, _, m, hm, hspan, _⟩ := mem_secretValues.mp hs
  have := ((r.pattern.findAll_within line start stop m hm).span? hspan).2
  omega

/-- The spans are not found exactly if the search of a secret rule does not end. -/
theorem any_stalled_iff :
    (e.registry.secretRules.any fun r => e.stalledAround.contains r.id) = true ↔ e.Stalls := by
  simp [Stalls]

/-- The secrets of a line are the values of the secret rules, merged. -/
theorem secretSpans_eq_merge (h : ¬ e.Stalls) :
    e.secretSpans line start stop = merge (e.secretValues line start stop) := by
  unfold secretSpans
  simp only
  rw [if_neg (mt any_stalled_iff.mp h)]
  rfl

/-- If a search takes too long, everything is secret. -/
theorem secretSpans_eq_whole (h : e.Stalls) : e.secretSpans line start stop = [⟨start, stop⟩] := by
  unfold secretSpans
  simp only
  rw [if_pos (any_stalled_iff.mpr h)]

/-- The spans around secrets are apart from each other. -/
theorem apart_secretSpans (h : start < stop) : Apart (e.secretSpans line start stop) := by
  by_cases hstalls : e.Stalls
  · rw [secretSpans_eq_whole hstalls]
    exact ⟨by simpa using h, List.pairwise_singleton _ _⟩
  · rw [secretSpans_eq_merge hstalls]
    exact apart_merge start_lt_of_mem_secretValues

theorem stop_le_of_mem_secretSpans (h : stop ≤ line.length) :
    ∀ s ∈ e.secretSpans line start stop, s.stop ≤ line.length := by
  by_cases hstalls : e.Stalls
  · rw [secretSpans_eq_whole hstalls]
    simpa using h
  · rw [secretSpans_eq_merge hstalls]
    exact stop_le_of_mem_merge start_lt_of_mem_secretValues stop_le_of_mem_secretValues

/-- **No value is forgotten**: the secrets of a line cover every value that a secret rule of the
registry matches in it. -/
theorem covered_secretSpans {r : Rule} (hr : r ∈ e.registry.secretRules) {m : Match}
    (hm : m ∈ r.pattern.findAll line 0 line.length) {a b i : Nat}
    (hspan : m.span? r.secretGroup = some (a, b)) (hi : a ≤ i ∧ i < b) :
    Covered (e.secretSpans line 0 line.length) i := by
  by_cases hstalls : e.Stalls
  · rw [secretSpans_eq_whole hstalls]
    have := ((r.pattern.findAll_within line 0 line.length m hm).span? hspan).2
    exact ⟨⟨0, line.length⟩, List.mem_singleton_self _, Nat.zero_le i, by simp only; omega⟩
  · rw [secretSpans_eq_merge hstalls, covered_merge]
    exact ⟨⟨a, b⟩, mem_secretValues.mpr ⟨r, hr, m, hm, hspan, by simp only; omega⟩, hi⟩

end

/-! ## The reported span -/

/-- The span of the reported group, empty at the start of the match if the group took no part. -/
def reported (r : Rule) (m : Match) : Span :=
  match m.span? (reportedGroup r) with
  | some (start, stop) => ⟨start, stop⟩
  | none => ⟨m.start, m.start⟩

section

variable {r : Rule} {m : Match}

/-- What is reported begins at the reported start. -/
theorem start_reported (r : Rule) (m : Match) : (reported r m).start = reportedStart r m := by
  unfold reported reportedStart
  cases m.span? (reportedGroup r) <;> rfl

/-- What is reported of a match is the text of its reported span. -/
theorem slice_reported (r : Rule) (line : List Char) (m : Match) :
    slice line (reported r m).start (reported r m).stop = reportedText r line m := by
  unfold reported reportedText
  cases m.span? (reportedGroup r) with
  | none => simp [slice]
  | some span => rfl

/-- A secret that is reported and not empty is what the secret group of its rule matched. -/
theorem span?_reported (hr : r.isSecret = true) (h : (reported r m).start < (reported r m).stop) :
    m.span? r.secretGroup = some ((reported r m).start, (reported r m).stop) := by
  unfold reported at h ⊢
  rw [reportedGroup, if_pos hr] at h ⊢
  cases hspan : m.span? r.secretGroup with
  | none => simp [hspan] at h
  | some span => rfl

/-- It ends where the groups of a match must end. -/
theorem stop_reported_le {n groups : Nat} (h : m.Within n groups) : (reported r m).stop ≤ n := by
  unfold reported
  split
  · next hspan => exact (h.span? hspan).2
  · exact Nat.le_trans h.start_le h.stop_le

end

/-! ## Snippets of hits -/

/-- The cells of the snippet of a hit. -/
def cells (e : Engine) (r : Rule) (h : Hit) : List Cell :=
  let secrets := e.windowSecrets h.line h.window
  if r.isSecret then secretCells h.line (reported r h.found) h.window secrets
  else snippetCells h.line (reportedStart r h.found) h.window secrets

/-- The snippet of a hit shows the character at a position of its line. -/
def Shows (e : Engine) (r : Rule) (h : Hit) (i : Nat) : Prop := .kept i ∈ e.cells r h

instance (e : Engine) (r : Rule) (h : Hit) (i : Nat) : Decidable (e.Shows r h i) :=
  inferInstanceAs (Decidable (_ ∈ _))

/-- The snippet of a hit is made of its cells, with an ellipsis where it is cut. -/
theorem snippet_findingAt (e : Engine) (r : Rule) (path : String) (h : Hit) :
    ∃ lead trail, (lead = [] ∨ lead = ellipsis) ∧ (trail = [] ∨ trail = ellipsis) ∧
      (e.findingAt r path h).snippet =
        String.ofList (lead ++ render h.line (e.cells r h) ++ trail) := by
  unfold findingAt findingOf cells
  simp only
  split
  · refine ⟨[], [], Or.inl rfl, Or.inl rfl, congrArg String.ofList ?_⟩
    rw [← start_reported, ← slice_reported, secretSnippet_eq_render, List.nil_append,
      List.append_nil]
  · obtain ⟨lead, trail, hlead, htrail, hcells⟩ := snippet_eq_render h.line
      (reportedStart r h.found) h.window (e.windowSecrets h.line h.window)
    exact ⟨lead, trail, hlead, htrail, congrArg String.ofList hcells⟩

section

variable {e : Engine} {r : Rule} {lineAt : Nat → Option (List Char)} {h : Hit}

theorem Occurs.stop_reported_le (hh : e.Occurs r lineAt h) :
    (reported r h.found).stop ≤ h.line.length := by
  have hstart := hh.start_lt
  have hstop := hh.stop_le
  have hw : (reported r h.found).stop ≤ _ := Engine.stop_reported_le
    (r.pattern.findAll_within h.line h.window.start h.window.stop h.found hh.found)
  omega

/-- The secrets of a window are apart. -/
theorem Occurs.apart_windowSecrets (hh : e.Occurs r lineAt h) :
    Apart (e.windowSecrets h.line h.window) := by
  have hstart := hh.start_lt
  have hstop := hh.stop_le
  exact apart_secretSpans (by omega)

/-- The spans around a window do not reach beyond the line. -/
theorem stop_le_of_mem_windowSecrets (e : Engine) (line : List Char) (window : Span) :
    ∀ s ∈ e.windowSecrets line window, s.stop ≤ line.length :=
  stop_le_of_mem_secretSpans (Nat.min_le_left ..)

end

end Engine

end SourceAudit

import SourceAudit.Proofs.Analysis.Evaluation
import SourceAudit.Proofs.Line.Columns
import SourceAudit.Proofs.Pattern.Spelled
import SourceAudit.Proofs.Report.Deduplicate

/-!
# SourceAudit.Proofs.Analysis.Windows

Searching a long line in windows keeps the place that is reported. A window is searched from its
start, so that its matches need not be those of the whole line; but the leftmost match of the line
lies in one window as a whole if it is short enough, is found there, and is the one that
deduplication leaves.

* `evaluate_alike` — what is in the cache shows in the snippets only, and nowhere else in what an
  evaluation comes to;
* `keptColumns_of_leftmost` — the column that is left on a line whose matches are seen whole;
* `evaluate_keeps_place` — so it is the same in windows of any size.
-/

namespace SourceAudit

open Number Line Pattern Report

/-- A finding without its snippet. -/
def Finding.unquoted (f : Finding) : Finding := { f with snippet := "" }

namespace Engine

/-! ## What the cache has no part in -/

/-- Two parts of evaluations come to the same but for the snippets, and leave the same time. -/
structure Alike (out out' : Except Interruption (List Finding) × Shared) : Prop where
  found : out.1.map (List.map Finding.unquoted) = out'.1.map (List.map Finding.unquoted)
  clock : out.2.clock = out'.2.clock

/-- Results stay alike with findings that are alike before them. -/
theorem Alike.append {out out' : Except Interruption (List Finding) × Shared}
    {fs fs' : List Finding} (h : Alike out out')
    (hfs : fs.map Finding.unquoted = fs'.map Finding.unquoted) :
    Alike (out.1.map (fs ++ ·), out.2) (out'.1.map (fs' ++ ·), out'.2) := by
  obtain ⟨res, sh⟩ := out
  obtain ⟨res', sh'⟩ := out'
  obtain ⟨hfound, hclock⟩ := h
  refine ⟨?_, hclock⟩
  cases res <;> cases res' <;> simp_all [Except.map]

section

variable (e : Engine) (r : Rule) (path : String) (deadline : Double)

/-- Without their snippets, the findings of a window do not depend on the cache. -/
theorem windowFindings_unquoted (number : Nat) (line : List Char) (window : Span) (ms : List Match)
    (seen : List Nat) (cache cache' : SecretCache) :
    (e.windowFindings r path number line window ms seen cache).1.map Finding.unquoted =
        (e.windowFindings r path number line window ms seen cache').1.map Finding.unquoted ∧
      (e.windowFindings r path number line window ms seen cache).2.1 =
        (e.windowFindings r path number line window ms seen cache').2.1 := by
  induction ms generalizing seen cache cache' with
  | nil => exact ⟨rfl, rfl⟩
  | cons m ms ih =>
      unfold windowFindings
      simp only
      split
      · exact ih seen cache cache'
      · obtain ⟨hfindings, hseen⟩ := ih (reportedStart r m :: seen)
          (e.cachedSecrets number line window cache).2 (e.cachedSecrets number line window cache').2
        refine ⟨?_, hseen⟩
        rw [List.map_cons, List.map_cons, hfindings]
        rfl

/-- Nor do those of a line, or the time that they take. -/
theorem lineFindings_alike (number : Nat) (line : List Char) (windows : List Span)
    (seen : List Nat) (clock : Clock) (cache cache' : SecretCache) :
    Alike (e.lineFindings r path deadline number line windows seen ⟨clock, cache⟩)
      (e.lineFindings r path deadline number line windows seen ⟨clock, cache'⟩) := by
  induction windows generalizing seen clock cache cache' with
  | nil => exact ⟨rfl, rfl⟩
  | cons window windows ih =>
      unfold lineFindings
      simp only
      by_cases hlate : (deadline.plus (-clock.read.1)).atMost 0 = true
      · rw [if_pos hlate, if_pos hlate]
        exact ⟨rfl, rfl⟩
      rw [if_neg hlate, if_neg hlate]
      by_cases hempty : window.start = window.stop
      · rw [if_pos hempty, if_pos hempty]
        exact ih seen clock.read.2 cache cache'
      rw [if_neg hempty, if_neg hempty]
      by_cases hstalled : e.stalled.contains r.id = true
      · rw [if_pos hstalled, if_pos hstalled]
        exact ⟨rfl, rfl⟩
      rw [if_neg hstalled, if_neg hstalled]
      obtain ⟨hfindings, hseen⟩ := windowFindings_unquoted e r path number line window
        (r.pattern.findAll line window.start window.stop) seen cache cache'
      rw [hseen]
      exact (ih _ clock.read.2 _ _).append hfindings

/-- Nor do those of the lines. -/
theorem linesFindings_alike (number : Nat) (lines : List (List Char)) (clock : Clock)
    (cache cache' : SecretCache) :
    Alike (e.linesFindings r path deadline number lines ⟨clock, cache⟩)
      (e.linesFindings r path deadline number lines ⟨clock, cache'⟩) := by
  induction lines generalizing number clock cache cache' with
  | nil => exact ⟨rfl, rfl⟩
  | cons line lines ih =>
      unfold linesFindings
      by_cases hsafe : (r.isSecret && !line.isEmpty && r.isSafeLine line) = true
      · rw [if_pos hsafe, if_pos hsafe]
        exact ih (number + 1) clock cache cache'
      rw [if_neg hsafe, if_neg hsafe]
      cases windows? line.length e.maxLineLength windowOverlap with
      | none => exact ⟨rfl, rfl⟩
      | some windows =>
          have hline :=
            lineFindings_alike e r path deadline number line windows [] clock cache cache'
          simp only
          generalize e.lineFindings r path deadline number line windows [] ⟨clock, cache⟩ = out,
            e.lineFindings r path deadline number line windows [] ⟨clock, cache'⟩ = out' at hline
          obtain ⟨res, clock₁, cache₁⟩ := out
          obtain ⟨res', clock₂, cache₂⟩ := out'
          obtain ⟨hfound, hclock⟩ := hline
          simp only at hfound hclock
          subst hclock
          cases res <;> cases res' <;> simp only [Except.map, Except.error.injEq, Except.ok.injEq,
            reduceCtorEq] at hfound
          · exact ⟨congrArg Except.error hfound, rfl⟩
          · exact (ih (number + 1) clock₁ cache₁ cache₂).append hfound

/-- **What is in the cache shows in the snippets only.** -/
theorem evaluate_alike (lines : List (List Char)) (clock : Clock) (cache cache' : SecretCache) :
    Alike (e.evaluate r path lines ⟨clock, cache⟩) (e.evaluate r path lines ⟨clock, cache'⟩) :=
  linesFindings_alike e r path _ 1 lines clock.read.2 cache cache'

end

/-! ## Findings and hits -/

/-- A finding reports a hit of a rule, whatever its snippet shows. -/
structure Reports (r : Rule) (path : String) (f : Finding) (h : Hit) : Prop where
  ruleId : f.ruleId = r.id
  path : f.path = path
  line : f.line = h.number
  column : f.column = byteColumn h.line (reportedStart r h.found)

section

variable {e : Engine} {r : Rule} {path : String} {lines : List (List Char)} {sh : Shared}
  {fs : List Finding} {f : Finding} {h : Hit}

/-- A finding that differs in its snippet only reports the same hit. -/
theorem reports_of_unquoted (hf : f.unquoted = (e.findingAt r path h).unquoted) :
    Reports r path f h where
  ruleId := congrArg Finding.ruleId hf
  path := congrArg Finding.path hf
  line := congrArg Finding.line hf
  column := congrArg Finding.column hf

/-- What the evaluation finds is, but for the snippets, what each hit by itself is made into. -/
theorem unquoted_of_evaluate (hfs : (e.evaluate r path lines sh).1 = .ok fs) :
    fs.map Finding.unquoted =
      ((e.hits r lines).map (e.findingAt r path)).map Finding.unquoted := by
  obtain ⟨clock, cache⟩ := sh
  have hfound := (evaluate_alike e r path lines clock cache []).found
  obtain ⟨_, _, hev⟩ := evaluate_evaluated e r path lines ⟨clock, []⟩ (sound_nil e _)
  rw [hfs] at hfound
  cases hout : (e.evaluate r path lines ⟨clock, []⟩).1 with
  | error i => simp [hout, Except.map] at hfound
  | ok gs =>
      simp only [hout, Except.map, Except.ok.injEq] at hfound
      rw [hfound, hev.found gs hout]

/-- Every finding reports a hit. -/
theorem exists_hit_of_mem (hfs : (e.evaluate r path lines sh).1 = .ok fs) (hf : f ∈ fs) :
    ∃ h ∈ e.hits r lines, Reports r path f h := by
  have hmem : f.unquoted ∈ ((e.hits r lines).map (e.findingAt r path)).map Finding.unquoted :=
    unquoted_of_evaluate hfs ▸ List.mem_map_of_mem hf
  rw [List.map_map] at hmem
  obtain ⟨h, hh, heq⟩ := List.mem_map.mp hmem
  exact ⟨h, hh, reports_of_unquoted heq.symm⟩

/-- Every hit is reported by a finding. -/
theorem exists_mem_of_hit (hfs : (e.evaluate r path lines sh).1 = .ok fs)
    (hh : h ∈ e.hits r lines) : ∃ f ∈ fs, Reports r path f h := by
  have hmem : (e.findingAt r path h).unquoted ∈ fs.map Finding.unquoted := by
    rw [unquoted_of_evaluate hfs]
    exact List.mem_map_of_mem (List.mem_map_of_mem hh)
  obtain ⟨f, hf, heq⟩ := List.mem_map.mp hmem
  exact ⟨f, hf, reports_of_unquoted heq⟩

/-- With windows of at least one character only the time can run out. -/
theorem exists_ok_of_evaluate (hsize : 1 ≤ e.maxLineLength)
    (htime : ∀ n, (e.evaluate r path lines sh).1 ≠ .error (.overrun n)) :
    ∃ fs, (e.evaluate r path lines sh).1 = .ok fs := by
  obtain ⟨clock, cache⟩ := sh
  have hfound := (evaluate_alike e r path lines clock cache []).found
  obtain ⟨_, _, hev⟩ := evaluate_evaluated e r path lines ⟨clock, []⟩ (sound_nil e _)
  cases hout : (e.evaluate r path lines ⟨clock, cache⟩).1 with
  | ok fs => exact ⟨fs, rfl⟩
  | error i =>
      cases i with
      | overrun n => exact absurd hout (htime n)
      | stuckWindow =>
          rw [hout] at hfound
          refine absurd ?_ (hev.moving hsize)
          cases hout' : (e.evaluate r path lines ⟨clock, []⟩).1 <;>
            simp_all [Except.map]

end

/-! ## The hits of a line -/

section

variable {r : Rule} {number : Nat} {line : List Char} {m : Match}

/-- The places reported after a window are those from before and those of its hits. -/
theorem mem_seen_windowHits {window : Span} {ms : List Match} {seen : List Nat} {start : Nat}
    (hs : start ∈ (windowHits r number line window ms seen).2) :
    start ∈ seen ∨
      ∃ h ∈ (windowHits r number line window ms seen).1, reportedStart r h.found = start := by
  induction ms generalizing seen with
  | nil => exact .inl hs
  | cons m ms ih =>
      unfold windowHits at hs ⊢
      simp only at hs ⊢
      split at hs
      · next hseen =>
        rw [if_pos hseen]
        exact ih hs
      · next hseen =>
        rw [if_neg hseen]
        rcases ih hs with hold | ⟨h, hh, hstart⟩
        · rcases List.mem_cons.mp hold with rfl | hold
          · exact .inr ⟨_, List.mem_cons_self, rfl⟩
          · exact .inl hold
        · exact .inr ⟨h, List.mem_cons_of_mem _ hh, hstart⟩

/-- A column that is seen stays so. -/
theorem seen_subset_windowHits (window : Span) (ms : List Match) (seen : List Nat) :
    seen ⊆ (windowHits r number line window ms seen).2 := by
  induction ms generalizing seen with
  | nil => exact List.Subset.refl seen
  | cons m ms ih =>
      unfold windowHits
      simp only
      split
      · exact ih seen
      · exact List.Subset.trans (List.subset_cons_self _ seen) (ih _)

/-- Every match in a window is at a place that has been reported after it. -/
theorem reportedStart_mem_windowHits {window : Span} {ms : List Match} {seen : List Nat}
    (hm : m ∈ ms) : reportedStart r m ∈ (windowHits r number line window ms seen).2 := by
  induction ms generalizing seen with
  | nil => simp at hm
  | cons m' ms ih =>
      unfold windowHits
      simp only
      split
      · next hseen =>
        rcases List.mem_cons.mp hm with rfl | hm
        · exact seen_subset_windowHits window ms seen (List.contains_iff_mem.mp hseen)
        · exact ih hm
      · rcases List.mem_cons.mp hm with rfl | hm
        · exact seen_subset_windowHits window ms _ List.mem_cons_self
        · exact ih hm

/-- **Every place is reported once at least**: a match in a window is at a place that some hit of
the line reports, unless it has been reported before. -/
theorem exists_hit_of_mem_findAll {window : Span} {windows : List Span} {seen : List Nat}
    (hw : window ∈ windows) (hne : window.start ≠ window.stop)
    (hm : m ∈ r.pattern.findAll line window.start window.stop) :
    reportedStart r m ∈ seen ∨
      ∃ h ∈ lineHits r number line windows seen, reportedStart r h.found = reportedStart r m := by
  induction windows generalizing seen with
  | nil => simp at hw
  | cons w windows ih =>
      unfold lineHits
      simp only
      by_cases hempty : w.start = w.stop
      · rw [if_pos hempty]
        rcases List.mem_cons.mp hw with rfl | hw
        · exact absurd hempty hne
        · exact ih hw
      rw [if_neg hempty]
      -- Either way the place is among those reported after this window, or by a hit behind it.
      have hlater : reportedStart r m ∈ (windowHits r number line w
            (r.pattern.findAll line w.start w.stop) seen).2 ∨
          ∃ h ∈ lineHits r number line windows (windowHits r number line w
            (r.pattern.findAll line w.start w.stop) seen).2,
              reportedStart r h.found = reportedStart r m := by
        rcases List.mem_cons.mp hw with rfl | hw
        · exact .inl (reportedStart_mem_windowHits hm)
        · exact ih hw
      rcases hlater with hreported | ⟨h, hh, hstart⟩
      · rcases mem_seen_windowHits hreported with hold | ⟨h, hh, hstart⟩
        · exact .inl hold
        · exact .inr ⟨h, List.mem_append_left _ hh, hstart⟩
      · exact .inr ⟨h, List.mem_append_right _ hh, hstart⟩

/-- The hits of a file are those of its lines that are not passed over. -/
theorem mem_hitsFrom_iff {e : Engine} {lines : List (List Char)} {h : Hit} :
    h ∈ e.hitsFrom r number lines ↔ ∃ k line windows, lines[k]? = some line ∧
      passesOver r line = false ∧
      windows? line.length e.maxLineLength windowOverlap = some windows ∧
      h ∈ lineHits r (number + k) line windows [] := by
  induction lines generalizing number with
  | nil => simp [hitsFrom]
  | cons line lines ih =>
      unfold hitsFrom
      rw [List.mem_append, ih]
      constructor
      · rintro (hh | ⟨k, line', windows, hk, hrest⟩)
        · split at hh
          · simp at hh
          · next hover =>
            split at hh
            · simp at hh
            · next windows hwindows =>
              exact ⟨0, line, windows, rfl, Bool.not_eq_true _ ▸ hover, hwindows, hh⟩
        · rw [Nat.add_right_comm, Nat.add_assoc] at hrest
          exact ⟨k + 1, line', windows, hk, hrest⟩
      · rintro ⟨k, line', windows, hk, hover, hwindows, hh⟩
        cases k with
        | zero =>
            obtain rfl := Option.some.inj hk
            rw [hover, if_neg Bool.false_ne_true, hwindows]
            exact .inl hh
        | succ k =>
            rw [← Nat.add_assoc, Nat.add_right_comm] at hh
            exact .inr ⟨k, line', windows, hk, hover, hwindows, hh⟩

/-- A hit is one in a line that the rule does not pass over, from the windows of that line. -/
theorem mem_hits_iff {e : Engine} {lines : List (List Char)} {h : Hit} :
    h ∈ e.hits r lines ↔ ∃ k line windows, lines[k]? = some line ∧ passesOver r line = false ∧
      windows? line.length e.maxLineLength windowOverlap = some windows ∧
      h ∈ lineHits r (k + 1) line windows [] := by
  simp only [hits, mem_hitsFrom_iff, Nat.add_comm 1]

end

/-! ## Matches seen whole -/

/-- The characters that a match may have beyond the first one to be seen whole in a window: those
that windows share. -/
def reach (e : Engine) : Int := min windowOverlap (e.maxLineLength / 2)

/-- The texts of a kind in a line lie in its windows, each in one. -/
def Sees (e : Engine) (texts : Texts) (line : List Char) : Prop :=
  ∃ windows, windows? line.length e.maxLineLength windowOverlap = some windows ∧
    ∀ a b, StandsAt texts line a b → ∃ w ∈ windows, w.start ≤ a ∧ b ≤ w.stop

section

variable {e : Engine} {r : Rule} {texts : Texts} {lines : List (List Char)} {line : List Char}
  {k a : Nat} {h : Hit}

/-- A line that is not too long is seen as a whole. -/
theorem sees_of_length_le (hlength : (line.length : Int) ≤ e.maxLineLength) (texts : Texts) :
    e.Sees texts line :=
  ⟨_, windows?_eq_of_le hlength _, fun a _ hab =>
    ⟨_, List.mem_singleton_self _, Nat.zero_le a, hab.stop_le⟩⟩

/-- Texts that are short enough are seen in windows. -/
theorem sees_of_short (hsize : 1 ≤ e.maxLineLength)
    (hshort : ∀ t, texts t → (t.length : Int) ≤ e.reach + 1) (line : List Char) :
    e.Sees texts line := by
  have hsome : (windows? line.length e.maxLineLength windowOverlap).isSome :=
    windows?_isSome hsize line.length
  obtain ⟨windows, hwindows⟩ := Option.isSome_iff_exists.mp hsome
  refine ⟨windows, hwindows, fun a b hab => ?_⟩
  have hlen : (slice line a b).length = b - a := by
    have := hab.stop_le
    rw [slice, List.length_take, List.length_drop]
    omega
  have hle := hshort _ hab.text
  rw [hlen] at hle
  unfold reach at hle
  exact exists_mem_windows hwindows hsize (by decide) hab.stop_le (by omega)

theorem reportedStart_eq (hgroup : reportedGroup r = 0) (m : Match) :
    reportedStart r m = m.start := by
  rw [reportedStart, hgroup]
  rfl

variable (hfinds : r.pattern.Finds texts) (hgroup : reportedGroup r = 0)

include hfinds hgroup

/-- A hit is a text in its line, which is not one that is passed over. -/
theorem standsAt_of_hit (hline : lines[k]? = some line) (hh : h ∈ e.hits r lines)
    (hnumber : h.number = k + 1) :
    passesOver r line = false ∧ h.line = line ∧
      StandsAt texts line (reportedStart r h.found) h.found.stop := by
  obtain ⟨j, line', windows, hj, hover, hwindows, hh⟩ := mem_hits_iff.mp hh
  obtain ⟨w, hw, -, m, hm, rfl⟩ := mem_lineHits hh
  obtain rfl : j = k := Nat.succ.inj hnumber
  obtain rfl := Option.some.inj (hline.symm.trans hj)
  obtain ⟨hstart, hstop⟩ := stop_of_mem_windows hwindows hw
  have hall := hfinds.enumerates line w.start w.stop (by omega) (by omega)
  rw [reportedStart_eq hgroup]
  exact ⟨hover, rfl, hall.standsAt hm⟩

/-- **The leftmost text is reported** if what stands in the line is seen whole. -/
theorem exists_hit_of_leftmost (hsees : e.Sees texts line) (hline : lines[k]? = some line)
    (hover : passesOver r line = false) (hleft : Leftmost texts line a) :
    ∃ h ∈ e.hits r lines, h.number = k + 1 ∧ h.line = line ∧ reportedStart r h.found = a := by
  obtain ⟨windows, hwindows, hcover⟩ := hsees
  obtain ⟨b, hab⟩ := hleft.stands
  obtain ⟨w, hw, hlow, hhigh⟩ := hcover a b hab
  obtain ⟨hstart, hstop⟩ := stop_of_mem_windows hwindows hw
  have hall := hfinds.enumerates line w.start w.stop (by omega) (by omega)
  obtain ⟨m, hm, rfl⟩ := hall.exists_of_leftmost hleft hlow hab hhigh
  have hlt := hab.lt hfinds.nonempty
  have hreported : reportedStart r m ∈ [] ∨ ∃ h ∈ lineHits r (k + 1) line windows [],
      reportedStart r h.found = reportedStart r m :=
    exists_hit_of_mem_findAll hw (by omega) hm
  rcases hreported with hnil | ⟨h, hh, hsame⟩
  · simp at hnil
  · obtain ⟨w', -, -, m', -, rfl⟩ := mem_lineHits hh
    refine ⟨_, mem_hits_iff.mpr ⟨k, line, windows, hline, hover, hwindows, hh⟩, rfl, rfl, ?_⟩
    rw [hsame, reportedStart_eq hgroup]

end

/-! ## What is left on a line -/

/-- The columns of the findings that deduplication leaves on a line. -/
def keptColumns (number : Nat) (fs : List Finding) : List Nat :=
  ((deduplicate fs).filter (·.line = number)).map (·.column)

section

variable {e : Engine} {r : Rule} {path : String} {texts : Texts} {lines : List (List Char)}
  {line : List Char} {sh : Shared} {fs : List Finding} {k a : Nat}

/-- What deduplication leaves on a line of what a rule reports in a file is no more than one
finding, and none is further to the left. -/
theorem keptColumns_eq_of_least (hplace : ∀ f ∈ fs, f.ruleId = r.id ∧ f.path = path) {number : Nat}
    {f : Finding} (hf : f ∈ fs) (hnumber : f.line = number)
    (hleast : ∀ g ∈ fs, g.line = number → f.column ≤ g.column) :
    keptColumns number fs = [f.column] := by
  obtain ⟨hapart, hsubset, hcovers⟩ := represents_deduplicate fs
  obtain ⟨g, hg, hgf, hcolumn⟩ := hcovers f hf
  have hgline : g.line = number := (sameLine_iff.mp hgf).2.2.trans hnumber
  have hgcolumn : g.column = f.column := Nat.le_antisymm hcolumn (hleast g (hsubset hg) hgline)
  have hsame : ∀ x ∈ deduplicate fs, decide (x.line = number) = true → sameLine x g = true := by
    intro x hx hxline
    obtain ⟨hxrule, hxpath⟩ := hplace x (hsubset hx)
    obtain ⟨hgrule, hgpath⟩ := hplace g (hsubset hg)
    refine sameLine_iff.mpr ⟨hxrule.trans hgrule.symm, hxpath.trans hgpath.symm, ?_⟩
    exact (of_decide_eq_true hxline).trans hgline.symm
  have honly : (deduplicate fs).filter (·.line = number) = [g] :=
    hapart.filter_eq_singleton hg (decide_eq_true hgline) hsame
  rw [keptColumns, honly, List.map_singleton, hgcolumn]

theorem keptColumns_eq_nil {number : Nat} (hnone : ¬ ∃ f ∈ fs, f.line = number) :
    keptColumns number fs = [] := by
  have hempty : (deduplicate fs).filter (·.line = number) = [] := by
    refine List.filter_eq_nil_iff.mpr fun f hf hline => hnone ⟨f, ?_, by simpa using hline⟩
    exact (represents_deduplicate fs).subset hf
  rw [keptColumns, hempty, List.map_nil]

section

variable (hfinds : r.pattern.Finds texts) (hgroup : reportedGroup r = 0)

include hfinds hgroup

/-- A rule reports a line if a text stands in it, unless it passes over the line. -/
theorem exists_mem_iff (hsees : e.Sees texts line) (hline : lines[k]? = some line)
    (hfs : (e.evaluate r path lines sh).1 = .ok fs) :
    (∃ f ∈ fs, f.line = k + 1) ↔
      passesOver r line = false ∧ ∃ start stop, StandsAt texts line start stop := by
  constructor
  · rintro ⟨f, hf, hnumber⟩
    obtain ⟨h, hh, hreports⟩ := exists_hit_of_mem hfs hf
    obtain ⟨hover, -, hstands⟩ :=
      standsAt_of_hit hfinds hgroup hline hh (hreports.line.symm.trans hnumber)
    exact ⟨hover, _, _, hstands⟩
  · rintro ⟨hover, start, stop, hstands⟩
    obtain ⟨a, hleft⟩ := hstands.exists_leftmost
    obtain ⟨h, hh, hnumber, -⟩ := exists_hit_of_leftmost hfinds hgroup hsees hline hover hleft
    obtain ⟨f, hf, hreports⟩ := exists_mem_of_hit hfs hh
    exact ⟨f, hf, hreports.line.trans hnumber⟩

/-- **What deduplication leaves on a line is the leftmost text.** -/
theorem keptColumns_of_leftmost (hsees : e.Sees texts line) (hline : lines[k]? = some line)
    (hover : passesOver r line = false) (hfs : (e.evaluate r path lines sh).1 = .ok fs)
    (hleft : Leftmost texts line a) :
    keptColumns (k + 1) fs = [byteColumn line a] := by
  obtain ⟨h, hh, hnumber, hhline, hstart⟩ :=
    exists_hit_of_leftmost hfinds hgroup hsees hline hover hleft
  obtain ⟨f, hf, hreports⟩ := exists_mem_of_hit hfs hh
  have hcolumn : f.column = byteColumn line a := by rw [hreports.column, hhline, hstart]
  have hplace : ∀ g ∈ fs, g.ruleId = r.id ∧ g.path = path := fun g hg => by
    obtain ⟨h', -, hreports'⟩ := exists_hit_of_mem hfs hg
    exact ⟨hreports'.ruleId, hreports'.path⟩
  rw [← hcolumn]
  refine keptColumns_eq_of_least hplace hf (hreports.line.trans hnumber) fun g hg hgline => ?_
  obtain ⟨h', hh', hreports'⟩ := exists_hit_of_mem hfs hg
  obtain ⟨-, hline', hstands⟩ :=
    standsAt_of_hit hfinds hgroup hline hh' (hreports'.line.symm.trans hgline)
  rw [hcolumn, hreports'.column, hline']
  exact byteColumn_mono line (hleft.first _ _ hstands)

/-- Two engines that see what stands in a line leave the same column there. -/
theorem keptColumns_congr {e' : Engine} {sh' : Shared} {fs' : List Finding}
    (hline : lines[k]? = some line) (hsees : e.Sees texts line) (hsees' : e'.Sees texts line)
    (hfs : (e.evaluate r path lines sh).1 = .ok fs)
    (hfs' : (e'.evaluate r path lines sh').1 = .ok fs') :
    keptColumns (k + 1) fs = keptColumns (k + 1) fs' := by
  have hreported := exists_mem_iff hfinds hgroup hsees hline hfs
  have hreported' := exists_mem_iff hfinds hgroup hsees' hline hfs'
  by_cases h : passesOver r line = false ∧ ∃ start stop, StandsAt texts line start stop
  · obtain ⟨hover, start, stop, hstands⟩ := h
    obtain ⟨a, hleft⟩ := hstands.exists_leftmost
    rw [keptColumns_of_leftmost hfinds hgroup hsees hline hover hfs hleft,
      keptColumns_of_leftmost hfinds hgroup hsees' hline hover hfs' hleft]
  · rw [keptColumns_eq_nil fun hsome => h (hreported.mp hsome),
      keptColumns_eq_nil fun hsome => h (hreported'.mp hsome)]

end

/-- **Searching in windows keeps the place that is reported.** Let a rule report where its matches
start, let its pattern find the texts of a kind, and let these have no more than one character
beyond those that windows share. Then in whatever windows of at least one character a file is
searched, if the time does not run out, the rule reports a line exactly if a text stands in it,
unless it passes over the line; the one finding that deduplication leaves there has the column of
the leftmost text; and this is what is left if the line is searched as a whole. -/
theorem evaluate_keeps_place (hsize : 1 ≤ e.maxLineLength) (hgroup : reportedGroup r = 0)
    (hfinds : r.pattern.Finds texts) (hshort : ∀ t, texts t → (t.length : Int) ≤ e.reach + 1)
    (path : String) (lines : List (List Char)) (sh : Shared)
    (htime : ∀ n, (e.evaluate r path lines sh).1 ≠ .error (.overrun n)) :
    ∃ fs, (e.evaluate r path lines sh).1 = .ok fs ∧ ∀ k line, lines[k]? = some line →
      ((∃ f ∈ fs, f.line = k + 1) ↔
        passesOver r line = false ∧ ∃ start stop, StandsAt texts line start stop) ∧
      (∀ start, passesOver r line = false → Leftmost texts line start →
        keptColumns (k + 1) fs = [byteColumn line start]) ∧
      ∀ (wide : Engine) sh' fs', (line.length : Int) ≤ wide.maxLineLength →
        (wide.evaluate r path lines sh').1 = .ok fs' →
        keptColumns (k + 1) fs = keptColumns (k + 1) fs' := by
  obtain ⟨fs, hfs⟩ := exists_ok_of_evaluate hsize htime
  refine ⟨fs, hfs, fun k line hline => ?_⟩
  have hsees : e.Sees texts line := sees_of_short hsize hshort line
  refine ⟨exists_mem_iff hfinds hgroup hsees hline hfs, fun start hover hleft => ?_,
    fun wide sh' fs' hlength hfs' => ?_⟩
  · exact keptColumns_of_leftmost hfinds hgroup hsees hline hover hfs hleft
  · exact keptColumns_congr hfinds hgroup hline hsees (sees_of_length_le hlength texts) hfs hfs'

end

end Engine

namespace Sample

/-- A rule for the letter `z` twice. -/
def pair : Rule where
  id := "pair"
  category := .insecureCall
  severity := .low
  title := "Pair"
  pattern := ⟨"zz", .seq (("zz".toList.map fun c => .literal false false c.toNat).map .one), 0,
    false, false, .forward, false, false, false, some (.anyOf [122])⟩
  appliesTo := ["*"]
  exclude := []
  description := ""
  recommendation := ""
  secretGroup := 0
  safeLines := []

theorem pair_finds : pair.pattern.Finds (· = "zz".toList) := by
  have hspells : pair.pattern.Spells ("zz".toList.map fun c => .literal false false c.toNat) :=
    ⟨rfl, rfl, rfl, rfl⟩
  have htexts : spelledBy ("zz".toList.map fun c => .literal false false c.toNat) =
      (· = "zz".toList) :=
    funext fun t => propext spelledBy_literal_iff
  rw [← htexts]
  exact hspells.finds (by decide)

/-- A line in which it stands behind another letter, and twice. -/
def tripled : List Char := "yzzz".toList

theorem evaluate_keeps_place_tripled :
    ∃ fs, ((engine 9 2).evaluate pair "a.txt" [tripled] ⟨[], []⟩).1 = .ok fs ∧
      Engine.keptColumns 1 fs = [2] := by
  have hok : ((engine 9 2).evaluate pair "a.txt" [tripled] ⟨[], []⟩).1.isOk = true := by
    decide +kernel
  have hleft : Leftmost (· = "zz".toList) tripled 1 := by
    refine ⟨⟨3, by decide, by decide, by decide⟩, fun a b hab => ?_⟩
    by_contra hlt
    obtain rfl : a = 0 := by omega
    have htext := hab.text
    cases b <;> simp [slice, tripled] at htext
  obtain ⟨fs, hfs, hkept⟩ := Engine.evaluate_keeps_place (e := engine 9 2) (r := pair) (by decide)
    rfl pair_finds (fun t ht => by subst ht; decide) "a.txt" [tripled] ⟨[], []⟩ (fun n hn => by
      rw [hn] at hok
      exact Bool.false_ne_true hok)
  exact ⟨fs, hfs, (hkept 0 tripled rfl).2.1 1 rfl hleft⟩

end Sample

end SourceAudit

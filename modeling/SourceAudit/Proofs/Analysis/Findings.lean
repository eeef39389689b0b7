import SourceAudit.Proofs.Analysis.Windows

/-!
# SourceAudit.Proofs.Analysis.Findings

The findings of an evaluation one by one. An evaluation that comes to an end returns a finding for
each hit, in the order of the hits; what is in the cache decides only about the secrets with which
it is masked.

* `tells_of_evaluate` — the findings tell of the hits, one of each;
* `exists_ok_of_moving` — an evaluation comes to an end if its time and its windows do not end it;
* `filter_hits` — which of the hits are those of a line.
-/

namespace SourceAudit

open Number Line Pattern

namespace Engine

/-! ## A finding for each hit -/

/-- A finding tells of a hit, masked with some secrets. -/
def Tells (r : Rule) (path : String) (f : Finding) (h : Hit) : Prop :=
  ∃ secrets, f = findingOf r path h.number h.line h.window secrets h.found

section

variable {e : Engine} {r : Rule} {path : String} {deadline : Double} {number : Nat}
  {line : List Char} {seen : List Nat}

/-- The findings of a window tell of its hits, one of each and in order, and leave the same columns
seen. -/
theorem tells_of_windowFindings (e : Engine) (r : Rule) (path : String) (number : Nat)
    (line : List Char) (window : Span) (ms : List Match) (seen : List Nat) (cache : SecretCache) :
    List.Forall₂ (Tells r path) (e.windowFindings r path number line window ms seen cache).1
        (windowHits r number line window ms seen).1 ∧
      (e.windowFindings r path number line window ms seen cache).2.1 =
        (windowHits r number line window ms seen).2 := by
  induction ms generalizing seen cache with
  | nil => exact ⟨.nil, rfl⟩
  | cons m ms ih =>
      unfold windowFindings windowHits
      simp only
      split
      · exact ih seen cache
      · obtain ⟨htells, hseen⟩ :=
          ih (reportedStart r m :: seen) (e.cachedSecrets number line window cache).2
        exact ⟨.cons ⟨_, rfl⟩ htells, hseen⟩

/-- The findings of a line tell of its hits, window by window. -/
theorem tells_of_lineFindings {windows : List Span} {sh : Shared} {fs : List Finding}
    (h : (e.lineFindings r path deadline number line windows seen sh).1 = .ok fs) :
    List.Forall₂ (Tells r path) fs (lineHits r number line windows seen) := by
  induction windows generalizing seen sh fs with
  | nil =>
      unfold lineFindings at h
      obtain rfl := Except.ok.inj h
      exact .nil
  | cons window windows ih =>
      unfold lineFindings at h
      unfold lineHits
      simp only at h ⊢
      by_cases hlate : (deadline.plus (-sh.clock.read.1)).atMost 0 = true
      · rw [if_pos hlate] at h
        simp at h
      rw [if_neg hlate] at h
      by_cases hempty : window.start = window.stop
      · rw [if_pos hempty] at h ⊢
        exact ih h
      rw [if_neg hempty] at h ⊢
      by_cases hstalled : e.stalled.contains r.id = true
      · rw [if_pos hstalled] at h
        simp at h
      rw [if_neg hstalled] at h
      obtain ⟨htells, hseen⟩ := tells_of_windowFindings e r path number line window
        (r.pattern.findAll line window.start window.stop) seen sh.cache
      obtain ⟨rest, hrest⟩ := exists_ok_of_map h
      rw [hrest] at h
      obtain rfl := Except.ok.inj h
      rw [hseen] at hrest
      exact List.rel_append htells (ih hrest)

/-- The findings of the lines tell of their hits, line by line. -/
theorem tells_of_linesFindings {lines : List (List Char)} {sh : Shared} {fs : List Finding}
    (h : (e.linesFindings r path deadline number lines sh).1 = .ok fs) :
    List.Forall₂ (Tells r path) fs (e.hitsFrom r number lines) := by
  induction lines generalizing number sh fs with
  | nil =>
      unfold linesFindings at h
      obtain rfl := Except.ok.inj h
      exact .nil
  | cons line lines ih =>
      unfold linesFindings at h
      unfold hitsFrom passesOver
      simp only
      by_cases hsafe : (r.isSecret && !line.isEmpty && r.isSafeLine line) = true
      · rw [if_pos hsafe] at h ⊢
        rw [List.nil_append]
        exact ih h
      rw [if_neg hsafe] at h ⊢
      cases hwindows : windows? line.length e.maxLineLength windowOverlap with
      | none => simp [hwindows] at h
      | some windows =>
          simp only [hwindows] at h ⊢
          split at h
          · simp at h
          · next fs₁ sh₁ hout =>
            obtain ⟨rest, hrest⟩ := exists_ok_of_map h
            rw [hrest] at h
            obtain rfl := Except.ok.inj h
            exact List.rel_append (tells_of_lineFindings (congrArg Prod.fst hout)) (ih hrest)

/-- **A finding for each hit.** An evaluation that comes to an end returns one finding for each hit,
in the order of the hits. -/
theorem tells_of_evaluate {lines : List (List Char)} {sh : Shared} {fs : List Finding}
    (h : (e.evaluate r path lines sh).1 = .ok fs) :
    List.Forall₂ (Tells r path) fs (e.hits r lines) :=
  tells_of_linesFindings h

/-! ## Coming to an end -/

theorem error_of_map {ε α β : Type} {res : Except ε α} {f : α → β} {i : ε}
    (h : res.map f = .error i) : res = .error i := by
  cases res with
  | error j => exact congrArg Except.error (Except.error.inj h)
  | ok a => simp [Except.map] at h

/-- The windows of a line are there before it is searched. -/
theorem lineFindings_ne_stuck (windows : List Span) (seen : List Nat) (sh : Shared) :
    (e.lineFindings r path deadline number line windows seen sh).1 ≠ .error .stuckWindow := by
  induction windows generalizing seen sh with
  | nil => simp [lineFindings]
  | cons window windows ih =>
      unfold lineFindings
      simp only
      split
      · simp
      · split
        · exact ih _ _
        · split
          · simp
          · exact fun hstuck => ih _ _ (error_of_map hstuck)

/-- Windows make no progress only if those of one of the lines make none. -/
theorem exists_stuck_of_linesFindings {lines : List (List Char)} {sh : Shared}
    (h : (e.linesFindings r path deadline number lines sh).1 = .error .stuckWindow) :
    ∃ line ∈ lines, windows? line.length e.maxLineLength windowOverlap = none := by
  induction lines generalizing number sh with
  | nil => simp [linesFindings] at h
  | cons line lines ih =>
      have hrest : ∀ {number sh},
          (e.linesFindings r path deadline number lines sh).1 = .error .stuckWindow →
          ∃ l ∈ line :: lines, windows? l.length e.maxLineLength windowOverlap = none := by
        intro number sh hstuck
        obtain ⟨l, hl, hnone⟩ := ih hstuck
        exact ⟨l, List.mem_cons_of_mem line hl, hnone⟩
      unfold linesFindings at h
      split at h
      · exact hrest h
      · split at h
        · next hnone => exact ⟨line, List.mem_cons_self, hnone⟩
        · next windows hwindows =>
          split at h
          · next i sh' hout =>
            obtain rfl := Except.error.inj h
            exact absurd (congrArg Prod.fst hout) (lineFindings_ne_stuck windows [] sh)
          · exact hrest (error_of_map h)

/-- With windows that move forward in every line only the time can run out. -/
theorem exists_ok_of_moving {lines : List (List Char)} {sh : Shared}
    (hmoves : ∀ line ∈ lines, (windows? line.length e.maxLineLength windowOverlap).isSome)
    (htime : ∀ n, (e.evaluate r path lines sh).1 ≠ .error (.overrun n)) :
    ∃ fs, (e.evaluate r path lines sh).1 = .ok fs := by
  cases hout : (e.evaluate r path lines sh).1 with
  | ok fs => exact ⟨fs, rfl⟩
  | error i =>
      cases i with
      | overrun n => exact absurd hout (htime n)
      | stuckWindow =>
          obtain ⟨line, hline, hnone⟩ := exists_stuck_of_linesFindings hout
          have hsome := hmoves line hline
          rw [hnone] at hsome
          simp at hsome

/-! ## The hits of a line -/

/-- Matches at different places are all reported. -/
theorem windowHits_eq_map (number : Nat) (line : List Char) (window : Span) {ms : List Match}
    (hdistinct : (ms.map (reportedStart r)).Nodup)
    (hseen : ∀ m ∈ ms, reportedStart r m ∉ seen) :
    (windowHits r number line window ms seen).1 = ms.map fun m => ⟨number, line, window, m⟩ := by
  induction ms generalizing seen with
  | nil => rfl
  | cons m ms ih =>
      rw [List.map_cons, List.nodup_cons] at hdistinct
      have hnew : seen.contains (reportedStart r m) = false := by
        rw [← Bool.not_eq_true, List.contains_iff_mem]
        exact hseen m List.mem_cons_self
      unfold windowHits
      simp only
      rw [hnew, if_neg Bool.false_ne_true, List.map_cons, ih hdistinct.2]
      intro m' hm' hmem
      rcases List.mem_cons.mp hmem with heq | hmem
      · exact hdistinct.1 (heq ▸ List.mem_map_of_mem hm')
      · exact hseen m' (List.mem_cons_of_mem m hm') hmem

theorem number_of_mem_lineHits {windows : List Span} {h : Hit}
    (hh : h ∈ lineHits r number line windows seen) : h.number = number := by
  obtain ⟨_, _, _, _, _, rfl⟩ := mem_lineHits hh
  rfl

/-- The hits in a first line stand in front, and they have its number. -/
theorem hitsFrom_cons (e : Engine) (r : Rule) (number : Nat) (line : List Char)
    (lines : List (List Char)) :
    ∃ here, e.hitsFrom r number (line :: lines) = here ++ e.hitsFrom r (number + 1) lines ∧
      (∀ h ∈ here, h.number = number) ∧
      ∀ windows, passesOver r line = false →
        windows? line.length e.maxLineLength windowOverlap = some windows →
        here = lineHits r number line windows [] := by
  rw [hitsFrom]
  refine ⟨_, rfl, fun h hh => ?_, fun windows hover hwindows => ?_⟩
  · split at hh
    · simp at hh
    · split at hh
      · simp at hh
      · exact number_of_mem_lineHits hh
  · rw [hover, if_neg Bool.false_ne_true, hwindows]

/-- The hits of one line among all hits. -/
theorem filter_hitsFrom {lines : List (List Char)} {k : Nat} {windows : List Span}
    (hline : lines[k]? = some line) (hover : passesOver r line = false)
    (hwindows : windows? line.length e.maxLineLength windowOverlap = some windows) :
    (e.hitsFrom r number lines).filter (·.number = number + k) =
      lineHits r (number + k) line windows [] := by
  induction lines generalizing number k with
  | nil => simp at hline
  | cons line' lines ih =>
      obtain ⟨here, hcons, hfirst, hhere⟩ := hitsFrom_cons e r number line' lines
      have hrest : ∀ h ∈ e.hitsFrom r (number + 1) lines, number < h.number := by
        intro h hh
        obtain ⟨j, l, ws, -, -, -, hh⟩ := mem_hitsFrom_iff.mp hh
        rw [number_of_mem_lineHits hh]
        omega
      rw [hcons, List.filter_append]
      cases k with
      | zero =>
          obtain rfl := Option.some.inj hline
          have hnone : (e.hitsFrom r (number + 1) lines).filter (·.number = number + 0) = [] := by
            refine List.filter_eq_nil_iff.mpr fun h hh hnumber => ?_
            have := hrest h hh
            have := of_decide_eq_true hnumber
            omega
          rw [hnone, List.append_nil, List.filter_eq_self.mpr]
          · exact hhere windows hover hwindows
          · exact fun h hh => decide_eq_true (hfirst h hh)
      | succ k =>
          rw [List.filter_eq_nil_iff.mpr, List.nil_append, ← Nat.add_assoc, Nat.add_right_comm]
          · exact ih hline
          · intro h hh hnumber
            have := hfirst h hh
            have := of_decide_eq_true hnumber
            omega

/-- **The hits of a line** are those found in its windows, unless it is passed over. -/
theorem filter_hits {lines : List (List Char)} {k : Nat} {windows : List Span}
    (hline : lines[k]? = some line) (hover : passesOver r line = false)
    (hwindows : windows? line.length e.maxLineLength windowOverlap = some windows) :
    (e.hits r lines).filter (·.number = k + 1) = lineHits r (k + 1) line windows [] := by
  have hfilter : (e.hitsFrom r 1 lines).filter (·.number = 1 + k) =
      lineHits r (1 + k) line windows [] :=
    filter_hitsFrom hline hover hwindows
  rwa [Nat.add_comm 1 k] at hfilter

end

end Engine

end SourceAudit

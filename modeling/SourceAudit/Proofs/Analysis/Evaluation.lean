import Mathlib.Data.List.Forall2
import SourceAudit.Proofs.Analysis.Hits

/-!
# SourceAudit.Proofs.Analysis.Evaluation

What an evaluation of a rule comes to, and the analysis of a file by all of them. The rules of a
registry take their turns with one clock and one cache of secrets, and yet the analysis of a file is
put together from what each of them finds when it is alone.

* `evaluate_evaluated` — an evaluation that comes to an end returns the findings of the hits,
  whatever evaluations before it have left in the cache, and one that does not has a reason;
* `evaluate_eq_ok` — one that has the time comes to an end;
* `evaluate_unlimited` — one that comes to an end in its time returns what it would return without
  a limit and with nothing in the cache;
* `exists_hit_of_analyze` — the findings in a file are those of the hits of the rules for it;
* `analyze_isolated` — a rule contributes all that it finds alone and without a limit of time, or
  a single overrun, or nothing if it is not for the file.

Every evaluation keeps the cache sound, also one that is broken off, whatever becomes of each rule,
so that the cache can only repeat what a rule would search for itself. `Evaluated` carries this
through windows and lines together with what else holds of a part of an evaluation.
-/

namespace SourceAudit

open Number Line

namespace Clock

/-- What a clock may show from now on. -/
def readings (c : Clock) : List Rat := if c.isEmpty then [0] else c

theorem read_mem_readings (c : Clock) : c.read.1 ∈ c.readings := by
  match c with
  | [] => exact List.mem_singleton.mpr rfl
  | [t] => exact List.mem_singleton.mpr rfl
  | t :: u :: ts => exact List.mem_cons_self

theorem readings_read_subset (c : Clock) : c.read.2.readings ⊆ c.readings := by
  match c with
  | [] => exact List.Subset.refl _
  | [t] => exact List.Subset.refl _
  | t :: u :: ts => exact List.subset_cons_self t (u :: ts)

end Clock

namespace Engine

/-! ## Evaluations -/

/-- What holds of an evaluation of a rule, or of a part of one, that starts with a clock. -/
structure Evaluated (e : Engine) (r : Rule) (path : String) (lineAt : Nat → Option (List Char))
    (deadline : Double) (clock : Clock) (hits : List Hit)
    (out : Except Interruption (List Finding) × Shared) : Prop where
  /-- It leaves a sound cache, also when it is broken off. -/
  sound : e.Sound lineAt out.2.cache
  /-- It reads what the clock shows, and no other time. -/
  times : out.2.clock.readings ⊆ clock.readings
  /-- Having come to an end, it returns the findings of the hits. -/
  found : ∀ fs, out.1 = .ok fs → fs = hits.map (e.findingAt r path)
  /-- It is broken off for a search without end, or when the deadline has passed. -/
  late : ∀ n, out.1 = .error (.overrun n) →
    r.id ∈ e.stalled ∨ ∃ t ∈ clock.readings, (deadline.plus (-t)).atMost 0 = true
  /-- Windows of at least one character do not stand still. -/
  moving : 1 ≤ e.maxLineLength → out.1 ≠ .error .stuckWindow

section

variable {e : Engine} {r : Rule} {path : String} {lineAt : Nat → Option (List Char)}
  {deadline : Double} {clock clock' : Clock} {hits hits' : List Hit}
  {out out' : Except Interruption (List Finding) × Shared}

/-- An evaluation that began a little later began with a clock that shows no other times. -/
theorem Evaluated.of_later (h : e.Evaluated r path lineAt deadline clock' hits out)
    (hclock : clock'.readings ⊆ clock.readings) :
    e.Evaluated r path lineAt deadline clock hits out where
  sound := h.sound
  times := List.Subset.trans h.times hclock
  found := h.found
  late n hn := (h.late n hn).imp_right fun ⟨t, ht, hlate⟩ => ⟨t, hclock ht, hlate⟩
  moving := h.moving

/-- An evaluation goes on with more hits. -/
theorem Evaluated.append {fs : List Finding}
    (hfs : fs = hits.map (e.findingAt r path))
    (h : e.Evaluated r path lineAt deadline clock hits' out) :
    e.Evaluated r path lineAt deadline clock (hits ++ hits') (out.1.map (fs ++ ·), out.2) := by
  obtain ⟨res, sh⟩ := out
  refine ⟨h.sound, h.times, fun gs hgs => ?_, fun n hn => ?_, fun hsize hstuck => ?_⟩
  · cases res with
    | error i => simp [Except.map] at hgs
    | ok rest =>
      simp only [Except.map, Except.ok.injEq] at hgs
      rw [← hgs, hfs, h.found rest rfl, List.map_append]
  · cases res with
    | error i => exact h.late n hn
    | ok rest => simp [Except.map] at hn
  · cases res with
    | error i => exact h.moving hsize hstuck
    | ok rest => simp [Except.map] at hstuck

/-- An evaluation that is over before it has found anything. -/
theorem Evaluated.nil (sh : Shared) (h : e.Sound lineAt sh.cache) :
    e.Evaluated r path lineAt deadline sh.clock [] (.ok [], sh) where
  sound := h
  times := List.Subset.refl _
  found fs hfs := by
    simp only [Except.ok.injEq] at hfs
    rw [← hfs, List.map_nil]
  late n hn := by simp at hn
  moving _ hstuck := by simp at hstuck

/-- An evaluation that is broken off at a line. -/
theorem Evaluated.overrun (number : Nat) (sh : Shared) (h : e.Sound lineAt sh.cache)
    (hclock : sh.clock.readings ⊆ clock.readings)
    (hlate : r.id ∈ e.stalled ∨ ∃ t ∈ clock.readings, (deadline.plus (-t)).atMost 0 = true) :
    e.Evaluated r path lineAt deadline clock hits (.error (.overrun number), sh) where
  sound := h
  times := hclock
  found fs hfs := by simp at hfs
  late _ _ := hlate
  moving _ hstuck := by simp at hstuck

/-- What a line contributes. -/
theorem lineFindings_evaluated {number : Nat} {line : List Char}
    (hl : lineAt number = some line) (windows : List Span)
    (hw : ∀ w ∈ windows, w = e.windowAt line w.start) (seen : List Nat) (sh : Shared)
    (h : e.Sound lineAt sh.cache) :
    e.Evaluated r path lineAt deadline sh.clock (lineHits r number line windows seen)
      (e.lineFindings r path deadline number line windows seen sh) := by
  induction windows generalizing seen sh with
  | nil =>
      unfold lineFindings lineHits
      exact .nil sh h
  | cons window windows ih =>
      have hwindow := hw window List.mem_cons_self
      have hrest := fun w hmem => hw w (List.mem_cons_of_mem window hmem)
      have hread := Clock.readings_read_subset sh.clock
      unfold lineFindings lineHits
      simp only
      by_cases hlate : (deadline.plus (-sh.clock.read.1)).atMost 0 = true
      · rw [if_pos hlate]
        exact .overrun number _ h hread (.inr ⟨_, Clock.read_mem_readings sh.clock, hlate⟩)
      rw [if_neg hlate]
      by_cases hempty : window.start = window.stop
      · rw [if_pos hempty, if_pos hempty]
        exact (ih hrest seen ⟨sh.clock.read.2, sh.cache⟩ h).of_later hread
      rw [if_neg hempty, if_neg hempty]
      by_cases hstalled : e.stalled.contains r.id = true
      · rw [if_pos hstalled]
        exact .overrun number _ h hread (.inl (List.contains_iff_mem.mp hstalled))
      rw [if_neg hstalled]
      obtain ⟨hfindings, hseen, hcache⟩ := windowFindings_of_sound r path hl hwindow
        (r.pattern.findAll line window.start window.stop) seen h
      rw [hseen]
      exact ((ih hrest _ ⟨sh.clock.read.2, _⟩ hcache).of_later hread).append hfindings

/-- What the lines of a file contribute. -/
theorem linesFindings_evaluated (number : Nat) (lines : List (List Char))
    (hlines : Numbered lineAt number lines) (sh : Shared)
    (h : e.Sound lineAt sh.cache) :
    e.Evaluated r path lineAt deadline sh.clock (e.hitsFrom r number lines)
      (e.linesFindings r path deadline number lines sh) := by
  induction lines generalizing number sh with
  | nil =>
      unfold linesFindings hitsFrom
      exact .nil sh h
  | cons line lines ih =>
      unfold linesFindings hitsFrom passesOver
      simp only
      by_cases hsafe : (r.isSecret && !line.isEmpty && r.isSafeLine line) = true
      · rw [if_pos hsafe, if_pos hsafe, List.nil_append]
        exact ih (number + 1) hlines.tail sh h
      rw [if_neg hsafe, if_neg hsafe]
      cases hwindows : windows? line.length e.maxLineLength windowOverlap with
      | none =>
          refine ⟨h, List.Subset.refl _, fun fs hfs => by simp at hfs, fun n hn => by simp at hn,
            fun hsize => ?_⟩
          have hsome : (windows? line.length e.maxLineLength windowOverlap).isSome :=
            windows?_isSome hsize line.length
          rw [hwindows] at hsome
          simp at hsome
      | some windows =>
          have hev : e.Evaluated r path lineAt deadline sh.clock (lineHits r number line windows [])
              (e.lineFindings r path deadline number line windows [] sh) :=
            lineFindings_evaluated hlines.head windows
              (fun w hw => eq_windowAt_of_mem_windows hwindows hw) [] sh h
          simp only
          split
          · next i sh' hout =>
            rw [hout] at hev
            exact ⟨hev.sound, hev.times, fun fs hfs => by simp at hfs, fun n hn => hev.late n hn,
              fun hsize hstuck => hev.moving hsize hstuck⟩
          · next fs sh' hout =>
            rw [hout] at hev
            exact ((ih (number + 1) hlines.tail sh' hev.sound).of_later hev.times).append
              (hev.found fs rfl)

/-- **What an evaluation comes to.** Whatever the clock shows and whatever earlier evaluations on
the same lines have left in the cache, the rule reports its hits or is broken off. -/
theorem evaluate_evaluated (e : Engine) (r : Rule) (path : String) (lines : List (List Char))
    (sh : Shared) (h : e.Sound (lineOf lines) sh.cache) :
    ∃ start ∈ sh.clock.readings, e.Evaluated r path (lineOf lines) (e.timeBudget.plus start)
      sh.clock (e.hits r lines) (e.evaluate r path lines sh) := by
  refine ⟨sh.clock.read.1, Clock.read_mem_readings sh.clock, ?_⟩
  have hlines := numbered_lineOf lines
  exact (linesFindings_evaluated 1 lines hlines ⟨sh.clock.read.2, sh.cache⟩ h).of_later
    (Clock.readings_read_subset sh.clock)

/-- A rule that has the time for all of its windows reports its hits. -/
theorem evaluate_eq_ok {e : Engine} {r : Rule} {lines : List (List Char)} {sh : Shared}
    (hsize : 1 ≤ e.maxLineLength) (hsound : e.Sound (lineOf lines) sh.cache)
    (hstalled : r.id ∉ e.stalled)
    (htime : ∀ start ∈ sh.clock.readings, ∀ now ∈ sh.clock.readings,
      ((e.timeBudget.plus start).plus (-now)).atMost 0 = false) (path : String) :
    (e.evaluate r path lines sh).1 = .ok ((e.hits r lines).map (e.findingAt r path)) := by
  obtain ⟨start, hstart, hev⟩ := evaluate_evaluated e r path lines sh hsound
  cases hout : (e.evaluate r path lines sh).1 with
  | ok fs => rw [hev.found fs hout]
  | error i =>
      cases i with
      | overrun n =>
          rcases hev.late n hout with hin | ⟨now, hnow, hlate⟩
          · exact absurd hin hstalled
          · rw [htime start hstart now hnow] at hlate
            simp at hlate
      | stuckWindow => exact absurd hout (hev.moving hsize)

end

/-! ## Without a limit of time -/

/-- The engine that gives its rules all the time they need. -/
def unlimited (e : Engine) : Engine := { e with timeBudget := .infinity false }

section

variable {e : Engine} {r : Rule} {path : String} {deadline : Double}

theorem exists_ok_of_map {ε α β : Type} {res : Except ε α} {f : α → β} {b : β}
    (h : res.map f = .ok b) : ∃ a, res = .ok a := by
  cases res with
  | error i => simp [Except.map] at h
  | ok a => exact ⟨a, rfl⟩

theorem findingAt_unlimited (e : Engine) (r : Rule) (path : String) :
    e.unlimited.findingAt r path = e.findingAt r path := rfl

theorem hits_unlimited (e : Engine) (r : Rule) (lines : List (List Char)) :
    e.unlimited.hits r lines = e.hits r lines := by
  unfold hits
  generalize 1 = number
  induction lines generalizing number with
  | nil => rfl
  | cons line lines ih =>
      unfold hitsFrom
      rw [ih]
      rfl

/-- A line that a rule gets through in some time it gets through without a limit. -/
theorem lineFindings_unlimited {number : Nat} {line : List Char} {windows : List Span}
    {seen : List Nat} {sh : Shared} {fs : List Finding}
    (h : (e.lineFindings r path deadline number line windows seen sh).1 = .ok fs)
    (seen' : List Nat) (sh' : Shared) :
    ∃ fs', (e.unlimited.lineFindings r path (.infinity false) number line windows seen' sh').1 =
      .ok fs' := by
  induction windows generalizing seen sh fs seen' sh' with
  | nil => exact ⟨[], rfl⟩
  | cons window windows ih =>
      unfold lineFindings at h ⊢
      have hnever : ¬((Double.infinity false).plus (-sh'.clock.read.1)).atMost 0 = true := by
        simp [Double.plus, Double.atMost]
      simp only at h ⊢
      rw [if_neg hnever]
      by_cases hlate : (deadline.plus (-sh.clock.read.1)).atMost 0 = true
      · rw [if_pos hlate] at h
        simp at h
      rw [if_neg hlate] at h
      by_cases hempty : window.start = window.stop
      · rw [if_pos hempty] at h ⊢
        exact ih h seen' _
      rw [if_neg hempty] at h ⊢
      by_cases hstalled : e.stalled.contains r.id = true
      · rw [if_pos hstalled] at h
        simp at h
      rw [if_neg hstalled] at h
      have hstalled' : ¬e.unlimited.stalled.contains r.id = true := hstalled
      rw [if_neg hstalled']
      obtain ⟨rest, hrest⟩ := exists_ok_of_map h
      obtain ⟨rest', hrest'⟩ := ih hrest _ _
      exact ⟨_, by rw [hrest']; rfl⟩

/-- A rule that comes to an end in some time comes to an end without a limit. -/
theorem linesFindings_unlimited {number : Nat} {lines : List (List Char)} {sh : Shared}
    {fs : List Finding} (h : (e.linesFindings r path deadline number lines sh).1 = .ok fs)
    (sh' : Shared) :
    ∃ fs', (e.unlimited.linesFindings r path (.infinity false) number lines sh').1 = .ok fs' := by
  induction lines generalizing number sh fs sh' with
  | nil => exact ⟨[], rfl⟩
  | cons line lines ih =>
      unfold linesFindings at h ⊢
      by_cases hsafe : (r.isSecret && !line.isEmpty && r.isSafeLine line) = true
      · rw [if_pos hsafe] at h ⊢
        exact ih h sh'
      rw [if_neg hsafe] at h ⊢
      have hmax : e.unlimited.maxLineLength = e.maxLineLength := rfl
      rw [hmax]
      cases hwindows : windows? line.length e.maxLineLength windowOverlap with
      | none => simp [hwindows] at h
      | some windows =>
          simp only [hwindows] at h ⊢
          split at h
          · simp at h
          · next fs₁ sh₁ hout =>
            obtain ⟨rest, hrest⟩ := exists_ok_of_map h
            have hline : (e.lineFindings r path deadline number line windows [] sh).1 =
                .ok fs₁ := by
              rw [hout]
            obtain ⟨fs₂, hfs₂⟩ := lineFindings_unlimited hline [] sh'
            split
            · next i sh₂ hout' =>
              rw [hout'] at hfs₂
              simp at hfs₂
            · next gs sh₂ hout' =>
              obtain ⟨rest', hrest'⟩ := ih hrest sh₂
              exact ⟨_, by rw [hrest']; rfl⟩

/-- **Time decides only whether a rule reports.** A rule that comes to an end in its time finds what
it would find without a limit, from any clock and with nothing in the cache. -/
theorem evaluate_unlimited {lines : List (List Char)} {sh : Shared} {fs : List Finding}
    (hsound : e.Sound (lineOf lines) sh.cache) (h : (e.evaluate r path lines sh).1 = .ok fs)
    (clock : Clock) : (e.unlimited.evaluate r path lines ⟨clock, []⟩).1 = .ok fs := by
  obtain ⟨_, _, hev⟩ := evaluate_evaluated e r path lines sh hsound
  obtain ⟨_, _, hev'⟩ :=
    evaluate_evaluated e.unlimited r path lines ⟨clock, []⟩ (sound_nil e.unlimited _)
  obtain ⟨fs', hfs'⟩ := linesFindings_unlimited h ⟨clock.read.2, []⟩
  have hout : (e.unlimited.evaluate r path lines ⟨clock, []⟩).1 = .ok fs' := hfs'
  rw [hout, hev'.found fs' hout, hev.found fs h, hits_unlimited, findingAt_unlimited]

end

/-! ## The findings in a file -/

section

variable {e : Engine} {path : String} {lines : List (List Char)} {o : Outcome} {f : Finding}

/-- The findings of some rules are those of their hits. -/
theorem exists_hit_of_evaluateAll (rules : List Rule) {sh : Shared}
    (hsound : e.Sound (lineOf lines) sh.cache) (h : (e.evaluateAll path lines rules sh).1 = some o)
    (hf : f ∈ o.findings) : ∃ r ∈ rules, ∃ hit ∈ e.hits r lines, f = e.findingAt r path hit := by
  induction rules generalizing sh o with
  | nil =>
      obtain rfl := Option.some.inj h
      simp at hf
  | cons r rules ih =>
      obtain ⟨_, _, hev⟩ := evaluate_evaluated e r path lines sh hsound
      have hlater : ∀ {o'}, (e.evaluateAll path lines rules (e.evaluate r path lines sh).2).1 =
          some o' → f ∈ o'.findings →
            ∃ r' ∈ r :: rules, ∃ hit ∈ e.hits r' lines, f = e.findingAt r' path hit :=
        fun ho' hf' =>
          let ⟨r', hr', hhit⟩ := ih hev.sound ho' hf'
          ⟨r', List.mem_cons_of_mem r hr', hhit⟩
      rw [evaluateAll] at h
      rcases hout : e.evaluate r path lines sh with ⟨found, sh'⟩
      rw [hout] at h hev hlater
      cases found with
      | error i =>
          cases i with
          | stuckWindow => simp at h
          | overrun line =>
              obtain ⟨o', ho', rfl⟩ := Option.map_eq_some_iff.mp h
              exact hlater ho' hf
      | ok fs =>
          obtain ⟨o', ho', rfl⟩ := Option.map_eq_some_iff.mp h
          rcases List.mem_append.mp hf with hf | hf
          · rw [hev.found fs rfl] at hf
            obtain ⟨hit, hhit, rfl⟩ := List.mem_map.mp hf
            exact ⟨r, List.mem_cons_self, hit, hhit, rfl⟩
          · exact hlater ho' hf

/-- **The findings in a file** are those of the hits of the rules that are for it. -/
theorem exists_hit_of_analyze {file : SourceFile} {clock : Clock}
    (h : (e.analyze file clock).1 = some o) (hf : f ∈ o.findings) :
    ∃ r ∈ e.registry.applicable file.path, ∃ hit ∈ e.hits r (split file.content),
      f = e.findingAt r file.path hit :=
  exists_hit_of_evaluateAll _ (sound_nil e _) h hf

/-- **The findings in a file have its path.** -/
theorem path_of_analyze {file : SourceFile} {clock : Clock} (h : (e.analyze file clock).1 = some o)
    (hf : f ∈ o.findings) : f.path = file.path := by
  obtain ⟨r, -, hit, -, rfl⟩ := exists_hit_of_analyze h hf
  rfl

end

/-- What a rule contributes to the analysis of a file, when the clock shows these times. -/
inductive Contributes (e : Engine) (path : String) (lines : List (List Char)) (clock : Clock)
    (r : Rule) : Outcome → Prop
  /-- A rule that is not for the file contributes nothing. -/
  | inapplicable (h : r.applies path = false) : Contributes e path lines clock r ⟨[], []⟩
  /-- All that the rule finds alone, with all the time it needs and nothing in the cache. -/
  | findings (fs : List Finding) (h : r.applies path = true)
      (alone : ∀ clock', (e.unlimited.evaluate r path lines ⟨clock', []⟩).1 = .ok fs) :
      Contributes e path lines clock r ⟨fs, []⟩
  /-- An overrun, if one of its searches never ends or the clock shows that its time is over. -/
  | overrun (line : Nat) (h : r.applies path = true)
      (late : r.id ∈ e.stalled ∨ ∃ start ∈ clock.readings, ∃ now ∈ clock.readings,
        ((e.timeBudget.plus start).plus (-now)).atMost 0 = true) :
      Contributes e path lines clock r ⟨[], [⟨r.id, path, e.timeBudget, line⟩]⟩

/-- What one rule contributes, on whatever the rules before it have left. -/
theorem contributes_of_evaluate {e : Engine} {r : Rule} {path : String} {lines : List (List Char)}
    {clock : Clock} {sh : Shared} (happ : r.applies path = true)
    (hsound : e.Sound (lineOf lines) sh.cache) (hclock : sh.clock.readings ⊆ clock.readings) :
    (∀ fs, (e.evaluate r path lines sh).1 = .ok fs →
      e.Contributes path lines clock r ⟨fs, []⟩) ∧
    (∀ line, (e.evaluate r path lines sh).1 = .error (.overrun line) →
      e.Contributes path lines clock r ⟨[], [⟨r.id, path, e.timeBudget, line⟩]⟩) := by
  obtain ⟨start, hstart, hev⟩ := evaluate_evaluated e r path lines sh hsound
  refine ⟨fun fs hfs => .findings fs happ (evaluate_unlimited hsound hfs), fun line hline => ?_⟩
  refine .overrun line happ ((hev.late line hline).imp_right ?_)
  rintro ⟨now, hnow, hlate⟩
  exact ⟨start, hclock hstart, now, hclock hnow, hlate⟩

/-- What the rules contribute one after the other. -/
theorem evaluateAll_contributes {e : Engine} (hsize : 1 ≤ e.maxLineLength) (path : String)
    (lines : List (List Char)) (clock : Clock) (rules : List Rule) (sh : Shared)
    (hsound : e.Sound (lineOf lines) sh.cache) (hclock : sh.clock.readings ⊆ clock.readings) :
    ∃ parts, List.Forall₂ (e.Contributes path lines clock) rules parts ∧
      (e.evaluateAll path lines (rules.filter (·.applies path)) sh).1 =
        some ⟨parts.flatMap (·.findings), parts.flatMap (·.overruns)⟩ := by
  induction rules generalizing sh with
  | nil => exact ⟨[], .nil, rfl⟩
  | cons r rules ih =>
      by_cases happ : r.applies path = true
      · rw [List.filter_cons, if_pos happ]
        obtain ⟨_, _, hev⟩ := evaluate_evaluated e r path lines sh hsound
        obtain ⟨hfindings, hoverrun⟩ := contributes_of_evaluate happ hsound hclock
        have hrest := ih (e.evaluate r path lines sh).2 hev.sound
          (List.Subset.trans hev.times hclock)
        obtain ⟨parts, hparts, hout⟩ := hrest
        unfold evaluateAll
        cases hr : e.evaluate r path lines sh with
        | mk res sh' =>
            rw [hr] at hfindings hoverrun hev hout
            cases res with
            | ok fs => exact ⟨_, .cons (hfindings fs rfl) hparts, by simp [hout]⟩
            | error i =>
                cases i with
                | overrun line => exact ⟨_, .cons (hoverrun line rfl) hparts, by simp [hout]⟩
                | stuckWindow => exact absurd rfl (hev.moving hsize)
      · rw [List.filter_cons, if_neg happ]
        obtain ⟨parts, hparts, hout⟩ := ih sh hsound hclock
        have happ' : r.applies path = false := Bool.not_eq_true _ |>.mp happ
        exact ⟨_, .cons (.inapplicable happ') hparts, by rw [hout]; rfl⟩

/-- **The rules are isolated.** The analysis of a file is the concatenation of one contribution for
each rule of the registry, in its order. -/
theorem analyze_isolated (e : Engine) (file : SourceFile) (clock : Clock)
    (h : 1 ≤ e.maxLineLength) :
    ∃ parts, List.Forall₂ (e.Contributes file.path (split file.content) clock)
        e.registry.rules parts ∧
      (e.analyze file clock).1 =
        some ⟨parts.flatMap (·.findings), parts.flatMap (·.overruns)⟩ :=
  evaluateAll_contributes h file.path (split file.content) clock e.registry.rules ⟨clock, []⟩
    (sound_nil e _) (List.Subset.refl _)

/-- One rule contributes a finding, and the other one, whose searches do not end, an overrun. -/
theorem analyze_isolated_sample :
    let e : Engine := { Sample.engine 9 4000 with stalled := ["mark"] }
    let file : SourceFile := ⟨".env", "key: abcdefghijkz".toUTF8.toList⟩
    ∃ parts, List.Forall₂ (e.Contributes file.path (split file.content) [3])
        e.registry.rules parts ∧
      (e.analyze file [3]).1 =
        some ⟨parts.flatMap (·.findings), parts.flatMap (·.overruns)⟩ ∧
      (parts.flatMap (·.findings)).map (fun f => (f.ruleId, f.line, f.column)) =
        [("token", 1, 6)] ∧
      parts.flatMap (·.overruns) = [⟨"mark", ".env", .finite 1, 1⟩] := by
  intro e file
  obtain ⟨parts, hparts, hout⟩ := analyze_isolated e file [3] (by decide)
  have hrun : (e.analyze file [3]).1.map (fun o =>
      (o.findings.map fun f => (f.ruleId, f.line, f.column), o.overruns)) =
        some ([("token", 1, 6)], [⟨"mark", ".env", .finite 1, 1⟩]) := by
    decide +kernel
  rw [hout] at hrun
  obtain ⟨hfindings, hoverruns⟩ := Prod.mk.inj (Option.some.inj hrun)
  exact ⟨parts, hparts, hout, hfindings, hoverruns⟩

end Engine

end SourceAudit

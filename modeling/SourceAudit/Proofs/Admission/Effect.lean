import SourceAudit.Proofs.Admission.Bound
import SourceAudit.Proofs.Admission.Reset

/-!
# SourceAudit.Proofs.Admission.Effect

What one attempt leaves behind. It meets the counter of its key; it adds one to it if it is
admitted, and leaves it alone if it is denied or gets no answer. So what a window has admitted is
known from the answers alone, whatever limits the attempts came with.

* `Counter.attempt_effect` — the three ways an attempt at a counter can go;
* `visits_met` — a run that starts with an attempt at a key, as a run at the counter it meets;
* `Counter.visits_lasting` — the attempts at a counter whose window is not over;
* `check_effect` — what one attempt does to the windows of a controller, and what the attempts after
  it make of them.
-/

namespace SourceAudit.Admission

open Number

/-- The counter that an attempt meets: that of the window which its key has when removal is done, or
else, if there is none or it is over, a new one. -/
def Controller.met (rounding : Rat → Rat) (c : Controller) (now : Rat) (k : String) (d : Double) :
    Counter :=
  Counter.current rounding ((c.prune rounding now).windows[k]?.map Window.counter) now d

/-- The three ways an attempt at a counter can go: the answer, and the counter afterwards. -/
inductive Counter.Effect (rounding : Rat → Rat) (met : Counter) (p : Profile) :
    Except Failure Decision → Counter → Prop
  | admitted {d : Decision} (hallowed : d.allowed = true) (hroom : (met.used : Int) + 1 ≤ p.limit)
      (hremaining : (d.remaining : Int) = p.limit - (met.used + 1)) :
      Effect rounding met p (.ok d) ⟨met.used + 1, met.since⟩
  | denied {d : Decision} (hdenied : d.allowed = false) (hfull : p.limit ≤ met.used) :
      Effect rounding met p (.ok d) met
  | failed {f : Failure}
      (hcause : f = .negativeLimit ∧ p.limit < 0 ∨ ∃ cause, f = .unrepresentable cause ∧
        Controller.endOf rounding met.since p.duration = .error cause) :
      Effect rounding met p (.error f) met

section

variable {rounding : Rat → Rat} {p : Profile}

/-! ## One attempt -/

theorem Counter.attempt_effect (rounding : Rat → Rat) (met : Counter) (p : Profile) :
    met.Effect rounding p (met.attempt rounding p).1 (met.attempt rounding p).2 := by
  rw [Counter.attempt]
  cases hend : Controller.endOf rounding met.since p.duration with
  | error cause => exact .failed (.inr ⟨cause, rfl, hend⟩)
  | ok resetAt =>
      by_cases hroom : (met.used : Int) < p.limit
      · simp only [if_pos hroom]
        exact .admitted rfl (by omega) (by simp only; omega)
      · by_cases hlimit : p.limit < 0
        · simp only [if_neg hroom, if_pos hlimit]
          exact .failed (.inl ⟨rfl, hlimit⟩)
        · simp only [if_neg hroom, if_neg hlimit]
          exact .denied rfl (Int.not_lt.mp hroom)

/-- An attempt adds one to the counter exactly if it is admitted. -/
theorem Counter.Effect.after_eq {met after : Counter} {answer : Except Failure Decision}
    (h : met.Effect rounding p answer after) (a : Attempt) (counter : Option Counter) :
    after = ⟨met.used + [(⟨a, answer, counter⟩ : Visit)].countP Visit.admitted, met.since⟩ := by
  cases h with
  | admitted hallowed => simp [Visit.admitted, hallowed]
  | denied hdenied => simp [Visit.admitted, hdenied]
  | failed => simp [Visit.admitted]

/-- The counter that is met is not over, or it has just been started: an attempt at the same moment
would meet it again. -/
theorem Counter.current_current (held : Option Counter) (now : Rat) (d : Double) :
    Counter.current rounding (some (Counter.current rounding held now d)) now d =
      Counter.current rounding held now d := by
  cases held with
  | none => simp [Counter.current]
  | some c =>
      by_cases hover : d.atMost (rounding (now - c.since)) = true <;>
        simp [Counter.current, hover]

/-! ## Runs -/

/-- A run of attempts that starts with one at a key, as a run at the counter which it meets. -/
theorem visits_met (hr : Monotone rounding) (c : Controller) (a : Attempt) {later : List Attempt}
    (hclock : later.Pairwise (·.now ≤ ·.now))
    (hduration : ∀ b ∈ later, b.key = a.key → b.profile.duration = a.profile.duration) :
    visitsOf a.key (c.visits rounding (a :: later)) =
      Counter.visits rounding (some (c.met rounding a.now a.key a.profile.duration))
        (a :: later.filter (·.key = a.key)) := by
  have hsame : ∀ b ∈ later.filter (·.key = a.key), b.profile.duration = a.profile.duration := by
    intro b hb
    obtain ⟨hmem, hkey⟩ := List.mem_filter.mp hb
    exact hduration b hmem (by simpa using hkey)
  have hwindow := windows_check_self rounding c a.now a.key a.profile
  have hrest : visitsOf a.key ((c.check rounding a.now a.key a.profile).2.visits rounding later) =
      Counter.visits rounding
        (some ((c.met rounding a.now a.key a.profile.duration).attempt rounding a.profile).2)
        (later.filter (·.key = a.key)) := by
    refine visits_eq hr a.key later hclock ?_ ?_
    · refine List.pairwise_of_forall_mem_list fun b hb b' hb' => ?_
      rw [hsame b hb, hsame b' hb']
      exact .refl _
    · rw [hwindow]
      refine ⟨fun _ _ => rfl, fun w hw b hb => ?_⟩
      obtain rfl := Option.some.inj hw
      rw [hsame b hb]
      exact .refl _
  have hanswer : (c.check rounding a.now a.key a.profile).1 =
      ((c.met rounding a.now a.key a.profile.duration).attempt rounding a.profile).1 := by
    rw [check_eq]
    rfl
  rw [Counter.visits, show Counter.current rounding
      (some (c.met rounding a.now a.key a.profile.duration)) a.now a.profile.duration =
        c.met rounding a.now a.key a.profile.duration from Counter.current_current ..]
  simp only [Controller.visits, visitsOf, List.filter_cons, decide_true, if_true]
  rw [hwindow, hanswer]
  exact congrArg _ hrest

/-- **The attempts at a counter whose window is not over**: each one meets what was used before,
and one more for every attempt that has been admitted since. -/
theorem Counter.visits_lasting (hr : Monotone rounding) {d : Double} {as : List Attempt}
    (hclock : as.Pairwise (·.now ≤ ·.now)) (hduration : ∀ a ∈ as, a.profile.duration = d)
    {held : Counter} {before after : List Visit} {v : Visit}
    (hvisits : Counter.visits rounding (some held) as = before ++ v :: after)
    (hlasts : d.atMost (rounding (v.attempt.now - held.since)) = false) :
    v.answer = ((⟨held.used + before.countP Visit.admitted, held.since⟩ : Counter).attempt rounding
      v.attempt.profile).1 ∧
    v.counter = some ⟨held.used + (before ++ [v]).countP Visit.admitted, held.since⟩ := by
  induction before generalizing held as with
  | nil =>
      cases as with
      | nil => simp [Counter.visits] at hvisits
      | cons a as =>
          rw [Counter.visits, List.nil_append, List.cons.injEq] at hvisits
          obtain ⟨rfl, -⟩ := hvisits
          obtain ⟨rfl, -⟩ := List.forall_mem_cons.mp hduration
          simp only at hlasts ⊢
          rw [current_of_not_isOver hlasts]
          have heffect := (Counter.attempt_effect rounding held a.profile).after_eq
          exact ⟨rfl, congrArg some (heffect a _)⟩
  | cons u before ih =>
      cases as with
      | nil => simp [Counter.visits] at hvisits
      | cons a as =>
          obtain ⟨hafter, hclock⟩ := List.pairwise_cons.mp hclock
          obtain ⟨rfl, hduration⟩ := List.forall_mem_cons.mp hduration
          rw [Counter.visits, List.cons_append, List.cons.injEq] at hvisits
          obtain ⟨rfl, hvisits⟩ := hvisits
          have hmem : v.attempt ∈ as := by
            have hattempts := congrArg (List.map Visit.attempt) hvisits
            rw [attempts_visits, List.map_append, List.map_cons] at hattempts
            simp [hattempts]
          -- A window that is not over at an attempt is not over at the ones before it.
          have hfirst : held.isOver rounding a.profile a.now = false := by
            rw [← Bool.not_eq_true] at hlasts ⊢
            intro hover
            exact hlasts (atMost_mono (hr (sub_le_sub_right (hafter _ hmem) _)) hover)
          rw [current_of_not_isOver hfirst] at hvisits ⊢
          have hsum : ∀ visits : List Visit,
              held.used + List.countP Visit.admitted (⟨a, (held.attempt rounding a.profile).1,
                some (held.attempt rounding a.profile).2⟩ :: visits) =
              (held.attempt rounding a.profile).2.used + visits.countP Visit.admitted := by
            intro visits
            have heffect := (Counter.attempt_effect rounding held a.profile).after_eq
              a (some (held.attempt rounding a.profile).2)
            rw [congrArg Counter.used heffect, ← List.singleton_append, List.countP_append,
              Nat.add_assoc]
          have hrest := ih hclock hduration hvisits (by rw [since_attempt]; exact hlasts)
          rw [since_attempt] at hrest
          rw [List.cons_append, hsum, hsum]
          exact hrest

end

/-- **The effect of one attempt.** Let an attempt be made at any controller, and let `met` be the
counter of the window that its key has when removal is done, or a new one if there is none or it is
over. Then

* an attempt that is admitted is counted, within the limit, and its answer tells what is left;
* one that is denied meets a full counter, and neither count nor start of the window change;
* one that gets no answer, because its limit is below zero or the window has no end in the calendar,
  is not counted;
* the window of any other key is unchanged, or it was over and is removed;
* of the attempts that follow, let those at the key have the same duration, under any limits. Each
  one that comes before the window is over is answered as an attempt at the counter of all that was
  used before it: `met`, and one for every attempt admitted since. -/
theorem check_effect (c : Controller) (now : Rat) (k : String) (p : Profile) :
    let met := c.met Binary64.round now k p.duration
    let (answer, after) := c.check Binary64.round now k p
    let holds (used : Nat) := after.windows[k]? = some ⟨used, met.since, p.duration⟩
    (∀ d, answer = .ok d → d.allowed = true →
      holds (met.used + 1) ∧ (met.used : Int) + 1 ≤ p.limit ∧
        (d.remaining : Int) = p.limit - (met.used + 1)) ∧
    (∀ d, answer = .ok d → d.allowed = false → holds met.used ∧ p.limit ≤ met.used) ∧
    (∀ f, answer = .error f → holds met.used ∧
      (f = .negativeLimit ∧ p.limit < 0 ∨ ∃ cause, f = .unrepresentable cause ∧
        Controller.endOf Binary64.round met.since p.duration = .error cause)) ∧
    (∀ k', k' ≠ k → after.windows[k']? = c.windows[k']? ∨
      ∃ w, c.windows[k']? = some w ∧ w.isOver Binary64.round now = true ∧
        after.windows[k']? = none) ∧
    ∀ later : List Attempt, (⟨k, now, p⟩ :: later).Pairwise (·.now ≤ ·.now) →
      (∀ a ∈ later, a.key = k → a.profile.duration = p.duration) →
      ∀ visited v rest,
        visitsOf k (c.visits Binary64.round (⟨k, now, p⟩ :: later)) = visited ++ v :: rest →
        p.duration.atMost (Binary64.round (v.attempt.now - met.since)) = false →
        v.answer = ((⟨met.used + visited.countP Visit.admitted, met.since⟩ : Counter).attempt
          Binary64.round v.attempt.profile).1 ∧
        v.counter = some ⟨met.used + (visited ++ [v]).countP Visit.admitted, met.since⟩ := by
  intro met
  have heffect := Counter.attempt_effect Binary64.round met p
  have hself := windows_check_self Binary64.round c now k p
  have hanswer : (c.check Binary64.round now k p).1 = (met.attempt Binary64.round p).1 := by
    rw [check_eq]
    rfl
  have hother : ∀ k', k' ≠ k → (c.check Binary64.round now k p).2.windows[k']? =
      (c.prune Binary64.round now).windows[k']? :=
    fun k' hne => windows_check_of_ne c now (Ne.symm hne) p
  simp only at hself
  change _ = some (⟨(met.attempt Binary64.round p).2.used, (met.attempt Binary64.round p).2.since,
    p.duration⟩ : Window) at hself
  simp only [hanswer, hself]
  refine ⟨fun d hd hallowed => ?_, fun d hd hdenied => ?_, fun f hf => ?_, fun k' hne => ?_,
    fun later hclock hduration visited v rest hvisits hlasts => ?_⟩
  · generalize (met.attempt Binary64.round p).2 = after at heffect
    rw [hd] at heffect
    cases heffect with
    | admitted _ hroom hremaining => exact ⟨rfl, hroom, hremaining⟩
    | denied hdenied => simp [hdenied] at hallowed
  · generalize (met.attempt Binary64.round p).2 = after at heffect
    rw [hd] at heffect
    cases heffect with
    | admitted hallowed => simp [hdenied] at hallowed
    | denied _ hfull => exact ⟨rfl, hfull⟩
  · generalize (met.attempt Binary64.round p).2 = after at heffect
    rw [hf] at heffect
    cases heffect with
    | failed hcause => exact ⟨rfl, hcause⟩
  · rw [hother k' hne]
    exact windows_prune Binary64.round c now k'
  · have hlater := (List.pairwise_cons.mp hclock).2
    rw [visits_met Binary64.round_mono c ⟨k, now, p⟩ hlater hduration] at hvisits
    refine Counter.visits_lasting Binary64.round_mono (hclock.sublist
      (List.Sublist.cons_cons _ List.filter_sublist)) ?_ hvisits hlasts
    intro a ha
    rcases List.mem_cons.mp ha with rfl | ha
    · rfl
    · obtain ⟨hmem, hkey⟩ := List.mem_filter.mp ha
      exact hduration a hmem (by simpa using hkey)

namespace Sample

/-- An attempt at the key of an account. -/
def scan (now : Rat) (limit : Int) : Attempt := ⟨"scan:a", now, ⟨"scan", limit, .finite 86400⟩⟩

/-- An account with one scan a day goes over to three of them, after a scan and one that is denied.
The third attempt is the second one that is admitted. -/
theorem check_effect_upgrade :
    ∃ first second third,
      visitsOf "scan:a" ((Controller.start 0).visits Binary64.round
        [scan 10 1, ⟨"scan:b", 20, ⟨"scan", -1, .nan⟩⟩, scan 30 1, scan 40 3]) =
          [first, second] ++ third :: [] ∧
      third.answer = .ok ⟨true, 1, ⟨86410000000⟩, 3⟩ ∧ third.counter = some ⟨2, 10⟩ := by
  have hclock : [scan 10 1, ⟨"scan:b", 20, ⟨"scan", -1, .nan⟩⟩, scan 30 1, scan 40 3].Pairwise
      (·.now ≤ ·.now) := by
    simp [scan]
    norm_num
  have hduration : ∀ a ∈ [⟨"scan:b", 20, ⟨"scan", -1, .nan⟩⟩, scan 30 1, scan 40 3],
      a.key = "scan:a" → a.profile.duration = .finite 86400 := by
    simp [scan]
  have hvisits := visits_met Binary64.round_mono (Controller.start 0) (scan 10 1)
    (List.pairwise_cons.mp hclock).2 hduration
  have hfirst : (Controller.start 0).met Binary64.round (scan 10 1).now (scan 10 1).key
      (scan 10 1).profile.duration = ⟨0, 10⟩ := by
    simp [Controller.met, Controller.start, Controller.prune, pruneThreshold, Counter.current, scan]
  rw [hfirst] at hvisits
  have hat := hvisits.trans (show _ = [_, _] ++ _ :: [] from rfl)
  have hlast := (check_effect (Controller.start 0) (scan 10 1).now (scan 10 1).key
    (scan 10 1).profile).2.2.2.2 _ hclock hduration _ _ _ hat
  rw [hfirst] at hlast
  have hvalues := hlast (by decide +kernel)
  refine ⟨_, _, _, hat, hvalues.1.trans ?_, hvalues.2.trans ?_⟩ <;> decide +kernel

end Sample

end SourceAudit.Admission

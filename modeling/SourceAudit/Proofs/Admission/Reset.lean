import Mathlib.Data.List.Induction
import SourceAudit.Proofs.Admission.Counter

/-!
# SourceAudit.Proofs.Admission.Reset

What follows a denial. The window of a key that is denied an attempt is full, and it stays as it is
until it is over: further attempts are denied in the same way, and the first one after that starts a
new window.

* `window_of_denied` — the window that an attempt is denied by;
* `check_after` — the next attempt at such a window, after attempts at other keys;
* `visits_full` — the attempts at a full counter, up to the first one when it is over;
* `start_le_of_reachable` — windows start at readings of the clock;
* `denial_lasts` — in exact time a denial lasts until the end of the window that it names, and no
  longer.
-/

namespace SourceAudit.Admission

open Number

/-- The answer to an attempt that is denied. -/
def Profile.denial (p : Profile) (resetAt : Instant) : Decision :=
  ⟨false, 0, resetAt, p.limit.toNat⟩

/-- The answer to the first attempt in a window. -/
def Profile.firstOf (p : Profile) (resetAt : Instant) : Decision :=
  ⟨true, (p.limit - 1).toNat, resetAt, p.limit.toNat⟩

namespace Counter

/-- Is the window of a counter over at a moment, if it is as long as a profile has it? -/
def isOver (rounding : Rat → Rat) (c : Counter) (p : Profile) (now : Rat) : Bool :=
  p.duration.atMost (rounding (now - c.since))

/-- A counter admits no more attempts of a profile before the end of its window. -/
structure Full (rounding : Rat → Rat) (c : Counter) (p : Profile) (resetAt : Instant) : Prop where
  used : p.limit ≤ c.used
  ends : Controller.endOf rounding c.since p.duration = .ok resetAt

end Counter

/-- The states that a controller comes to by attempts whose clock never goes back, and what the
clock has shown at the last of them. -/
inductive Reachable (rounding : Rat → Rat) : Controller → Rat → Prop
  | start (now : Rat) : Reachable rounding (.start now) now
  | check {c : Controller} {last now : Rat} (h : Reachable rounding c last) (hclock : last ≤ now)
      (key : String) (p : Profile) : Reachable rounding (c.check rounding now key p).2 now

section

variable {rounding : Rat → Rat} {c : Controller} {p : Profile} {k : String} {now last : Rat}
  {resetAt : Instant}

/-! ## One attempt -/

theorem current_of_isOver {held : Counter} (h : held.isOver rounding p now = true) :
    Counter.current rounding (some held) now p.duration = ⟨0, now⟩ := if_pos h

theorem current_of_not_isOver {held : Counter} (h : held.isOver rounding p now = false) :
    Counter.current rounding (some held) now p.duration = held :=
  if_neg (by rw [Counter.isOver] at h; simp [h])

/-- An attempt at a full counter is denied and changes nothing. -/
theorem Counter.Full.attempt {held : Counter} (h : held.Full rounding p resetAt)
    (hlimit : 0 < p.limit) : held.attempt rounding p = (.ok (p.denial resetAt), held) := by
  have hfull : ¬ (held.used : Int) < p.limit := Int.not_lt.mpr h.used
  have hsome : ¬ p.limit < 0 := by omega
  rw [Counter.attempt, h.ends]
  simp only [if_neg hfull, if_neg hsome, Profile.denial]

/-- The first attempt in a window is admitted. -/
theorem attempt_fresh (hlimit : 0 < p.limit)
    (hend : Controller.endOf rounding now p.duration = .ok resetAt) :
    ((⟨0, now⟩ : Counter).attempt rounding p).1 = .ok (p.firstOf resetAt) := by
  rw [Counter.attempt, hend]
  simp [hlimit, Profile.firstOf]

/-- A counter that denies an attempt is full. -/
theorem full_of_attempt {held : Counter} {d : Decision}
    (h : (held.attempt rounding p).1 = .ok d) (hdenied : d.allowed = false) :
    held.Full rounding p d.resetAt := by
  unfold Counter.attempt at h
  split at h
  · simp at h
  · next resetAt hend =>
    split at h
    · obtain rfl := Except.ok.inj h
      simp at hdenied
    · next hfull =>
      split at h
      · simp at h
      · obtain rfl := Except.ok.inj h
        exact ⟨Int.not_lt.mp hfull, hend⟩

/-- Removal leaves a window that is not over. -/
theorem windows_prune_of_lasting {w : Window} (hw : c.windows[k]? = some w)
    (h : w.isOver rounding now = false) : (c.prune rounding now).windows[k]? = some w := by
  rcases windows_prune rounding c now k with hsame | ⟨w', hw', hover, -⟩
  · rw [hsame, hw]
  · obtain rfl := Option.some.inj (hw.symm.trans hw')
    simp [h] at hover

/-- **The window that an attempt is denied by** is full and not over, and it is kept. -/
theorem window_of_denied {d : Decision} (hlimit : 0 < p.limit)
    (h : (c.check rounding now k p).1 = .ok d) (hdenied : d.allowed = false) :
    ∃ w, c.windows[k]? = some w ∧ w.counter.isOver rounding p now = false ∧
      w.counter.Full rounding p d.resetAt ∧
      (c.check rounding now k p).2.windows[k]? = some { w with duration := p.duration } ∧
      d = p.denial d.resetAt := by
  have hafter := windows_check_self rounding c now k p
  rw [check_eq] at h
  simp only at h hafter
  have hfull := full_of_attempt h hdenied
  rw [hfull.attempt hlimit] at h hafter
  have hanswer := Except.ok.inj h
  -- The counter that is met is none that has just been started.
  cases hw : (c.prune rounding now).windows[k]? with
  | none =>
      have hused := hfull.used
      rw [hw] at hused
      simp only [Option.map_none, Counter.current] at hused
      omega
  | some w =>
      rw [hw] at hfull hafter
      simp only [Option.map_some] at hfull hafter
      cases hover : w.counter.isOver rounding p now with
      | true =>
          have hused := hfull.used
          rw [current_of_isOver hover] at hused
          simp only at hused
          omega
      | false =>
          rw [current_of_not_isOver hover] at hfull hafter
          have hheld : c.windows[k]? = some w := by
            rcases windows_prune rounding c now k with hsame | ⟨_, -, -, hnone⟩
            · rw [← hsame, hw]
            · rw [hnone] at hw
              simp at hw
          exact ⟨w, hheld, hover, hfull, hafter, hanswer.symm⟩

/-- An attempt is denied by a window that is full and not over. -/
theorem check_of_full {w : Window} (hlimit : 0 < p.limit) (hw : c.windows[k]? = some w)
    (hheld : w.isOver rounding now = false) (hlasts : w.counter.isOver rounding p now = false)
    (h : w.counter.Full rounding p resetAt) :
    (c.check rounding now k p).1 = .ok (p.denial resetAt) := by
  rw [check_eq]
  simp only [windows_prune_of_lasting hw hheld, Option.map_some]
  rw [current_of_not_isOver hlasts, h.attempt hlimit]

/-- An attempt at a key without a window, or with one that is over, is the first one in a window. -/
theorem check_of_over (hlimit : 0 < p.limit)
    (h : ∀ w, c.windows[k]? = some w → w.counter.isOver rounding p now = true) {t : Instant}
    (hend : Controller.endOf rounding now p.duration = .ok t) :
    (c.check rounding now k p).1 = .ok (p.firstOf t) := by
  have hmet : Counter.current rounding ((c.prune rounding now).windows[k]?.map Window.counter) now
      p.duration = ⟨0, now⟩ := by
    cases hw : (c.prune rounding now).windows[k]? with
    | none => rfl
    | some w =>
        rcases windows_prune rounding c now k with hsame | ⟨_, -, -, hnone⟩
        · exact current_of_isOver (h w (hsame ▸ hw))
        · simp [hnone] at hw
  rw [check_eq]
  simp only [hmet]
  exact attempt_fresh hlimit hend

/-! ## The next attempt -/

/-- The controller after a run of attempts. -/
def Controller.after (rounding : Rat → Rat) (c : Controller) (as : List Attempt) : Controller :=
  as.foldl (fun c a => (c.check rounding a.now a.key a.profile).2) c

/-- Attempts at other keys leave a window as it is, or remove it when it is over. -/
theorem windows_after (hr : Monotone rounding) {w : Window} (hw : c.windows[k]? = some w)
    {others : List Attempt} (hothers : ∀ a ∈ others, a.key ≠ k ∧ a.now ≤ now) :
    (c.after rounding others).windows[k]? = some w ∨
      (c.after rounding others).windows[k]? = none ∧ w.isOver rounding now = true := by
  induction others using List.reverseRecOn with
  | nil => exact Or.inl hw
  | append_singleton as a ih =>
      obtain ⟨hbefore, ha⟩ := List.forall_mem_append.mp hothers
      obtain ⟨hkey, hnow⟩ := ha a List.mem_cons_self
      rw [Controller.after, List.foldl_append, List.foldl_cons, List.foldl_nil,
        windows_check_of_ne _ _ hkey]
      have hheld := ih hbefore
      rw [Controller.after] at hheld
      generalize as.foldl (fun c a => (c.check rounding a.now a.key a.profile).2) c = c' at hheld
      rcases windows_prune rounding c' a.now k with hsame | ⟨w', hw', hover, hnone⟩
      · rwa [hsame]
      · right
        rcases hheld with hheld | ⟨-, hlast⟩
        · obtain rfl := Option.some.inj (hheld.symm.trans hw')
          exact ⟨hnone, atMost_mono (hr (sub_le_sub_right hnow _)) hover⟩
        · exact ⟨hnone, hlast⟩

/-- **The next attempt at a full window** is admitted exactly if the window is over. -/
theorem check_after (hr : Monotone rounding) (hlimit : 0 < p.limit) {w : Window}
    (hw : c.windows[k]? = some w) (hduration : w.duration = p.duration)
    (h : w.counter.Full rounding p resetAt) {others : List Attempt}
    (hothers : ∀ a ∈ others, a.key ≠ k ∧ a.now ≤ now) {t : Instant}
    (hend : Controller.endOf rounding now p.duration = .ok t) :
    ((c.after rounding others).check rounding now k p).1 =
      .ok (if w.counter.isOver rounding p now then p.firstOf t else p.denial resetAt) := by
  have hsame : w.isOver rounding now = w.counter.isOver rounding p now := by
    rw [Window.isOver, Counter.isOver, hduration]
    rfl
  rcases windows_after hr hw hothers with hheld | ⟨hnone, hover⟩
  · cases hover : w.counter.isOver rounding p now with
    | false => exact check_of_full hlimit hheld (hsame.trans hover) hover h
    | true =>
        refine check_of_over hlimit (fun w' hw' => ?_) hend
        obtain rfl := Option.some.inj (hheld.symm.trans hw')
        exact hover
  · rw [← hsame, if_pos hover]
    exact check_of_over hlimit (fun w' hw' => by simp [hnone] at hw') hend

/-! ## Attempts at a full counter -/

theorem attempts_visits (held : Option Counter) (as : List Attempt) :
    (Counter.visits rounding held as).map Visit.attempt = as := by
  induction as generalizing held with
  | nil => rfl
  | cons a as ih => simp [Counter.visits, ih]

/-- **Attempts at a full counter** are denied in the same way as long as it is not over, and the
first one after that is the first one in a window. -/
theorem visits_full {held : Counter} (h : held.Full rounding p resetAt) (hlimit : 0 < p.limit)
    {as : List Attempt} (hp : ∀ a ∈ as, a.profile = p) {before after : List Visit} {v : Visit}
    (hvisits : Counter.visits rounding (some held) as = before ++ v :: after)
    (hbefore : ∀ u ∈ before, held.isOver rounding p u.attempt.now = false) :
    (held.isOver rounding p v.attempt.now = false → v.answer = .ok (p.denial resetAt)) ∧
      (held.isOver rounding p v.attempt.now = true → ∀ t,
        Controller.endOf rounding v.attempt.now p.duration = .ok t →
          v.answer = .ok (p.firstOf t)) := by
  induction before generalizing as with
  | nil =>
      cases as with
      | nil => simp [Counter.visits] at hvisits
      | cons a as =>
          obtain ⟨rfl, -⟩ := List.forall_mem_cons.mp hp
          rw [Counter.visits, List.nil_append, List.cons.injEq] at hvisits
          obtain ⟨rfl, -⟩ := hvisits
          refine ⟨fun hlasts => ?_, fun hover t hend => ?_⟩
          · simp only at hlasts ⊢
            rw [current_of_not_isOver hlasts, h.attempt hlimit]
          · simp only at hover hend ⊢
            rw [current_of_isOver hover, attempt_fresh hlimit hend]
  | cons u before ih =>
      cases as with
      | nil => simp [Counter.visits] at hvisits
      | cons a as =>
          obtain ⟨rfl, hrest⟩ := List.forall_mem_cons.mp hp
          obtain ⟨hfirst, hmore⟩ := List.forall_mem_cons.mp hbefore
          rw [Counter.visits, List.cons_append, List.cons.injEq] at hvisits
          obtain ⟨rfl, hvisits⟩ := hvisits
          simp only at hfirst hvisits
          rw [current_of_not_isOver hfirst, h.attempt hlimit] at hvisits
          exact ih hrest hvisits hmore

/-! ## Reachable states -/

/-- **Windows start at readings of the clock.** -/
theorem start_le_of_reachable (h : Reachable rounding c last) {w : Window}
    (hw : c.windows[k]? = some w) : w.start ≤ last := by
  induction h generalizing w with
  | start now =>
      have hnone : (Controller.start now).windows[k]? = none := Std.HashMap.getElem?_empty
      simp [hnone] at hw
  | @check c last now _ hclock key p ih =>
      have hpruned : ∀ w', (c.prune rounding now).windows[k]? = some w' → w'.start ≤ now := by
        intro w' hw'
        rcases windows_prune rounding c now k with hsame | ⟨_, -, -, hnone⟩
        · exact (ih (hsame ▸ hw')).trans hclock
        · simp [hnone] at hw'
      by_cases hkey : key = k
      · subst hkey
        rw [windows_check_self] at hw
        obtain rfl := Option.some.inj hw
        simp only [since_attempt]
        cases hheld : (c.prune rounding now).windows[key]? with
        | none => exact le_rfl
        | some w =>
            simp only [Option.map_some, Counter.current]
            split
            · exact le_rfl
            · exact hpruned w hheld
      · rw [windows_check_of_ne c now hkey] at hw
        exact hpruned w hw

end

/-! ## Denials -/

/-- **A denial lasts until the end of the window that it names, and no longer.** Let a controller
that is reached in exact time deny an attempt of a profile that admits at least one attempt in each
window. Then the end of the window is its start and its length; it is later than the attempt, but by
no more than that length. Of the attempts at the key that follow with the same profile, however many
there are and whatever attempts at other keys come between them, each one before that end is denied
with the same answer, and the first one from then on is admitted as the first one in a window, if
that has an end in the calendar. -/
theorem denial_lasts {c : Controller} {k : String} {p : Profile} {last now length : Rat}
    {d : Decision} (hc : Reachable id c last) (hclock : last ≤ now) (hlimit : 1 ≤ p.limit)
    (hlength : p.duration = .finite length) (h : (c.check id now k p).1 = .ok d)
    (hdenied : d.allowed = false) :
    ∃ w, (c.check id now k p).2.windows[k]? = some w ∧
      Instant.ofEpoch (w.start + length) = .ok d.resetAt ∧
      now < w.start + length ∧ w.start + length ≤ now + length ∧
      ∀ later : List Attempt, later.Pairwise (·.now ≤ ·.now) →
        (∀ a ∈ later, a.key = k → a.profile = p) →
        let visits := visitsOf k ((c.check id now k p).2.visits id later)
        (∀ v ∈ visits, v.attempt.now < w.start + length → v.answer = .ok d) ∧
        ∀ before v after, visits = before ++ v :: after →
          (∀ u ∈ before, u.attempt.now < w.start + length) → w.start + length ≤ v.attempt.now →
          (∃ t, Instant.ofEpoch (v.attempt.now + length) = .ok t) →
          ∃ d', v.answer = .ok d' ∧ d'.allowed = true ∧ (d'.remaining : Int) = p.limit - 1 := by
  obtain ⟨w, hw, hlasts, hfull, hafter, hd⟩ := window_of_denied (by omega) h hdenied
  have hover : ∀ t, w.counter.isOver id p t = true ↔ w.start + length ≤ t := by
    intro t
    rw [Counter.isOver, hlength, Double.atMost, decide_eq_true_eq]
    simp only [Window.counter, id_eq]
    constructor <;> intro h <;> linarith
  have hlasting : ∀ t, w.counter.isOver id p t = false ↔ t < w.start + length := by
    intro t
    rw [← not_le, ← hover, Bool.not_eq_true]
  have hend := hfull.ends
  simp only [Controller.endOf, hlength, Window.counter, id_eq] at hend
  have hstart := (start_le_of_reachable hc hw).trans hclock
  refine ⟨_, hafter, hend, (hlasting now).mp hlasts, by simp only; linarith, ?_⟩
  intro later hlater hp visits
  have hp' : ∀ a ∈ later.filter (·.key = k), a.profile = p := by
    intro a ha
    obtain ⟨hmem, hkey⟩ := List.mem_filter.mp ha
    exact hp a hmem (by simpa using hkey)
  have hvisits : visits = Counter.visits id (some w.counter) (later.filter (·.key = k)) := by
    refine visits_eq monotone_id k later hlater ?_ ?_
    · refine List.pairwise_of_forall_mem_list fun a ha b hb => ?_
      rw [hp' a ha, hp' b hb]
      exact .refl _
    · rw [hafter]
      refine ⟨fun _ _ => rfl, fun w' hw' a ha => ?_⟩
      obtain rfl := Option.some.inj hw'
      rw [hp' a ha]
      exact .refl _
  have hsame : visits.map Visit.attempt = later.filter (·.key = k) := by
    rw [hvisits, attempts_visits]
  refine ⟨fun v hv hbefore => ?_, fun before v after hat hbefore hover' hcalendar => ?_⟩
  · -- The visits before it are no later than it.
    obtain ⟨before, after, hat⟩ := List.append_of_mem hv
    have hpair := hlater.filter (fun a => decide (a.key = k))
    rw [← hsame, hat, List.pairwise_map, List.pairwise_append] at hpair
    rw [hd]
    refine (visits_full hfull (by omega) hp' (hvisits.symm.trans hat) fun u hu => ?_).1
      ((hlasting _).mpr hbefore)
    exact (hlasting _).mpr ((hpair.2.2 u hu v List.mem_cons_self).trans_lt hbefore)
  · obtain ⟨t, ht⟩ := hcalendar
    have hnext : Controller.endOf id v.attempt.now p.duration = .ok t := by
      rw [hlength]
      exact ht
    refine ⟨_, (visits_full hfull (by omega) hp' (hvisits.symm.trans hat) fun u hu =>
      (hlasting _).mpr (hbefore u hu)).2 ((hover _).mpr hover') t hnext, rfl, ?_⟩
    simp only [Profile.firstOf]
    omega

namespace Sample

/-- One attempt a minute. -/
def once : Profile := ⟨"once", 1, .finite 60⟩

/-- A controller after an attempt at a key with longer windows. -/
def widened : Controller :=
  ((Controller.start 0).check id 0 "k" ⟨"seldom", 2, .finite 3600⟩).2

theorem windows_widened : widened.windows["k"]? = some ⟨1, 0, .finite 3600⟩ := by
  have hnone : ((Controller.start 0).prune id 0).windows["k"]? = none := by
    simp [Controller.start, Controller.prune, pruneThreshold]
  have hend : Controller.endOf id 0 (.finite 3600) = .ok ⟨3600000000⟩ := by decide +kernel
  rw [widened, windows_check_self, hnone]
  simp [Counter.current, Counter.attempt, hend]

theorem denied_widened :
    (widened.check id 10 "k" once).1 = .ok ⟨false, 0, ⟨60000000⟩, 1⟩ := by
  have hend : Controller.endOf id 0 (.finite 60) = .ok ⟨60000000⟩ := by decide +kernel
  exact check_of_full (p := once) (by decide) windows_widened (by decide +kernel)
    (by decide +kernel) ⟨by decide, hend⟩

/-- The window that has been started for longer windows ends after a minute, although there are
attempts at it and at another key before. -/
theorem denial_lasts_widened :
    ∃ w, (widened.check id 10 "k" once).2.windows["k"]? = some w ∧
      Instant.ofEpoch (w.start + 60) = .ok ⟨60000000⟩ ∧
      let visits := visitsOf "k" ((widened.check id 10 "k" once).2.visits id
        [⟨"k", 30, once⟩, ⟨"other", 40, ⟨"never", 0, .nan⟩⟩, ⟨"k", 59, once⟩, ⟨"k", 60, once⟩])
      ∀ v ∈ visits, v.attempt.now < w.start + 60 → v.answer = .ok ⟨false, 0, ⟨60000000⟩, 1⟩ := by
  obtain ⟨w, hw, hend, -, -, hlater⟩ := denial_lasts (p := once) (.check (.start 0) le_rfl "k" _)
    (by norm_num : (0 : Rat) ≤ 10) (by decide) rfl denied_widened rfl
  exact ⟨w, hw, hend, (hlater _ (by decide +kernel) (by simp)).1⟩

end Sample

end SourceAudit.Admission

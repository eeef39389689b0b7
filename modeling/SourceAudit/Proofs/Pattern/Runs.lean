import SourceAudit.Proofs.Pattern.Bounds

/-!
# SourceAudit.Proofs.Pattern.Runs

Patterns for long runs of characters, whose searches are told by reasoning alone. They are the
simplest patterns whose matches need a given amount of text.

* `findAll_runs_of_lt` — in less text than that nothing is found;
* `findAll_runs_of_forall` — a long line of such characters is found as a whole.
-/

namespace SourceAudit.Pattern

/-- The pattern for runs of at least `least` characters of a set. -/
def runs (source : String) (set : CharSet) (least : Nat) : Pattern where
  source := source
  root := .loop ⟨least, none⟩ false (.one set)
  groups := 0
  ignoreCase := false
  ascii := false
  direction := .forward
  longest := false
  enhance := false
  fewestErrors := false
  lead := some set

/-- The search for runs in a text. -/
def searchRuns (set : CharSet) (least : Nat) (subject : Subject) (anchor : Nat) : Search :=
  ⟨subject, .loop ⟨least, none⟩ false (.one set), false, anchor, false, false, none⟩

/-! ## Counting characters -/

theorem Search.run_le_room (q : Search) (set : CharSet) (f : Frame) (room pos : Nat) :
    q.run set f room pos ≤ room := by
  induction room generalizing pos with
  | zero => exact Nat.le_refl 0
  | succ room ih =>
      unfold Search.run
      split
      · next c pos' _ =>
        split
        · exact Nat.succ_le_succ (ih pos')
        · exact Nat.zero_le _
      · exact Nat.zero_le _

/-- All characters are counted if all are in the set. -/
theorem Search.run_of_forall (q : Search) {set : CharSet} {low high room pos : Nat}
    (hroom : pos + room ≤ high)
    (h : ∀ i, pos ≤ i → i < high → ∃ c, q.subject.after? i = some c ∧ set.contains c = true) :
    q.run set ⟨.forward, low, high, false⟩ room pos = room := by
  induction room generalizing pos with
  | zero => rfl
  | succ room ih =>
      obtain ⟨c, hc, hset⟩ := h pos (Nat.le_refl pos) (by omega)
      have hnext : Frame.next? ⟨.forward, low, high, false⟩ q.subject pos = some (c, pos + 1) := by
        unfold Frame.next?
        simp only
        rw [if_pos (by omega), hc]
        rfl
      have hrest : q.run set ⟨.forward, low, high, false⟩ room (pos + 1) = room :=
        ih (by omega) fun i hlow hlt => h i (by omega) hlt
      unfold Search.run
      rw [hnext]
      simp only
      rw [if_pos hset, hrest]

/-! ## Searching at a place -/

section

variable {set : CharSet} {least : Nat} {subject : Subject} {anchor low high : Nat}

/-- With nothing left to be done, the search is over. -/
theorem steps_searchRuns (fuel : Nat) {m : Machine} (hm : m.tasks = []) :
    (searchRuns set least subject anchor).steps (fuel + 1) m = (some m.st, m.skipTo) := by
  rw [Search.steps, Search.step, hm]
  simp only [Search.finish, searchRuns, Bool.false_and, Bool.false_eq_true, if_false]

/-- A search for runs at a place takes as many characters as there are, if these are enough. -/
theorem matchAt_searchRuns {pos count : Nat}
    (hcount : (searchRuns set least subject anchor).run set ⟨.forward, low, high, false⟩
      (high - pos) pos = count) :
    (searchRuns set least subject anchor).matchAt ⟨.forward, low, high, false⟩ 0 pos =
      if count < least then (none, none)
      else (some ⟨pos + count, pos, #[], .zero, none, 0⟩, none) := by
  have hroot : (searchRuns set least subject anchor).root = .loop ⟨least, none⟩ false (.one set) :=
    rfl
  have hrun : (searchRuns set least subject anchor).run set ⟨.forward, low, high, false⟩
      (min (high - pos) (high - pos)) pos = count := by
    rw [Nat.min_self, hcount]
  obtain ⟨fuel, hfuel⟩ : ∃ fuel, Search.stepLimit = fuel + 2 := ⟨_, rfl⟩
  rw [Search.matchAt, hfuel, Search.steps]
  simp only [Search.step, hroot, Search.enter, Search.repeatOne, Search.room,
    Option.getD_none, Bool.false_eq_true, if_false, hrun]
  by_cases hfew : count < least
  · rw [if_pos hfew, if_pos hfew]
    rfl
  rw [if_neg hfew, if_neg hfew]
  by_cases hmore : least < count
  · rw [if_pos hmore]
    exact steps_searchRuns fuel rfl
  · rw [if_neg hmore]
    exact steps_searchRuns fuel rfl

theorem lt_nextPlace? {pos pos' : Nat} {skipTo : Option Nat}
    (h : nextPlace? .forward low high pos skipTo = some pos') : pos < pos' := by
  unfold nextPlace? at h
  simp only [Option.ite_none_right_eq_some, Option.some.injEq] at h
  omega

/-- Where less text is left than a run needs, none is found. -/
theorem firstFrom_searchRuns_of_lt (lead : Option CharSet) (room : Nat) {pos : Nat}
    (h : high - pos < least) :
    firstFrom (searchRuns set least subject anchor) ⟨.forward, low, high, false⟩ 0 lead room pos =
      none := by
  induction room generalizing pos with
  | zero => rfl
  | succ room ih =>
      have hmatch : (searchRuns set least subject anchor).matchAt ⟨.forward, low, high, false⟩ 0
          pos = (none, none) := by
        rw [matchAt_searchRuns rfl, if_pos]
        exact Nat.lt_of_le_of_lt (Search.run_le_room ..) h
      unfold firstFrom
      rw [hmatch, ite_self]
      simp only
      split
      · next pos' hnext =>
        have := lt_nextPlace? hnext
        exact ih (by omega)
      · rfl

/-- A run is found where it starts. -/
theorem firstFrom_searchRuns_of_forall (room : Nat) {pos : Nat} (hlen : least ≤ high - pos)
    (hpos : 0 < least)
    (h : ∀ i, pos ≤ i → i < high → ∃ c, subject.after? i = some c ∧ set.contains c = true) :
    firstFrom (searchRuns set least subject anchor) ⟨.forward, low, high, false⟩ 0 (some set)
      (room + 1) pos = some ⟨high, pos, #[], .zero, none, 0⟩ := by
  have hstart : mayStart (some set) subject pos = true := by
    obtain ⟨c, hc, hset⟩ := h pos (Nat.le_refl pos) (by omega)
    rw [mayStart, hc]
    exact hset
  have hrun : (searchRuns set least subject anchor).run set ⟨.forward, low, high, false⟩
      (high - pos) pos = high - pos :=
    Search.run_of_forall _ (by omega) h
  unfold firstFrom
  rw [show (searchRuns set least subject anchor).subject = subject from rfl, if_pos hstart,
    matchAt_searchRuns hrun, if_neg (by omega), show pos + (high - pos) = high by omega]

end

/-! ## Searching a line -/

section

variable {source : String} {set : CharSet} {least : Nat} {line : List Char}

theorem search_runs (subject : Subject) (low high anchor : Nat) :
    (runs source set least).search ⟨subject, low, high, anchor, false⟩ =
      firstFrom (searchRuns set least subject anchor) ⟨.forward, low, high, false⟩ 0 (some set)
        (subject.size + 1) anchor := by
  have hexact : (runs source set least).root.isTolerant = false := rfl
  unfold Pattern.search
  simp only [hexact, Bool.false_and, Bool.false_eq_true, if_false, Option.map_id_fun', id]
  rfl

/-- **Too little text.** Nothing is found between two positions that are closer to each other than
a run is long. -/
theorem findAll_runs_of_lt {start stop : Nat} (h : stop - start < least) :
    (runs source set least).findAll line start stop = [] := by
  unfold findAll matchesFrom
  rw [show (runs source set least).direction = .forward from rfl]
  simp only
  rw [search_runs, firstFrom_searchRuns_of_lt _ _ (by omega)]

/-- **A line that is one run** is found as a whole. -/
theorem findAll_runs_of_forall (hlen : least ≤ line.length) (hpos : 0 < least)
    (h : ∀ c ∈ line, set.contains c.toNat = true) :
    (runs source set least).findAll line 0 line.length = [⟨0, line.length, #[]⟩] := by
  have hcodes : ∀ i, 0 ≤ i → i < line.length →
      ∃ c, (Subject.ofLine line line.length).after? i = some c ∧ set.contains c = true := by
    intro i _ hi
    refine ⟨(line.get ⟨i, hi⟩).toNat, ?_, h _ (List.get_mem line ⟨i, hi⟩)⟩
    simp [Subject.ofLine, Subject.after?, hi]
  unfold findAll
  rw [show (runs source set least).direction = .forward from rfl]
  simp only [Nat.zero_min, Nat.zero_max, Nat.min_self, Nat.sub_zero]
  unfold matchesFrom
  rw [search_runs, firstFrom_searchRuns_of_forall _ (by omega) hpos hcodes]
  simp only [Nat.zero_min, Nat.zero_max]
  have hadvanced : (0 == line.length) = false := beq_eq_false_iff_ne.mpr (by omega)
  unfold matchesFrom
  rw [hadvanced, search_runs, firstFrom_searchRuns_of_lt _ _ (by omega)]

end

end SourceAudit.Pattern

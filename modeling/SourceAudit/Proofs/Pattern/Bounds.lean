import SourceAudit.Pattern.Search

/-!
# SourceAudit.Proofs.Pattern.Bounds

No search leaves the text that it searches: every match, and every group in it, spans positions of
that text, in order. Nor does a search lose a group or make one up: a match has a place for each
group of its pattern, whether or not the group took part. Whatever the pattern does (looking around,
going back, calling groups, tolerating errors), the machine only ever holds positions up to the end
of the text and as many groups; `Machine.Within` says so of everything that it holds,
`Search.step_within` that a step keeps it, and `Pattern.findAll_within` what is left of it for the
matches in a line.
-/

namespace SourceAudit.Pattern

/-! ## What stays within a text of `n` characters -/

/-- There is a place for each of `groups` groups, and those matched so far span positions up to
`n`. -/
structure Captures.Within (n groups : Nat) (caps : Captures) : Prop where
  size : caps.size = groups
  spans : ∀ k start stop : Nat, caps[k]? = some (some (start, stop)) → start ≤ stop ∧ stop ≤ n

/-- A way whose positions are at most `n`. -/
structure State.Within (n groups : Nat) (st : State) : Prop where
  pos : st.pos ≤ n
  start : st.start ≤ n
  captures : Captures.Within n groups st.captures

/-- A task that brings back positions up to `n` only. -/
def Task.Within (n groups : Nat) : Task → Prop
  | .close _ start => start ≤ n
  | .comeBack _ _ pos => pos ≤ n
  | .undo _ st => st.Within n groups
  | .giveBack captures => Captures.Within n groups captures
  | _ => True

/-- A choice that brings back positions up to `n` only. One that gives up iterations going backward
moves forward again by as many characters. -/
def Choice.Within (n groups : Nat) : Choice → Prop
  | .retry tasks st => (∀ t ∈ tasks, t.Within n groups) ∧ st.Within n groups
  | .shorten tasks st f count =>
    (∀ t ∈ tasks, t.Within n groups) ∧ st.Within n groups ∧ 1 ≤ count ∧
      (f.direction = .backward → st.pos + count ≤ n)
  | .lengthen tasks st _ _ _ => (∀ t ∈ tasks, t.Within n groups) ∧ st.Within n groups

/-- A machine that holds positions up to `n` only. -/
structure Machine.Within (n groups : Nat) (m : Machine) : Prop where
  tasks : ∀ t ∈ m.tasks, t.Within n groups
  st : m.st.Within n groups
  choices : ∀ c ∈ m.choices, c.Within n groups
  best : ∀ st, m.best = some st → st.Within n groups

/-- An outcome with positions up to `n` only. -/
def Outcome.Within (n groups : Nat) : Outcome → Prop
  | .on m => m.Within n groups
  | .over found _ => ∀ st, found = some st → st.Within n groups

namespace Captures

/-- Without captures there is nothing out of bounds. -/
theorem within_replicate (n groups : Nat) : Within n groups (Array.replicate groups none) where
  size := Array.size_replicate
  spans := by
    intro k start stop h
    simp [Array.getElem?_replicate] at h

variable {n groups : Nat} {caps : Captures}

theorem Within.forget (h : caps.Within n groups) : Within n groups (caps.map fun _ => none) where
  size := by rw [Array.size_map, h.size]
  spans := by
    intro k start stop hk
    simp [Array.getElem?_map] at hk

/-- A group that ends spans the positions between its two ends, in order. -/
theorem Within.close {start pos : Nat} (h : caps.Within n groups) (number : Nat)
    (hs : start ≤ n) (hp : pos ≤ n) :
    Within n groups (caps.setIfInBounds number (some (min start pos, max start pos))) where
  size := by rw [Array.size_setIfInBounds, h.size]
  spans := by
    intro k a b hk
    rw [Array.getElem?_setIfInBounds] at hk
    split at hk
    · split at hk
      · simp only [Option.some.injEq, Prod.mk.injEq] at hk
        omega
      · simp at hk
    · exact h.spans k a b hk

/-- What a group spans, read by its number. -/
theorem Within.span? {number start stop : Nat} (h : caps.Within n groups)
    (hs : caps.span? number = some (start, stop)) : start ≤ stop ∧ stop ≤ n := by
  unfold Captures.span? at hs
  split at hs
  · simp at hs
  · exact h.spans (number - 1) start stop (by simpa [Option.join_eq_some_iff] using hs)

end Captures

namespace State.Within

variable {n groups : Nat} {st : State}

/-- Moving a way to another position. -/
theorem move {pos : Nat} (h : st.Within n groups) (hp : pos ≤ n) :
    State.Within n groups { st with pos := pos } :=
  ⟨hp, h.start, h.captures⟩

end State.Within

namespace Choice

variable {n groups : Nat} {tasks : List Task} {st : State}

theorem within_retry (ht : ∀ t ∈ tasks, t.Within n groups) (hs : st.Within n groups) :
    Within n groups (.retry tasks st) := ⟨ht, hs⟩

theorem within_lengthen (ht : ∀ t ∈ tasks, t.Within n groups) (hs : st.Within n groups) (f : Frame)
    (s : CharSet) (count : Option Nat) : Within n groups (.lengthen tasks st f s count) := ⟨ht, hs⟩

end Choice

/-! ## Moving over characters -/

/-- A step in either direction stays in the text. -/
theorem Frame.next?_le {f : Frame} {s : Subject} {pos c next : Nat}
    (h : f.next? s pos = some (c, next)) (hp : pos ≤ s.size) : next ≤ s.size := by
  unfold Frame.next? at h
  split at h
  · split at h
    · simp only [Option.map_eq_some_iff, Prod.mk.injEq] at h
      obtain ⟨a, ha, -, rfl⟩ := h
      have hlt : pos < s.codes.size := (Array.getElem?_eq_some_iff.mp ha).1
      exact hlt
    · simp at h
  · split at h
    · simp only [Option.map_eq_some_iff, Prod.mk.injEq] at h
      obtain ⟨a, ha, -, rfl⟩ := h
      omega
    · simp at h

namespace Search

variable {q : Search} {m : Machine} {n : Nat}

/-- A character has room after it for as many characters as are counted from it. -/
theorem run_le (q : Search) (s : CharSet) (f : Frame) (room pos : Nat) (hp : pos ≤ q.subject.size) :
    match f.direction with
    | .forward => pos + q.run s f room pos ≤ q.subject.size
    | .backward => q.run s f room pos ≤ pos := by
  induction room generalizing pos with
  | zero => cases f.direction <;> simp [run, hp]
  | succ room ih =>
      unfold run
      cases hn : f.next? q.subject pos with
      | none => cases f.direction <;> simp [hp]
      | some cp =>
          obtain ⟨c, next⟩ := cp
          have hnext := Frame.next?_le hn hp
          have hrest := ih next hnext
          unfold Frame.next? at hn
          cases hd : f.direction <;> simp only [hd] at hn hrest ⊢ <;> split at hn <;>
            simp only [Option.map_eq_some_iff, Prod.mk.injEq, reduceCtorEq] at hn
          · obtain ⟨-, -, -, rfl⟩ := hn
            split <;> omega
          · obtain ⟨-, -, -, rfl⟩ := hn
            split <;> omega

/-- So does a run of characters. -/
theorem advance_run_le (q : Search) (s : CharSet) (f : Frame) (room pos : Nat)
    (hp : pos ≤ q.subject.size) : advance f pos (q.run s f room pos) ≤ q.subject.size := by
  have h := run_le q s f room pos hp
  unfold advance
  cases hd : f.direction <;> simp only [hd] at h ⊢ <;> omega

theorem followFolded?_le {f : Frame} {fuel pos stop : Nat} {text : List Nat}
    (h : q.followFolded? f fuel text pos = some stop) (hp : pos ≤ q.subject.size) :
    stop ≤ q.subject.size := by
  fun_induction followFolded? q f fuel text pos with
  | case1 => simp_all
  | case2 => simp at h
  | case3 => simp at h
  | case4 pos fuel t text c next hn cs rest hr ih => exact ih h (Frame.next?_le hn hp)
  | case5 => simp at h

/-- A text that is followed ends within the subject. -/
theorem follow?_le {f : Frame} {ignoreCase : Bool} {text : List Nat} {pos stop : Nat}
    (h : q.follow? f ignoreCase text pos = some stop) (hp : pos ≤ q.subject.size) :
    stop ≤ q.subject.size := by
  fun_induction follow? q f ignoreCase text pos with
  | case1 => simp_all
  | case2 => simp at h
  | case3 pos t text c next hn hc ih => exact ih h (Frame.next?_le hn hp)
  | case4 => simp at h

theorem text?_le {f : Frame} {mode : CaseMode} {text : List Nat} {pos stop : Nat}
    (h : q.text? f mode text pos = some stop) (hp : pos ≤ q.subject.size) :
    stop ≤ q.subject.size := by
  cases mode with
  | exact => exact follow?_le h hp
  | simple => exact follow?_le h hp
  | full => exact followFolded?_le h hp

end Search

/-! ## Going on and failing -/

namespace Machine

variable {n groups : Nat} {m : Machine}

/-- Going on with tasks and a state within the bounds stays within them. -/
theorem Within.goOn {tasks : List Task} {st : State} (h : m.Within n groups)
    (ht : ∀ t ∈ tasks, t.Within n groups) (hs : st.Within n groups) :
    Outcome.Within n groups (m.goOn tasks st) :=
  ⟨ht, hs, h.choices, h.best⟩

/-- A choice within the bounds may be put off. -/
theorem Within.push {c : Choice} (h : m.Within n groups) (hc : c.Within n groups) :
    (m.push c).Within n groups :=
  ⟨h.tasks, h.st, List.forall_mem_cons.mpr ⟨hc, h.choices⟩, h.best⟩

theorem Within.cut (h : m.Within n groups) (height : Nat) : (m.cut height).Within n groups := by
  unfold Machine.cut
  split
  · exact ⟨h.tasks, h.st, fun c hc => h.choices c (List.mem_of_mem_drop hc), h.best⟩
  · exact h

/-- The latest choice brings back positions that were held before. -/
theorem Within.fail {sub : Subject} (h : m.Within sub.size groups) :
    Outcome.Within sub.size groups (m.fail sub) := by
  unfold Machine.fail
  cases hc : m.choices with
  | nil => exact h.best
  | cons c rest =>
      have hall := h.choices
      rw [hc] at hall
      obtain ⟨hfirst, hrest⟩ := List.forall_mem_cons.mp hall
      cases c with
      | retry tasks st => exact ⟨hfirst.1, hfirst.2, hrest, h.best⟩
      | shorten tasks st f count =>
          obtain ⟨ht, hst, hone, hback⟩ := hfirst
          have hpos : f.goBack st.pos 1 ≤ sub.size := by
            have hle := hst.pos
            unfold Frame.goBack
            cases hd : f.direction with
            | forward => simp only; omega
            | backward => have := hback hd; simp only; omega
          simp only
          split
          · exact ⟨ht, hst.move hpos, hrest, h.best⟩
          · have hmore : Choice.Within sub.size groups
                (.shorten tasks { st with pos := f.goBack st.pos 1 } f (count - 1)) := by
              refine ⟨ht, hst.move hpos, by omega, fun hd => ?_⟩
              have := hback hd
              simp only [Frame.goBack, hd]
              omega
            exact ⟨ht, hst.move hpos, List.forall_mem_cons.mpr ⟨hmore, hrest⟩, h.best⟩
      | lengthen tasks st f s count =>
          obtain ⟨ht, hst⟩ := hfirst
          have hrefuse : ∀ t ∈ [Task.refuse (m.height - 1)], t.Within sub.size groups := by
            simp [Task.Within]
          simp only
          split
          · next c next hmore =>
            have hnext : next ≤ sub.size := by
              split at hmore
              · simp at hmore
              · exact Frame.next?_le hmore hst.pos
            split
            · have hleft : Machine.Within sub.size groups
                  { m with choices := rest, height := m.height - 1 } :=
                ⟨h.tasks, h.st, hrest, h.best⟩
              have hst' := hst.move hnext
              exact (hleft.push (Choice.within_lengthen ht hst' ..)).goOn ht hst'
            · exact ⟨hrefuse, h.st, hrest, h.best⟩
          · exact ⟨hrefuse, h.st, hrest, h.best⟩

end Machine

/-! ## Steps -/

namespace Search

variable {q : Search} {m : Machine} {rest : List Task} {groups : Nat}

/-- Every error that may be made here goes on within the text. -/
theorem mistakes_within {n : Node} {f : Frame} {st : State}
    (hr : ∀ t ∈ rest, t.Within q.subject.size groups) (hs : st.Within q.subject.size groups) :
    ∀ c ∈ q.mistakes n f rest st, c.Within q.subject.size groups := by
  have hnode : ∀ t ∈ Task.node n f :: rest, t.Within q.subject.size groups :=
    List.forall_mem_cons.mpr ⟨trivial, hr⟩
  have hmoved : ∀ c next e, f.next? q.subject st.pos = some (c, next) →
      State.Within q.subject.size groups { st with pos := next, errors := e } :=
    fun c next e hn => ⟨Frame.next?_le hn hs.pos, hs.start, hs.captures⟩
  intro c hc
  unfold mistakes at hc
  split at hc
  · simp at hc
  · next t ht =>
    simp only [List.mem_append, or_assoc] at hc
    rcases hc with hc | hc | hc
    · split at hc
      · next a next hn =>
        rw [Option.filter_eq_some_iff] at hn
        split at hc
        · rw [List.mem_singleton] at hc
          subst hc
          exact ⟨hr, hmoved a next _ hn.1⟩
        · simp at hc
      · simp at hc
    · split at hc
      · next a next hn =>
        rw [Option.filter_eq_some_iff] at hn
        split at hc
        · rw [List.mem_singleton] at hc
          subst hc
          exact ⟨hnode, hmoved a next _ hn.1⟩
        · simp at hc
      · simp at hc
    · split at hc
      · rw [List.mem_singleton] at hc
        subst hc
        exact ⟨hr, hs.pos, hs.start, hs.captures⟩
      · simp at hc

/-- What does not match may count as an error, or the last choice is gone back to. -/
theorem mismatch_within {n : Node} {f : Frame} (h : m.Within q.subject.size groups)
    (hr : ∀ t ∈ rest, t.Within q.subject.size groups) :
    Outcome.Within q.subject.size groups (q.mismatch m n f rest) := by
  unfold mismatch
  split
  · refine Machine.Within.fail ⟨h.tasks, h.st, fun c hc => ?_, h.best⟩
    rcases List.mem_append.mp hc with hc | hc
    · exact mistakes_within hr h.st c hc
    · exact h.choices c hc
  · exact h.fail

/-- A repetition of one character makes a choice for the lengths that it leaves out. -/
theorem repeatOne_within {s : CharSet} {bounds : Bounds} {fewest : Bool} {f : Frame}
    (h : m.Within q.subject.size groups) (hr : ∀ t ∈ rest, t.Within q.subject.size groups) :
    Outcome.Within q.subject.size groups (q.repeatOne m s bounds fewest f rest) := by
  unfold repeatOne
  simp only
  generalize hroom : min _ (room f m.st.pos) = most
  have hrun := run_le q s f most m.st.pos h.st.pos
  have hst := h.st.move (advance_run_le q s f most m.st.pos h.st.pos)
  generalize hcount : q.run s f most m.st.pos = count at hrun hst ⊢
  split
  · exact h.fail
  · next hleast =>
    split
    · exact (h.push (Choice.within_lengthen hr hst ..)).goOn hr hst
    · split
      · next hmore =>
        have hshorter : Choice.Within q.subject.size groups
            (.shorten rest { m.st with pos := advance f m.st.pos count } f
              (count - bounds.least)) := by
          refine ⟨hr, hst, by omega, fun hd => ?_⟩
          have := h.st.pos
          simp only [hd, advance] at hrun ⊢
          omega
        exact (h.push hshorter).goOn hr hst
      · exact h.goOn hr hst

theorem text_within {f : Frame} {mode : CaseMode} {text : List Nat}
    (h : m.Within q.subject.size groups) (hr : ∀ t ∈ rest, t.Within q.subject.size groups) :
    Outcome.Within q.subject.size groups (q.text m f mode text rest) := by
  unfold Search.text
  split
  · next pos hpos => exact h.goOn hr (h.st.move (text?_le hpos h.st.pos))
  · split
    · exact h.goOn (List.forall_mem_cons.mpr ⟨trivial, hr⟩) h.st
    · exact h.fail

/-- Another iteration begins where the one before it ended. -/
theorem iterate_within {n : Nat} {bounds : Bounds} {fewest : Bool} {body : Node} {f : Frame}
    {count : Nat} (h : m.Within n groups) (hr : ∀ t ∈ rest, t.Within n groups) :
    Outcome.Within n groups (iterate m bounds fewest body f count rest) := by
  have hmore : ∀ t ∈ Task.node body f :: Task.again bounds fewest body f count m.st :: rest,
      t.Within n groups := by
    simpa [Task.Within] using hr
  unfold iterate
  simp only
  split
  · exact h.goOn hmore h.st
  · split
    · split
      · exact (h.push (Choice.within_retry hmore h.st)).goOn hr h.st
      · exact (h.push (Choice.within_retry hr h.st)).goOn hmore h.st
    · exact h.goOn hr h.st

theorem iterated_within {n : Nat} {bounds : Bounds} {fewest : Bool} {body : Node} {f : Frame}
    {count : Nat} {mark : State} (h : m.Within n groups) (hr : ∀ t ∈ rest, t.Within n groups) :
    Outcome.Within n groups (iterated m bounds fewest body f count mark rest) := by
  unfold iterated
  simp only
  split
  · exact h.goOn hr h.st
  · exact iterate_within h hr

/-- Starting on a pattern keeps a machine within its text. -/
theorem enter_within {n : Node} {f : Frame} (h : m.Within q.subject.size groups)
    (hr : ∀ t ∈ rest, t.Within q.subject.size groups) :
    Outcome.Within q.subject.size groups (q.enter m n f rest) := by
  have hcons : ∀ n f, ∀ t ∈ Task.node n f :: rest, t.Within q.subject.size groups :=
    fun n f => List.forall_mem_cons.mpr ⟨trivial, hr⟩
  have hfloor : ∀ floor, State.Within q.subject.size groups { m.st with floor := floor } :=
    fun _ => ⟨h.st.pos, h.st.start, h.st.captures⟩
  unfold enter
  simp only
  cases n with
  | empty => exact h.goOn hr h.st
  | never => exact h.fail
  | one s =>
      simp only
      split
      · next c pos hn =>
        split
        · exact h.goOn hr (h.st.move (Frame.next?_le hn h.st.pos))
        · exact mismatch_within h hr
      · exact mismatch_within h hr
  | folded text => exact text_within h hr
  | cat l r =>
      simp only
      split <;> exact h.goOn (List.forall_mem_cons.mpr ⟨trivial, hcons _ _⟩) h.st
  | alt l r => exact (h.push (Choice.within_retry (hcons r f) h.st)).goOn (hcons l f) h.st
  | group number body =>
      exact h.goOn (by simpa [Task.Within] using ⟨h.st.pos, hr⟩) h.st
  | loop bounds fewest body =>
      simp only
      split
      · split
        · exact iterate_within h hr
        · exact repeatOne_within h hr
      · exact iterate_within h hr
  | assertion a =>
      simp only
      split
      · exact h.goOn hr h.st
      · exact mismatch_within h hr
  | look direction wanted body =>
      simp only
      split
      · exact h.goOn (by simpa [Task.Within] using ⟨h.st.pos, hr⟩) (hfloor _)
      · exact (h.push (Choice.within_retry hr h.st)).goOn (by simp [Task.Within]) (hfloor _)
  | lookIf direction wanted body yes no =>
      simp only
      split
      · exact (h.push (Choice.within_retry (hcons no f) h.st)).goOn
          (by simpa [Task.Within] using ⟨h.st.pos, hr⟩) (hfloor _)
      · exact (h.push (Choice.within_retry (hcons yes f) h.st)).goOn
          (by simpa [Task.Within] using ⟨h.st, hr⟩) (hfloor _)
  | groupIf number yes no => exact h.goOn (hcons _ f) h.st
  | atomic body => exact h.goOn (by simpa [Task.Within] using hr) (hfloor _)
  | backref number mode =>
      simp only
      split
      · exact text_within h hr
      · exact h.fail
  | call number =>
      simp only
      split
      · refine h.goOn ?_ ⟨h.st.pos, h.st.start, h.st.captures.forget⟩
        simpa [Task.Within] using ⟨h.st.captures, hr⟩
      · exact h.fail
  | keep => exact h.goOn hr ⟨h.st.pos, h.st.pos, h.st.captures⟩
  | prune => exact (h.cut _).goOn hr h.st
  | skip =>
      have hcut := h.cut m.st.floor
      exact Machine.Within.goOn ⟨hcut.tasks, hcut.st, hcut.choices, hcut.best⟩ hr h.st
  | tolerant t body =>
      exact h.goOn (by simpa [Task.Within] using hr) ⟨h.st.pos, h.st.start, h.st.captures⟩

/-- Errors are settled where the tolerance ends. -/
theorem settle_within {outer : Errors} {tolerance : Option Tolerance} {f : Frame}
    (h : m.Within q.subject.size groups) (hr : ∀ t ∈ rest, t.Within q.subject.size groups) :
    Outcome.Within q.subject.size groups (q.settle m outer tolerance f rest) := by
  have hend : ∀ m' : Machine, m'.Within q.subject.size groups → ∀ e e' t,
      Outcome.Within q.subject.size groups
        (if Tolerance.isMet t e' = true then
          m'.goOn rest { m.st with errors := e, tolerance := tolerance }
        else m'.fail q.subject) := by
    intro m' h' e e' t
    split
    · exact h'.goOn hr ⟨h.st.pos, h.st.start, h.st.captures⟩
    · exact h'.fail
  unfold settle
  simp only
  split
  · exact h.fail
  · next t ht =>
    refine hend _ ?_ _ _ _
    split
    · next c pos hn =>
      rw [Option.filter_eq_some_iff] at hn
      split
      · refine h.push (Choice.within_retry ?_ ?_)
        · exact List.forall_mem_cons.mpr ⟨trivial, hr⟩
        · exact ⟨Frame.next?_le hn.1 h.st.pos, h.st.start, h.st.captures⟩
      · exact h
    · exact h

theorem finish_within (h : m.Within q.subject.size groups) :
    Outcome.Within q.subject.size groups (q.finish m) := by
  unfold finish
  split
  · exact h.fail
  · split
    · split
      · refine Machine.Within.fail ⟨h.tasks, h.st, h.choices, fun st hst => ?_⟩
        obtain rfl := Option.some.inj hst
        exact h.st
      · exact h.fail
    · intro st hst
      obtain rfl := Option.some.inj hst
      exact h.st

/-- A step keeps a machine within its text. -/
theorem step_within (h : m.Within q.subject.size groups) :
    Outcome.Within q.subject.size groups (q.step m) := by
  have htasks := h.tasks
  unfold step
  simp only
  cases ht : m.tasks with
  | nil => exact finish_within h
  | cons t rest =>
      rw [ht] at htasks
      obtain ⟨hfirst, hr⟩ := List.forall_mem_cons.mp htasks
      cases t with
      | node n f => exact enter_within h hr
      | close number start =>
          exact h.goOn hr ⟨h.st.pos, h.st.start, h.st.captures.close _ hfirst h.st.pos⟩
      | again bounds fewest body f count mark => exact iterated_within h hr
      | commit height floor => exact (h.cut _).goOn hr ⟨h.st.pos, h.st.start, h.st.captures⟩
      | comeBack height floor pos => exact (h.cut _).goOn hr ⟨hfirst, h.st.start, h.st.captures⟩
      | undo height st => exact (h.cut _).goOn hr hfirst
      | refuse height => exact (h.cut _).fail
      | settle outer tolerance f => exact settle_within h hr
      | giveBack captures => exact h.goOn hr ⟨h.st.pos, h.st.start, hfirst⟩

/-- Nothing that a machine finds after any number of steps leaves its text. -/
theorem steps_within {fuel : Nat} {m : Machine} (h : m.Within q.subject.size groups) {st : State}
    (hst : (q.steps fuel m).1 = some st) : st.Within q.subject.size groups := by
  induction fuel generalizing m with
  | zero => simp [steps] at hst
  | succ fuel ih =>
      have hstep := step_within h
      unfold steps at hst
      match hs : q.step m with
      | .over found skipTo =>
          rw [hs] at hst hstep
          exact hstep st hst
      | .on m' =>
          rw [hs] at hst hstep
          exact ih hstep hst

/-- **A match at a position is within the bounds**, and so are its groups. -/
theorem matchAt_within {f : Frame} {groups pos : Nat} {st : State} (hp : pos ≤ q.subject.size)
    (hst : (q.matchAt f groups pos).1 = some st) : st.Within q.subject.size groups := by
  refine steps_within ⟨?_, ⟨hp, hp, Captures.within_replicate _ _⟩, ?_, ?_⟩ hst <;>
    simp [Task.Within]

end Search

/-! ## Searches -/

section

variable {p : Pattern} {place : Place}

/-- The next position to search at is not behind the end. -/
theorem nextPlace?_le {d : Direction} {low high pos next : Nat} {skipTo : Option Nat}
    (h : nextPlace? d low high pos skipTo = some next) : next ≤ max high pos := by
  unfold nextPlace? at h
  cases d <;> simp only at h <;> grind

theorem firstFrom_within {q : Search} {f : Frame} {groups room pos : Nat} {lead : Option CharSet}
    {st : State} (hf : f.high ≤ q.subject.size) (hp : pos ≤ q.subject.size)
    (hst : firstFrom q f groups lead room pos = some st) : st.Within q.subject.size groups := by
  induction room generalizing pos with
  | zero => simp [firstFrom] at hst
  | succ room ih =>
      unfold firstFrom at hst
      split at hst
      · next found skipTo hfound =>
        split at hst
        · next st' =>
          obtain rfl := Option.some.inj hst
          split at hfound
          · exact Search.matchAt_within hp (congrArg Prod.fst hfound)
          · simp at hfound
        · split at hst
          · next pos' hnext =>
            have := nextPlace?_le hnext
            exact ih (by omega) hst
          · simp at hst

theorem firstMatch_within {low high pos : Nat} {errorLimit : Option Nat} {st : State}
    (hh : high ≤ place.subject.size) (hp : pos ≤ place.subject.size)
    (hst : p.firstMatch place low high pos errorLimit = some st) :
    st.Within place.subject.size p.groups :=
  firstFrom_within hh hp hst

/-- A better match is within the bounds as well. -/
theorem improve_within {within : Bool} {fuel : Nat} {st : State}
    (hh : place.high ≤ place.subject.size) (ha : place.anchor ≤ place.subject.size)
    (hst : st.Within place.subject.size p.groups) :
    (p.improve place within fuel st).Within place.subject.size p.groups := by
  induction fuel generalizing st with
  | zero => exact hst
  | succ fuel ih =>
      unfold improve
      simp only
      split
      · exact hst
      · next better hbetter =>
        have hb : better.Within place.subject.size p.groups := by
          refine firstMatch_within ?_ ?_ hbetter
          · split
            · exact Nat.max_le.mpr ⟨hst.start, hst.pos⟩
            · exact hh
          · split
            · exact hst.start
            · exact ha
        split
        · exact hst
        · split
          · exact hb
          · exact ih hb

/-- **What a search finds is within the bounds.** -/
theorem search_within {st : State} (hh : place.high ≤ place.subject.size)
    (ha : place.anchor ≤ place.subject.size) (hst : p.search place = some st) :
    st.Within place.subject.size p.groups := by
  unfold Pattern.search at hst
  rw [Option.map_eq_some_iff] at hst
  obtain ⟨first, hfirst, rfl⟩ := hst
  have hf := firstMatch_within hh ha hfirst
  split
  · exact improve_within hh ha hf
  · exact hf

end

end Pattern

open Pattern

/-- A match whose span, and the spans of whose groups, are spans of a text of `n` characters. -/
structure Match.Within (n groups : Nat) (m : Match) : Prop where
  start_le : m.start ≤ m.stop
  stop_le : m.stop ≤ n
  captures : Captures.Within n groups m.captures

namespace Match.Within

variable {n groups : Nat} {m : Match}

/-- What a group of a match spans. -/
theorem span? (h : m.Within n groups) {number start stop : Nat}
    (hs : m.span? number = some (start, stop)) : start ≤ stop ∧ stop ≤ n := by
  unfold Match.span? at hs
  split at hs
  · obtain ⟨rfl, rfl⟩ := Prod.mk.inj (Option.some.inj hs)
    exact ⟨h.start_le, h.stop_le⟩
  · exact h.captures.span? hs

end Match.Within

namespace Pattern

/-- So are all matches that are found one after the other. -/
theorem matchesFrom_within {p : Pattern} {fuel : Nat} {place : Place}
    (hh : place.high ≤ place.subject.size) (ha : place.anchor ≤ place.subject.size) :
    ∀ m ∈ p.matchesFrom fuel place, m.Within place.subject.size p.groups := by
  induction fuel generalizing place with
  | zero => simp [matchesFrom]
  | succ fuel ih =>
      unfold matchesFrom
      split
      · simp
      · next st hst =>
        have hw := search_within hh ha hst
        refine List.forall_mem_cons.mpr ⟨⟨?_, ?_, hw.captures⟩, ?_⟩
        · exact Nat.le_trans (Nat.min_le_left ..) (Nat.le_max_left ..)
        · exact Nat.max_le.mpr ⟨hw.start, hw.pos⟩
        · exact ih hh hw.pos

@[simp] theorem Subject.size_ofLine (line : List Char) (stop : Nat) :
    (Subject.ofLine line stop).size = min stop line.length := by
  simp [Subject.ofLine, Subject.size]

theorem Subject.after?_ofLine (line : List Char) (stop pos : Nat) :
    (Subject.ofLine line stop).after? pos = (line.take stop)[pos]?.map Char.toNat := by
  simp [Subject.ofLine, Subject.after?, -List.map_take]

/-- **The matches in a part of a line lie in the line**, and so do their groups, which are those of
the pattern; they end no later than that part. -/
theorem findAll_within (p : Pattern) (line : List Char) (start stop : Nat) :
    ∀ m ∈ p.findAll line start stop,
      m.Within (max (min start line.length) (min stop line.length)) p.groups := by
  intro m hm
  unfold findAll at hm
  simp only at hm
  generalize hlow : min start line.length = low at hm ⊢
  generalize hhigh : max low (min stop line.length) = high at hm ⊢
  have hsize : (Subject.ofLine line high).size = high := by
    rw [Subject.size_ofLine]; omega
  have hw := matchesFrom_within (Nat.le_of_eq hsize.symm) ?_ m hm
  · rwa [hsize] at hw
  · rw [hsize]
    simp only
    split <;> omega

end Pattern

end SourceAudit

import Mathlib.Algebra.GroupWithZero.Nat
import SourceAudit.Proofs.Pattern.Runs

/-!
# SourceAudit.Proofs.Pattern.Ways

The ways in which a pattern matches at a place, read off its form. A *direct* pattern is made of
characters, conditions, groups, alternatives, and repetitions of one character as often as possible
up to a bound. What the machine does with such a pattern can be told without its choices: at any
time there is a list of the states in which it may still end, the preferred one first, and every
step either leaves that list as it is or ends with its head.

* `step_follows` — a step keeps the ways that are left and brings the end nearer;
* `matchAt_direct` — so a direct pattern is matched in the first of its ways, if it has one.
-/

namespace SourceAudit.Pattern

/-- Is the pattern direct? -/
def Node.isDirect : Node → Bool
  | .empty => true
  | .never => true
  | .one _ => true
  | .cat l r => l.isDirect && r.isDirect
  | .alt l r => l.isDirect && r.isDirect
  | .group _ body => body.isDirect
  | .loop bounds fewest (.one _) => !fewest && bounds.greatest.isSome
  | .assertion _ => true
  | _ => false

/-- A frame that goes forward and tolerates no errors. -/
structure Frame.Onward (f : Frame) : Prop where
  direction : f.direction = .forward
  exact : f.tolerant = false

/-! ## The ways of a pattern -/

/-- The state in which a match at a place begins. -/
def State.initial (groups pos : Nat) : State :=
  ⟨pos, pos, Array.replicate groups none, .zero, none, 0⟩

/-- The state after a group that started at `start`. -/
def State.close (st : State) (number start : Nat) : State :=
  let span := some (min start st.pos, max start st.pos)
  { st with captures := st.captures.setIfInBounds (number - 1) span }

/-- The states that end up to `count` characters earlier, the latest first. -/
def State.shorter (st : State) : (count : Nat) → List State
  | 0 => []
  | count + 1 =>
    { st with pos := st.pos - 1 } :: State.shorter { st with pos := st.pos - 1 } count

/-- The number of characters of a set that a repetition takes at first. -/
def Search.taken (q : Search) (f : Frame) (bounds : Bounds) (s : CharSet) (pos : Nat) : Nat :=
  q.run s f (min (bounds.greatest.getD (Search.room f pos)) (Search.room f pos)) pos

/-- The states in which a direct pattern may end, the preferred one first. -/
def Node.ways (q : Search) (f : Frame) : Node → State → List State
  | .empty, st => [st]
  | .one s, st =>
    match f.next? q.subject st.pos with
    | some (c, pos) => if s.contains c then [{ st with pos := pos }] else []
    | none => []
  | .cat l r, st => (l.ways q f st).flatMap (r.ways q f)
  | .alt l r, st => l.ways q f st ++ r.ways q f st
  | .group number body, st => (body.ways q f st).map (·.close number st.pos)
  | .loop bounds _ (.one s), st =>
    let count := q.taken f bounds s st.pos
    if count < bounds.least then []
    else
      let longest := { st with pos := st.pos + count }
      longest :: longest.shorter (count - bounds.least)
  | .assertion a, st => if a.holds q.subject q.anchor st.pos then [st] else []
  | _, _ => []

section

variable (q : Search) (f : Frame) (st : State)

theorem Node.ways_cat (l r : Node) :
    (cat l r).ways q f st = (l.ways q f st).flatMap (r.ways q f) := rfl

theorem Node.ways_group (number : Nat) (body : Node) :
    (group number body).ways q f st = (body.ways q f st).map (·.close number st.pos) := rfl

end

/-- The states in which a task may end. -/
def Task.ways (q : Search) : Task → State → List State
  | .node n f, st => n.ways q f st
  | .close number start, st => [st.close number start]
  | _, _ => []

/-- The states in which some tasks may end, one after the other. -/
def waysOf (q : Search) : List Task → State → List State
  | [], st => [st]
  | t :: ts, st => (t.ways q st).flatMap (waysOf q ts)

/-- The states to which a choice may lead. -/
def Choice.ways (q : Search) : Choice → List State
  | .retry tasks st => waysOf q tasks st
  | .shorten tasks st _ count => (st.shorter count).flatMap (waysOf q tasks)
  | .lengthen _ _ _ _ _ => []

/-- The states in which a machine may end. -/
def Machine.ways (q : Search) (m : Machine) : List State :=
  waysOf q m.tasks m.st ++ m.choices.flatMap (Choice.ways q)

/-! ## How many steps are left -/

/-- A bound for the steps that a direct pattern takes in all of its ways, if `rest` is one for what
is done after it in one way. -/
def Node.cost : Node → (rest : Nat) → Nat
  | .cat l r, rest => l.cost (r.cost rest) + 1
  | .alt l r, rest => l.cost rest + r.cost rest + 1
  | .group _ body, rest => body.cost (rest + 1) + 1
  | .loop bounds _ (.one _), rest => (bounds.greatest.getD 0 - bounds.least + 1) * rest + 1
  | _, rest => rest + 1

/-- A bound for the steps that some tasks take. -/
def costOf : List Task → Nat
  | [] => 1
  | .node n _ :: ts => n.cost (costOf ts)
  | _ :: ts => costOf ts + 1

/-- A bound for the steps that a choice leads to. -/
def Choice.cost : Choice → Nat
  | .retry tasks _ => costOf tasks
  | .shorten tasks _ _ count => count * costOf tasks
  | .lengthen _ _ _ _ _ => 0

/-- A bound for the steps that a machine takes. -/
def Machine.cost (m : Machine) : Nat := costOf m.tasks + (m.choices.map Choice.cost).sum

theorem costOf_pos (ts : List Task) : 0 < costOf ts := by
  unfold costOf
  split
  · exact Nat.one_pos
  · unfold Node.cost
    split <;> exact Nat.succ_pos _
  · exact Nat.succ_pos _

/-! ## Machines with direct patterns only -/

/-- A task with a direct pattern, or the end of a group. -/
def Task.IsDirect : Task → Prop
  | .node n f => n.isDirect = true ∧ f.Onward
  | .close _ _ => True
  | _ => False

/-- A choice between direct patterns. -/
def Choice.IsDirect : Choice → Prop
  | .retry tasks _ => ∀ t ∈ tasks, t.IsDirect
  | .shorten tasks _ f count => (∀ t ∈ tasks, t.IsDirect) ∧ f.Onward ∧ 0 < count
  | .lengthen _ _ _ _ _ => False

/-- A machine with direct patterns, which has found no match so far. -/
structure Machine.IsDirect (m : Machine) : Prop where
  tasks : ∀ t ∈ m.tasks, t.IsDirect
  choices : ∀ c ∈ m.choices, c.IsDirect
  best : m.best = none

/-- A machine that is nearer to the same end than another. -/
structure Machine.Follows (q : Search) (m m' : Machine) : Prop where
  direct : m'.IsDirect
  ways : m'.ways q = m.ways q
  skipTo : m'.skipTo = m.skipTo
  cost_lt : m'.cost < m.cost

/-- What a step may come to: the machine is nearer to its end, or ends in the first of its ways. -/
def Outcome.Follows (q : Search) (m : Machine) : Outcome → Prop
  | .on m' => m.Follows q m'
  | .over found skipTo => found = (m.ways q).head? ∧ skipTo = m.skipTo

section

variable {q : Search} {m : Machine} {tasks rest : List Task} {st : State}

/-- Going on with other tasks that have the same ways. -/
theorem goOn_follows (hm : m.IsDirect) (htasks : ∀ t ∈ tasks, t.IsDirect)
    (hways : waysOf q tasks st = waysOf q m.tasks m.st) (hcost : costOf tasks < costOf m.tasks) :
    (m.goOn tasks st).Follows q m where
  direct := ⟨htasks, hm.choices, hm.best⟩
  ways := by rw [Machine.ways, Machine.ways, hways]
  skipTo := rfl
  cost_lt := Nat.add_lt_add_right hcost _

/-- Going on with some of the ways, the others being those of a choice. -/
theorem push_follows (hm : m.IsDirect) {c : Choice} (hc : c.IsDirect)
    (htasks : ∀ t ∈ tasks, t.IsDirect)
    (hways : waysOf q tasks st ++ c.ways q = waysOf q m.tasks m.st)
    (hcost : costOf tasks + c.cost < costOf m.tasks) :
    ((m.push c).goOn tasks st).Follows q m where
  direct := ⟨htasks, List.forall_mem_cons.mpr ⟨hc, hm.choices⟩, hm.best⟩
  ways := by
    rw [Machine.ways, Machine.ways, ← hways, List.append_assoc]
    rfl
  skipTo := rfl
  cost_lt := by
    simp only [Machine.cost, Machine.push, List.map_cons, List.sum_cons]
    omega

/-- Taking up the latest choice when the tasks have no way. -/
theorem fail_follows (hm : m.IsDirect) (hways : waysOf q m.tasks m.st = []) :
    (m.fail q.subject).Follows q m := by
  obtain ⟨ts, st, choices, height, skipTo, best⟩ := m
  obtain ⟨-, hchoices, hbest⟩ := hm
  have hpos := costOf_pos ts
  simp only at hchoices hbest hways
  subst hbest
  unfold Machine.fail
  cases choices with
  | nil => exact ⟨by simp [Machine.ways, hways], rfl⟩
  | cons c rest =>
      obtain ⟨hc, hrest⟩ := List.forall_mem_cons.mp hchoices
      cases c with
      | retry tasks st' =>
          refine ⟨⟨hc, hrest, rfl⟩, ?_, rfl, ?_⟩
          · simp [Machine.ways, hways, Choice.ways]
          · simp only [Machine.cost, List.map_cons, List.sum_cons, Choice.cost]
            omega
      | shorten tasks st' f count =>
          obtain ⟨htasks, honward, hcount⟩ := hc
          obtain ⟨count, rfl⟩ : ∃ k, count = k + 1 := ⟨count - 1, by omega⟩
          have hback : f.goBack st'.pos 1 = st'.pos - 1 := by
            rw [Frame.goBack, honward.direction]
          have hcost : (count + 1) * costOf tasks = count * costOf tasks + costOf tasks :=
            Nat.succ_mul count (costOf tasks)
          simp only [hback]
          split
          · next hlast =>
            obtain rfl : count = 0 := by omega
            refine ⟨⟨htasks, hrest, rfl⟩, ?_, rfl, ?_⟩
            · simp [Machine.ways, hways, Choice.ways, State.shorter]
            · simp only [Machine.cost, List.map_cons, List.sum_cons, Choice.cost]
              omega
          · next hmore =>
            refine ⟨⟨htasks, List.forall_mem_cons.mpr ⟨⟨htasks, honward, ?_⟩, hrest⟩, rfl⟩, ?_, rfl,
              ?_⟩
            · omega
            · simp [Machine.ways, hways, Choice.ways, State.shorter]
            · simp only [Machine.cost, List.map_cons, List.sum_cons, Choice.cost,
                Nat.add_sub_cancel]
              omega
      | lengthen tasks st' f s count => exact hc.elim

/-! ## Steps -/

/-- A repetition goes on with as many characters as possible; fewer are left as a choice. -/
theorem repeatOne_follows (hm : m.IsDirect) {s : CharSet} {bounds : Bounds} {f : Frame}
    (hf : f.Onward) (hbound : bounds.greatest.isSome = true)
    (htasks : m.tasks = .node (.loop bounds false (.one s)) f :: rest)
    (hrest : ∀ t ∈ rest, t.IsDirect) :
    (q.repeatOne m s bounds false f rest).Follows q m := by
  obtain ⟨greatest, hgreatest⟩ := Option.isSome_iff_exists.mp hbound
  have hadvance : ∀ pos count, Search.advance f pos count = pos + count := fun pos count => by
    rw [Search.advance, hf.direction]
  have hcost : costOf m.tasks = (greatest - bounds.least + 1) * costOf rest + 1 := by
    rw [htasks, costOf, Node.cost, hgreatest]
    rfl
  have hways : waysOf q m.tasks m.st =
      (Node.ways q f (.loop bounds false (.one s)) m.st).flatMap (waysOf q rest) := by
    rw [htasks]
    rfl
  have hmost : q.taken f bounds s m.st.pos ≤ greatest := by
    refine Nat.le_trans (Search.run_le_room ..) ?_
    rw [hgreatest]
    exact Nat.min_le_left ..
  obtain ⟨count, hcount⟩ : ∃ count, q.taken f bounds s m.st.pos = count := ⟨_, rfl⟩
  have hrun : q.run s f (min (bounds.greatest.getD (Search.room f m.st.pos))
      (Search.room f m.st.pos)) m.st.pos = count := hcount
  rw [hcount] at hmost
  simp only [Node.ways, hcount] at hways
  unfold Search.repeatOne
  simp only [Bool.false_eq_true, if_false, hadvance, hrun]
  by_cases hfew : count < bounds.least
  · rw [if_pos hfew] at hways ⊢
    exact fail_follows hm hways
  rw [if_neg hfew] at hways ⊢
  by_cases hmore : bounds.least < count
  · rw [if_pos hmore]
    refine push_follows hm ⟨hrest, hf, by omega⟩ hrest ?_ ?_
    · rw [hways]
      rfl
    · rw [hcost]
      have hle : (count - bounds.least + 1) * costOf rest ≤
          (greatest - bounds.least + 1) * costOf rest :=
        Nat.mul_le_mul_right _ (by omega)
      have hsplit : (count - bounds.least + 1) * costOf rest =
          (count - bounds.least) * costOf rest + costOf rest :=
        Nat.succ_mul ..
      simp only [Choice.cost]
      omega
  · rw [if_neg hmore]
    refine goOn_follows hm hrest ?_ ?_
    · rw [hways, Nat.sub_eq_zero_of_le (Nat.not_lt.mp hmore)]
      simp [State.shorter]
    · rw [hcost]
      have hle : 1 * costOf rest ≤ (greatest - bounds.least + 1) * costOf rest :=
        Nat.mul_le_mul_right _ (by omega)
      omega

/-- Starting on a direct pattern. -/
theorem enter_follows (hm : m.IsDirect) {n : Node} {f : Frame} (hn : n.isDirect = true)
    (hf : f.Onward) (htasks : m.tasks = .node n f :: rest) (hrest : ∀ t ∈ rest, t.IsDirect) :
    (q.enter m n f rest).Follows q m := by
  have hways : waysOf q m.tasks m.st = (n.ways q f m.st).flatMap (waysOf q rest) := by
    rw [htasks]
    rfl
  have hcost : costOf m.tasks = n.cost (costOf rest) := by
    rw [htasks]
    rfl
  have hmismatch : waysOf q m.tasks m.st = [] → (q.mismatch m n f rest).Follows q m := by
    intro hnone
    unfold Search.mismatch
    rw [hf.exact, if_neg Bool.false_ne_true]
    exact fail_follows hm hnone
  unfold Search.enter
  simp only
  cases n with
  | empty =>
      refine goOn_follows hm hrest ?_ (hcost ▸ Nat.lt_succ_self _)
      rw [hways]
      simp [Node.ways]
  | never => exact fail_follows hm hways
  | one s =>
      unfold Node.ways at hways
      simp only
      cases hnext : f.next? q.subject m.st.pos with
      | none =>
          rw [hnext] at hways
          exact hmismatch hways
      | some next =>
          obtain ⟨c, pos⟩ := next
          simp only [hnext] at hways ⊢
          by_cases hc : s.contains c = true
          · rw [if_pos hc] at hways ⊢
            refine goOn_follows hm hrest ?_ (hcost ▸ Nat.lt_succ_self _)
            rw [hways]
            simp
          · rw [if_neg hc] at hways ⊢
            exact hmismatch hways
  | cat l r =>
      obtain ⟨hl, hr⟩ := Bool.and_eq_true_iff.mp hn
      rw [hf.direction]
      refine goOn_follows hm (List.forall_mem_cons.mpr ⟨⟨hl, hf⟩,
        List.forall_mem_cons.mpr ⟨⟨hr, hf⟩, hrest⟩⟩) ?_ (hcost ▸ Nat.lt_succ_self _)
      rw [hways]
      simp only [waysOf, Task.ways, Node.ways, List.flatMap_assoc]
  | alt l r =>
      obtain ⟨hl, hr⟩ := Bool.and_eq_true_iff.mp hn
      refine push_follows hm (List.forall_mem_cons.mpr ⟨⟨hr, hf⟩, hrest⟩)
        (List.forall_mem_cons.mpr ⟨⟨hl, hf⟩, hrest⟩) ?_ (hcost ▸ Nat.lt_succ_self _)
      rw [hways]
      simp only [waysOf, Task.ways, Node.ways, Choice.ways, List.flatMap_append]
  | group number body =>
      refine goOn_follows hm (List.forall_mem_cons.mpr ⟨⟨hn, hf⟩,
        List.forall_mem_cons.mpr ⟨trivial, hrest⟩⟩) ?_ (hcost ▸ Nat.lt_succ_self _)
      rw [hways]
      simp only [waysOf, Task.ways, Node.ways, List.flatMap_map, List.flatMap_cons,
        List.flatMap_nil, List.append_nil]
  | loop bounds fewest body =>
      cases body with
      | one s =>
          obtain ⟨hgreedy, hbound⟩ := Bool.and_eq_true_iff.mp hn
          obtain rfl : fewest = false := by simpa using hgreedy
          simp only [hf.exact, Bool.false_eq_true, if_false]
          exact repeatOne_follows hm hf hbound htasks hrest
      | _ => simp [Node.isDirect] at hn
  | assertion a =>
      unfold Node.ways at hways
      simp only
      by_cases ha : a.holds q.subject q.anchor m.st.pos = true
      · rw [if_pos ha] at hways ⊢
        refine goOn_follows hm hrest ?_ (hcost ▸ Nat.lt_succ_self _)
        rw [hways]
        simp
      · rw [if_neg ha] at hways ⊢
        exact hmismatch hways
  | _ => simp [Node.isDirect] at hn

/-- **A step keeps the ways that are left**, and brings the end nearer. -/
theorem step_follows (hlongest : q.longest = false) (hadvance : q.mustAdvance = false)
    (hm : m.IsDirect) : (q.step m).Follows q m := by
  have htasks := hm.tasks
  unfold Search.step
  simp only
  cases ht : m.tasks with
  | nil =>
      simp only [Search.finish, hlongest, hadvance, Bool.false_and, Bool.false_eq_true, if_false]
      refine ⟨?_, rfl⟩
      simp [Machine.ways, ht, waysOf]
  | cons t rest =>
      rw [ht] at htasks
      obtain ⟨hfirst, hrest⟩ := List.forall_mem_cons.mp htasks
      cases t with
      | node n f => exact enter_follows hm hfirst.1 hfirst.2 ht hrest
      | close number start =>
          refine goOn_follows hm hrest ?_ ?_
          · rw [ht]
            simp [waysOf, Task.ways, State.close]
          · rw [ht]
            exact Nat.lt_succ_self _
      | _ => exact hfirst.elim

/-- **A machine with direct patterns ends in the first of its ways**, if it has one. -/
theorem steps_direct (hlongest : q.longest = false) (hadvance : q.mustAdvance = false)
    (hm : m.IsDirect) {fuel : Nat} (hfuel : m.cost ≤ fuel) :
    q.steps fuel m = ((m.ways q).head?, m.skipTo) := by
  induction fuel generalizing m with
  | zero =>
      have hpos := costOf_pos m.tasks
      unfold Machine.cost at hfuel
      omega
  | succ fuel ih =>
      have hstep := step_follows hlongest hadvance hm
      unfold Search.steps
      rcases hout : q.step m with m' | ⟨found, skipTo⟩
      · rw [hout] at hstep
        have hcost := hstep.cost_lt
        rw [← hstep.ways, ← hstep.skipTo]
        exact ih hstep.direct (by omega)
      · rw [hout] at hstep
        obtain ⟨rfl, rfl⟩ := hstep
        rfl

/-- **A direct pattern is matched in the first of its ways** at each place. -/
theorem matchAt_direct (hlongest : q.longest = false) (hadvance : q.mustAdvance = false)
    (hroot : q.root.isDirect = true) (hcost : q.root.cost 1 ≤ Search.stepLimit) {f : Frame}
    (hf : f.Onward) (groups pos : Nat) :
    q.matchAt f groups pos = ((q.root.ways q f (.initial groups pos)).head?, none) := by
  have hm : Machine.IsDirect ⟨[.node q.root f], .initial groups pos, [], 0, none, none⟩ :=
    ⟨List.forall_mem_singleton.mpr ⟨hroot, hf⟩, by simp, rfl⟩
  have hways : Machine.ways q ⟨[.node q.root f], .initial groups pos, [], 0, none, none⟩ =
      q.root.ways q f (.initial groups pos) := by
    simp [Machine.ways, waysOf, Task.ways]
  rw [← hways]
  exact steps_direct hlongest hadvance hm hcost

end

end SourceAudit.Pattern

import SourceAudit.Pattern.Reader
import SourceAudit.Proofs.Pattern.Ascii
import SourceAudit.Proofs.Pattern.Language
import SourceAudit.Proofs.Pattern.Taking

/-!
# SourceAudit.Proofs.Pattern.Guard

What the check for nested repetitions finds. It is itself a search with a pattern, for an inner
quantifier, closing parentheses and an unbounded outer one.

* `Search.Succeeds` — the machine comes to a match from some tasks and what is left of the text,
  whatever choices it has;
* `matchAt_steady` — a pattern without parts that would move the search leaves no place untried;
* `nestsRepetition_of_plain` — so the check finds what it is for wherever it is plainly written.
-/

namespace SourceAudit.Pattern

open Text

/-! ## Searches that try every place -/

/-- Is the pattern made of characters, repetitions of one as often as possible, and conditions that
something does not stand before or after? No part of it drops choices but its own, and none moves
the search. -/
def Node.isSteady : Node → Bool
  | .one _ => true
  | .cat l r => l.isSteady && r.isSteady
  | .alt l r => l.isSteady && r.isSteady
  | .loop _ false (.one _) => true
  | .look _ false body => body.isSteady
  | _ => false

/-- A task with a steady pattern, or the end of a condition. -/
def Task.IsSteady : Task → Prop
  | .node n f => n.isSteady = true ∧ f.tolerant = false
  | .refuse _ => True
  | _ => False

/-- A choice between steady patterns. -/
def Choice.IsSteady : Choice → Prop
  | .retry tasks _ => ∀ t ∈ tasks, t.IsSteady
  | .shorten tasks _ _ _ => ∀ t ∈ tasks, t.IsSteady
  | .lengthen _ _ _ _ _ => False

/-- A machine with steady patterns, which has not moved the search. -/
structure Machine.IsSteady (m : Machine) : Prop where
  tasks : ∀ t ∈ m.tasks, t.IsSteady
  choices : ∀ c ∈ m.choices, c.IsSteady
  skipTo : m.skipTo = none

/-- What a step of such a machine may come to. -/
def Outcome.IsSteady : Outcome → Prop
  | .on m => m.IsSteady
  | .over _ skipTo => skipTo = none

section

variable {q : Search} {m : Machine} {rest tasks : List Task} {st : State} {f : Frame}

/-- A steady machine goes on steadily. -/
theorem goOn_steady (hm : m.IsSteady) (htasks : ∀ t ∈ tasks, t.IsSteady) :
    (m.goOn tasks st).IsSteady :=
  ⟨htasks, hm.choices, hm.skipTo⟩

theorem push_steady (hm : m.IsSteady) {c : Choice} (hc : c.IsSteady) : (m.push c).IsSteady :=
  ⟨hm.tasks, List.forall_mem_cons.mpr ⟨hc, hm.choices⟩, hm.skipTo⟩

theorem cut_steady (hm : m.IsSteady) (height : Nat) : (m.cut height).IsSteady := by
  unfold Machine.cut
  split
  · exact ⟨hm.tasks, fun c hc => hm.choices c (List.mem_of_mem_drop hc), hm.skipTo⟩
  · exact hm

theorem fail_steady (hm : m.IsSteady) (s : Subject) : (m.fail s).IsSteady := by
  obtain ⟨ts, st, choices, height, skipTo, best⟩ := m
  obtain ⟨-, hchoices, hskip⟩ := hm
  simp only at hchoices hskip
  unfold Machine.fail
  cases choices with
  | nil => exact hskip
  | cons c rest =>
      obtain ⟨hc, hrest⟩ := List.forall_mem_cons.mp hchoices
      cases c with
      | retry tasks st' => exact ⟨hc, hrest, hskip⟩
      | shorten tasks st' f count =>
          simp only
          split
          · exact ⟨hc, hrest, hskip⟩
          · exact ⟨hc, List.forall_mem_cons.mpr ⟨hc, hrest⟩, hskip⟩
      | lengthen tasks st' f s count => exact hc.elim

/-- A mismatch leaves the machine steady. -/
theorem mismatch_steady (hm : m.IsSteady) (n : Node) (hf : f.tolerant = false) (rest : List Task) :
    (q.mismatch m n f rest).IsSteady := by
  unfold Search.mismatch
  rw [hf, if_neg Bool.false_ne_true]
  exact fail_steady hm q.subject

/-- So does the repetition of one character. -/
theorem repeatOne_steady (hm : m.IsSteady) (s : CharSet) (bounds : Bounds) (f : Frame)
    (hrest : ∀ t ∈ rest, t.IsSteady) : (q.repeatOne m s bounds false f rest).IsSteady := by
  unfold Search.repeatOne
  simp only [Bool.false_eq_true, if_false]
  split
  · exact fail_steady hm q.subject
  · split
    · exact goOn_steady (push_steady hm hrest) hrest
    · exact goOn_steady hm hrest

/-- Starting on a steady pattern. -/
theorem enter_steady (hm : m.IsSteady) {n : Node} (hn : n.isSteady = true)
    (hf : f.tolerant = false) (hrest : ∀ t ∈ rest, t.IsSteady) :
    (q.enter m n f rest).IsSteady := by
  unfold Search.enter
  simp only
  cases n with
  | one s =>
      simp only
      split
      · split
        · exact goOn_steady hm hrest
        · exact mismatch_steady hm _ hf rest
      · exact mismatch_steady hm _ hf rest
  | cat l r =>
      obtain ⟨hl, hr⟩ := Bool.and_eq_true_iff.mp hn
      simp only
      split
      · exact goOn_steady hm (List.forall_mem_cons.mpr ⟨⟨hl, hf⟩,
          List.forall_mem_cons.mpr ⟨⟨hr, hf⟩, hrest⟩⟩)
      · exact goOn_steady hm (List.forall_mem_cons.mpr ⟨⟨hr, hf⟩,
          List.forall_mem_cons.mpr ⟨⟨hl, hf⟩, hrest⟩⟩)
  | alt l r =>
      obtain ⟨hl, hr⟩ := Bool.and_eq_true_iff.mp hn
      exact goOn_steady (push_steady hm (List.forall_mem_cons.mpr ⟨⟨hr, hf⟩, hrest⟩))
        (List.forall_mem_cons.mpr ⟨⟨hl, hf⟩, hrest⟩)
  | loop bounds fewest body =>
      cases body with
      | one s =>
          cases fewest with
          | true => simp [Node.isSteady] at hn
          | false =>
              simp only [hf, Bool.false_eq_true, if_false]
              exact repeatOne_steady hm s bounds f hrest
      | _ => simp [Node.isSteady] at hn
  | look direction wanted body =>
      cases wanted with
      | true => simp [Node.isSteady] at hn
      | false =>
          exact goOn_steady (push_steady hm hrest)
            (List.forall_mem_cons.mpr ⟨⟨hn, rfl⟩, List.forall_mem_singleton.mpr trivial⟩)
  | _ => simp [Node.isSteady] at hn

theorem finish_steady (hm : m.IsSteady) : (q.finish m).IsSteady := by
  unfold Search.finish
  split
  · exact fail_steady hm q.subject
  · split
    · split
      · have hbest : Machine.IsSteady { m with best := some m.st } :=
          ⟨hm.tasks, hm.choices, hm.skipTo⟩
        exact fail_steady hbest q.subject
      · exact fail_steady hm q.subject
    · exact hm.skipTo

/-- Every step of a steady machine is steady. -/
theorem step_steady (hm : m.IsSteady) : (q.step m).IsSteady := by
  have htasks := hm.tasks
  unfold Search.step
  simp only
  cases ht : m.tasks with
  | nil => exact finish_steady hm
  | cons t rest =>
      rw [ht] at htasks
      obtain ⟨hfirst, hrest⟩ := List.forall_mem_cons.mp htasks
      cases t with
      | node n f => exact enter_steady hm hfirst.1 hfirst.2 hrest
      | refuse height => exact fail_steady (cut_steady hm height) q.subject
      | _ => exact hfirst.elim

/-- A steady machine does not move the search, however many steps it makes. -/
theorem steps_steady (hm : m.IsSteady) (fuel : Nat) : (q.steps fuel m).2 = none := by
  induction fuel generalizing m with
  | zero => exact hm.skipTo
  | succ fuel ih =>
      have hstep : (q.step m).IsSteady := step_steady hm
      unfold Search.steps
      rcases hout : q.step m with m' | ⟨found, skipTo⟩
      · rw [hout] at hstep
        exact ih hstep
      · rw [hout] at hstep
        exact hstep

/-- **A steady pattern does not move the search.** -/
theorem matchAt_steady (hroot : q.root.isSteady = true) (hf : f.tolerant = false)
    (groups pos : Nat) : (q.matchAt f groups pos).2 = none :=
  steps_steady ⟨List.forall_mem_singleton.mpr ⟨hroot, hf⟩, by simp, rfl⟩ _

/-- **No place is left untried**: a search with a steady pattern comes to a match if there is one at
a later place. -/
theorem firstFrom_isSome (hroot : q.root.isSteady = true) (hf : f.tolerant = false)
    (hforward : f.direction = .forward) {groups room pos place : Nat} {lead : Option CharSet}
    (hlead : mayStart lead q.subject place = true)
    (hfound : (q.matchAt f groups place).1.isSome) (hpos : pos ≤ place) (hhigh : place ≤ f.high)
    (hroom : place < pos + room) : (firstFrom q f groups lead room pos).isSome := by
  induction room generalizing pos with
  | zero => omega
  | succ room ih =>
      have hskip : (if mayStart lead q.subject pos = true then q.matchAt f groups pos
          else (none, none)).2 = none := by
        split
        · exact matchAt_steady hroot hf groups pos
        · rfl
      unfold firstFrom
      by_cases hhere : pos = place
      · subst hhere
        obtain ⟨st, hst⟩ := Option.isSome_iff_exists.mp hfound
        simp only [hlead, if_true, hst]
        rfl
      · have hnext : nextPlace? f.direction f.low f.high pos none = some (pos + 1) := by
          rw [hforward]
          simp only [nextPlace?, Option.getD_none, Nat.max_zero]
          rw [if_pos (by omega)]
        simp only [hskip, hnext]
        split
        · rfl
        · exact ih (by omega) (by omega)

end

/-! ## Coming to a match -/

/-- From some tasks and `left` of the text, the machine comes to a match within `count` steps,
whatever choices it has. -/
def Search.Succeeds (q : Search) (text : List Char) (count : Nat) (tasks : List Task)
    (left : List Char) : Prop :=
  ∀ st choices height skipTo fuel, text.drop st.pos = left → count ≤ fuel →
    (q.steps fuel ⟨tasks, st, choices, height, skipTo, none⟩).1.isSome

section

variable {q : Search} {f : Frame} {text left word : List Char} {count : Nat} {rest : List Task}
  {s : CharSet} {c : Char} {l r : Node}

theorem getElem?_of_drop {pos : Nat} (h : text.drop pos = c :: left) : text[pos]? = some c := by
  have hfirst := congrArg (fun cs : List Char => cs[0]?) h
  simpa using hfirst

theorem drop_of_append {pos : Nat} (h : text.drop pos = word ++ left) :
    text.drop (pos + word.length) = left := by
  rw [← List.drop_drop, h, List.drop_left]

theorem exists_succ_of_lt {fuel : Nat} (h : count + 1 ≤ fuel) :
    ∃ n, fuel = n + 1 ∧ count ≤ n :=
  ⟨fuel - 1, by omega, by omega⟩

namespace Search.Succeeds

/-- What succeeds with some fuel succeeds with more. -/
theorem mono {count' : Nat} {tasks : List Task} (h : q.Succeeds text count tasks left)
    (hle : count ≤ count') : q.Succeeds text count' tasks left :=
  fun st choices height skipTo fuel hleft hfuel =>
    h st choices height skipTo fuel hleft (Nat.le_trans hle hfuel)

theorem nil (hlongest : q.longest = false) (hadvance : q.mustAdvance = false) :
    q.Succeeds text 1 [] left := by
  intro st choices height skipTo fuel _ hfuel
  obtain ⟨fuel, rfl, -⟩ := exists_succ_of_lt hfuel
  rw [steps]
  simp [step, finish, hlongest, hadvance]

/-- A sequence takes what its two parts take one after the other. -/
theorem cat (hf : f.Onward)
    (h : q.Succeeds text count (.node l f :: .node r f :: rest) left) :
    q.Succeeds text (count + 1) (.node (.cat l r) f :: rest) left := by
  intro st choices height skipTo fuel hleft hfuel
  obtain ⟨n, rfl, hn⟩ := exists_succ_of_lt hfuel
  rw [steps]
  simp only [step, enter, hf.direction, Machine.goOn]
  exact h _ _ _ _ _ hleft hn

/-- The first of two ways is tried first. -/
theorem altLeft (h : q.Succeeds text count (.node l f :: rest) left) :
    q.Succeeds text (count + 1) (.node (.alt l r) f :: rest) left := by
  intro st choices height skipTo fuel hleft hfuel
  obtain ⟨n, rfl, hn⟩ := exists_succ_of_lt hfuel
  rw [steps]
  simp only [step, enter, Machine.push, Machine.goOn]
  exact h _ _ _ _ _ hleft hn

/-- A character that is in the set is taken. -/
theorem one (hq : Reads q f text) (hc : s.contains c.toNat = true)
    (h : q.Succeeds text count rest left) :
    q.Succeeds text (count + 1) (.node (.one s) f :: rest) (c :: left) := by
  intro st choices height skipTo fuel hleft hfuel
  obtain ⟨n, rfl, hn⟩ := exists_succ_of_lt hfuel
  rw [steps]
  simp only [step, enter, hq.next?, getElem?_of_drop hleft, Option.map_some, if_pos hc,
    Machine.goOn]
  have hnext : text.drop (st.pos + [c].length) = left := drop_of_append hleft
  exact h _ _ _ _ _ hnext hn

/-- The right alternative is taken up where the left one, a character, does not stand. -/
theorem altRight (hq : Reads q f text) (hc : s.contains c.toNat = false)
    (h : q.Succeeds text count (.node r f :: rest) (c :: left)) :
    q.Succeeds text (count + 2) (.node (.alt (.one s) r) f :: rest) (c :: left) := by
  intro st choices height skipTo fuel hleft hfuel
  obtain ⟨m, rfl, hm⟩ := exists_succ_of_lt hfuel
  obtain ⟨n, rfl, hn⟩ := exists_succ_of_lt hm
  rw [steps]
  simp only [step, enter, Machine.push, Machine.goOn]
  rw [steps]
  simp only [step, enter, hq.next?, getElem?_of_drop hleft, Option.map_some, hc,
    Bool.false_eq_true, if_false, mismatch, hq.onward.exact, Machine.fail]
  exact h _ _ _ _ _ hleft hn

/-- A repetition takes all characters of its set and goes on behind them. -/
theorem loop (hq : Reads q f text) {least : Nat} (hword : ∀ c ∈ word, s.contains c.toNat = true)
    (hnext : ∀ c ∈ left.head?, s.contains c.toNat = false) (hleast : least ≤ word.length)
    (h : q.Succeeds text count rest left) :
    q.Succeeds text (count + 1) (.node (.loop ⟨least, none⟩ false (.one s)) f :: rest)
      (word ++ left) := by
  intro st choices height skipTo fuel hleft hfuel
  obtain ⟨n, rfl, hn⟩ := exists_succ_of_lt hfuel
  have hget : ∀ i, text[st.pos + i]? = (word ++ left)[i]? := by
    intro i
    rw [← hleft, List.getElem?_drop]
  have hroom : Search.room f st.pos = (word ++ left).length := by
    rw [Search.room, hq.onward.direction, hq.high, ← hleft, List.length_drop]
  have hrun : q.run s f (min (word ++ left).length (word ++ left).length) st.pos = word.length := by
    rw [Nat.min_self]
    refine Nat.le_antisymm (Nat.le_of_not_lt fun hlt => ?_) (hq.le_run_iff.mpr ⟨by simp, ?_⟩)
    · obtain ⟨-, hall⟩ := hq.le_run_iff.mp (Nat.succ_le_of_lt hlt)
      obtain ⟨c, hc, hset⟩ := hall (st.pos + word.length) (by omega) (by omega)
      rw [hget, List.getElem?_append_right (Nat.le_refl _), Nat.sub_self, ← List.head?_eq_getElem?]
        at hc
      rw [hnext c hc] at hset
      exact Bool.false_ne_true hset
    · intro i hle hlt
      obtain ⟨k, rfl⟩ := Nat.exists_eq_add_of_le hle
      have hk : k < word.length := by omega
      refine ⟨word[k], ?_, hword _ (List.getElem_mem hk)⟩
      rw [hget, List.getElem?_append_left hk, List.getElem?_eq_getElem hk]
  have hadvance : Search.advance f st.pos word.length = st.pos + word.length := by
    rw [Search.advance, hq.onward.direction]
  have hdrop : text.drop (st.pos + word.length) = left := drop_of_append hleft
  rw [steps]
  simp only [step, enter, hq.onward.exact, Bool.false_eq_true, if_false, repeatOne, hroom,
    Option.getD_none, hrun, Nat.not_lt.mpr hleast, hadvance]
  by_cases hmore : least < word.length
  · rw [if_pos hmore]
    exact h { st with pos := st.pos + word.length } _ _ _ _ hdrop hn
  · rw [if_neg hmore]
    exact h { st with pos := st.pos + word.length } _ _ _ _ hdrop hn

end Search.Succeeds

/-- A condition that no character of a set stands before the position is passed if none does. -/
theorem steps_notAfter (hq : Reads q f text) {st : State} {choices : List Choice}
    {height : Nat} {skipTo : Option Nat} (fuel : Nat)
    (h : ∀ c, 0 < st.pos → text[st.pos - 1]? = some c → s.contains c.toNat = false) :
    q.steps (fuel + 2)
        ⟨.node (.look .backward false (.one s)) f :: rest, st, choices, height, skipTo, none⟩ =
      q.steps fuel ⟨rest, st, choices, height, skipTo, none⟩ := by
  have hnext : ∀ c pos, Frame.next? ⟨.backward, 0, q.subject.size, false⟩ q.subject st.pos =
      some (c, pos) → s.contains c = false := by
    intro c pos hsome
    unfold Frame.next? at hsome
    simp only [Subject.before?] at hsome
    split at hsome
    · next hpos =>
      have hafter := hq.subject (st.pos - 1)
      rw [Subject.after?] at hafter
      rw [if_neg (by omega), hafter, Option.map_map, Option.map_eq_some_iff] at hsome
      obtain ⟨d, hd, heq⟩ := hsome
      obtain ⟨rfl, -⟩ := Prod.mk.inj heq
      exact h d hpos hd
    · cases hsome
  rw [Search.steps]
  simp only [Search.step, Search.enter, Machine.push, Machine.goOn, Bool.false_eq_true, if_false]
  rw [Search.steps]
  simp only [Search.step, Search.enter]
  cases hn : Frame.next? ⟨.backward, 0, q.subject.size, false⟩ q.subject st.pos with
  | none => simp [Search.mismatch, Machine.fail]
  | some next =>
      obtain ⟨c, pos⟩ := next
      simp [hnext c pos hn, Search.mismatch, Machine.fail]

end

/-! ## The check -/

namespace Guard

/-- The pattern of an amount without an upper bound, in braces. -/
def amount : Node :=
  .cat (.one (.anyOf [123])) (.cat (.loop ⟨0, none⟩ false (.one (.property ⟨0, [9], false⟩ false)))
    (.cat (.one (.anyOf [44])) (.one (.anyOf [125]))))

/-- The pattern of the inner quantifier. -/
def inner : Node := .alt (.one (.union (.anyOf [43]) (.union (.anyOf [42]) (.anyOf [63])))) amount

/-- The pattern of the outer quantifier. -/
def outer : Node := .alt (.one (.union (.anyOf [43]) (.anyOf [42]))) amount

/-- What the check searches for, at a place that is not after a backslash. -/
def root : Node :=
  .cat (.look .backward false (.one (.anyOf [92])))
    (.cat inner (.cat (.loop ⟨1, none⟩ false (.one (.anyOf [41]))) outer))

/-- The check as it is read. -/
theorem nestedRepetition_eq :
    nestedRepetition.map (fun p => (p.root, p.direction, p.longest, p.groups, p.lead)) =
      some (root, .forward, false, 0, root.lead?) := by
  decide +kernel

section

variable {q : Search} {f : Frame} {text left word digits : List Char} {count : Nat}
  {rest : List Task}

theorem contains_digit {c : Char} (h : isAsciiDigit c = true) :
    (CharSet.property ⟨0, [9], false⟩ false).contains c.toNat = true := by
  have hlt : c.toNat < 128 := by
    simp only [isAsciiDigit, Bool.and_eq_true, decide_eq_true_eq] at h
    have hle : c.toNat ≤ '9'.toNat := h.2
    exact Nat.lt_of_le_of_lt hle (by decide)
  rw [CharSet.contains, isDecimal_ascii hlt, Char.ofNat_toNat, h]

theorem not_contains_comma : (CharSet.property ⟨0, [9], false⟩ false).contains 44 = false := by
  rw [CharSet.contains, isDecimal_ascii (by decide)]
  decide

/-- The number in braces is matched by the pattern for it. -/
theorem succeeds_amount (hq : Reads q f text) (hdigits : ∀ d ∈ digits, isAsciiDigit d = true)
    (h : q.Succeeds text count rest left) :
    q.Succeeds text (count + 7) (.node amount f :: rest)
      ('\x7b' :: (digits ++ ',' :: '\x7d' :: left)) := by
  refine .cat hq.onward (.one hq (by decide) (.cat hq.onward (.loop hq ?_ ?_ (Nat.zero_le _)
    (.cat hq.onward (.one hq (by decide) (.one hq (by decide) h))))))
  · exact fun c hc => contains_digit (hdigits c hc)
  · intro c hc
    obtain rfl := Option.some.inj hc
    exact not_contains_comma

/-- A quantifier without an upper bound, or one of the characters that may stand for it. -/
theorem succeeds_unbounded (hq : Reads q f text) {s : CharSet}
    (hs : ∀ c ∈ ['*', '+'], s.contains c.toNat = true) (hbrace : s.contains 123 = false)
    (hword : Reader.Unbounded word) (h : q.Succeeds text count rest left) :
    q.Succeeds text (count + 9) (.node (.alt (.one s) amount) f :: rest) (word ++ left) := by
  cases hword with
  | star => exact (Search.Succeeds.altLeft (.one hq (hs _ (by simp)) h)).mono (by omega)
  | plus => exact (Search.Succeeds.altLeft (.one hq (hs _ (by simp)) h)).mono (by omega)
  | least hdigits =>
      rw [List.cons_append, List.append_assoc]
      exact .altRight hq hbrace (succeeds_amount hq hdigits h)

/-- **The pattern for the outer repetition matches every unbounded quantifier.** -/
theorem succeeds_outer (hq : Reads q f text) (hword : Reader.Unbounded word)
    (h : q.Succeeds text count rest left) :
    q.Succeeds text (count + 9) (.node outer f :: rest) (word ++ left) :=
  succeeds_unbounded hq (List.all_eq_true.mp (by decide)) (by decide) hword h

/-- The pattern for the inner one matches those and the question mark. -/
theorem succeeds_inner (hq : Reads q f text) (hword : word = ['?'] ∨ Reader.Unbounded word)
    (h : q.Succeeds text count rest left) :
    q.Succeeds text (count + 9) (.node inner f :: rest) (word ++ left) := by
  rcases hword with rfl | hword
  · have hone : q.Succeeds text (count + 2) (.node inner f :: rest) ('?' :: left) :=
      .altLeft (.one hq (by decide) h)
    exact hone.mono (by omega)
  · exact succeeds_unbounded hq (List.all_eq_true.mp (by decide)) (by decide) hword h

/-- What a quantifier begins with. -/
theorem exists_head (hword : word = ['?'] ∨ Reader.Unbounded word) :
    ∃ c rest, word = c :: rest ∧ c ∈ ['?', '*', '+', '\x7b'] := by
  rcases hword with rfl | hword
  · exact ⟨_, _, rfl, by simp⟩
  · cases hword <;> exact ⟨_, _, rfl, by simp⟩

/-- No quantifier is passed over by looking at the first character. -/
theorem mayStart_lead {s : Subject} {pos : Nat} {c : Char} (hafter : s.after? pos = some c.toNat)
    (hc : c ∈ ['?', '*', '+', '\x7b']) : mayStart root.lead? s pos = true := by
  have hlead : ∀ c ∈ ['?', '*', '+', '\x7b'], root.lead?.all (·.contains c.toNat) = true :=
    List.all_eq_true.mp (by decide)
  have hcontains := hlead c hc
  unfold mayStart
  split
  · rfl
  · next set hset =>
    rw [hset, Option.all_some] at hcontains
    rw [hafter, Option.any_some, hcontains]

/-- A quantifier does not begin with a parenthesis. -/
theorem head?_ne_close (hword : Reader.Unbounded word) :
    ∀ c ∈ (word ++ left).head?, (CharSet.anyOf [41]).contains c.toNat = false := by
  intro c hc
  cases hword <;>
  · obtain rfl := Option.some.inj hc
    decide

end

/-- From an inner quantifier on, the check comes to a match. -/
theorem matchAt_isSome {q : Search} {f : Frame} {before word gap word' after : List Char}
    (hq : Reads q f (before ++ word ++ gap ++ word' ++ after)) (hroot : q.root = root)
    (hlongest : q.longest = false) (hadvance : q.mustAdvance = false)
    (hbefore : before.getLast? ≠ some '\\') (hword : word = ['?'] ∨ Reader.Unbounded word)
    (hgap : ∀ c ∈ gap, c = ')') (hne : gap ≠ []) (hword' : Reader.Unbounded word')
    (groups : Nat) : (q.matchAt f groups before.length).1.isSome := by
  have houter : q.Succeeds _ 10 [.node outer f] (word' ++ after) :=
    succeeds_outer hq hword' (.nil hlongest hadvance)
  have hclose : ∀ c ∈ gap, (CharSet.anyOf [41]).contains c.toNat = true := by
    intro c hc
    obtain rfl := hgap c hc
    decide
  have hinner : q.Succeeds _ _ _ (word ++ (gap ++ (word' ++ after))) :=
    .cat hq.onward (succeeds_inner hq hword (.cat hq.onward (.loop hq hclose
      (head?_ne_close hword') (List.length_pos_iff.mpr hne) houter)))
  obtain ⟨fuel, hfuel⟩ : ∃ fuel, Search.stepLimit = (fuel + 2) + 1 := ⟨_, rfl⟩
  have hat : (State.initial groups before.length).pos = before.length := rfl
  rw [Search.matchAt, hroot, hfuel, Search.steps]
  simp only [Search.step, root, Search.enter, hq.onward.direction, Machine.goOn]
  rw [steps_notAfter hq]
  · refine hinner (.initial groups before.length) [] 0 none fuel ?_ ?_
    · rw [hat]
      simp only [List.append_assoc, List.drop_left]
    · unfold Search.stepLimit at hfuel
      omega
  · intro c hpos hc
    simp only [List.append_assoc] at hpos hc
    rw [List.getElem?_append_left (by omega), ← List.getLast?_eq_getElem?] at hc
    have hslash : c ≠ '\\' := fun heq => hbefore (heq ▸ hc)
    have hcode : c.toNat ≠ 92 := fun heq => hslash (Char.toNat_inj.mp heq)
    simpa [CharSet.contains] using hcode

end Guard

/-- **What the check finds.** It refuses a pattern in which an inner quantifier that does not stand
after a backslash, closing parentheses and an unbounded quantifier follow each other. -/
theorem nestsRepetition_of_plain {source : String} {before inner gap outer after : List Char}
    (hsource : source.toList = before ++ inner ++ gap ++ outer ++ after)
    (hbefore : before.getLast? ≠ some '\\') (hinner : inner = ['?'] ∨ Reader.Unbounded inner)
    (hgap : ∀ c ∈ gap, c = ')') (hne : gap ≠ []) (houter : Reader.Unbounded outer) :
    nestsRepetition source = true := by
  obtain ⟨p, hp, hall⟩ := Option.map_eq_some_iff.mp Guard.nestedRepetition_eq
  simp only [Prod.mk.injEq] at hall
  obtain ⟨hroot, hdirection, hlongest, hgroups, hlead⟩ := hall
  have hexact : p.root.isTolerant = false := by
    rw [hroot]
    rfl
  rw [nestsRepetition, hp, Option.any_some, occursIn, hdirection]
  unfold search firstMatch
  simp only [hexact, Bool.false_and, Bool.false_eq_true, if_false, Option.map_id_fun', id,
    hdirection]
  have hfound : ((Search.mk (Subject.ofLine source.toList source.toList.length) p.root p.ascii 0
      false p.longest none).matchAt ⟨.forward, 0, source.toList.length, false⟩ p.groups
        before.length).1.isSome := by
    have hreads : Reads (Search.mk (Subject.ofLine source.toList source.toList.length) p.root
        p.ascii 0 false p.longest none) ⟨.forward, 0, source.toList.length, false⟩
        (before ++ inner ++ gap ++ outer ++ after) := by
      refine ⟨⟨rfl, rfl⟩, fun pos => ?_, ?_⟩
      · simp only
        rw [Subject.after?_ofLine, List.take_length, hsource]
      · simp only
        rw [hsource]
    exact Guard.matchAt_isSome hreads hroot hlongest rfl hbefore hinner hgap hne houter p.groups
  refine firstFrom_isSome ?_ rfl rfl ?_ hfound (Nat.zero_le _) ?_ ?_
  · simp only
    rw [hroot]
    rfl
  · rw [hlead]
    obtain ⟨c, rest, rfl, hc⟩ := Guard.exists_head hinner
    refine Guard.mayStart_lead ?_ hc
    rw [Subject.after?_ofLine, List.take_length, hsource]
    simp
  · simp [hsource]
  · rw [Subject.size_ofLine, hsource]
    simp only [List.append_assoc, List.length_append, Nat.min_self]
    omega

end SourceAudit.Pattern

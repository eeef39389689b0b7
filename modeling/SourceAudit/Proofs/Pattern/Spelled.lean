import Mathlib.Data.List.Forall2
import Mathlib.Data.Nat.Find
import SourceAudit.Line.Snippet
import SourceAudit.Pattern.Reader
import SourceAudit.Proofs.Pattern.Bounds

/-!
# SourceAudit.Proofs.Pattern.Spelled

Patterns whose matches are known by their texts alone: wherever a text of a kind stands in a line it
is a match, and a search enumerates what stands in a part of the line from the left.

* `Pattern.Finds` — a pattern finds the texts of a kind;
* `Enumerates.exists_of_leftmost` — what is leftmost in the whole line is enumerated in every part
  of it that holds it;
* `Spells.finds` — a pattern that spells a text character by character finds what it spells, such as
  a literal with or without regard to case.
-/

namespace SourceAudit.Pattern

open Line

/-! ## Texts in a line -/

/-- Texts of a kind. -/
abbrev Texts := List Char → Prop

/-- A text of a kind stands between two positions of a line. -/
structure StandsAt (texts : Texts) (line : List Char) (start stop : Nat) : Prop where
  start_le : start ≤ stop
  stop_le : stop ≤ line.length
  text : texts (slice line start stop)

/-- A position is the first one of a line at which a text of a kind starts. -/
structure Leftmost (texts : Texts) (line : List Char) (start : Nat) : Prop where
  stands : ∃ stop, StandsAt texts line start stop
  first : ∀ a b, StandsAt texts line a b → start ≤ a

/-- The matches in a line from `pos` up to `stop` are texts of a kind, the leftmost one first and
each beginning no earlier than the one before it ends. -/
inductive Enumerates (texts : Texts) (line : List Char) (stop : Nat) : (pos : Nat) → List Match →
    Prop
  | done {pos : Nat} (none_left : ∀ a b, pos ≤ a → b ≤ stop → ¬ StandsAt texts line a b) :
    Enumerates texts line stop pos []
  | found {pos : Nat} {m : Match} {ms : List Match} (pos_le : pos ≤ m.start)
    (stop_le : m.stop ≤ stop) (stands : StandsAt texts line m.start m.stop)
    (first : ∀ a b, pos ≤ a → a < m.start → b ≤ stop → ¬ StandsAt texts line a b)
    (rest : Enumerates texts line stop m.stop ms) : Enumerates texts line stop pos (m :: ms)

/-- A pattern finds the texts of a kind, none of which is empty: searching a part of a line
enumerates them. -/
structure Finds (p : Pattern) (texts : Texts) : Prop where
  nonempty : ∀ t, texts t → t ≠ []
  enumerates : ∀ line start stop, start ≤ stop → stop ≤ line.length →
    Enumerates texts line stop start (p.findAll line start stop)

section

variable {texts : Texts} {line : List Char} {stop pos a b : Nat} {ms : List Match} {m : Match}

/-- Where a text that is not empty stands there is room for it. -/
theorem StandsAt.lt (h : StandsAt texts line a b) (hne : ∀ t, texts t → t ≠ []) : a < b := by
  refine Nat.lt_of_le_of_ne h.start_le fun heq => hne _ h.text ?_
  rw [heq, slice, Nat.sub_self, List.take_zero]

/-- If a text of a kind stands in a line, one of them is leftmost. -/
theorem StandsAt.exists_leftmost (h : StandsAt texts line a b) :
    ∃ start, Leftmost texts line start := by
  classical
  have hsome : ∃ start stop, StandsAt texts line start stop := ⟨a, b, h⟩
  refine ⟨Nat.find hsome, Nat.find_spec hsome, fun c d hcd => ?_⟩
  exact Nat.find_min' hsome ⟨d, hcd⟩

/-- What is enumerated stands in the line. -/
theorem Enumerates.standsAt (h : Enumerates texts line stop pos ms) (hm : m ∈ ms) :
    StandsAt texts line m.start m.stop := by
  induction h with
  | done none_left => simp at hm
  | found pos_le stop_le stands first rest ih =>
      rcases List.mem_cons.mp hm with rfl | hm
      · exact stands
      · exact ih hm

/-- **The leftmost text is enumerated** in every part of the line that holds it. -/
theorem Enumerates.exists_of_leftmost (h : Enumerates texts line stop pos ms)
    (hleft : Leftmost texts line a) (hpos : pos ≤ a) (hab : StandsAt texts line a b)
    (hb : b ≤ stop) : ∃ m ∈ ms, m.start = a := by
  cases h with
  | done none_left => exact absurd hab (none_left a b hpos hb)
  | @found _ m ms pos_le stop_le stands first rest =>
      have hle : a ≤ m.start := hleft.first m.start m.stop stands
      have hnot : ¬ a < m.start := fun hlt => first a b hpos hlt hb hab
      exact ⟨m, List.mem_cons_self, by omega⟩

end

/-! ## Characters one after the other -/

/-- A pattern spells a text: it takes one character of each of some sets, in their order, and is
otherwise as patterns are read. -/
structure Spells (p : Pattern) (sets : List CharSet) : Prop where
  root : p.root = .seq (sets.map .one)
  lead : p.lead = p.root.lead?
  direction : p.direction = .forward
  longest : p.longest = false

/-- The texts with one character of each of some sets. -/
def spelledBy (sets : List CharSet) : Texts :=
  List.Forall₂ (fun set c => set.contains c.toNat = true) sets

/-- Do characters of some sets follow a position, one after the other? -/
def Subject.spells (s : Subject) : List CharSet → (pos : Nat) → Bool
  | [], _ => true
  | set :: sets, pos => (s.after? pos).any set.contains && s.spells sets (pos + 1)

/-- The frame of a search that goes forward to the end of the text. -/
def toEnd (s : Subject) (low : Nat) : Frame := ⟨.forward, low, s.size, false⟩

section

variable {q : Search} {low : Nat} {set : CharSet} {sets : List CharSet} {rest : List Task}
  {st : State}

/-- One character is taken if it is in the set; otherwise nothing is left to be tried. -/
theorem step_one :
    q.step ⟨.node (.one set) (toEnd q.subject low) :: rest, st, [], 0, none, none⟩ =
      if (q.subject.after? st.pos).any set.contains then
        .on ⟨rest, { st with pos := st.pos + 1 }, [], 0, none, none⟩
      else .over none none := by
  unfold Search.step Search.enter toEnd Frame.next? Search.mismatch Machine.fail Machine.goOn
  simp only
  by_cases hlt : st.pos < q.subject.size
  · rw [if_pos hlt]
    cases hc : q.subject.after? st.pos with
    | none => simp
    | some c => simp
  · have hnone : q.subject.after? st.pos = none :=
      Array.getElem?_eq_none (Nat.not_lt.mp hlt)
    rw [if_neg hlt, hnone]
    simp

theorem steps_nil (hlongest : q.longest = false) (hadvance : q.mustAdvance = false) (fuel : Nat) :
    q.steps (fuel + 1) ⟨[], st, [], 0, none, none⟩ = (some st, none) := by
  simp [Search.steps, Search.step, Search.finish, hlongest, hadvance]

/-- The machine takes the characters that follow if they are those of the sets. -/
theorem steps_seq (hlongest : q.longest = false) (hadvance : q.mustAdvance = false) {fuel : Nat}
    (hfuel : 2 * (sets.length + 1) ≤ fuel) :
    q.steps fuel ⟨[.node (.seq ((set :: sets).map .one)) (toEnd q.subject low)], st, [], 0, none,
        none⟩ =
      (if q.subject.spells (set :: sets) st.pos then
        some { st with pos := st.pos + (sets.length + 1) } else none, none) := by
  induction sets generalizing set st fuel with
  | nil =>
      obtain ⟨fuel, rfl⟩ : ∃ k, fuel = k + 2 := ⟨fuel - 2, by omega⟩
      have hseq : Node.seq ([set].map .one) = .one set := rfl
      rw [hseq, Search.steps, step_one]
      by_cases hc : (q.subject.after? st.pos).any set.contains = true
      · simp [Subject.spells, hc, steps_nil hlongest hadvance]
      · simp [Subject.spells, hc]
  | cons set' sets ih =>
      obtain ⟨fuel, rfl⟩ : ∃ k, fuel = k + 2 := ⟨fuel - 2, by omega⟩
      have hcat : q.step ⟨[.node (.seq ((set :: set' :: sets).map .one)) (toEnd q.subject low)], st,
            [], 0, none, none⟩ =
          .on ⟨[.node (.one set) (toEnd q.subject low),
            .node (.seq ((set' :: sets).map .one)) (toEnd q.subject low)], st, [], 0, none,
            none⟩ := rfl
      rw [Search.steps, hcat]
      simp only
      rw [Search.steps, step_one]
      by_cases hc : (q.subject.after? st.pos).any set.contains = true
      · rw [if_pos hc]
        simp only
        rw [ih (by rw [List.length_cons] at hfuel; omega)]
        have hspells : q.subject.spells (set :: set' :: sets) st.pos =
            q.subject.spells (set' :: sets) (st.pos + 1) := by
          rw [Subject.spells, hc, Bool.true_and]
        rw [hspells, List.length_cons, Nat.add_right_comm st.pos 1, Nat.add_assoc st.pos]
      · simp [Subject.spells, hc]

/-! ## Searching for what is spelled -/

/-- What a search for some characters comes to where they stand. -/
def spelledState (groups count pos : Nat) : State :=
  ⟨pos + count, pos, Array.replicate groups none, .zero, none, 0⟩

/-- A word has to begin with its first letter. -/
theorem lead?_seq (set : CharSet) (sets : List CharSet) :
    (Node.seq ((set :: sets).map .one)).lead? = some set := by
  cases sets <;> rfl

/-- A word tolerates no errors. -/
theorem not_isTolerant_seq (sets : List CharSet) :
    (Node.seq (sets.map .one)).isTolerant = false := by
  induction sets with
  | nil => rfl
  | cons set sets ih =>
      cases sets with
      | nil => rfl
      | cons set' sets => exact ih

/-- At each place the characters are found exactly if they stand there. -/
theorem matchAt_spelled (hroot : q.root = .seq ((set :: sets).map .one))
    (hlongest : q.longest = false) (hadvance : q.mustAdvance = false)
    (hlength : 2 * (set :: sets).length ≤ Search.stepLimit) (groups pos : Nat) :
    (if mayStart (some set) q.subject pos then q.matchAt (toEnd q.subject low) groups pos
      else (none, none)) =
      (if q.subject.spells (set :: sets) pos then some (spelledState groups (sets.length + 1) pos)
        else none, none) := by
  by_cases hstart : mayStart (some set) q.subject pos = true
  · rw [if_pos hstart, Search.matchAt, hroot, steps_seq hlongest hadvance hlength]
    rfl
  · have hnot : q.subject.spells (set :: sets) pos = false := by
      have hfirst : (q.subject.after? pos).any set.contains = false := Bool.not_eq_true _ ▸ hstart
      rw [Subject.spells, hfirst, Bool.false_and]
    rw [if_neg hstart, hnot]
    rfl

theorem spells_of_size_le {s : Subject} {pos : Nat} (h : s.size ≤ pos) :
    s.spells (set :: sets) pos = false := by
  have hnone : s.after? pos = none := Array.getElem?_eq_none h
  rw [Subject.spells, hnone, Option.any_none, Bool.false_and]

/-- What is found from a position on: the characters at the first place where they stand, if there
is one. -/
def FirstSpelled (s : Subject) (sets : List CharSet) (groups pos : Nat) : Option State → Prop
  | none => ∀ a, pos ≤ a → s.spells sets a = false
  | some st => ∃ a, st = spelledState groups sets.length a ∧ pos ≤ a ∧ s.spells sets a = true ∧
      ∀ b, pos ≤ b → b < a → s.spells sets b = false

/-- Where the word does not stand, the first one is that from the next position on. -/
theorem FirstSpelled.of_next {s : Subject} {groups pos : Nat} {found : Option State}
    (hpos : s.spells sets pos = false) (h : FirstSpelled s sets groups (pos + 1) found) :
    FirstSpelled s sets groups pos found := by
  have hhere : ∀ b, pos ≤ b → b < pos + 1 → s.spells sets b = false := by
    intro b hle hlt
    obtain rfl : b = pos := by omega
    exact hpos
  cases found with
  | none =>
      intro a ha
      by_cases ha' : a < pos + 1
      · exact hhere a ha ha'
      · exact h a (by omega)
  | some st =>
      obtain ⟨a, hst, hle, hspells, hfirst⟩ := h
      refine ⟨a, hst, by omega, hspells, fun b hb hlt => ?_⟩
      by_cases hb' : b < pos + 1
      · exact hhere b hb hb'
      · exact hfirst b (by omega) hlt

/-- A search goes on to the first place where the characters stand. -/
theorem firstFrom_spelled (hroot : q.root = .seq ((set :: sets).map .one))
    (hlongest : q.longest = false) (hadvance : q.mustAdvance = false)
    (hlength : 2 * (set :: sets).length ≤ Search.stepLimit) (groups : Nat) {room pos : Nat}
    (hroom : q.subject.size < pos + room) :
    FirstSpelled q.subject (set :: sets) groups pos
      (firstFrom q (toEnd q.subject low) groups (some set) room pos) := by
  induction room generalizing pos with
  | zero => exact fun a ha => spells_of_size_le (by omega)
  | succ room ih =>
      unfold firstFrom
      rw [matchAt_spelled hroot hlongest hadvance hlength]
      simp only
      cases hpos : q.subject.spells (set :: sets) pos with
      | true => exact ⟨pos, rfl, Nat.le_refl pos, hpos, fun b hle hlt => by omega⟩
      | false =>
          refine .of_next hpos ?_
          have hnext : nextPlace? (toEnd q.subject low).direction (toEnd q.subject low).low
              (toEnd q.subject low).high pos none =
                if pos + 1 ≤ q.subject.size then some (pos + 1) else none := by
            simp [nextPlace?, toEnd]
          simp only [Bool.false_eq_true, if_false, hnext]
          by_cases hend : pos + 1 ≤ q.subject.size
          · rw [if_pos hend]
            exact ih (by omega)
          · rw [if_neg hend]
            exact fun a ha => spells_of_size_le (by omega)

end

section

variable {p : Pattern} {set : CharSet} {sets : List CharSet}

/-- **The search for a word finds the first place where it stands.** -/
theorem Spells.search (h : p.Spells (set :: sets))
    (hlength : 2 * (set :: sets).length ≤ Search.stepLimit) (s : Subject) (low anchor : Nat) :
    FirstSpelled s (set :: sets) p.groups anchor (p.search ⟨s, low, s.size, anchor, false⟩) := by
  have hexact : p.root.isTolerant = false := by rw [h.root, not_isTolerant_seq]
  have hlead : p.lead = some set := by rw [h.lead, h.root, lead?_seq]
  unfold Pattern.search Pattern.firstMatch
  simp only [hexact, Bool.false_and, Bool.false_eq_true, if_false, Option.map_id_fun', id, hlead,
    h.direction]
  exact firstFrom_spelled h.root h.longest rfl hlength p.groups (by simp only; omega)

/-! ## What is spelled in a line -/

/-- The characters that follow a position, read off the line. -/
theorem spells_ofLine_iff {line : List Char} {stop pos : Nat} {sets : List CharSet} :
    (Subject.ofLine line stop).spells sets pos = true ↔
      spelledBy sets (((line.take stop).drop pos).take sets.length) := by
  induction sets generalizing pos with
  | nil => simp [Subject.spells, spelledBy]
  | cons set sets ih =>
      rw [Subject.spells, Bool.and_eq_true, ih, Subject.after?_ofLine]
      by_cases hlt : pos < (line.take stop).length
      · rw [List.drop_eq_getElem_cons hlt, List.getElem?_eq_getElem hlt]
        simp [spelledBy]
      · have hnil : (line.take stop).drop pos = [] := List.drop_eq_nil_of_le (Nat.not_lt.mp hlt)
        rw [hnil, List.getElem?_eq_none (Nat.not_lt.mp hlt)]
        simp [spelledBy]

/-- A word stands in a line before the stop exactly where it is spelled there. -/
theorem spells_iff_standsAt {line : List Char} {stop a b : Nat} {sets : List CharSet}
    (hstop : stop ≤ line.length) :
    (StandsAt (spelledBy sets) line a b ∧ b ≤ stop) ↔
      (a ≤ stop ∧ b = a + sets.length ∧ (Subject.ofLine line stop).spells sets a = true) := by
  rw [spells_ofLine_iff]
  constructor
  · rintro ⟨⟨hle, -, htext⟩, hb⟩
    have hlen := List.Forall₂.length_eq htext
    rw [slice, List.length_take, List.length_drop] at hlen
    have hn : b = a + sets.length := by omega
    refine ⟨by omega, hn, ?_⟩
    rw [List.drop_take, List.take_take, Nat.min_eq_left (by omega)]
    rw [slice, hn, Nat.add_sub_cancel_left] at htext
    exact htext
  · rintro ⟨ha, rfl, htext⟩
    have hlen := List.Forall₂.length_eq htext
    rw [List.length_take, List.length_drop, List.length_take] at hlen
    have hb : a + sets.length ≤ stop := by omega
    rw [List.drop_take, List.take_take, Nat.min_eq_left (by omega)] at htext
    refine ⟨⟨by omega, by omega, ?_⟩, hb⟩
    rw [slice, Nat.add_sub_cancel_left]
    exact htext

/-- Going on from a position, the search enumerates what is spelled from there. -/
theorem Spells.enumerates_matchesFrom (h : p.Spells (set :: sets))
    (hlength : 2 * (set :: sets).length ≤ Search.stepLimit) {line : List Char} {stop : Nat}
    (hstop : stop ≤ line.length) (low : Nat) {fuel anchor : Nat} (hanchor : anchor ≤ stop)
    (hfuel : stop < anchor + fuel) :
    Enumerates (spelledBy (set :: sets)) line stop anchor
      (p.matchesFrom fuel ⟨.ofLine line stop, low, stop, anchor, false⟩) := by
  have hsize : (Subject.ofLine line stop).size = stop := by
    rw [Subject.size_ofLine, Nat.min_eq_left hstop]
  induction fuel generalizing anchor with
  | zero => omega
  | succ fuel ih =>
      have hsearch := h.search hlength (.ofLine line stop) low anchor
      rw [hsize] at hsearch
      unfold matchesFrom
      split
      · next hnone =>
        rw [hnone] at hsearch
        refine .done fun a b ha hb hab => ?_
        obtain ⟨-, -, hspells⟩ := (spells_iff_standsAt hstop).mp ⟨hab, hb⟩
        rw [hsearch a ha] at hspells
        exact Bool.false_ne_true hspells
      · next st hsome =>
        rw [hsome] at hsearch
        obtain ⟨a, rfl, ha, hspells, hfirst⟩ := hsearch
        have hle : a ≤ stop := by
          by_contra hgt
          rw [spells_of_size_le (by omega)] at hspells
          exact Bool.false_ne_true hspells
        obtain ⟨hstands, hend⟩ := (spells_iff_standsAt hstop).mpr ⟨hle, rfl, hspells⟩
        have hmoved : (a == a + (set :: sets).length) = false := by simp
        simp only [spelledState, hmoved, Nat.min_eq_left (Nat.le_add_right _ _),
          Nat.max_eq_right (Nat.le_add_right _ _)]
        refine .found ha hend hstands (fun c d hc hlt hd hcd => ?_) (ih hend ?_)
        · obtain ⟨-, -, hspells'⟩ := (spells_iff_standsAt hstop).mp ⟨hcd, hd⟩
          rw [hfirst c hc hlt] at hspells'
          exact Bool.false_ne_true hspells'
        · simp only [List.length_cons]
          omega

/-- **A pattern that spells a text finds what it spells.** The machine takes at most two steps for a
character, so a text of less than half its limit of steps is never given up. -/
theorem Spells.finds (h : p.Spells (set :: sets))
    (hlength : 2 * (set :: sets).length ≤ Search.stepLimit) :
    p.Finds (spelledBy (set :: sets)) where
  nonempty t ht hnil := by
    have hlen := List.Forall₂.length_eq ht
    simp [hnil] at hlen
  enumerates line start stop hle hstop := by
    unfold findAll
    simp only [h.direction, Nat.min_eq_left hstop, Nat.min_eq_left (Nat.le_trans hle hstop),
      Nat.max_eq_right hle]
    exact h.enumerates_matchesFrom hlength hstop start hle (by omega)

theorem contains_literal_iff {ascii : Bool} {c d : Char} :
    (CharSet.literal false ascii c.toNat).contains d.toNat = true ↔ c = d := by
  rw [CharSet.literal, if_neg Bool.false_ne_true, CharSet.contains, List.contains_iff_mem,
    List.mem_singleton, Char.toNat_inj, eq_comm]

/-- A literal spells one text, its own. -/
theorem spelledBy_literal_iff {ascii : Bool} {text t : List Char} :
    spelledBy (text.map fun c => .literal false ascii c.toNat) t ↔ t = text := by
  unfold spelledBy
  simp only [List.forall₂_map_left_iff, contains_literal_iff]
  rw [List.forall₂_eq_eq_eq, eq_comm]

end

/-- A literal as it is read spells its characters. -/
example : (read? "eval" false).map (·.root) =
    some (.seq (("eval".toList.map fun c => .literal false false c.toNat).map .one)) := by
  decide +kernel

end SourceAudit.Pattern

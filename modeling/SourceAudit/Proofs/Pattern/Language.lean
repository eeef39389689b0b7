import SourceAudit.Proofs.Line.Layout
import SourceAudit.Proofs.Pattern.Spelled
import SourceAudit.Proofs.Pattern.Ways

/-!
# SourceAudit.Proofs.Pattern.Language

The texts that a pattern takes. A *textual* pattern is a direct one without conditions and groups,
so that what it matches at a place depends on nothing but the characters that follow.

* `mem_ways_iff` — its ways at a place are the texts of the pattern that stand there;
* `Node.Takes.first`, `Node.Takes.mayBeEmpty` — what is known of the first character of such a text
  is right.
-/

namespace SourceAudit.Pattern

open Line

/-! ## Texts that stand in a line -/

section

variable {text : List Char} {a b : Nat}

theorem mem_slice_iff {c : Char} :
    c ∈ slice text a b ↔ ∃ i, a ≤ i ∧ i < b ∧ text[i]? = some c := by
  rw [slice, List.mem_iff_getElem?]
  constructor
  · rintro ⟨k, hk⟩
    rw [List.getElem?_take, Option.ite_none_right_eq_some, List.getElem?_drop] at hk
    exact ⟨a + k, by omega, by omega, hk.2⟩
  · rintro ⟨i, ha, hb, hi⟩
    refine ⟨i - a, ?_⟩
    rw [List.getElem?_take, if_pos (by omega), List.getElem?_drop, Nat.add_sub_cancel' ha, hi]

/-- Two slices with a common end make one. -/
theorem slice_append_slice {m : Nat} (ha : a ≤ m) (hb : m ≤ b) :
    slice text a m ++ slice text m b = slice text a b := by
  have hdrop : text.drop m = (text.drop a).drop (m - a) := by
    rw [List.drop_drop, Nat.add_sub_cancel' ha]
  rw [slice, slice, slice, hdrop, ← List.take_add]
  congr 1
  omega

/-- The empty text stands everywhere in a text. -/
theorem standsAt_nil_iff : StandsAt (· = []) text a b ↔ a ≤ text.length ∧ b = a := by
  constructor
  · rintro ⟨hle, hb, htext⟩
    have hlen := length_slice text a b
    rw [htext, List.length_nil] at hlen
    exact ⟨Nat.le_trans hle hb, by omega⟩
  · rintro ⟨ha, rfl⟩
    exact ⟨Nat.le_refl _, ha, by rw [slice, Nat.sub_self, List.take_zero]⟩

/-- A text of one character stands where the character does. -/
theorem standsAt_singleton_iff {p : Char → Prop} :
    StandsAt (fun t => ∃ c, t = [c] ∧ p c) text a b ↔ ∃ c, text[a]? = some c ∧ p c ∧ b = a + 1 := by
  constructor
  · rintro ⟨hle, hb, c, htext, hc⟩
    have hlen := length_slice text a b
    rw [htext, List.length_singleton] at hlen
    have hmem : c ∈ slice text a b := htext ▸ List.mem_singleton_self c
    obtain ⟨i, ha, hi, hget⟩ := mem_slice_iff.mp hmem
    obtain rfl : i = a := by omega
    exact ⟨c, hget, hc, by omega⟩
  · rintro ⟨c, hget, hc, rfl⟩
    obtain ⟨hlt, rfl⟩ := List.getElem?_eq_some_iff.mp hget
    refine ⟨Nat.le_succ a, hlt, _, ?_, hc⟩
    rw [slice, Nat.add_sub_cancel_left, List.drop_eq_getElem_cons hlt]
    rfl

/-- A text in two parts stands where its parts stand, one after the other. -/
theorem standsAt_append_iff {left right : Texts} :
    StandsAt (fun t => ∃ u v, t = u ++ v ∧ left u ∧ right v) text a b ↔
      ∃ m, StandsAt left text a m ∧ StandsAt right text m b := by
  constructor
  · rintro ⟨hle, hb, u, v, htext, hu, hv⟩
    have hlen := length_slice text a b
    rw [htext, List.length_append] at hlen
    have hm : a + u.length ≤ b := by omega
    have hsplit : slice text a (a + u.length) ++ slice text (a + u.length) b = u ++ v := by
      rw [slice_append_slice (Nat.le_add_right ..) hm, htext]
    have hleft : (slice text a (a + u.length)).length = u.length := by
      rw [length_slice]
      omega
    obtain ⟨htake, hdrop⟩ := List.append_inj hsplit hleft
    refine ⟨_, ⟨Nat.le_add_right .., by omega, ?_⟩, ⟨hm, hb, ?_⟩⟩
    · rwa [htake]
    · rwa [hdrop]
  · rintro ⟨m, hu, hv⟩
    exact ⟨Nat.le_trans hu.start_le hv.start_le, hv.stop_le, _, _,
      (slice_append_slice hu.start_le hv.start_le).symm, hu.text, hv.text⟩

end

/-! ## The texts of a pattern -/

/-- Is the pattern textual? -/
def Node.isTextual : Node → Bool
  | .empty => true
  | .never => true
  | .one _ => true
  | .cat l r => l.isTextual && r.isTextual
  | .alt l r => l.isTextual && r.isTextual
  | .loop bounds fewest (.one _) => !fewest && bounds.greatest.isSome
  | _ => false

/-- Is a number within bounds? -/
def Bounds.Admit (bounds : Bounds) (n : Nat) : Prop :=
  bounds.least ≤ n ∧ ∀ greatest, bounds.greatest = some greatest → n ≤ greatest

/-- The texts that a textual pattern takes. -/
def Node.Takes : Node → Texts
  | .empty => (· = [])
  | .one s => fun t => ∃ c, t = [c] ∧ s.contains c.toNat = true
  | .cat l r => fun t => ∃ u v, t = u ++ v ∧ l.Takes u ∧ r.Takes v
  | .alt l r => fun t => l.Takes t ∨ r.Takes t
  | .loop bounds _ (.one s) =>
    fun t => bounds.Admit t.length ∧ ∀ c ∈ t, s.contains c.toNat = true
  | _ => fun _ => False

/-- A node of texts and classes is matched directly. -/
theorem Node.isDirect_of_isTextual {n : Node} (h : n.isTextual = true) : n.isDirect = true := by
  induction n with
  | cat l r ihl ihr =>
      obtain ⟨hl, hr⟩ := Bool.and_eq_true_iff.mp h
      rw [isDirect, ihl hl, ihr hr, Bool.and_self]
  | alt l r ihl ihr =>
      obtain ⟨hl, hr⟩ := Bool.and_eq_true_iff.mp h
      rw [isDirect, ihl hl, ihr hr, Bool.and_self]
  | loop bounds fewest body ih =>
      cases body with
      | one s => exact h
      | _ => simp [isTextual] at h
  | _ => first | rfl | simp [isTextual] at h

/-! ## What is known of the first character -/

theorem Node.Takes.mayBeEmpty {n : Node} (h : n.Takes []) : n.mayBeEmpty = true := by
  induction n with
  | empty => rfl
  | one s =>
      obtain ⟨c, hc, -⟩ := h
      simp at hc
  | cat l r ihl ihr =>
      obtain ⟨u, v, hsplit, hu, hv⟩ := h
      obtain ⟨rfl, rfl⟩ := List.append_eq_nil_iff.mp hsplit.symm
      rw [Node.mayBeEmpty, ihl hu, ihr hv, Bool.and_self]
  | alt l r ihl ihr =>
      rw [Node.mayBeEmpty]
      rcases h with h | h
      · rw [ihl h, Bool.true_or]
      · rw [ihr h, Bool.or_true]
  | loop bounds fewest body ih =>
      cases body with
      | one s =>
          have hleast : bounds.least = 0 := Nat.le_zero.mp h.1.1
          rw [Node.mayBeEmpty, hleast]
          rfl
      | _ => exact h.elim
  | _ => exact h.elim

/-- What a node takes begins with one of its first characters. -/
theorem Node.Takes.first {n : Node} {c : Char} {t : List Char} (h : n.Takes (c :: t)) :
    n.firsts.contains c.toNat = true := by
  induction n generalizing t with
  | empty => simp [Node.Takes] at h
  | one s =>
      obtain ⟨d, hd, hs⟩ := h
      obtain ⟨rfl, -⟩ := List.cons.inj hd
      exact hs
  | cat l r ihl ihr =>
      obtain ⟨u, v, hsplit, hu, hv⟩ := h
      rw [Node.firsts]
      cases u with
      | nil =>
          -- The left part takes nothing, so that the right one may be first.
          rw [if_pos hu.mayBeEmpty, CharSet.contains, Bool.or_eq_true]
          rw [List.nil_append] at hsplit
          subst hsplit
          exact .inr (ihr hv)
      | cons d u =>
          obtain ⟨rfl, -⟩ := List.cons.inj hsplit
          have hl := ihl hu
          split
          · rw [CharSet.contains, hl, Bool.true_or]
          · exact hl
  | alt l r ihl ihr =>
      rw [Node.firsts, CharSet.contains, Bool.or_eq_true]
      exact h.imp ihl ihr
  | loop bounds fewest body ih =>
      cases body with
      | one s => exact h.2 c List.mem_cons_self
      | _ => exact h.elim
  | _ => exact h.elim

/-! ## Ways and texts -/

/-- A search that goes forward to the end of a text. -/
structure Reads (q : Search) (f : Frame) (text : List Char) : Prop where
  onward : f.Onward
  subject : ∀ pos, q.subject.after? pos = text[pos]?.map Char.toNat
  high : f.high = text.length

section

variable {q : Search} {f : Frame} {text : List Char}

theorem Reads.next? (h : Reads q f text) (pos : Nat) :
    f.next? q.subject pos = text[pos]?.map fun c => (c.toNat, pos + 1) := by
  rw [Frame.next?, h.onward.direction, h.high, h.subject]
  by_cases hlt : pos < text.length
  · simp [hlt]
  · simp [hlt]

/-- Which numbers of characters of a set follow a position. -/
theorem Reads.le_run_iff (h : Reads q f text) {s : CharSet} {room pos count : Nat} :
    count ≤ q.run s f room pos ↔ count ≤ room ∧
      ∀ i, pos ≤ i → i < pos + count → ∃ c, text[i]? = some c ∧ s.contains c.toNat = true := by
  induction room generalizing pos count with
  | zero =>
      rw [Search.run]
      exact ⟨fun hle => ⟨hle, fun i _ _ => by omega⟩, fun hle => hle.1⟩
  | succ room ih =>
      cases count with
      | zero => simp only [Nat.zero_le, true_and, true_iff]; omega
      | succ count =>
          -- The first character is one of the set, and the others are by induction.
          have hfirst : (∀ i, pos ≤ i → i < pos + (count + 1) →
              ∃ c, text[i]? = some c ∧ s.contains c.toNat = true) ↔
              (∃ c, text[pos]? = some c ∧ s.contains c.toNat = true) ∧
              ∀ i, pos + 1 ≤ i → i < pos + 1 + count →
                ∃ c, text[i]? = some c ∧ s.contains c.toNat = true := by
            constructor
            · exact fun hall => ⟨hall pos (Nat.le_refl pos) (by omega), fun i hle hlt =>
                hall i (by omega) (by omega)⟩
            · rintro ⟨hpos, hrest⟩ i hle hlt
              by_cases heq : i = pos
              · exact heq ▸ hpos
              · exact hrest i (by omega) (by omega)
          rw [Search.run, h.next?, hfirst, Nat.succ_le_succ_iff]
          cases htext : text[pos]? with
          | none => simp
          | some c =>
              simp only [Option.map_some, Option.some.injEq, exists_eq_left']
              by_cases hc : s.contains c.toNat = true
              · rw [if_pos hc, Nat.succ_le_succ_iff, ih]
                simp only [hc, true_and]
              · rw [if_neg hc]
                simp [hc]

/-- A shorter run ends some characters before. -/
theorem mem_shorter_iff {st st' : State} {count : Nat} :
    st' ∈ st.shorter count ↔ ∃ k, 0 < k ∧ k ≤ count ∧ st' = { st with pos := st.pos - k } := by
  induction count generalizing st with
  | zero =>
      simp only [State.shorter, List.not_mem_nil, false_iff]
      rintro ⟨k, hpos, hle, -⟩
      omega
  | succ count ih =>
      rw [State.shorter, List.mem_cons, ih]
      constructor
      · rintro (rfl | ⟨k, hpos, hle, rfl⟩)
        · exact ⟨1, Nat.one_pos, by omega, rfl⟩
        · exact ⟨k + 1, Nat.succ_pos k, by omega, by simp only [Nat.sub_sub, Nat.add_comm 1]⟩
      · rintro ⟨k, hpos, hle, rfl⟩
        by_cases hone : k = 1
        · exact .inl (by rw [hone])
        · refine .inr ⟨k - 1, by omega, by omega, ?_⟩
          simp only [Nat.sub_sub, Nat.add_sub_cancel' hpos]

/-- The ways of a repetition: as many characters as are admitted and follow. -/
theorem Reads.mem_ways_loop_iff (h : Reads q f text) {bounds : Bounds} {s : CharSet}
    {st st' : State} (hpos : st.pos ≤ text.length) :
    st' ∈ (Node.loop bounds false (.one s)).ways q f st ↔
      ∃ b, StandsAt (Node.loop bounds false (.one s)).Takes text st.pos b ∧
        st' = { st with pos := b } := by
  have hroom : Search.room f st.pos = text.length - st.pos := by
    rw [Search.room, h.onward.direction, h.high]
  have hstands : ∀ count, StandsAt (Node.loop bounds false (.one s)).Takes text st.pos
      (st.pos + count) ↔ bounds.least ≤ count ∧ count ≤ q.taken f bounds s st.pos := by
    intro count
    rw [Search.taken, h.le_run_iff, hroom]
    have hlen := length_slice text st.pos (st.pos + count)
    have hmost : count ≤ min (bounds.greatest.getD (text.length - st.pos))
        (text.length - st.pos) ↔ (∀ g, bounds.greatest = some g → count ≤ g) ∧
          st.pos + count ≤ text.length := by
      cases bounds.greatest with
      | none => simp; omega
      | some g => simp; omega
    rw [hmost]
    constructor
    · rintro ⟨-, hb, hbounds, hall⟩
      rw [hlen, Nat.min_eq_left hb, Nat.add_sub_cancel_left] at hbounds
      refine ⟨hbounds.1, ⟨hbounds.2, hb⟩, fun i hle hlt => ?_⟩
      have hi : i < text.length := by omega
      refine ⟨text[i], List.getElem?_eq_getElem hi, hall _ ?_⟩
      exact mem_slice_iff.mpr ⟨i, hle, hlt, List.getElem?_eq_getElem hi⟩
    · rintro ⟨hleast, ⟨hgreatest, hb⟩, hall⟩
      refine ⟨Nat.le_add_right .., hb, ?_, fun c hc => ?_⟩
      · rw [hlen, Nat.min_eq_left hb, Nat.add_sub_cancel_left]
        exact ⟨hleast, hgreatest⟩
      · obtain ⟨i, hle, hlt, hget⟩ := mem_slice_iff.mp hc
        obtain ⟨d, hd, hset⟩ := hall i hle hlt
        rw [hget] at hd
        exact Option.some.inj hd ▸ hset
  have hends : ∀ b, StandsAt (Node.loop bounds false (.one s)).Takes text st.pos b ↔
      st.pos + bounds.least ≤ b ∧ b ≤ st.pos + q.taken f bounds s st.pos := by
    intro b
    by_cases hle : st.pos ≤ b
    · obtain ⟨count, rfl⟩ := Nat.exists_eq_add_of_le hle
      rw [hstands]
      omega
    · exact ⟨fun hb => absurd hb.start_le hle, fun hb => by omega⟩
  simp only [hends, Node.ways]
  generalize q.taken f bounds s st.pos = count
  by_cases hfew : count < bounds.least
  · rw [if_pos hfew]
    simp only [List.not_mem_nil, false_iff]
    rintro ⟨b, hb, -⟩
    omega
  rw [if_neg hfew, List.mem_cons, mem_shorter_iff]
  constructor
  · rintro (rfl | ⟨k, -, hk, rfl⟩)
    · exact ⟨_, ⟨by omega, Nat.le_refl _⟩, rfl⟩
    · exact ⟨_, ⟨by simp only; omega, by simp only; omega⟩, rfl⟩
  · rintro ⟨b, ⟨hleast, hmost⟩, rfl⟩
    by_cases hlongest : b = st.pos + count
    · exact .inl (by rw [hlongest])
    · refine .inr ⟨st.pos + count - b, by omega, by omega, ?_⟩
      simp only
      congr 1
      omega

/-- **The ways of a textual pattern** at a place are the texts that it takes and that stand
there. -/
theorem Reads.mem_ways_iff (h : Reads q f text) {n : Node} (hn : n.isTextual = true)
    {st st' : State} (hpos : st.pos ≤ text.length) :
    st' ∈ n.ways q f st ↔ ∃ b, StandsAt n.Takes text st.pos b ∧ st' = { st with pos := b } := by
  induction n generalizing st st' with
  | empty =>
      simp only [Node.ways, List.mem_singleton, Node.Takes, standsAt_nil_iff]
      constructor
      · exact fun heq => ⟨st.pos, ⟨hpos, rfl⟩, heq⟩
      · rintro ⟨b, ⟨-, rfl⟩, heq⟩
        exact heq
  | never =>
      simp only [Node.ways, List.not_mem_nil, false_iff]
      rintro ⟨b, hb, -⟩
      exact hb.text
  | one s =>
      simp only [Node.ways, h.next?, Node.Takes, standsAt_singleton_iff]
      cases htext : text[st.pos]? with
      | none => simp
      | some c =>
          simp only [Option.map_some, Option.some.injEq, exists_eq_left']
          by_cases hc : s.contains c.toNat = true
          · simp [hc]
          · simp [hc]
  | cat l r ihl ihr =>
      obtain ⟨hl, hr⟩ := Bool.and_eq_true_iff.mp hn
      simp only [Node.ways, List.mem_flatMap, Node.Takes, standsAt_append_iff]
      constructor
      · rintro ⟨mid, hmid, hst'⟩
        obtain ⟨m, hm, rfl⟩ := (ihl hl hpos).mp hmid
        obtain ⟨b, hb, rfl⟩ := (ihr hr hm.stop_le).mp hst'
        exact ⟨b, ⟨m, hm, hb⟩, rfl⟩
      · rintro ⟨b, ⟨m, hm, hb⟩, rfl⟩
        exact ⟨_, (ihl hl hpos).mpr ⟨m, hm, rfl⟩, (ihr hr hm.stop_le).mpr ⟨b, hb, rfl⟩⟩
  | alt l r ihl ihr =>
      obtain ⟨hl, hr⟩ := Bool.and_eq_true_iff.mp hn
      simp only [Node.ways, List.mem_append, ihl hl hpos, ihr hr hpos]
      constructor
      · rintro (⟨b, hb, rfl⟩ | ⟨b, hb, rfl⟩)
        · exact ⟨b, ⟨hb.start_le, hb.stop_le, .inl hb.text⟩, rfl⟩
        · exact ⟨b, ⟨hb.start_le, hb.stop_le, .inr hb.text⟩, rfl⟩
      · rintro ⟨b, ⟨hle, hb, htext | htext⟩, rfl⟩
        · exact .inl ⟨b, ⟨hle, hb, htext⟩, rfl⟩
        · exact .inr ⟨b, ⟨hle, hb, htext⟩, rfl⟩
  | loop bounds fewest body ih =>
      cases body with
      | one s =>
          obtain ⟨hgreedy, -⟩ := Bool.and_eq_true_iff.mp hn
          obtain rfl : fewest = false := by simpa using hgreedy
          exact h.mem_ways_loop_iff hpos
      | _ => simp [Node.isTextual] at hn
  | _ => simp [Node.isTextual] at hn

end

end SourceAudit.Pattern

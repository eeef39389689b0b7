import SourceAudit.Proofs.Pattern.Endings
import SourceAudit.Proofs.Pattern.Taking

/-!
# SourceAudit.Proofs.Pattern.Nested

Where unbounded repetitions within one another stand in the text of a pattern. Between the two
quantifiers there is nothing but closing parentheses and what is read as no part of the pattern. The
reader does not keep the text that it has read, so that it is followed along with the parts: if the
last part at hand is repeated without bound, then its quantifier is the last thing in the text so
far that counts.

* `Gap` — the texts between the quantifiers;
* `Held` — what is known of the text while a sequence is read;
* `keeps` — all functions that read sequences and groups keep to it;
* `exhibits_of_nests` — a tree with such repetitions comes from a text with such quantifiers.
-/

namespace SourceAudit.Pattern.Reader

open Text

/-! ## Texts between repetitions -/

/-- A quantifier with the given bounds as it is written, with the mark that may follow it. -/
inductive Quantifies (b : Bounds) : List Char → Prop
  | written {c : Char} {p q p' : Progress} {prefer : Preference} {text : List Char}
      (hc : c ∈ ['?', '*', '+', '\x7b']) (h : Runs (quantifier c) p (some b) q)
      (hmark : Runs preference q prefer p') (hrest : p.rest = text ++ p'.rest) :
      Quantifies b (c :: text)

/-- A text in parentheses that is read as no part of a pattern, such as a comment, flags, or a group
with nothing in it. -/
inductive Silent : List Char → Prop
  | group {w : Whole} {whole : Flags} {fuel : Nat} {e? : Option Element} {p p' : Progress}
      {text : List Char} (h : Runs (parenthesis w whole fuel) p e? p')
      (hnone : ∀ e ∈ e?, e.parts = []) (hrest : p.rest = text ++ p'.rest) : Silent ('(' :: text)

/-- Such a text to which a quantifier may be applied, with blanks and further such texts
after it. -/
inductive Idle : List Char → Prop
  | silent {text : List Char} (h : Silent text) : Idle text
  | blanks {text blanks : List Char} (h : Idle text) (hb : Spaced false [] blanks) :
      Idle (text ++ blanks)
  | more {text text' : List Char} (h : Idle text) (h' : Silent text') : Idle (text ++ text')

/-- A text with closing parentheses and otherwise nothing that makes a difference: blanks and
comments, texts that are read as nothing, quantifiers for these, quantifiers that ask for exactly
one iteration, and an alternative of a condition that is as good as left out. -/
inductive Gap : List Char → Prop
  | blanks {text : List Char} (h : Spaced false [] text) : Gap text
  | close {text : List Char} (h : Spaced false [')'] text) : Gap text
  | silent {text : List Char} (h : Silent text) : Gap text
  | idle {b : Bounds} {text quantity : List Char} (h : Idle text) (hq : Quantifies b quantity) :
      Gap (text ++ quantity)
  | once {quantity : List Char} (h : Quantifies ⟨1, some 1⟩ quantity) : Gap quantity
  | way {w : Whole} {whole : Flags} {fuel : Nat} {mode : CaseMode} {ps : List Part}
      {p p' : Progress} {bar text : List Char} (hbar : Spaced false ['|'] bar)
      (h : Runs (sequence w whole fuel mode [] none) p ps p')
      (hempty : Part.toNode w.casing ps = .empty) (hrest : p.rest = text ++ p'.rest) :
      Gap (bar ++ text)
  | append {text text' : List Char} (h : Gap text) (h' : Gap text') : Gap (text ++ text')

/-- A quantifier without an upper bound is written as one, with its mark. -/
theorem Quantifies.repeats {b : Bounds} {text : List Char} (h : Quantifies b text)
    (hb : b.greatest = none) : ∃ outer mark, Repeats outer ∧ Mark mark ∧ text = outer ++ mark := by
  cases h with
  | @written c p q p' prefer text hc h hmark hrest =>
    obtain ⟨word, hword, hp⟩ := repeats_of_quantifier h hb hc
    obtain ⟨mark, hmark, hq⟩ := mark_of_preference hmark
    have htext : text = word ++ mark := by
      apply List.append_cancel_right
      rw [← hrest, hp, hq]
      exact (List.append_assoc ..).symm
    exact ⟨c :: word, mark, hword, hmark, congrArg (c :: ·) htext⟩

theorem Silent.ne_nil {text : List Char} (h : Silent text) : text ≠ [] := by
  cases h
  exact List.cons_ne_nil _ _

/-- What a quantifier may be applied to without effect makes no difference. -/
theorem Idle.gap {text : List Char} (h : Idle text) : Gap text := by
  induction h with
  | silent h => exact .silent h
  | blanks _ hb ih => exact .append ih (.blanks hb)
  | more _ h' ih => exact .append ih (.silent h')

/-- Before `r`, the last thing in the source that counts is an unbounded quantifier; something
stands after it if that is `closed`. -/
def Ends (source : List Char) (closed : Bool) (r : List Char) : Prop :=
  ∃ before inner mark gap, Repeats inner ∧ Mark mark ∧ Gap gap ∧ (closed = true → gap ≠ []) ∧
    source = before ++ inner ++ mark ++ gap ++ r

/-- Somewhere in the source there is an unbounded quantifier and after it, where nothing else that
counts stands between them, another one. -/
def Exhibits (source : List Char) : Prop :=
  ∃ before inner mark gap outer after, Repeats inner ∧ Mark mark ∧ Gap gap ∧ gap ≠ [] ∧
    Repeats outer ∧ source = before ++ inner ++ mark ++ gap ++ outer ++ after

section

variable {source r r' text : List Char} {closed : Bool}

/-- What is known with something behind the quantifier is known without. -/
theorem Ends.open (h : Ends source closed r) : Ends source false r := by
  obtain ⟨before, inner, mark, gap, hinner, hmark, hgap, -, hsource⟩ := h
  exact ⟨before, inner, mark, gap, hinner, hmark, hgap, fun h => by simp at h, hsource⟩

/-- What makes no difference can be passed over. -/
theorem Ends.pass (h : Ends source closed (text ++ r)) (htext : Gap text) :
    Ends source closed r := by
  obtain ⟨before, inner, mark, gap, hinner, hmark, hgap, hclosed, hsource⟩ := h
  refine ⟨before, inner, mark, gap ++ text, hinner, hmark, hgap.append htext, fun h => ?_, ?_⟩
  · exact List.append_ne_nil_of_left_ne_nil (hclosed h) _
  · rw [hsource]
    simp only [List.append_assoc]

/-- If it is passed over, then something stands behind the quantifier. -/
theorem Ends.close (h : Ends source closed (text ++ r)) (htext : Gap text) (hne : text ≠ []) :
    Ends source true r := by
  obtain ⟨before, inner, mark, gap, hinner, hmark, hgap, -, hsource⟩ := h
  refine ⟨before, inner, mark, gap ++ text, hinner, hmark, hgap.append htext, fun _ => ?_, ?_⟩
  · exact List.append_ne_nil_of_right_ne_nil _ hne
  · rw [hsource]
    simp only [List.append_assoc]

/-- After an unbounded quantifier and its mark, the source ends in it. -/
theorem ends_of_repeats {inner mark : List Char} (h : Leaves source (inner ++ mark ++ r))
    (hinner : Repeats inner) (hmark : Mark mark) : Ends source false r := by
  obtain ⟨before, hsource⟩ := h
  refine ⟨before, inner, mark, [], hinner, hmark, .blanks .nil, fun h => by simp at h, ?_⟩
  rw [← hsource]
  simp only [List.append_assoc, List.nil_append]

/-- Another unbounded quantifier then exhibits a nested repetition. -/
theorem Ends.exhibits {outer : List Char} (h : Ends source true (outer ++ r))
    (houter : Repeats outer) : Exhibits source := by
  obtain ⟨before, inner, mark, gap, hinner, hmark, hgap, hclosed, hsource⟩ := h
  refine ⟨before, inner, mark, gap, outer, r, hinner, hmark, hgap, hclosed rfl, houter, ?_⟩
  rw [hsource]
  simp only [List.append_assoc]

end

/-! ## What is known of what has been read -/

/-- A part or several with the given properties have been read up to `r`. -/
structure Shown (source : List Char) (closed : Bool) (r : List Char) (repeatsLast nests : Bool) :
    Prop where
  ends : repeatsLast = true → Ends source closed r
  exhibits : nests = true → Exhibits source

/-- An element in parentheses has been read up to `r`. -/
def Closed (source : List Char) (e : Element) (r : List Char) : Prop :=
  Shown source true r e.repeatsLast e.nests

/-- While a sequence is read: `done` holds the parts, last first, without the `last` element, and
`r` is left. If the element is nothing, then a quantifier for it would be nothing, too. -/
structure Held (source : List Char) (done : List Part) (last : Option Element) (r : List Char) :
    Prop where
  leaves : Leaves source r
  shown : Shown source last.isSome r ((withElement done last).head?.any Part.repeatsLast)
    ((withElement done last).any Part.nests)
  idle : ∀ e, last = some e → e.parts = [] → done.head?.any Part.repeatsLast = true →
    ∃ text, Idle text ∧ Ends source false (text ++ r)

section

variable {source r r' text : List Char} {closed : Bool}

/-- Of parts without repetitions there is nothing to show. -/
theorem shown_calm : Shown source closed r false false :=
  ⟨fun h => by simp at h, fun h => by simp at h⟩

/-- The parenthesis that closes a group stands behind what ends the group. -/
theorem Shown.close {repeatsLast nests : Bool}
    (h : Shown source closed (text ++ r) repeatsLast nests) (htext : Spaced false [')'] text) :
    Shown source true r repeatsLast nests :=
  ⟨fun hrepeats => (h.ends hrepeats).close (.close htext) htext.ne_nil, h.exhibits⟩

/-- At the beginning of a sequence nothing has been read of it. -/
theorem held_start (h : Leaves source r) : Held source [] none r :=
  ⟨h, shown_calm, fun e he => by simp at he⟩

end

/-! ### One more element -/

section

variable {source r r' blanks text quantity : List Char} {done : List Part} {last : Option Element}
  {e : Element} {x : Part}

/-- With an element that has parts, the last part is its own. -/
theorem head?_withElement (h : e.parts ≠ []) :
    (withElement done (some e)).head?.any Part.repeatsLast = e.repeatsLast := by
  rw [withElement, List.head?_append_of_ne_nil _ (List.reverse_ne_nil_iff.mpr h), List.head?_reverse]
  rfl

theorem withElement_none : withElement done none = done := rfl

/-- An element without parts adds nothing. -/
theorem withElement_of_nil (h : e.parts = []) : withElement done (some e) = done := by
  rw [withElement, h]
  rfl

/-- The nested repetitions of the parts are those of the element and of the parts before it. -/
theorem any_withElement :
    (withElement done (some e)).any Part.nests = (e.nests || done.any Part.nests) := by
  rw [withElement, List.any_append, List.any_reverse]
  rfl

/-- Only an element with parts ends in a repetition. -/
theorem parts_ne_nil (h : e.repeatsLast = true) : e.parts ≠ [] := by
  intro hnil
  rw [Element.repeatsLast, hnil] at h
  cases h

/-- A part without repetitions becomes the last element. -/
theorem Held.part (h : Held source done last r) (hr : Leaves r r') (hx : x.IsCalm) :
    Held source (withElement done last) (some (.part x)) r' where
  leaves := h.leaves.trans hr
  shown := by
    rw [head?_withElement (e := .part x) (List.cons_ne_nil _ _), any_withElement]
    refine ⟨fun hends => ?_, fun hnests => ?_⟩
    · simp [Element.repeatsLast, Element.parts, hx.repeatsLast] at hends
    · simp only [Element.nests, Element.parts, List.any_cons, List.any_nil, hx.nests,
        Bool.false_or] at hnests
      exact h.shown.exhibits hnests
  idle e he hnil := by
    cases he
    cases hnil

/-- So does a group that has been read; if nothing is left of it, then its text is one that is read
as nothing. -/
theorem Held.group (h : Held source done last (blanks ++ (text ++ r)))
    (hblanks : Spaced false [] blanks)
    (hclosed : Closed source e r) (hsilent : e.parts = [] → Silent text) :
    Held source (withElement done last) (some e) r where
  leaves := h.leaves.trans ((List.suffix_append _ _).trans (List.suffix_append _ _))
  shown := by
    refine ⟨fun hends => ?_, fun hnests => ?_⟩
    · by_cases hnil : e.parts = []
      · rw [withElement_of_nil hnil] at hends
        have hpassed := (h.shown.ends hends).pass (.blanks hblanks)
        exact hpassed.close (.silent (hsilent hnil)) (hsilent hnil).ne_nil
      · rw [head?_withElement hnil] at hends
        exact hclosed.ends hends
    · rw [any_withElement, Bool.or_eq_true] at hnests
      exact hnests.elim hclosed.exhibits h.shown.exhibits
  idle e' he' hnil hends := by
    cases he'
    exact ⟨text, .silent (hsilent hnil), (h.shown.ends hends).open.pass (.blanks hblanks)⟩

/-- A text that is read as nothing leaves the last element as it is. -/
theorem Held.silent (h : Held source done last (blanks ++ (text ++ r)))
    (hblanks : Spaced false [] blanks) (htext : Silent text) : Held source done last r where
  leaves := h.leaves.trans ((List.suffix_append _ _).trans (List.suffix_append _ _))
  shown := ⟨fun hends => ((h.shown.ends hends).pass (.blanks hblanks)).pass (.silent htext),
    h.shown.exhibits⟩
  idle e he hnil hends := by
    obtain ⟨idle, hidle, hends⟩ := h.idle e he hnil hends
    refine ⟨idle ++ blanks ++ text, (hidle.blanks hblanks).more htext, ?_⟩
    simpa only [List.append_assoc] using hends

/-- With a tolerance, the last element is done with. -/
theorem Held.tolerated (h : Held source done (some e) r) (hr : Leaves r r') (k : Casing)
    (t : Tolerance) : Held source (withElement done (some (withTolerance k t e))) none r' where
  leaves := h.leaves.trans hr
  shown := by
    have hne : (withTolerance k t e).parts ≠ [] := by
      unfold withTolerance
      split <;> exact List.cons_ne_nil _ _
    rw [withElement_none, head?_withElement hne, any_withElement, repeatsLast_withTolerance,
      nests_withTolerance, ← any_withElement]
    exact ⟨fun hends => (Bool.false_ne_true hends).elim, h.shown.exhibits⟩
  idle e he := by cases he

/-- An unbounded quantifier is the last thing read, or it applies to nothing; then it counts as
little as a quantifier that asks for exactly one iteration. -/
theorem Held.repeated {b : Bounds} (h : Held source done (some e) (blanks ++ (quantity ++ r)))
    (hblanks : Spaced false [] blanks) (hq : Quantifies b quantity) (k : Casing)
    (prefer : Preference) :
    Held source (withElement done (some (withIterations k b prefer e))) none r where
  leaves := h.leaves.trans ((List.suffix_append _ _).trans (List.suffix_append _ _))
  shown := by
    rw [withElement_none]
    have hlast : e.repeatsLast = true → Ends source true (quantity ++ r) := by
      intro hrepeats
      have hends := h.shown.ends (head?_withElement (parts_ne_nil hrepeats) ▸ hrepeats)
      exact hends.pass (.blanks hblanks)
    by_cases hempty : (e.toNode k).isEmpty = true ∨ b = ⟨1, some 1⟩
    · have hsame : withIterations k b prefer e = e := by
        simp [withIterations, hempty]
      rw [hsame]
      refine ⟨fun hends => ?_, h.shown.exhibits⟩
      by_cases hnil : e.parts = []
      · rw [withElement_of_nil hnil] at hends
        obtain ⟨idle, hidle, hends⟩ := h.idle e rfl hnil hends
        rw [← List.append_assoc, ← List.append_assoc] at hends
        exact hends.pass (.idle (hidle.blanks hblanks) hq)
      · rw [head?_withElement hnil] at hends
        rcases hempty with hempty | rfl
        · rw [← Element.repeatsLast_toNode k, Node.repeatsLast_of_isEmpty hempty] at hends
          cases hends
        · exact (hlast hends).open.pass (.once hq)
    · obtain ⟨hsome, hb⟩ := not_or.mp hempty
      have hnode : withIterations k b prefer e = .node (Reader.repeated (e.toNode k) b prefer) := by
        simp [withIterations, hsome, hb]
      rw [hnode, head?_withElement (e := .node _) (List.cons_ne_nil _ _), any_withElement,
        Element.repeatsLast_node, Element.nests_node, repeatsLast_repeated, nests_repeated,
        Element.repeatsLast_toNode, Element.nests_toNode]
      refine ⟨fun hends => ?_, fun hnests => ?_⟩
      · have hb := Option.isNone_iff_eq_none.mp (Bool.and_eq_true_iff.mp hends).1
        obtain ⟨outer, mark, houter, hmark, rfl⟩ := hq.repeats hb
        exact ends_of_repeats (h.leaves.trans (List.suffix_append _ _)) houter hmark
      · simp only [Bool.or_eq_true, Bool.and_eq_true, Option.isNone_iff_eq_none] at hnests
        rcases hnests with (⟨hb, hrepeats⟩ | hnests) | hnests
        · obtain ⟨outer, mark, houter, hmark, rfl⟩ := hq.repeats hb
          have hends := hlast hrepeats
          rw [List.append_assoc] at hends
          exact hends.exhibits houter
        · exact h.shown.exhibits (by rw [any_withElement, hnests, Bool.true_or])
        · exact h.shown.exhibits (by rw [any_withElement, hnests, Bool.or_true])
  idle e he := by cases he

end

/-! ## Parts that repeat nothing -/

section

variable {p p' : Progress} {w : Whole} {n : Node}

/-- References and calls match what a group does, and are no repetitions themselves. -/
theorem isCalm_of_reference {name : List Char} (h : Runs (reference w name) p n p') : n.IsCalm := by
  unfold reference at h
  simp only [runs_bind, runs_pure] at h
  obtain ⟨k, q, -, f, q', -, rfl, -⟩ := h
  exact ⟨rfl, rfl⟩

theorem isCalm_of_namedReference (h : Runs (namedReference w) p n p') : n.IsCalm := by
  unfold namedReference at h
  grind [isCalm_of_reference]

theorem isCalm_of_callOf {k : Nat} (h : Runs (callOf w k) p n p') : n.IsCalm := by
  unfold callOf at h
  split at h
  · grind
  · obtain ⟨rfl, -⟩ := runs_pure.mp h
    exact ⟨rfl, rfl⟩

theorem isCalm_of_numberedCall {c : Char} (h : Runs (numberedCall w c) p n p') : n.IsCalm := by
  unfold numberedCall at h
  grind [isCalm_of_callOf]

theorem isCalm_of_relativeCall {forward : Bool} (h : Runs (relativeCall w forward) p n p') :
    n.IsCalm := by
  unfold relativeCall at h
  grind [isCalm_of_callOf]

theorem isCalm_of_namedCall (h : Runs (namedCall w) p n p') : n.IsCalm := by
  unfold namedCall at h
  grind [isCalm_of_callOf]

theorem isCalm_of_extendedReference (h : Runs (extendedReference w) p n p') : n.IsCalm := by
  unfold extendedReference at h
  grind [isCalm_of_reference]

/-- Conditions and verbs are none either. -/
theorem isCalm_of_condition {words ascii : Bool} {c : Char} (h : condition? words ascii c = some n) :
    n.IsCalm := by
  unfold condition? at h
  split at h <;> cases h <;> exact ⟨rfl, rfl⟩

theorem isCalm_of_verb {name : List Char} (h : verb? name = some n) : n.IsCalm := by
  unfold verb? at h
  split at h <;> cases h <;> exact ⟨rfl, rfl⟩

/-- An escaped character is not read as a node. -/
theorem not_node_of_charEscape {inSet : Bool} {code : Nat}
    (h : Runs (charEscape inSet code) p (.node n) p') : False := by
  unfold charEscape at h
  grind

/-- The nodes that are written with an escape are references to groups, or conditions. -/
theorem isCalm_of_toGroup {digits : List Char}
    (h : Runs (digitEscape.toGroup w digits) p (.node n) p') : n.IsCalm := by
  unfold digitEscape.toGroup at h
  grind [isCalm_of_reference]

theorem isCalm_of_digitEscape {c : Char} (h : Runs (digitEscape w false c) p (.node n) p') :
    n.IsCalm := by
  unfold digitEscape at h
  split at h
  · grind [not_node_of_charEscape]
  · simp only [runs_bind, runs_rest] at h
    obtain ⟨before, p₁, ⟨rfl, rfl⟩, second, p₂, -, h⟩ := h
    split at h
    · grind [isCalm_of_toGroup]
    · simp only [runs_bind, runs_rest] at h
      obtain ⟨before', p₃, ⟨rfl, rfl⟩, third, p₄, -, h⟩ := h
      grind [isCalm_of_toGroup, not_node_of_charEscape]

theorem isCalm_of_letterEscape {c : Char} (h : Runs (letterEscape w false c) p (.node n) p') :
    n.IsCalm := by
  unfold letterEscape at h
  simp only [runs_bind, runs_flags] at h
  obtain ⟨ascii, p₁, -, f, p₂, -, h⟩ := h
  split at h
  · grind [isCalm_of_condition]
  · grind

/-- A character that is named is not read as a node, nor is one of a property. -/
theorem not_node_of_nameEscape {inSet : Bool} (h : Runs (nameEscape inSet) p (.node n) p') :
    False := by
  unfold nameEscape at h
  grind [not_node_of_charEscape]

theorem not_node_of_propertyEscape {inSet positive : Bool}
    (h : Runs (propertyEscape w inSet positive) p (.node n) p') : False := by
  unfold propertyEscape at h
  simp only [runs_bind, runs_rest, runs_flags] at h
  obtain ⟨before, p₁, -, f, p₂, -, first, p₃, -, h⟩ := h
  split at h <;> grind [not_node_of_charEscape]

/-- What an escape stands for is one character, one condition or one reference. -/
theorem isCalm_of_escape {e : Escaped} (h : Runs (escape w false) p e p') : e.part.IsCalm := by
  cases e with
  | letter code mode => exact ⟨rfl, rfl⟩
  | property q ascii positive mode => exact ⟨rfl, rfl⟩
  | node n =>
      refine Part.isCalm_node ?_
      have hlineEnd : lineEnd.IsCalm := ⟨rfl, rfl⟩
      have hcluster : cluster.IsCalm := ⟨rfl, rfl⟩
      have hanchor : (Node.assertion .searchStart).IsCalm := ⟨rfl, rfl⟩
      unfold escape at h
      simp only [runs_bind] at h
      obtain ⟨c?, p₁, -, h⟩ := h
      cases c? with
      | none => grind
      | some c =>
          simp only at h
          split at h
          · unfold hexEscape at h
            grind [not_node_of_charEscape]
          · split at h
            · grind [isCalm_of_namedReference, not_node_of_charEscape]
            · split at h
              · grind
              · grind [not_node_of_charEscape, not_node_of_nameEscape, not_node_of_propertyEscape,
                  isCalm_of_letterEscape, isCalm_of_digitEscape]

/-- A set in brackets matches one character. -/
theorem isCalm_of_bracketed {x : Part} (h : Runs (bracketed w) p x p') : x.IsCalm := by
  unfold bracketed at h
  simp only [runs_bind, runs_pure] at h
  obtain ⟨f, q, -, b, q', -, rfl, -⟩ := h
  have hone : ∀ s : CharSet, (Node.one s).IsCalm := fun s => ⟨rfl, rfl⟩
  have hpart : ∀ (full : Prop) [Decidable full] (n : Node) (texts : List (List Nat)), n.IsCalm →
      (if full then Part.node (.anyOf (n :: texts.map fun text => .folded text))
        else .node n).IsCalm := by
    intro full _ n texts hn
    split
    · refine Part.isCalm_node (Node.isCalm_anyOf (List.forall_mem_cons.mpr ⟨hn, fun m hm => ?_⟩))
      obtain ⟨text, -, rfl⟩ := List.mem_map.mp hm
      exact ⟨rfl, rfl⟩
    · exact Part.isCalm_node hn
  unfold Bracketed.part
  split
  · exact ⟨rfl, rfl⟩
  · exact hpart _ _ _ (hone _)

end

/-! ## Reading sequences and groups -/

/-- Reading takes characters from the front of what is left of the source, and what is read has a
property with what is left then. -/
def Yields {α : Type} (source : List Char) (reading : Reading α) (S : α → List Char → Prop) :
    Prop :=
  ∀ p a p', Runs reading p a p' → Leaves source p.rest → Leaves p.rest p'.rest ∧ S a p'.rest

/-- With so much fuel, the functions that read sequences and groups tell of repetitions in the
source what there is. -/
structure Keeps (source : List Char) (w : Whole) (whole : Flags) (fuel : Nat) : Prop where
  branches : ∀ start, Yields source (branches w whole fuel start) fun bs r => bs ≠ [] ∧
    Shown source false r (bs.getLast?.any (·.getLast?.any Part.repeatsLast))
      (bs.any (·.any Part.nests))
  sequence : ∀ mode done last p ps p', Runs (sequence w whole fuel mode done last) p ps p' →
    Held source done last p.rest → Leaves p.rest p'.rest ∧
      Shown source false p'.rest (ps.getLast?.any Part.repeatsLast) (ps.any Part.nests)
  parenthesis : Yields source (parenthesis w whole fuel) fun e? r => ∀ e ∈ e?, Closed source e r
  special : Yields source (special w whole fuel) fun e? r => ∀ e ∈ e?, Closed source e r
  enclosed : ∀ f, Yields source (enclosed w whole fuel f) (Closed source)
  capture : ∀ name, Yields source (capture w whole fuel name) fun e? r => ∀ e ∈ e?, Closed source e r
  named : Yields source (named w whole fuel) fun e? r => ∀ e ∈ e?, Closed source e r
  look : ∀ d wanted, Yields source (look w whole fuel d wanted) fun e? r =>
    ∀ e ∈ e?, Closed source e r
  twoWays : Yields source (twoWays w whole fuel) fun ways r => Shown source true r
    (ways.2.repeatsLast || (ways.2 == .empty && ways.1.repeatsLast))
    (ways.1.nests || ways.2.nests)
  conditional : Yields source (conditional w whole fuel) fun e? r => ∀ e ∈ e?, Closed source e r

section

variable {source : List Char} {w : Whole} {whole : Flags} {fuel : Nat} {p p' : Progress}

/-- With other flags, the same characters are left before and after. -/
theorem runs_of_withFlags {α : Type} {a : α} {f : Flags} {reading : Reading α}
    (h : Runs (withFlags f reading) p a p') :
    ∃ q q', Runs reading q a q' ∧ q.rest = p.rest ∧ p'.rest = q'.rest := by
  unfold withFlags setFlags at h
  grind

/-- A node without repetitions may stand in parentheses. -/
theorem closed_node {n : Node} {r : List Char} (h : n.IsCalm) : Closed source (.node n) r := by
  rw [Closed, Element.repeatsLast_node, Element.nests_node, h.repeatsLast, h.nests]
  exact shown_calm

theorem yields_invalid {α : Type} {S : α → List Char → Prop} : Yields source invalid S :=
  fun _ _ _ h => (runs_invalid.mp h).elim

/-- Without fuel nothing is read. -/
theorem keeps_zero : Keeps source w whole 0 where
  branches _ := yields_invalid
  sequence _ _ _ _ _ _ h := (runs_invalid.mp h).elim
  parenthesis := yields_invalid
  special := yields_invalid
  enclosed _ := yields_invalid
  capture _ := yields_invalid
  named := yields_invalid
  look _ _ := yields_invalid
  twoWays := yields_invalid
  conditional := yields_invalid

/-- The parts of several alternatives are shown by those of each. -/
theorem keeps_branches (ih : Keeps source w whole fuel) (start : Option Nat) :
    Yields source (branches w whole (fuel + 1) start) fun bs r => bs ≠ [] ∧
      Shown source false r (bs.getLast?.any (·.getLast?.any Part.repeatsLast))
        (bs.any (·.any Part.nests)) := by
  intro p bs p' h hsource
  rw [branches] at h
  simp only [runs_bind, runs_flags, runs_progress] at h
  obtain ⟨f, p₁, ⟨rfl, rfl⟩, first, p₂, hfirst, q, p₃, ⟨rfl, rfl⟩, more, p₄, hmore, h⟩ := h
  obtain ⟨hleaves, hshown⟩ := ih.sequence _ _ _ _ _ _ hfirst (held_start hsource)
  cases more with
  | false =>
      obtain rfl := eq_of_accepts_false hmore
      obtain ⟨rfl, rfl⟩ := runs_pure.mp h
      exact ⟨hleaves, by simp, by simpa using hshown.ends, by simpa using hshown.exhibits⟩
  | true =>
      have hothers : ∃ others q q', Runs (branches w whole fuel start) q others q' ∧
          q.rest = p₄.rest ∧ q'.rest = p'.rest ∧ bs = first :: others := by
        cases start <;> grind
      obtain ⟨others, q, q', hothers, hq, hq', rfl⟩ := hothers
      obtain ⟨hleaves', hne, hshown'⟩ := ih.branches start q others q' hothers (by grind)
      rw [hq'] at hshown' hleaves'
      refine ⟨by grind, by simp, fun hends => hshown'.ends ?_, fun hnests => ?_⟩
      · obtain ⟨second, others, rfl⟩ := List.exists_cons_of_ne_nil hne
        rwa [List.getLast?_cons_cons] at hends
      · rw [List.any_cons, Bool.or_eq_true] at hnests
        exact hnests.elim hshown.exhibits hshown'.exhibits

/-- Alternatives between parentheses make one element. -/
theorem closed_ofBranches (ih : Keeps source w whole fuel) {start : Option Nat}
    {bs : List (List Part)} {q : Progress} {u : Unit}
    (hbranches : Runs (branches w whole fuel start) p bs q) (hclose : Runs (expect ")") q u p')
    (hsource : Leaves source p.rest) :
    Leaves p.rest p'.rest ∧ Closed source (ofBranches w.casing bs) p'.rest := by
  obtain ⟨hleaves, -, hshown⟩ := ih.branches start p bs q hbranches hsource
  obtain ⟨text, htext, hrest⟩ := spaced_of_expect hclose
  rw [hrest] at hshown
  rw [Closed, repeatsLast_ofBranches, nests_ofBranches]
  exact ⟨by grind, hshown.close htext⟩

/-- A group may have flags of its own. -/
theorem keeps_enclosed (ih : Keeps source w whole fuel) (f : Flags) :
    Yields source (enclosed w whole (fuel + 1) f) (Closed source) := by
  intro p e p' h hsource
  rw [enclosed] at h
  obtain ⟨q, q', h, hq, hq'⟩ := runs_of_withFlags h
  simp only [runs_bind, runs_pure] at h
  obtain ⟨bs, q₁, hbranches, u, q₂, hclose, rfl, rfl⟩ := h
  rw [hq', ← hq]
  exact closed_ofBranches ih hbranches hclose (hq ▸ hsource)

/-- A group that is captured is an element, unless its number is out of bounds. -/
theorem keeps_capture (ih : Keeps source w whole fuel) (name : Option String) :
    Yields source (capture w whole (fuel + 1) name) fun e? r => ∀ e ∈ e?, Closed source e r := by
  intro p e? p' h hsource
  rw [capture] at h
  have hinner : ∃ k e f q q', Runs (enclosed w whole fuel f) q e q' ∧ Leaves p.rest q.rest ∧
      p'.rest = q'.rest ∧ e? = some (.node (.group k (e.toNode w.casing))) := by
    unfold closeGroup at h
    grind
  obtain ⟨k, e, f, q, q', hinner, hq, hq', rfl⟩ := hinner
  obtain ⟨hleaves, hclosed⟩ := ih.enclosed f q e q' hinner (by grind)
  refine ⟨by grind, fun e' he' => ?_⟩
  cases he'
  rw [Closed, Element.repeatsLast_node, Element.nests_node, Node.repeatsLast, Node.nests,
    Element.repeatsLast_toNode, Element.nests_toNode, hq']
  exact hclosed

theorem keeps_named (ih : Keeps source w whole fuel) :
    Yields source (named w whole (fuel + 1)) fun e? r => ∀ e ∈ e?, Closed source e r := by
  intro p e? p' h hsource
  rw [named] at h
  simp only [runs_bind] at h
  obtain ⟨name, q, hname, h⟩ := h
  obtain ⟨hleaves, hclosed⟩ := ih.capture _ q e? p' h (by grind)
  exact ⟨by grind, hclosed⟩

/-- A look at what follows or comes before matches no character, but its pattern is part of the
source. -/
theorem keeps_look (ih : Keeps source w whole fuel) (d : Direction) (wanted : Bool) :
    Yields source (look w whole (fuel + 1) d wanted) fun e? r => ∀ e ∈ e?, Closed source e r := by
  intro p e? p' h hsource
  rw [look] at h
  simp only [runs_bind, runs_flags, runs_pure] at h
  obtain ⟨f, q, ⟨rfl, rfl⟩, e, q', hinner, rfl, rfl⟩ := h
  obtain ⟨hleaves, hclosed⟩ := ih.enclosed _ p e q' hinner hsource
  refine ⟨hleaves, fun e' he' => ?_⟩
  cases he'
  rw [Closed, Element.repeatsLast_node, Element.nests_node, Node.repeatsLast, Node.nests,
    Element.repeatsLast_toNode, Element.nests_toNode]
  exact hclosed

/-- Of the two ways of a condition the second one counts for the end, or the first one if there is
no second. -/
theorem keeps_twoWays (ih : Keeps source w whole fuel) :
    Yields source (twoWays w whole (fuel + 1)) fun ways r => Shown source true r
      (ways.2.repeatsLast || (ways.2 == .empty && ways.1.repeatsLast))
      (ways.1.nests || ways.2.nests) := by
  intro p ways p' h hsource
  rw [twoWays] at h
  simp only [runs_bind, runs_flags] at h
  obtain ⟨f, p₁, ⟨rfl, rfl⟩, yes, p₂, hyes, more, p₃, hmore, h⟩ := h
  obtain ⟨hleaves, hshown⟩ := ih.sequence _ _ _ _ _ _ hyes (held_start hsource)
  -- The second way, what is known of it, and of the first one if the second is left out.
  have hno : ∃ no q u, Runs (expect ")") q u p' ∧
      ways = (Part.toNode w.casing yes, Part.toNode w.casing no) ∧ Leaves p₂.rest q.rest ∧
      Shown source false q.rest (no.getLast?.any Part.repeatsLast) (no.any Part.nests) ∧
      (Part.toNode w.casing no = .empty → yes.getLast?.any Part.repeatsLast = true →
        Ends source false q.rest) := by
    cases more with
    | false =>
        obtain rfl := eq_of_accepts_false hmore
        simp only [Bool.false_eq_true, if_false, runs_bind, runs_pure] at h
        obtain ⟨no, q, ⟨rfl, rfl⟩, u, q', hclose, rfl, rfl⟩ := h
        exact ⟨[], _, u, hclose, rfl, .refl _, shown_calm, fun _ => hshown.ends⟩
    | true =>
        simp only [if_true, runs_bind, runs_flags, runs_pure] at h
        obtain ⟨f, q₁, ⟨rfl, rfl⟩, no, q, hno, u, q', hclose, rfl, rfl⟩ := h
        obtain ⟨hleaves', hshown'⟩ := ih.sequence _ _ _ _ _ _ hno (held_start (by grind))
        obtain ⟨bar, hbar, hrest⟩ := spaced_of_accepts hmore
        refine ⟨no, q, u, hclose, rfl, by grind, hshown', fun hempty hrepeats => ?_⟩
        obtain ⟨text, hrest'⟩ := hleaves'
        have hends := hshown.ends hrepeats
        rw [hrest, ← hrest', ← List.append_assoc] at hends
        exact hends.pass (.way hbar hno hempty hrest'.symm)
  obtain ⟨no, q, u, hclose, rfl, hq, hshown', hway⟩ := hno
  obtain ⟨text, htext, hrest⟩ := spaced_of_expect hclose
  refine ⟨by grind, fun hends => ?_, fun hnests => ?_⟩
  · have hopen : Ends source false q.rest := by
      simp only [Bool.or_eq_true, Bool.and_eq_true, beq_iff_eq, Part.repeatsLast_toNode] at hends
      exact hends.elim hshown'.ends fun hends => hway hends.1 hends.2
    rw [hrest] at hopen
    exact hopen.close (.close htext) htext.ne_nil
  · simp only [Bool.or_eq_true, Part.nests_toNode] at hnests
    exact hnests.elim hshown.exhibits hshown'.exhibits

theorem keeps_conditional (ih : Keeps source w whole fuel) :
    Yields source (conditional w whole (fuel + 1)) fun e? r => ∀ e ∈ e?, Closed source e r := by
  intro p e? p' h hsource
  rw [conditional] at h
  simp only [runs_bind, runs_rest] at h
  obtain ⟨before, p₁, ⟨rfl, rfl⟩, first, p₂, hfirst, h⟩ := h
  split at h
  · have hlook : ∀ d wanted q, Leaves p.rest q.rest →
        Runs (do
          let e ← enclosed w whole fuel (← flags)
          let ways ← twoWays w whole fuel
          return some (.node (.lookIf d wanted (e.toNode w.casing) ways.1 ways.2))) q e? p' →
        Leaves p.rest p'.rest ∧ ∀ e ∈ e?, Closed source e p'.rest := by
      intro d wanted q hq h
      simp only [runs_bind, runs_flags, runs_pure] at h
      obtain ⟨f, q', ⟨rfl, rfl⟩, e, q₁, he, ways, q₂, hways, rfl, rfl⟩ := h
      obtain ⟨hleaves, hclosed⟩ := ih.enclosed _ q e q₁ he (by grind)
      obtain ⟨hleaves', hshown⟩ := ih.twoWays q₁ ways q₂ hways (by grind)
      refine ⟨by grind, fun e' he' => ?_⟩
      cases he'
      refine ⟨hshown.ends, fun hnests => ?_⟩
      rw [Element.nests_node, Node.nests, Element.nests_toNode, Bool.or_assoc, Bool.or_eq_true]
        at hnests
      exact hnests.elim hclosed.exhibits hshown.exhibits
    simp only [runs_bind] at h
    obtain ⟨second, p₃, hsecond, h⟩ := h
    split at h
    · exact hlook .forward true p₃ (by grind) h
    · exact hlook .forward false p₃ (by grind) h
    · rw [runs_bind] at h
      obtain ⟨third, p₄, hthird, h⟩ := h
      split at h
      · exact hlook .backward true p₄ (by grind) h
      · exact hlook .backward false p₄ (by grind) h
      · grind
    · grind
  · have hgroup : ∃ q ways q', Leaves p.rest q.rest ∧ Runs (twoWays w whole fuel) q ways q' ∧
        p'.rest = q'.rest ∧
        (e? = some (.sequence []) ∨ ∃ k, e? = some (.node (.groupIf k ways.1 ways.2))) := by
      simp only [runs_bind, runs_goTo, runs_flags] at h
      obtain ⟨u, q₁, hq₁, outer, q₂, hq₂, name, q₃, hname, u', q₄, hclose, ways, q₅, hways, h⟩ := h
      obtain ⟨q, q', hways, hq, hq'⟩ := runs_of_withFlags hways
      refine ⟨q, ways, q', by grind, hways, ?_⟩
      split at h
      · grind
      · unfold conditionGroup at h
        grind
    obtain ⟨q, ways, q', hq, hways, hq', he⟩ := hgroup
    obtain ⟨hleaves, hshown⟩ := ih.twoWays q ways q' hways (by grind)
    rw [← hq'] at hleaves hshown
    refine ⟨by grind, fun e he' => ?_⟩
    obtain rfl | ⟨k, rfl⟩ := he
    · cases he'
      exact shown_calm
    · cases he'
      exact ⟨hshown.ends, fun hnests => hshown.exhibits ((Element.nests_node _).symm.trans hnests)⟩

/-- What follows an opening parenthesis tells what is read. -/
theorem keeps_parenthesis (ih : Keeps source w whole fuel) :
    Yields source (parenthesis w whole (fuel + 1)) fun e? r => ∀ e ∈ e?, Closed source e r := by
  intro p e? p' h hsource
  rw [parenthesis] at h
  simp only [runs_bind, runs_rest] at h
  obtain ⟨before, p₁, ⟨rfl, rfl⟩, first, p₂, hfirst, h⟩ := h
  have hcapture : ∀ {q}, Runs (goTo p.rest >>= fun _ => capture w whole fuel none) q e? p' →
      Leaves p.rest p'.rest ∧ ∀ e ∈ e?, Closed source e p'.rest := by
    intro q h
    simp only [runs_bind, runs_goTo] at h
    obtain ⟨u, q', ⟨rfl, rfl⟩, h⟩ := h
    have hyields := ih.capture none _ e? p' h hsource
    exact hyields
  split at h
  · obtain ⟨hleaves, hclosed⟩ := ih.special p₂ e? p' h (by grind)
    exact ⟨by grind, hclosed⟩
  · rw [runs_bind] at h
    obtain ⟨name, p₃, hname, h⟩ := h
    split at h
    · split at h
      · next n hverb =>
          simp only [runs_bind, runs_pure] at h
          obtain ⟨u, p₄, hclose, rfl, rfl⟩ := h
          refine ⟨by grind, fun e he => ?_⟩
          cases he
          exact closed_node (isCalm_of_verb hverb)
      · simp only [runs_bind, runs_invalid] at h
        grind
    · exact hcapture h
  · exact hcapture h

/-- Flags in parentheses, with a group that they hold in or on their own. -/
theorem keeps_flags (ih : Keeps source w whole fuel) {cs : List Char} {e? : Option Element}
    (h : Runs (do
      goTo cs
      let (on, off) ← flagChange whole
      let f ← flags
      if ← accepts ":" then
        let e ← enclosed w whole fuel (changedFlags f on off)
        return some e
      expect ")"
      setFlags ((f.union on).without off)
      return none) p e? p') (hsource : Leaves source cs) :
    Leaves cs p'.rest ∧ ∀ e ∈ e?, Closed source e p'.rest := by
  simp only [runs_bind, runs_goTo, runs_flags] at h
  obtain ⟨u, p₁, hp₁, changes, p₂, hchanges, f, p₃, ⟨rfl, rfl⟩, colon, p₄, hcolon, h⟩ := h
  cases colon with
  | true =>
      simp only [if_true, runs_bind, runs_pure] at h
      obtain ⟨e, q, he, rfl, rfl⟩ := h
      obtain ⟨hleaves, hclosed⟩ := ih.enclosed _ p₄ e q he (by grind)
      refine ⟨by grind, fun e' he' => ?_⟩
      cases he'
      exact hclosed
  | false =>
      simp only [Bool.false_eq_true, if_false, runs_bind, runs_pure] at h
      obtain ⟨u, q, hclose, u', q', hflags, rfl, rfl⟩ := h
      unfold setFlags at hflags
      exact ⟨by grind, fun e he => by cases he⟩

theorem keeps_special (ih : Keeps source w whole fuel) :
    Yields source (special w whole (fuel + 1)) fun e? r => ∀ e ∈ e?, Closed source e r := by
  intro p e? p' h hsource
  rw [special] at h
  simp only [runs_bind, runs_rest] at h
  obtain ⟨before, p₁, ⟨rfl, rfl⟩, first, p₂, hfirst, h⟩ := h
  have hleft : Leaves p.rest p₂.rest := by grind
  have hlast : ∀ {q : Progress}, Leaves p.rest q.rest →
      (Leaves q.rest p'.rest ∧ ∀ e ∈ e?, Closed source e p'.rest) →
      Leaves p.rest p'.rest ∧ ∀ e ∈ e?, Closed source e p'.rest :=
    fun hq h => ⟨hq.trans h.1, h.2⟩
  have hcalm : ∀ {n : Node}, n.IsCalm → some (.node n) = e? → ∀ e ∈ e?, Closed source e p'.rest := by
    rintro n hn rfl e he
    cases he
    exact closed_node hn
  split at h
  · simp only [runs_bind, runs_rest] at h
    obtain ⟨inner, p₃, ⟨rfl, rfl⟩, second, p₄, hsecond, h⟩ := h
    split at h
    · exact hlast (by grind) (ih.look .backward true p₄ e? p' h (by grind))
    · exact hlast (by grind) (ih.look .backward false p₄ e? p' h (by grind))
    · simp only [runs_bind, runs_goTo] at h
      obtain ⟨u, q, rfl, h⟩ := h
      have hyields := ih.named _ e? p' h (by grind)
      exact hlast (by grind) hyields
  · exact hlast hleft (ih.look .forward true p₂ e? p' h (by grind))
  · exact hlast hleft (ih.look .forward false p₂ e? p' h (by grind))
  · simp only [runs_bind] at h
    obtain ⟨second, p₃, hsecond, h⟩ := h
    split at h
    · exact hlast (by grind) (ih.named p₃ e? p' h (by grind))
    · simp only [runs_bind, runs_pure] at h
      obtain ⟨n, q, hn, he, rfl⟩ := h
      exact ⟨by grind, hcalm (isCalm_of_extendedReference hn) he⟩
    · simp only [runs_bind, runs_pure] at h
      obtain ⟨n, q, hn, he, rfl⟩ := h
      exact ⟨by grind, hcalm (isCalm_of_namedCall hn) he⟩
    · simp only [runs_bind, runs_pure] at h
      obtain ⟨n, q, hn, he, rfl⟩ := h
      exact ⟨by grind, hcalm (isCalm_of_namedCall hn) he⟩
    · grind
  · simp only [runs_bind, runs_pure] at h
    obtain ⟨cs, p₃, hrest, u, p₄, hcomment, rfl, rfl⟩ := h
    exact ⟨by grind, fun e he => by cases he⟩
  · exact hlast hleft (ih.conditional p₂ e? p' h (by grind))
  · simp only [runs_bind, runs_flags, runs_pure] at h
    obtain ⟨f, q, ⟨rfl, rfl⟩, e, q', hinner, rfl, rfl⟩ := h
    obtain ⟨hleaves, hclosed⟩ := ih.enclosed _ p₂ e q' hinner (by grind)
    refine ⟨by grind, fun e' he' => ?_⟩
    cases he'
    rw [Closed, Element.repeatsLast_node, Element.nests_node, Node.repeatsLast, Node.nests,
      Element.repeatsLast_toNode, Element.nests_toNode]
    exact hclosed
  · simp only [runs_bind, runs_progress, runs_pure] at h
    obtain ⟨start, q, ⟨rfl, rfl⟩, bs, q', hbranches, u, q'', hclose, rfl, rfl⟩ := h
    obtain ⟨hleaves, hclosed⟩ := closed_ofBranches ih hbranches hclose (by grind)
    refine ⟨by grind, fun e' he' => ?_⟩
    cases he'
    exact hclosed
  · simp only [runs_bind, runs_pure] at h
    obtain ⟨u, q, hclose, n, q', hn, he, rfl⟩ := h
    exact ⟨by grind, hcalm (isCalm_of_callOf hn) he⟩
  · simp only [runs_bind, runs_pure] at h
    obtain ⟨n, q, hn, he, rfl⟩ := h
    exact ⟨by grind, hcalm (isCalm_of_namedCall hn) he⟩
  · -- A number of a group, or flags.
    split at h
    · simp only [runs_bind, runs_pure] at h
      obtain ⟨n, q, hn, he, rfl⟩ := h
      exact ⟨by grind, hcalm (isCalm_of_numberedCall hn) he⟩
    · split at h
      · simp only [runs_bind, runs_peek] at h
        obtain ⟨d, q, ⟨rfl, rfl⟩, h⟩ := h
        split at h
        · simp only [runs_bind, runs_pure] at h
          obtain ⟨n, q, hn, he, rfl⟩ := h
          exact ⟨by grind, hcalm (isCalm_of_relativeCall hn) he⟩
        · exact keeps_flags ih h hsource
      · exact keeps_flags ih h hsource

/-- A quantifier, the errors that are allowed, or a letter that looks like one of these. -/
theorem keeps_quantity (ih : Keeps source w whole fuel) {mode : CaseMode} {done ps : List Part}
    {last : Option Element} {c : Char} {q : Progress} {blanks : List Char}
    (h : Runs (do
      match ← quantifier c with
      | some b =>
        match last with
        | none => invalid
        | some e =>
          let prefer ← preference
          let e := withIterations w.casing b prefer e
          sequence w whole fuel mode (withElement done (some e)) none
      | none =>
        match ← tolerance w mode with
        | some t =>
          match last with
          | none => invalid
          | some e =>
            let e := withTolerance w.casing t e
            sequence w whole fuel mode (withElement done (some e)) none
        | none =>
          sequence w whole fuel mode (withElement done last) (some (.part (.letter c.toNat mode))))
      q ps p')
    (hc : c ∈ ['?', '*', '+', '\x7b']) (hheld : Held source done last p.rest)
    (hblanks : Spaced false [] blanks) (hrest : p.rest = blanks ++ c :: q.rest) :
    Leaves p.rest p'.rest ∧
      Shown source false p'.rest (ps.getLast?.any Part.repeatsLast) (ps.any Part.nests) := by
  have hq : Leaves p.rest q.rest := by
    rw [hrest]
    exact (List.suffix_cons c q.rest).trans (List.suffix_append _ _)
  rw [runs_bind] at h
  obtain ⟨b?, q₁, hquantifier, h⟩ := h
  have hq₁ : Leaves p.rest q₁.rest := by grind
  cases b? with
  | some b =>
      cases last with
      | none => exact (runs_invalid.mp h).elim
      | some e =>
          simp only [runs_bind] at h
          obtain ⟨prefer, q₂, hprefer, h⟩ := h
          have hq₂ : Leaves q.rest q₂.rest := by grind
          obtain ⟨text, htext⟩ := hq₂
          have hread : p.rest = blanks ++ ((c :: text) ++ q₂.rest) := by
            rw [hrest, ← htext]
            rfl
          rw [hread] at hheld
          have hquantity := Quantifies.written hc hquantifier hprefer htext.symm
          obtain ⟨hleaves, hshown⟩ := ih.sequence _ _ _ _ _ _ h
            (hheld.repeated hblanks hquantity w.casing prefer)
          exact ⟨by grind, hshown⟩
  | none =>
      simp only [runs_bind] at h
      obtain ⟨t?, q₂, htolerance, h⟩ := h
      have hq₂ : Leaves p.rest q₂.rest := by grind
      cases t? with
      | some t =>
          cases last with
          | none => exact (runs_invalid.mp h).elim
          | some e =>
              obtain ⟨hleaves, hshown⟩ := ih.sequence _ _ _ _ _ _ h (hheld.tolerated hq₂ w.casing t)
              exact ⟨hq₂.trans hleaves, hshown⟩
      | none =>
          obtain ⟨hleaves, hshown⟩ := ih.sequence _ _ _ _ _ _ h
            (hheld.part hq₂ (Part.isCalm_letter ..))
          exact ⟨hq₂.trans hleaves, hshown⟩

/-- One step of a sequence: its end, a part, a text in parentheses, or a quantifier. -/
theorem keeps_sequence (ih : Keeps source w whole fuel) {mode : CaseMode} {done ps : List Part}
    {last : Option Element} (h : Runs (sequence w whole (fuel + 1) mode done last) p ps p')
    (hheld : Held source done last p.rest) : Leaves p.rest p'.rest ∧
      Shown source false p'.rest (ps.getLast?.any Part.repeatsLast) (ps.any Part.nests) := by
  rw [sequence] at h
  simp only [runs_bind, runs_rest, runs_flags] at h
  obtain ⟨before, p₁, ⟨rfl, rfl⟩, f, p₂, ⟨rfl, rfl⟩, first, q, hfirst, h⟩ := h
  have hq : Leaves p.rest q.rest := leaves_next hfirst
  have hend : ∀ {q : Progress}, Runs (do
        goTo p.rest
        return (withElement done last).reverse) q ps p' →
      Leaves p.rest p'.rest ∧
        Shown source false p'.rest (ps.getLast?.any Part.repeatsLast) (ps.any Part.nests) := by
    intro q h
    simp only [runs_bind, runs_goTo, runs_pure] at h
    obtain ⟨u, q', rfl, rfl, rfl⟩ := h
    rw [List.getLast?_reverse, List.any_reverse]
    exact ⟨.refl _, fun hends => (hheld.shown.ends hends).open, hheld.shown.exhibits⟩
  have hnext : ∀ {mode : CaseMode} {done : List Part} {last : Option Element} {q : Progress},
      Leaves p.rest q.rest → Held source done last q.rest →
      Runs (sequence w whole fuel mode done last) q ps p' →
      Leaves p.rest p'.rest ∧
        Shown source false p'.rest (ps.getLast?.any Part.repeatsLast) (ps.any Part.nests) := by
    intro mode done last q hq hheld h
    obtain ⟨hleaves, hshown⟩ := ih.sequence _ _ _ _ _ _ h hheld
    exact ⟨hq.trans hleaves, hshown⟩
  have hpart : ∀ {x : Part} {q : Progress}, x.IsCalm → Leaves p.rest q.rest →
      Runs (sequence w whole fuel mode (withElement done last) (some (.part x))) q ps p' →
      Leaves p.rest p'.rest ∧
        Shown source false p'.rest (ps.getLast?.any Part.repeatsLast) (ps.any Part.nests) :=
    fun hx hq h => hnext hq (hheld.part hq hx) h
  cases first with
  | none => exact hend h
  | some c =>
      obtain ⟨blanks, hblanks, hrest⟩ := spaced_of_next hfirst
      simp only at h
      split at h
      · exact hend h
      · split at h
        · rw [runs_bind] at h
          obtain ⟨e, q', he, h⟩ := h
          exact hpart (isCalm_of_escape he) (by grind) h
        · split at h
          · next hc =>
            subst hc
            rw [runs_bind] at h
            obtain ⟨e?, q', he, h⟩ := h
            obtain ⟨⟨text, htext⟩, hclosed⟩ := ih.parenthesis q e? q' he (hheld.leaves.trans hq)
            have hread : p.rest = blanks ++ (('(' :: text) ++ q'.rest) := by
              rw [hrest, ← htext]
              rfl
            rw [hread] at hheld
            have hleaves : Leaves p.rest q'.rest := hq.trans ⟨text, htext⟩
            cases e? with
            | some e =>
                refine hnext hleaves (hheld.group hblanks (hclosed e rfl) fun hnil => ?_) h
                refine .group he (fun e' he' => ?_) htext.symm
                cases he'
                exact hnil
            | none =>
                simp only [runs_bind, runs_flags] at h
                obtain ⟨f, q₁, ⟨rfl, rfl⟩, h⟩ := h
                refine hnext hleaves (hheld.silent hblanks (.group he (fun e' he' => ?_) htext.symm)) h
                cases he'
          · split at h
            · exact hpart ⟨rfl, rfl⟩ hq h
            · split at h
              · rw [runs_bind] at h
                obtain ⟨x, q', hx, h⟩ := h
                exact hpart (isCalm_of_bracketed hx) (by grind) h
              · split at h
                · exact hpart ⟨rfl, rfl⟩ hq h
                · split at h
                  · next hc =>
                    exact keeps_quantity ih h (by simpa using hc) hheld hblanks hrest
                  · exact hpart (Part.isCalm_letter ..) hq h

/-- **What is read tells of the repetitions in the source what there is**, by the fuel. -/
theorem keeps (source : List Char) (w : Whole) (whole : Flags) (fuel : Nat) :
    Keeps source w whole fuel := by
  induction fuel with
  | zero => exact keeps_zero
  | succ fuel ih =>
      exact
        { branches := keeps_branches ih
          sequence := fun _ _ _ _ _ _ h hheld => keeps_sequence ih h hheld
          parenthesis := keeps_parenthesis ih
          special := keeps_special ih
          enclosed := keeps_enclosed ih
          capture := keeps_capture ih
          named := keeps_named ih
          look := keeps_look ih
          twoWays := keeps_twoWays ih
          conditional := keeps_conditional ih }

end

/-! ## Whole patterns -/

/-- **A nested repetition that is read stands in the source.** -/
theorem exhibits_of_readWith {w : Whole} {f : Flags} {cs : List Char} {n : Node} {p : Progress}
    (h : readWith w f cs = .ok (n, p)) (hn : n.nests = true) : Exhibits cs := by
  unfold readWith at h
  simp only at h
  split at h
  · cases h
  · next bs q hbranches =>
    split at h
    · cases h
      rw [Element.nests_toNode, nests_ofBranches] at hn
      obtain ⟨-, -, hshown⟩ := (keeps cs w f _).branches none _ _ _ hbranches (.refl _)
      exact hshown.exhibits hn
    · cases h

/-- Where an unbounded repetition ends a part that is itself repeated without bound, two such
quantifiers are written with nothing between them that makes a difference. -/
theorem exhibits_of_nests {source : String} {ignoreCase : Bool} {p : Pattern}
    (h : read source ignoreCase = .ok p) (hp : p.root.nests = true) : Exhibits source.toList := by
  unfold read at h
  split at h
  · cases h
  · cases h
  · next root q hread =>
    cases h
    unfold readTwice at hread
    split at hread
    · cases hread
    · split at hread
      · cases hread
      · exact exhibits_of_readWith hread hp

end SourceAudit.Pattern.Reader

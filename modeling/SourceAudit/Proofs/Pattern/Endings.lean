import Mathlib.Data.List.Basic
import SourceAudit.Pattern.Reader

/-!
# SourceAudit.Proofs.Pattern.Endings

Unbounded repetitions within one another, as they are found in the tree of a pattern.

* `Node.repeatsLast` — the last part of a pattern is repeated without bound;
* `Node.nests` — somewhere such a pattern is itself repeated without bound;
* `Part.repeatsLast_toNode`, `Part.nests_toNode` — both are seen from the parts of a sequence.
-/

namespace SourceAudit.Pattern

open Text

namespace Node

/-- Is the last part of the pattern, or of its last alternative, repeated without bound? That part
may be in groups, and a repetition of nothing does not count. The last alternative of a condition is
its second one, unless that is left out. -/
def repeatsLast : Node → Bool
  | cat _ r => r.repeatsLast
  | alt _ r => r.repeatsLast
  | group _ body => body.repeatsLast
  | loop bounds _ body => bounds.greatest.isNone && !body.isEmpty
  | look _ _ body => body.repeatsLast
  | lookIf _ _ _ yes no => no.repeatsLast || (no == empty && yes.repeatsLast)
  | groupIf _ yes no => no.repeatsLast || (no == empty && yes.repeatsLast)
  | atomic body => body.repeatsLast
  | _ => false

/-- Is a pattern whose last part is repeated without bound itself repeated without bound, anywhere
in the pattern? -/
def nests : Node → Bool
  | cat l r => l.nests || r.nests
  | alt l r => l.nests || r.nests
  | group _ body => body.nests
  | loop bounds _ body => bounds.greatest.isNone && body.repeatsLast || body.nests
  | look _ _ body => body.nests
  | lookIf _ _ body yes no => body.nests || yes.nests || no.nests
  | groupIf _ yes no => yes.nests || no.nests
  | atomic body => body.nests
  | tolerant _ body => body.nests
  | _ => false

/-- Nothing in the pattern is repeated within a repetition, nor is its last part. -/
structure IsCalm (n : Node) : Prop where
  repeatsLast : n.repeatsLast = false
  nests : n.nests = false

/-- Nothing ends in no repetition. -/
theorem repeatsLast_of_isEmpty {n : Node} (h : n.isEmpty = true) : n.repeatsLast = false := by
  induction n with
  | loop bounds fewest body _ =>
      rw [isEmpty] at h
      rw [repeatsLast, h, Bool.not_true, Bool.and_false]
  | lookIf direction wanted body yes no _ ihyes ihno =>
      obtain ⟨hyes, hno⟩ := Bool.and_eq_true_iff.mp h
      simp [repeatsLast, ihyes hyes, ihno hno]
  | groupIf number yes no ihyes ihno =>
      obtain ⟨hyes, hno⟩ := Bool.and_eq_true_iff.mp h
      simp [repeatsLast, ihyes hyes, ihno hno]
  | cat l r _ ihr => exact ihr (Bool.and_eq_true_iff.mp h).2
  | alt l r _ ihr => exact ihr (Bool.and_eq_true_iff.mp h).2
  | look direction wanted body ih => exact ih h
  | atomic body ih => exact ih h
  | _ => first | rfl | simp [isEmpty] at h

/-! ## Sequences and alternatives of patterns -/

section

variable {ns : List Node} {n : Node}

/-- A sequence ends like the last of its nodes. -/
theorem repeatsLast_seq (ns : List Node) :
    (seq ns).repeatsLast = ns.getLast?.any repeatsLast := by
  induction ns with
  | nil => rfl
  | cons n ns ih =>
      cases ns with
      | nil => simp [seq]
      | cons m ns => rw [List.getLast?_cons_cons, ← ih]; rfl

/-- A repetition is nested in a sequence if it is in one of its nodes. -/
theorem nests_seq (ns : List Node) : (seq ns).nests = ns.any nests := by
  induction ns with
  | nil => rfl
  | cons n ns ih =>
      cases ns with
      | nil => simp [seq]
      | cons m ns => rw [List.any_cons, ← ih]; rfl

/-- Of alternatives, the last one counts for the end. -/
theorem repeatsLast_anyOf (ns : List Node) :
    (anyOf ns).repeatsLast = ns.getLast?.any repeatsLast := by
  induction ns with
  | nil => rfl
  | cons n ns ih =>
      cases ns with
      | nil => simp [anyOf]
      | cons m ns => rw [List.getLast?_cons_cons, ← ih]; rfl

theorem nests_anyOf (ns : List Node) : (anyOf ns).nests = ns.any nests := by
  induction ns with
  | nil => rfl
  | cons n ns ih =>
      cases ns with
      | nil => simp [anyOf]
      | cons m ns => rw [List.any_cons, ← ih]; rfl

theorem isCalm_anyOf (h : ∀ n ∈ ns, n.IsCalm) : (anyOf ns).IsCalm where
  repeatsLast := by
    rw [repeatsLast_anyOf]
    cases hlast : ns.getLast? with
    | none => rfl
    | some n => exact (h n (List.mem_of_getLast? hlast)).repeatsLast
  nests := by
    rw [nests_anyOf, List.any_eq_false]
    intro n hn
    rw [(h n hn).nests]
    exact Bool.false_ne_true

end

end Node

namespace Part

/-- Is the part repeated without bound, or the last one in it? -/
def repeatsLast : Part → Bool
  | letter _ _ => false
  | node n => n.repeatsLast

/-- Is there an unbounded repetition within another one in the part? -/
def nests : Part → Bool
  | letter _ _ => false
  | node n => n.nests

/-- Nothing in the part is repeated within a repetition, nor is its last part. -/
structure IsCalm (x : Part) : Prop where
  repeatsLast : x.repeatsLast = false
  nests : x.nests = false

theorem isCalm_letter (code : Nat) (mode : CaseMode) : (letter code mode).IsCalm := ⟨rfl, rfl⟩

theorem isCalm_node {n : Node} (h : n.IsCalm) : (node n).IsCalm := ⟨h.repeatsLast, h.nests⟩

/-! ## Letters -/

theorem isCalm_of_mem_letters {ignoreCase ascii : Bool} {codes : List Nat} {n : Node}
    (h : n ∈ letters ignoreCase ascii codes) : n.IsCalm := by
  obtain ⟨c, -, rfl⟩ := List.mem_map.mp h
  exact ⟨rfl, rfl⟩

/-- No character is a repetition, nor is any text of characters, however its case is folded. -/
theorem isCalm_foldedText (ascii : Bool) (codes : List Nat) : (foldedText ascii codes).IsCalm := by
  unfold foldedText
  split
  · exact ⟨rfl, rfl⟩
  · split <;> exact ⟨rfl, rfl⟩
  · exact ⟨rfl, rfl⟩

/-- This is so for the parts into which a text is split as well. -/
theorem isCalm_of_mem_splitText {ascii : Bool} {place : Nat} {codes : List Nat}
    {spans : List (Nat × Nat)} {n : Node} (h : n ∈ splitText ascii place codes spans) :
    n.IsCalm := by
  induction spans generalizing place with
  | nil => exact isCalm_of_mem_letters h
  | cons span spans ih =>
      rw [splitText, List.mem_append, List.mem_cons] at h
      rcases h with h | rfl | h
      · exact isCalm_of_mem_letters h
      · exact isCalm_foldedText ..
      · exact ih h

variable {k : Casing} {mode : CaseMode} {codes : List Nat} {ps : List Part}

theorem isCalm_of_mem_ofLetters {n : Node} (h : n ∈ ofLetters k mode codes) : n.IsCalm := by
  unfold ofLetters at h
  split at h
  · exact isCalm_of_mem_letters h
  · split at h
    · exact isCalm_of_mem_splitText h
    · exact isCalm_of_mem_letters h

/-- Where there are characters there is a node for them. -/
theorem ofLetters_ne_nil (h : codes ≠ []) : ofLetters k mode codes ≠ [] := by
  have hletters : ∀ ignoreCase, letters ignoreCase k.ascii codes ≠ [] := fun ignoreCase =>
    fun hnil => h (List.map_eq_nil_iff.mp hnil)
  unfold ofLetters
  split
  · exact hletters false
  · split
    · cases foldedSpans codes with
      | nil => exact hletters true
      | cons span spans => simp [splitText]
    · exact hletters true

@[simp]
theorem ofLetters_nil : ofLetters k mode [] = [] := by simp [ofLetters, letters]

/-! ## Parts and their patterns -/

/-- Where there are characters or parts, there is a node. -/
theorem nodes_ne_nil (h : codes ≠ [] ∨ ps ≠ []) : nodes k codes mode ps ≠ [] := by
  fun_induction nodes k codes mode ps with
  | case1 codes mode => exact ofLetters_ne_nil (by simpa using h)
  | case2 codes mode c m ps _ ih => simp [ih]
  | case3 codes mode c m ps _ ih => exact ih (.inl (List.cons_ne_nil _ _))
  | case4 => simp

/-- A sequence ends with what its last part ends with. -/
theorem repeatsLast_nodes :
    (nodes k codes mode ps).getLast?.any Node.repeatsLast = ps.getLast?.any repeatsLast := by
  fun_induction nodes k codes mode ps with
  | case1 codes mode =>
      rw [List.getLast?_nil, Option.any_none]
      cases hlast : (ofLetters k mode codes.reverse).getLast? with
      | none => rfl
      | some n => exact (isCalm_of_mem_ofLetters (List.mem_of_getLast? hlast)).repeatsLast
  | case2 codes mode c m ps _ ih =>
      rw [List.getLast?_append_of_ne_nil _ (nodes_ne_nil (.inl (List.cons_ne_nil _ _))), ih]
      cases ps with
      | nil => rfl
      | cons p ps => rw [List.getLast?_cons_cons]
  | case3 codes mode c m ps _ ih =>
      rw [ih]
      cases ps with
      | nil => rfl
      | cons p ps => rw [List.getLast?_cons_cons]
  | case4 codes mode n ps ih =>
      rw [List.getLast?_append_of_ne_nil _ (List.cons_ne_nil _ _)]
      cases ps with
      | nil => simp [nodes, repeatsLast]
      | cons p ps =>
          have hne : nodes k [] mode (p :: ps) ≠ [] := nodes_ne_nil (.inr (List.cons_ne_nil _ _))
          rw [List.getLast?_cons_cons, ← ih, ← List.singleton_append,
            List.getLast?_append_of_ne_nil _ hne]

/-- The nodes of parts have the nested repetitions of the parts. -/
theorem nests_nodes : (nodes k codes mode ps).any Node.nests = ps.any nests := by
  have hletters : ∀ mode codes, (ofLetters k mode codes).any Node.nests = false := by
    intro mode codes
    rw [List.any_eq_false]
    intro n hn
    rw [(isCalm_of_mem_ofLetters hn).nests]
    exact Bool.false_ne_true
  fun_induction nodes k codes mode ps with
  | case1 codes mode => exact hletters ..
  | case2 codes mode c m ps _ ih => simp [hletters, ih, nests]
  | case3 codes mode c m ps _ ih => simp [ih, nests]
  | case4 codes mode n ps ih => simp [hletters, ih, nests]

/-- The pattern of a sequence ends with what its last part ends with. -/
theorem repeatsLast_toNode (k : Casing) (ps : List Part) :
    (toNode k ps).repeatsLast = ps.getLast?.any repeatsLast := by
  unfold toNode
  split
  · next c => exact (isCalm_foldedText ..).repeatsLast
  · rw [Node.repeatsLast_seq, repeatsLast_nodes]

/-- So does the one node that they are made into. -/
theorem nests_toNode (k : Casing) (ps : List Part) : (toNode k ps).nests = ps.any nests := by
  unfold toNode
  split
  · next c => exact (isCalm_foldedText ..).nests
  · rw [Node.nests_seq, nests_nodes]

end Part

namespace Element

/-- Is the last part of the element repeated without bound? -/
def repeatsLast (e : Element) : Bool := e.parts.getLast?.any Part.repeatsLast

/-- Is there an unbounded repetition within another one in the element? -/
def nests (e : Element) : Bool := e.parts.any Part.nests

@[simp]
theorem repeatsLast_node (n : Node) : (node n).repeatsLast = n.repeatsLast := rfl

@[simp]
theorem nests_node (n : Node) : (node n).nests = n.nests := Bool.or_false _

theorem repeatsLast_toNode (k : Casing) (e : Element) :
    (e.toNode k).repeatsLast = e.repeatsLast :=
  Part.repeatsLast_toNode k e.parts

theorem nests_toNode (k : Casing) (e : Element) : (e.toNode k).nests = e.nests :=
  Part.nests_toNode k e.parts

end Element

namespace Reader

variable {k : Casing} {b : Bounds} {prefer : Preference} {e : Element}

/-! ## Elements as they are read -/

/-- What is repeated ends in a repetition if there is no bound, unless there is nothing to
repeat. -/
theorem repeatsLast_repeated (n : Node) (b : Bounds) (prefer : Preference) :
    (repeated n b prefer).repeatsLast = (b.greatest.isNone && !n.isEmpty) := by
  cases prefer <;> rfl

/-- A repetition without bound of what ends in one is nested. -/
theorem nests_repeated (n : Node) (b : Bounds) (prefer : Preference) :
    (repeated n b prefer).nests = (b.greatest.isNone && n.repeatsLast || n.nests) := by
  cases prefer <;> rfl

/-- A tolerance stands behind what it is for. -/
theorem repeatsLast_withTolerance (k : Casing) (t : Tolerance) (e : Element) :
    (withTolerance k t e).repeatsLast = false := by
  unfold withTolerance
  split <;> rfl

/-- It leaves what stands in it as it is. -/
theorem nests_withTolerance (k : Casing) (t : Tolerance) (e : Element) :
    (withTolerance k t e).nests = e.nests := by
  unfold withTolerance
  split
  · rfl
  · rw [Element.nests_node, Node.nests, Element.nests_toNode]

/-- Alternatives end with what the last of them ends with. -/
theorem repeatsLast_ofBranches (k : Casing) (bs : List (List Part)) :
    (ofBranches k bs).repeatsLast = bs.getLast?.any (·.getLast?.any Part.repeatsLast) := by
  unfold ofBranches
  split
  · rfl
  · rw [Element.repeatsLast_node, Node.repeatsLast_anyOf, List.getLast?_map, Option.any_map]
    congr 1
    funext ps
    exact Part.repeatsLast_toNode k ps

/-- A repetition is nested in alternatives if it is in a part of one of them. -/
theorem nests_ofBranches (k : Casing) (bs : List (List Part)) :
    (ofBranches k bs).nests = bs.any (·.any Part.nests) := by
  unfold ofBranches
  split
  · exact (Bool.or_false _).symm
  · rw [Element.nests_node, Node.nests_anyOf, List.any_map]
    congr 1
    funext ps
    exact Part.nests_toNode k ps

end Reader

end SourceAudit.Pattern

import Mathlib.Data.List.Infix
import SourceAudit.Glob
import SourceAudit.Path
import SourceAudit.Proofs.Text.Cutting

/-!
# SourceAudit.Proofs.Text.Paths

Paths made of names, and the globs that look at them. A name can stand as a component of a path; a
path is put together by writing names and separators one after the other, and is taken apart again
into the same names. A glob that starts with a star matches by the end of a text, and one between
two stars by any part of it. A plain part without a separator lies within one component of a path:
by its end it can only be found in the last one, but between stars in any of them.

* `components_append` — the components of a path that starts with a name;
* `directories_inside` — the directories on the path of a file are those on the way to it;
* `name_append` — the last component of a path is the name that it ends with;
* `matchesAll_literal_append` — plain characters match themselves;
* `matchesAll_ending`, `matchesAll_inside` — a plain part after a star, and one between two stars;
* `suffix_append_cons_iff`, `infix_append_cons_iff` — a part without a separator, in a text with
  one.
-/

namespace SourceAudit.Path

open Text

/-- A name that can stand in a path: it is not empty, not a single dot, and without a separator. -/
structure IsName (name : String) : Prop where
  ne_empty : name ≠ ""
  ne_dot : name ≠ "."
  noSeparator : '/' ∉ name.toList

/-- The texts that paths start with inside of some directories. -/
def Inside (above : List String) (inside : String) : Prop :=
  ∀ rest, components (inside ++ rest) = above ++ components rest

section

variable {name inside : String} {above : List String}

theorem IsName.counts (h : IsName name) :
    (name.toList ≠ [] && name.toList ≠ ['.']) = true := by
  have hempty : name.toList ≠ [] := by simpa using h.ne_empty
  have hdot : name.toList ≠ ['.'] := fun hdot => h.ne_dot (String.toList_inj.mp hdot)
  simp [hempty, hdot]

theorem components_name (h : IsName name) : components name = [name] := by
  rw [components, piecesBetween_of_notMem h.noSeparator, List.filter_cons, if_pos h.counts]
  simp

/-- The first component of a path is the name before its first slash. -/
theorem components_append (h : IsName name) (rest : String) :
    components (name ++ "/" ++ rest) = name :: components rest := by
  have hlist : (name ++ "/" ++ rest).toList = name.toList ++ '/' :: rest.toList := by simp
  rw [components, hlist, piecesBetween_append h.noSeparator, List.filter_cons, if_pos h.counts]
  simp [components]

theorem inside_empty : Inside [] "" := fun rest => by simp

/-- Inside one directory more. -/
theorem Inside.step (h : Inside above inside) (hname : IsName name) :
    Inside (above ++ [name]) (inside ++ name ++ "/") := by
  intro rest
  rw [show inside ++ name ++ "/" ++ rest = inside ++ (name ++ "/" ++ rest) by
    simp only [String.append_assoc], h, components_append hname, List.append_assoc]
  rfl

/-- **The directories on the path of a file** are those on the way to it. -/
theorem directories_inside (h : Inside above inside) (hname : IsName name) :
    directories (inside ++ name) = above := by
  rw [directories, h, components_name hname, List.dropLast_concat]

theorem name_of_isName (h : IsName name) : Path.name name = name := by
  rw [Path.name, components_name h]
  rfl

/-- **The last component** of a path is the name that it ends with, whatever comes before it. -/
theorem name_append (above : String) (h : IsName name) :
    Path.name (above ++ "/" ++ name) = name := by
  have hlist : (above ++ "/" ++ name).toList = above.toList ++ '/' :: name.toList := by simp
  have hlast := components_name h
  rw [components] at hlast
  rw [Path.name, components, hlist, piecesBetween_append_cons, List.filter_append, List.map_append,
    hlast, List.getLast?_concat]
  rfl

end

end SourceAudit.Path

namespace SourceAudit.Glob

/-- The parts of a glob that is written with plain characters only. -/
def literal (w : List Char) : List Piece := w.map fun c => .one (.only c)

section

variable {w cs : List Char} {c x : Char}

theorem contains_only : (Members.only c).contains x = true ↔ x = c := by
  have hone : (Members.only c).contains x = (decide (c ≤ x) && decide (x ≤ c)) := by
    simp [Members.contains, Members.only]
  rw [hone, Bool.and_eq_true, decide_eq_true_eq, decide_eq_true_eq]
  exact ⟨fun ⟨hge, hle⟩ => Char.le_antisymm hle hge, fun h => by
    rw [h]; exact ⟨Char.le_refl c, Char.le_refl c⟩⟩

/-- One of the endings of a text is tried after the other. -/
theorem anySuffix_iff {p : List Char → Bool} :
    anySuffix p cs = true ↔ ∃ ending, ending <:+ cs ∧ p ending = true := by
  induction cs with
  | nil => simp [anySuffix]
  | cons c cs ih =>
      simp only [anySuffix, Bool.or_eq_true, ih, List.suffix_cons_iff, or_and_right, exists_or,
        exists_eq_left]

/-- **Plain characters match themselves**, and the parts after them what follows. -/
theorem matchesAll_literal_append {ps : List Piece} :
    matchesAll (literal w ++ ps) cs = true ↔ ∃ rest, cs = w ++ rest ∧ matchesAll ps rest = true := by
  induction w generalizing cs with
  | nil => simp [literal]
  | cons c w ih =>
      rw [literal, List.map_cons, List.cons_append, ← literal]
      cases cs with
      | nil => simp [matchesAll]
      | cons x cs =>
          simp only [matchesAll, Bool.and_eq_true, contains_only, ih, List.cons_append,
            List.cons.injEq, and_assoc, exists_and_left]

/-- A text without wildcards matches itself only. -/
theorem matchesAll_literal : matchesAll (literal w) cs = true ↔ cs = w := by
  have happend : matchesAll (literal w ++ []) cs = true ↔ ∃ rest, cs = w ++ rest ∧
      matchesAll [] rest = true := matchesAll_literal_append
  simpa [matchesAll] using happend

/-- A plain part after a star matches the texts that end with it. -/
theorem matchesAll_ending : matchesAll (.star :: literal w) cs = true ↔ w <:+ cs := by
  simp only [matchesAll, anySuffix_iff, matchesAll_literal, exists_eq_right]

/-- A plain part between two stars matches the texts that have it anywhere. -/
theorem matchesAll_inside : matchesAll (.star :: (literal w ++ [.star])) cs = true ↔ w <:+: cs := by
  have hstar : ∀ rest, matchesAll [.star] rest = true := fun rest =>
    anySuffix_iff.mpr ⟨[], List.nil_suffix, rfl⟩
  rw [matchesAll, anySuffix_iff]
  constructor
  · rintro ⟨ending, hending, hmatch⟩
    obtain ⟨rest, rfl, -⟩ := matchesAll_literal_append.mp hmatch
    exact (List.prefix_append w rest).isInfix.trans hending.isInfix
  · rintro ⟨before, rest, rfl⟩
    exact ⟨w ++ rest, ⟨before, by simp⟩, matchesAll_literal_append.mpr ⟨rest, rfl, hstar rest⟩⟩

end

section

variable {α : Type} {sep : α} {w as bs : List α}

/-- A part without a separator that ends a text stands after its separators. -/
theorem suffix_append_cons_iff (h : sep ∉ w) : w <:+ as ++ sep :: bs ↔ w <:+ bs := by
  constructor
  · rintro ⟨front, heq⟩
    rcases List.append_eq_append_iff.mp heq with ⟨more, -, rfl⟩ | ⟨more, -, hmore⟩
    · simp at h
    · cases more with
      | nil =>
          rw [List.nil_append] at hmore
          simp [← hmore] at h
      | cons c more =>
          obtain ⟨-, rfl⟩ := List.cons_eq_cons.mp hmore
          exact List.suffix_append more w
  · exact fun hw => hw.trans ((List.suffix_cons sep bs).trans (List.suffix_append ..))

/-- A part without a separator that stands in a text stands before a separator or after it. -/
theorem infix_append_cons_iff (h : sep ∉ w) :
    w <:+: as ++ sep :: bs ↔ w <:+: as ∨ w <:+: bs := by
  have hstart : ∀ part, part <+: sep :: bs → sep ∉ part → part = [] := by
    intro part hpart hsep
    rcases List.prefix_cons_iff.mp hpart with hnil | ⟨rest, rfl, -⟩
    · exact hnil
    · simp at hsep
  constructor
  · intro hw
    rcases List.infix_append_iff.mp hw with hleft | hright | ⟨front, back, rfl, hfront, hback⟩
    · exact .inl hleft
    · rcases List.infix_cons_iff.mp hright with hprefix | hright
      · obtain rfl := hstart w hprefix h
        exact .inl List.nil_infix
      · exact .inr hright
    · obtain rfl := hstart back hback (fun hsep => h (List.mem_append_right front hsep))
      rw [List.append_nil]
      exact .inl hfront.isInfix
  · rintro (hw | hw)
    · exact hw.trans (List.prefix_append ..).isInfix
    · exact hw.trans ((List.suffix_cons sep bs).trans (List.suffix_append ..)).isInfix

end

end SourceAudit.Glob

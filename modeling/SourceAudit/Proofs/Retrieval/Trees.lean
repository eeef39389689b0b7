import Mathlib.Data.List.Perm.Basic
import SourceAudit.Proofs.Retrieval.Offers
import SourceAudit.Proofs.Text.Paths

/-!
# SourceAudit.Proofs.Retrieval.Trees

Trees of files and directories. Two ways of looking for the files to be searched come to the same:
to go through all files of the tree and test the directories on the path of each, or to leave out
directories on the way down.

* `Contents.everything` and `Subtree.all` — all entries of a tree by their paths, and the
  directories that are met on the way down;
* `perm_children` — the directories met below a directory, child by child;
* `eligible_perm` — the files to be searched are those in the directories met.
-/

namespace SourceAudit

open Text

namespace Retrieval

open SourceAudit.Path

/-- A file is not searched below a directory that is left out. -/
theorem isScannable_below {above : List String} {inside name : String} (h : Inside above inside)
    (hname : IsName name) (hskip : above.any skippedDirectories.contains = true) :
    isScannable (inside ++ name) = false := by
  rw [isScannable, directories_inside h hname, hskip, Bool.true_or, if_pos rfl]

/-! ## Trees -/

/-- What a directory holds, entry by entry. -/
inductive Contents
  | nil
  | file (name : String) (size : Int) (rest : Contents)
  | directory (name version : String) (inner rest : Contents)

/-- An entry of a directory. -/
inductive Node
  | file (name : String) (size : Int)
  | directory (name version : String) (inner : Contents)

/-- A directory of a tree, with its version and how the paths in it start. -/
structure Subtree where
  inside : String
  version : String
  contents : Contents

namespace Node

/-- The name of an entry. -/
def name : Node → String
  | file name _ => name
  | directory name _ _ => name

/-- The candidate that the entry at a path is. -/
def candidate? (path : String) : Node → Option Candidate
  | file _ size => if isScannable path then some ⟨path, size, false⟩ else none
  | directory .. => none

/-- The directory that is met when the entry is. -/
def child? (inside : String) : Node → Option Subtree
  | file .. => none
  | directory name version inner =>
    if skippedDirectories.contains name then none
    else some ⟨inside ++ name ++ "/", version, inner⟩

end Node

namespace Contents

/-- The entries of a directory. -/
def nodes : Contents → List Node
  | nil => []
  | file name size rest => .file name size :: rest.nodes
  | directory name version inner rest => .directory name version inner :: rest.nodes

/-- All entries of a tree, by their paths. -/
def everything (inside : String) : Contents → List (String × Node)
  | nil => []
  | file name size rest => (inside ++ name, .file name size) :: rest.everything inside
  | directory name version inner rest =>
    (inside ++ name, .directory name version inner) ::
      (inner.everything (inside ++ name ++ "/") ++ rest.everything inside)

/-- The directories that are met on the way down a tree. -/
def met (inside : String) : Contents → List Subtree
  | nil => []
  | file _ _ rest => rest.met inside
  | directory name version inner rest =>
    if skippedDirectories.contains name then rest.met inside
    else
      ⟨inside ++ name ++ "/", version, inner⟩ ::
        (inner.met (inside ++ name ++ "/") ++ rest.met inside)

/-- Every entry of the tree has a name that can stand in a path. -/
def Named : Contents → Prop
  | nil => True
  | file name _ rest => IsName name ∧ rest.Named
  | directory name _ inner rest => IsName name ∧ inner.Named ∧ rest.Named

/-- The files of a tree that are to be searched. -/
def eligible (tree : Contents) : List Candidate :=
  (tree.everything "").filterMap fun e => e.2.candidate? e.1

end Contents

namespace Subtree

/-- The files to be searched in a directory itself. -/
def offers (t : Subtree) : List Candidate :=
  t.contents.nodes.filterMap fun n => n.candidate? (t.inside ++ n.name)

/-- The directories that are met in a directory itself. -/
def children (t : Subtree) : List Subtree := t.contents.nodes.filterMap (Node.child? t.inside)

/-- A directory and those met below it. -/
def all (t : Subtree) : List Subtree := t :: t.contents.met t.inside

end Subtree

/-! ## The way down -/

/-- **The directories met below a directory** are its children and those below them. -/
theorem perm_children (inside : String) (contents : Contents) :
    (contents.met inside).Perm
      ((contents.nodes.filterMap (Node.child? inside)).flatMap Subtree.all) := by
  induction contents with
  | nil => exact .refl _
  | file name size rest ih =>
      rw [Contents.met, Contents.nodes, List.filterMap_cons_none rfl]
      exact ih
  | directory name version inner rest _ ih =>
      rw [Contents.met, Contents.nodes]
      by_cases hskip : skippedDirectories.contains name = true
      · rw [if_pos hskip, List.filterMap_cons_none (by rw [Node.child?, if_pos hskip])]
        exact ih
      · rw [if_neg hskip, List.filterMap_cons_some (by rw [Node.child?, if_neg hskip]),
          List.flatMap_cons]
        exact (ih.append_left _).cons _

section

variable {above : List String} {inside : String} {contents : Contents}

/-- Below a directory that is left out there is no file to be searched. -/
theorem everything_skipped (hinside : Inside above inside) (hnamed : contents.Named)
    (hskip : above.any skippedDirectories.contains = true) :
    (contents.everything inside).filterMap (fun e => e.2.candidate? e.1) = [] := by
  induction contents generalizing above inside with
  | nil => rfl
  | file name size rest ih =>
      obtain ⟨hname, hrest⟩ := hnamed
      rw [Contents.everything, List.filterMap_cons_none, ih hinside hrest hskip]
      simp [Node.candidate?, isScannable_below hinside hname hskip]
  | directory name version inner rest ihInner ihRest =>
      obtain ⟨hname, hinner, hrest⟩ := hnamed
      have hbelow : (above ++ [name]).any skippedDirectories.contains = true := by
        rw [List.any_append, hskip, Bool.true_or]
      rw [Contents.everything, List.filterMap_cons_none rfl, List.filterMap_append,
        ihInner (hinside.step hname) hinner hbelow, ihRest hinside hrest hskip]
      rfl

/-- The files to be searched in a tree are those in a directory and those in the directories met
below it. -/
theorem everything_perm (hinside : Inside above inside) (hnamed : contents.Named) :
    ((contents.everything inside).filterMap fun e => e.2.candidate? e.1).Perm
      ((contents.nodes.filterMap fun n => n.candidate? (inside ++ n.name)) ++
        (contents.met inside).flatMap Subtree.offers) := by
  induction contents generalizing above inside with
  | nil => exact .refl _
  | file name size rest ih =>
      obtain ⟨_, hrest⟩ := hnamed
      rw [Contents.everything, Contents.nodes, Contents.met, List.filterMap_cons,
        List.filterMap_cons]
      have ih := ih hinside hrest
      cases hfile : (Node.file name size).candidate? (inside ++ name) with
      | none => simpa [Node.name, hfile] using ih
      | some f => simpa [Node.name, hfile] using ih
  | directory name version inner rest ihInner ihRest =>
      obtain ⟨hname, hinner, hrest⟩ := hnamed
      have hbelow := hinside.step hname
      have ihRest := ihRest hinside hrest
      rw [Contents.everything, Contents.nodes, List.filterMap_cons_none rfl,
        List.filterMap_cons_none rfl, List.filterMap_append, Contents.met]
      by_cases hskip : skippedDirectories.contains name = true
      · have habove : (above ++ [name]).any skippedDirectories.contains = true := by
          rw [List.any_append, Bool.or_eq_true]
          exact Or.inr (by simpa using hskip)
        rw [if_pos hskip, everything_skipped hbelow hinner habove]
        exact ihRest
      · rw [if_neg hskip, List.flatMap_cons, List.flatMap_append]
        refine ((ihInner hbelow hinner).append ihRest).trans ?_
        refine (List.perm_append_comm_assoc _ _ _).trans ?_
        rw [List.append_assoc]
        exact .refl _

end

/-- **The files to be searched** are those in the directories met on the way down. -/
theorem eligible_perm (version : String) (tree : Contents) (hnamed : tree.Named) :
    tree.eligible.Perm ((Subtree.all ⟨"", version, tree⟩).flatMap Subtree.offers) := by
  simpa [Contents.eligible, Subtree.all, Subtree.offers] using everything_perm inside_empty hnamed

end Retrieval

end SourceAudit

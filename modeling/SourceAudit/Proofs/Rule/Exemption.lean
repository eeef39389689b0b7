import SourceAudit.Proofs.Text.Paths
import SourceAudit.Rule.Draft

/-!
# SourceAudit.Proofs.Rule.Exemption

Which files rules for secrets leave out as examples. The globs of example files are tried at the
whole path as well as at the name of a file, and a star in them stands for separators too.

* `globMatches_ending`, `globMatches_inside` — a glob at a path and at the name that the path ends
  with;
* `selects_example_iff` — the paths that are taken for example files;
* `applies_secret_iff` — a rule for secrets passes over a file by its name, or by a directory above
  it whose name has a part that was meant for the middle of a name of a file.
-/

namespace SourceAudit

open Glob SourceAudit.Path

section

variable {glob : String} {w : List Char}

/-- A glob for the end of a text looks at the name of a file only. -/
theorem globMatches_ending (hpieces : pieces glob = .star :: literal w) (hw : '/' ∉ w)
    (above n : String) :
    globMatches glob (above ++ "/" ++ n) = true ↔ globMatches glob n = true := by
  have hlist : (above ++ "/" ++ n).toList = above.toList ++ '/' :: n.toList := by simp
  rw [globMatches, globMatches, hpieces, hlist, matchesAll_ending, matchesAll_ending,
    suffix_append_cons_iff hw]

/-- A glob for the middle of a text looks at the directories too. -/
theorem globMatches_inside (hpieces : pieces glob = .star :: (literal w ++ [.star]))
    (hw : '/' ∉ w) (above n : String) :
    globMatches glob (above ++ "/" ++ n) = true ↔
      w <:+: above.toList ∨ globMatches glob n = true := by
  have hlist : (above ++ "/" ++ n).toList = above.toList ++ '/' :: n.toList := by simp
  rw [globMatches, globMatches, hpieces, hlist, matchesAll_inside, matchesAll_inside,
    infix_append_cons_iff hw]

end

namespace RuleDraft

/-- A file is taken for an example by its name. -/
def namesExample (name : String) : Bool := exampleFiles.any (globMatches · name)

/-- Some directory of a path has `.example.` or `.sample.` in its name. -/
def MentionsExample (above : String) : Prop :=
  ".example.".toList <:+: above.toList ∨ ".sample.".toList <:+: above.toList

section

variable {above n : String}

theorem selects_name_iff (hn : IsName n) (glob : String) :
    Rule.selects n glob = true ↔ globMatches glob n = true := by
  rw [Rule.selects, name_of_isName hn, Bool.or_self]

/-- **The paths that are taken for example files.** -/
theorem selects_example_iff (hn : IsName n) :
    exampleFiles.any (Rule.selects (above ++ "/" ++ n)) = true ↔
      namesExample n = true ∨ MentionsExample above := by
  have hexample := globMatches_ending (show pieces "*.example" = .star :: literal ".example".toList
    from rfl) (by decide) above n
  have hsample := globMatches_ending (show pieces "*.sample" = .star :: literal ".sample".toList
    from rfl) (by decide) above n
  have htemplate := globMatches_ending (show pieces "*.template" = .star :: literal ".template".toList
    from rfl) (by decide) above n
  have hexamples := globMatches_inside (show pieces "*.example.*" =
    .star :: (literal ".example.".toList ++ [.star]) from rfl) (by decide) above n
  have hsamples := globMatches_inside (show pieces "*.sample.*" =
    .star :: (literal ".sample.".toList ++ [.star]) from rfl) (by decide) above n
  simp only [exampleFiles, namesExample, MentionsExample, Rule.selects, name_append above hn,
    List.any_cons, List.any_nil, Bool.or_false, Bool.or_eq_true, hexample, hsample, htemplate,
    hexamples, hsamples, or_self]
  -- What is left is about the seven conditions as such.
  clear hexample hsample htemplate hexamples hsamples
  generalize (".example.".toList <:+: above.toList) = p, (".sample.".toList <:+: above.toList) = q,
    globMatches "*.example" n = a, globMatches "*.example.*" n = b, globMatches "*.sample" n = c,
    globMatches "*.sample.*" n = d, globMatches "*.template" n = e
  tauto

/-- A rule for secrets with no globs of its own applies to all that is not taken for an example. -/
theorem applies_of_rule? {d : RuleDraft} {r : Rule} (hr : d.rule? = some r)
    (hsecret : d.category = .secret) (hexclude : d.exclude = []) (hall : d.appliesTo = ["*"])
    (path : String) : r.applies path = !exampleFiles.any (Rule.selects path) := by
  obtain ⟨p, -, rfl⟩ := Option.map_eq_some_iff.mp hr
  have hstar : Rule.selects path "*" = true := by
    have hmatch : matchesAll (.star :: literal []) path.toList = true :=
      matchesAll_ending.mpr List.nil_suffix
    rw [Rule.selects, globMatches, show pieces "*" = .star :: literal [] from rfl, hmatch,
      Bool.true_or]
  simp [Rule.applies, hsecret, hexclude, hall, hstar]

end

/-- **What rules for secrets pass over.** Such a rule, with no excluding globs of its own and for
all files, applies to a file without directories exactly if the name of the file is none of an
example; below directories it applies exactly if, moreover, none of these has `.example.` or
`.sample.` in its name. -/
theorem applies_secret_iff {d : RuleDraft} {r : Rule} (hr : d.rule? = some r)
    (hsecret : d.category = .secret) (hexclude : d.exclude = []) (hall : d.appliesTo = ["*"])
    {n : String} (hn : IsName n) :
    (r.applies n = true ↔ ∀ glob ∈ exampleFiles, globMatches glob n = false) ∧
    ∀ above : String, r.applies (above ++ "/" ++ n) = true ↔
      (∀ glob ∈ exampleFiles, globMatches glob n = false) ∧
        ¬ ".example.".toList <:+: above.toList ∧ ¬ ".sample.".toList <:+: above.toList := by
  have hname : namesExample n = true ↔ ¬ ∀ glob ∈ exampleFiles, globMatches glob n = false := by
    simp [namesExample]
  have happlies := applies_of_rule? hr hsecret hexclude hall
  refine ⟨?_, fun above => ?_⟩
  · have hselects : exampleFiles.any (Rule.selects n) = namesExample n :=
      List.any_congr rfl fun glob => Bool.eq_iff_iff.mpr (selects_name_iff hn glob)
    rw [happlies, hselects, Bool.not_eq_true', ← Bool.not_eq_true, hname, not_not]
  · rw [happlies, Bool.not_eq_true', ← Bool.not_eq_true, selects_example_iff hn, hname,
      MentionsExample, not_or, not_or, not_not]

end RuleDraft

namespace Sample

/-- A rule for secrets with nothing but a pattern. -/
def letterDraft : RuleDraft where
  id := "token"
  category := .secret
  severity := .high
  title := "Token"
  pattern := "x"

theorem rule?_letterDraft : ∃ r, letterDraft.rule? = some r :=
  Option.isSome_iff_exists.mp (by decide +kernel)

/-- The rule is for `a.d/n.py`, and not for `a.d/n.sample.py`. -/
theorem applies_secret_iff_directory :
    ∃ r, letterDraft.rule? = some r ∧ r.applies ("a.d" ++ "/" ++ "n.py") = true ∧
      r.applies ("a.d" ++ "/" ++ "n.sample.py") = false := by
  obtain ⟨r, hr⟩ := rule?_letterDraft
  have hfile := RuleDraft.applies_secret_iff hr rfl rfl rfl (n := "n.py")
    ⟨by decide, by decide, by decide⟩
  have hsample := RuleDraft.applies_secret_iff hr rfl rfl rfl (n := "n.sample.py")
    ⟨by decide, by decide, by decide⟩
  refine ⟨r, hr, (hfile.2 "a.d").mpr (by decide), ?_⟩
  rw [← Bool.not_eq_true, hsample.2 "a.d"]
  decide

/-- A directory named like an example hides every secret below it: `n.py` is no name of an example
file, but no rule for secrets applies to `a.example.d/n.py`. -/
theorem exampleDirectory_exempts :
    ¬ ∀ (d : RuleDraft) (r : Rule) (above n : String), d.rule? = some r → d.category = .secret →
      d.exclude = [] → d.appliesTo = ["*"] → Path.IsName n →
      (∀ glob ∈ RuleDraft.exampleFiles, globMatches glob n = false) →
        r.applies (above ++ "/" ++ n) = true := by
  intro h
  obtain ⟨r, hr⟩ := rule?_letterDraft
  have happlies := h letterDraft r "a.example.d" "n.py" hr rfl rfl rfl
    ⟨by decide, by decide, by decide⟩ (by decide)
  rw [RuleDraft.applies_of_rule? hr rfl rfl rfl] at happlies
  exact absurd happlies (by decide)

end Sample

end SourceAudit

import SourceAudit.Rule.Builtin.Calls
import SourceAudit.Rule.Builtin.Configuration
import SourceAudit.Rule.Builtin.Crypto
import SourceAudit.Rule.Builtin.Secrets

/-!
# SourceAudit.Rule.Builtin

The built-in rules, in the order in which they report. They are written as drafts, and a draft that
could not be read would be left out without notice.

* `readable_builtin` — every draft is read, and has the group that it takes for the secret;
* `map_id_builtinRules` — so none of them is left out.
-/

namespace SourceAudit

/-- The built-in rules as written. -/
def builtinDrafts : List RuleDraft :=
  Builtin.secretDrafts ++ Builtin.callDrafts ++ Builtin.cryptoDrafts ++
    Builtin.configurationDrafts

/-- The built-in rules. -/
def builtinRules : List Rule := builtinDrafts.filterMap RuleDraft.rule?

/-! ## Every draft is a rule -/

namespace RuleDraft

/-- There is a rule for the draft, and its secret group is a group of its pattern. -/
def Readable (d : RuleDraft) : Prop :=
  ∃ r, d.rule? = some r ∧ r.secretGroup ≤ r.pattern.groups

/-- Are these the characters of a pattern with a number of groups or more? -/
def opensGroups (ignoreCase : Bool) (cs : List Char) (count : Nat) : Bool :=
  match Pattern.Reader.readTwice (if ignoreCase then [.ignoreCase] else []) cs with
  | .ok (_, p) => count ≤ p.groups
  | .error _ => false

variable {d : RuleDraft} {cs cs' : List Char} {s s' : String}

/-- A pattern is told by its characters: to find them in the text of a literal takes the kernel
long, and to see that they are those of the literal takes it no time. -/
theorem readable_of_chars (hcs : d.pattern = .ofList cs)
    (h : opensGroups d.ignoreCase cs d.secretGroup = true) : d.Readable := by
  unfold opensGroups at h
  split at h
  · next root p hread =>
    have hpattern : ∃ q, Pattern.read? d.pattern d.ignoreCase = some q ∧ q.groups = p.groups := by
      unfold Pattern.read? Pattern.read
      rw [hcs, String.toList_ofList, hread]
      exact ⟨_, rfl, rfl⟩
    obtain ⟨q, hq, hgroups⟩ := hpattern
    exact ⟨_, Option.map_eq_some_iff.mpr ⟨q, hq, rfl⟩, hgroups ▸ of_decide_eq_true h⟩
  · exact absurd h Bool.false_ne_true

theorem append_eq_ofList (h : s = .ofList cs) (h' : s' = .ofList cs') :
    s ++ s' = .ofList (cs ++ cs') := by
  rw [h, h', String.ofList_append]

/-- **Every built-in draft is a rule.** -/
theorem readable_builtin : ∀ d ∈ builtinDrafts, d.Readable := by
  unfold builtinDrafts Builtin.secretDrafts Builtin.callDrafts Builtin.cryptoDrafts
    Builtin.configurationDrafts Builtin.userInput
  simp only [List.cons_append, List.nil_append]
  -- Draft by draft: its pattern, which may be put together from several literals, is then read.
  repeat' first
    | exact List.forall_mem_nil _
    | refine List.forall_mem_cons.mpr ⟨?_, ?_⟩
    | apply readable_of_chars
    | with_reducible exact rfl
    | with_reducible apply append_eq_ofList
    | decide +kernel

theorem id_of_rule? {r : Rule} (h : d.rule? = some r) : r.id = d.id := by
  obtain ⟨p, -, rfl⟩ := Option.map_eq_some_iff.mp h
  rfl

theorem map_id_of_readable {drafts : List RuleDraft} (h : ∀ d ∈ drafts, d.Readable) :
    (drafts.filterMap rule?).map Rule.id = drafts.map RuleDraft.id := by
  induction drafts with
  | nil => rfl
  | cons d drafts ih =>
      obtain ⟨⟨r, hr, -⟩, hrest⟩ := List.forall_mem_cons.mp h
      rw [List.filterMap_cons_some hr, List.map_cons, List.map_cons, id_of_rule? hr, ih hrest]

end RuleDraft

/-- **The built-in rules are those of the drafts.** -/
theorem map_id_builtinRules : builtinRules.map Rule.id = builtinDrafts.map RuleDraft.id :=
  RuleDraft.map_id_of_readable RuleDraft.readable_builtin

/-- Each of the rules comes from one of the drafts. -/
theorem exists_draft_of_mem_builtinRules {r : Rule} (h : r ∈ builtinRules) :
    ∃ d ∈ builtinDrafts, d.rule? = some r :=
  List.mem_filterMap.mp h

/-- Each of the rules has the group of its secret in its pattern. -/
theorem secretGroup_le_of_builtin {r : Rule} (h : r ∈ builtinRules) :
    r.secretGroup ≤ r.pattern.groups := by
  obtain ⟨d, hd, hr⟩ := exists_draft_of_mem_builtinRules h
  obtain ⟨r', hr', hgroup⟩ := RuleDraft.readable_builtin d hd
  rw [hr] at hr'
  obtain rfl := Option.some.inj hr'
  exact hgroup

end SourceAudit

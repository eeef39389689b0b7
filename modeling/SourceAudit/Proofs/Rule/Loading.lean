import Mathlib.Data.List.Forall2
import SourceAudit.Proofs.Analysis.Locations

/-!
# SourceAudit.Proofs.Rule.Loading

Registries made from the text of a rules file. Either nothing is loaded or every item of the text is
a rule of the registry, and then an engine can run it: the groups that it reads are groups of every
match, and no file and no clock stops it.

* `Rule.loadText_eq_ok_iff`, `Registry.build_eq_ok_iff` — when there is a registry, and of what;
* `Engine.exists_outcome` — an engine with lines of at least one character has an outcome;
* `Registry.loading_runs` — what is loaded can be run.
-/

namespace SourceAudit

open Input Line

/-! ## Loading -/

namespace Rule

variable {items : List Json} {rules : List Rule} {text : String}

/-- Items are read one by one, and all of them or none. -/
theorem ofItems_eq_ok_iff :
    Rule.ofItems items = .ok rules ↔
      List.Forall₂ (fun item r => Rule.ofJson item = .good r) items rules := by
  induction items generalizing rules with
  | nil => simp [Rule.ofItems, eq_comm]
  | cons item items ih =>
      rw [Rule.ofItems]
      cases hitem : Rule.ofJson item with
      | bad problems => simp [List.forall₂_cons_left_iff, hitem]
      | good r =>
          simp only [List.forall₂_cons_left_iff, hitem, Checked.good.injEq]
          cases hitems : Rule.ofItems items with
          | error e => simp [Except.map, ← ih, hitems]
          | ok rest => simp [Except.map, ← ih, hitems, eq_comm]

/-- No rule lacks its group if each has it in its pattern. -/
theorem missingGroup?_eq_none_iff :
    missingGroup? rules = none ↔ ∀ r ∈ rules, r.secretGroup ≤ r.pattern.groups := by
  simp [missingGroup?]

/-- **What loads is exactly what is good throughout**: each item becomes its rule, and each rule has
its group. -/
theorem load_eq_ok_iff :
    Rule.load items = .ok rules ↔
      List.Forall₂ (fun item r => Rule.ofJson item = .good r) items rules ∧
        ∀ r ∈ rules, r.secretGroup ≤ r.pattern.groups := by
  rw [← ofItems_eq_ok_iff, Rule.load]
  cases hitems : Rule.ofItems items with
  | error e => simp
  | ok read =>
      cases hfound : missingGroup? read with
      | none =>
          have hall := missingGroup?_eq_none_iff.mp hfound
          simp only [hfound, Except.ok.injEq]
          exact ⟨fun h => ⟨h, h ▸ hall⟩, And.left⟩
      | some e =>
          simp only [hfound, reduceCtorEq, Except.ok.injEq, false_iff]
          rintro ⟨rfl, hall⟩
          simp [missingGroup?_eq_none_iff.mpr hall] at hfound

/-- The rules of a text are those of the items of the list in it, whose secret groups exist. -/
theorem loadText_eq_ok_iff :
    Rule.loadText text = .ok rules ↔ ∃ items, Json.read text = .ok (.arr items) ∧
      List.Forall₂ (fun item r => Rule.ofJson item = .good r) items rules ∧
        ∀ r ∈ rules, r.secretGroup ≤ r.pattern.groups := by
  rw [Rule.loadText]
  cases hread : Json.read text with
  | error cause => simp
  | ok j =>
      cases j with
      | arr items => simp [load_eq_ok_iff]
      | _ => simp

/-- A rule of a file is made from a draft. -/
theorem exists_draft_of_ofJson {item : Json} {r : Rule} (h : Rule.ofJson item = .good r) :
    ∃ d : RuleDraft, d.rule? = some r := by
  rw [Rule.ofJson] at h
  cases hdraft : RuleDraft.ofJson item with
  | bad problems => simp [hdraft, Checked.andThen] at h
  | good d =>
      simp only [hdraft, Checked.andThen] at h
      cases hrule : d.rule? with
      | none => simp [hrule, Checked.fail] at h
      | some r' =>
          simp only [hrule, Checked.good.injEq] at h
          exact ⟨d, h ▸ hrule⟩

theorem exists_draft_of_items
    (h : List.Forall₂ (fun item r => Rule.ofJson item = .good r) items rules) :
    ∀ r ∈ rules, ∃ d : RuleDraft, d.rule? = some r := by
  induction h with
  | nil => simp
  | cons hitem _ ih => exact List.forall_mem_cons.mpr ⟨exists_draft_of_ofJson hitem, ih⟩

end Rule

namespace Registry

/-- What comes of a step is what follows it makes of its result. -/
theorem bind_eq_ok_iff {ε α β : Type} {x : Except ε α} {f : α → Except ε β} {b : β} :
    x.bind f = .ok b ↔ ∃ a, x = .ok a ∧ f a = .ok b := by
  cases x <;> simp [Except.bind]

/-- A registry is made of the rules it is given, and of no others. -/
theorem ofRules_eq_ok_iff {rules : List Rule} {g : Registry} :
    ofRules rules = .ok g ↔ g.rules = rules := by
  unfold ofRules
  by_cases hgroups : ∀ r ∈ rules, r.secretGroup ≤ r.pattern.groups
  swap
  · rw [dif_neg hgroups]
    simp only [reduceCtorEq, false_iff]
    exact fun h => hgroups (h ▸ g.groups)
  rw [dif_pos hgroups]
  by_cases hdistinct : (rules.map Rule.id).Nodup
  · rw [dif_pos hdistinct, Except.ok.injEq]
    exact ⟨fun h => h ▸ rfl, fun h => by cases g; cases h; rfl⟩
  · rw [dif_neg hdistinct]
    simp only [reduceCtorEq, false_iff]
    exact fun h => hdistinct (h ▸ g.distinct)

/-- A registry with the rules of its own has these first. -/
theorem build_eq_ok_iff {extra : List Rule} {g : Registry} :
    build true extra = .ok g ↔ g.rules = builtinRules ++ extra := by
  rw [build, if_pos rfl, ofRules_eq_ok_iff]

/-- Every rule of a registry is found by its id. -/
theorem get?_of_mem {g : Registry} {r : Rule} (h : r ∈ g.rules) : g.get? r.id = some r := by
  have hdistinct : g.rules.Pairwise fun s t => s.id ≠ t.id := List.pairwise_map.mp g.distinct
  obtain ⟨before, after, hrules⟩ := List.append_of_mem h
  rw [hrules, List.pairwise_append] at hdistinct
  obtain ⟨-, -, hbefore⟩ := hdistinct
  rw [get?, List.find?_eq_some_iff_append]
  refine ⟨decide_eq_true rfl, before, after, hrules, fun s hs => ?_⟩
  simpa using hbefore s hs r List.mem_cons_self

end Registry

/-! ## The built-in rules -/

namespace RuleDraft

/-- A rule for secrets leaves out example files and passes over lines that refer to the
environment. -/
theorem secret_of_rule? {d : RuleDraft} {r : Rule} (h : d.rule? = some r)
    (hsecret : r.isSecret = true) : exampleFiles <:+ r.exclude ∧ r.safeLines = secretSafeLines := by
  obtain ⟨p, -, rfl⟩ := Option.map_eq_some_iff.mp h
  have hcategory : d.category = .secret := of_decide_eq_true hsecret
  simp [hcategory]

end RuleDraft

/-! ## Running -/

namespace Engine

/-- An engine whose lines have at least one character comes to an end with every file, and the
places of its findings are counted from one. -/
theorem exists_outcome {e : Engine} (h : 1 ≤ e.maxLineLength) (file : SourceFile) (clock : Clock) :
    ∃ o, (e.analyze file clock).1 = some o ∧ ∀ f ∈ o.findings, 1 ≤ f.line ∧ 1 ≤ f.column := by
  obtain ⟨parts, -, hout⟩ := evaluateAll_contributes h file.path (split file.content) clock
    e.registry.rules ⟨clock, []⟩ (sound_nil e _) (List.Subset.refl _)
  refine ⟨_, hout, fun f hf => ?_⟩
  obtain ⟨r, -, hit, hhit, rfl⟩ := exists_hit_of_analyze hout hf
  exact ⟨one_le_number_of_mem_hits hhit, Nat.succ_le_succ (Nat.zero_le _)⟩

/-- A rule reports no group beyond that of its secret. -/
theorem reportedGroup_le (r : Rule) : reportedGroup r ≤ r.secretGroup := by
  unfold reportedGroup
  split
  · exact Nat.le_refl _
  · exact Nat.zero_le _

end Engine

/-- What an engine relies on in a registry. -/
structure Registry.Runs (g : Registry) : Prop where
  found : ∀ r ∈ g.rules, g.get? r.id = some r
  groups : ∀ r ∈ g.rules, r.secretGroup ≤ r.pattern.groups
  exempt : ∀ r ∈ g.rules, r.isSecret = true →
    RuleDraft.exampleFiles <:+ r.exclude ∧ r.safeLines = RuleDraft.secretSafeLines
  /-- The groups that are reported and masked are groups of every match, and a group that took part
  in the match spans a part of the line. -/
  spans : ∀ r ∈ g.rules, ∀ (line : List Char) (start stop : Nat),
    ∀ m ∈ r.pattern.findAll line start stop,
      Engine.reportedGroup r ≤ m.captures.size ∧ r.secretGroup ≤ m.captures.size ∧
        ∀ k a b, m.span? k = some (a, b) → a ≤ b ∧ b ≤ line.length
  /-- No file and no clock stops an engine with this registry. -/
  outcome : ∀ e : Engine, e.registry = g → 1 ≤ e.maxLineLength →
    ∀ (file : SourceFile) (clock : Clock), ∃ o, (e.analyze file clock).1 = some o ∧
      ∀ f ∈ o.findings, 1 ≤ f.line ∧ 1 ≤ f.column

/-- A registry of rules from drafts whose secret groups exist can be run. -/
theorem Registry.runs_of_drafts {g : Registry} (hdrafts : ∀ r ∈ g.rules, ∃ d : RuleDraft,
      d.rule? = some r) (hgroups : ∀ r ∈ g.rules, r.secretGroup ≤ r.pattern.groups) :
    g.Runs where
  found := fun _ => get?_of_mem
  groups := hgroups
  exempt := by
    intro r hr hsecret
    obtain ⟨d, hd⟩ := hdrafts r hr
    exact RuleDraft.secret_of_rule? hd hsecret
  spans := by
    intro r hr line start stop m hm
    have hwithin := r.pattern.findAll_within line start stop m hm
    have hsecret : r.secretGroup ≤ m.captures.size := by
      rw [hwithin.captures.size]
      exact hgroups r hr
    refine ⟨Nat.le_trans (Engine.reportedGroup_le r) hsecret, hsecret, fun k a b hspan => ?_⟩
    obtain ⟨hle, hstop⟩ := hwithin.span? hspan
    exact ⟨hle, by omega⟩
  outcome := fun _ _ hsize => Engine.exists_outcome hsize

/-- **Loading rules is all or nothing, and what is loaded can be run.** A text gives a registry
exactly if it holds a list, every item of which is a rule with a secret group that exists, and if
their ids are distinct and none of a built-in rule; the registry has the built-in rules and then
those of the items, in order. An engine with it finds every rule by its id and every group that it
reads in every match, and it has an outcome for every file. -/
theorem Registry.loading_runs (text : String) :
    (∀ g : Registry, (Rule.loadText text).bind (build true) = .ok g ↔
      ∃ items extra, Json.read text = .ok (.arr items) ∧
        List.Forall₂ (fun item r => Rule.ofJson item = .good r) items extra ∧
        (∀ r ∈ extra, r.secretGroup ≤ r.pattern.groups) ∧
        g.rules = builtinRules ++ extra) ∧
    ∀ g : Registry, (Rule.loadText text).bind (build true) = .ok g →
      (g.rules.map Rule.id).Nodup ∧ g.Runs := by
  have hload : ∀ g : Registry, (Rule.loadText text).bind (build true) = .ok g ↔
      ∃ items extra, Json.read text = .ok (.arr items) ∧
        List.Forall₂ (fun item r => Rule.ofJson item = .good r) items extra ∧
        (∀ r ∈ extra, r.secretGroup ≤ r.pattern.groups) ∧ g.rules = builtinRules ++ extra := by
    intro g
    simp only [bind_eq_ok_iff, Rule.loadText_eq_ok_iff, build_eq_ok_iff]
    constructor
    · rintro ⟨extra, ⟨items, hread, hitems, hgroups⟩, hrules⟩
      exact ⟨items, extra, hread, hitems, hgroups, hrules⟩
    · rintro ⟨items, extra, hread, hitems, hgroups, hrules⟩
      exact ⟨extra, ⟨items, hread, hitems, hgroups⟩, hrules⟩
  refine ⟨hload, fun g hg => ⟨g.distinct, ?_⟩⟩
  obtain ⟨items, extra, -, hitems, hgroups, hrules⟩ := (hload g).mp hg
  refine runs_of_drafts (fun r hr => ?_) fun r hr => ?_
  all_goals rw [hrules, List.mem_append] at hr
  · rcases hr with hr | hr
    · obtain ⟨d, -, hd⟩ := exists_draft_of_mem_builtinRules hr
      exact ⟨d, hd⟩
    · exact Rule.exists_draft_of_items hitems r hr
  · rcases hr with hr | hr
    · exact secretGroup_le_of_builtin hr
    · exact hgroups r hr

namespace Sample

/-! ### A rule with a group that may take no part -/

/-- Names that differ from each other and from some texts. -/
def DistinctFrom (seen : List (List Char)) (names : List String) : Prop :=
  names.Nodup ∧ ∀ cs ∈ seen, String.ofList cs ∉ names

theorem distinctFrom_nil (seen : List (List Char)) : DistinctFrom seen [] :=
  ⟨List.nodup_nil, by simp⟩

theorem distinctFrom_cons {seen : List (List Char)} {cs : List Char} {name : String}
    {names : List String} (hname : name = .ofList cs) (hcs : cs ∉ seen)
    (h : DistinctFrom (cs :: seen) names) : DistinctFrom seen (name :: names) := by
  obtain ⟨hnames, hseen⟩ := h
  obtain ⟨hfresh, hseen⟩ := List.forall_mem_cons.mp hseen
  subst hname
  refine ⟨List.nodup_cons.mpr ⟨hfresh, hnames⟩, fun ds hds hmem => ?_⟩
  rcases List.mem_cons.mp hmem with heq | hmem
  · exact hcs (String.ofList_injective heq ▸ hds)
  · exact hseen ds hds hmem

/-- The built-in rules have distinct names, and none of them is this one. -/
theorem distinctFrom_builtin :
    DistinctFrom [['o', 'w', 'n']] (builtinDrafts.map RuleDraft.id) := by
  unfold builtinDrafts Builtin.secretDrafts Builtin.callDrafts Builtin.cryptoDrafts
    Builtin.configurationDrafts
  simp only [List.cons_append, List.nil_append, List.map_cons, List.map_nil]
  repeat' first
    | exact distinctFrom_nil _
    | refine distinctFrom_cons rfl (by decide +kernel) ?_

/-- A rule may follow the built-in ones if its name is this one and its secret group exists. -/
theorem exists_build {r : Rule} (h : r.id = "own") (hgroup : r.secretGroup ≤ r.pattern.groups) :
    ∃ g, Registry.build true [r] = .ok g := by
  obtain ⟨hdistinct, hown⟩ := distinctFrom_builtin
  have hname : "own" = String.ofList ['o', 'w', 'n'] := rfl
  have hids : ((builtinRules ++ [r]).map Rule.id).Nodup := by
    rw [List.map_append, map_id_builtinRules, List.map_singleton, List.nodup_append]
    refine ⟨hdistinct, List.nodup_singleton _, fun id hid id' hid' heq => ?_⟩
    rw [List.mem_singleton.mp hid', h, hname] at heq
    exact hown _ List.mem_cons_self (heq ▸ hid)
  have hgroups : ∀ s ∈ builtinRules ++ [r], s.secretGroup ≤ s.pattern.groups :=
    List.forall_mem_append.mpr
      ⟨fun s hs => secretGroup_le_of_builtin hs, List.forall_mem_singleton.mpr hgroup⟩
  exact ⟨⟨_, hids, hgroups⟩, Registry.build_eq_ok_iff.mpr rfl⟩

/-- A text with one rule for secrets, whose secret need not take part in a match. -/
def ruleText : String :=
  "[\x7b\"id\":\"own\",\"category\":\"secret\",\"severity\":\"low\",\"title\":\"\"," ++
    "\"pattern\":\"k=(a)?b\",\"secretGroup\":1\x7d]"

theorem exists_rule_of_ids {ε : Type} {loaded : Except ε (List Rule)} {id : String}
    (h : loaded.toOption.map (·.map Rule.id) = some [id]) : ∃ r, loaded = .ok [r] ∧ r.id = id := by
  cases loaded with
  | error e => simp [Except.toOption] at h
  | ok rules => simpa [Except.toOption, List.map_eq_singleton_iff] using h

theorem loading_runs_ruleText : ∃ g, (Rule.loadText ruleText).bind (Registry.build true) = .ok g ∧
    (g.rules.map Rule.id).Nodup ∧ g.Runs := by
  have hids : (Rule.loadText ruleText).toOption.map (·.map Rule.id) = some ["own"] := by
    decide +kernel
  obtain ⟨r, hload, hid⟩ := exists_rule_of_ids hids
  obtain ⟨-, -, -, hgroups⟩ := Rule.loadText_eq_ok_iff.mp hload
  obtain ⟨g, hg⟩ := exists_build hid (hgroups r List.mem_cons_self)
  have hbuild := Registry.bind_eq_ok_iff.mpr ⟨_, hload, hg⟩
  exact ⟨g, hbuild, (Registry.loading_runs ruleText).2 g hbuild⟩

end Sample

end SourceAudit

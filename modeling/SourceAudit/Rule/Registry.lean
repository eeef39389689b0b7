import SourceAudit.Json.Reader
import SourceAudit.Rule.Builtin

/-!
# SourceAudit.Rule.Registry

Registries of rules, in which every id occurs once and every secret group is a group of its pattern,
and the loading of further rules from the text of a rules file. Loading is all or nothing: one bad
item refuses the whole text.
-/

namespace SourceAudit

/-- An ordered collection of rules with distinct ids. There is no match in which one could ask for a
group that the pattern does not have, so that each secret group is one of the pattern. -/
structure Registry where
  rules : List Rule
  distinct : (rules.map Rule.id).Nodup
  groups : ∀ r ∈ rules, r.secretGroup ≤ r.pattern.groups

/-- Why no registry could be built. -/
inductive LoadError
  /-- The text denotes no JSON value. -/
  | unreadable (cause : Json.ReadError)
  /-- The text is JSON, but no list. -/
  | notList
  /-- The first bad item has these problems. -/
  | badItem (problems : List Input.Problem)
  /-- The pattern of a rule has no such group. -/
  | noSuchGroup (id : String) (group : Nat)
  | duplicateId (id : String)
deriving DecidableEq, Repr

namespace LoadError

/-- The wording of an error about the rules of a file; other errors are described by their kind. -/
def message (file : String) : LoadError → String
  | unreadable _ => ""
  | notList => "Rules file " ++ file ++ " must contain a JSON list"
  | badItem _ => ""
  | noSuchGroup id group =>
    "Rule " ++ id ++ ": secret_group " ++ toString group ++ " exceeds pattern groups"
  | duplicateId id => "Duplicate rule id: " ++ id

end LoadError

/-- The rule written as an item of a rules file. -/
def Rule.ofJson (j : Json) : Input.Checked Rule :=
  (RuleDraft.ofJson j).andThen fun d =>
    match d.rule? with
    | some r => .good r
    | none => .fail .invalidPattern

/-- The rules of the items of a rules file, up to the first bad one. -/
def Rule.ofItems : List Json → Except LoadError (List Rule)
  | [] => .ok []
  | j :: js =>
    match Rule.ofJson j with
    | .bad problems => .error (.badItem problems)
    | .good r => (Rule.ofItems js).map (r :: ·)

/-- The first rule whose pattern does not have the secret group, as an error. -/
def Rule.missingGroup? (rules : List Rule) : Option LoadError :=
  (rules.find? fun r => r.pattern.groups < r.secretGroup).map fun r =>
    .noSuchGroup r.id r.secretGroup

/-- The rules of a list of items; each secret group must exist in its pattern. -/
def Rule.load (items : List Json) : Except LoadError (List Rule) :=
  match Rule.ofItems items with
  | .error e => .error e
  | .ok rules =>
    match Rule.missingGroup? rules with
    | some e => .error e
    | none => .ok rules

/-- The rules written in the text of a rules file. -/
def Rule.loadText (text : String) : Except LoadError (List Rule) :=
  match Json.read text with
  | .error cause => .error (.unreadable cause)
  | .ok (.arr items) => Rule.load items
  | .ok _ => .error .notList

namespace Registry

/-- The first id that occurs again in a list, when the ids in `seen` came before it. -/
def repeatedId? (seen : List String) : List String → Option String
  | [] => none
  | id :: ids => if seen.contains id then some id else repeatedId? (id :: seen) ids

/-- The registry of some rules, if their secret groups exist and their ids are distinct. Rules that
were loaded have secret groups that exist. -/
def ofRules (rules : List Rule) : Except LoadError Registry :=
  if hgroups : ∀ r ∈ rules, r.secretGroup ≤ r.pattern.groups then
    if hdistinct : (rules.map Rule.id).Nodup then .ok ⟨rules, hdistinct, hgroups⟩
    else .error (.duplicateId ((repeatedId? [] (rules.map Rule.id)).getD ""))
  else .error ((Rule.missingGroup? rules).getD (.duplicateId ""))

/-- The registry of the built-in rules, if they are wanted, and further ones. -/
def build (builtin : Bool) (extra : List Rule) : Except LoadError Registry :=
  ofRules ((if builtin then builtinRules else []) ++ extra)

/-- The rules for files at a path, in order. -/
def applicable (g : Registry) (path : String) : List Rule := g.rules.filter (·.applies path)

/-- The rules for secrets, in order. -/
def secretRules (g : Registry) : List Rule := g.rules.filter Rule.isSecret

/-- The rule with a given id. -/
def get? (g : Registry) (id : String) : Option Rule := g.rules.find? (·.id = id)

end Registry

end SourceAudit

import SourceAudit.Input.Checked
import SourceAudit.Pattern.Reader
import SourceAudit.Rule.Basic

/-!
# SourceAudit.Rule.Draft

Rules as they are written down: with the pattern as text, and without what every rule for secrets
has in common. `RuleDraft.rule?` makes the rule, and `RuleDraft.ofJson` reads a draft from an item
of a rules file, which may hold no other fields.
-/

namespace SourceAudit

/-- A rule as written. -/
structure RuleDraft where
  id : String
  category : Category
  severity : Severity
  title : String
  pattern : String
  appliesTo : List String := ["*"]
  exclude : List String := []
  description : String := ""
  recommendation : String := ""
  ignoreCase : Bool := false
  secretGroup : Nat := 0
deriving DecidableEq, Repr

namespace RuleDraft

open Input

/-- Names of example files, in which secrets are placeholders. -/
def exampleFiles : List String :=
  ["*.example", "*.example.*", "*.sample", "*.sample.*", "*.template"]

/-- The patterns of lines that refer to a secret in the environment. -/
def secretSafeLines : List Pattern :=
  [("process\\.env\\.", true),
    ("os\\.environ|os\\.getenv|getenv\\(", true),
    ("NEXT_PUBLIC_|VITE_PUBLIC_", false),
    ("\\$\\\x7b\\\x7b?\\s*(?:secrets\\.|env\\.)", false)].filterMap
      fun (source, ignoreCase) => Pattern.read? source ignoreCase

/-- The rule of a draft, if its pattern is valid. A rule for secrets leaves out example files and
passes over lines that refer to the environment. -/
def rule? (d : RuleDraft) : Option Rule :=
  (Pattern.read? d.pattern d.ignoreCase).map fun pattern =>
    let isSecret : Bool := d.category = .secret
    { id := d.id
      category := d.category
      severity := d.severity
      title := d.title
      pattern := pattern
      appliesTo := d.appliesTo
      exclude := if isSecret then d.exclude ++ exampleFiles else d.exclude
      description := d.description
      recommendation := d.recommendation
      secretGroup := d.secretGroup
      safeLines := if isSecret then secretSafeLines else [] }

/-- A pattern that is valid and repeats no unbounded repetition without bound. -/
def patternText (j : Json) : Checked String :=
  (text j).andThen fun source =>
    match Pattern.read source false with
    | .error .malformed => .fail .invalidPattern
    | .error (.refused reason) => .fail (.refusedPattern reason)
    | .ok _ => if Pattern.nestsRepetition source then .fail .nestedRepetition else .good source

namespace Fields

/-- The name of the rule. -/
def id : Slot String := .named "id" nonemptyText

/-- What the rule looks for. -/
def category : Slot Category := .named "category" (oneOf Category.ofName?)

/-- How serious its findings are. -/
def severity : Slot Severity := .named "severity" (oneOf Severity.ofName?)

/-- The title of its findings. -/
def title : Slot String := .named "title" text

/-- The pattern. -/
def pattern : Slot String := .named "pattern" patternText

/-- The globs of the paths to search. -/
def appliesTo : Slot (List String) := ⟨"appliesTo", "applies_to", list text⟩

/-- The globs of the paths to leave out. -/
def exclude : Slot (List String) := .named "exclude" (list text)

/-- The description of its findings. -/
def description : Slot String := .named "description" text

/-- The recommendation of its findings. -/
def recommendation : Slot String := .named "recommendation" text

/-- Is the pattern matched without regard to case? -/
def ignoreCase : Slot Bool := ⟨"ignoreCase", "ignore_case", bool⟩

/-- The group that holds the secret. -/
def secretGroup : Slot Nat := ⟨"secretGroup", "secret_group", nat⟩

end Fields

/-- The names under which an item of a rules file has its fields. -/
def usedNames (members : List (String × Json)) : List String :=
  [Fields.id.usedName members, Fields.category.usedName members, Fields.severity.usedName members,
    Fields.title.usedName members, Fields.pattern.usedName members,
    Fields.appliesTo.usedName members, Fields.exclude.usedName members,
    Fields.description.usedName members, Fields.recommendation.usedName members,
    Fields.ignoreCase.usedName members, Fields.secretGroup.usedName members]

/-- A problem for each member that is no field of a rule. -/
def unknownFields (members : List (String × Json)) : List Problem :=
  (members.filter fun m => !(usedNames members).contains m.1).map
    fun m => ⟨[.key m.1], .unknownField⟩

/-- The draft written as an item of a rules file. -/
def ofJson : Json → Checked RuleDraft
  | .obj members =>
    let draft : Checked RuleDraft :=
      (Fields.id.required members).map RuleDraft.mk
        |>.ap (Fields.category.required members)
        |>.ap (Fields.severity.required members)
        |>.ap (Fields.title.required members)
        |>.ap (Fields.pattern.required members)
        |>.ap (Fields.appliesTo.orElse ["*"] members)
        |>.ap (Fields.exclude.orElse [] members)
        |>.ap (Fields.description.orElse "" members)
        |>.ap (Fields.recommendation.orElse "" members)
        |>.ap (Fields.ignoreCase.orElse false members)
        |>.ap (Fields.secretGroup.orElse 0 members)
    match unknownFields members with
    | [] => draft
    | unknown => .bad (draft.problems ++ unknown)
  | _ => .fail .notObject

end RuleDraft

end SourceAudit

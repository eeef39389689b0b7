import SourceAudit.Finding
import SourceAudit.Input.Checked

/-!
# SourceAudit.Finding.Wire

Findings as JSON, written and read back.
-/

namespace SourceAudit.Finding

open Input

/-- A finding as JSON. -/
def json (f : Finding) : Json :=
  .obj [("ruleId", .str f.ruleId), ("path", .str f.path), ("line", .nat f.line),
    ("column", .nat f.column), ("redactedSnippet", .str f.snippet),
    ("severity", .str f.severity.name), ("category", .str f.category.name),
    ("title", .str f.title), ("description", .str f.description),
    ("recommendation", .str f.recommendation)]

/-- The finding that an object describes. Lines and columns count from 1. -/
def ofJson : Json → Checked Finding
  | .obj members =>
    ((⟨"ruleId", "rule_id", text⟩ : Slot String).required members).map Finding.mk
      |>.ap ((Slot.named "path" text).required members)
      |>.ap ((Slot.named "line" ordinal).required members)
      |>.ap ((Slot.named "column" ordinal).required members)
      |>.ap ((⟨"redactedSnippet", "redacted_snippet", text⟩ : Slot String).required members)
      |>.ap ((Slot.named "severity" (oneOf Severity.ofName?)).required members)
      |>.ap ((Slot.named "category" (oneOf Category.ofName?)).required members)
      |>.ap ((Slot.named "title" text).orElse "" members)
      |>.ap ((Slot.named "description" text).orElse "" members)
      |>.ap ((Slot.named "recommendation" text).orElse "" members)
  | _ => .fail .notObject

end SourceAudit.Finding

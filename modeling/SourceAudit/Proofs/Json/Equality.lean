import SourceAudit.Json.Value

/-!
# SourceAudit.Proofs.Json.Equality

Equality of JSON values can be decided, member by member in the order of an object.
-/

namespace SourceAudit.Json

mutual

/-- Are two values equal? -/
def same : Json → Json → Bool
  | .null, .null => true
  | .bool b, .bool c => b == c
  | .int m, .int n => m == n
  | .float x, .float y => x = y
  | .str s, .str t => s == t
  | .brokenStr codes, .brokenStr more => codes == more
  | .arr items, .arr others => sameItems items others
  | .obj members, .obj others => sameMembers members others
  | _, _ => false

/-- Are two lists of values equal? -/
def sameItems : List Json → List Json → Bool
  | [], [] => true
  | j :: js, k :: ks => same j k && sameItems js ks
  | _, _ => false

/-- Are two lists of members equal? -/
def sameMembers : List (String × Json) → List (String × Json) → Bool
  | [], [] => true
  | (key, j) :: js, (name, k) :: ks => key == name && same j k && sameMembers js ks
  | _, _ => false

end

mutual

/-- Values are the same exactly if they are equal, also within arrays and objects. -/
theorem same_iff : (j k : Json) → (same j k = true ↔ j = k)
  | .arr items, k => by cases k <;> simp [same, sameItems_iff items]
  | .obj members, k => by cases k <;> simp [same, sameMembers_iff members]
  | .null, k => by cases k <;> simp [same]
  | .bool b, k => by cases k <;> simp [same]
  | .int n, k => by cases k <;> simp [same]
  | .float x, k => by cases k <;> simp [same]
  | .str s, k => by cases k <;> simp [same]
  | .brokenStr codes, k => by cases k <;> simp [same]

theorem sameItems_iff : (js ks : List Json) → (sameItems js ks = true ↔ js = ks)
  | [], ks => by cases ks <;> simp [sameItems]
  | j :: js, ks => by cases ks <;> simp [sameItems, same_iff j, sameItems_iff js]

theorem sameMembers_iff :
    (js ks : List (String × Json)) → (sameMembers js ks = true ↔ js = ks)
  | [], ks => by cases ks <;> simp [sameMembers]
  | (key, j) :: js, ks => by
      cases ks <;> simp [sameMembers, same_iff j, sameMembers_iff js, Prod.ext_iff]

end

instance : DecidableEq Json := fun j k => decidable_of_iff _ (same_iff j k)

end SourceAudit.Json
